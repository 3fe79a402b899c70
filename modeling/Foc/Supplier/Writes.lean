import Foc.Supplier.Programs

/-!
Supplier writes over whole runs: a supplier moves one version at a time, by a call
that named the version it had; a call that fails leaves everything as it was; a
key makes one supplier.
-/
namespace Foc.Supplier
open Library Library.ReadCommitted Library.Transaction Library.Serial Library.Json

abbrev SupplierWorld (settings : Settings) :=
  World Row (Session Row Answer Refusal (Call settings.number) Result) (Log settings.number)

abbrev SupplierTx (settings : Settings) :=
  ReadCommitted.Tx Row (Session Row Answer Refusal (Call settings.number) Result)

abbrev SupplierEvent (settings : Settings) :=
  Event Key (Session Row Answer Refusal (Call settings.number) Result) (Sigma Answer) Empty

abbrev SupplierRun (settings : Settings) (start world : SupplierWorld settings) : Prop :=
  Run (supplierService settings).machine (fun _ _ => True) start world

/-- The suppliers and the keys stay as they were. -/
structure Untouched (before after : Store Row) : Prop where
  suppliers : ∀ id, after.lookup (.supplier id) = before.lookup (.supplier id)
  keys : ∀ name, after.lookup (.idempotency name) = before.lookup (.idempotency name)

/-- The version a call names. -/
def Call.expects {number : Rat → Value} : Call number → Option Int
  | .create .. => none
  | .update _ version _ _ => some version
  | .deactivate _ version _ => some version

section Writes

variable {settings : Settings} {committed : Store Row} {base world after : SupplierWorld settings}
  {event : SupplierEvent settings}

theorem supplier_hold (whole : Whole committed.lookup)
    (run : SupplierRun settings (idle committed []) world) :
    ((supplierService settings).assertions
      (serialProtocol (supplierService settings) (supplierContract settings committed.lookup))
      (serialPost (supplierContract settings committed.lookup))).Hold world :=
  serial_hold (supplier_sound settings committed.lookup)
    (show _ ∧ _ ∧ _ from ⟨rfl, whole, rfl⟩) run

theorem supplier_reached (whole : Whole committed.lookup)
    (run : SupplierRun settings (idle committed []) world) :
    Reached (supplierService settings) (supplierContract settings committed.lookup)
      (world.committed.lookup, world.env) :=
  (supplier_hold whole run).global

/-- What happens between two states of a run happens one call at a time. -/
theorem onward_turns (whole : Whole committed.lookup)
    (run : SupplierRun settings (idle committed []) base) (onward : SupplierRun settings base world) :
    Turns (supplierService settings) (supplierContract settings committed.lookup) (fun _ => False)
      (base.committed.lookup, base.env) (world.committed.lookup, world.env) :=
  run_change (supplier_sound settings committed.lookup) (supplier_hold whole run) onward

/-- A step ends at most one call, and only a call that ends well changes anything. -/
inductive Ended (origin : View Row) (world : SupplierWorld settings) :
    SupplierEvent settings → SupplierWorld settings → Prop where
  | other (event : SupplierEvent settings) (after : SupplierWorld settings)
      (same : after.committed = world.committed) (log : after.env = world.env) :
      Ended origin world event after
  | refused (id : Nat) (tx : SupplierTx settings)
      (refusal : Refusal) (after : SupplierWorld settings)
      (found : world.active.lookup id = some tx)
      (current : (supplierService settings).current tx.pc = .fail refusal)
      (may : MayRefuse settings world.committed.lookup tx.pc.call)
      (same : after.committed = world.committed)
      (log : after.env = (tx.pc.call, .error refusal) :: world.env) :
      Ended origin world (.abort id) after
  | finished (id : Nat) (tx : SupplierTx settings)
      (result : Result) (moves : List (Move Row)) (after : SupplierWorld settings)
      (found : world.active.lookup id = some tx)
      (current : (supplierService settings).current tx.pc = .done result)
      (fits : Fits world.committed.lookup moves)
      (does : Does settings world.committed.lookup tx.pc.call result moves)
      (known : ∀ row, result = .unchanged row → Known origin world.env tx.pc.call.target row)
      (wrote : after.committed.lookup = wrote world.committed.lookup moves)
      (log : after.env = (tx.pc.call, .ok result) :: world.env) :
      Ended origin world (.commit id) after

theorem step_ended (whole : Whole committed.lookup)
    (run : SupplierRun settings (idle committed []) world)
    (stepped : step (supplierService settings).machine world event = some after) :
    Ended committed.lookup world event after := by
  cases step_moves stepped with
  | begin => exact .other _ _ rfl rfl
  | run => exact .other _ _ rfl rfl
  | answer id value => exact value.1.elim
  | commit id tx found asked =>
      obtain ⟨result, current⟩ := commit_current asked
      obtain ⟨moves, own, fits, does, known⟩ := serial_commit (supplier_sound settings committed.lookup)
        (show _ ∧ _ ∧ _ from ⟨rfl, whole, rfl⟩) run found current
      refine .finished id tx result moves _ found current fits does known ?_ ?_
      · rw [own]
        exact seen world.committed moves
      · simp only [Service.machine, Service.settle, current]
        rfl
  | abort id tx found =>
      cases current : (supplierService settings).current tx.pc with
      | fail refusal =>
          refine .refused id tx refusal _ found current ?_ rfl ?_
          · exact serial_refusal (supplier_sound settings committed.lookup)
              (show _ ∧ _ ∧ _ from ⟨rfl, whole, rfl⟩) run found current
          · simp only [Service.machine, Service.giveUp, current]
            rfl
      | _ =>
          refine .other _ _ rfl ?_
          simp [Service.machine, Service.giveUp, current]
  | stimulus value => exact value.elim

/-- A step that logs a call is the end of that call. -/
theorem logged_ended (whole : Whole committed.lookup)
    (run : SupplierRun settings (idle committed []) world)
    (stepped : step (supplierService settings).machine world event = some after)
    {call : Call settings.number} {result : Result}
    (log : after.env = (call, .ok result) :: world.env) :
    ∃ id tx moves, event = .commit id ∧ world.active.lookup id = some tx ∧ tx.pc.call = call ∧
      (supplierService settings).current tx.pc = .done result ∧
      Fits world.committed.lookup moves ∧ Does settings world.committed.lookup call result moves ∧
      (∀ row, result = .unchanged row → Known committed.lookup world.env call.target row) ∧
      after.committed.lookup = wrote world.committed.lookup moves := by
  cases step_ended whole run stepped with
  | other event after same logs =>
      rw [logs] at log
      exact absurd log.symm (List.cons_ne_self _ _)
  | refused id tx refusal after found current may same logs =>
      rw [logs] at log
      simp at log
  | finished id tx result moves after found current fits does known wrote logs =>
      rw [logs] at log
      simp only [List.cons.injEq, Prod.mk.injEq, Except.ok.injEq, and_true] at log
      obtain ⟨rfl, rfl⟩ := log
      exact ⟨id, tx, moves, rfl, found, rfl, current, fits, does, known, wrote⟩

theorem logged_refused (whole : Whole committed.lookup)
    (run : SupplierRun settings (idle committed []) world)
    (stepped : step (supplierService settings).machine world event = some after)
    {call : Call settings.number} {refusal : Refusal}
    (log : after.env = (call, .error refusal) :: world.env) :
    ∃ id tx, event = .abort id ∧ world.active.lookup id = some tx ∧ tx.pc.call = call ∧
      (supplierService settings).current tx.pc = .fail refusal ∧
      MayRefuse settings world.committed.lookup call ∧ after.committed = world.committed := by
  cases step_ended whole run stepped with
  | other event after same logs =>
      rw [logs] at log
      exact absurd log.symm (List.cons_ne_self _ _)
  | refused id tx refusal after found current may same logs =>
      rw [logs] at log
      simp only [List.cons.injEq, Prod.mk.injEq, Except.error.injEq, and_true] at log
      obtain ⟨rfl, rfl⟩ := log
      exact ⟨id, tx, rfl, found, rfl, current, may, same⟩
  | finished id tx result moves after found current fits does known wrote logs =>
      rw [logs] at log
      simp at log

/-! ## Versions -/

theorem step_supplier (whole : Whole committed.lookup)
    (run : SupplierRun settings (idle committed []) world)
    (stepped : step (supplierService settings).machine world event = some after) (id : Uuid) :
    after.committed.lookup (.supplier id) = world.committed.lookup (.supplier id) ∨
      ∃ call result row, after.env = (call, .ok result) :: world.env ∧ call.target = id ∧
        result.wrote = some row ∧ after.committed.lookup (.supplier id) = some row ∧
        Wrote settings call (world.committed.lookup (.supplier id)) row := by
  cases step_ended whole run stepped with
  | other event after same log => exact .inl (by rw [same])
  | refused _ _ _ after _ _ _ same => exact .inl (by rw [same])
  | finished _ tx result moves after _ _ fits does _ leaves log =>
      have is := does_supplier does id
      rw [← leaves] at is
      cases writes : result.wrote with
      | none =>
          rw [writes] at is
          exact .inl is
      | some row =>
          rw [writes] at is
          by_cases same : id = tx.pc.call.target
          · subst same
            exact .inr ⟨_, result, row, log, rfl, writes, by simpa using is,
              does_wrote does fits writes⟩
          · exact .inl (by simpa [same] using is)

/-- A call that ends well without writing leaves everything as it was. -/
theorem quiet_untouched {call : Call settings.number} {result : Result} {moves : List (Move Row)}
    (does : Does settings world.committed.lookup call result moves) (quiet : result.wrote = none)
    (leaves : after.committed.lookup = wrote world.committed.lookup moves) :
    Untouched world.committed after.committed := by
  constructor
  · intro id
    have is := does_supplier does id
    rwa [quiet, ← leaves] at is
  · intro name
    have is := does_key does name
    have unclaimed : Does.claims call result = none := by
      cases result with
      | created => cases quiet
      | _ => cases call <;> rfl
    rwa [unclaimed, ← leaves] at is

/-- A call that names another version than the one stored, or a supplier that does
not exist, changes nothing. -/
theorem stale_untouched (whole : Whole committed.lookup)
    (run : SupplierRun settings (idle committed []) world)
    (stepped : step (supplierService settings).machine world event = some after)
    {call : Call settings.number} {ended : Except Refusal Result} {version : Int}
    (log : after.env = (call, ended) :: world.env) (expects : call.expects = some version)
    (stale : ∀ row, world.committed.lookup (.supplier call.target) = some row → row.version ≠ version) :
    Untouched world.committed after.committed := by
  cases ended with
  | error refusal =>
      obtain ⟨_, _, _, _, _, _, _, same⟩ := logged_refused whole run stepped log
      exact ⟨fun _ => by rw [same], fun _ => by rw [same]⟩
  | ok result =>
      obtain ⟨_, _, moves, _, _, _, _, fits, does, _, leaves⟩ := logged_ended whole run stepped log
      cases writes : result.wrote with
      | none => exact quiet_untouched does writes leaves
      | some row =>
          have written := does_wrote does fits writes
          generalize found : world.committed.lookup (.supplier call.target) = stored at written
          cases written with
          | inserted => cases expects
          | updated id changes now old =>
              cases expects
              exact absurd rfl (stale old found)
          | deactivated id now old =>
              cases expects
              exact absurd rfl (stale old found)

theorem refused_untouched (whole : Whole committed.lookup)
    (run : SupplierRun settings (idle committed []) world)
    (stepped : step (supplierService settings).machine world event = some after)
    {call : Call settings.number} {refusal : Refusal}
    (log : after.env = (call, .error refusal) :: world.env) :
    Untouched world.committed after.committed := by
  obtain ⟨_, _, _, _, _, _, _, same⟩ := logged_refused whole run stepped log
  exact ⟨fun _ => by rw [same], fun _ => by rw [same]⟩

/-! ## Calls begun later -/

/-- The supplier is past a version. -/
def Past (id : Uuid) (version : Int) (store : Store Row) (_ : Log settings.number) : Prop :=
  ∃ row, store.lookup (.supplier id) = some row ∧ version < row.version

theorem update_late {id : Uuid} {version : Int} {changes : Changes} {now : Millis}
    {store : Store Row} {env : Log settings.number} {call : Call settings.number} :
    ensures (watching (Past id version)) ((supplierService settings).reply call)
      (fun ended _ _ _ => ∀ result, ended ≠ .ok result) (update settings id version changes now)
      store env ∅ := by
  simp only [update, bind_eq, pure_eq]
  apply ensures_lock
  · intro first firstEnv _ _ second secondEnv _
    simp only [done_bind]
    cases (overlay second ∅).lookup (.supplier id) <;> (intro _ _ _ result is; cases is)
  · intro first firstEnv row rely found wanted
    obtain ⟨stored, present, past⟩ := rely.holds
    cases found.symm.trans present
    exact absurd (of_decide_eq_true wanted) past.ne'

theorem deactivate_late {id : Uuid} {version : Int} {now : Millis} {store : Store Row}
    {env : Log settings.number} {call : Call settings.number} :
    ensures (watching (Past id version)) ((supplierService settings).reply call)
      (fun ended _ _ _ => ∀ result, ended ≠ .ok result) (deactivate settings id version now)
      store env ∅ := by
  simp only [deactivate, bind_eq, pure_eq]
  apply ensures_lock
  · intro first firstEnv _ _ second secondEnv later
    obtain ⟨stored, present, past⟩ := later.holds
    have found : (overlay second ∅).lookup (.supplier id) = some stored := present
    have other : ¬ stored.version = version := past.ne'
    simp only [found, done_bind, other, decide_false, Bool.and_false]
    intro _ _ _ result is
    cases is
  · intro first firstEnv row rely found wanted
    obtain ⟨stored, present, past⟩ := rely.holds
    cases found.symm.trans present
    obtain ⟨same, _⟩ := (Bool.and_eq_true _ _).mp wanted
    exact absurd (of_decide_eq_true same) past.ne'

/-- A call begun when its supplier is past the version it names does not succeed. -/
theorem late_fails (whole : Whole committed.lookup)
    (run : SupplierRun settings (idle committed []) base) {id : Nat}
    (absent : base.active.lookup id = none) (onward : SupplierRun settings base world)
    {tx : SupplierTx settings} (found : world.active.lookup id = some tx) {version : Int}
    {row : SupplierRow} (expects : tx.pc.call.expects = some version)
    (stored : base.committed.lookup (.supplier tx.pc.call.target) = some row)
    (past : version < row.version) (result : Result) :
    (supplierService settings).current tx.pc ≠ .done result := by
  intro current
  generalize named : tx.pc.call.target = supplier at stored
  have stays : ∀ later, SupplierRun settings base later →
      Past supplier version later.committed later.env := by
    intro later between
    obtain ⟨next, present, advances⟩ := turns_row (onward_turns whole run between) stored
    exact ⟨next, present, past.trans_le advances.later⟩
  have standing : (supplierService settings).underway (watching (Past supplier version))
      (fun _ ended _ _ _ => ∀ result, ended ≠ .ok result) world.committed world.env tx := by
    apply (later_underway
      (fun call : Call settings.number => call.target = supplier ∧ call.expects = some version)
      (supplier_hold whole run).exclusive stays _ absent onward).2 tx found ⟨named, expects⟩
    rintro store env call _ ⟨target, names⟩
    cases call with
    | create => cases names
    | update id version' changes now =>
        cases names
        cases target
        exact update_late
    | deactivate id version' now =>
        cases names
        cases target
        exact deactivate_late
  exact underway_done (stays world onward) standing current result rfl

/-- A deactivation of a supplier that stays inactive at the version it names is not
refused. -/
theorem repeat_quiet {id : Uuid} {row : SupplierRow} (inactive : row.active = false) {now : Millis}
    {store : Store Row} {env : Log settings.number} {call : Call settings.number} :
    ensures (watching fun store (_ : Log settings.number) =>
        store.lookup (Key.supplier id) = some row)
      ((supplierService settings).reply call) (fun ended _ _ _ => ∀ refusal, ended ≠ .error refusal)
      (deactivate settings id row.version now) store env ∅ := by
  simp only [deactivate, bind_eq, pure_eq]
  apply ensures_lock
  · intro first firstEnv _ _ second secondEnv later
    have found : (overlay second ∅).lookup (.supplier id) = some row := later.holds
    simp only [found, done_bind, inactive, decide_true]
    intro _ _ _ refusal is
    cases is
  · intro first firstEnv stored rely found wanted
    cases found.symm.trans rely.holds
    obtain ⟨_, active⟩ := (Bool.and_eq_true _ _).mp wanted
    exact absurd (inactive.symm.trans active) Bool.false_ne_true

/-- Steps that leave a supplier as it is. -/
def Leaves (settings : Settings) (id : Uuid) (row : SupplierRow) (world : SupplierWorld settings)
    (event : SupplierEvent settings) : Prop :=
  ∀ after, step (supplierService settings).machine world event = some after →
    after.committed.lookup (.supplier id) = some row

theorem repeat_succeeds (whole : Whole committed.lookup)
    (run : SupplierRun settings (idle committed []) base) {session : Nat}
    (absent : base.active.lookup session = none) {id : Uuid} {row : SupplierRow}
    (stored : base.committed.lookup (.supplier id) = some row) (inactive : row.active = false)
    (onward : Run (supplierService settings).machine (Leaves settings id row) base world)
    {tx : SupplierTx settings} (found : world.active.lookup session = some tx) {now : Millis}
    (repeats : tx.pc.call = .deactivate id row.version now) (refusal : Refusal) :
    (supplierService settings).current tx.pc ≠ .fail refusal := by
  intro current
  have stays : ∀ later, Run (supplierService settings).machine (Leaves settings id row) base later →
      later.committed.lookup (.supplier id) = some row := by
    intro later between
    cases between with
    | refl => exact stored
    | next event earlier leaves stepped => exact leaves _ stepped
  have standing : (supplierService settings).underway
      (watching fun store (_ : Log settings.number) => store.lookup (Key.supplier id) = some row)
      (fun _ ended _ _ _ => ∀ refusal, ended ≠ .error refusal) world.committed world.env tx := by
    apply (later_underway (fun call => call = .deactivate id row.version now)
      (supplier_hold whole run).exclusive stays _ absent onward).2 tx found repeats
    rintro store env call _ rfl
    exact repeat_quiet inactive
  exact underway_thrown (stays world onward) standing current refusal rfl

/-! ## Keys -/

/-- A create under a key that is used ends without changing anything, and answers the
supplier of the key if it does not fail. -/
theorem used_untouched (whole : Whole committed.lookup)
    (run : SupplierRun settings (idle committed []) world)
    (stepped : step (supplierService settings).machine world event = some after)
    {body : Body settings.number} {key : Option String} {id : Uuid} {now : Millis}
    {ended : Except Refusal Result} {name : String} {existing : KeyRow}
    (log : after.env = (.create body key id now, ended) :: world.env) (keyed : keyOf key = some name)
    (used : world.committed.lookup (.idempotency name) = some existing) :
    Untouched world.committed after.committed ∧
      (existing.requestHash = requestHash settings body →
        ∃ row, ended = .ok (.replayed row) ∧ row.supplierId = existing.supplierId) := by
  cases ended with
  | error refusal =>
      refine ⟨refused_untouched whole run stepped log, fun same => ?_⟩
      obtain ⟨_, _, _, _, _, _, may, _⟩ := logged_refused whole run stepped log
      exact absurd same (may name existing keyed used)
  | ok result =>
      obtain ⟨_, _, moves, _, _, _, _, fits, does, _, leaves⟩ := logged_ended whole run stepped log
      cases does with
      | created _ _ _ _ unkeyed => cases unkeyed.symm.trans keyed
      | createdUnder _ _ _ _ claimed under unused =>
          cases under.symm.trans keyed
          cases unused.symm.trans used
      | replayed _ _ _ _ claimed under other here same row its =>
          cases under.symm.trans keyed
          cases here.symm.trans used
          refine ⟨quiet_untouched (.replayed body key id now name keyed existing used same row its)
            rfl leaves, fun _ => ⟨row, rfl, its⟩⟩

theorem same_hash {first second : Body settings.number} (same : Same first.json second.json) :
    requestHash settings first = requestHash settings second :=
  congrArg settings.sha256 (stringify_iff.mpr same)

/-! ## The service -/

/-- The supplier a call that names a version found, and what it did to it. -/
theorem versioned_ended (whole : Whole committed.lookup)
    (run : SupplierRun settings (idle committed []) world)
    (stepped : step (supplierService settings).machine world event = some after)
    {call : Call settings.number} {result : Result} {version : Int}
    (log : after.env = (call, .ok result) :: world.env) (expects : call.expects = some version) :
    (∃ old row, world.committed.lookup (.supplier call.target) = some old ∧ old.version = version ∧
        result.wrote = some row ∧ row.version = version + 1 ∧
        after.committed.lookup (.supplier call.target) = some row) ∨
      ∃ row, result = .unchanged row ∧ row.active = false ∧ row.version = version ∧
        Known committed.lookup world.env call.target row ∧
        Untouched world.committed after.committed := by
  obtain ⟨_, _, moves, _, _, _, _, fits, does, known, leaves⟩ := logged_ended whole run stepped log
  have leavesHere := does_supplier does call.target
  rw [← leaves] at leavesHere
  cases does with
  | created => cases expects
  | createdUnder => cases expects
  | replayed => cases expects
  | updated id changes now old index =>
      cases expects
      exact .inl ⟨old, changes.apply now old, fits.1, rfl, rfl, rfl, by simpa [Result.wrote] using leavesHere⟩
  | deactivated id now old active index =>
      cases expects
      exact .inl ⟨old, old.deactivated now, fits.1, rfl, rfl, rfl, by simpa [Result.wrote] using leavesHere⟩
  | unchanged id now row stored inactive present still later same =>
      cases expects
      exact .inr ⟨row, rfl, inactive, rfl, known row rfl,
        quiet_untouched (.unchanged id now row stored inactive present still later same) rfl leaves⟩

/-- Whatever calls run together, a call that names a version changes a supplier from
that version to the next or leaves everything as it was, and a key makes one supplier,
which every create under it answers. A deactivation that finds its supplier inactive
succeeds at the version stored, and changes nothing. -/
theorem writes_safe (whole : Whole committed.lookup)
    (run : SupplierRun settings (idle committed []) base) (onward : SupplierRun settings base world)
    (stepped : step (supplierService settings).machine world event = some after) :
    (∀ id old, world.committed.lookup (.supplier id) = some old →
      after.committed.lookup (.supplier id) = some old ∨
      ∃ call result row, after.env = (call, .ok result) :: world.env ∧ call.target = id ∧
        call.expects = some old.version ∧ row.version = old.version + 1 ∧
        after.committed.lookup (.supplier id) = some row) ∧
    (∀ call result version, after.env = (call, .ok result) :: world.env →
      call.expects = some version →
      (∃ old row, world.committed.lookup (.supplier call.target) = some old ∧
          old.version = version ∧ result.wrote = some row ∧ row.version = version + 1 ∧
          after.committed.lookup (.supplier call.target) = some row) ∨
        ∃ row, result = .unchanged row ∧ row.active = false ∧ row.version = version ∧
          Known committed.lookup world.env call.target row ∧
          Untouched world.committed after.committed) ∧
    (∀ call ended version, after.env = (call, ended) :: world.env → call.expects = some version →
      (∀ row, world.committed.lookup (.supplier call.target) = some row → row.version ≠ version) →
      Untouched world.committed after.committed) ∧
    (∀ call refusal, after.env = (call, .error refusal) :: world.env →
      Untouched world.committed after.committed) ∧
    (∀ session, base.active.lookup session = none → event = .commit session →
      ∀ call result version row, after.env = (call, .ok result) :: world.env →
        call.expects = some version →
        base.committed.lookup (.supplier call.target) = some row → row.version ≤ version) ∧
    (∀ session id row now refusal, base.active.lookup session = none → event = .abort session →
      base.committed.lookup (.supplier id) = some row → row.active = false →
      Run (supplierService settings).machine (Leaves settings id row) base world →
      after.env ≠ (.deactivate id row.version now, .error refusal) :: world.env) ∧
    (∀ name, after.env.countP (createdUnder name) ≤ 1) ∧
    (∀ body key id now result other otherKey otherId otherNow ended name,
      (.create body key id now, .ok result) ∈ world.env → keyOf key = some name →
      after.env = (.create other otherKey otherId otherNow, ended) :: world.env →
      keyOf otherKey = some name →
      Untouched world.committed after.committed ∧
        (Same body.json other.json →
          ∃ row, ended = .ok (.replayed row) ∧ row.supplierId = result.row.supplierId)) := by
  have reaches := run_append run onward
  refine ⟨?_, ?_, ?_, ?_, ?_, ?_, ?_, ?_⟩
  · intro id old stored
    rcases step_supplier whole reaches stepped id with same | ⟨call, result, row, log, target, _, here, wrote⟩
    · exact .inl (same.trans stored)
    · rw [stored] at wrote
      refine .inr ⟨call, result, row, log, target, ?_, ?_, here⟩
      · cases wrote <;> rfl
      · cases wrote <;> rfl
  · intro call result version log expects
    exact versioned_ended whole reaches stepped log expects
  · intro call ended version log expects stale
    exact stale_untouched whole reaches stepped log expects stale
  · intro call refusal log
    exact refused_untouched whole reaches stepped log
  · intro session absent commits call result version row log expects stored
    obtain ⟨id, tx, _, is, found, rfl, current, _⟩ := logged_ended whole reaches stepped log
    cases commits.symm.trans is
    by_contra past
    exact late_fails whole run absent onward found expects stored (not_le.mp past) result current
  · intro session id row now refusal absent aborts stored inactive quiet log
    obtain ⟨other, tx, is, found, call, current, _⟩ := logged_refused whole reaches stepped log
    cases aborts.symm.trans is
    exact repeat_succeeds whole run absent stored inactive quiet found call refusal current
  · intro name
    have reached := supplier_reached whole (reaches.next event trivial stepped)
    exact (reached_answered reached).once name
  · intro body key id now result other otherKey otherId otherNow ended name logged keyed log again
    obtain ⟨existing, used, its, hashed⟩ := (reached_answered (supplier_reached whole reaches)).held
      body key id now result name logged keyed
    obtain ⟨untouched, answers⟩ := used_untouched whole reaches stepped log again used
    refine ⟨untouched, fun same => ?_⟩
    obtain ⟨row, ends, named⟩ := answers (hashed.trans (same_hash same))
    exact ⟨row, ends, named.trans its.symm⟩

end Writes

/-! ## A supplier changed after it was deactivated -/

def plainSettings : Settings :=
  { lower := id, hashtext := fun _ => 0, sha256 := id, number := fun _ => .null }

def canteen : SupplierInput :=
  { name := "Canteen", type := .food, building := "COM1", floor := "1",
    locationDescription := "By the stairs", openingHours := none, latitude := none,
    longitude := none, imageUrl := none, tags := none }

def canteenBody : Body plainSettings.number :=
  { json := canteen.json plainSettings.number, input := canteen, same := .refl _ }

def moved : Changes :=
  { name := none, type := none, building := none, floor := some "2", locationDescription := none,
    openingHours := none, latitude := none, longitude := none, imageUrl := none, tags := none }

def calling (call : Call plainSettings.number) :
    Session Row Answer Refusal (Call plainSettings.number) Result :=
  { call, program := none }

/-- Locking one row: the statement begins, takes the row and ends. -/
def locking (id : Nat) (key : Key) : List (SupplierEvent plainSettings) :=
  [.run id none, .run id (some key), .run id none]

/-- A supplier is created, deactivated and updated. -/
def changing : List (SupplierEvent plainSettings) :=
  [.begin 1 (calling (.create canteenBody none 1 0)), .run 1 none, .run 1 none, .commit 1] ++
  [.begin 2 (calling (.deactivate 1 1 10))] ++ locking 2 (.supplier 1) ++
    locking 2 (.named "Canteen" "COM1") ++ [.commit 2] ++
  [.begin 3 (calling (.update 1 2 moved 20))] ++ locking 3 (.supplier 1) ++ [.commit 3]

/-- It is deactivated again, at the version the update left. -/
def again : List (SupplierEvent plainSettings) :=
  [.begin 4 (calling (.deactivate 1 3 30)), .run 4 none, .run 4 none, .run 4 none]

def canteenRow : SupplierRow := newSupplier 1 canteen 0

/-- The deactivation that found the supplier inactive is about to end. -/
def repeating : Option (SupplierWorld plainSettings) :=
  steps (supplierService plainSettings).machine (fun _ _ => True) (idle ∅ []) (changing ++ again)

/-- What a log says of the calls that name versions: the version, and the row answered. -/
def told (entry : Call plainSettings.number × Except Refusal Result) : Option Int × Option Result :=
  (entry.1.expects, entry.2.toOption)

def deactivatedRow : SupplierRow := canteenRow.deactivated 10

def movedRow : SupplierRow := moved.apply 20 deactivatedRow

theorem repeats_again : (repeating.bind fun world =>
    (step (supplierService plainSettings).machine world (.commit 4)).map fun after =>
      (world.env.map told, after.env.map told)) =
    some ([(some 2, some (.updated movedRow)), (some 1, some (.deactivated deactivatedRow)),
        (none, some (.created canteenRow))],
      [(some 3, some (.unchanged movedRow)), (some 2, some (.updated movedRow)),
        (some 1, some (.deactivated deactivatedRow)), (none, some (.created canteenRow))]) := by
  decide +kernel

theorem whole_empty : Whole (∅ : Store Row).lookup := by
  constructor
  · intro id row present
    cases present
  · intro lock
    rfl
  · intro key existing used
    cases used

/-- The state before the repeated deactivation ends, and the end of it. -/
theorem repeats_reached : ∃ (world after : SupplierWorld plainSettings)
    (call : Call plainSettings.number), SupplierRun plainSettings (idle ∅ []) world ∧
    step (supplierService plainSettings).machine world (.commit 4) = some after ∧
    after.env = (call, .ok (.unchanged movedRow)) :: world.env ∧ call.expects = some 3 ∧
    world.env.map told = [(some 2, some (.updated movedRow)),
      (some 1, some (.deactivated deactivatedRow)), (none, some (.created canteenRow))] := by
  obtain ⟨world, reached, rest⟩ := Option.bind_eq_some_iff.mp repeats_again
  obtain ⟨after, commits, seen⟩ := Option.map_eq_some_iff.mp rest
  obtain ⟨before, ended⟩ := Prod.mk.injEq .. ▸ seen
  have run : SupplierRun plainSettings (idle ∅ []) world := run_steps .refl _ reached
  have ends := step_ended whole_empty run commits
  generalize is : (Event.commit 4 : SupplierEvent plainSettings) = event at ends
  cases ends with
  | other event after same log =>
      rw [log, before] at ended
      cases ended
  | refused id tx refusal after found current may same log =>
      cases is
  | finished id tx result moves after found current fits does known wrote log =>
      cases is
      rw [log, List.map_cons] at ended
      have head : told (tx.pc.call, .ok result) = (some 3, some (.unchanged movedRow)) :=
        (List.cons.inj ended).1
      obtain ⟨expects, answers⟩ := Prod.mk.inj head
      cases Option.some.inj answers
      exact ⟨world, after, tx.pc.call, run, commits, log, expects, before⟩

/-- A deactivation succeeds without change at a version no deactivation produced. -/
theorem repeated_after_update : ¬ ∀ (world after : SupplierWorld plainSettings)
    (event : SupplierEvent plainSettings) (call : Call plainSettings.number) (row : SupplierRow),
    SupplierRun plainSettings (idle ∅ []) world →
    step (supplierService plainSettings).machine world event = some after →
    after.env = (call, .ok (.unchanged row)) :: world.env →
    ∃ first produced, (first, .ok (.deactivated produced)) ∈ world.env ∧
      row.version = produced.version := by
  intro claimed
  obtain ⟨world, after, call, run, commits, log, _, before⟩ := repeats_reached
  obtain ⟨first, produced, member, same⟩ := claimed world after _ call movedRow run commits log
  have present : told (first, .ok (.deactivated produced)) ∈ world.env.map told :=
    List.mem_map_of_mem member
  rw [before] at present
  have is : first.expects = some 1 ∧ produced = deactivatedRow := by
    simpa [told, Except.toOption] using present
  rw [is.2] at same
  revert same
  decide

/-- The deactivation that found the supplier updated since was let through at the
version of the update, and changed nothing. -/
theorem repeated_deactivation_quiet : ∃ (world after : SupplierWorld plainSettings)
    (call : Call plainSettings.number),
    step (supplierService plainSettings).machine world (.commit 4) = some after ∧
    after.env = (call, .ok (.unchanged movedRow)) :: world.env ∧
    Untouched world.committed after.committed := by
  obtain ⟨world, after, call, run, commits, log, expects, _⟩ := repeats_reached
  obtain ⟨_, versioned, _⟩ := writes_safe whole_empty .refl run commits
  rcases versioned call _ 3 log expects with ⟨_, _, _, _, writes, _⟩ | ⟨_, _, _, _, _, untouched⟩
  · cases writes
  · exact ⟨world, after, call, commits, log, untouched⟩

end Foc.Supplier
