import Foc.Supplier.Service

/-! What each call does when it commits, as moves over the rows it finds, and that
every program ends so whatever other calls commit between its statements. -/
namespace Foc.Supplier
open Library.ReadCommitted Library.Transaction Library.Serial

/-! ## What a call does -/

def keyOf (idempotencyKey : Option String) : Option String := idempotencyKey.filter (· ≠ "")

def lockMoves (lock : Int) : List (Move Row) :=
  [⟨.advisory lock, none, some ()⟩, ⟨.advisory lock, some (), none⟩]

def insertMoves (settings : Settings) (row : SupplierRow) : List (Move Row) :=
  [⟨.supplier row.supplierId, none, some row⟩,
   ⟨.named (settings.lower row.name) (settings.lower row.building), none, some row.supplierId⟩]

/-- Moves of index entries alone. -/
def OnlyIndex (moves : List (Move Row)) : Prop :=
  ∀ move ∈ moves, ∃ name building, move.key = .named name building

inductive Does (settings : Settings) (view : View Row) :
    Call settings.number → Result → List (Move Row) → Prop where
  | created (body : Body settings.number) (key : Option String) (id : Uuid) (now : Millis)
      (unkeyed : keyOf key = none) :
      Does settings view (.create body key id now) (.created (newSupplier id body.input now))
        (insertMoves settings (newSupplier id body.input now))
  | createdUnder (body : Body settings.number) (key : Option String) (id : Uuid) (now : Millis)
      (name : String) (keyed : keyOf key = some name) (unused : view (.idempotency name) = none) :
      Does settings view (.create body key id now) (.created (newSupplier id body.input now))
        (lockMoves (settings.hashtext name) ++ insertMoves settings (newSupplier id body.input now) ++
          [⟨.idempotency name, none, some ⟨id, requestHash settings body⟩⟩])
  | replayed (body : Body settings.number) (key : Option String) (id : Uuid) (now : Millis)
      (name : String) (keyed : keyOf key = some name) (existing : KeyRow)
      (used : view (.idempotency name) = some existing)
      (same : existing.requestHash = requestHash settings body) (row : SupplierRow)
      (its : row.supplierId = existing.supplierId) :
      Does settings view (.create body key id now) (.replayed row)
        (lockMoves (settings.hashtext name))
  | updated (id : Uuid) (changes : Changes) (now : Millis) (old : SupplierRow)
      (index : List (Move Row)) (entries : OnlyIndex index) :
      Does settings view (.update id old.version changes now) (.updated (changes.apply now old))
        (⟨.supplier id, some old, some (changes.apply now old)⟩ :: index)
  | deactivated (id : Uuid) (now : Millis) (old : SupplierRow) (active : old.active = true)
      (index : List (Move Row)) (entries : OnlyIndex index) :
      Does settings view (.deactivate id old.version now) (.deactivated (old.deactivated now))
        (⟨.supplier id, some old, some (old.deactivated now)⟩ :: index)
  | unchanged (id : Uuid) (now : Millis) (row stored : SupplierRow) (inactive : row.active = false)
      (present : view (.supplier id) = some stored) (still : stored.active = false)
      (later : row.version ≤ stored.version) (same : stored.version = row.version → stored = row) :
      Does settings view (.deactivate id row.version now) (.unchanged row) []

/-- When a call may be refused: a create under a used key for another body alone. -/
def MayRefuse (settings : Settings) (view : View Row) : Call settings.number → Prop
  | .create body key _ _ => ∀ name existing, keyOf key = some name →
      view (.idempotency name) = some existing → existing.requestHash ≠ requestHash settings body
  | _ => True

structure Whole (view : View Row) : Prop where
  named : ∀ id row, view (.supplier id) = some row → row.supplierId = id
  free : ∀ lock, view (.advisory lock) = none
  kept : ∀ key existing, view (.idempotency key) = some existing →
    ∃ row, view (.supplier existing.supplierId) = some row

def Call.target {number : Rat → Library.Json.Value} : Call number → Uuid
  | .create _ _ id _ => id
  | .update id _ _ _ => id
  | .deactivate id _ _ => id

/-- The row a call left, where it wrote one. -/
def Result.wrote : Result → Option SupplierRow
  | .created row | .updated row | .deactivated row => some row
  | .replayed _ | .unchanged _ => none

/-- A row that was stored: at first, or by a call that ended. -/
def Known {number : Rat → Library.Json.Value} (origin : View Row) (log : Log number) (id : Uuid)
    (row : SupplierRow) : Prop :=
  origin (.supplier id) = some row ∨
    ∃ call result, (call, .ok result) ∈ log ∧ call.target = id ∧ result.wrote = some row

/-- From the rows at first on: a call that changes nothing answers a row that was
stored. -/
def supplierContract (settings : Settings) (origin : View Row) :
    Contract Row Empty Refusal (Call settings.number) Result (Log settings.number) where
  initial := fun view log => view = origin ∧ Whole view ∧ log = []
  asks := fun _ ask _ _ => ask.elim
  outcome := fun call ended view log moves =>
    match ended with
    | .ok result => Does settings view call result moves ∧
        ∀ row, result = .unchanged row → Known origin log call.target row
    | .error _ => MayRefuse settings view call

/-! ## What it leaves -/

section Effects

variable {settings : Settings} {view : View Row} {call : Call settings.number} {result : Result}
  {moves : List (Move Row)}

theorem index_other {key : Key} {index : List (Move Row)} (entries : OnlyIndex index)
    (other : ∀ name building, key ≠ .named name building) : wrote view index key = view key := by
  apply wrote_other
  intro touches
  obtain ⟨move, member, is⟩ := List.mem_map.mp touches
  obtain ⟨name, building, entry⟩ := entries move member
  exact other name building (is.symm.trans entry)

@[simp] theorem new_supplier_id (id : Uuid) (input : SupplierInput) (now : Millis) :
    (newSupplier id input now).supplierId = id := rfl

theorem does_supplier (does : Does settings view call result moves) (id : Uuid) :
    wrote view moves (.supplier id) = match result.wrote with
      | some row => if id = call.target then some row else view (.supplier id)
      | none => view (.supplier id) := by
  cases does with
  | created body key own now =>
      by_cases same : id = own
      · subst same
        simp [wrote, insertMoves, Result.wrote, Call.target]
      · simp [wrote, insertMoves, Result.wrote, Call.target, same]
  | createdUnder body key own now =>
      by_cases same : id = own
      · subst same
        simp [wrote, lockMoves, insertMoves, Result.wrote, Call.target]
      · simp [wrote, lockMoves, insertMoves, Result.wrote, Call.target, same]
  | replayed => simp [wrote, lockMoves, Result.wrote]
  | updated own changes now old index entries =>
      have is : wrote view (⟨.supplier own, some old, some (changes.apply now old)⟩ :: index) =
          wrote (Function.update view (.supplier own) (some (changes.apply now old))) index := rfl
      rw [is, index_other entries (by simp)]
      by_cases same : id = own
      · subst same
        simp [Result.wrote, Call.target]
      · simp [Result.wrote, Call.target, same]
  | deactivated own now old active index entries =>
      have is : wrote view (⟨.supplier own, some old, some (old.deactivated now)⟩ :: index) =
          wrote (Function.update view (.supplier own) (some (old.deactivated now))) index := rfl
      rw [is, index_other entries (by simp)]
      by_cases same : id = own
      · subst same
        simp [Result.wrote, Call.target]
      · simp [Result.wrote, Call.target, same]
  | unchanged => rfl

/-- The key a call claimed, and what it remembers of it. -/
def Does.claims (call : Call settings.number) (result : Result) : Option (String × KeyRow) :=
  match call, result with
  | .create body key id _, .created _ => (keyOf key).map fun name => (name, ⟨id, requestHash settings body⟩)
  | _, _ => none

theorem does_key (does : Does settings view call result moves) (name : String) :
    wrote view moves (.idempotency name) = match Does.claims call result with
      | some (claimed, row) => if name = claimed then some row else view (.idempotency name)
      | none => view (.idempotency name) := by
  cases does with
  | created body key own now unkeyed => simp [wrote, insertMoves, Does.claims, unkeyed]
  | createdUnder body key own now claimed keyed =>
      by_cases same : name = claimed
      · subst same
        simp [wrote, Does.claims, keyed]
      · simp [wrote, lockMoves, insertMoves, Does.claims, keyed, same]
  | replayed => simp [wrote, lockMoves, Does.claims]
  | updated own changes now old index entries =>
      have is : wrote view (⟨.supplier own, some old, some (changes.apply now old)⟩ :: index) =
          wrote (Function.update view (.supplier own) (some (changes.apply now old))) index := rfl
      rw [is, index_other entries (by simp)]
      simp [Does.claims]
  | deactivated own now old active index entries =>
      have is : wrote view (⟨.supplier own, some old, some (old.deactivated now)⟩ :: index) =
          wrote (Function.update view (.supplier own) (some (old.deactivated now))) index := rfl
      rw [is, index_other entries (by simp)]
      simp [Does.claims]
  | unchanged => rfl

theorem does_advisory (does : Does settings view call result moves)
    (free : ∀ lock, view (.advisory lock) = none) (lock : Int) :
    wrote view moves (.advisory lock) = none := by
  cases does with
  | created => simp [wrote, insertMoves, free]
  | createdUnder body key own now claimed =>
      by_cases same : lock = settings.hashtext claimed
      · subst same
        simp [wrote, lockMoves, insertMoves]
      · simp [wrote, lockMoves, insertMoves, same, free]
  | replayed body key own now claimed =>
      by_cases same : lock = settings.hashtext claimed
      · subst same
        simp [wrote, lockMoves]
      · simp [wrote, lockMoves, same, free]
  | updated own changes now old index entries =>
      have is : wrote view (⟨.supplier own, some old, some (changes.apply now old)⟩ :: index) =
          wrote (Function.update view (.supplier own) (some (changes.apply now old))) index := rfl
      rw [is, index_other entries (by simp)]
      simp [free]
  | deactivated own now old active index entries =>
      have is : wrote view (⟨.supplier own, some old, some (old.deactivated now)⟩ :: index) =
          wrote (Function.update view (.supplier own) (some (old.deactivated now))) index := rfl
      rw [is, index_other entries (by simp)]
      simp [free]
  | unchanged => exact free lock

/-- A write of a supplier: a new one, or the next version of the one found, which
was the version the call named. -/
inductive Wrote (settings : Settings) :
    Call settings.number → Option SupplierRow → SupplierRow → Prop where
  | inserted (body : Body settings.number) (key : Option String) (id : Uuid) (now : Millis) :
      Wrote settings (.create body key id now) none (newSupplier id body.input now)
  | updated (id : Uuid) (changes : Changes) (now : Millis) (old : SupplierRow) :
      Wrote settings (.update id old.version changes now) (some old) (changes.apply now old)
  | deactivated (id : Uuid) (now : Millis) (old : SupplierRow) (active : old.active = true) :
      Wrote settings (.deactivate id old.version now) (some old) (old.deactivated now)

theorem does_wrote (does : Does settings view call result moves) (fits : Fits view moves)
    {row : SupplierRow} (writes : result.wrote = some row) :
    Wrote settings call (view (.supplier call.target)) row := by
  cases does with
  | created body key own now =>
      cases writes
      have absent : view (.supplier own) = none := fits.1
      rw [Call.target, absent]
      exact .inserted body key own now
  | createdUnder body key own now =>
      cases writes
      have absent : view (.supplier own) = none := by
        simpa [lockMoves] using fits.2.2.1
      rw [Call.target, absent]
      exact .inserted body key own now
  | replayed => cases writes
  | updated own changes now old =>
      cases writes
      have found : view (.supplier own) = some old := fits.1
      rw [Call.target, found]
      exact .updated own changes now old
  | deactivated own now old active =>
      cases writes
      have found : view (.supplier own) = some old := fits.1
      rw [Call.target, found]
      exact .deactivated own now old active
  | unchanged => cases writes

theorem wrote_named {found : Option SupplierRow} {row : SupplierRow}
    (written : Wrote settings call found row)
    (named : ∀ old, found = some old → old.supplierId = call.target) :
    row.supplierId = call.target := by
  cases written with
  | inserted => rfl
  | updated own changes now old => exact named old rfl
  | deactivated own now old => exact named old rfl

/-- A key is claimed where it was unused, under its lock, by a call that inserts
the supplier it names. -/
theorem does_claims (does : Does settings view call result moves) {name : String} {row : KeyRow}
    (claims : Does.claims call result = some (name, row)) :
    view (.idempotency name) = none ∧ touched moves (.advisory (settings.hashtext name)) ∧
      row.supplierId = call.target ∧ ∃ written, result.wrote = some written := by
  cases does with
  | created body key own now unkeyed => simp [Does.claims, unkeyed] at claims
  | createdUnder body key own now claimed keyed unused =>
      simp only [Does.claims, keyed, Option.map_some, Option.some.injEq, Prod.mk.injEq] at claims
      obtain ⟨rfl, rfl⟩ := claims
      exact ⟨unused, by simp [lockMoves], rfl, _, rfl⟩
  | _ => cases claims

end Effects

/-! ## What turns leave -/

/-- A supplier as it may stand later. -/
structure Advances (before after : SupplierRow) : Prop where
  later : before.version ≤ after.version
  same : after.version = before.version → after = before
  inactive : before.active = false → after.active = false

theorem advances_refl (row : SupplierRow) : Advances row row := ⟨le_refl _, fun _ => rfl, id⟩

theorem advances_trans {first second third : SupplierRow} (earlier : Advances first second)
    (later : Advances second third) : Advances first third := by
  refine ⟨earlier.later.trans later.later, fun same => ?_, later.inactive ∘ earlier.inactive⟩
  have none : third.version = second.version :=
    le_antisymm (same.le.trans earlier.later) later.later
  have stayed := later.same none
  rw [stayed] at same ⊢
  exact earlier.same same

theorem wrote_advances {settings : Settings} {call : Call settings.number} {old row : SupplierRow}
    (written : Wrote settings call (some old) row) : Advances old row := by
  cases written with
  | updated own changes now =>
      refine ⟨?_, fun same => ?_, id⟩
      · simp [Changes.apply]
      · simp [Changes.apply] at same
  | deactivated own now =>
      refine ⟨?_, fun same => ?_, fun _ => rfl⟩
      · simp [SupplierRow.deactivated]
      · simp [SupplierRow.deactivated] at same

section Turns

variable {settings : Settings} {origin : View Row} {kept : Key → Prop}
  {before after : View Row × Log settings.number}

theorem turn_supplier
    (turn : Turn (supplierService settings) (supplierContract settings origin) kept before after)
    (id : Uuid) :
    after.1 (.supplier id) = before.1 (.supplier id) ∨
      ∃ call result row, after.2 = (call, .ok result) :: before.2 ∧ call.target = id ∧
        result.wrote = some row ∧ after.1 (.supplier id) = some row ∧
        Wrote settings call (before.1 (.supplier id)) row := by
  cases turn with
  | commit call result moves view env fits ended apart =>
      have does := ended.1
      have is := does_supplier does id
      cases writes : result.wrote with
      | none =>
          rw [writes] at is
          exact .inl is
      | some row =>
          rw [writes] at is
          by_cases same : id = call.target
          · subst same
            exact .inr ⟨call, result, row, rfl, rfl, writes, by simpa using is,
              does_wrote does fits writes⟩
          · exact .inl (by simpa [same] using is)
  | refuse => exact .inl rfl
  | answer call ask => exact ask.elim
  | stimulus value => exact value.elim

theorem turn_key
    (turn : Turn (supplierService settings) (supplierContract settings origin) kept before after)
    (name : String) :
    after.1 (.idempotency name) = before.1 (.idempotency name) ∨
      (before.1 (.idempotency name) = none ∧ ¬ kept (.advisory (settings.hashtext name)) ∧
        ∃ row written, after.1 (.idempotency name) = some row ∧
          after.1 (.supplier row.supplierId) = some written) := by
  cases turn with
  | commit call result moves view env fits ended apart =>
      have does := ended.1
      have is := does_key does name
      cases claims : Does.claims call result with
      | none =>
          rw [claims] at is
          exact .inl is
      | some claim =>
          obtain ⟨claimed, row⟩ := claim
          rw [claims] at is
          by_cases same : name = claimed
          · subst same
            obtain ⟨unused, locks, its, written, writes⟩ := does_claims does claims
            refine .inr ⟨unused, apart _ locks, row, written, by simpa using is, ?_⟩
            have wrote := does_supplier does row.supplierId
            rw [writes] at wrote
            simpa [its] using wrote
          · exact .inl (by simpa [same] using is)
  | refuse => exact .inl rfl
  | answer call ask => exact ask.elim
  | stimulus value => exact value.elim

theorem turn_whole
    (turn : Turn (supplierService settings) (supplierContract settings origin) kept before after)
    (whole : Whole before.1) : Whole after.1 := by
  refine ⟨fun id row present => ?_, fun lock => ?_, fun key existing used => ?_⟩
  · rcases turn_supplier turn id with same | ⟨call, _, written, _, rfl, _, here, wrote⟩
    · exact whole.named id row (same ▸ present)
    · cases here.symm.trans present
      exact wrote_named wrote fun old found => whole.named _ old found
  · cases turn with
    | commit call result moves view env fits ended apart =>
        exact does_advisory ended.1 whole.free lock
    | refuse => exact whole.free lock
    | answer call ask => exact ask.elim
    | stimulus value => exact value.elim
  · rcases turn_key turn key with same | ⟨_, _, row, written, here, stands⟩
    · obtain ⟨row, stood⟩ := whole.kept key existing (same ▸ used)
      rcases turn_supplier turn existing.supplierId with same | ⟨_, _, written, _, _, _, here, _⟩
      · exact ⟨row, same.trans stood⟩
      · exact ⟨written, here⟩
    · cases here.symm.trans used
      exact ⟨written, stands⟩

theorem turns_row
    (turns : Turns (supplierService settings) (supplierContract settings origin) kept before after)
    {id : Uuid} {row : SupplierRow} (present : before.1 (.supplier id) = some row) :
    ∃ later, after.1 (.supplier id) = some later ∧ Advances row later := by
  induction turns with
  | refl => exact ⟨row, present, advances_refl row⟩
  | tail _ turn ih =>
      obtain ⟨middle, stood, earlier⟩ := ih
      rcases turn_supplier turn id with same | ⟨call, _, written, _, _, _, here, wrote⟩
      · exact ⟨middle, same.trans stood, earlier⟩
      · rw [stood] at wrote
        exact ⟨written, here, advances_trans earlier (wrote_advances wrote)⟩

/-- A key stays as it was found while its lock is held. -/
theorem turns_locked
    (turns : Turns (supplierService settings) (supplierContract settings origin) kept before after)
    {name : String} (locked : kept (.advisory (settings.hashtext name))) :
    after.1 (.idempotency name) = before.1 (.idempotency name) := by
  induction turns with
  | refl => rfl
  | tail earlier turn ih =>
      rcases turn_key turn name with same | ⟨_, free, _⟩
      · exact same.trans ih
      · exact absurd locked free

theorem turns_key
    (turns : Turns (supplierService settings) (supplierContract settings origin) kept before after)
    {name : String} {row : KeyRow} (used : before.1 (.idempotency name) = some row) :
    after.1 (.idempotency name) = some row := by
  induction turns with
  | refl => exact used
  | tail earlier turn ih =>
      rcases turn_key turn name with same | ⟨unused, _⟩
      · exact same.trans ih
      · cases unused.symm.trans ih

theorem reached_whole
    (reached : Reached (supplierService settings) (supplierContract settings origin) before) :
    Whole before.1 := by
  obtain ⟨view, log, start, turns⟩ := reached
  exact turns_keep (fun _ _ turn whole => turn_whole turn whole) turns start.2.1

theorem turn_log
    (turn : Turn (supplierService settings) (supplierContract settings origin) kept before after) :
    before.2 <:+ after.2 := by
  cases turn with
  | commit call result => exact List.suffix_cons _ _
  | refuse => exact List.suffix_cons _ _
  | answer call ask => exact ask.elim
  | stimulus value => exact value.elim

theorem known_later {log later : Log settings.number} {id : Uuid} {row : SupplierRow}
    (known : Known origin log id row) (suffix : log <:+ later) : Known origin later id row := by
  rcases known with first | ⟨call, result, member, target, writes⟩
  · exact .inl first
  · exact .inr ⟨call, result, suffix.subset member, target, writes⟩

theorem turns_log
    (turns : Turns (supplierService settings) (supplierContract settings origin) kept before after) :
    before.2 <:+ after.2 := by
  induction turns with
  | refl => exact List.suffix_rfl
  | tail _ turn ih => exact ih.trans (turn_log turn)

/-- A create that made a supplier under a key. -/
def createdUnder {number : Rat → Library.Json.Value} (name : String) :
    Call number × Except Refusal Result → Bool
  | (.create _ key _ _, .ok (.created _)) => decide (keyOf key = some name)
  | _ => false

theorem created_under {number : Rat → Library.Json.Value} {name : String}
    {entry : Call number × Except Refusal Result} :
    createdUnder name entry = true ↔ ∃ body key id now row,
      entry = (.create body key id now, .ok (.created row)) ∧ keyOf key = some name := by
  constructor
  · intro made
    unfold createdUnder at made
    split at made
    · exact ⟨_, _, _, _, _, rfl, of_decide_eq_true made⟩
    · cases made
  · rintro ⟨body, key, id, now, row, rfl, keyed⟩
    exact decide_eq_true keyed

/-- What the log says of the keys: every create that ended well under a key answered
the supplier the key names, and one of them made it. -/
structure Answered (settings : Settings) (state : View Row × Log settings.number) : Prop where
  held : ∀ body key id now result name, (.create body key id now, .ok result) ∈ state.2 →
    keyOf key = some name → ∃ existing, state.1 (.idempotency name) = some existing ∧
      result.row.supplierId = existing.supplierId ∧
      existing.requestHash = requestHash settings body
  once : ∀ name, state.2.countP (createdUnder name) ≤ 1

theorem turn_answered
    (turn : Turn (supplierService settings) (supplierContract settings origin) kept before after)
    (answered : Answered settings before) : Answered settings after := by
  have onward : ∀ name existing, before.1 (.idempotency name) = some existing →
      after.1 (.idempotency name) = some existing :=
    fun name existing used => turns_key (.single turn) used
  cases turn with
  | commit call result moves view env fits ended apart =>
      have does := ended.1
      constructor
      · intro body key id now answer name member keyed
        rcases List.mem_cons.mp member with here | earlier
        · cases here
          cases does with
          | created _ _ _ _ unkeyed => cases unkeyed.symm.trans keyed
          | createdUnder _ _ _ _ claimed under unused =>
              cases under.symm.trans keyed
              refine ⟨⟨id, requestHash settings body⟩, ?_, rfl, rfl⟩
              have is := does_key (.createdUnder body key id now name keyed unused) name
              simpa [Does.claims, keyed] using is
          | replayed _ _ _ _ claimed under existing used same row its =>
              cases under.symm.trans keyed
              exact ⟨existing, onward name existing used, its, same⟩
        · obtain ⟨existing, used, its, same⟩ := answered.held body key id now answer name earlier keyed
          exact ⟨existing, onward name existing used, its, same⟩
      · intro name
        simp only [supplierService, List.countP_cons]
        by_cases makes : createdUnder name (call, Except.ok result) = true
        · -- The key was unused, so no create before this one ended well under it.
          have none : env.countP (createdUnder name) = 0 := by
            apply List.countP_eq_zero.mpr
            intro entry member made
            obtain ⟨_, _, _, _, _, rfl, under⟩ := created_under.mp made
            obtain ⟨existing, used, _⟩ := answered.held _ _ _ _ _ name member under
            obtain ⟨_, _, _, _, _, is, keyed⟩ := created_under.mp makes
            cases is
            cases does with
            | created _ _ _ _ unkeyed => cases unkeyed.symm.trans keyed
            | createdUnder _ _ _ _ claimed here unused =>
                cases here.symm.trans keyed
                cases unused.symm.trans used
          simp [none, makes]
        · simpa [makes] using answered.once name
  | refuse call refusal view env ended =>
      constructor
      · intro body key id now answer name member keyed
        rcases List.mem_cons.mp member with here | earlier
        · cases here
        · exact answered.held body key id now answer name earlier keyed
      · intro name
        have other : createdUnder name (call, (.error refusal : Except Refusal Result)) = false := by
          cases call <;> rfl
        simpa [supplierService, List.countP_cons, other] using answered.once name
  | answer call ask => exact ask.elim
  | stimulus value => exact value.elim

theorem reached_answered
    (reached : Reached (supplierService settings) (supplierContract settings origin) before) :
    Answered settings before := by
  obtain ⟨view, log, ⟨_, _, empty⟩, turns⟩ := reached
  apply turns_keep (fun _ _ turn answered => turn_answered turn answered) turns
  subst empty
  exact ⟨by simp, by simp⟩

/-- The suppliers stored are the ones that were written. -/
theorem reached_known
    (reached : Reached (supplierService settings) (supplierContract settings origin) before)
    {id : Uuid} {row : SupplierRow} (stored : before.1 (.supplier id) = some row) :
    Known origin before.2 id row := by
  obtain ⟨view, log, start, turns⟩ := reached
  induction turns generalizing row with
  | refl =>
      rw [← start.1]
      exact .inl stored
  | tail earlier turn ih =>
      rcases turn_supplier turn id with same | ⟨call, result, written, logs, target, writes, here, _⟩
      · exact known_later (ih (same ▸ stored)) (turn_log turn)
      · cases here.symm.trans stored
        rw [logs]
        exact .inr ⟨call, result, List.mem_cons_self, target, writes⟩

end Turns

end Foc.Supplier
