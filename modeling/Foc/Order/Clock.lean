import Foc.Order.Disputes

/-!
The times of an errand's changes. Each is stamped with a clock read before its row
was locked: the transaction's own, or the reading of a whole sweep. Times follow
versions exactly while no commit changes a row stamped later than its own clock.
-/
namespace Foc.Order
open Library Library.ReadCommitted Library.Transaction Library.Serial

/-! ## Stamps -/

/-- The time a call marks its changes with. -/
def Call.stamp (call : Call) : Micros :=
  match call.task with
  | .command _ _ (.accept _ _) _ => call.began
  | .timer _ _ now _ | .unassign _ now _ _ | .assign _ now _ _ => toMicros now
  | _ => toMicros (toMillis call.began)

theorem issues_stamp {settings : Settings} {call : Call} {cause : Cause}
    (issues : Issues settings call.task cause) : cause.stamp call.began = call.stamp := by
  obtain ⟨began, task⟩ := call
  simp only at issues
  cases issues with
  | timer timer => cases timer <;> rfl
  | _ => rfl

/-- The errands a session's transaction has moved to a new version were stamped no
later than it stamps them. -/
def movesOn (committed : Store Row) (tx : ReadCommitted.Tx Row (Session Row Answer Failure Call Result)) :
    Bool :=
  tx.own.entries.all fun
    | ⟨.order id, some next⟩ => (committed.lookup (.order id)).all fun before =>
        decide (before.version < next.version → before.updatedAt ≤ tx.pc.call.stamp)
    | _ => true

def timely (world : OrderWorld) : OrderEvent → Bool
  | .commit session => (world.active.lookup session).all (movesOn world.committed)
  | _ => true

/-- Every commit comes with a clock no earlier than the last change it replaces. -/
def Timely (world : OrderWorld) (event : OrderEvent) : Prop := timely world event = true

instance (world : OrderWorld) (event : OrderEvent) : Decidable (Timely world event) :=
  inferInstanceAs (Decidable (_ = _))

/-- The rows of the next page of `listMine`. -/
def afterCursor (updatedAt : Micros) (orderId : Uuid) (row : StoredOrder) : Bool :=
  decide (row.updatedAt < updatedAt) ||
    (decide (row.updatedAt = updatedAt) && decide (orderId < row.orderId))

/-! ## What acts do to times -/

/-- An errand's history is in the order of its versions, and its row's time is
that of the last of them. -/
structure Timed (view : View Row) (id : Uuid) : Prop where
  ordered : ∀ version later entry next, view (.history id version) = some entry →
    view (.history id later) = some next → version ≤ later → entry.occurredAt ≤ next.occurredAt
  last : ∀ version entry row, view (.history id version) = some entry →
    view (.order id) = some row → entry.occurredAt ≤ toMicros (toMillis row.updatedAt)

section Acts

variable {settings : Settings} {call : Call} {view : View Row} {act : Act} {acts : List Act}
  {id : Uuid}

theorem whole_mono (first second : Int) (earlier : first ≤ second) :
    first / 1000 * 1000 ≤ second / 1000 * 1000 := by omega

/-- A row an act leaves is as it was, or at its next version and stamped. -/
theorem act_row (does : Does settings call act) (fits : Fits view act.moves) {before next : StoredOrder}
    (found : view (.order id) = some before) (left : wrote view act.moves (.order id) = some next) :
    (next.version = before.version ∧ next.updatedAt = before.updatedAt) ∨
      (next.version = before.version + 1 ∧ next.updatedAt = call.stamp ∧
        ∃ cause, Issues settings call.task cause) := by
  rw [act_order does fits, found] at left
  cases leaves : act.order id with
  | none =>
      rw [leaves] at left
      cases left
      exact .inl ⟨rfl, rfl⟩
  | some other =>
      rw [leaves] at left
      cases left
      cases act with
      | change cause row applied sent entered =>
          simp only [Act.order] at leaves
          split at leaves
          · rename_i same
            subst same
            cases leaves
            have present : view (.order cause.orderId.id) = some row := fits.1
            cases found.symm.trans present
            obtain ⟨stepped, _, issued, _⟩ := does_stepped does
            exact .inr ⟨stepped.version, stepped.stamped.trans (issues_stamp issued), cause, issued⟩
          · cases leaves
      | create input key requestHash orderId now sent =>
          simp only [Act.order] at leaves
          split at leaves
          · rename_i same
            subst same
            have absent : view (.order orderId) = none := fits.1
            rw [absent] at found
            cases found
          · cases leaves
      | note errand row mark =>
          simp only [Act.order] at leaves
          split at leaves
          · rename_i same
            subst same
            cases leaves
            have present : view (.order errand) = some row := fits.1
            cases found.symm.trans present
            exact .inl ⟨rfl, rfl⟩
          · cases leaves
      | _ => cases leaves

/-- Only a creation leaves a row where none was, and it changes none. -/
theorem act_created (does : Does settings call act) (fits : Fits view act.moves)
    {next : StoredOrder} (absent : view (.order id) = none)
    (left : wrote view act.moves (.order id) = some next) :
    ∀ cause, ¬ Issues settings call.task cause := by
  rw [act_order does fits, absent, Option.or_none] at left
  cases act with
  | change cause row applied sent entered =>
      simp only [Act.order] at left
      split at left
      · rename_i same
        have present : view (.order cause.orderId.id) = some row := fits.1
        rw [same, absent] at present
        cases present
      · cases left
  | create input key requestHash orderId now sent =>
      intro cause issues
      cases does with
      | create caller key request supplierSnapshot correlationId orderId now change sent task =>
          rw [task] at issues
          cases issues
  | note errand row mark =>
      simp only [Act.order] at left
      split at left
      · rename_i same
        have present : view (.order errand) = some row := fits.1
        rw [same, absent] at present
        cases present
      · cases left
  | _ => cases left

theorem act_timed (does : Does settings call act) (fits : Fits view act.moves)
    (chain : Chain view id) (timed : Timed view id)
    (later : ∀ before next, view (.order id) = some before →
      wrote view act.moves (.order id) = some next → before.updatedAt ≤ next.updatedAt) :
    Timed (wrote view act.moves) id := by
  rcases act_appends does fits id with passes | ⟨next, entry, appends⟩
  · have history : ∀ version, wrote view act.moves (.history id version) =
        view (.history id version) := by
      intro version
      rw [act_history does fits, passes.history, Option.none_or]
    constructor
    · intro version other entry next
      rw [history, history]
      exact timed.ordered version other entry next
    · intro version entry row noted found
      rw [history] at noted
      rw [act_order does fits] at found
      cases leaves : act.order id with
      | none =>
          rw [leaves] at found
          exact timed.last version entry row noted found
      | some left =>
          rw [leaves] at found
          cases found
          obtain ⟨before, present, _, _, same⟩ := passes.order _ leaves
          rw [same]
          exact timed.last version entry before noted present
  · obtain ⟨_, versions⟩ := appends_version appends chain
    have row : wrote view act.moves (.order id) = some next := by
      rw [act_order does fits, appends.order]
      rfl
    have here : wrote view act.moves (.history id next.version) = some entry := by
      rw [act_history does fits, appends.entered]
      rfl
    have elsewhere : ∀ version, version ≠ next.version →
        wrote view act.moves (.history id version) = view (.history id version) := by
      intro version other
      rw [act_history does fits, appends.alone version other, Option.none_or]
    -- Whatever was noted before is no later than the row was.
    have earlier : ∀ version old, view (.history id version) = some old →
        old.occurredAt ≤ entry.occurredAt := by
      intro version old noted
      rcases appends.follows with ⟨_, first, _⟩ | ⟨before, present, _⟩
      · have := (versions version).mp ⟨old, noted⟩
        omega
      · rw [appends.occurred]
        exact (timed.last version old before noted present).trans
          (whole_mono _ _ (later before next present row))
    constructor
    · intro version other old new noted followed below
      by_cases same : other = next.version
      · subst same
        cases here.symm.trans followed
        by_cases also : version = next.version
        · subst also
          cases here.symm.trans noted
          exact le_refl _
        · rw [elsewhere version also] at noted
          exact earlier version old noted
      · rw [elsewhere other same] at followed
        have under := (versions other).mp ⟨new, followed⟩
        rw [elsewhere version (by omega)] at noted
        exact timed.ordered version other old new noted followed below
    · intro version old left noted found
      cases row.symm.trans found
      rw [← appends.occurred]
      by_cases same : version = next.version
      · subst same
        cases here.symm.trans noted
        exact le_refl _
      · rw [elsewhere version same] at noted
        exact earlier version old noted

end Acts

/-! ## Whole transactions -/

section Turns

variable {settings : Settings} {call : Call} {view : View Row} {act : Act} {acts : List Act}
  {id : Uuid}

/-- A row acts leave is as it was, or at a later version and stamped. -/
theorem acts_row (does : ∀ act ∈ acts, Does settings call act) (fits : Fits view (flat acts))
    {before next : StoredOrder} (found : view (.order id) = some before)
    (left : wrote view (flat acts) (.order id) = some next) :
    (next.version = before.version ∧ next.updatedAt = before.updatedAt) ∨
      (before.version < next.version ∧ next.updatedAt = call.stamp) := by
  have kept := acts_keep (fun later => ∃ row, later (.order id) = some row ∧
      ((row.version = before.version ∧ row.updatedAt = before.updatedAt) ∨
        (before.version < row.version ∧ row.updatedAt = call.stamp))) fits
    (by
      rintro act member middle fits ⟨row, present, since⟩
      obtain ⟨next, leaves, _⟩ := act_order_later (does act member) fits present
      refine ⟨next, leaves, ?_⟩
      rcases act_row (does act member) fits present leaves with ⟨version, time⟩ | ⟨version, time, _⟩
      · rwa [version, time]
      · refine .inr ⟨?_, time⟩
        rcases since with ⟨same, _⟩ | ⟨later, _⟩ <;> omega)
    ⟨before, found, .inl ⟨rfl, rfl⟩⟩
  obtain ⟨row, present, since⟩ := kept
  cases left.symm.trans present
  exact since

/-- A row is stamped no earlier than it was by acts that come in time. -/
theorem acts_timed (does : ∀ act ∈ acts, Does settings call act) (fits : Fits view (flat acts))
    (chain : Chain view id) (timed : Timed view id)
    (inTime : ∀ before next, view (.order id) = some before →
      wrote view (flat acts) (.order id) = some next → before.version < next.version →
      before.updatedAt ≤ call.stamp ∨ ∀ cause, ¬ Issues settings call.task cause) :
    Timed (wrote view (flat acts)) id := by
  induction acts generalizing view with
  | nil => exact timed
  | cons act rest ih =>
      have here : Does settings call act := does act List.mem_cons_self
      have others : ∀ other ∈ rest, Does settings call other :=
        fun other member => does other (List.mem_cons_of_mem _ member)
      rw [flat_cons, fits_append] at fits
      rw [flat_cons, wrote_append] at inTime ⊢
      apply ih others fits.2 (act_chain here fits.1 chain)
      · apply act_timed here fits.1 chain timed
        intro before middle found left
        rcases act_row here fits.1 found left with ⟨_, time⟩ | ⟨version, time, cause, issued⟩
        · exact time ▸ le_refl _
        · obtain ⟨next, reached, later⟩ := (acts_later others fits.2).orders id middle left
          rcases inTime before next found reached (by have := later.version; omega) with early | none
          · exact time ▸ early
          · exact absurd issued (none cause)
      · intro middle next left reached later
        cases found : view (.order id) with
        | none => exact .inr (act_created here fits.1 found left)
        | some before =>
            rcases act_row here fits.1 found left with ⟨version, time⟩ | ⟨_, time, _⟩
            · rw [time]
              exact inTime before next found reached (version ▸ later)
            · exact .inl (le_of_eq time)

end Turns

/-! ## Whole runs -/

section Runs

variable {settings : Settings} {clock : Micros} {suspended : List UserId} {world after : OrderWorld}
  {event : OrderEvent} {allowed : OrderWorld → OrderEvent → Prop}

/-- What a timely commit says of a row it leaves at a later version. -/
theorem moves_on {committed : Store Row}
    {tx : ReadCommitted.Tx Row (Session Row Answer Failure Call Result)} :
    movesOn committed tx = true ↔ ∀ id before next, committed.lookup (.order id) = some before →
      (overlay committed tx.own).lookup (.order id) = some next → before.version < next.version →
      before.updatedAt ≤ tx.pc.call.stamp := by
  simp only [movesOn, List.all_eq_true]
  constructor
  · intro all id before next found left later
    rw [lookup_overlay] at left
    cases own : tx.own.lookup (.order id) with
    | none =>
        rw [own, Option.getD_none, found] at left
        cases left
        omega
    | some value =>
        rw [own, Option.getD_some] at left
        subst left
        have entry := all ⟨.order id, some next⟩ (AList.mem_lookup_iff.mp own)
        simp only [found, Option.all_some, decide_eq_true_eq] at entry
        exact entry later
  · rintro inTime ⟨key, value⟩ member
    cases key with
    | order id =>
        cases value with
        | none => rfl
        | some next =>
            cases found : committed.lookup (.order id) with
            | none => simp [found]
            | some before =>
                simp only [found, Option.all_some, decide_eq_true_eq]
                apply inTime id before next found
                rw [lookup_overlay, AList.mem_lookup_iff.mpr member]
                rfl
    | _ => cases value <;> rfl

/-- Exactly the timely steps leave no row stamped earlier than it was. -/
theorem timely_iff
    (run : Run (orderService settings).machine allowed (idle ∅ (Env.initial clock suspended)) world)
    (stepped : step (orderService settings).machine world event = some after) :
    (∀ id before next, world.committed.lookup (.order id) = some before →
      after.committed.lookup (.order id) = some next → before.updatedAt ≤ next.updatedAt) ↔
      timely world event = true := by
  cases step_moves stepped with
  | commit session tx found asked =>
      obtain ⟨result, current⟩ := commit_current asked
      obtain ⟨moves, own, fits, acts, rfl, concluded⟩ := serial_commit (order_sound settings)
        (show fresh _ _ from ⟨fun _ => rfl, rfl, rfl, rfl⟩) run found current
      have rows : ∀ id before next, world.committed.lookup (.order id) = some before →
          (overlay world.committed tx.own).lookup (.order id) = some next →
          (next.version = before.version ∧ next.updatedAt = before.updatedAt) ∨
            (before.version < next.version ∧ next.updatedAt = tx.pc.call.stamp) := by
        intro id before next present left
        rw [own, seen_at] at left
        exact acts_row concluded.does fits present left
      simp only [timely, found, Option.all_some, moves_on]
      constructor
      · intro kept id before next present left later
        rcases rows id before next present left with ⟨same, _⟩ | ⟨_, time⟩
        · omega
        · exact time ▸ kept id before next present left
      · intro inTime id before next present left
        rcases rows id before next present left with ⟨_, time⟩ | ⟨later, time⟩
        · exact time ▸ le_refl _
        · exact time ▸ inTime id before next present left later
  | _ =>
      refine ⟨fun _ => rfl, ?_⟩
      intro _ id before next present left
      cases present.symm.trans left
      exact le_refl _

theorem step_timed
    (run : Run (orderService settings).machine allowed (idle ∅ (Env.initial clock suspended)) world)
    (stepped : step (orderService settings).machine world event = some after)
    (inTime : timely world event = true) {id : Uuid} (timed : Timed world.committed.lookup id) :
    Timed after.committed.lookup id := by
  cases step_moves stepped with
  | commit session tx found asked =>
      obtain ⟨result, current⟩ := commit_current asked
      obtain ⟨moves, own, fits, acts, rfl, concluded⟩ := serial_commit (order_sound settings)
        (show fresh _ _ from ⟨fun _ => rfl, rfl, rfl, rfl⟩) run found current
      simp only [timely, found, Option.all_some, moves_on] at inTime
      rw [own, seen]
      apply acts_timed concluded.does fits (reached_chain (order_reached run) id) timed
      intro before next present left later
      refine .inl (inTime id before next present ?_ later)
      rw [own, seen_at]
      exact left
  | _ => exact timed

theorem run_timed
    (run : Run (orderService settings).machine Timely (idle ∅ (Env.initial clock suspended)) world)
    (id : Uuid) : Timed world.committed.lookup id := by
  induction run with
  | refl => constructor <;> intros <;> contradiction
  | next event run inTime stepped ih => exact step_timed run stepped inTime ih

theorem step_orders
    (run : Run (orderService settings).machine allowed (idle ∅ (Env.initial clock suspended)) world)
    (stepped : step (orderService settings).machine world event = some after) {id : Uuid}
    {row : StoredOrder} (found : world.committed.lookup (.order id) = some row) :
    ∃ next, after.committed.lookup (.order id) = some next ∧ OrderLater row next := by
  have hold := serial_hold (order_sound settings)
    (show fresh _ _ from ⟨fun _ => rfl, rfl, rfl, rfl⟩) run
  have turns := step_change (order_sound settings) hold stepped
  exact (turns_later turns).1.orders id row found

/-- From one state of a timely run to any later one a row's time never goes back. -/
theorem run_forward
    (run : Run (orderService settings).machine Timely (idle ∅ (Env.initial clock suspended)) world)
    (later : Run (orderService settings).machine Timely world after) {id : Uuid} {row : StoredOrder}
    (found : world.committed.lookup (.order id) = some row) :
    Run (orderService settings).machine Timely (idle ∅ (Env.initial clock suspended)) after ∧
      ∃ next, after.committed.lookup (.order id) = some next ∧ OrderLater row next ∧
        row.updatedAt ≤ next.updatedAt := by
  induction later with
  | refl => exact ⟨run, row, found, order_later_refl row, le_refl _⟩
  | next event rest inTime stepped ih =>
      obtain ⟨whole, middle, present, earlier, time⟩ := ih
      obtain ⟨next, left, onward⟩ := step_orders whole stepped present
      have forward := (timely_iff whole stepped).mpr inTime id middle next present left
      exact ⟨.next event whole inTime stepped, next, left, order_later_trans earlier onward,
        time.trans forward⟩

/-- A row does not fall behind a position it was ahead of. -/
theorem cursor_passed {row next : StoredOrder} (later : OrderLater row next)
    (time : row.updatedAt ≤ next.updatedAt) {updatedAt : Micros} {orderId : Uuid}
    (passed : afterCursor updatedAt orderId row = false) :
    afterCursor updatedAt orderId next = false := by
  have same := later.same.orderId
  simp only [afterCursor, Bool.or_eq_false_iff, Bool.and_eq_false_iff, decide_eq_false_iff_not]
    at passed ⊢
  obtain ⟨ahead, apart⟩ := passed
  constructor
  · intro behind
    exact ahead (time.trans_lt behind)
  · by_cases level : next.updatedAt = updatedAt
    · have before : row.updatedAt = updatedAt := le_antisymm (level ▸ time) (not_lt.mp ahead)
      rcases apart with other | below
      · exact absurd before other
      · right
        rwa [same]
    · exact .inl level

/-- While every commit comes in time, an errand's history is in the order of its
versions and its row's time never goes back, so that no change takes an errand
behind a cursor it was ahead of; and exactly the untimely commits turn a row's time
back. -/
theorem time_follows_version (settings : Settings) (clock : Micros) (suspended : List UserId)
    (world : OrderWorld)
    (run : Run (orderService settings).machine Timely (idle ∅ (Env.initial clock suspended)) world) :
    (∀ id version later entry next, world.committed.lookup (.history id version) = some entry →
      world.committed.lookup (.history id later) = some next → version ≤ later →
      entry.occurredAt ≤ next.occurredAt) ∧
    (∀ after, Run (orderService settings).machine Timely world after → ∀ id row next,
      world.committed.lookup (.order id) = some row →
      after.committed.lookup (.order id) = some next → row.updatedAt ≤ next.updatedAt ∧
        ∀ updatedAt orderId, afterCursor updatedAt orderId row = false →
          afterCursor updatedAt orderId next = false) ∧
    ∀ event after, step (orderService settings).machine world event = some after →
      ((∀ id row next, world.committed.lookup (.order id) = some row →
        after.committed.lookup (.order id) = some next → row.updatedAt ≤ next.updatedAt) ↔
        Timely world event) := by
  refine ⟨fun id => (run_timed run id).ordered, ?_, fun event after => timely_iff run⟩
  intro after later id row next found left
  obtain ⟨_, other, present, onward, time⟩ := run_forward run later found
  cases left.symm.trans present
  exact ⟨time, fun updatedAt orderId => cursor_passed onward time⟩

/-- The errand is created, reserved, accepted and picked up within one millisecond. -/
theorem carried_in_time : ∃ world : OrderWorld,
    Run (orderService plainSettings).machine Timely (idle ∅ (Env.initial 0 [])) world ∧
    (∃ row, world.committed.lookup (.order 1) = some row ∧ row.version = 4) ∧
    ∀ version later entry next, world.committed.lookup (.history 1 version) = some entry →
      world.committed.lookup (.history 1 later) = some next → version ≤ later →
      entry.occurredAt ≤ next.occurredAt := by
  have reached : (steps (orderService plainSettings).machine Timely
      (idle ∅ (Env.initial 0 [])) (creating ++ opening ++ carrying)).map
        (fun world => (world.committed.lookup (.order 1)).map StoredOrder.version) =
      some (some 4) := by decide +kernel
  obtain ⟨world, stepped, row⟩ := Option.map_eq_some_iff.mp reached
  have run := run_steps .refl _ stepped
  exact ⟨world, run, Option.map_eq_some_iff.mp row,
    (time_follows_version plainSettings 0 [] world run).1 1⟩

/-- A sweep reads its clock; five seconds later the courier's suspension disputes the
errand, and the sweep then refers it under the clock it read. -/
theorem sweep_turns_time_back : ¬ ∀ settings clock suspended (world : OrderWorld),
    Run (orderService settings).machine (fun _ _ => True)
      (idle ∅ (Env.initial clock suspended)) world →
    (∀ id version later entry next, world.committed.lookup (.history id version) = some entry →
      world.committed.lookup (.history id later) = some next → version ≤ later →
      entry.occurredAt ≤ next.occurredAt) ∧
    ∀ event after, step (orderService settings).machine world event = some after →
      ∀ id row next, world.committed.lookup (.order id) = some row →
        after.committed.lookup (.order id) = some next → row.updatedAt ≤ next.updatedAt := by
  intro follows
  have reached : (steps (orderService plainSettings).machine (fun _ _ => True)
      (idle ∅ (Env.initial 0 []))
      (creating ++ opening ++ carrying ++ sweeping ++ [.stimulus (.tick 5000000)] ++
        disputed 5000000 ++ referring 5000000)).map (fun world =>
          ((world.committed.lookup (.history 1 5)).map HistoryEntry.occurredAt,
            (world.committed.lookup (.history 1 6)).map HistoryEntry.occurredAt)) =
      some (some 5000000, some 0) := by decide +kernel
  obtain ⟨world, stepped, times⟩ := Option.map_eq_some_iff.mp reached
  obtain ⟨disputed, referred⟩ := Prod.mk.inj times
  obtain ⟨entry, found, late⟩ := Option.map_eq_some_iff.mp disputed
  obtain ⟨next, followed, early⟩ := Option.map_eq_some_iff.mp referred
  have ordered := (follows plainSettings 0 [] world (run_steps .refl _ stepped)).1 1 5 6 entry next
    found followed (by decide)
  rw [late, early] at ordered
  exact absurd ordered (by decide)

end Runs

end Foc.Order
