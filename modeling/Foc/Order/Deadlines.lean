import Foc.Order.Runs

/-!
The deadlines of an errand: which acceptance an accepted errand is held by, what a
suspended courier's time does to the acceptance deadline, and when the scheduler's
timers fire.
-/
namespace Foc.Order
open Library Library.ReadCommitted Library.Transaction Library.Serial

/-! ## The acceptance an errand is held by -/

/-- An accepted errand's last entry is its courier's acceptance, which came before the
deadline. -/
structure HeldSince (view : View Row) (id : Uuid) (row : StoredOrder) (accepted : Micros)
    (deadline : Millis) (entry : HistoryEntry) : Prop where
  acceptedAt : row.acceptedAt = some accepted
  acceptanceDeadlineAt : row.acceptanceDeadlineAt = some (toMicros deadline)
  inTime : accepted < toMicros deadline
  noted : view (.history id row.version) = some entry
  accepts : entry.action = .action .accept
  courier : entry.actorId = row.courierId
  occurred : entry.occurredAt = toMicros (toMillis accepted)

def Held (view : View Row) (id : Uuid) : Prop :=
  ∀ row, view (.order id) = some row → row.status = .accepted →
    ∃ accepted deadline entry, HeldSince view id row accepted deadline entry

section Acts

variable {settings : Settings} {call : Call} {view : View Row} {act : Act} {id : Uuid}

theorem accepted_rules : ∀ rule ∈ orderTransitions, rule.decision.target = .accepted →
    rule.action = .accept := by decide

theorem act_held (does : Does settings call act) (fits : Fits view act.moves)
    (lawful : ∀ id row, view (.order id) = some row → Lawful row) (held : Held view id) :
    Held (wrote view act.moves) id := by
  intro row found status
  cases errand_step does fits id with
  | untouched same history =>
      obtain ⟨accepted, deadline, entry, since⟩ := held row (same ▸ found) status
      exact ⟨accepted, deadline, entry, { since with noted := (history _).trans since.noted }⟩
  | noted before mark is present left history =>
      cases left.symm.trans found
      obtain ⟨accepted, deadline, entry, since⟩ := held before present status
      exact ⟨accepted, deadline, entry,
        { acceptedAt := since.acceptedAt
          acceptanceDeadlineAt := since.acceptanceDeadlineAt
          inTime := since.inTime
          noted := (history _).trans since.noted
          accepts := since.accepts
          courier := since.courier
          occurred := since.occurred }⟩
  | created input now absent left =>
      cases left.symm.trans found
      cases status
  | changed cause before applied sent entered is named present left noted =>
      cases left.symm.trans found
      subst is
      obtain ⟨stepped, _, issued, applies, _⟩ := does_stepped does
      cases cause with
      | transition command =>
          obtain ⟨rule, member, _, action, target, _⟩ := stepped.rule
          have accepts := accepted_rules rule member (target.trans status)
          exact absurd (action.symm.trans accepts) (fitting_not_accept (issues_fitting issued))
      | acceptance orderId caller expectedVersion correlationId =>
          obtain ⟨free, taken⟩ := applies
          obtain ⟨opened, _, _, stored, ahead, inTime⟩ := acceptable_parts free
          have shape := (lawful id before present).shape
          unfold Shape at shape
          rw [opened] at shape
          obtain ⟨deadline, aligned⟩ := shape.2
          obtain rfl : stored = toMicros deadline := Option.some.inj (ahead.symm.trans aligned)
          obtain ⟨rfl, _⟩ := accept_ok taken
          exact ⟨call.began, deadline, _, rfl, ahead, inTime, noted, rfl, rfl, rfl⟩

theorem reached_held {state : View Row × Env}
    (reached : Serial.Reached (orderService settings) (orderContract settings) state) (id : Uuid) :
    Held state.1 id := by
  apply reached_errand id (fun view => Held view id) _ _ reached
  · intro view empty row found
    simp [empty] at found
  · intro call act view does fits _ lawful held
    exact act_held does fits lawful held

end Acts

/-! ## The time a suspended courier held the errand -/

/-- What a courier's suspension does with the requester's deadline, as it should: the
time from the acceptance to the reopening is given back. -/
structure GivesBack (before next : StoredOrder) (accepted reopened : Micros) : Prop where
  held : 0 ≤ toMillis reopened - toMillis accepted
  extended : ∃ deadline, before.acceptanceDeadlineAt = some deadline ∧
    next.acceptanceDeadlineAt =
      some (deadline + toMicros (toMillis reopened - toMillis accepted))
  later : ∀ old new, before.acceptanceDeadlineAt = some old →
    next.acceptanceDeadlineAt = some new → old ≤ new ∧ reopened < new
  free : next.courierId = none ∧ next.acceptedAt = none

section Suspensions

variable {settings : Settings}

theorem issues_courier {task : Task} {cause : Cause} (issues : Issues settings task cause)
    (action : cause.action = .courierSuspended) :
    ∃ envelope userId orderId part, task = .suspended envelope userId ∧
      cause = .transition (suspensionCommand envelope orderId part .courierSuspended) := by
  cases issues with
  | suspended envelope userId orderId part status taken tried =>
      obtain rfl : taken = .courierSuspended := action
      exact ⟨envelope, userId, orderId, part, rfl, rfl⟩
  | act caller key orderId taken =>
      have routed := taken.property
      rw [show taken.val = .courierSuspended from action] at routed
      exact absurd routed (by decide)
  | resolve caller key orderId outcome => cases outcome <;> cases action
  | timer timer => cases timer <;> cases action
  | _ => cases action

/-- No suspension leads an errand to ACCEPTED. -/
theorem suspension_never_accepts {envelope : Envelope} {userId : UserId} {cause : Cause}
    (issues : Issues settings (.suspended envelope userId) cause) :
    ∀ rule ∈ orderTransitions, rule.action = cause.action → rule.decision.target ≠ .accepted := by
  intro rule member action accepts
  have taken := accepted_rules rule member accepts
  cases issues with
  | suspended _ _ orderId part status tried suspends =>
      rw [action] at taken
      rcases suspension_action_cases suspends with rfl | rfl | rfl <;> cases taken

theorem reopening_rules : ∀ rule ∈ orderTransitions, rule.action = .courierSuspended →
    rule.decision.target = .opened →
    rule.status = .accepted ∧ rule.decision = statusChanged .opened := by decide

/-- What the reopening writes of an accepted row. -/
theorem reopened_row {periods : Periods} {envelope : Envelope} {orderId : Uuid} {part : Part}
    {tx : Micros} {before : StoredOrder} {applied : Applied} {accepted : Micros} {deadline : Millis}
    (ok : transitionUsing periods (suspensionCommand envelope orderId part .courierSuspended) tx
      before = .ok (.applied applied))
    (reopens : applied.next.status = .opened) (acceptedAt : before.acceptedAt = some accepted)
    (ahead : before.acceptanceDeadlineAt = some (toMicros deadline)) :
    applied.next.acceptanceDeadlineAt =
        some (toMicros deadline + toMicros (toMillis tx - toMillis accepted)) ∧
      applied.next.courierId = none ∧ applied.next.acceptedAt = none := by
  obtain ⟨rule, member, _, action, _, target, _, writes⟩ :=
    transition_rule (.plain .courierSuspended (by decide)) ok
  obtain ⟨_, decision⟩ := reopening_rules rule member action (target.trans reopens)
  obtain ⟨timestamps, patched, same⟩ := writes.next
  rw [decision] at patched same
  simp only [timestampPatch, suspensionCommand, systemCommand, statusChanged, mapOrder, ahead,
    acceptedAt, Option.map_some, and_self, if_true, Except.ok.injEq, List.cons_append,
    List.nil_append, Option.getD_none] at patched
  subst patched
  rw [same]
  simp [patchOf, suspensionCommand, systemCommand, statusChanged, mapOrder, toMicros, toMillis,
    add_mul]

/-- An errand accepted before its deadline and reopened after that is due after both. -/
theorem extended_later (accepted reopened deadline : Int) (inTime : accepted < deadline * 1000)
    (since : accepted / 1000 ≤ reopened / 1000) :
    deadline * 1000 ≤ deadline * 1000 + (reopened / 1000 - accepted / 1000) * 1000 ∧
      reopened < deadline * 1000 + (reopened / 1000 - accepted / 1000) * 1000 := by
  omega

theorem gives_back {before next : StoredOrder} {accepted reopened : Micros} {deadline : Millis}
    (ahead : before.acceptanceDeadlineAt = some (toMicros deadline))
    (inTime : accepted < toMicros deadline)
    (extended : next.acceptanceDeadlineAt =
      some (toMicros deadline + toMicros (toMillis reopened - toMillis accepted)))
    (free : next.courierId = none ∧ next.acceptedAt = none) :
    GivesBack before next accepted reopened ↔ toMillis accepted ≤ toMillis reopened := by
  constructor
  · intro gives
    exact sub_nonneg.mp gives.held
  · intro since
    refine ⟨sub_nonneg.mpr since, ⟨_, ahead, extended⟩, ?_, free⟩
    intro old new had has
    cases ahead.symm.trans had
    cases extended.symm.trans has
    exact extended_later accepted reopened deadline inTime since

variable {clock : Micros} {suspended : List UserId}

/-- A courier's suspension that reopens their errand takes the courier off and, exactly
if the handler's transaction began no earlier than the acceptance, to the millisecond,
gives the requester back the time the courier held it. -/
theorem courier_suspension_gives_back (settings : Settings) (clock : Micros)
    (suspended : List UserId) (world after : OrderWorld) (event : OrderEvent)
    (run : OrderRun settings (idle ∅ (Env.initial clock suspended)) world)
    (stepped : step (orderService settings).machine world event = some after) (id : Uuid)
    (next : StoredOrder) (entry : HistoryEntry)
    (errand : after.committed.lookup (.order id) = some next)
    (new : world.committed.lookup (.history id next.version) = none)
    (noted : after.committed.lookup (.history id next.version) = some entry)
    (suspends : entry.action = .action .courierSuspended) (reopens : next.status = .opened) :
    ∃ session tx before accepted, event = .commit session ∧
      world.active.lookup session = some tx ∧
      world.committed.lookup (.order id) = some before ∧ before.status = .accepted ∧
      before.acceptedAt = some accepted ∧
      (GivesBack before next accepted tx.pc.call.began ↔
        toMillis accepted ≤ toMillis tx.pc.call.began) := by
  have moves : entry.action ≠ .create := by simp [suspends]
  obtain ⟨call, before, cause, applied, entered⟩ := step_entry run stepped new noted moves
  have action : cause.action = .courierSuspended := by
    have noted := entered.stepped.action
    rw [entered.same, suspends] at noted
    exact (HistoryAction.action.inj noted).symm
  obtain ⟨envelope, userId, orderId, part, task, rfl⟩ := issues_courier entered.issued action
  have left := entered_after entered errand rfl
  have opened : applied.next.status = .opened := by
    rw [left] at reopens
    exact reopens
  -- The row the handler locked is the accepted one that was there.
  obtain ⟨rule, member, status, acts, target, _⟩ := entered.stepped.rule
  obtain ⟨source, _⟩ := reopening_rules rule member (acts.trans action) (target.trans opened)
  have was : before.status = .accepted := status.symm.trans source
  obtain ⟨row, found, same⟩ := entered_before entered (by rw [was]; nofun) (by
    intro other issues
    rw [was]
    exact suspension_never_accepts (task ▸ issues))
  have held : row.status = .accepted := by
    rw [same] at was
    exact was
  obtain ⟨accepted, deadline, acceptance, since⟩ :=
    reached_held (order_reached run) id row found held
  have acceptedAt : before.acceptedAt = some accepted := by
    rw [same]
    exact since.acceptedAt
  have ahead : before.acceptanceDeadlineAt = some (toMicros deadline) := by
    rw [same]
    exact since.acceptanceDeadlineAt
  obtain ⟨extended, courier, unaccepted⟩ := reopened_row entered.applies opened acceptedAt ahead
  obtain ⟨session, tx, rfl, active, rfl⟩ := entered.session
  refine ⟨session, tx, row, accepted, rfl, active, found, held, since.acceptedAt,
    gives_back since.acceptanceDeadlineAt since.inTime ?_ ?_⟩
  · rw [left]
    exact extended
  · rw [left]
    exact ⟨courier, unaccepted⟩

/-- A courier accepts the errand, still OPEN at version 2. -/
def accepting (began : Micros) : List OrderEvent :=
  [.begin 3 (calling began (.command courierOne none (.accept (written 1) 2) "c"))] ++
    locking 3 (.order 1) ++ [.run 3 none] ++ sending 3 5 ++ [.commit 3]

/-- The courier's suspension handler begins. -/
def handling (began : Micros) : List OrderEvent :=
  [.begin 5 (calling began (.suspended envelopeOne "u2")), .run 5 none]

/-- It is told the courier is suspended, and opens the errand again; only the commit is
left. -/
def reopening : List OrderEvent :=
  [.stimulus (.suspend "u2"), .answer 5 ⟨.isSuspended "u2", Suspension.mk true 0⟩] ++
    locking 5 (.order 1) ++ moving 5 (.order 1) 7

/-- What can be seen of a reopening that is about to commit. -/
def reopenedBy (before : OrderWorld) :=
  (step (orderService plainSettings).machine before (.commit 5)).map fun after =>
    ((before.committed.lookup (.history 1 4)).isNone,
      (after.committed.lookup (.history 1 4)).map HistoryEntry.action,
      (after.committed.lookup (.order 1)).map fun row =>
        (row.version, row.status, row.acceptanceDeadlineAt),
      (before.committed.lookup (.order 1)).map StoredOrder.acceptedAt,
      (before.active.lookup 5).map fun tx => tx.pc.call.began)

theorem reopened_with_time : ∃ (world after : OrderWorld) (before next : StoredOrder),
    OrderRun plainSettings (idle ∅ (Env.initial 0 [])) world ∧
    step (orderService plainSettings).machine world (.commit 5) = some after ∧
    world.committed.lookup (.order 1) = some before ∧
    after.committed.lookup (.order 1) = some next ∧ GivesBack before next 0 5000000 := by
  have reached : (steps (orderService plainSettings).machine (fun _ _ => True)
      (idle ∅ (Env.initial 0 [])) (creating ++ opening ++ accepting 0 ++
        [.stimulus (.tick 5000000)] ++ handling 5000000 ++ reopening)).bind reopenedBy =
      some (true, some (.action .courierSuspended), some (4, .opened, some 1805000000),
        some (some 0), some 5000000) := by rfl
  obtain ⟨world, stepped, reached⟩ := Option.bind_eq_some_iff.mp reached
  obtain ⟨after, commits, seen⟩ := Option.map_eq_some_iff.mp reached
  simp only [Prod.mk.injEq] at seen
  obtain ⟨unnoted, noted, left, had, active⟩ := seen
  obtain ⟨entry, found, action⟩ := Option.map_eq_some_iff.mp noted
  obtain ⟨next, errand, row⟩ := Option.map_eq_some_iff.mp left
  simp only [Prod.mk.injEq] at row
  obtain ⟨version, status, _⟩ := row
  have run := run_steps .refl _ stepped
  rw [← version] at found unnoted
  obtain ⟨session, tx, before, accepted, same, present, held, _, since, gives⟩ :=
    courier_suspension_gives_back plainSettings 0 [] world after _ run commits 1 next entry errand
      (Option.isNone_iff_eq_none.mp unnoted) found action status
  cases same
  rw [held] at had
  obtain rfl : accepted = 0 := by simpa [since] using had
  have began : tx.pc.call.began = 5000000 := by simpa [present] using active
  rw [began] at gives
  exact ⟨world, after, before, next, run, commits, held, errand, gives.mpr (by decide)⟩

/-- A handler of an earlier message begins; five seconds later the courier accepts and
is suspended again, and the handler asks: the deadline moves five seconds earlier. -/
theorem reopened_early : ¬ ∀ settings clock suspended (world after : OrderWorld) event,
    OrderRun settings (idle ∅ (Env.initial clock suspended)) world →
    step (orderService settings).machine world event = some after →
    ∀ id next entry, after.committed.lookup (.order id) = some next →
      world.committed.lookup (.history id next.version) = none →
      after.committed.lookup (.history id next.version) = some entry →
      entry.action = .action .courierSuspended → next.status = .opened →
      ∃ session tx before accepted, event = .commit session ∧
        world.active.lookup session = some tx ∧
        world.committed.lookup (.order id) = some before ∧ before.acceptedAt = some accepted ∧
        GivesBack before next accepted tx.pc.call.began := by
  intro claimed
  have reached : (steps (orderService plainSettings).machine (fun _ _ => True)
      (idle ∅ (Env.initial 0 [])) (creating ++ opening ++ handling 0 ++
        [.stimulus (.tick 5000000)] ++ accepting 5000000 ++ reopening)).bind reopenedBy =
      some (true, some (.action .courierSuspended), some (4, .opened, some 1795000000),
        some (some 5000000), some 0) := by rfl
  obtain ⟨world, stepped, reached⟩ := Option.bind_eq_some_iff.mp reached
  obtain ⟨after, commits, seen⟩ := Option.map_eq_some_iff.mp reached
  simp only [Prod.mk.injEq] at seen
  obtain ⟨unnoted, noted, left, had, active⟩ := seen
  obtain ⟨entry, found, action⟩ := Option.map_eq_some_iff.mp noted
  obtain ⟨next, errand, row⟩ := Option.map_eq_some_iff.mp left
  simp only [Prod.mk.injEq] at row
  obtain ⟨version, status, _⟩ := row
  rw [← version] at found unnoted
  obtain ⟨session, tx, before, accepted, same, present, held, since, gives⟩ :=
    claimed plainSettings 0 [] world after _ (run_steps .refl _ stepped) commits 1 next entry errand
      (Option.isNone_iff_eq_none.mp unnoted) found action status
  cases same
  rw [held] at had
  obtain rfl : accepted = 5000000 := by simpa [since] using had
  have began : tx.pc.call.began = 0 := by simpa [present] using active
  rw [began] at gives
  exact absurd gives.held (by decide)

end Suspensions

end Foc.Order
