import Foc.Order.Deadlines

/-!
The scheduler's timers. A sweep reads its clock first and its lists after; what a
firing checks under the lock is the errand's current deadline against that clock.
-/
namespace Foc.Order
open Library Library.ReadCommitted Library.Transaction Library.Serial

def Timer.action : Timer → OrderAction
  | .expire => .acceptanceDeadlinePassed
  | .pickupTimeout => .pickupTimeout
  | .autoConfirm => .autoConfirm
  | .undelivered => .deliveryPeriodPassed

/-- The status a timer fires in. -/
def Timer.source : Timer → OrderStatus
  | .expire => .opened
  | .pickupTimeout => .accepted
  | .autoConfirm => .delivered
  | .undelivered => .pickedUp

/-- The time an errand's timer is set for now. -/
def Timer.deadline (settings : Settings) (row : StoredOrder) : Timer → Option Micros
  | .expire => row.acceptanceDeadlineAt
  | .pickupTimeout => row.acceptedAt.map fun acceptedAt =>
      acceptedAt + toMicros settings.pickupTimeout
  | .autoConfirm => row.autoConfirmAt
  | .undelivered => row.nonDeliveryReportAt

/-- The time from which it fires: the acceptance is read in whole milliseconds. -/
def Timer.dueAt (settings : Settings) (row : StoredOrder) : Timer → Option Micros
  | .pickupTimeout => row.acceptedAt.map fun acceptedAt =>
      toMicros (toMillis acceptedAt) + toMicros settings.pickupTimeout
  | timer => timer.deadline settings row

/-- The statuses of an errand whose timer has fired, where it cannot fire again. -/
def Timer.past : Timer → OrderStatus → Bool
  | .expire, .releasePendingCredit | .expire, .cancelled | .expire, .expired => true
  | .autoConfirm, .completionPendingCredit | .autoConfirm, .completed => true
  | .undelivered, .disputed | .undelivered, .completionPendingCredit | .undelivered, .completed
  | .undelivered, .releasePendingCredit | .undelivered, .cancelled | .undelivered, .expired => true
  | _, _ => false

section Timers

variable {settings : Settings} {timer : Timer} {cause : Cause}

theorem timer_rules : ∀ timer : Timer, ∀ rule ∈ orderTransitions, rule.action = timer.action →
    rule.status = timer.source ∧ rule.decision.target ≠ timer.source := by
  intro timer
  cases timer <;> decide

theorem timer_command (settings : Settings) (timer : Timer) (orderId : Uuid) (now : Millis)
    (correlationId : String) :
    (timerCommand settings timer orderId now correlationId).action = timer.action ∧
      (timerCommand settings timer orderId now correlationId).now = some now := by
  cases timer <;> exact ⟨rfl, rfl⟩

theorem timer_action {timer other : Timer} (same : timer.action = other.action) : timer = other := by
  cases timer <;> cases other <;> first | rfl | cases same

/-- Only the scheduler fires timers, but that a suspension disputes an errand itself when
its delivery period is over. -/
theorem issues_timer {task : Task} (issues : Issues settings task cause)
    (fires : cause.action = timer.action) :
    (∃ orderId now correlationId, task = .timer timer orderId now correlationId ∧
      cause = .transition (timerCommand settings timer orderId now correlationId)) ∨
    timer = .undelivered ∧ ∃ envelope userId orderId part, task = .suspended envelope userId ∧
      cause = .transition (suspensionCommand envelope orderId part .deliveryPeriodPassed) := by
  cases issues with
  | timer other orderId now correlationId =>
      have same := timer_action ((timer_command settings other orderId now correlationId).1.symm.trans
        fires)
      subst same
      exact .inl ⟨orderId, now, correlationId, rfl, rfl⟩
  | suspended envelope userId orderId part status action tried =>
      have same : action = timer.action := fires
      rcases suspension_action_cases tried with rfl | rfl | rfl
      · cases timer <;> cases same
      · cases timer with
        | undelivered => exact .inr ⟨rfl, envelope, userId, orderId, part, rfl, rfl⟩
        | _ => cases same
      · cases timer <;> cases same
  | act caller key orderId taken =>
      have routed := taken.property
      rw [show taken.val = timer.action from fires] at routed
      cases timer <;> exact absurd routed (by decide)
  | resolve caller key orderId outcome => cases outcome <;> cases timer <;> cases fires
  | _ => cases timer <;> cases fires

theorem undelivered_rules : ∀ rule ∈ orderTransitions,
    rule.action ∈ [OrderAction.requesterSuspended, .deliveryPeriodPassed, .courierSuspended] →
    rule.decision.target ≠ .pickedUp := by decide

/-- A call that fires a timer leads no errand to where the timer fires. -/
theorem timer_never {task : Task} (issues : Issues settings task cause)
    (fires : cause.action = timer.action) {other : Cause} (also : Issues settings task other) :
    ∀ rule ∈ orderTransitions, rule.action = other.action →
      rule.decision.target ≠ timer.source := by
  intro rule member action
  rcases issues_timer issues fires with ⟨orderId, now, correlationId, rfl, rfl⟩ |
    ⟨rfl, envelope, userId, orderId, part, rfl, rfl⟩
  · cases also with
    | timer =>
        have named := (timer_command settings timer orderId now correlationId).1
        exact (timer_rules timer rule member (action.trans named)).2
  · cases also with
    | suspended _ _ orderId part status action' tried =>
        apply undelivered_rules rule member
        rw [action]
        rcases suspension_action_cases tried with rfl | rfl | rfl <;>
          simp [Cause.action, suspensionCommand, systemCommand]

theorem accepts_ok {test : OrderRow → Bool} {failure : Failure} {order : OrderRow}
    (ok : accepts test failure order = .ok ()) : test order = true := by
  unfold accepts at ok
  split at ok
  · assumption
  · cases ok

theorem due_at {deadline : Option Millis} {now : Millis} (overdue : due deadline now = true) :
    ∃ time, deadline = some time ∧ time ≤ now := by
  obtain ⟨time, held, late⟩ := (Option.any_eq_true _ _).mp overdue
  exact ⟨time, held, of_decide_eq_true late⟩

theorem undelivered_guard : ∀ rule ∈ orderTransitions, rule.action = .deliveryPeriodPassed →
    ∀ context, rule.guard context = true → context.deliveryPeriodPassed = true := by
  simp [orderTransitions, statusChanged, release, completion, always]

/-- The deadlines of a row are whole milliseconds. -/
structure Whole (row : StoredOrder) : Prop where
  acceptance : ∀ time, row.acceptanceDeadlineAt = some time → ∃ whole : Millis, time = toMicros whole
  confirmation : ∀ time, row.autoConfirmAt = some time → ∃ whole : Millis, time = toMicros whole
  delivery : ∀ time, row.nonDeliveryReportAt = some time → ∃ whole : Millis, time = toMicros whole

theorem assign_whole (row : StoredOrder) (column : Assign) (whole : Whole row) :
    Whole (column.write row) := by
  have set (value : Millis) : ∀ time, some (toMicros value) = some time →
      ∃ whole : Millis, time = toMicros whole := by
    intro time same
    exact ⟨value, (Option.some.inj same).symm⟩
  cases column with
  | acceptanceDeadlineAt value => exact ⟨set value, whole.confirmation, whole.delivery⟩
  | autoConfirmAt value => exact ⟨whole.acceptance, set value, whole.delivery⟩
  | nonDeliveryReportAt value => exact ⟨whole.acceptance, whole.confirmation, set value⟩
  | _ => exact ⟨whole.acceptance, whole.confirmation, whole.delivery⟩

theorem patch_whole (patch : List Assign) (row : StoredOrder) (whole : Whole row) :
    Whole (applyPatch row patch) := by
  induction patch generalizing row with
  | nil => exact whole
  | cons column rest ih => exact ih _ (assign_whole row column whole)

theorem act_whole {call : Call} {view : View Row} {act : Act} {id : Uuid}
    (does : Does settings call act) (fits : Fits view act.moves)
    (whole : ∀ row, view (.order id) = some row → Whole row) :
    ∀ row, wrote view act.moves (.order id) = some row → Whole row := by
  intro row found
  cases errand_step does fits id with
  | untouched same => exact whole row (same ▸ found)
  | noted before mark is present left =>
      cases left.symm.trans found
      have held := whole before present
      exact ⟨held.acceptance, held.confirmation, held.delivery⟩
  | created input now absent left =>
      cases left.symm.trans found
      constructor <;> nofun
  | changed cause before applied sent entered is named present left =>
      cases left.symm.trans found
      subst is
      obtain ⟨_, _, issued, applies, _⟩ := does_stepped does
      cases cause with
      | transition command =>
          obtain ⟨_, _, _, _, writes⟩ := transition_ok applies
          obtain ⟨timestamps, _, same⟩ := writes.next
          rw [same]
          exact patch_whole _ _ (whole before present)
      | acceptance orderId caller expectedVersion correlationId =>
          obtain ⟨rfl, _⟩ := accept_ok applies.2
          have held := whole before present
          exact ⟨held.acceptance, held.confirmation, held.delivery⟩

theorem reached_whole {state : View Row × Env}
    (reached : Serial.Reached (orderService settings) (orderContract settings) state) (id : Uuid) :
    ∀ row, state.1 (.order id) = some row → Whole row := by
  apply reached_errand id (fun view => ∀ row, view (.order id) = some row → Whole row) _ _ reached
  · intro view empty row found
    simp [empty] at found
  · intro call act view does fits _ _ whole
    exact act_whole does fits whole

theorem micros_mono (deadline now : Int) (passed : deadline ≤ now) :
    deadline * 1000 ≤ now * 1000 := by omega

/-- A whole deadline read as passed has passed. -/
theorem whole_due {deadline : Option Micros} {now : Millis}
    (whole : ∀ time, deadline = some time → ∃ whole : Millis, time = toMicros whole)
    (overdue : due (deadline.map toMillis) now = true) :
    ∃ time, deadline = some time ∧ time ≤ toMicros now := by
  obtain ⟨read, held, passed⟩ := due_at overdue
  obtain ⟨time, had, rfl⟩ := Option.map_eq_some_iff.mp held
  obtain ⟨millis, rfl⟩ := whole time had
  rw [millis_again] at passed
  exact ⟨_, had, micros_mono millis now passed⟩

theorem accepted_due (accepted now timeout : Int) (late : accepted / 1000 ≤ now - timeout) :
    accepted / 1000 * 1000 + timeout * 1000 ≤ now * 1000 := by omega

/-- What fires was due by the clock the firing carries. -/
theorem timer_due {command : TransitionCommand} {tx : Micros} {before : StoredOrder}
    {applied : Applied} {periods : Periods} (fitting : Fitting command.action command.patch)
    (ok : transitionUsing periods command tx before = .ok (.applied applied))
    (whole : Whole before)
    (fires : (∃ orderId now correlationId,
        command = timerCommand settings timer orderId now correlationId) ∨
      timer = .undelivered ∧ command.action = .deliveryPeriodPassed) :
    ∃ deadline, timer.dueAt settings before = some deadline ∧
      deadline ≤ toMicros (command.now.getD (toMillis tx)) := by
  obtain ⟨_, _, _, verified, _⟩ := transition_ok ok
  obtain ⟨rule, member, _, action, guarded, _⟩ := transition_rule fitting ok
  -- The fourth timer is checked by the table's own guard.
  have undelivered (disputes : command.action = .deliveryPeriodPassed) :
      ∃ deadline, before.nonDeliveryReportAt = some deadline ∧
        deadline ≤ toMicros (command.now.getD (toMillis tx)) := by
    have passed := undelivered_guard rule member (action.trans disputes) _ guarded
    exact whole_due whole.delivery passed
  rcases fires with ⟨orderId, now, correlationId, rfl⟩ | ⟨rfl, disputes⟩
  · cases timer with
    | expire =>
        have checked : accepts (fun order => due order.acceptanceDeadlineAt now) .notDue
            (mapOrder before) = .ok () := verified
        exact whole_due whole.acceptance (accepts_ok checked)
    | autoConfirm =>
        have checked : accepts (fun order => due order.autoConfirmAt now) .notDue
            (mapOrder before) = .ok () := verified
        exact whole_due whole.confirmation (accepts_ok checked)
    | undelivered => exact undelivered rfl
    | pickupTimeout =>
        have checked : accepts (fun order => due order.acceptedAt (now - settings.pickupTimeout))
            .notDue (mapOrder before) = .ok () := verified
        obtain ⟨read, held, late⟩ := due_at (accepts_ok checked)
        obtain ⟨accepted, had, rfl⟩ := Option.map_eq_some_iff.mp held
        refine ⟨_, congrArg (Option.map _) had, ?_⟩
        exact accepted_due accepted now settings.pickupTimeout late
  · exact undelivered disputes

/-- But for an acceptance's, a timer is never set again once it fired. -/
theorem timer_way (timer : Timer) (lasting : timer ≠ .pickupTimeout) :
    OneWay (fun entry => entry.action = .action timer.action) timer.past := by
  have rules : ∀ timer : Timer, timer ≠ .pickupTimeout → ∀ rule ∈ orderTransitions,
      (timer.past rule.status = true → timer.past rule.decision.target = true) ∧
        (rule.action = timer.action →
          timer.past rule.status = false ∧ timer.past rule.decision.target = true) := by
    intro timer
    cases timer <;> decide
  constructor
  · intro rule member
    exact (rules timer lasting rule member).1
  · intro cause tx before applied stepped fired
    obtain ⟨rule, member, status, action, target, _⟩ := stepped.rule
    rw [stepped.action] at fired
    rw [← status, ← target]
    exact (rules timer lasting rule member).2 (action.trans (HistoryAction.action.inj fired))
  · intro input now fired
    cases fired

end Timers

section Firings

variable {settings : Settings} {clock : Micros} {suspended : List UserId} {world after : OrderWorld}
  {event : OrderEvent} {timer : Timer} {id : Uuid} {version : Int} {entry : HistoryEntry}

/-- A firing as it should be: in the timer's status, when the time the timer is set for
has passed on the database's clock. A pickup is timed by the acceptance right before. -/
structure Fires (settings : Settings) (world : OrderWorld) (timer : Timer) (id : Uuid)
    (version : Int) (entry : HistoryEntry) (row : StoredOrder) (deadline : Micros) : Prop where
  found : world.committed.lookup (.order id) = some row
  source : row.status = timer.source
  previous : entry.previousStatus = some timer.source
  next : row.version + 1 = version
  set : timer.dueAt settings row = some deadline
  passed : deadline ≤ entry.occurredAt
  read : entry.occurredAt ≤ world.env.clock
  held : timer = .pickupTimeout → ∃ accepted ends acceptance,
    HeldSince world.committed.lookup id row accepted ends acceptance

/-- The clock a firing carries was read of the database's. -/
theorem fired_read (run : OrderRun settings (idle ∅ (Env.initial clock suspended)) world)
    {orderId : Uuid} {now : Millis} {correlationId : String}
    (prepared : prepared world.env (.timer timer orderId now correlationId) = true) :
    toMicros now ≤ world.env.clock := by
  apply (run_clocked run).read
  cases timer with
  | undelivered => exact (Bool.and_eq_true_iff.mp prepared).1
  | _ => exact prepared

/-- The row a timer fired on is the one that was there, in the timer's status. -/
theorem fired_row {call : Call} {before : StoredOrder} {cause : Cause} {applied : Applied}
    (entered : Entered settings world event after id version entry call before cause applied)
    (fired : entry.action = .action timer.action) :
    cause.action = timer.action ∧ before.status = timer.source ∧
      ∃ row, world.committed.lookup (.order id) = some row ∧
        before = { row with requesterSuspendedAt := before.requesterSuspendedAt } := by
  have action : cause.action = timer.action := by
    have noted := entered.stepped.action
    rw [entered.same, fired] at noted
    exact (HistoryAction.action.inj noted).symm
  obtain ⟨rule, member, status, acts, target, _⟩ := entered.stepped.rule
  have source : before.status = timer.source :=
    status.symm.trans (timer_rules timer rule member (acts.trans action)).1
  refine ⟨action, source, entered_before entered ?_ ?_⟩
  · rw [source]
    cases timer <;> nofun
  · intro other issues
    rw [source]
    exact timer_never entered.issued action issues

theorem step_fires (run : OrderRun settings (idle ∅ (Env.initial clock suspended)) world)
    (stepped : step (orderService settings).machine world event = some after)
    (absent : world.committed.lookup (.history id version) = none)
    (noted : after.committed.lookup (.history id version) = some entry)
    (fired : entry.action = .action timer.action) :
    ∃ row deadline, Fires settings world timer id version entry row deadline := by
  have moves : entry.action ≠ .create := by simp [fired]
  obtain ⟨call, before, cause, applied, entered⟩ := step_entry run stepped absent noted moves
  obtain ⟨action, source, row, found, same⟩ := fired_row entered fired
  have there : row.status = timer.source := by
    rw [same] at source
    exact source
  have whole := reached_whole (order_reached run) id row found
  have due : ∃ deadline, timer.dueAt settings row = some deadline ∧
      deadline ≤ cause.stamp call.began ∧ cause.stamp call.began ≤ world.env.clock := by
    obtain ⟨session, tx, rfl, active, rfl⟩ := entered.session
    have began := (run_clocked run).began session tx active
    obtain ⟨_, _, _, _, _, _, concluded, _⟩ := entered.concluded
    have wholly : Whole before := by
      rw [same]
      exact ⟨whole.acceptance, whole.confirmation, whole.delivery⟩
    have reads : timer.dueAt settings row = timer.dueAt settings before := by
      rw [same]
      cases timer <;> rfl
    rw [reads]
    rcases issues_timer entered.issued action with ⟨orderId, now, correlationId, task, rfl⟩ |
      ⟨rfl, envelope, userId, orderId, part, task, rfl⟩
    · obtain ⟨deadline, set, passed⟩ := timer_due (issues_fitting entered.issued) entered.applies
        wholly (.inl ⟨orderId, now, correlationId, rfl⟩)
      refine ⟨deadline, set, passed, ?_⟩
      have read := fired_read run (task ▸ concluded.prepared)
      simpa [Cause.stamp, timer_command] using read
    · obtain ⟨deadline, set, passed⟩ := timer_due (issues_fitting entered.issued) entered.applies
        wholly (.inr ⟨rfl, rfl⟩)
      exact ⟨deadline, set, passed, (whole_le _).trans began⟩
  obtain ⟨deadline, set, passed, read⟩ := due
  have occurred : entry.occurredAt = cause.stamp call.began := by
    rw [← entered.same, entered.stepped.occurred]
    cases cause with
    | transition command => exact congrArg toMicros (millis_again _)
    | acceptance => cases timer <;> cases action
  refine ⟨row, deadline,
    { found
      source := there
      previous := ?_
      next := ?_
      set
      passed := occurred ▸ passed
      read := occurred ▸ read
      held := ?_ }⟩
  · rw [← entered.same, entered.stepped.previous, source]
  · rw [← entered.next, entered.stepped.version, same]
  · rintro rfl
    exact reached_held (order_reached run) id row found there

/-- A courier is timed out for the acceptance right before, when its time has passed. -/
theorem run_timed_out (run : OrderRun settings (idle ∅ (Env.initial clock suspended)) world)
    (noted : world.committed.lookup (.history id version) = some entry)
    (fired : entry.action = .action .pickupTimeout) :
    ∃ acceptance, world.committed.lookup (.history id (version - 1)) = some acceptance ∧
      acceptance.action = .action .accept ∧
      acceptance.occurredAt + toMicros settings.pickupTimeout ≤ entry.occurredAt := by
  induction run with
  | refl => cases noted
  | next event run permitted stepped ih =>
      rename_i before after
      have later := (run_later run (.next event .refl trivial stepped)).1
      cases was : before.committed.lookup (.history id version) with
      | some other =>
          cases noted.symm.trans (later.histories id version other was)
          obtain ⟨acceptance, found, rest⟩ := ih was
          exact ⟨acceptance, later.histories id _ acceptance found, rest⟩
      | none =>
          obtain ⟨row, deadline, fires⟩ :=
            @step_fires _ _ _ _ _ _ .pickupTimeout _ _ _ run stepped was noted fired
          obtain ⟨accepted, ends, acceptance, since⟩ := fires.held rfl
          have next : row.version = version - 1 := by
            have follows := fires.next
            omega
          refine ⟨acceptance, ?_, since.accepts, ?_⟩
          · rw [← next]
            exact later.histories id _ acceptance since.noted
          · have set := fires.set
            simp only [Timer.dueAt, since.acceptedAt, Option.map_some, Option.some.injEq] at set
            rw [since.occurred, set]
            exact fires.passed

/-- Timers fire when they are due, and once each time they are set. -/
theorem timers_fire_when_due (settings : Settings) (clock : Micros) (suspended : List UserId)
    (world : OrderWorld) (run : OrderRun settings (idle ∅ (Env.initial clock suspended)) world) :
    (∀ event after id version entry (timer : Timer),
      step (orderService settings).machine world event = some after →
      world.committed.lookup (.history id version) = none →
      after.committed.lookup (.history id version) = some entry →
      entry.action = .action timer.action →
      ∃ row deadline, Fires settings world timer id version entry row deadline) ∧
    (∀ id (timer : Timer), timer ≠ .pickupTimeout → ∀ version other entry again,
      world.committed.lookup (.history id version) = some entry →
      entry.action = .action timer.action →
      world.committed.lookup (.history id other) = some again →
      again.action = .action timer.action → other = version) ∧
    ∀ id version entry, world.committed.lookup (.history id version) = some entry →
      entry.action = .action .pickupTimeout →
      ∃ acceptance, world.committed.lookup (.history id (version - 1)) = some acceptance ∧
        acceptance.action = .action .accept ∧
        acceptance.occurredAt + toMicros settings.pickupTimeout ≤ entry.occurredAt := by
  refine ⟨?_, ?_, ?_⟩
  · intro event after id version entry timer stepped absent noted fired
    exact step_fires run stepped absent noted fired
  · intro id timer lasting version other entry again found marked present also
    have once : MarkedOnce _ _ world.committed.lookup id :=
      reached_marked_once (timer_way timer lasting) (order_reached run)
    exact marked_version once found marked present also
  · intro id version entry noted fired
    exact run_timed_out run noted fired

/-- A sweep reads its clock and finds the timer due. -/
def overdue (began : Micros) (timer : Timer) : List OrderEvent :=
  [ .begin 6 (calling began .databaseNow), .commit 6,
    .begin 7 (calling began (.timer timer 1 (toMillis began) "c")) ]

/-- It expires the errand, and asks for the release of its credits; only the commit is
left. -/
def expiring : List OrderEvent := moving 7 (.order 1) 10 ++ sending 7 11

/-- What can be seen of a firing that is about to commit. -/
def firedBy (version : Int) (before : OrderWorld) :=
  (step (orderService plainSettings).machine before (.commit 7)).map fun after =>
    ((before.committed.lookup (.history 1 version)).isNone,
      (after.committed.lookup (.history 1 version)).map HistoryEntry.action,
      (before.committed.lookup (.order 1)).map StoredOrder.acceptedAt,
      before.env.clock)

theorem expired_when_due : ∃ (world : OrderWorld) (entry : HistoryEntry) (row : StoredOrder)
    (deadline : Micros), OrderRun plainSettings (idle ∅ (Env.initial 0 [])) world ∧
    Fires plainSettings world .expire 1 3 entry row deadline := by
  have reached : (steps (orderService plainSettings).machine (fun _ _ => True)
      (idle ∅ (Env.initial 0 [])) (creating ++ opening ++ [.stimulus (.tick 1800000000)] ++
        overdue 1800000000 .expire ++ expiring)).bind (firedBy 3) =
      some (true, some (.action .acceptanceDeadlinePassed), some none, 1800000000) := by rfl
  obtain ⟨world, stepped, reached⟩ := Option.bind_eq_some_iff.mp reached
  obtain ⟨after, commits, seen⟩ := Option.map_eq_some_iff.mp reached
  simp only [Prod.mk.injEq] at seen
  obtain ⟨unnoted, noted, _⟩ := seen
  obtain ⟨entry, found, action⟩ := Option.map_eq_some_iff.mp noted
  have run := run_steps .refl _ stepped
  obtain ⟨row, deadline, fires⟩ := (timers_fire_when_due plainSettings 0 [] world run).1 _ after 1 3
    entry .expire commits (Option.isNone_iff_eq_none.mp unnoted) found action
  exact ⟨world, entry, row, deadline, run, fires⟩

/-- The courier's second acceptance begins before the end of a millisecond, and waits. -/
def acceptingAgain : List OrderEvent :=
  [.begin 4 (calling 900 (.command courierOne none (.accept (written 1) 4) "c"))]

/-- The courier gives the errand up, and the second acceptance goes through. -/
def swapping (began : Micros) : List OrderEvent :=
  [.begin 5 (calling began (.command courierOne none
    (.act (written 1) ⟨.withdraw, .tail _ (.tail _ (.tail _ (.tail _ (.head _))))⟩ 3) "c"))] ++ moving 5 (.order 1) 8 ++ [.commit 5] ++
  locking 4 (.order 1) ++ [.run 4 none] ++ sending 4 9 ++ [.commit 4]

/-- A sweep that read its clock when the first acceptance's time was over times the
second one out before its own is, by less than a millisecond. -/
theorem timed_out_early : ¬ ∀ settings clock suspended (world : OrderWorld),
    OrderRun settings (idle ∅ (Env.initial clock suspended)) world →
    ∀ event after id version entry (timer : Timer),
      step (orderService settings).machine world event = some after →
      world.committed.lookup (.history id version) = none →
      after.committed.lookup (.history id version) = some entry →
      entry.action = .action timer.action →
      ∃ row deadline, world.committed.lookup (.order id) = some row ∧
        timer.deadline settings row = some deadline ∧ deadline ≤ world.env.clock := by
  intro claimed
  have reached : (steps (orderService plainSettings).machine (fun _ _ => True)
      (idle ∅ (Env.initial 0 [])) (creating ++ opening ++ accepting 0 ++ [.stimulus (.tick 900)] ++
        acceptingAgain ++ [.stimulus (.tick 600000000)] ++ overdue 600000000 .pickupTimeout ++
        swapping 600000000 ++ moving 7 (.order 1) 10)).bind (firedBy 6) =
      some (true, some (.action .pickupTimeout), some (some 900), 600000000) := by rfl
  obtain ⟨world, stepped, reached⟩ := Option.bind_eq_some_iff.mp reached
  obtain ⟨after, commits, seen⟩ := Option.map_eq_some_iff.mp reached
  simp only [Prod.mk.injEq] at seen
  obtain ⟨unnoted, noted, acceptedAt, clock⟩ := seen
  obtain ⟨entry, found, action⟩ := Option.map_eq_some_iff.mp noted
  obtain ⟨row, deadline, present, set, passed⟩ := claimed plainSettings 0 [] world
    (run_steps .refl _ stepped) _ after 1 6 entry .pickupTimeout commits
    (Option.isNone_iff_eq_none.mp unnoted) found action
  rw [present, Option.map_some, Option.some.injEq] at acceptedAt
  simp only [Timer.deadline, acceptedAt, Option.map_some, Option.some.injEq] at set
  rw [← set, clock] at passed
  exact absurd passed (by decide)

end Firings

end Foc.Order
