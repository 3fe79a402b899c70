import Foc.Order.Storable

/-!
Acceptance is one conditional update, written beside the table. It takes an
errand exactly when the table lets another student accept it, and it writes what
the transition would: to the microsecond where a transition keeps milliseconds,
and naming the errand as the request does.
-/
namespace Foc.Order

/-- The acceptance as a transition. An administrator accepts as a student does. -/
def acceptCommand (orderId : WrittenId) (courierId : UserId) (expectedVersion : Int)
    (correlationId : String) (tx : Micros) : TransitionCommand :=
  { orderId
    action := .accept
    actor := .user courierId false
    expectedVersion := some expectedVersion
    correlationId
    causationId := none
    now := none
    verify := fun _ => .ok ()
    patch := [.courierId (some courierId), .acceptedAt (some (toMillis tx))]
    reason := none
    requesterSuspended := false
    insertsReceipt := false }

/-- The event under another spelling of its errand's id. -/
def addressed (orderId : WrittenId) (event : OutboxEvent) : OutboxEvent :=
  { event with
    aggregateId := orderId
    payload :=
      match event.payload with
      | .statusChanged _ previousStatus newStatus occurredAt orderVersion =>
          .statusChanged orderId previousStatus newStatus occurredAt orderVersion
      | other => other }

/-! ## When it applies -/

/-- A time kept in milliseconds is passed at the same moment on either clock. -/
theorem before_millis (tx time : Int) : tx < time * 1000 ↔ ¬ time ≤ tx / 1000 := by
  omega

theorem millis_micros (time : Int) : time * 1000 / 1000 = time := by
  omega

theorem deadline_ahead {row : StoredOrder} (tx : Micros)
    (aligned : Aligned row.acceptanceDeadlineAt) :
    (row.acceptanceDeadlineAt.any fun deadline => decide (tx < deadline)) =
      !passed (mapOrder row).acceptanceDeadlineAt (toMillis tx) := by
  obtain ⟨deadline, held⟩ := aligned
  have same : toMillis (toMicros deadline) = deadline := millis_micros deadline
  simp only [mapOrder, passed, held, Option.map_some, Option.any_some, same]
  rw [← decide_not]
  exact decide_eq_decide.mpr (before_millis tx deadline)

/-- The table's verdict on an acceptance, by its parts. -/
theorem accept_decision {status : OrderStatus} {actor : OrderActor} {context : TransitionContext}
    {decision : TransitionDecision} :
    decideTransition status .accept actor context = some decision ↔
      status = .opened ∧ actor = .otherStudent ∧ context.acceptanceDeadlinePassed = false ∧
        decision = statusChanged .accepted := by
  constructor
  · intro decided
    obtain ⟨rule, member, status, action, actors, guard, rfl⟩ := decide_rule decided
    have only : ∀ rule ∈ orderTransitions, rule.action = .accept →
        rule.status = .opened ∧ rule.actors = [.otherStudent] ∧
          rule.decision = statusChanged .accepted := by
      decide
    have ahead : ∀ rule ∈ orderTransitions, rule.action = .accept →
        rule.guard context = !context.acceptanceDeadlinePassed := by
      simp [orderTransitions]
    obtain ⟨source, students, target⟩ := only rule member action
    rw [students] at actors
    rw [ahead rule member action] at guard
    exact ⟨status.symm.trans source, by simpa using actors, by simpa using guard, target⟩
  · rintro ⟨rfl, rfl, ahead, rfl⟩
    obtain ⟨passed, delivery, confirm, suspended, reason, released⟩ := context
    cases ahead
    rfl

/-- Someone neither the requester nor the courier is another student to the errand. -/
theorem student_resolved {order : OrderRow} {id : UserId} (vacant : order.courierId = none) :
    resolveActor order (.user id false) = .otherStudent ↔ order.requesterId ≠ id := by
  by_cases own : id = order.requesterId
  · simp [resolveActor, own]
  · simp [resolveActor, own, vacant, Ne.symm own]

/-- The update's own condition is the table's. -/
theorem acceptable_decided {row : StoredOrder} (lawful : Lawful row) (orderId : WrittenId)
    (courierId : UserId) (expectedVersion : Int) (correlationId : String) (tx : Micros) :
    let command := acceptCommand orderId courierId expectedVersion correlationId tx
    acceptable courierId expectedVersion tx row = true ↔
      decideTransition row.status .accept (resolveActor (mapOrder row) command.actor)
          (contextOf (mapOrder row) command (toMillis tx)) = some (statusChanged .accepted) ∧
        expectedVersion = row.version := by
  intro command
  rw [accept_decision]
  have shape := lawful.shape
  unfold Shape at shape
  constructor
  · intro free
    simp only [acceptable, Bool.and_eq_true, decide_eq_true_eq] at free
    obtain ⟨⟨⟨status, version⟩, other⟩, ahead⟩ := free
    rw [status] at shape
    rw [deadline_ahead tx shape.2] at ahead
    rw [Bool.not_eq_true'] at ahead
    exact ⟨⟨status, (student_resolved shape.1).mpr other, ahead, rfl⟩, version.symm⟩
  · rintro ⟨⟨status, student, ahead, _⟩, version⟩
    rw [status] at shape
    have other := (student_resolved shape.1).mp student
    have before := deadline_ahead tx shape.2
    have open_ : (!passed (mapOrder row).acceptanceDeadlineAt (toMillis tx)) = true :=
      (Bool.not_eq_true' _).mpr ahead
    rw [← before] at open_
    simp only [acceptable, Bool.and_eq_true, decide_eq_true_eq]
    exact ⟨⟨⟨status, version.symm⟩, other⟩, open_⟩

/-! ## What it writes -/

/-- The accepted row as a transition writes it. -/
def acceptedTo (courierId : UserId) (tx : Micros) (row : StoredOrder) : StoredOrder :=
  { acceptedRow courierId tx row with
    acceptedAt := some (toMicros (toMillis tx))
    updatedAt := toMicros (toMillis tx) }

theorem accepted_read (courierId : UserId) (tx : Micros) (row : StoredOrder) :
    mapOrder (acceptedTo courierId tx row) = mapOrder (acceptedRow courierId tx row) := by
  have same : toMillis (toMicros (toMillis tx)) = toMillis tx := millis_micros (toMillis tx)
  simp [acceptedTo, mapOrder, acceptedRow, same]

/-- Times are no part of what the columns are checked for. -/
theorem accepted_stored {courierId : UserId} {tx : Micros} {row : StoredOrder}
    (stored : storeOrder (acceptedRow courierId tx row) = .ok (acceptedRow courierId tx row)) :
    storeOrder (acceptedTo courierId tx row) = .ok (acceptedTo courierId tx row) := by
  unfold storeOrder at stored ⊢
  have same : (acceptedTo courierId tx row).checks = (acceptedRow courierId tx row).checks := rfl
  rw [same]
  split at stored
  · cases stored
  · rename_i fits
    split at stored
    · rename_i checks
      exact (if_neg fits).trans (if_pos checks)
    · cases stored

/-- What an applied acceptance shows of its texts and its version. -/
theorem acceptance_parts {orderId : WrittenId} {courierId : UserId} {correlationId : String}
    {tx : Micros} {row : StoredOrder} {change : Applied}
    (applied : acceptUsing orderId courierId correlationId tx row = .ok change) :
    storable courierId = true ∧ positiveInt (row.version + 1) = true := by
  obtain ⟨next, wrote, applied⟩ := bind_ok applied
  obtain ⟨history, noted, applied⟩ := bind_ok applied
  obtain ⟨event, taken, applied⟩ := bind_ok applied
  have same := store_same (database_ok wrote)
  subst same
  obtain ⟨_, valid⟩ := outbox_ok taken
  refine ⟨?_, valid⟩
  unfold historyRow at noted
  split at noted
  · rename_i texts
    simpa [acceptanceHistory] using texts
  · cases noted

/-- The table's decision writes the accepted row, its entry and its event. -/
theorem acceptance_made (periods : Periods) {row : StoredOrder} (orderId : WrittenId)
    {courierId : UserId} (expectedVersion : Int) (correlationId : String) {tx : Micros}
    (status : row.status = .opened)
    (student : resolveActor (mapOrder row) (.user courierId false) = .otherStudent)
    (text : storable courierId = true) (valid : positiveInt (row.version + 1) = true)
    (stored : storeOrder (acceptedTo courierId tx row) = .ok (acceptedTo courierId tx row)) :
    applyDecision periods (acceptCommand orderId courierId expectedVersion correlationId tx) row
        (statusChanged .accepted) (toMillis tx) =
      .ok { acceptance (written row.orderId) courierId correlationId tx row with
        next := acceptedTo courierId tx row } := by
  have opened : (mapOrder row).status = .opened := status
  generalize asked : acceptCommand orderId courierId expectedVersion correlationId tx = command
  have actor : command.actor = .user courierId false := by
    rw [← asked]
    rfl
  have timestamps : timestampPatch periods command.action (statusChanged .accepted) (toMillis tx)
      (mapOrder row) = .ok [] := by
    rw [← asked]
    rfl
  have patched : applyPatch row (patchOf command (statusChanged .accepted) (toMillis tx)
      (mapOrder row) []) = acceptedTo courierId tx row := by
    simp [← asked, patchOf, acceptCommand, statusChanged, acceptedTo, acceptedRow, mapOrder]
  have entry : historyOf command (mapOrder row) (mapOrder (acceptedTo courierId tx row))
      (toMillis tx) = acceptanceHistory courierId (mapOrder (acceptedRow courierId tx row)) := by
    rw [historyOf, actor, student, accepted_read, opened, ← asked]
    rfl
  have noted : historyRow (acceptanceHistory courierId (mapOrder (acceptedRow courierId tx row))) =
      .ok (acceptanceHistory courierId (mapOrder (acceptedRow courierId tx row))) :=
    if_pos (by simpa [acceptanceHistory] using text)
  have received : receiptFor command (mapOrder (acceptedTo courierId tx row)) = .ok none := by
    rw [← asked]
    rfl
  have event : eventFor command (mapOrder row) (mapOrder (acceptedTo courierId tx row))
      (toMillis tx) .statusChanged = .ok (acceptanceEvent (written row.orderId) correlationId
        (mapOrder (acceptedRow courierId tx row))) := by
    rw [eventFor, emittedEvent, opened, accepted_read, ← asked]
    exact if_pos valid
  have emitted : (statusChanged .accepted).emitted.mapM (eventFor command (mapOrder row)
      (mapOrder (acceptedTo courierId tx row)) (toMillis tx)) =
      .ok [acceptanceEvent (written row.orderId) correlationId
        (mapOrder (acceptedRow courierId tx row))] := by
    simp only [statusChanged, List.mapM_cons, List.mapM_nil, event]
    rfl
  simp only [applyDecision, timestamps, patched, stored, database, entry, noted, received,
    emitted, bind, Except.bind, pure, Except.pure]
  rfl

/-- The transition an applied acceptance stands for. -/
theorem acceptance_transition (periods : Periods) {row : StoredOrder} {orderId : WrittenId}
    {courierId : UserId} {expectedVersion : Int} {correlationId : String} {tx : Micros}
    {change : Applied} (lawful : Lawful row)
    (free : acceptable courierId expectedVersion tx row = true)
    (applied : acceptUsing orderId courierId correlationId tx row = .ok change) :
    transitionUsing periods (acceptCommand orderId courierId expectedVersion correlationId tx) tx
        row =
      .ok (.applied { acceptance (written row.orderId) courierId correlationId tx row with
        next := acceptedTo courierId tx row }) := by
  obtain ⟨decided, version⟩ :=
    (acceptable_decided lawful orderId courierId expectedVersion correlationId tx).mp free
  obtain ⟨status, student, _⟩ := accept_decision.mp decided
  obtain ⟨text, valid⟩ := acceptance_parts applied
  have stored := accepted_stored (accept_ok applied).2
  have made := acceptance_made periods orderId expectedVersion correlationId status student text
    valid stored
  have expected : (some expectedVersion).any (fun asked => decide (asked ≠ (mapOrder row).version)) =
      false := by
    simp [version, mapOrder]
  have same : (mapOrder row).status = row.status := rfl
  generalize asked : acceptCommand orderId courierId expectedVersion correlationId tx = command
    at decided made ⊢
  have action : command.action = .accept := by
    rw [← asked]
    rfl
  have version : command.expectedVersion = some expectedVersion := by
    rw [← asked]
    rfl
  have now : command.now.getD (toMillis tx) = toMillis tx := by
    rw [← asked]
    rfl
  have verified : command.verify (mapOrder row) = .ok () := by
    rw [← asked]
    rfl
  simp only [transitionUsing, now, action, version, same, decided, expected, verified, made]
  rfl

end Foc.Order
