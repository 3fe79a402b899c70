import Foc.Order.Lifecycle

/-!
One change to an errand, by a transition or by an acceptance: what it does to the
row, what its history entry says and which events announce it. Everything else
about changes is read off this.
-/
namespace Foc.Order

/-- Why an errand changes. -/
inductive Cause where
  | transition (command : TransitionCommand)
  | acceptance (orderId : WrittenId) (caller : AuthContext) (expectedVersion : Int)
      (correlationId : String)

def Cause.orderId : Cause → WrittenId
  | .transition command => command.orderId
  | .acceptance orderId _ _ _ => orderId

def Cause.action : Cause → OrderAction
  | .transition command => command.action
  | .acceptance _ _ _ _ => .accept

def Cause.actorId : Cause → Option String
  | .transition command => command.actor.id
  | .acceptance _ caller _ _ => some caller.userId

/-- The time an errand is marked as changed. -/
def Cause.stamp (tx : Micros) : Cause → Micros
  | .transition command => toMicros (command.now.getD (toMillis tx))
  | .acceptance _ _ _ _ => tx

def Cause.applies (periods : Periods) (tx : Micros) (before : StoredOrder) (change : Applied) :
    Cause → Prop
  | .transition command => transitionUsing periods command tx before = .ok (.applied change)
  | .acceptance orderId caller expectedVersion correlationId =>
      acceptable caller.userId expectedVersion tx before = true ∧
        acceptUsing orderId caller.userId correlationId tx before = .ok change

/-- The columns the command brings are those of its action. -/
def Cause.fitting : Cause → Prop
  | .transition command => Fitting command.action command.patch
  | .acceptance _ _ _ _ => True

/-- Who takes part in an errand is settled once it leaves these statuses. -/
def partiesFixed : OrderStatus → Bool
  | .pendingCredit | .opened | .accepted => false
  | _ => true

/-- A status change of one errand, as its event tells it. -/
def Payload.announces (id : Uuid) (previous : Option OrderStatus) (next : OrderStatus)
    (version : Int) : Payload → Prop
  | .statusChanged errand before after _ orderVersion =>
      errand.id = id ∧ before = previous ∧ after = next ∧ orderVersion = version
  | _ => False

/-- What a change does, whatever its cause. -/
structure Stepped (cause : Cause) (tx : Micros) (before : StoredOrder) (change : Applied) : Prop where
  same : SameRequest before change.next
  version : change.next.version = before.version + 1
  rule : ∃ rule ∈ orderTransitions, rule.status = before.status ∧ rule.action = cause.action ∧
    rule.decision.target = change.next.status ∧
    change.events.map (fun event => event.payload.eventType) = rule.decision.emitted ∧
    ∀ reason, rule.decision.releaseReason = some reason → change.next.releaseReason = some reason
  announces : ∀ event ∈ change.events, event.payload.eventType = .statusChanged →
    event.payload.announces before.orderId (some before.status) change.next.status
      change.next.version
  previous : change.history.previousStatus = some before.status
  arrives : change.history.newStatus = change.next.status
  action : change.history.action = .action cause.action
  actor : change.history.actorId = cause.actorId
  stamped : change.next.updatedAt = cause.stamp tx
  occurred : change.history.occurredAt = toMicros (toMillis (cause.stamp tx))
  courier : change.next.courierId = before.courierId ∨
    (partiesFixed before.status = false ∧
      (change.next.courierId = none ∨
        cause.action = .accept ∧ change.next.courierId = cause.actorId))
  delivery : change.next.nonDeliveryReportAt = before.nonDeliveryReportAt ∨
    cause.action = .recordPickup
  referral : change.next.referredAdminId = before.referredAdminId ∨
    Assign.referredAdminId change.next.referredAdminId ∈
      match cause with
      | .transition command => command.patch
      | .acceptance _ _ _ _ => []

theorem whole_millis (time : Int) : time * 1000 / 1000 = time := by omega

theorem millis_again (time : Millis) : toMillis (toMicros time) = time := whole_millis time

/-! ## Columns -/

/-- The columns of the errand's times. -/
def Assign.isTime : Assign → Bool
  | .acceptedAt _ | .acceptanceDeadlineAt _ | .pickedUpAt _ | .nonDeliveryReportAt _
  | .deliveredAt _ | .autoConfirmAt _ | .completionRequestedAt _ | .completedAt _
  | .releaseRequestedAt _ | .releasedAt _ => true
  | _ => false

/-- The columns Credit's replies and referrals bring. -/
def Assign.isExtra : Assign → Bool
  | .rejectionReason _ | .availableAtRejection _ | .creditTransactionId _
  | .referredAdminId _ => true
  | _ => false

theorem patch_keeps {β : Type} {field : StoredOrder → β} {patch : List Assign} (row : StoredOrder)
    (keeps : ∀ column ∈ patch, ∀ row, field (column.write row) = field row) :
    field (applyPatch row patch) = field row := by
  induction patch generalizing row with
  | nil => rfl
  | cons column rest ih =>
      have here := keeps column (by simp) row
      exact (ih (column.write row) fun other member =>
        keeps other (List.mem_cons_of_mem _ member)).trans here

/-- The courier is taken off an errand on hand that is given up or taken away. -/
theorem timestamp_columns {periods : Periods} {action : OrderAction} {decision : TransitionDecision}
    {now : Millis} {order : OrderRow} {timestamps : List Assign}
    (ok : timestampPatch periods action decision now order = .ok timestamps) :
    ∀ column ∈ timestamps, column.isTime = true ∨
      column = .courierId none ∧ (action = .withdraw ∨ action = .pickupTimeout ∨
        action = .courierSuspended ∧ decision.target = .opened) := by
  unfold timestampPatch at ok
  simp only at ok
  split at ok
  · rename_i reopens
    split at ok
    · cases ok
      intro column member
      simp only [List.cons_append, List.nil_append, List.mem_cons, List.not_mem_nil,
        or_false] at member
      rcases member with rfl | rfl | rfl
      · exact .inr ⟨rfl, .inr (.inr reopens)⟩
      · exact .inl rfl
      · exact .inl rfl
    · cases ok
  · split at ok
    · cases ok
      simp [Assign.isTime]
    split at ok
    · cases ok
      simp [Assign.isTime]
    split at ok
    · cases ok
      simp [Assign.isTime]
    split at ok
    · cases ok
      simp [Assign.isTime]
    split at ok
    · cases ok
      simp [Assign.isTime]
    have removed : ∀ column ∈ (if action = .withdraw ∨ action = .pickupTimeout then
        [Assign.courierId none, .acceptedAt none] else []), column.isTime = true ∨
        column = .courierId none ∧ (action = .withdraw ∨ action = .pickupTimeout ∨
          action = .courierSuspended ∧ decision.target = .opened) := by
      intro column member
      split at member
      · rename_i leaves
        simp only [List.mem_cons, List.not_mem_nil, or_false] at member
        rcases member with rfl | rfl
        · exact .inr ⟨rfl, leaves.elim .inl fun late => .inr (.inl late)⟩
        · exact .inl rfl
      · cases member
    split at ok
    · cases ok
      intro column member
      rcases List.mem_append.mp member with early | late
      · exact removed column early
      · cases List.mem_singleton.mp late
        exact .inl rfl
    split at ok
    · cases ok
      simp [Assign.isTime]
    · cases ok
      exact removed

/-- The period to report a non-delivery is set by the pickup only. -/
theorem timestamp_delivery {periods : Periods} {action : OrderAction}
    {decision : TransitionDecision} {now : Millis} {order : OrderRow} {timestamps : List Assign}
    (ok : timestampPatch periods action decision now order = .ok timestamps)
    (other : action ≠ .recordPickup) : ∀ time, Assign.nonDeliveryReportAt time ∉ timestamps := by
  intro time member
  have courier : ∀ column ∈ (if action = .withdraw ∨ action = .pickupTimeout then
      [Assign.courierId none, Assign.acceptedAt none] else []),
      column ≠ Assign.nonDeliveryReportAt time := by
    split <;> simp
  unfold timestampPatch at ok
  simp only [other, if_false] at ok
  repeat' split at ok
  all_goals
    cases ok
    try first
      | simp at member
      | exact courier _ member rfl

theorem fitting_extra {action : OrderAction} {patch : List Assign} (fitting : Fitting action patch) :
    ∀ column ∈ patch, column.isExtra = true := by
  cases fitting <;> simp [Assign.isExtra]

theorem courier_written (row : StoredOrder) (patch : List Assign) :
    (applyPatch row patch).courierId = row.courierId ∨
      Assign.courierId (applyPatch row patch).courierId ∈ patch := by
  induction patch generalizing row with
  | nil => exact .inl rfl
  | cons column rest ih =>
      rw [patch_cons]
      rcases ih (column.write row) with kept | later
      · cases column with
        | courierId value =>
            rw [kept]
            exact .inr List.mem_cons_self
        | _ => exact .inl kept
      · exact .inr (List.mem_cons_of_mem _ later)

theorem referral_written (row : StoredOrder) (patch : List Assign) :
    (applyPatch row patch).referredAdminId = row.referredAdminId ∨
      Assign.referredAdminId (applyPatch row patch).referredAdminId ∈ patch := by
  induction patch generalizing row with
  | nil => exact .inl rfl
  | cons column rest ih =>
      rw [patch_cons]
      rcases ih (column.write row) with kept | later
      · cases column with
        | referredAdminId value =>
            rw [kept]
            exact .inr List.mem_cons_self
        | _ => exact .inl kept
      · exact .inr (List.mem_cons_of_mem _ later)

/-! ## Transitions -/

section Transitions

variable {periods : Periods} {command : TransitionCommand} {row : StoredOrder}
  {decision : TransitionDecision} {now : Millis} {timestamps : List Assign}

/-- The columns written after those of every transition. -/
def tail (command : TransitionCommand) (decision : TransitionDecision) (timestamps : List Assign) :
    List Assign :=
  decision.releaseReason.toList.map Assign.releaseReason ++ timestamps ++ command.patch

theorem tail_columns (fitting : Fitting command.action command.patch)
    (ok : timestampPatch periods command.action decision now (mapOrder row) = .ok timestamps) :
    ∀ column ∈ tail command decision timestamps,
      (∃ reason, column = .releaseReason reason) ∨ column.isTime = true ∨
      (column = .courierId none ∧ (command.action = .withdraw ∨ command.action = .pickupTimeout ∨
        command.action = .courierSuspended ∧ decision.target = .opened)) ∨
      (column.isExtra = true ∧ column ∈ command.patch) := by
  intro column member
  rcases List.mem_append.mp member with early | extra
  · rcases List.mem_append.mp early with reason | time
    · obtain ⟨value, _, rfl⟩ := List.mem_map.mp reason
      exact .inl ⟨value, rfl⟩
    · rcases timestamp_columns ok column time with time | leaves
      · exact .inr (.inl time)
      · exact .inr (.inr (.inl leaves))
  · exact .inr (.inr (.inr ⟨fitting_extra fitting column extra, extra⟩))

/-- No column of the tail undoes what every transition writes. -/
theorem tail_keeps (fitting : Fitting command.action command.patch)
    (ok : timestampPatch periods command.action decision now (mapOrder row) = .ok timestamps)
    (next : StoredOrder) :
    (applyPatch next (tail command decision timestamps)).status = next.status ∧
      (applyPatch next (tail command decision timestamps)).version = next.version ∧
      (applyPatch next (tail command decision timestamps)).updatedAt = next.updatedAt := by
  have columns := tail_columns fitting ok
  refine ⟨patch_keeps next ?_, patch_keeps next ?_, patch_keeps next ?_⟩
  all_goals
    intro column member before
    rcases columns column member with ⟨_, rfl⟩ | time | ⟨rfl, _⟩ | ⟨extra, _⟩
    · rfl
    · cases column <;> first | rfl | cases time
    · rfl
    · cases column <;> first | rfl | cases extra

theorem tail_reason (fitting : Fitting command.action command.patch)
    (ok : timestampPatch periods command.action decision now (mapOrder row) = .ok timestamps)
    {reason : ReleaseReason} (decided : decision.releaseReason = some reason) (next : StoredOrder) :
    (applyPatch next (tail command decision timestamps)).releaseReason = some reason := by
  have columns := tail_columns fitting ok
  simp only [tail, decided, Option.toList_some, List.map_cons, List.map_nil, List.cons_append,
    List.nil_append, patch_cons] at columns ⊢
  refine patch_keeps _ fun column member before => ?_
  rcases List.mem_append.mp member with time | extra
  · rcases timestamp_columns ok column time with time | ⟨rfl, _⟩
    · cases column <;> first | rfl | cases time
    · rfl
  · have extra := fitting_extra fitting column extra
    cases column <;> first | rfl | cases extra

theorem tail_delivery (fitting : Fitting command.action command.patch)
    (ok : timestampPatch periods command.action decision now (mapOrder row) = .ok timestamps)
    (other : command.action ≠ .recordPickup) (next : StoredOrder) :
    (applyPatch next (tail command decision timestamps)).nonDeliveryReportAt =
      next.nonDeliveryReportAt := by
  have times := timestamp_delivery ok other
  refine patch_keeps next fun column member before => ?_
  rcases List.mem_append.mp member with early | extra
  · rcases List.mem_append.mp early with reason | time
    · obtain ⟨value, _, rfl⟩ := List.mem_map.mp reason
      rfl
    · cases column with
      | nonDeliveryReportAt value => exact absurd time (times value)
      | _ => rfl
  · have extra := fitting_extra fitting column extra
    cases column <;> first | rfl | cases extra

theorem events_each {emitted : List EventType} {make : EventType → Except Failure OutboxEvent}
    {events : List OutboxEvent} (ok : emitted.mapM make = .ok events) :
    List.Forall₂ (fun eventType event => make eventType = .ok event) emitted events := by
  induction emitted generalizing events with
  | nil =>
      cases ok
      exact .nil
  | cons eventType rest ih =>
      rw [List.mapM_cons] at ok
      obtain ⟨event, first, ok⟩ := bind_ok ok
      obtain ⟨others, all, ok⟩ := bind_ok ok
      cases ok
      exact .cons first (ih all)

theorem event_made {before after : OrderRow} {eventType : EventType} {event : OutboxEvent}
    (made : eventFor command before after now eventType = .ok event) :
    event.payload.eventType = eventType ∧ (eventType = .statusChanged →
      event.payload.announces after.orderId (some before.status) after.status after.version) := by
  obtain ⟨payload, emitted, made⟩ := bind_ok made
  obtain ⟨rfl, _⟩ := outbox_ok made
  cases eventType with
  | statusChanged =>
      cases emitted
      exact ⟨rfl, fun _ => ⟨rfl, rfl, rfl, rfl⟩⟩
  | completionRequested =>
      simp only [emittedEvent] at emitted
      split at emitted
      · cases emitted
      · split at emitted
        · cases emitted
        · cases emitted
          exact ⟨rfl, nofun⟩
  | releaseRequested =>
      cases emitted
      exact ⟨rfl, nofun⟩
  | reservationRequested => cases emitted

theorem events_made_of {before after : OrderRow} {emitted : List EventType}
    {events : List OutboxEvent}
    (made : List.Forall₂ (fun eventType event => eventFor command before after now eventType =
      .ok event) emitted events) :
    events.map (fun event => event.payload.eventType) = emitted ∧
      ∀ event ∈ events, event.payload.eventType = .statusChanged →
        event.payload.announces after.orderId (some before.status) after.status after.version := by
  induction made with
  | nil => exact ⟨rfl, by simp⟩
  | cons here _ ih =>
      obtain ⟨kind, announces⟩ := event_made here
      refine ⟨by rw [List.map_cons, kind, ih.1], ?_⟩
      intro event member status
      rcases List.mem_cons.mp member with rfl | later
      · exact announces (kind ▸ status)
      · exact ih.2 event later status

end Transitions

/-- Only a courier who has not picked up can leave an errand. -/
theorem leaving_rules : ∀ rule ∈ orderTransitions,
    rule.action = .withdraw ∨ rule.action = .pickupTimeout ∨
      rule.action = .courierSuspended ∧ rule.decision.target = .opened →
    partiesFixed rule.status = false := by
  decide

theorem transition_stepped {periods : Periods} {command : TransitionCommand} {tx : Micros}
    {row : StoredOrder} {change : Applied} (fitting : Fitting command.action command.patch)
    (ok : transitionUsing periods command tx row = .ok (.applied change)) :
    Stepped (.transition command) tx row change := by
  obtain ⟨decision, decided, _, _, writes⟩ := transition_ok ok
  obtain ⟨rule, member, status, action, _, _, rfl⟩ := decide_rule decided
  obtain ⟨timestamps, patched, same⟩ := writes.next
  obtain ⟨kinds, announces⟩ := events_made_of (events_each writes.events)
  have request : SameRequest row change.next := same ▸ patch_same row _
  rw [patch_begun] at same
  have kept := tail_keeps fitting patched (begun row rule.decision.target
    (command.now.getD (toMillis tx)))
  rw [tail, ← same] at kept
  obtain ⟨arrived, version, updated⟩ := kept
  have columns := tail_columns fitting patched
  have noted := writes.history
  refine ⟨request, version, ⟨rule, member, status, action, arrived.symm, kinds, ?_⟩, ?_, ?_, ?_, ?_,
    ?_, ?_, ?_, ?_, ?_, ?_⟩
  · intro reason decides
    rw [same]
    exact tail_reason fitting patched decides _
  · intro event present kind
    have said := announces event present kind
    simpa [mapOrder, request.orderId] using said
  · rw [noted]
    rfl
  · rw [noted]
    rfl
  · rw [noted]
    rfl
  · rw [noted]
    rfl
  · exact updated
  · rw [noted]
    simp only [historyOf, Cause.stamp, millis_again]
  · have courier := courier_written (begun row rule.decision.target
      (command.now.getD (toMillis tx))) (tail command rule.decision timestamps)
    rw [tail, ← same] at courier
    rcases courier with stays | removed
    · exact .inl stays
    · rcases columns _ removed with ⟨_, other⟩ | time | ⟨gone, leaves⟩ | ⟨extra, _⟩
      · cases other
      · cases time
      · rw [← action] at leaves
        exact .inr ⟨status ▸ leaving_rules rule member leaves, .inl (Assign.courierId.inj gone)⟩
      · cases extra
  · by_cases pickup : command.action = .recordPickup
    · exact .inr pickup
    · left
      rw [same]
      exact tail_delivery fitting patched pickup _
  · have referral := referral_written (begun row rule.decision.target
      (command.now.getD (toMillis tx))) (tail command rule.decision timestamps)
    rw [tail, ← same] at referral
    rcases referral with stays | referred
    · exact .inl stays
    · rcases columns _ referred with ⟨_, other⟩ | time | ⟨gone, _⟩ | ⟨_, extra⟩
      · cases other
      · cases time
      · cases gone
      · exact .inr extra

/-- The rule a transition follows: its guard held of the row, and it chose the
status and the reason the row is left with. -/
theorem transition_rule {periods : Periods} {command : TransitionCommand} {tx : Micros}
    {row : StoredOrder} {change : Applied} (fitting : Fitting command.action command.patch)
    (ok : transitionUsing periods command tx row = .ok (.applied change)) :
    ∃ rule ∈ orderTransitions, rule.status = row.status ∧ rule.action = command.action ∧
      rule.guard (contextOf (mapOrder row) command (command.now.getD (toMillis tx))) = true ∧
      rule.decision.target = change.next.status ∧
      (∀ reason, rule.decision.releaseReason = some reason →
        change.next.releaseReason = some reason) ∧
      Writes periods command row rule.decision (command.now.getD (toMillis tx)) change := by
  obtain ⟨decision, decided, _, _, writes⟩ := transition_ok ok
  obtain ⟨rule, member, status, action, _, guarded, rfl⟩ := decide_rule decided
  obtain ⟨timestamps, patched, same⟩ := writes.next
  rw [patch_begun] at same
  have kept := tail_keeps fitting patched (begun row rule.decision.target
    (command.now.getD (toMillis tx)))
  rw [tail, ← same] at kept
  refine ⟨rule, member, status, action, guarded, kept.1.symm, ?_, writes⟩
  intro reason decides
  rw [same]
  exact tail_reason fitting patched decides _

theorem acceptance_stepped {orderId : WrittenId} {caller : AuthContext} {expectedVersion : Int}
    {correlationId : String} {tx : Micros} {row : StoredOrder} {change : Applied}
    (named : orderId.id = row.orderId)
    (free : acceptable caller.userId expectedVersion tx row = true)
    (ok : acceptUsing orderId caller.userId correlationId tx row = .ok change) :
    Stepped (.acceptance orderId caller expectedVersion correlationId) tx row change := by
  obtain ⟨rfl, _⟩ := accept_ok ok
  obtain ⟨status, _⟩ := acceptable_parts free
  refine ⟨?_, rfl, ⟨⟨.opened, .accept, [.otherStudent], fun c => !c.acceptanceDeadlinePassed,
      statusChanged .accepted⟩, by simp [orderTransitions], status.symm, rfl, rfl, rfl, nofun⟩, ?_, ?_,
    rfl, rfl, rfl, rfl, ?_, .inr ⟨?_, .inr ⟨rfl, rfl⟩⟩, .inl rfl, .inl rfl⟩
  · constructor <;> rfl
  · intro event member _
    cases List.mem_singleton.mp member
    exact ⟨named, by rw [status], rfl, rfl⟩
  · simp [acceptance, acceptanceHistory, status]
  · simp [acceptance, acceptanceHistory, Cause.stamp, acceptedRow, mapOrder]
  · rw [status]
    rfl

theorem applies_stepped {periods : Periods} {tx : Micros} {cause : Cause} {row : StoredOrder}
    {change : Applied} (named : cause.orderId.id = row.orderId) (fitting : cause.fitting)
    (applies : cause.applies periods tx row change) : Stepped cause tx row change := by
  cases cause with
  | transition command => exact transition_stepped fitting applies
  | acceptance orderId caller expectedVersion correlationId =>
      exact acceptance_stepped named applies.1 applies.2

end Foc.Order
