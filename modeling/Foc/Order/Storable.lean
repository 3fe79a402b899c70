import Foc.Order.Lifecycle

/-!
Every change of an errand can be stored: its row meets the table's checks, its
receipt has every column, its events meet their schemas. What can fail is text
PostgreSQL has no way to hold, and a version past the end of its column.
-/
namespace Foc.Order

variable {periods : Periods}

/-- What the database takes of a change, and the schemas of its events. -/
structure Storable (change : Applied) : Prop where
  row : change.next.Checked
  stored : storeOrder change.next = .ok change.next
  events : ∀ event ∈ change.events, event.payload.valid = true

/-! ## Text -/

theorem storable_of_subset {text part : String} (holds : storable text = true)
    (within : ∀ char ∈ part.toList, char ∈ text.toList) : storable part = true := by
  simp only [storable, Bool.not_eq_true', List.contains_eq_mem, decide_eq_false_iff_not]
    at holds ⊢
  intro member
  exact holds (within _ member)

theorem trim_storable {text : String} (holds : storable text = true) :
    storable (trim text) = true := by
  apply storable_of_subset holds
  intro char member
  simp only [trim, String.toList_ofList, List.mem_reverse] at member
  have inner := (List.dropWhile_sublist isSpace).mem member
  rw [List.mem_reverse] at inner
  exact (List.dropWhile_sublist isSpace).mem inner

theorem issued_actor {command : TransitionCommand} (issued : Issued command) :
    command.actor.id.all storable = true := by
  cases issued with
  | participant orderId action expectedVersion caller =>
      simpa [participantCommand, AuthContext.actor, CommandActor.id, AuthContext.userId] using
        caller.user.text
  | resolve orderId outcome reason expectedVersion caller =>
      simpa [resolveCommand, participantCommand, AuthContext.actor, CommandActor.id,
        AuthContext.userId] using caller.user.text
  | reserved => rfl
  | rejected => rfl
  | released => rfl
  | transferred => rfl
  | suspension => rfl
  | expire => rfl
  | pickupTimeout => rfl
  | autoConfirm => rfl
  | undelivered => rfl
  | unassign => rfl
  | assign => rfl

/-- Only the transfer's command writes a receipt. -/
theorem issued_receipt {command : TransitionCommand} (issued : Issued command)
    (inserts : command.insertsReceipt = true) :
    command.action = .transferConfirmed ∧
      ∃ transactionId, command.patch = [.creditTransactionId transactionId] := by
  cases issued with
  | transferred envelope payload => exact ⟨rfl, _, rfl⟩
  | _ => cases inserts

theorem issued_available {command : TransitionCommand} (issued : Issued command) :
    ∀ value, Assign.availableAtRejection value ∈ command.patch →
      value.all fitsInteger = true := by
  have fitting := issued_fitting issued
  intro value member
  cases issued with
  | rejected envelope orderId refusal balance =>
      simp only [rejectedCommand, List.mem_cons, reduceCtorEq, Assign.availableAtRejection.injEq,
        List.not_mem_nil, or_false, false_or] at member
      exact member ▸ balance
  | _ => simp_all [participantCommand, resolveCommand, reservedCommand, creditCommand,
      releaseCommand, transferCommand, suspensionCommand, systemCommand, expireCommand, fire,
      pickupTimeoutCommand, autoConfirmCommand, undeliveredCommand, unassignCommand, assignCommand]

/-! ## Every write succeeds -/

/-- The parts of a transition that could throw, each shown not to. -/
theorem timestamps_found (periods : Periods) {row : StoredOrder} {action : OrderAction}
    {actor : OrderActor} {context : TransitionContext} {decision : TransitionDecision}
    (now : Millis)
    (lawful : Lawful row) (decided : decideTransition row.status action actor context =
      some decision) :
    ∃ timestamps, timestampPatch periods action decision now (mapOrder row) = .ok timestamps := by
  by_cases reopens : action = .courierSuspended ∧ decision.target = .opened
  · obtain ⟨rule, member, status, taken, _, _, rfl⟩ := decide_rule decided
    have source : ∀ rule ∈ orderTransitions, rule.action = .courierSuspended →
        rule.decision.target = .opened → rule.status = .accepted := by decide
    have shape := lawful.shape
    unfold Shape at shape
    rw [← status, source rule member (taken.trans reopens.1) reopens.2] at shape
    obtain ⟨deadline, held⟩ := shape.2.2
    obtain ⟨acceptedAt, since⟩ := Option.isSome_iff_exists.mp shape.2.1
    exact ⟨_, by simp [timestampPatch, reopens, mapOrder, held, since]; rfl⟩
  · unfold timestampPatch
    simp only [reopens, if_false]
    repeat' split
    all_goals exact ⟨_, rfl⟩

theorem history_stored {command : TransitionCommand} (issued : Issued command)
    (text : command.reason.all storable = true) (before after : OrderRow) (now : Millis) :
    historyRow (historyOf command before after now) = .ok (historyOf command before after now) := by
  have actor := issued_actor issued
  have reason : (command.reason.map trim).all storable = true := by
    cases given : command.reason with
    | none => rfl
    | some reason =>
        rw [given] at text
        exact trim_storable text
  simp [historyRow, historyOf, actor, reason]

theorem positive_amount {row : StoredOrder} (sound : Sound row) :
    positiveInt row.reward = true ∧ positiveInt row.version = true := by
  have reward := sound.reward
  have version := sound.version
  constructor
  · simp only [positiveInt, Bool.and_eq_true, decide_eq_true_eq]
    omega
  · simp only [positiveInt, Bool.and_eq_true, decide_eq_true_eq]
    omega

/-- A decision's payloads can all be made from a lawful row in its target status. -/
theorem payload_made (before : OrderRow) {next : StoredOrder} (now : Millis)
    {rule : TransitionRule} {eventType : EventType} (lawful : Lawful next)
    (member : rule ∈ orderTransitions) (status : next.status = rule.decision.target)
    (emitted : eventType ∈ rule.decision.emitted) :
    ∃ payload, emittedEvent before (mapOrder next) now eventType = .ok payload ∧
      payload.valid = true := by
  obtain ⟨reward, version⟩ := positive_amount lawful.sound
  have named := decide_eq_true lawful.sound.requester
  cases eventType with
  | statusChanged => exact ⟨_, rfl, version⟩
  | releaseRequested => exact ⟨_, rfl, Bool.and_eq_true_iff.mpr ⟨named, reward⟩⟩
  | reservationRequested =>
      have never : ∀ rule ∈ orderTransitions,
          EventType.reservationRequested ∉ rule.decision.emitted := by decide
      exact absurd emitted (never rule member)
  | completionRequested =>
      have completing : ∀ rule ∈ orderTransitions,
          EventType.completionRequested ∈ rule.decision.emitted →
            rule.decision.target = .completionPendingCredit := by decide
      have shape := lawful.shape
      unfold Shape at shape
      rw [status, completing rule member emitted] at shape
      obtain ⟨courierId, held⟩ := Option.isSome_iff_exists.mp shape.1.1
      have courier : courierId ≠ "" := by
        intro empty
        exact lawful.sound.courier (empty ▸ held)
      refine ⟨.completionRequested (written next.orderId) next.requesterId courierId next.reward,
        ?_, ?_⟩
      · simp [emittedEvent, mapOrder, held, courier]
      · exact Bool.and_eq_true_iff.mpr
          ⟨Bool.and_eq_true_iff.mpr ⟨named, decide_eq_true courier⟩, reward⟩

theorem outbox_takes {event : OutboxEvent} (valid : event.payload.valid = true) :
    outboxRow event = .ok event := by
  simp [outboxRow, valid]

theorem events_made {emitted : List EventType} {make : EventType → Except Failure OutboxEvent}
    (made : ∀ eventType ∈ emitted, ∃ event, make eventType = .ok event ∧
      event.payload.valid = true) :
    ∃ events, emitted.mapM make = .ok events ∧ ∀ event ∈ events, event.payload.valid = true := by
  induction emitted with
  | nil => exact ⟨[], rfl, by simp⟩
  | cons eventType rest ih =>
      obtain ⟨event, first, valid⟩ := made eventType (.head _)
      obtain ⟨events, others, all⟩ := ih fun other member => made other (.tail _ member)
      refine ⟨event :: events, ?_, ?_⟩
      · simp only [List.mapM_cons, first, others]
        rfl
      · intro other member
        rcases List.mem_cons.mp member with rfl | later
        · exact valid
        · exact all other later

theorem receipt_complete {order : OrderRow} (reward : 1 ≤ order.reward ∧ order.reward ≤ 5)
    (courier : order.courierId.isSome = true) (transaction : order.creditTransactionId.isSome = true)
    (accepted : order.acceptedAt.isSome = true) (pickedUp : order.pickedUpAt.isSome = true)
    (requested : order.completionRequestedAt.isSome = true)
    (completed : order.completedAt.isSome = true) : ∃ receipt, receiptOf order = .ok receipt := by
  obtain ⟨_, courier⟩ := Option.isSome_iff_exists.mp courier
  obtain ⟨_, transaction⟩ := Option.isSome_iff_exists.mp transaction
  obtain ⟨_, accepted⟩ := Option.isSome_iff_exists.mp accepted
  obtain ⟨_, pickedUp⟩ := Option.isSome_iff_exists.mp pickedUp
  obtain ⟨_, requested⟩ := Option.isSome_iff_exists.mp requested
  obtain ⟨_, completed⟩ := Option.isSome_iff_exists.mp completed
  simp only [receiptOf, courier, transaction, accepted, pickedUp, requested, completed, reward,
    and_self, if_true]
  exact ⟨_, rfl⟩

theorem receipt_made {row : StoredOrder} {command : TransitionCommand} {now : Millis}
    {actor : OrderActor} {context : TransitionContext} {decision : TransitionDecision}
    {timestamps : List Assign} (lawful : Lawful row) (issued : Issued command)
    (decided : decideTransition row.status command.action actor context = some decision)
    (ok : timestampPatch periods command.action decision now (mapOrder row) = .ok timestamps) :
    ∃ receipt, receiptFor command (mapOrder (applyPatch row
        (patchOf command decision now (mapOrder row) timestamps))) = .ok receipt ∧
      (command.insertsReceipt = true → receipt.isSome = true) := by
  unfold receiptFor
  cases inserts : command.insertsReceipt with
  | false => exact ⟨none, rfl, by simp⟩
  | true =>
      obtain ⟨action, transactionId, patch⟩ := issued_receipt issued inserts
      obtain ⟨rule, member, status, taken, _, _, rfl⟩ := decide_rule decided
      have only : ∀ rule ∈ orderTransitions, rule.action = .transferConfirmed →
          rule.status = .completionPendingCredit ∧ rule.decision = statusChanged .completed := by
        decide
      obtain ⟨source, same⟩ := only rule member (taken.trans action)
      have shape := lawful.shape
      unfold Shape at shape
      rw [← status, source] at shape
      obtain ⟨⟨courier, accepted, pickedUp⟩, requested⟩ := shape
      rw [action, same] at ok
      cases ok
      rw [patch_begun, patch, same]
      obtain ⟨receipt, made⟩ : ∃ receipt, receiptOf (mapOrder
          (applyPatch (begun row .completed now)
            [.completedAt now, .creditTransactionId transactionId])) = .ok receipt := by
        apply receipt_complete lawful.sound.reward
        · exact courier
        · rfl
        · simpa [mapOrder, begun] using accepted
        · simpa [mapOrder, begun] using pickedUp
        · simpa [mapOrder, begun] using requested
        · rfl
      refine ⟨some receipt, ?_, fun _ => rfl⟩
      have made := congrArg (fun result => some <$> database result) made
      exact made

/-- What the table decides on a lawful row is written in full. -/
theorem decision_stored (periods : Periods) {row : StoredOrder} {command : TransitionCommand}
    {actor : OrderActor} {context : TransitionContext} {decision : TransitionDecision}
    (now : Millis)
    (lawful : Lawful row) (issued : Issued command)
    (decided : decideTransition row.status command.action actor context = some decision)
    (version : row.version < 2147483647) (text : command.reason.all storable = true) :
    ∃ change, applyDecision periods command row decision now = .ok change ∧ Storable change ∧
      (command.insertsReceipt = true → change.receipt.isSome = true) := by
  obtain ⟨timestamps, patched⟩ := timestamps_found periods now lawful decided
  have moved := transition_moved lawful (issued_fitting issued) decided patched
  have available : (applyPatch row (patchOf command decision now (mapOrder row)
      timestamps)).availableAtRejection.all fitsInteger = true := by
    rcases moved.available with kept | written
    · rw [kept]
      exact lawful.sound.available
    · exact issued_available issued _ written
  have next := lawful_next lawful moved (patch_same row _) version available
  obtain ⟨receipt, received, filled⟩ := receipt_made lawful issued decided patched
  obtain ⟨rule, member, _, _, _, _, rfl⟩ := decide_rule decided
  generalize wrote : applyPatch row (patchOf command rule.decision now (mapOrder row)
    timestamps) = stored at moved next received
  obtain ⟨events, emitted, valid⟩ : ∃ events,
      rule.decision.emitted.mapM (eventFor command (mapOrder row) (mapOrder stored) now) =
          .ok events ∧ ∀ event ∈ events, event.payload.valid = true := by
    apply events_made
    intro eventType emits
    obtain ⟨payload, made, valid⟩ := payload_made (mapOrder row) now next member moved.status emits
    refine ⟨⟨written row.orderId, payload, command.correlationId, command.causationId⟩, ?_, valid⟩
    simp only [eventFor, made, bind, Except.bind]
    exact outbox_takes valid
  refine ⟨⟨stored, historyOf command (mapOrder row) (mapOrder stored) now, receipt, events⟩, ?_,
    ⟨lawful_checked next, lawful_stored next, valid⟩, filled⟩
  simp only [applyDecision, patched, wrote, lawful_stored next, history_stored issued text,
    received, emitted, database, bind, Except.bind, pure, Except.pure]

/-- An acceptance of a lawful open row is written in full. -/
theorem acceptance_stored {row : StoredOrder} (lawful : Lawful row) (caller : AuthContext)
    (orderId : WrittenId) (correlationId : String) (tx : Micros) (status : row.status = .opened)
    (version : row.version < 2147483647) :
    ∃ change, acceptUsing orderId caller.userId correlationId tx row = .ok change ∧
      Storable change := by
  obtain ⟨_, courier, rejection, shape⟩ := accepted_moved caller tx lawful status
  have sound := lawful.sound
  have next : Lawful (acceptedRow caller.userId tx row) := by
    refine ⟨⟨sound.reward, sound.items, sound.deliveryZone, sound.deliveryInstructions,
      sound.requester, courier, ?_, sound.available, rejection⟩, shape⟩
    have before := sound.version
    simp only [acceptedRow]
    omega
  have actor : storable caller.userId = true := caller.user.text
  have valid := (positive_amount next.sound).2
  have noted : historyRow
      (acceptanceHistory caller.userId (mapOrder (acceptedRow caller.userId tx row))) = .ok _ :=
    if_pos (by simpa [acceptanceHistory] using actor)
  have taken : outboxRow (acceptanceEvent orderId correlationId
      (mapOrder (acceptedRow caller.userId tx row))) = .ok _ := outbox_takes valid
  refine ⟨acceptance orderId caller.userId correlationId tx row, ?_, lawful_checked next,
    lawful_stored next, ?_⟩
  · simp only [acceptUsing, lawful_stored next, noted, taken, database, bind, Except.bind, pure,
      Except.pure]
    rfl
  · intro event member
    cases List.mem_singleton.mp member
    exact valid

end Foc.Order
