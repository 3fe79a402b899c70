import Foc.Order.Types

/-!
What the repository computes from a row it has locked: who the caller is to the
errand, what the table decides, and the row, history entry, receipt and events to
write. A failure is what the code throws, which rolls its transaction back.
-/
namespace Foc.Order

inductive Failure where
  | notDue
  | unparseable
  | staleEvent
  | keyReused
  | missingOrder
  | api (status : Nat) (code : String)
  | invalidDate
  | missingCourier
  | uncataloguedEvent
  | invalidPayload
  | database (error : DbError)
  deriving DecidableEq, Repr

/-- The service's settings that a stored time depends on, in milliseconds. -/
structure Periods where
  acceptanceWindow : Nat
  deliveryPeriod : Nat
  autoConfirm : Nat

/-- Who is asking: a person (resolved against the order) or a system actor. -/
inductive CommandActor where
  | user (id : UserId) (isAdmin : Bool)
  | system (id : Option String)
  | creditService
  deriving DecidableEq, Repr

def CommandActor.id : CommandActor → Option String
  | .user id _ => some id
  | .system id => id
  | .creditService => some "credit-service"

/-- A requester or courier acts as that participant even if also an administrator. -/
def resolveActor (order : OrderRow) : CommandActor → OrderActor
  | .system _ => .system
  | .creditService => .creditService
  | .user id isAdmin =>
      if id = order.requesterId then .requester
      else if order.courierId = some id then .assignedCourier
      else if isAdmin then .admin
      else .otherStudent

def historyActor : OrderActor → ActorType
  | .requester => .requester
  | .assignedCourier => .courier
  | .otherStudent => .student
  | .admin => .admin
  | .creditService => .creditService
  | .system => .system

/-! ## Writing columns -/

/-- One column of an update and its new value. -/
inductive Assign where
  | status (value : OrderStatus)
  | version (value : Int)
  | updatedAt (value : Millis)
  | releaseReason (value : ReleaseReason)
  | courierId (value : Option UserId)
  | acceptedAt (value : Option Millis)
  | acceptanceDeadlineAt (value : Millis)
  | pickedUpAt (value : Millis)
  | nonDeliveryReportAt (value : Millis)
  | deliveredAt (value : Millis)
  | autoConfirmAt (value : Millis)
  | completionRequestedAt (value : Millis)
  | completedAt (value : Millis)
  | releaseRequestedAt (value : Millis)
  | releasedAt (value : Millis)
  | creditTransactionId (value : Uuid)
  | rejectionReason (value : String)
  | availableAtRejection (value : Option Int)
  | referredAdminId (value : Option UserId)
  deriving DecidableEq, Repr

@[simp] def Assign.write (row : StoredOrder) : Assign → StoredOrder
  | .status value => { row with status := value }
  | .version value => { row with version := value }
  | .updatedAt value => { row with updatedAt := toMicros value }
  | .releaseReason value => { row with releaseReason := some value }
  | .courierId value => { row with courierId := value }
  | .acceptedAt value => { row with acceptedAt := value.map toMicros }
  | .acceptanceDeadlineAt value => { row with acceptanceDeadlineAt := some (toMicros value) }
  | .pickedUpAt value => { row with pickedUpAt := some (toMicros value) }
  | .nonDeliveryReportAt value => { row with nonDeliveryReportAt := some (toMicros value) }
  | .deliveredAt value => { row with deliveredAt := some (toMicros value) }
  | .autoConfirmAt value => { row with autoConfirmAt := some (toMicros value) }
  | .completionRequestedAt value => { row with completionRequestedAt := some (toMicros value) }
  | .completedAt value => { row with completedAt := some (toMicros value) }
  | .releaseRequestedAt value => { row with releaseRequestedAt := some (toMicros value) }
  | .releasedAt value => { row with releasedAt := some (toMicros value) }
  | .creditTransactionId value => { row with creditTransactionId := some value }
  | .rejectionReason value => { row with rejectionReason := some value }
  | .availableAtRejection value => { row with availableAtRejection := value }
  | .referredAdminId value => { row with referredAdminId := value }

/-- Later assignments win, as in an object spread. -/
def applyPatch (row : StoredOrder) (patch : List Assign) : StoredOrder :=
  patch.foldl Assign.write row

@[simp] theorem patch_nil (row : StoredOrder) : applyPatch row [] = row := rfl

@[simp] theorem patch_cons (row : StoredOrder) (column : Assign) (rest : List Assign) :
    applyPatch row (column :: rest) = applyPatch (column.write row) rest := rfl

/-- The columns a transition sets beside its status, by its action and decision. -/
def timestampPatch (periods : Periods) (action : OrderAction) (decision : TransitionDecision)
    (now : Millis) (order : OrderRow) : Except Failure (List Assign) :=
  let noCourier := [Assign.courierId none, .acceptedAt none]
  let courierRemoved := if action = .withdraw ∨ action = .pickupTimeout then noCourier else []
  if action = .courierSuspended ∧ decision.target = .opened then
    -- The requester gets back the time that courier held the errand.
    match order.acceptanceDeadlineAt, order.acceptedAt with
    | some deadline, some acceptedAt =>
        .ok (noCourier ++ [.acceptanceDeadlineAt (deadline + (now - acceptedAt))])
    | _, _ => .error .invalidDate
  else if action = .recordPickup then
    .ok [.pickedUpAt now, .nonDeliveryReportAt (now + periods.deliveryPeriod)]
  else if action = .creditReserved ∧ decision.target = .opened then
    .ok [.acceptanceDeadlineAt (now + periods.acceptanceWindow)]
  else if action = .recordDelivery then
    .ok [.deliveredAt now, .autoConfirmAt (now + periods.autoConfirm)]
  else if decision.target = .completionPendingCredit then .ok [.completionRequestedAt now]
  else if decision.target = .completed then .ok [.completedAt now]
  else if decision.target = .releasePendingCredit then
    .ok (courierRemoved ++ [.releaseRequestedAt now])
  else if decision.target = .cancelled ∨ decision.target = .expired then .ok [.releasedAt now]
  else .ok courierRemoved

/-! ## Events -/

def emittedEvent (before after : OrderRow) (now : Millis) : EventType → Except Failure Payload
  | .statusChanged =>
      .ok (.statusChanged (written after.orderId) (some before.status) after.status now
        after.version)
  | .completionRequested =>
      match after.courierId with
      | none => .error .missingCourier
      | some courierId =>
          if courierId = "" then .error .missingCourier
          else .ok (.completionRequested (written after.orderId) after.requesterId courierId
            after.reward)
  | .releaseRequested =>
      .ok (.releaseRequested (written after.orderId) after.requesterId after.reward)
  | .reservationRequested => .error .uncataloguedEvent

/-- The outbox takes only payloads their catalogue schema accepts. -/
def outboxRow (event : OutboxEvent) : Except Failure OutboxEvent :=
  if event.payload.valid then .ok event else .error .invalidPayload

/-! ## Transitions -/

structure TransitionCommand where
  orderId : WrittenId
  action : OrderAction
  actor : CommandActor
  expectedVersion : Option Int
  correlationId : String
  causationId : Option Uuid
  now : Option Millis
  verify : OrderRow → Except Failure Unit
  patch : List Assign
  reason : Option String
  requesterSuspended : Bool
  insertsReceipt : Bool

inductive Rejection where
  | notFound
  | forbidden
  | invalidState
  | versionConflict
  deriving DecidableEq, Repr

/-- Everything an applied change writes: the row, its history entry, perhaps a
receipt, and its events in order. -/
structure Applied where
  next : StoredOrder
  history : HistoryEntry
  receipt : Option OrderReceipt
  events : List OutboxEvent
  deriving DecidableEq, Repr

inductive Verdict where
  | rejected (reason : Rejection)
  | applied (change : Applied)
  deriving DecidableEq, Repr

/-- White space as `String.prototype.trim` knows it. -/
def isSpace (char : Char) : Bool :=
  [0x9, 0xa, 0xb, 0xc, 0xd, 0x20, 0xa0, 0x1680, 0x2000, 0x2001, 0x2002, 0x2003, 0x2004, 0x2005,
    0x2006, 0x2007, 0x2008, 0x2009, 0x200a, 0x2028, 0x2029, 0x202f, 0x205f, 0x3000,
    0xfeff].contains char.toNat

def trim (text : String) : String :=
  String.ofList ((text.toList.dropWhile isSpace).reverse.dropWhile isSpace).reverse

def passed (deadline : Option Millis) (now : Millis) : Bool :=
  deadline.any fun deadline => decide (deadline ≤ now)

def contextOf (order : OrderRow) (command : TransitionCommand) (now : Millis) :
    TransitionContext :=
  { acceptanceDeadlinePassed := passed order.acceptanceDeadlineAt now
    deliveryPeriodPassed := passed order.nonDeliveryReportAt now
    autoConfirmationPeriodPassed := passed order.autoConfirmAt now
    requesterSuspended := command.requesterSuspended
    reasonProvided := decide (trim (command.reason.getD "") ≠ "")
    releaseReason := order.releaseReason }

def database {α : Type} : Except DbError α → Except Failure α
  | .ok value => .ok value
  | .error error => .error (.database error)

/-- History text PostgreSQL cannot hold fails its statement. -/
def historyRow (entry : HistoryEntry) : Except Failure HistoryEntry :=
  if (entry.reason.all storable) && (entry.actorId.all storable) then .ok entry
  else .error (.database .unstorableText)

def receiptOf (order : OrderRow) : Except DbError OrderReceipt :=
  match order.courierId, order.creditTransactionId, order.acceptedAt, order.pickedUpAt,
    order.completionRequestedAt, order.completedAt with
  | some courierId, some creditTransactionId, some acceptedAt, some pickedUpAt,
      some completionRequestedAt, some completedAt =>
      if 1 ≤ order.reward ∧ order.reward ≤ 5 then
        .ok
          { orderId := order.orderId
            requesterId := order.requesterId
            courierId
            supplierSnapshot := order.supplierSnapshot
            items := order.items
            reward := order.reward
            creditTransactionId
            createdAt := toMicros order.createdAt
            acceptedAt := toMicros acceptedAt
            pickedUpAt := toMicros pickedUpAt
            deliveredAt := order.deliveredAt.map toMicros
            completionRequestedAt := toMicros completionRequestedAt
            completedAt := toMicros completedAt }
      else .error .checkViolation
  | _, _, _, _, _, _ => .error .notNullViolation

/-- Every column a transition sets; the command's own come last. -/
def patchOf (command : TransitionCommand) (decision : TransitionDecision) (now : Millis)
    (order : OrderRow) (timestamps : List Assign) : List Assign :=
  [.status decision.target, .version (order.version + 1), .updatedAt now] ++
    decision.releaseReason.toList.map Assign.releaseReason ++ timestamps ++ command.patch

def historyOf (command : TransitionCommand) (before after : OrderRow) (now : Millis) :
    HistoryEntry :=
  { previousStatus := some before.status
    newStatus := after.status
    action := .action command.action
    actorType := historyActor (resolveActor before command.actor)
    actorId := command.actor.id
    reason := command.reason.map trim
    occurredAt := toMicros now }

def receiptFor (command : TransitionCommand) (after : OrderRow) :
    Except Failure (Option OrderReceipt) :=
  if command.insertsReceipt then some <$> database (receiptOf after) else .ok none

def eventFor (command : TransitionCommand) (before after : OrderRow) (now : Millis)
    (eventType : EventType) : Except Failure OutboxEvent := do
  let payload ← emittedEvent before after now eventType
  outboxRow
    { aggregateId := written before.orderId
      payload
      correlationId := command.correlationId
      causationId := command.causationId }

def applyDecision (periods : Periods) (command : TransitionCommand) (stored : StoredOrder)
    (decision : TransitionDecision) (now : Millis) : Except Failure Applied := do
  let order := mapOrder stored
  let timestamps ← timestampPatch periods command.action decision now order
  let next ← database (storeOrder (applyPatch stored (patchOf command decision now order timestamps)))
  let after := mapOrder next
  let history ← historyRow (historyOf command order after now)
  let receipt ← receiptFor command after
  let events ← decision.emitted.mapM (eventFor command order after now)
  return { next, history, receipt, events }

/-- What a transition does with the row it locked. `tx` is its transaction's clock. -/
def transitionUsing (periods : Periods) (command : TransitionCommand) (tx : Micros)
    (stored : StoredOrder) : Except Failure Verdict :=
  let order := mapOrder stored
  let actor := resolveActor order command.actor
  let now := command.now.getD (toMillis tx)
  match decideTransition order.status command.action actor (contextOf order command now) with
  | none =>
      .ok (.rejected
        (if allowedSomewhere command.action actor then .invalidState else .forbidden))
  | some decision =>
      if command.expectedVersion.any fun version => decide (version ≠ order.version) then
        .ok (.rejected .versionConflict)
      else do
        command.verify order
        .applied <$> applyDecision periods command stored decision now

/-! ## Acceptance -/

/-- The WHERE clause of the acceptance's update. -/
def acceptable (courierId : UserId) (expectedVersion : Int) (tx : Micros)
    (stored : StoredOrder) : Bool :=
  decide (stored.status = .opened) && decide (stored.version = expectedVersion) &&
    decide (stored.requesterId ≠ courierId) &&
    stored.acceptanceDeadlineAt.any fun deadline => decide (tx < deadline)

def acceptedRow (courierId : UserId) (tx : Micros) (stored : StoredOrder) : StoredOrder :=
  { stored with
    courierId := some courierId
    status := .accepted
    version := stored.version + 1
    acceptedAt := some tx
    updatedAt := tx }

def acceptanceHistory (courierId : UserId) (after : OrderRow) : HistoryEntry :=
  { previousStatus := some .opened
    newStatus := .accepted
    action := .action .accept
    actorType := .student
    actorId := some courierId
    reason := none
    occurredAt := toMicros after.updatedAt }

/-- The event names the errand as the request does. -/
def acceptanceEvent (orderId : WrittenId) (correlationId : String) (after : OrderRow) :
    OutboxEvent :=
  { aggregateId := orderId
    payload := .statusChanged orderId (some .opened) .accepted after.updatedAt after.version
    correlationId
    causationId := none }

/-- What an acceptance writes to an acceptable row. -/
def acceptUsing (orderId : WrittenId) (courierId : UserId) (correlationId : String) (tx : Micros)
    (stored : StoredOrder) : Except Failure Applied := do
  let next ← database (storeOrder (acceptedRow courierId tx stored))
  let after := mapOrder next
  let history ← historyRow (acceptanceHistory courierId after)
  let event ← outboxRow (acceptanceEvent orderId correlationId after)
  return { next, history, receipt := none, events := [event] }

/-! ## Creation -/

/-- A validated request for an errand. -/
structure CreateOrderInput where
  supplierId : Uuid
  items : List OrderItem
  deliveryZone : String
  deliveryInstructions : String
  reward : Int
  deriving DecidableEq, Repr

structure CreatePendingInput where
  request : CreateOrderInput
  requesterId : UserId
  supplierSnapshot : SupplierSnapshot
  correlationId : String
  deriving DecidableEq, Repr

def pendingRow (input : CreatePendingInput) (orderId : Uuid) (now : Millis) : StoredOrder :=
  { orderId
    requesterId := input.requesterId
    courierId := none
    referredAdminId := none
    supplierSnapshot := input.supplierSnapshot
    items := input.request.items
    deliveryZone := input.request.deliveryZone
    deliveryInstructions := input.request.deliveryInstructions
    reward := input.request.reward
    status := .pendingCredit
    releaseReason := none
    rejectionReason := none
    availableAtRejection := none
    version := 1
    acceptanceDeadlineAt := none
    acceptedAt := none
    pickedUpAt := none
    deliveredAt := none
    nonDeliveryReportAt := none
    autoConfirmAt := none
    requesterSuspendedAt := none
    completionRequestedAt := none
    completedAt := none
    releaseRequestedAt := none
    releasedAt := none
    creditTransactionId := none
    createdAt := toMicros now
    updatedAt := toMicros now }

/-- The texts of a new row, its JSON columns among them. -/
def inputTexts (input : CreatePendingInput) : List String :=
  [input.requesterId, input.supplierSnapshot.name, input.supplierSnapshot.type,
    input.supplierSnapshot.building, input.supplierSnapshot.floor,
    input.supplierSnapshot.locationDescription, input.request.deliveryZone,
    input.request.deliveryInstructions] ++
    input.request.items.flatMap fun item => item.name :: item.note.toList

def creationHistory (input : CreatePendingInput) (now : Millis) : HistoryEntry :=
  { previousStatus := none
    newStatus := .pendingCredit
    action := .create
    actorType := .requester
    actorId := some input.requesterId
    reason := none
    occurredAt := toMicros now }

def creationEvents (input : CreatePendingInput) (orderId : Uuid) (now : Millis) :
    List OutboxEvent :=
  [ { aggregateId := written orderId
      payload := .statusChanged (written orderId) none .pendingCredit now 1
      correlationId := input.correlationId
      causationId := none },
    { aggregateId := written orderId
      payload := .reservationRequested (written orderId) input.requesterId input.request.reward
      correlationId := input.correlationId
      causationId := none } ]

/-- What a creation writes, beside its key. `now` is the service's own clock. -/
def createPending (input : CreatePendingInput) (orderId : Uuid) (now : Millis) :
    Except Failure Applied := do
  if !(inputTexts input).all storable then
    .error (.database .unstorableText)
  let next ← database (storeOrder (pendingRow input orderId now))
  let history ← historyRow (creationHistory input now)
  let events ← (creationEvents input orderId now).mapM outboxRow
  return { next, history, receipt := none, events }

/-! ## What each function returns -/

theorem bind_ok {α β : Type} {action : Except Failure α} {rest : α → Except Failure β} {value : β}
    (ok : (action >>= rest) = .ok value) : ∃ item, action = .ok item ∧ rest item = .ok value := by
  cases action with
  | error failure => cases ok
  | ok item => exact ⟨item, rfl, ok⟩

theorem database_ok {α : Type} {result : Except DbError α} {value : α}
    (ok : database result = .ok value) : result = .ok value := by
  cases result with
  | error error => cases ok
  | ok item => cases ok; rfl

theorem history_ok {entry stored : HistoryEntry} (ok : historyRow entry = .ok stored) :
    stored = entry := by
  unfold historyRow at ok
  split at ok
  · cases ok
    rfl
  · cases ok

theorem outbox_ok {event stored : OutboxEvent} (ok : outboxRow event = .ok stored) :
    stored = event ∧ event.payload.valid = true := by
  unfold outboxRow at ok
  split at ok
  · rename_i valid
    cases ok
    exact ⟨rfl, valid⟩
  · cases ok

theorem store_same {row stored : StoredOrder} (ok : storeOrder row = .ok stored) : stored = row := by
  unfold storeOrder at ok
  split at ok
  · cases ok
  · split at ok
    · cases ok
      rfl
    · cases ok

/-- What a change to an existing row writes, and that all of it can be stored. -/
structure Writes (periods : Periods) (command : TransitionCommand) (row : StoredOrder)
    (decision : TransitionDecision) (now : Millis) (change : Applied) : Prop where
  next : ∃ timestamps,
    timestampPatch periods command.action decision now (mapOrder row) = .ok timestamps ∧
      change.next = applyPatch row (patchOf command decision now (mapOrder row) timestamps)
  stored : storeOrder change.next = .ok change.next
  history : change.history = historyOf command (mapOrder row) (mapOrder change.next) now
  receipt : receiptFor command (mapOrder change.next) = .ok change.receipt
  events : decision.emitted.mapM (eventFor command (mapOrder row) (mapOrder change.next) now) =
    .ok change.events

theorem applied_ok {periods : Periods} {command : TransitionCommand} {stored : StoredOrder}
    {decision : TransitionDecision} {now : Millis} {change : Applied}
    (ok : applyDecision periods command stored decision now = .ok change) :
    Writes periods command stored decision now change := by
  obtain ⟨timestamps, patched, ok⟩ := bind_ok ok
  obtain ⟨next, wrote, ok⟩ := bind_ok ok
  obtain ⟨history, noted, ok⟩ := bind_ok ok
  obtain ⟨receipt, received, ok⟩ := bind_ok ok
  obtain ⟨events, emitted, ok⟩ := bind_ok ok
  cases ok
  have wrote := database_ok wrote
  have same := store_same wrote
  exact ⟨⟨timestamps, patched, same⟩, same ▸ wrote, history_ok noted, received, emitted⟩

/-- A transition is applied only by a decision of the table, to the version
expected, after the command's own check. -/
theorem transition_ok {periods : Periods} {command : TransitionCommand} {tx : Micros}
    {stored : StoredOrder} {change : Applied}
    (ok : transitionUsing periods command tx stored = .ok (.applied change)) :
    ∃ decision,
      decideTransition stored.status command.action (resolveActor (mapOrder stored) command.actor)
          (contextOf (mapOrder stored) command (command.now.getD (toMillis tx))) = some decision ∧
        (∀ version, command.expectedVersion = some version → version = stored.version) ∧
        command.verify (mapOrder stored) = .ok () ∧
        Writes periods command stored decision (command.now.getD (toMillis tx)) change := by
  unfold transitionUsing at ok
  simp only at ok
  split at ok
  · cases ok
  · rename_i decision decided
    split at ok
    · cases ok
    · rename_i expected
      obtain ⟨_, verified, ok⟩ := bind_ok ok
      cases written : applyDecision periods command stored decision
          (command.now.getD (toMillis tx)) with
      | error failure => rw [written] at ok; cases ok
      | ok applied =>
          rw [written] at ok
          cases ok
          refine ⟨decision, decided, ?_, verified, applied_ok written⟩
          intro version asked
          rw [asked] at expected
          by_contra different
          exact expected (decide_eq_true different)

theorem outbox_all_ok {events stored : List OutboxEvent} (ok : events.mapM outboxRow = .ok stored) :
    stored = events ∧ ∀ event ∈ events, event.payload.valid = true := by
  induction events generalizing stored with
  | nil =>
      cases ok
      exact ⟨rfl, by simp⟩
  | cons event rest ih =>
      rw [List.mapM_cons] at ok
      obtain ⟨first, taken, ok⟩ := bind_ok ok
      obtain ⟨others, all, ok⟩ := bind_ok ok
      cases ok
      obtain ⟨rfl, valid⟩ := outbox_ok taken
      obtain ⟨rfl, valids⟩ := ih all
      exact ⟨rfl, List.forall_mem_cons.mpr ⟨valid, valids⟩⟩

/-- All an acceptance writes. -/
def acceptance (orderId : WrittenId) (courierId : UserId) (correlationId : String) (tx : Micros)
    (row : StoredOrder) : Applied :=
  { next := acceptedRow courierId tx row
    history := acceptanceHistory courierId (mapOrder (acceptedRow courierId tx row))
    receipt := none
    events := [acceptanceEvent orderId correlationId (mapOrder (acceptedRow courierId tx row))] }

theorem accept_ok {orderId : WrittenId} {courierId : UserId} {correlationId : String}
    {tx : Micros} {row : StoredOrder} {change : Applied}
    (ok : acceptUsing orderId courierId correlationId tx row = .ok change) :
    change = acceptance orderId courierId correlationId tx row ∧
      storeOrder (acceptedRow courierId tx row) = .ok (acceptedRow courierId tx row) := by
  obtain ⟨next, wrote, ok⟩ := bind_ok ok
  obtain ⟨history, noted, ok⟩ := bind_ok ok
  obtain ⟨event, taken, ok⟩ := bind_ok ok
  have wrote := database_ok wrote
  have same := store_same wrote
  subst same
  obtain ⟨rfl, _⟩ := outbox_ok taken
  have noted := history_ok noted
  subst noted
  cases ok
  exact ⟨rfl, wrote⟩

/-- All a creation writes. -/
def creation (input : CreatePendingInput) (orderId : Uuid) (now : Millis) : Applied :=
  { next := pendingRow input orderId now
    history := creationHistory input now
    receipt := none
    events := creationEvents input orderId now }

theorem create_ok {input : CreatePendingInput} {orderId : Uuid} {now : Millis} {change : Applied}
    (ok : createPending input orderId now = .ok change) :
    change = creation input orderId now ∧
      storeOrder (pendingRow input orderId now) = .ok (pendingRow input orderId now) := by
  unfold createPending at ok
  split at ok
  · cases ok
  · obtain ⟨next, wrote, ok⟩ := bind_ok ok
    obtain ⟨history, noted, ok⟩ := bind_ok ok
    obtain ⟨events, taken, ok⟩ := bind_ok ok
    have wrote := database_ok wrote
    have same := store_same wrote
    subst same
    have noted := history_ok noted
    subst noted
    obtain ⟨rfl, _⟩ := outbox_all_ok taken
    cases ok
    exact ⟨rfl, wrote⟩

end Foc.Order
