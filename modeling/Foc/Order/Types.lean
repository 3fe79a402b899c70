import Foc.Order.StateMachine
import Mathlib.Data.Int.Init
import Mathlib.Tactic.Common

/-!
The rows of the Order database and the values read from and written to them.
A timestamp column holds microseconds and a JavaScript date milliseconds, so a
row read is not always the row stored. The checks are the schema's.
-/
namespace Foc.Order

/-- A UUID, as the number its digits write. -/
abbrev Uuid := Nat

/-- A UUID as text: which of its letters are written as capitals. PostgreSQL
writes none. -/
structure WrittenId where
  id : Uuid
  capitals : Nat
  deriving DecidableEq, Repr

def written (id : Uuid) : WrittenId := { id, capitals := 0 }

abbrev UserId := String

abbrev Micros := Int

abbrev Millis := Int

def toMillis (time : Micros) : Millis := time / 1000

def toMicros (time : Millis) : Micros := time * 1000

structure SupplierSnapshot where
  supplierId : Uuid
  name : String
  type : String
  building : String
  floor : String
  locationDescription : String
  deriving DecidableEq, Repr

structure OrderItem where
  name : String
  quantity : Nat
  note : Option String
  deriving DecidableEq, Repr

/-- A row of `orders`. -/
structure StoredOrder where
  orderId : Uuid
  requesterId : UserId
  courierId : Option UserId
  referredAdminId : Option UserId
  supplierSnapshot : SupplierSnapshot
  items : List OrderItem
  deliveryZone : String
  deliveryInstructions : String
  reward : Int
  status : OrderStatus
  releaseReason : Option ReleaseReason
  rejectionReason : Option String
  availableAtRejection : Option Int
  version : Int
  acceptanceDeadlineAt : Option Micros
  acceptedAt : Option Micros
  pickedUpAt : Option Micros
  deliveredAt : Option Micros
  nonDeliveryReportAt : Option Micros
  autoConfirmAt : Option Micros
  requesterSuspendedAt : Option Micros
  completionRequestedAt : Option Micros
  completedAt : Option Micros
  releaseRequestedAt : Option Micros
  releasedAt : Option Micros
  creditTransactionId : Option Uuid
  createdAt : Micros
  updatedAt : Micros
  deriving DecidableEq, Repr

/-- The same row as the service reads it. -/
structure OrderRow where
  orderId : Uuid
  requesterId : UserId
  courierId : Option UserId
  referredAdminId : Option UserId
  supplierSnapshot : SupplierSnapshot
  items : List OrderItem
  deliveryZone : String
  deliveryInstructions : String
  reward : Int
  status : OrderStatus
  releaseReason : Option ReleaseReason
  rejectionReason : Option String
  availableAtRejection : Option Int
  version : Int
  acceptanceDeadlineAt : Option Millis
  acceptedAt : Option Millis
  pickedUpAt : Option Millis
  deliveredAt : Option Millis
  nonDeliveryReportAt : Option Millis
  autoConfirmAt : Option Millis
  completionRequestedAt : Option Millis
  completedAt : Option Millis
  releaseRequestedAt : Option Millis
  releasedAt : Option Millis
  creditTransactionId : Option Uuid
  createdAt : Millis
  updatedAt : Millis
  deriving DecidableEq, Repr

def mapOrder (row : StoredOrder) : OrderRow :=
  { orderId := row.orderId
    requesterId := row.requesterId
    courierId := row.courierId
    referredAdminId := row.referredAdminId
    supplierSnapshot := row.supplierSnapshot
    items := row.items
    deliveryZone := row.deliveryZone
    deliveryInstructions := row.deliveryInstructions
    reward := row.reward
    status := row.status
    releaseReason := row.releaseReason
    rejectionReason := row.rejectionReason
    availableAtRejection := row.availableAtRejection
    version := row.version
    acceptanceDeadlineAt := row.acceptanceDeadlineAt.map toMillis
    acceptedAt := row.acceptedAt.map toMillis
    pickedUpAt := row.pickedUpAt.map toMillis
    deliveredAt := row.deliveredAt.map toMillis
    nonDeliveryReportAt := row.nonDeliveryReportAt.map toMillis
    autoConfirmAt := row.autoConfirmAt.map toMillis
    completionRequestedAt := row.completionRequestedAt.map toMillis
    completedAt := row.completedAt.map toMillis
    releaseRequestedAt := row.releaseRequestedAt.map toMillis
    releasedAt := row.releasedAt.map toMillis
    creditTransactionId := row.creditTransactionId
    createdAt := toMillis row.createdAt
    updatedAt := toMillis row.updatedAt }

/-! ## What the database refuses -/

inductive DbError where
  | checkViolation
  | notNullViolation
  | uniqueViolation
  | outOfRange
  | unstorableText
  deriving DecidableEq, Repr

/-- Text PostgreSQL can hold: it has no NUL. -/
def storable (text : String) : Bool := !text.toList.contains (Char.ofNat 0)

def fitsInteger (value : Int) : Bool :=
  decide (-2147483648 ≤ value) && decide (value ≤ 2147483647)

def lengthBetween (low high : Nat) (text : String) : Bool :=
  decide (low ≤ text.length) && decide (text.length ≤ high)

/-- The statuses in which an errand must name its courier. -/
def needsCourier : OrderStatus → Bool
  | .accepted | .pickedUp | .delivered | .disputed | .completionPendingCredit | .completed => true
  | _ => false

def released : OrderStatus → Bool
  | .cancelled | .expired => true
  | _ => false

/-- The CHECK constraints of `orders`. The enumerations of statuses and release
reasons, and that the items are an array and the supplier an object, are types. -/
structure StoredOrder.Checked (row : StoredOrder) : Prop where
  rewardRange : 1 ≤ row.reward ∧ row.reward ≤ 5
  versionPositive : 1 ≤ row.version
  itemsArray : row.items ≠ []
  deliveryZoneLength : lengthBetween 1 200 row.deliveryZone = true
  deliveryInstructionsLength : lengthBetween 1 1000 row.deliveryInstructions = true
  courierShape : needsCourier row.status = true → row.courierId.isSome = true
  completedShape : row.status = .completed →
    row.completedAt.isSome = true ∧ row.creditTransactionId.isSome = true
  releasedShape : released row.status = true → row.releasedAt.isSome = true ∧
    row.creditTransactionId.isSome = true ∧ row.releaseReason.isSome = true
  rejectionShape : row.status = .rejected ↔ row.rejectionReason.isSome = true
  pickedUpShape : row.status = .pickedUp → row.nonDeliveryReportAt.isSome = true
  deliveredShape : row.status = .delivered → row.autoConfirmAt.isSome = true

def StoredOrder.checks (row : StoredOrder) : Bool :=
  (decide (1 ≤ row.reward) && decide (row.reward ≤ 5)) &&
  decide (1 ≤ row.version) &&
  !row.items.isEmpty &&
  lengthBetween 1 200 row.deliveryZone &&
  lengthBetween 1 1000 row.deliveryInstructions &&
  (!needsCourier row.status || row.courierId.isSome) &&
  (decide (row.status ≠ .completed) ||
    (row.completedAt.isSome && row.creditTransactionId.isSome)) &&
  (!released row.status ||
    (row.releasedAt.isSome && row.creditTransactionId.isSome && row.releaseReason.isSome)) &&
  (decide (row.status = .rejected) == row.rejectionReason.isSome) &&
  (decide (row.status ≠ .pickedUp) || row.nonDeliveryReportAt.isSome) &&
  (decide (row.status ≠ .delivered) || row.autoConfirmAt.isSome)

theorem checks_iff (row : StoredOrder) : row.checks = true ↔ row.Checked := by
  unfold StoredOrder.checks
  simp only [Bool.and_eq_true, Bool.or_eq_true, Bool.not_eq_true', decide_eq_true_eq, beq_iff_eq]
  constructor
  · rintro ⟨⟨⟨⟨⟨⟨⟨⟨⟨⟨reward, version⟩, items⟩, zone⟩, instructions⟩, courier⟩, completed⟩, closed⟩,
      rejection⟩, pickedUp⟩, delivered⟩
    refine ⟨reward, version, ?_, zone, instructions, ?_, ?_, ?_, ?_, ?_, ?_⟩
    · simpa using items
    · intro needs
      simpa [needs] using courier
    · intro status
      simpa [status] using completed
    · intro status
      simpa [status, and_assoc] using closed
    · rw [← rejection, decide_eq_true_eq]
    · intro status
      simpa [status] using pickedUp
    · intro status
      simpa [status] using delivered
  · intro checked
    refine ⟨⟨⟨⟨⟨⟨⟨⟨⟨⟨checked.rewardRange, checked.versionPositive⟩, ?_⟩,
      checked.deliveryZoneLength⟩, checked.deliveryInstructionsLength⟩, ?_⟩, ?_⟩, ?_⟩, ?_⟩, ?_⟩, ?_⟩
    · simpa using checked.itemsArray
    · cases needs : needsCourier row.status with
      | false => exact .inl rfl
      | true => exact .inr (checked.courierShape needs)
    · by_cases status : row.status = .completed
      · exact .inr (checked.completedShape status)
      · exact .inl status
    · have shape := checked.releasedShape
      cases closed : released row.status with
      | false => exact .inl rfl
      | true =>
          obtain ⟨at_, transaction, reason⟩ := shape closed
          exact .inr ⟨⟨at_, transaction⟩, reason⟩
    · have shape := checked.rejectionShape
      by_cases status : row.status = .rejected
      · simp [status, shape.mp status]
      · have none : row.rejectionReason.isSome = false := by
          by_contra some
          exact status (shape.mpr ((Bool.not_eq_false _).mp some))
        simp [status, none]
    · by_cases status : row.status = .pickedUp
      · exact .inr (checked.pickedUpShape status)
      · exact .inl status
    · by_cases status : row.status = .delivered
      · exact .inr (checked.deliveredShape status)
      · exact .inl status

/-- Writing a row: its numbers must fit their columns and its checks hold. -/
def storeOrder (row : StoredOrder) : Except DbError StoredOrder :=
  if !(fitsInteger row.version && fitsInteger row.reward &&
      row.availableAtRejection.all fitsInteger) then
    .error .outOfRange
  else if row.checks then .ok row
  else .error .checkViolation

/-! ## History, receipts and events -/

inductive ActorType where
  | requester
  | courier
  | student
  | admin
  | creditService
  | system
  deriving DecidableEq, Repr

/-- What a history row says happened: the creation, or an action. -/
inductive HistoryAction where
  | create
  | action (taken : OrderAction)
  deriving DecidableEq, Repr

/-- A row of `order_status_history`, but for its order and version. -/
structure HistoryEntry where
  previousStatus : Option OrderStatus
  newStatus : OrderStatus
  action : HistoryAction
  actorType : ActorType
  actorId : Option String
  reason : Option String
  occurredAt : Micros
  deriving DecidableEq, Repr

/-- Every column but the delivery is NOT NULL. -/
structure OrderReceipt where
  orderId : Uuid
  requesterId : UserId
  courierId : UserId
  supplierSnapshot : SupplierSnapshot
  items : List OrderItem
  reward : Int
  creditTransactionId : Uuid
  createdAt : Micros
  acceptedAt : Micros
  pickedUpAt : Micros
  deliveredAt : Option Micros
  completionRequestedAt : Micros
  completedAt : Micros
  deriving DecidableEq, Repr

inductive Payload where
  | statusChanged (orderId : WrittenId) (previousStatus : Option OrderStatus)
      (newStatus : OrderStatus) (occurredAt : Millis) (orderVersion : Int)
  | reservationRequested (orderId : WrittenId) (requesterId : UserId) (amount : Int)
  | completionRequested (orderId : WrittenId) (requesterId courierId : UserId) (amount : Int)
  | releaseRequested (orderId : WrittenId) (requesterId : UserId) (amount : Int)
  deriving DecidableEq, Repr

def Payload.eventType : Payload → EventType
  | .statusChanged .. => .statusChanged
  | .reservationRequested .. => .reservationRequested
  | .completionRequested .. => .completionRequested
  | .releaseRequested .. => .releaseRequested

/-- An integer that a number holds exactly, at least 1. -/
def positiveInt (value : Int) : Bool :=
  decide (1 ≤ value) && decide (value ≤ 9007199254740991)

/-- The payload's catalogue schema accepts it. -/
def Payload.valid : Payload → Bool
  | .statusChanged _ _ _ _ orderVersion => positiveInt orderVersion
  | .reservationRequested _ requesterId amount => decide (requesterId ≠ "") && positiveInt amount
  | .completionRequested _ requesterId courierId amount =>
      decide (requesterId ≠ "") && decide (courierId ≠ "") && positiveInt amount
  | .releaseRequested _ requesterId amount => decide (requesterId ≠ "") && positiveInt amount

/-- A row of the outbox, but for its id. -/
structure OutboxEvent where
  aggregateId : WrittenId
  payload : Payload
  correlationId : String
  causationId : Option Uuid
  deriving DecidableEq, Repr

end Foc.Order
