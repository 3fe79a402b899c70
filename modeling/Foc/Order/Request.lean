import Foc.Library.Json
import Foc.Order.Callers

/-!
What people send, once validated, and what an Idempotency-Key remembers of it:
the SHA-256 of its JSON with every object's keys sorted. Validation has trimmed
the texts and dropped nothing else.
-/
namespace Foc.Order
open Library.Json

/-- A validated `POST /orders`. -/
structure CreateRequest where
  supplierId : WrittenId
  items : List OrderItem
  deliveryZone : String
  deliveryInstructions : String
  reward : Int
  deriving DecidableEq, Repr

def CreateRequest.input (request : CreateRequest) : CreateOrderInput :=
  { supplierId := request.supplierId.id
    items := request.items
    deliveryZone := request.deliveryZone
    deliveryInstructions := request.deliveryInstructions
    reward := request.reward }

abbrev ParticipantAction := { action : OrderAction // action ∈ participantActions }

/-- A validated command. -/
inductive UserRequest where
  | accept (orderId : WrittenId) (expectedVersion : Int)
  | act (orderId : WrittenId) (action : ParticipantAction) (expectedVersion : Int)
  | resolve (orderId : WrittenId) (outcome : Outcome) (reason : String) (expectedVersion : Int)

def UserRequest.orderId : UserRequest → WrittenId
  | .accept orderId _ | .act orderId _ _ | .resolve orderId _ _ _ => orderId

def UserRequest.action : UserRequest → OrderAction
  | .accept _ _ => .accept
  | .act _ action _ => action.val
  | .resolve _ outcome _ _ => resolveAction outcome

def UserRequest.expectedVersion : UserRequest → Int
  | .accept _ version | .act _ _ version | .resolve _ _ _ version => version

def UserRequest.reason : UserRequest → Option String
  | .resolve _ _ reason _ => some reason
  | _ => none

/-! ## Their JSON -/

/-- An id's text: which id, and how its letters are written. -/
def WrittenId.text (id : WrittenId) : String := toString id.id ++ "/" ++ toString id.capitals

def actionName : OrderAction → String
  | .creditReserved => "CREDIT_RESERVED"
  | .creditRejected => "CREDIT_REJECTED"
  | .accept => "ACCEPT"
  | .cancel => "CANCEL"
  | .requesterSuspended => "REQUESTER_SUSPENDED"
  | .acceptanceDeadlinePassed => "ACCEPTANCE_DEADLINE_PASSED"
  | .recordPickup => "RECORD_PICKUP"
  | .withdraw => "WITHDRAW"
  | .pickupTimeout => "PICKUP_TIMEOUT"
  | .courierSuspended => "COURIER_SUSPENDED"
  | .recordDelivery => "RECORD_DELIVERY"
  | .reportNonDelivery => "REPORT_NON_DELIVERY"
  | .deliveryPeriodPassed => "DELIVERY_PERIOD_PASSED"
  | .confirmReceipt => "CONFIRM_RECEIPT"
  | .autoConfirm => "AUTO_CONFIRM"
  | .reportNonReceipt => "REPORT_NON_RECEIPT"
  | .resolveForCourier => "RESOLVE_FOR_COURIER"
  | .resolveForRequester => "RESOLVE_FOR_REQUESTER"
  | .adminAssigned => "ADMIN_ASSIGNED"
  | .adminUnassigned => "ADMIN_UNASSIGNED"
  | .transferConfirmed => "TRANSFER_CONFIRMED"
  | .releaseConfirmed => "RELEASE_CONFIRMED"

def OrderItem.json (item : OrderItem) : Value :=
  .object (ofEntries ([("name", .string item.name), ("quantity", .number item.quantity)] ++
    item.note.toList.map fun note => ("note", .string note)))

def CreateRequest.json (request : CreateRequest) : Value :=
  .object (ofEntries
    [ ("supplierId", .string request.supplierId.text),
      ("items", .array (ofItems (request.items.map OrderItem.json))),
      ("deliveryZone", .string request.deliveryZone),
      ("deliveryInstructions", .string request.deliveryInstructions),
      ("reward", .number request.reward) ])

/-- An undefined reason is no entry at all. -/
def UserRequest.json (request : UserRequest) : Value :=
  .object (ofEntries
    ([ ("orderId", .string request.orderId.text),
       ("action", .string (actionName request.action)),
       ("expectedVersion", .number request.expectedVersion) ] ++
      request.reason.toList.map fun reason => ("reason", .string reason)))

def hashRequest (sha256 : String → String) (request : Value) : String := sha256 (stringify request)

/-- A hash is of one request, up to the order of keys. -/
theorem hash_iff {sha256 : String → String} (injective : Function.Injective sha256)
    {first second : Value} :
    hashRequest sha256 first = hashRequest sha256 second ↔ Same first second :=
  injective.eq_iff.trans stringify_iff

end Foc.Order
