import Foc.Credit.Repeats
import Foc.Order.Chain
import Mathlib

/-!
The Order Service and the Credit Service together. Each publishes the events it committed to
its outbox, and the other reads an event whenever the broker delivers it: once, more often,
late, in any order, or never. What the reconciler or an operator sends again is an event like
any other.
-/
namespace Foc.Agreement
open Library Library.EventLoop Library.UuidText
open Library.ReadCommitted (Store idle step)
open Foc.Order (Uuid WrittenId Envelope Reservation Reply Refusal Released Transferred OutboxEvent
  OrderWorld OrderEvent written idText)
open Foc.Credit (Tables OutboxRow ReservationRejection)
open Foc.Credit.Interleaving (Request)

/-! ## What each reads of the other's events -/

/-- The errand that a text names. Credit repeats the ids of Order's requests, which are
written without capitals. -/
def readId (text : String) : Option WrittenId := (scanUuid text.toList).map written

/-- An event of Credit's, as Order's consumers read it. -/
inductive Told where
  | reservation (envelope : Envelope) (payload : Reservation) (reply : Reply)
  | released (envelope : Envelope) (payload : Released)
  | transferred (envelope : Envelope) (payload : Transferred)
  deriving DecidableEq

def Told.eventId : Told → Uuid
  | .reservation envelope _ _ | .released envelope _ | .transferred envelope _ => envelope.eventId

def told : Order.Task → Option Told
  | .reservation envelope payload reply => some (.reservation envelope payload reply)
  | .released envelope payload => some (.released envelope payload)
  | .transferred envelope payload => some (.transferred envelope payload)
  | _ => none

/-- `creditReservationRejectedPayload`: only a refusal for insufficient credits has a figure. -/
def refusalOf : ReservationRejection → Option Int → Option Refusal
  | .insufficientCredits, some (.ofNat available) => some (.insufficientCredits available)
  | .insufficientCredits, _ => none
  | .amountOutOfRange, _ => some .amountOutOfRange
  | .conflictingRequest, _ => some .conflictingRequest

def readReply (eventId : Uuid) (row : OutboxRow) : Option Told := do
  let aggregateId ← readId row.aggregateId
  let envelope : Envelope := { eventId, aggregateId, correlationId := row.correlationId }
  match row.payload with
  | .creditsReserved orderId requesterId amount =>
      let orderId ← readId orderId
      return .reservation envelope { orderId, requesterId, amount } .reserved
  | .creditReservationRejected orderId requesterId amount reason available =>
      let orderId ← readId orderId
      let refusal ← refusalOf reason available
      return .reservation envelope { orderId, requesterId, amount } (.rejected refusal)
  | .creditsTransferred result =>
      let orderId ← readId result.orderId
      let transactionId ← scanUuid result.transactionId.toList
      return .transferred envelope
        { reservation := { orderId, requesterId := result.requesterId, amount := result.amount }
          courierId := result.courierId
          transactionId }
  | .creditsReleased result =>
      let orderId ← readId result.orderId
      let transactionId ← scanUuid result.transactionId.toList
      return .released envelope
        { reservation := { orderId, requesterId := result.requesterId, amount := result.amount }
          transactionId }

/-- What Credit's consumers ask of the repository for an event of Order's. -/
def readRequest (eventId : Uuid) (event : OutboxEvent) : Option Request :=
  match event.payload with
  | .statusChanged _ _ _ _ _ => none
  | .reservationRequested orderId requesterId amount =>
      if event.aggregateId = orderId then
        some (.reserve
          { orderId := idText orderId.id
            requesterId
            amount
            correlationId := event.correlationId
            causationId := idText eventId })
      else none
  | .completionRequested orderId requesterId courierId amount =>
      if event.aggregateId = orderId then
        some (.transfer
          { orderId := idText orderId.id
            requesterId
            amount
            correlationId := event.correlationId
            causationId := idText eventId
            courierId })
      else none
  | .releaseRequested orderId requesterId amount =>
      if event.aggregateId = orderId then
        some (.release
          { orderId := idText orderId.id
            requesterId
            amount
            correlationId := event.correlationId
            causationId := idText eventId })
      else none

/-! ## The two services -/

structure World where
  order : OrderWorld
  credit : Credit.Interleaving.State

inductive Event where
  | order (event : OrderEvent)
  | credit (event : Credit.Interleaving.Event)

/-- A task of a consumer of Credit's events has an event to be of. -/
def delivered (tables : Tables) (task : Order.Task) : Bool :=
  (told task).all fun reply =>
    tables.outbox.any fun row => decide (readReply reply.eventId row = some reply)

deriving instance DecidableEq for Credit.Interleaving.Request

/-- A new user's wallet aside, Credit does what an event of Order's asks. -/
def asked (orders : Store Order.Row) (request : Request) : Bool :=
  match request with
  | .issueInitial _ _ => true
  | _ => orders.entries.any fun
    | ⟨.outbox eventId, event⟩ => decide (readRequest eventId event = some request)
    | _ => false

/-- What each service is told by the other, and by `randomUUID`. -/
def permits (world : World) : Event → Bool
  | .order (.begin _ session) => delivered world.credit.tables session.call.task
  | .order (.answer _ ⟨.randomUUID, drawn⟩) => decide (Versioned drawn)
  | .order _ => true
  | .credit (.start request) => asked world.order.committed request
  | .credit _ => true

def turn (settings : Order.Settings) : Turn World Event := fun world event =>
  if permits world event then
    match event with
    | .order event =>
        (step (Order.orderService settings).machine world.order event).map fun order =>
          { world with order }
    | .credit event =>
        (Credit.Interleaving.turn world.credit event).map fun credit => { world with credit }
  else none

/-- Neither has any row yet. -/
def begun (clock creditClock : Order.Micros) (suspended : List Order.UserId) : World :=
  { order := idle ∅ (Order.Env.initial clock suspended)
    credit := Credit.Interleaving.initial creditClock }

end Foc.Agreement
