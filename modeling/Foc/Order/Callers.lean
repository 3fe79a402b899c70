import Foc.Order.Repository

/-!
The commands the service's own code issues: participants and administrators over
HTTP, the consumers of Credit's replies and of suspensions, and the lifecycle
scheduler. Nothing else calls a transition.
-/
namespace Foc.Order

/-- An account the User Service names. Its ids are text, and never empty. -/
structure Account where
  id : UserId
  named : id ≠ ""
  text : storable id = true

structure AuthContext where
  user : Account
  isAdmin : Bool

def AuthContext.userId (caller : AuthContext) : UserId := caller.user.id

def AuthContext.actor (caller : AuthContext) : CommandActor :=
  .user caller.userId caller.isAdmin

def accepts (condition : OrderRow → Bool) (failure : Failure) (order : OrderRow) :
    Except Failure Unit :=
  if condition order then .ok () else .error failure

/-! ## People -/

/-- The actions with a route of their own. -/
def participantActions : List OrderAction :=
  [.recordPickup, .recordDelivery, .confirmReceipt, .cancel, .withdraw, .reportNonDelivery,
    .reportNonReceipt]

def participantCommand (orderId : WrittenId) (action : OrderAction) (expectedVersion : Int)
    (caller : AuthContext) (correlationId : String) : TransitionCommand :=
  { orderId
    action
    actor := caller.actor
    expectedVersion := some expectedVersion
    correlationId
    causationId := none
    now := none
    verify := fun _ => .ok ()
    patch := []
    reason := none
    requesterSuspended := false
    insertsReceipt := false }

def notReferred : Failure := .api 403 "NOT_REFERRED_ADMIN"

def resolveCommand (orderId : WrittenId) (outcome : Outcome) (reason : String)
    (expectedVersion : Int) (caller : AuthContext) (correlationId : String) : TransitionCommand :=
  { participantCommand orderId (resolveAction outcome) expectedVersion caller correlationId with
    reason := some reason
    verify := accepts (fun order => decide (order.referredAdminId = some caller.userId))
      notReferred }

/-! ## Credit's replies -/

/-- What a reply restates of the request it answers. -/
structure Reservation where
  orderId : WrittenId
  requesterId : UserId
  amount : Int
  deriving DecidableEq, Repr

inductive Refusal where
  | insufficientCredits (available : Nat)
  | amountOutOfRange
  | conflictingRequest
  deriving DecidableEq, Repr

def Refusal.reason : Refusal → String
  | .insufficientCredits _ => "INSUFFICIENT_CREDITS"
  | .amountOutOfRange => "AMOUNT_OUT_OF_RANGE"
  | .conflictingRequest => "CONFLICTING_REQUEST"

def Refusal.available : Refusal → Option Int
  | .insufficientCredits available => some available
  | .amountOutOfRange | .conflictingRequest => none

/-- The part of an envelope its handlers read. -/
structure Envelope where
  eventId : Uuid
  aggregateId : WrittenId
  correlationId : String
  deriving DecidableEq, Repr

def creditCommand (envelope : Envelope) (orderId : WrittenId) (action : OrderAction) :
    TransitionCommand :=
  { orderId
    action
    actor := .creditService
    expectedVersion := none
    correlationId := envelope.correlationId
    causationId := some envelope.eventId
    now := none
    verify := fun _ => .ok ()
    patch := []
    reason := none
    requesterSuspended := false
    insertsReceipt := false }

def reservedCommand (envelope : Envelope) (orderId : WrittenId) (requesterSuspended : Bool) :
    TransitionCommand :=
  { creditCommand envelope orderId .creditReserved with
    requesterSuspended
    reason := if requesterSuspended then some (suspensionReason .requester) else none }

def rejectedCommand (envelope : Envelope) (orderId : WrittenId) (refusal : Refusal) :
    TransitionCommand :=
  { creditCommand envelope orderId .creditRejected with
    patch := [.rejectionReason refusal.reason, .availableAtRejection refusal.available] }

structure Released where
  reservation : Reservation
  transactionId : Uuid
  deriving DecidableEq, Repr

def Released.matches (payload : Released) (order : OrderRow) : Bool :=
  decide (order.requesterId = payload.reservation.requesterId) &&
    decide (order.reward = payload.reservation.amount)

def releaseCommand (envelope : Envelope) (payload : Released) : TransitionCommand :=
  { creditCommand envelope payload.reservation.orderId .releaseConfirmed with
    patch := [.creditTransactionId payload.transactionId]
    verify := accepts payload.matches .unparseable }

structure Transferred where
  reservation : Reservation
  courierId : UserId
  transactionId : Uuid
  deriving DecidableEq, Repr

def Transferred.matches (payload : Transferred) (order : OrderRow) : Bool :=
  decide (order.requesterId = payload.reservation.requesterId) &&
    decide (order.courierId = some payload.courierId) &&
    decide (order.reward = payload.reservation.amount)

def transferCommand (envelope : Envelope) (payload : Transferred) : TransitionCommand :=
  { creditCommand envelope payload.reservation.orderId .transferConfirmed with
    patch := [.creditTransactionId payload.transactionId]
    verify := accepts payload.matches .unparseable
    insertsReceipt := true }

/-! ## Suspensions and the scheduler -/

def systemCommand (orderId : Uuid) (action : OrderAction) (actor : String)
    (correlationId : String) : TransitionCommand :=
  { orderId := written orderId
    action
    actor := .system (some actor)
    expectedVersion := none
    correlationId
    causationId := none
    now := none
    verify := fun _ => .ok ()
    patch := []
    reason := none
    requesterSuspended := false
    insertsReceipt := false }

def suspensionCommand (envelope : Envelope) (orderId : Uuid) (part : Part)
    (action : OrderAction) : TransitionCommand :=
  { systemCommand orderId action "user-suspensions" envelope.correlationId with
    causationId := some envelope.eventId
    requesterSuspended := decide (part = .requester)
    reason := some (suspensionReason part) }

/-- The scheduler's commands carry the clock its sweep read. -/
def fire (orderId : Uuid) (action : OrderAction) (now : Millis) (correlationId : String) :
    TransitionCommand :=
  { systemCommand orderId action "lifecycle-scheduler" correlationId with now := some now }

def due (deadline : Option Millis) (now : Millis) : Bool :=
  deadline.any fun deadline => decide (deadline ≤ now)

def expireCommand (orderId : Uuid) (now : Millis) (correlationId : String) : TransitionCommand :=
  { fire orderId .acceptanceDeadlinePassed now correlationId with
    verify := accepts (fun order => due order.acceptanceDeadlineAt now) .notDue }

def pickupTimeoutCommand (orderId : Uuid) (now cutoff : Millis) (correlationId : String) :
    TransitionCommand :=
  { fire orderId .pickupTimeout now correlationId with
    verify := accepts (fun order => due order.acceptedAt cutoff) .notDue }

def autoConfirmCommand (orderId : Uuid) (now : Millis) (correlationId : String) :
    TransitionCommand :=
  { fire orderId .autoConfirm now correlationId with
    verify := accepts (fun order => due order.autoConfirmAt now) .notDue }

def undeliveredCommand (orderId : Uuid) (now : Millis) (correlationId : String) :
    TransitionCommand :=
  { fire orderId .deliveryPeriodPassed now correlationId with
    requesterSuspended := true
    reason := some (suspensionReason .requester) }

def unassignCommand (orderId : Uuid) (now : Millis) (heldBy : UserId) (correlationId : String) :
    TransitionCommand :=
  { fire orderId .adminUnassigned now correlationId with
    verify := accepts (fun order => decide (order.referredAdminId = some heldBy)) .notDue
    patch := [.referredAdminId none]
    reason := some heldBy }

def assignCommand (orderId : Uuid) (now : Millis) (admin : Account) (correlationId : String) :
    TransitionCommand :=
  { fire orderId .adminAssigned now correlationId with
    verify := accepts (fun order => decide (order.referredAdminId = none)) .notDue
    patch := [.referredAdminId (some admin.id)]
    reason := some admin.id }

/-- The commands issued. A decision's reason is the validated, trimmed text. -/
inductive Issued : TransitionCommand → Prop where
  | participant (orderId : WrittenId) (action : OrderAction) (expectedVersion : Int)
      (caller : AuthContext) (correlationId : String) (routed : action ∈ participantActions) :
      Issued (participantCommand orderId action expectedVersion caller correlationId)
  | resolve (orderId : WrittenId) (outcome : Outcome) (reason : String) (expectedVersion : Int)
      (caller : AuthContext) (correlationId : String) :
      Issued (resolveCommand orderId outcome reason expectedVersion caller correlationId)
  | reserved (envelope : Envelope) (orderId : WrittenId) (requesterSuspended : Bool) :
      Issued (reservedCommand envelope orderId requesterSuspended)
  -- Credit reads the balance it reports from an integer column.
  | rejected (envelope : Envelope) (orderId : WrittenId) (refusal : Refusal)
      (balance : refusal.available.all fitsInteger = true) :
      Issued (rejectedCommand envelope orderId refusal)
  | released (envelope : Envelope) (payload : Released) :
      Issued (releaseCommand envelope payload)
  | transferred (envelope : Envelope) (payload : Transferred) :
      Issued (transferCommand envelope payload)
  | suspension (envelope : Envelope) (orderId : Uuid) (part : Part) (status : OrderStatus)
      (action : OrderAction) (tried : suspensionAction part status = some action) :
      Issued (suspensionCommand envelope orderId part action)
  | expire (orderId : Uuid) (now : Millis) (correlationId : String) :
      Issued (expireCommand orderId now correlationId)
  | pickupTimeout (orderId : Uuid) (now cutoff : Millis) (correlationId : String) :
      Issued (pickupTimeoutCommand orderId now cutoff correlationId)
  | autoConfirm (orderId : Uuid) (now : Millis) (correlationId : String) :
      Issued (autoConfirmCommand orderId now correlationId)
  | undelivered (orderId : Uuid) (now : Millis) (correlationId : String) :
      Issued (undeliveredCommand orderId now correlationId)
  | unassign (orderId : Uuid) (now : Millis) (heldBy : Account) (correlationId : String) :
      Issued (unassignCommand orderId now heldBy.id correlationId)
  | assign (orderId : Uuid) (now : Millis) (admin : Account) (correlationId : String) :
      Issued (assignCommand orderId now admin correlationId)

/-! ## What the commands have in common -/

/-- The extra columns each action's command writes. -/
inductive Fitting : OrderAction → List Assign → Prop where
  | rejection (reason : String) (available : Option Int) :
      Fitting .creditRejected [.rejectionReason reason, .availableAtRejection available]
  | release (transactionId : Uuid) : Fitting .releaseConfirmed [.creditTransactionId transactionId]
  | transfer (transactionId : Uuid) :
      Fitting .transferConfirmed [.creditTransactionId transactionId]
  | assign (admin : UserId) : Fitting .adminAssigned [.referredAdminId (some admin)]
  | unassign : Fitting .adminUnassigned [.referredAdminId none]
  | plain (action : OrderAction)
      (other : action ∉ [.accept, .creditRejected, .releaseConfirmed, .transferConfirmed,
        .adminAssigned, .adminUnassigned]) : Fitting action []

theorem suspension_action_cases {part : Part} {status : OrderStatus} {action : OrderAction}
    (tried : suspensionAction part status = some action) :
    action = .requesterSuspended ∨ action = .deliveryPeriodPassed ∨
      action = .courierSuspended := by
  cases part <;> cases status <;> simp_all [suspensionAction]

theorem issued_fitting {command : TransitionCommand} (issued : Issued command) :
    Fitting command.action command.patch := by
  cases issued with
  | participant orderId action expectedVersion caller correlationId routed =>
      apply Fitting.plain
      intro other
      simp only [participantCommand] at other
      revert routed other
      revert action
      decide
  | resolve orderId outcome =>
      cases outcome with
      | courier => exact Fitting.plain .resolveForCourier (by decide)
      | requester => exact Fitting.plain .resolveForRequester (by decide)
  | reserved => exact Fitting.plain .creditReserved (by decide)
  | rejected envelope orderId refusal balance => exact .rejection _ _
  | released envelope payload => exact .release _
  | transferred envelope payload => exact .transfer _
  | suspension envelope orderId part status action tried =>
      rcases suspension_action_cases tried with rfl | rfl | rfl
      · exact Fitting.plain .requesterSuspended (by decide)
      · exact Fitting.plain .deliveryPeriodPassed (by decide)
      · exact Fitting.plain .courierSuspended (by decide)
  | expire => exact Fitting.plain .acceptanceDeadlinePassed (by decide)
  | pickupTimeout => exact Fitting.plain .pickupTimeout (by decide)
  | autoConfirm => exact Fitting.plain .autoConfirm (by decide)
  | undelivered => exact Fitting.plain .deliveryPeriodPassed (by decide)
  | unassign => exact .unassign
  | assign orderId now admin => exact .assign _

end Foc.Order
