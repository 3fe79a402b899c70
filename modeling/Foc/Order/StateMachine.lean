import Mathlib.Data.List.Basic

/-! The errand's statuses and the table of its transitions: which actor may take
which action from which status, and what follows. The table is data, searched
from the top, as the commands and the authorization matrix search it. -/
namespace Foc.Order

inductive OrderStatus where
  | pendingCredit
  | opened
  | accepted
  | pickedUp
  | delivered
  | disputed
  | completionPendingCredit
  | releasePendingCredit
  | rejected
  | completed
  | cancelled
  | expired
  deriving DecidableEq, Repr

/-- The status an errand ends in once its credits are returned. -/
inductive ReleaseReason where
  | cancelled
  | expired
  deriving DecidableEq, Repr

inductive OrderAction where
  | creditReserved
  | creditRejected
  | accept
  | cancel
  | requesterSuspended
  | acceptanceDeadlinePassed
  | recordPickup
  | withdraw
  | pickupTimeout
  | courierSuspended
  | recordDelivery
  | reportNonDelivery
  | deliveryPeriodPassed
  | confirmReceipt
  | autoConfirm
  | reportNonReceipt
  | resolveForCourier
  | resolveForRequester
  | adminAssigned
  | adminUnassigned
  | transferConfirmed
  | releaseConfirmed
  deriving DecidableEq, Repr

inductive OrderActor where
  | requester
  | assignedCourier
  | otherStudent
  | admin
  | creditService
  | system
  deriving DecidableEq, Repr

/-- The events a transition or a creation writes to the outbox. -/
inductive EventType where
  | reservationRequested
  | completionRequested
  | releaseRequested
  | statusChanged
  deriving DecidableEq, Repr

structure TransitionContext where
  acceptanceDeadlinePassed : Bool
  deliveryPeriodPassed : Bool
  autoConfirmationPeriodPassed : Bool
  requesterSuspended : Bool
  reasonProvided : Bool
  releaseReason : Option ReleaseReason
  deriving DecidableEq

structure TransitionDecision where
  target : OrderStatus
  releaseReason : Option ReleaseReason
  emitted : List EventType
  deriving DecidableEq, Repr

structure TransitionRule where
  status : OrderStatus
  action : OrderAction
  actors : List OrderActor
  guard : TransitionContext → Bool
  -- `decide` of every rule ignores its context.
  decision : TransitionDecision

/-! ## Suspensions -/

inductive Part where
  | requester
  | courier
  deriving DecidableEq, Repr

/-- The action a suspension tries from each status it can change. -/
def suspensionAction : Part → OrderStatus → Option OrderAction
  | .requester, .opened => some .requesterSuspended
  | .requester, .accepted => some .requesterSuspended
  | .requester, .pickedUp => some .deliveryPeriodPassed
  | .requester, _ => none
  | .courier, .accepted => some .courierSuspended
  | .courier, .pickedUp => some .courierSuspended
  | .courier, _ => none

def suspensionReason : Part → String
  | .requester => "requester suspended"
  | .courier => "courier suspended"

inductive Outcome where
  | courier
  | requester
  deriving DecidableEq, Repr

def resolveAction : Outcome → OrderAction
  | .courier => .resolveForCourier
  | .requester => .resolveForRequester

/-! ## The table -/

def statusChanged (target : OrderStatus) : TransitionDecision :=
  { target, releaseReason := none, emitted := [.statusChanged] }

def completion : TransitionDecision :=
  { target := .completionPendingCredit
    releaseReason := none
    emitted := [.completionRequested, .statusChanged] }

def release (reason : ReleaseReason) : TransitionDecision :=
  { target := .releasePendingCredit
    releaseReason := some reason
    emitted := [.releaseRequested, .statusChanged] }

def always : TransitionContext → Bool := fun _ => true

def orderTransitions : List TransitionRule :=
  [ ⟨.pendingCredit, .creditReserved, [.creditService], fun c => !c.requesterSuspended,
      statusChanged .opened⟩,
    ⟨.pendingCredit, .creditReserved, [.creditService], fun c => c.requesterSuspended,
      release .cancelled⟩,
    ⟨.pendingCredit, .creditRejected, [.creditService], always, statusChanged .rejected⟩,
    ⟨.opened, .accept, [.otherStudent], fun c => !c.acceptanceDeadlinePassed,
      statusChanged .accepted⟩,
    ⟨.opened, .cancel, [.requester], always, release .cancelled⟩,
    ⟨.opened, .requesterSuspended, [.system], always, release .cancelled⟩,
    ⟨.opened, .acceptanceDeadlinePassed, [.system], always, release .expired⟩,
    ⟨.accepted, .recordPickup, [.assignedCourier], always, statusChanged .pickedUp⟩,
    ⟨.accepted, .cancel, [.requester], always, release .cancelled⟩,
    ⟨.accepted, .requesterSuspended, [.system], always, release .cancelled⟩,
    ⟨.accepted, .withdraw, [.assignedCourier], fun c => !c.acceptanceDeadlinePassed,
      statusChanged .opened⟩,
    ⟨.accepted, .withdraw, [.assignedCourier], fun c => c.acceptanceDeadlinePassed,
      release .expired⟩,
    ⟨.accepted, .pickupTimeout, [.system], fun c => !c.acceptanceDeadlinePassed,
      statusChanged .opened⟩,
    ⟨.accepted, .pickupTimeout, [.system], fun c => c.acceptanceDeadlinePassed,
      release .expired⟩,
    ⟨.accepted, .courierSuspended, [.system], always, statusChanged .opened⟩,
    ⟨.pickedUp, .recordDelivery, [.assignedCourier], always, statusChanged .delivered⟩,
    ⟨.pickedUp, .reportNonDelivery, [.requester], fun c => c.deliveryPeriodPassed,
      statusChanged .disputed⟩,
    ⟨.pickedUp, .deliveryPeriodPassed, [.system],
      fun c => c.requesterSuspended && c.deliveryPeriodPassed, statusChanged .disputed⟩,
    ⟨.pickedUp, .courierSuspended, [.system], always, statusChanged .disputed⟩,
    ⟨.delivered, .confirmReceipt, [.requester], always, completion⟩,
    ⟨.delivered, .autoConfirm, [.system], always, completion⟩,
    ⟨.delivered, .reportNonReceipt, [.requester], fun c => !c.autoConfirmationPeriodPassed,
      statusChanged .disputed⟩,
    ⟨.disputed, .resolveForCourier, [.admin], fun c => c.reasonProvided, completion⟩,
    ⟨.disputed, .resolveForRequester, [.admin], fun c => c.reasonProvided, release .cancelled⟩,
    -- The status stays and nothing is announced, but the version moves.
    ⟨.disputed, .adminAssigned, [.system], always, ⟨.disputed, none, []⟩⟩,
    ⟨.disputed, .adminUnassigned, [.system], always, ⟨.disputed, none, []⟩⟩,
    ⟨.completionPendingCredit, .transferConfirmed, [.creditService], always,
      statusChanged .completed⟩,
    ⟨.releasePendingCredit, .releaseConfirmed, [.creditService],
      fun c => c.releaseReason == some .cancelled, statusChanged .cancelled⟩,
    ⟨.releasePendingCredit, .releaseConfirmed, [.creditService],
      fun c => c.releaseReason == some .expired, statusChanged .expired⟩ ]

def TransitionRule.applies (rule : TransitionRule) (status : OrderStatus) (action : OrderAction)
    (actor : OrderActor) (context : TransitionContext) : Bool :=
  decide (rule.status = status) && decide (rule.action = action) && rule.actors.contains actor &&
    rule.guard context

def decideTransition (status : OrderStatus) (action : OrderAction) (actor : OrderActor)
    (context : TransitionContext) : Option TransitionDecision :=
  (orderTransitions.find? fun rule => rule.applies status action actor context).map
    TransitionRule.decision

/-- Some rule gives the action to this actor, in whatever status. -/
def allowedSomewhere (action : OrderAction) (actor : OrderActor) : Bool :=
  orderTransitions.any fun rule => decide (rule.action = action) && rule.actors.contains actor

/-! ## What the table can decide -/

/-- A decision is the decision of one of the rules, whose conditions held. -/
theorem decide_rule {status : OrderStatus} {action : OrderAction} {actor : OrderActor}
    {context : TransitionContext} {decision : TransitionDecision}
    (decided : decideTransition status action actor context = some decision) :
    ∃ rule ∈ orderTransitions, rule.status = status ∧ rule.action = action ∧
      actor ∈ rule.actors ∧ rule.guard context = true ∧ rule.decision = decision := by
  unfold decideTransition at decided
  obtain ⟨rule, found, same⟩ := Option.map_eq_some_iff.mp decided
  have applies := List.find?_some found
  simp only [TransitionRule.applies, Bool.and_eq_true, decide_eq_true_eq,
    List.contains_iff_mem] at applies
  obtain ⟨⟨⟨from_, by_⟩, allowed⟩, guarded⟩ := applies
  exact ⟨rule, List.mem_of_find?_eq_some found, from_, by_, allowed, guarded, same⟩

end Foc.Order
