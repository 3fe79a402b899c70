import Foc.Order.Projection
import Foc.Order.Storable
import Mathlib

/-!
The steps an errand's page offers. It derives the caller's part and the deadline
from the view it was given and restates the transition table by hand; the Order
Service decides from the row.
-/
namespace Foc.Web.OrderActions
open Foc.Order

/-! ## The page -/

inductive Command where
  | accept
  | pickup
  | deliver
  | withdraw
  | cancel
  | confirmReceipt
  | reportNonDelivery
  | reportNonReceipt
  deriving DecidableEq, Repr

/-- `none` is a student with no part in the errand. -/
inductive Role where
  | requester
  | courier
  deriving DecidableEq, Repr

inductive Variant where
  | primary
  | outline
  deriving DecidableEq, Repr

structure Confirm where
  title : String
  body : String
  label : String
  deriving DecidableEq, Repr

structure OrderAction where
  command : Command
  label : String
  variant : Variant
  destructive : Bool
  confirm : Confirm
  deriving DecidableEq, Repr

/-- The private projection names both participants, the public one neither. -/
def roleIn (order : OrderView) (userId : Option UserId) : Option Role :=
  match truthy userId with
  | none => none
  | some userId =>
      if order.requesterId = some userId then some .requester
      else if order.courierId = some userId then some .courier
      else none

def orderActions : Command → OrderAction
  | .accept =>
      { command := .accept
        label := "Accept errand"
        variant := .primary
        destructive := false
        confirm :=
          { title := "Accept this errand?"
            body := "You'll be its courier. The exact delivery instructions appear once it's yours."
            label := "Accept" } }
  | .pickup =>
      { command := .pickup
        label := "I've picked it up"
        variant := .primary
        destructive := false
        confirm :=
          { title := "Record pickup?"
            body := "The requester will see that the items are on the way."
            label := "Record pickup" } }
  | .deliver =>
      { command := .deliver
        label := "Mark as delivered"
        variant := .primary
        destructive := false
        confirm :=
          { title := "Record delivery?"
            body := "The requester then confirms they received it. If they don't answer, it's " ++
              "confirmed automatically."
            label := "Record delivery" } }
  | .withdraw =>
      { command := .withdraw
        label := "Withdraw"
        variant := .outline
        destructive := true
        confirm :=
          { title := "Withdraw from this errand?"
            body := "It goes back to the feed for another courier, or expires if its deadline " ++
              "has passed. You won't be paid for it."
            label := "Withdraw" } }
  | .cancel =>
      { command := .cancel
        label := "Cancel errand"
        variant := .outline
        destructive := true
        confirm :=
          { title := "Cancel this errand?"
            body := "Its reward is returned to your available credits. This can't be undone."
            label := "Cancel errand" } }
  | .confirmReceipt =>
      { command := .confirmReceipt
        label := "Confirm receipt"
        variant := .primary
        destructive := true
        confirm :=
          { title := "Confirm you received it?"
            body := "The reward goes to the courier. This can't be undone."
            label := "Confirm receipt" } }
  | .reportNonReceipt =>
      { command := .reportNonReceipt
        label := "I didn't receive it"
        variant := .outline
        destructive := false
        confirm :=
          { title := "Report it not received?"
            body := "An administrator will look at the errand and decide how it ends. The " ++
              "reward stays held until then."
            label := "Report" } }
  | .reportNonDelivery =>
      { command := .reportNonDelivery
        label := "Report not delivered"
        variant := .outline
        destructive := false
        confirm :=
          { title := "Report it not delivered?"
            body := "An administrator will look at the errand and decide how it ends. The " ++
              "reward stays held until then."
            label := "Report" } }

def deadlineAt (order : OrderView) (role : Option Role) : Option Millis :=
  if role = none ∧ order.status = .opened then order.acceptanceDeadlineAt
  else if role = some .requester ∧ order.status = .pickedUp then order.nonDeliveryReportAt
  else if role = some .requester ∧ order.status = .delivered then order.autoConfirmAt
  else none

/-- The view's times are the instants their texts are parsed to. -/
def actionDeadline (order : OrderView) (role : Option Role) : Option Millis :=
  deadlineAt order role

def commandsFor (status : OrderStatus) (role : Option Role) (deadlinePassed : Bool) :
    List Command :=
  match role with
  | none => if status = .opened ∧ deadlinePassed = false then [.accept] else []
  | some .courier =>
      if status = .accepted then [.pickup, .withdraw]
      else if status = .pickedUp then [.deliver]
      else []
  | some .requester =>
      if status = .opened ∨ status = .accepted then [.cancel]
      else if status = .pickedUp then (if deadlinePassed then [.reportNonDelivery] else [])
      else if status = .delivered then
        if deadlinePassed then [.confirmReceipt] else [.confirmReceipt, .reportNonReceipt]
      else []

/-- The next steps this role may take now. -/
def actionsFor (order : OrderView) (role : Option Role) (now : Millis) : List OrderAction :=
  (commandsFor order.status role (passed (actionDeadline order role) now)).map orderActions

/-! ## The service -/

/-- The request a command's page sends, with the version it last saw. -/
def sendCommand (command : Command) (orderId : WrittenId) (version : Int) : UserRequest :=
  match command with
  | .accept => .accept orderId version
  | .pickup => .act orderId ⟨.recordPickup, by decide⟩ version
  | .deliver => .act orderId ⟨.recordDelivery, by decide⟩ version
  | .withdraw => .act orderId ⟨.withdraw, by decide⟩ version
  | .cancel => .act orderId ⟨.cancel, by decide⟩ version
  | .confirmReceipt => .act orderId ⟨.confirmReceipt, by decide⟩ version
  | .reportNonDelivery => .act orderId ⟨.reportNonDelivery, by decide⟩ version
  | .reportNonReceipt => .act orderId ⟨.reportNonReceipt, by decide⟩ version

/-- What a request's one transaction makes of the row it locked. A change its caller
may not see is answered as missing, which rolls it back. -/
def applied (periods : Periods) (request : UserRequest) (caller : AuthContext)
    (correlationId : String) (tx : Micros) (row : StoredOrder) : Option Applied :=
  let change :=
    match request with
    | .accept orderId expectedVersion =>
        if acceptable caller.userId expectedVersion tx row then
          (acceptUsing orderId caller.userId correlationId tx row).toOption
        else none
    | request =>
        match transitionUsing periods (userCommand request caller correlationId) tx row with
        | .ok (.applied change) => some change
        | _ => none
  change.filter fun change => visible (mapOrder change.next) caller

/-! ## What the page derives -/

/-- Each entry of the table is filed under its own command. -/
@[simp] theorem order_actions_command (command : Command) :
    (orderActions command).command = command := by
  cases command <;> rfl

theorem offered_iff {order : OrderView} {role : Option Role} {now : Millis} {command : Command} :
    command ∈ (actionsFor order role now).map OrderAction.command ↔
      command ∈ commandsFor order.status role (passed (actionDeadline order role) now) := by
  simp [actionsFor]

def roleOf : OrderActor → Option Role
  | .requester => some .requester
  | .assignedCourier => some .courier
  | _ => none

/-- The one deadline a role's steps turn on, in each status. -/
def deadlinePassed (status : OrderStatus) (role : Option Role) (context : TransitionContext) :
    Bool :=
  match role, status with
  | none, .opened => context.acceptanceDeadlinePassed
  | some .requester, .pickedUp => context.deliveryPeriodPassed
  | some .requester, .delivered => context.autoConfirmationPeriodPassed
  | _, _ => false

section Views

variable {row : StoredOrder} {caller : AuthContext} {serverTime now : Millis} {view : OrderView}

theorem caller_truthy (caller : AuthContext) :
    truthy (some caller.userId) = some caller.userId := by
  simp [truthy, AuthContext.userId, caller.user.named]

theorem courier_truthy (sound : Sound row) : truthy row.courierId = row.courierId := by
  cases held : row.courierId with
  | none => rfl
  | some courierId =>
      have named : courierId ≠ "" := by
        rintro rfl
        exact sound.courier held
      simp [truthy, named]

theorem view_basics (shown : projectOrder (mapOrder row) caller serverTime = some view) :
    view.status = row.status ∧ view.version = row.version ∧
      view.acceptanceDeadlineAt = row.acceptanceDeadlineAt.map toMillis := by
  unfold projectOrder at shown
  simp only at shown
  split at shown
  · cases shown
  · cases shown
    exact ⟨rfl, rfl, rfl⟩

/-- The page finds the part the service resolves. -/
theorem role_resolved (sound : Sound row)
    (shown : projectOrder (mapOrder row) caller serverTime = some view) :
    roleIn view (some caller.userId) = roleOf (resolveActor (mapOrder row) caller.actor) := by
  have held := courier_truthy sound
  unfold projectOrder at shown
  simp only at shown
  split at shown
  · cases shown
  · cases shown
    unfold roleIn
    rw [caller_truthy]
    simp only [AuthContext.actor, resolveActor, mapOrder, held]
    by_cases requester : caller.userId = row.requesterId
    · simp [requester, roleOf]
    · have other : ¬ row.requesterId = caller.userId := fun same => requester same.symm
      by_cases courier : row.courierId = some caller.userId
      · simp [requester, other, courier, roleOf]
      · cases admin : caller.isAdmin <;> split <;> simp_all [roleOf]

theorem requester_part {order : OrderRow}
    (part : roleOf (resolveActor order caller.actor) = some .requester) :
    caller.userId = order.requesterId := by
  by_contra other
  by_cases courier : order.courierId = some caller.userId
  · simp [AuthContext.actor, resolveActor, other, courier, roleOf] at part
  · cases admin : caller.isAdmin <;>
      simp [AuthContext.actor, resolveActor, other, courier, admin, roleOf] at part

/-- The view keeps the deadline its reader's steps turn on. -/
theorem deadline_shown (command : TransitionCommand)
    (shown : projectOrder (mapOrder row) caller serverTime = some view) :
    let role := roleOf (resolveActor (mapOrder row) caller.actor)
    passed (actionDeadline view role) now =
      deadlinePassed row.status role (contextOf (mapOrder row) command now) := by
  intro role
  have own : role = some .requester → caller.userId = row.requesterId := requester_part
  unfold projectOrder at shown
  simp only at shown
  split at shown
  · cases shown
  · cases shown
    unfold actionDeadline deadlineAt
    clear_value role
    cases role with
    | none => cases status : row.status <;> simp_all [mapOrder, deadlinePassed, contextOf, passed]
    | some part =>
        cases part <;> cases status : row.status <;>
          simp_all [mapOrder, deadlinePassed, contextOf, passed]

end Views

/-! ## What the table allows -/

/-- The page restates the table's rules for people. -/
theorem table_restated (command : Command) (orderId : WrittenId) (version : Int)
    (status : OrderStatus) (actor : OrderActor) (context : TransitionContext)
    (acting : command ≠ .accept) :
    (decideTransition status (sendCommand command orderId version).action actor context).isSome =
      decide (command ∈ commandsFor status (roleOf actor)
        (deadlinePassed status (roleOf actor) context)) := by
  obtain ⟨acceptance, delivery, autoConfirmation, suspended, reason, release⟩ := context
  cases command <;> try contradiction
  -- One rule decides each case, or none; what is left turns on its own deadline.
  all_goals cases status <;> cases actor <;> try rfl
  all_goals cases acceptance <;> cases delivery <;> cases autoConfirmation <;> rfl

/-- No participant's step makes an errand private. -/
theorem step_public {rule : TransitionRule} (member : rule ∈ orderTransitions)
    (routed : rule.action ∈ participantActions) :
    rule.decision.target ≠ .pendingCredit ∧ rule.decision.target ≠ .rejected := by
  revert routed
  revert rule
  decide

theorem visible_public {row : StoredOrder} (caller : AuthContext)
    (pending : row.status ≠ .pendingCredit) (rejected : row.status ≠ .rejected) :
    visible (mapOrder row) caller = true := by
  simp [visible, mapOrder, pending, rejected]

/-! ## What the service applies -/

section Steps

variable {periods : Periods} {row : StoredOrder} {caller : AuthContext}

theorem stored_room {next : StoredOrder} (stored : storeOrder next = .ok next)
    (moved : next.version = row.version + 1) : row.version < 2147483647 := by
  obtain ⟨_, _, version, _⟩ := store_ok stored
  simp only [fitsInteger, Bool.and_eq_true, decide_eq_true_eq] at version
  omega

theorem filter_some {change : Option Applied} {keeps : Applied → Bool} :
    (change.filter keeps).isSome = true ↔ ∃ made, change = some made ∧ keeps made = true := by
  cases change with
  | none => simp
  | some made => by_cases kept : keeps made = true <;> simp [kept]

/-- What the table decides of the expected version is applied, once written. -/
theorem transition_written {command : TransitionCommand} {tx : Micros}
    {decision : TransitionDecision} {change : Applied}
    (decided : decideTransition row.status command.action
      (resolveActor (mapOrder row) command.actor)
      (contextOf (mapOrder row) command (command.now.getD (toMillis tx))) = some decision)
    (expected : command.expectedVersion = some row.version)
    (verified : command.verify (mapOrder row) = .ok ())
    (written : applyDecision periods command row decision (command.now.getD (toMillis tx)) =
      .ok change) :
    transitionUsing periods command tx row = .ok (.applied change) := by
  have status : (mapOrder row).status = row.status := rfl
  have version : (mapOrder row).version = row.version := rfl
  simp only [transitionUsing, status, version, decided, expected, verified, written,
    Option.any_some, ne_eq, not_true, decide_false, Bool.false_eq_true, if_false]
  rfl

/-- A step of the table is written, while the version has room. -/
theorem acted_iff (lawful : Lawful row) (orderId : WrittenId) (action : ParticipantAction)
    (correlationId : String) (tx : Micros) :
    (applied periods (.act orderId action row.version) caller correlationId tx row).isSome = true ↔
      (decideTransition row.status action (resolveActor (mapOrder row) caller.actor)
        (contextOf (mapOrder row)
          (participantCommand orderId action row.version caller correlationId)
          (toMillis tx))).isSome = true ∧ row.version < 2147483647 := by
  have issued : Issued (participantCommand orderId action row.version caller correlationId) :=
    .participant _ _ _ _ _ action.property
  simp only [applied, userCommand, UserRequest.orderId, UserRequest.action,
    UserRequest.expectedVersion, filter_some]
  constructor
  · rintro ⟨change, made, _⟩
    split at made
    · rename_i moved
      cases made
      obtain ⟨decision, decided, _, _, writes⟩ := transition_ok moved
      obtain ⟨timestamps, patched, same⟩ := writes.next
      have step := transition_moved lawful (issued_fitting issued) decided patched
      rw [← same] at step
      exact ⟨Option.isSome_of_eq_some decided, stored_room writes.stored step.version⟩
    · cases made
  · rintro ⟨decided, room⟩
    obtain ⟨decision, decided⟩ := Option.isSome_iff_exists.mp decided
    obtain ⟨change, written, _⟩ :=
      decision_stored periods (toMillis tx) lawful issued decided room rfl
    have moved : transitionUsing periods
        (participantCommand orderId action row.version caller correlationId) tx row =
          .ok (.applied change) := transition_written decided rfl rfl written
    refine ⟨change, by rw [moved], ?_⟩
    obtain ⟨timestamps, patched, same⟩ := (applied_ok written).next
    have step := transition_moved lawful (issued_fitting issued) decided patched
    obtain ⟨rule, member, _, routed, _, _, rfl⟩ := decide_rule decided
    have open_ := step_public member (routed ▸ action.property)
    rw [← same] at step
    exact visible_public caller (step.status ▸ open_.1) (step.status ▸ open_.2)

/-- An acceptance is written, while the version has room. -/
theorem accepted_iff (lawful : Lawful row) (orderId : WrittenId) (correlationId : String)
    (tx : Micros) :
    (applied periods (.accept orderId row.version) caller correlationId tx row).isSome = true ↔
      acceptable caller.userId row.version tx row = true ∧ row.version < 2147483647 := by
  simp only [applied, filter_some]
  constructor
  · rintro ⟨change, made, _⟩
    split at made
    · rename_i free
      refine ⟨free, ?_⟩
      cases taken : acceptUsing orderId caller.userId correlationId tx row with
      | error failure =>
          rw [taken] at made
          cases made
      | ok accepted =>
          obtain ⟨_, stored⟩ := accept_ok taken
          exact stored_room stored rfl
    · cases made
  · rintro ⟨free, room⟩
    obtain ⟨change, taken, _⟩ := acceptance_stored lawful caller orderId correlationId tx
      (acceptable_parts free).1 room
    obtain ⟨rfl, _⟩ := accept_ok taken
    refine ⟨_, by rw [if_pos free, taken]; rfl, ?_⟩
    exact visible_public caller (by simp [acceptance, acceptedRow, mapOrder])
      (by simp [acceptance, acceptedRow, mapOrder])

end Steps

/-! ## The page and the service -/

section Agreement

variable {periods : Periods} {row : StoredOrder} {caller : AuthContext}

/-- An open errand's deadline is a whole millisecond, so both clocks pass it together. -/
theorem acceptance_deadline {tx : Micros} (aligned : Aligned row.acceptanceDeadlineAt) :
    (row.acceptanceDeadlineAt.any fun deadline => decide (tx < deadline)) =
      !passed (row.acceptanceDeadlineAt.map toMillis) (toMillis tx) := by
  obtain ⟨time, deadline⟩ := aligned
  have together : tx < time * 1000 ↔ tx / 1000 < time := (Int.ediv_lt_iff_lt_mul (by decide)).symm
  rw [deadline, Bool.eq_iff_iff]
  simp only [passed, toMillis, toMicros, Option.map_some, Option.any_some, decide_eq_true_eq,
    Int.mul_ediv_cancel time (by decide : (1000 : Int) ≠ 0), together, Bool.not_eq_true']
  exact not_le.symm.trans decide_eq_false_iff_not.symm

theorem accept_offered {status : OrderStatus} {role : Option Role} {late : Bool} :
    Command.accept ∈ commandsFor status role late ↔
      role = none ∧ status = .opened ∧ late = false := by
  cases role with
  | none => simp [commandsFor]
  | some part =>
      cases part <;> simp only [commandsFor] <;> split_ifs <;> simp

/-- An open errand has no courier: whoever did not request it has no part in it. -/
theorem open_stranger (free : row.courierId = none) :
    roleOf (resolveActor (mapOrder row) caller.actor) = none ↔ row.requesterId ≠ caller.userId := by
  by_cases requester : caller.userId = row.requesterId
  · simp [AuthContext.actor, resolveActor, mapOrder, requester, roleOf]
  · have other : row.requesterId ≠ caller.userId := fun same => requester same.symm
    cases admin : caller.isAdmin <;>
      simp [AuthContext.actor, resolveActor, mapOrder, requester, other, free, admin, roleOf]

theorem acceptable_offered (lawful : Lawful row) (caller : AuthContext)
    (command : TransitionCommand) (tx : Micros) :
    let role := roleOf (resolveActor (mapOrder row) caller.actor)
    acceptable caller.userId row.version tx row = true ↔
      Command.accept ∈ commandsFor row.status role
        (deadlinePassed row.status role (contextOf (mapOrder row) command (toMillis tx))) := by
  intro role
  rw [accept_offered]
  by_cases status : row.status = .opened
  · have shape := lawful.shape
    unfold Shape at shape
    rw [status] at shape
    have stranger : role = none ↔ row.requesterId ≠ caller.userId := open_stranger shape.1
    simp only [acceptable, status, acceptance_deadline shape.2, Bool.and_eq_true,
      decide_eq_true_eq, stranger, true_and]
    refine and_congr_right fun other => ?_
    simp [stranger.mpr other, deadlinePassed, contextOf, mapOrder]
  · simp [acceptable, status]

/-- The page offers a command when the service would apply it, while the version has room. -/
theorem offers_what_applies (reached : Reachable periods row) (serverTime : Millis)
    (view : OrderView) (shown : projectOrder (mapOrder row) caller serverTime = some view)
    (command : Command) (orderId : WrittenId) (correlationId : String) (tx : Micros) :
    (applied periods (sendCommand command orderId view.version) caller correlationId tx
        row).isSome = true ↔
      command ∈ (actionsFor view (roleIn view (some caller.userId)) (toMillis tx)).map
          OrderAction.command ∧
        row.version < 2147483647 := by
  have lawful := reachable_lawful reached
  obtain ⟨status, version, _⟩ := view_basics shown
  let asked := participantCommand orderId (sendCommand command orderId row.version).action
    row.version caller correlationId
  rw [offered_iff, status, version, role_resolved lawful.sound shown, deadline_shown asked shown]
  by_cases accepting : command = .accept
  · subst accepting
    have offered := acceptable_offered lawful caller asked tx
    exact (accepted_iff lawful orderId correlationId tx).trans (and_congr_left' offered)
  · have restated := table_restated command orderId row.version row.status
      (resolveActor (mapOrder row) caller.actor) (contextOf (mapOrder row) asked (toMillis tx))
      accepting
    rw [← decide_eq_true_iff (p := command ∈ _), ← restated]
    cases command with
    | accept => exact absurd rfl accepting
    | _ => exact acted_iff lawful orderId _ correlationId tx

end Agreement

theorem open_errand_offered : ∃ row view,
    turns usual (pendingRow errandOne 1 0) [reserving] = some row ∧
      projectOrder (mapOrder row) courierOne 0 = some view ∧
      (applied usual (sendCommand .accept (written 1) view.version) courierOne "c" 0 row).isSome =
        true := by
  have reached := ran_reachable [reserving] rfl
  refine ⟨_, _, rfl, rfl, ?_⟩
  exact (offers_what_applies reached 0 _ rfl .accept (written 1) "c" 0).mpr ⟨by decide, by decide⟩

/-! ## The end of the version's column -/

/-- The open errand, at any version. -/
def openRow (version : Int) : StoredOrder :=
  { pendingRow errandOne 1 0 with
    status := .opened
    version
    acceptanceDeadlineAt := some 1800000000 }

theorem first_open : Reachable usual (openRow 2) := ran_reachable [reserving] rfl

/-- A courier takes the errand and gives it back. -/
theorem reopened {version : Int} (reached : Reachable usual (openRow version))
    (room : version + 1 < 2147483647) : Reachable usual (openRow (version + 2)) := by
  have lawful := reachable_lawful reached
  have free : acceptable courierOne.userId version 0 (openRow version) = true := by
    simp [acceptable, openRow, pendingRow, errandOne, courierOne, AuthContext.userId]
  obtain ⟨taken, accepted, _⟩ := acceptance_stored lawful courierOne (written 1) "c" 0 rfl
    (by simp only [openRow]; omega)
  have held := Reachable.accepted _ reached courierOne (written 1) version "c" 0 taken free accepted
  obtain ⟨rfl, _⟩ := accept_ok accepted
  let command := participantCommand (written 1) .withdraw (version + 1) courierOne "c"
  have issued : Issued command := .participant _ _ _ _ _ (by decide)
  have decided : decideTransition .accepted .withdraw
      (resolveActor (mapOrder (acceptedRow courierOne.userId 0 (openRow version))) courierOne.actor)
      (contextOf (mapOrder (acceptedRow courierOne.userId 0 (openRow version))) command 0) =
        some (statusChanged .opened) := rfl
  obtain ⟨given, applied, _⟩ :=
    decision_stored usual 0 (reachable_lawful held) issued decided room rfl
  have moved : transitionUsing usual command 0 _ = .ok (.applied given) :=
    transition_written decided rfl rfl applied
  have back := Reachable.transitioned _ held command issued 0 given moved
  obtain ⟨timestamps, patched, same⟩ := (applied_ok applied).next
  cases patched
  rw [same] at back
  have version : version + 1 + 1 = version + 2 := by ring
  rw [← version]
  exact back

theorem often_opened (times : Nat) (room : 2 * (times : Int) + 2 < 2147483647) :
    Reachable usual (openRow (2 * times + 2)) := by
  induction times with
  | zero => exact first_open
  | succ times ih =>
      push_cast at room ⊢
      have before := reopened (ih (by omega)) (by omega)
      have version : 2 * (times : Int) + 2 + 2 = 2 * (times + 1) + 2 := by ring
      rwa [version] at before

theorem last_held : Reachable usual (acceptedRow courierOne.userId 0 (openRow 2147483646)) := by
  have reached : Reachable usual (openRow 2147483646) := often_opened 1073741822 (by decide)
  obtain ⟨taken, accepted, _⟩ := acceptance_stored (reachable_lawful reached) courierOne (written 1)
    "c" 0 rfl (by decide)
  have held := Reachable.accepted _ reached courierOne (written 1) 2147483646 "c" 0 taken rfl
    accepted
  obtain ⟨rfl, _⟩ := accept_ok accepted
  exact held

/-- At the last version the page offers a pickup that the database has no room for. -/
theorem last_version_refused : ∃ row view, Reachable usual row ∧
    projectOrder (mapOrder row) courierOne 0 = some view ∧
    .pickup ∈ (actionsFor view (roleIn view (some courierOne.userId)) 0).map OrderAction.command ∧
    applied usual (sendCommand .pickup (written 1) view.version) courierOne "c" 0 row = none :=
  ⟨_, _, last_held, rfl, by decide, rfl⟩

end Foc.Web.OrderActions
