import Foc.Order.Callers
import Mathlib

/-!
Every row an errand can have, and what its columns hold in each status. The
columns a status needs are set by the transitions into it, or many steps before;
a courier who leaves takes theirs away.
-/
namespace Foc.Order

variable {periods : Periods}

/-- The rows of one errand, whoever acts on it, in whatever order, at any time. -/
inductive Reachable (periods : Periods) : StoredOrder → Prop where
  | created (caller : AuthContext) (input : CreatePendingInput) (orderId : Uuid) (now : Millis)
      (change : Applied) (requester : input.requesterId = caller.userId)
      (applied : createPending input orderId now = .ok change) : Reachable periods change.next
  | accepted (row : StoredOrder) (reached : Reachable periods row) (caller : AuthContext)
      (orderId : WrittenId) (expectedVersion : Int) (correlationId : String) (tx : Micros)
      (change : Applied) (free : acceptable caller.userId expectedVersion tx row = true)
      (applied : acceptUsing orderId caller.userId correlationId tx row = .ok change) :
      Reachable periods change.next
  | transitioned (row : StoredOrder) (reached : Reachable periods row)
      (command : TransitionCommand) (issued : Issued command) (tx : Micros) (change : Applied)
      (applied : transitionUsing periods command tx row = .ok (.applied change)) :
      Reachable periods change.next
  | noted (row : StoredOrder) (reached : Reachable periods row) (mark : Option Micros) :
      Reachable periods { row with requesterSuspendedAt := mark }

/-! ## The invariant -/

/-- What no transition writes, and the courier's name. -/
structure Sound (row : StoredOrder) : Prop where
  reward : 1 ≤ row.reward ∧ row.reward ≤ 5
  items : row.items ≠ []
  deliveryZone : lengthBetween 1 200 row.deliveryZone = true
  deliveryInstructions : lengthBetween 1 1000 row.deliveryInstructions = true
  requester : row.requesterId ≠ ""
  courier : row.courierId ≠ some ""
  version : 1 ≤ row.version ∧ row.version ≤ 2147483647
  available : row.availableAtRejection.all fitsInteger = true
  rejection : row.status = .rejected ↔ row.rejectionReason.isSome = true

/-- The row of an errand a courier has had in hand. -/
def Carried (row : StoredOrder) : Prop :=
  row.courierId.isSome = true ∧ row.acceptedAt.isSome = true ∧ row.pickedUpAt.isSome = true

/-- A deadline set from a JavaScript date. -/
def Aligned (deadline : Option Micros) : Prop := ∃ time : Millis, deadline = some (toMicros time)

/-- The columns each status needs. -/
def Shape (row : StoredOrder) : Prop :=
  match row.status with
  | .pendingCredit => row.courierId = none
  | .rejected => True
  | .opened => row.courierId = none ∧ Aligned row.acceptanceDeadlineAt
  | .accepted => row.courierId.isSome = true ∧ row.acceptedAt.isSome = true ∧
      Aligned row.acceptanceDeadlineAt
  | .pickedUp => Carried row ∧ row.nonDeliveryReportAt.isSome = true
  | .delivered => Carried row ∧ row.autoConfirmAt.isSome = true
  | .disputed => Carried row
  | .completionPendingCredit => Carried row ∧ row.completionRequestedAt.isSome = true
  | .completed => Carried row ∧ row.completedAt.isSome = true ∧
      row.creditTransactionId.isSome = true
  | .releasePendingCredit => row.releaseReason.isSome = true
  | .cancelled | .expired => row.releasedAt.isSome = true ∧
      row.creditTransactionId.isSome = true ∧ row.releaseReason.isSome = true

structure Lawful (row : StoredOrder) : Prop where
  sound : Sound row
  shape : Shape row

theorem lawful_checked {row : StoredOrder} (lawful : Lawful row) : row.Checked := by
  obtain ⟨sound, shape⟩ := lawful
  unfold Shape at shape
  refine ⟨sound.reward, sound.version.1, sound.items, sound.deliveryZone,
    sound.deliveryInstructions, ?_, ?_, ?_, sound.rejection, ?_, ?_⟩
  · intro needs
    cases status : row.status <;> rw [status] at needs shape
    case accepted => exact shape.1
    case pickedUp => exact shape.1.1
    case delivered => exact shape.1.1
    case disputed => exact shape.1
    case completionPendingCredit => exact shape.1.1
    case completed => exact shape.1.1
    all_goals simp [needsCourier] at needs
  · intro status
    rw [status] at shape
    exact shape.2
  · intro closed
    cases status : row.status <;> rw [status] at closed shape
    case cancelled => exact shape
    case expired => exact shape
    all_goals simp [released] at closed
  · intro status
    rw [status] at shape
    exact shape.2
  · intro status
    rw [status] at shape
    exact shape.2

/-- A lawful row can be stored. -/
theorem lawful_stored {row : StoredOrder} (lawful : Lawful row) : storeOrder row = .ok row := by
  have checks := (checks_iff row).mpr (lawful_checked lawful)
  have version : fitsInteger row.version = true := by
    have bounds := lawful.sound.version
    simp only [fitsInteger, Bool.and_eq_true, decide_eq_true_eq]
    omega
  have reward : fitsInteger row.reward = true := by
    have bounds := lawful.sound.reward
    simp only [fitsInteger, Bool.and_eq_true, decide_eq_true_eq]
    omega
  simp [storeOrder, version, reward, lawful.sound.available, checks]

theorem store_ok {row stored : StoredOrder} (ok : storeOrder row = .ok stored) :
    stored = row ∧ row.Checked ∧ fitsInteger row.version = true ∧
      row.availableAtRejection.all fitsInteger = true := by
  unfold storeOrder at ok
  split at ok
  · cases ok
  · rename_i fits
    split at ok
    · rename_i checks
      cases ok
      simp only [Bool.not_eq_true', Bool.not_eq_false, Bool.and_eq_true] at fits
      exact ⟨rfl, (checks_iff _).mp checks, fits.1.1, fits.2⟩
    · cases ok

/-! ## What a transition leaves -/

/-- The columns nothing writes after the creation. -/
structure SameRequest (before after : StoredOrder) : Prop where
  orderId : after.orderId = before.orderId
  requesterId : after.requesterId = before.requesterId
  supplierSnapshot : after.supplierSnapshot = before.supplierSnapshot
  items : after.items = before.items
  deliveryZone : after.deliveryZone = before.deliveryZone
  deliveryInstructions : after.deliveryInstructions = before.deliveryInstructions
  reward : after.reward = before.reward
  createdAt : after.createdAt = before.createdAt

theorem write_same (row : StoredOrder) (column : Assign) : SameRequest row (column.write row) := by
  cases column <;> constructor <;> rfl

theorem same_trans {first second third : StoredOrder} (before : SameRequest first second)
    (after : SameRequest second third) : SameRequest first third where
  orderId := after.orderId.trans before.orderId
  requesterId := after.requesterId.trans before.requesterId
  supplierSnapshot := after.supplierSnapshot.trans before.supplierSnapshot
  items := after.items.trans before.items
  deliveryZone := after.deliveryZone.trans before.deliveryZone
  deliveryInstructions := after.deliveryInstructions.trans before.deliveryInstructions
  reward := after.reward.trans before.reward
  createdAt := after.createdAt.trans before.createdAt

theorem patch_same (row : StoredOrder) (patch : List Assign) :
    SameRequest row (applyPatch row patch) := by
  induction patch generalizing row with
  | nil => constructor <;> rfl
  | cons column rest ih => exact same_trans (write_same row column) (ih (column.write row))

/-- The columns a transition may write, beside the times. -/
structure Moved (extra : List Assign) (target : OrderStatus) (row next : StoredOrder) :
    Prop where
  status : next.status = target
  version : next.version = row.version + 1
  courier : next.courierId = row.courierId ∨ next.courierId = none
  available : next.availableAtRejection = row.availableAtRejection ∨
    Assign.availableAtRejection next.availableAtRejection ∈ extra
  rejection : next.status = .rejected ↔ next.rejectionReason.isSome = true
  shape : Shape next

section Moves

variable {row next : StoredOrder} {now : Millis} {timestamps extra : List Assign}
  {target : OrderStatus}

/-- The columns every transition writes. -/
def begun (row : StoredOrder) (target : OrderStatus) (now : Millis) : StoredOrder :=
  { row with
    status := target
    version := row.version + 1
    updatedAt := toMicros now }

theorem patch_begun (command : TransitionCommand) (decision : TransitionDecision) :
    applyPatch row (patchOf command decision now (mapOrder row) timestamps) =
      applyPatch (begun row decision.target now)
        (decision.releaseReason.toList.map Assign.releaseReason ++ timestamps ++
          command.patch) := by
  simp [patchOf, begun, mapOrder]

theorem moved_living (unrejected : row.rejectionReason = none) (living : target ≠ .rejected)
    (status : next.status = target) (version : next.version = row.version + 1)
    (rejection : next.rejectionReason = row.rejectionReason)
    (courier : next.courierId = row.courierId ∨ next.courierId = none)
    (available : next.availableAtRejection = row.availableAtRejection) (shape : Shape next) :
    Moved extra target row next := by
  refine ⟨status, version, courier, .inl available, ?_, shape⟩
  simp [rejection, unrejected, status, living]

/-- A suspended courier's errand opens again, its deadline moved. -/
theorem reopened_timestamps {order : OrderRow}
    (ok : timestampPatch periods .courierSuspended (statusChanged .opened) now order =
      .ok timestamps) :
    ∃ deadline, timestamps =
      [.courierId none, .acceptedAt none, .acceptanceDeadlineAt deadline] := by
  cases found : order.acceptanceDeadlineAt with
  | none => simp [timestampPatch, statusChanged, found] at ok
  | some deadline =>
      cases held : order.acceptedAt with
      | none => simp [timestampPatch, statusChanged, found, held] at ok
      | some acceptedAt =>
          simp only [timestampPatch, statusChanged, found, held, and_self, if_true,
            Except.ok.injEq, List.cons_append, List.nil_append] at ok
          exact ⟨_, ok.symm⟩

theorem rule_moved {rule : TransitionRule} {command : TransitionCommand}
    (member : rule ∈ orderTransitions) (status : rule.status = row.status)
    (action : rule.action = command.action) (fitting : Fitting command.action command.patch)
    (accept : command.action ≠ .accept) (lawful : Lawful row)
    (ok : timestampPatch periods command.action rule.decision now (mapOrder row) =
      .ok timestamps) :
    Moved command.patch rule.decision.target row
      (applyPatch row (patchOf command rule.decision now (mapOrder row) timestamps)) := by
  have shape := lawful.shape
  have rejection := lawful.sound.rejection
  unfold Shape at shape
  rw [← status] at shape rejection
  rw [← action] at fitting ok accept
  rw [patch_begun]
  generalize command.patch = extra at fitting ⊢
  -- No rule leaves REJECTED, and one enters it.
  have unrejected : row.rejectionReason = none := by
    have living : ∀ other ∈ orderTransitions, other.status ≠ .rejected := by decide
    have none := Bool.eq_false_iff.mpr fun refused => living rule member (rejection.mpr refused)
    simpa using none
  clear lawful rejection status action
  simp only [orderTransitions, List.mem_cons, List.not_mem_nil, or_false] at member
  rcases member with rfl | rfl | rfl | rfl | rfl | rfl | rfl | rfl | rfl | rfl | rfl | rfl | rfl |
    rfl | rfl | rfl | rfl | rfl | rfl | rfl | rfl | rfl | rfl | rfl | rfl | rfl | rfl | rfl | rfl
  case inr.inr.inl =>
    cases fitting with
    | rejection reason available =>
        cases ok
        exact ⟨rfl, rfl, .inl rfl, .inr (.tail _ (.head _)), by simp [statusChanged, begun], trivial⟩
    | plain _ other => exact absurd (by decide) other
  all_goals
    cases fitting <;> try contradiction
    all_goals
      first
        | cases ok
        | obtain ⟨deadline, rfl⟩ := reopened_timestamps ok
      apply moved_living unrejected <;>
        simp_all [statusChanged, completion, release, begun, Shape, Carried, Aligned]

end Moves

/-! ## Every reachable row -/

theorem lawful_next {row next : StoredOrder} {extra : List Assign}
    {target : OrderStatus} (lawful : Lawful row) (moved : Moved extra target row next) (same : SameRequest row next)
    (version : row.version < 2147483647)
    (available : next.availableAtRejection.all fitsInteger = true) : Lawful next := by
  have sound := lawful.sound
  refine ⟨⟨?_, ?_, ?_, ?_, ?_, ?_, ?_, available, moved.rejection⟩, moved.shape⟩
  · rw [same.reward]
    exact sound.reward
  · rw [same.items]
    exact sound.items
  · rw [same.deliveryZone]
    exact sound.deliveryZone
  · rw [same.deliveryInstructions]
    exact sound.deliveryInstructions
  · rw [same.requesterId]
    exact sound.requester
  · rcases moved.courier with kept | gone
    · rw [kept]
      exact sound.courier
    · simp [gone]
  · have before := sound.version
    have after := moved.version
    omega

/-- No transition is an acceptance. -/
theorem fitting_not_accept {action : OrderAction} {extra : List Assign}
    (fitting : Fitting action extra) : action ≠ .accept := by
  rintro rfl
  cases fitting with
  | plain _ other => exact other (by decide)

theorem transition_moved {row : StoredOrder} {command : TransitionCommand} {now : Millis}
    {actor : OrderActor} {context : TransitionContext} {decision : TransitionDecision}
    {timestamps : List Assign} (lawful : Lawful row)
    (fitting : Fitting command.action command.patch)
    (decided : decideTransition row.status command.action actor context = some decision)
    (ok : timestampPatch periods command.action decision now (mapOrder row) = .ok timestamps) :
    Moved command.patch decision.target row
      (applyPatch row (patchOf command decision now (mapOrder row) timestamps)) := by
  obtain ⟨rule, member, status, action, _, _, rfl⟩ := decide_rule decided
  exact rule_moved member status action fitting (fitting_not_accept fitting) lawful ok

theorem acceptable_parts {courierId : UserId} {expectedVersion : Int} {tx : Micros}
    {row : StoredOrder} (free : acceptable courierId expectedVersion tx row = true) :
    row.status = .opened ∧ row.version = expectedVersion ∧ row.requesterId ≠ courierId ∧
      ∃ deadline, row.acceptanceDeadlineAt = some deadline ∧ tx < deadline := by
  simp only [acceptable, Bool.and_eq_true, decide_eq_true_eq, Option.any_eq_true] at free
  obtain ⟨⟨⟨status, version⟩, requester⟩, deadline, held, later⟩ := free
  exact ⟨status, version, requester, deadline, held, later⟩

theorem accepted_moved {row : StoredOrder} (caller : AuthContext) (tx : Micros)
    (lawful : Lawful row) (status : row.status = .opened) :
    let next := acceptedRow caller.userId tx row
    next.version = row.version + 1 ∧ next.courierId ≠ some "" ∧
      (next.status = .rejected ↔ next.rejectionReason.isSome = true) ∧ Shape next := by
  have shape := lawful.shape
  have rejection := lawful.sound.rejection
  unfold Shape at shape
  rw [status] at shape rejection
  refine ⟨rfl, ?_, ?_, ?_⟩
  · simpa [acceptedRow, AuthContext.userId] using caller.user.named
  · simpa [acceptedRow] using rejection
  · exact And.intro rfl (And.intro rfl shape.2)

theorem creation_lawful {input : CreatePendingInput} {orderId : Uuid} {now : Millis}
    {change : Applied} (named : input.requesterId ≠ "")
    (applied : createPending input orderId now = .ok change) : Lawful change.next := by
  obtain ⟨rfl, stored⟩ := create_ok applied
  obtain ⟨_, checked, version, available⟩ := store_ok stored
  refine ⟨⟨checked.rewardRange, checked.itemsArray, checked.deliveryZoneLength,
    checked.deliveryInstructionsLength, named, ?_, ?_, available, checked.rejectionShape⟩, ?_⟩
  · simp [creation, pendingRow]
  · simp [creation, pendingRow]
  · simp [creation, pendingRow, Shape]

theorem acceptance_lawful {row : StoredOrder} {caller : AuthContext} {orderId : WrittenId}
    {expectedVersion : Int} {correlationId : String} {tx : Micros} {change : Applied}
    (lawful : Lawful row) (free : acceptable caller.userId expectedVersion tx row = true)
    (applied : acceptUsing orderId caller.userId correlationId tx row = .ok change) :
    Lawful change.next := by
  obtain ⟨rfl, stored⟩ := accept_ok applied
  obtain ⟨_, checked, version, available⟩ := store_ok stored
  obtain ⟨status, _⟩ := acceptable_parts free
  have moved := accepted_moved caller tx lawful status
  simp only [fitsInteger, Bool.and_eq_true, decide_eq_true_eq] at version
  exact ⟨⟨checked.rewardRange, checked.itemsArray, checked.deliveryZoneLength,
    checked.deliveryInstructionsLength, lawful.sound.requester, moved.2.1,
    ⟨checked.versionPositive, version.2⟩, available, moved.2.2.1⟩, moved.2.2.2⟩

theorem transition_lawful {row : StoredOrder} {command : TransitionCommand} {tx : Micros}
    {change : Applied} (lawful : Lawful row) (fitting : Fitting command.action command.patch)
    (applied : transitionUsing periods command tx row = .ok (.applied change)) :
    Lawful change.next := by
  obtain ⟨decision, decided, _, _, writes⟩ := transition_ok applied
  obtain ⟨timestamps, patched, same⟩ := writes.next
  have moved := transition_moved lawful fitting decided patched
  rw [← same] at moved
  obtain ⟨_, _, version, available⟩ := store_ok writes.stored
  have room : row.version < 2147483647 := by
    have after := moved.version
    simp only [fitsInteger, Bool.and_eq_true, decide_eq_true_eq] at version
    omega
  exact lawful_next lawful moved (same ▸ patch_same row _) room available

theorem note_lawful {row : StoredOrder} (lawful : Lawful row) (mark : Option Micros) :
    Lawful { row with requesterSuspendedAt := mark } :=
  ⟨⟨lawful.sound.reward, lawful.sound.items, lawful.sound.deliveryZone,
    lawful.sound.deliveryInstructions, lawful.sound.requester, lawful.sound.courier,
    lawful.sound.version, lawful.sound.available, lawful.sound.rejection⟩, lawful.shape⟩

theorem reachable_lawful {row : StoredOrder} (reached : Reachable periods row) : Lawful row := by
  induction reached with
  | created caller input orderId now change requester applied =>
      exact creation_lawful (requester ▸ caller.user.named) applied
  | accepted row reached caller orderId expectedVersion correlationId tx change free applied ih =>
      exact acceptance_lawful ih free applied
  | transitioned row reached command issued tx change applied ih =>
      exact transition_lawful ih (issued_fitting issued) applied
  | noted row reached mark ih => exact note_lawful ih mark

/-! ## Sequences of calls -/

/-- One call that may change an errand. -/
inductive Turn where
  | accept (caller : AuthContext) (orderId : WrittenId) (expectedVersion : Int)
      (correlationId : String) (tx : Micros)
  | transition (command : TransitionCommand) (issued : Issued command) (tx : Micros)

/-- The row a call leaves, when it changes it. -/
def turn (periods : Periods) (row : StoredOrder) : Turn → Option StoredOrder
  | .accept caller orderId expectedVersion correlationId tx =>
      if acceptable caller.userId expectedVersion tx row then
        match acceptUsing orderId caller.userId correlationId tx row with
        | .ok change => some change.next
        | .error _ => none
      else none
  | .transition command _ tx =>
      match transitionUsing periods command tx row with
      | .ok (.applied change) => some change.next
      | _ => none

def turns (periods : Periods) : StoredOrder → List Turn → Option StoredOrder
  | row, [] => some row
  | row, call :: rest => (turn periods row call).bind fun next => turns periods next rest

theorem turn_reachable {row next : StoredOrder} {call : Turn} (reached : Reachable periods row)
    (moved : turn periods row call = some next) : Reachable periods next := by
  cases call with
  | accept caller orderId expectedVersion correlationId tx =>
      simp only [turn] at moved
      split at moved
      · rename_i free
        split at moved
        · rename_i change applied
          cases moved
          exact .accepted row reached caller orderId expectedVersion correlationId tx change free
            applied
        · cases moved
      · cases moved
  | transition command issued tx =>
      simp only [turn] at moved
      split at moved
      · rename_i change applied
        cases moved
        exact .transitioned row reached command issued tx change applied
      · cases moved

theorem turns_reachable {row after : StoredOrder} {calls : List Turn}
    (reached : Reachable periods row) (ran : turns periods row calls = some after) :
    Reachable periods after := by
  induction calls generalizing row with
  | nil =>
      cases ran
      exact reached
  | cons call rest ih =>
      obtain ⟨next, moved, ran⟩ := Option.bind_eq_some_iff.mp ran
      exact ih (turn_reachable reached moved) ran

/-! ## One errand -/

def usual : Periods :=
  { acceptanceWindow := 1800000, deliveryPeriod := 3600000, autoConfirm := 86400000 }

theorem requester_one_named : "u1" ≠ "" := by decide

def requesterOne : AuthContext :=
  { user := { id := "u1", named := requester_one_named, text := by decide }, isAdmin := false }

def courierOne : AuthContext :=
  { user := { id := "u2", named := by decide, text := by decide }, isAdmin := false }

def adminOne : AuthContext :=
  { user := { id := "a1", named := by decide, text := by decide }, isAdmin := true }

def errandOne : CreatePendingInput :=
  { request :=
      { supplierId := 7
        items := [{ name := "kopi", quantity := 1, note := none }]
        deliveryZone := "COM1"
        deliveryInstructions := "lobby"
        reward := 2 }
    requesterId := "u1"
    supplierSnapshot :=
      { supplierId := 7
        name := "Deck"
        type := "canteen"
        building := "AS8"
        floor := "1"
        locationDescription := "by the lift" }
    correlationId := "c" }

def envelopeOne : Envelope := { eventId := 1, aggregateId := written 1, correlationId := "c" }

def reserving : Turn :=
  .transition (reservedCommand envelopeOne (written 1) false) (.reserved ..) 0

/-- The courier is suspended with the food in hand, and the dispute referred. -/
def disputing : List Turn :=
  [ reserving,
    .accept courierOne (written 1) 2 "c" 1000,
    .transition (participantCommand (written 1) .recordPickup 3 courierOne "c")
      (.participant _ _ _ _ _ (by decide)) 2000,
    .transition (suspensionCommand envelopeOne 1 .courier .courierSuspended)
      (.suspension _ _ _ .pickedUp _ rfl) 3000,
    .transition (assignCommand 1 4 adminOne.user "c") (.assign ..) 4000 ]

theorem created_one : Reachable usual (pendingRow errandOne 1 0) :=
  .created requesterOne errandOne 1 0 (creation errandOne 1 0) rfl rfl

theorem ran_reachable (calls : List Turn) {row : StoredOrder}
    (ran : turns usual (pendingRow errandOne 1 0) calls = some row) : Reachable usual row :=
  turns_reachable created_one ran

end Foc.Order
