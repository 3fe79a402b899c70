import Foc.Order.Runs

/-!
What a caller may read of an errand: its projection, and the endpoints that check a
caller's privilege by what the projection left in.
-/
namespace Foc.Order
open Library Library.ReadCommitted Library.Transaction Library.Serial

/-! ## The projection -/

structure RejectionView where
  reason : String
  available : Option Int
  deriving DecidableEq, Repr

structure OrderView where
  orderId : Uuid
  supplier : SupplierSnapshot
  items : List OrderItem
  deliveryZone : String
  reward : Int
  status : OrderStatus
  version : Int
  acceptanceDeadlineAt : Option Millis
  createdAt : Millis
  updatedAt : Millis
  serverTime : Millis
  requesterId : Option UserId
  courierId : Option UserId
  deliveryInstructions : Option String
  nonDeliveryReportAt : Option Millis
  autoConfirmAt : Option Millis
  releaseReason : Option ReleaseReason
  rejection : Option RejectionView
  deriving DecidableEq, Repr

/-- An item without its note. -/
def OrderItem.public (item : OrderItem) : OrderItem := { item with note := none }

/-- A text that is there: JavaScript takes an empty one for none. -/
def truthy (text : Option String) : Option String := text.filter (· ≠ "")

def projectOrder (order : OrderRow) (caller : AuthContext) (serverTime : Millis) :
    Option OrderView :=
  let isRequester := decide (caller.userId = order.requesterId)
  let isCourier := decide (some caller.userId = order.courierId)
  let isReferredAdmin := caller.isAdmin && decide (some caller.userId = order.referredAdminId)
  let canReadPrivate := isRequester || isCourier || isReferredAdmin
  -- Pending and rejected requests are private to their requester and admins.
  if (decide (order.status = .pendingCredit) || decide (order.status = .rejected)) &&
      !isRequester && !isReferredAdmin then none
  else
    some
      { orderId := order.orderId
        supplier := order.supplierSnapshot
        items := if canReadPrivate then order.items else order.items.map OrderItem.public
        deliveryZone := order.deliveryZone
        reward := order.reward
        status := order.status
        version := order.version
        acceptanceDeadlineAt := order.acceptanceDeadlineAt
        createdAt := order.createdAt
        updatedAt := order.updatedAt
        serverTime
        requesterId := if canReadPrivate then some order.requesterId else none
        courierId := if canReadPrivate then truthy order.courierId else none
        deliveryInstructions := if canReadPrivate then some order.deliveryInstructions else none
        nonDeliveryReportAt :=
          if canReadPrivate && decide (order.status = .pickedUp) then order.nonDeliveryReportAt
          else none
        autoConfirmAt :=
          if canReadPrivate && decide (order.status = .delivered) then order.autoConfirmAt else none
        releaseReason :=
          if canReadPrivate && decide (order.status = .releasePendingCredit) then
            order.releaseReason
          else none
        rejection :=
          if decide (order.status = .rejected) && canReadPrivate then
            (truthy order.rejectionReason).map fun reason =>
              { reason, available := order.availableAtRejection }
          else none }

/-! ## The endpoints -/

def privateForbidden : Failure := .api 403 "PRIVATE_ORDER_FORBIDDEN"

def findById (view : Store Row) (id : Uuid) : Option OrderRow :=
  (view.lookup (.order id)).map mapOrder

/-- The order and its projection, if that holds delivery instructions. -/
def readPrivate (view : Store Row) (id : Uuid) (caller : AuthContext) (serverTime : Millis) :
    Except Failure (OrderRow × OrderView) :=
  match findById view id with
  | none => .error notFound
  | some order =>
      match projectOrder order caller serverTime with
      | none => .error notFound
      | some projected =>
          if (truthy projected.deliveryInstructions).isNone then .error privateForbidden
          else .ok (order, projected)

def getById (view : Store Row) (id : Uuid) (caller : AuthContext) (privateView : Bool)
    (serverTime : Millis) : Except Failure OrderView :=
  if privateView then (readPrivate view id caller serverTime).map Prod.snd
  else
    match (findById view id).bind fun order => projectOrder order caller serverTime with
    | none => .error notFound
    | some projected => .ok projected

/-- What a history entry is shown to have been. -/
inductive ShownAction where
  | recorded (action : HistoryAction)
  | systemOutcome
  deriving DecidableEq, Repr

structure HistoryView where
  previousStatus : Option OrderStatus
  newStatus : OrderStatus
  action : ShownAction
  actorType : ActorType
  actorId : Option String
  reason : Option String
  version : Int
  occurredAt : Millis
  deriving DecidableEq, Repr

def findHistory (view : Store Row) (id : Uuid) : List HistoryView :=
  let entries : List (Int × HistoryEntry) := view.entries.filterMap fun
    | ⟨.history errand version, entry⟩ => if errand = id then some (version, entry) else none
    | _ => none
  (entries.mergeSort fun first second => decide (first.1 ≤ second.1)).map fun (version, entry) =>
    { previousStatus := entry.previousStatus
      newStatus := entry.newStatus
      action := .recorded entry.action
      actorType := entry.actorType
      actorId := entry.actorId
      reason := entry.reason
      version
      occurredAt := toMillis entry.occurredAt }

def suspensionReasons : List String := [suspensionReason .requester, suspensionReason .courier]

/-- A history entry as anyone but the referred administrator sees it. -/
def asParticipantSees (entry : HistoryView) : HistoryView :=
  let creditForSuspension := decide (entry.actorType = .creditService) &&
    entry.reason.any suspensionReasons.contains
  if entry.actorType ≠ .system ∧ creditForSuspension = false then entry
  else
    { entry with action := .systemOutcome, actorType := .system, actorId := none, reason := none }

/-- The history is read after the order, from what is committed by then. -/
def history (view later : Store Row) (id : Uuid) (caller : AuthContext) (serverTime : Millis) :
    Except Failure (List HistoryView) := do
  let (order, _) ← readPrivate view id caller serverTime
  let entries := findHistory later id
  let isReferredAdmin := caller.isAdmin && decide (some caller.userId = order.referredAdminId)
  return if isReferredAdmin then entries else entries.map asParticipantSees

def receiptNotFound : Failure := .api 404 "RECEIPT_NOT_FOUND"

def receipt (view later : Store Row) (id : Uuid) (caller : AuthContext) (serverTime : Millis) :
    Except Failure OrderReceipt := do
  let _ ← readPrivate view id caller serverTime
  match later.lookup (.receipt id) with
  | none => .error receiptNotFound
  | some receipt => return receipt

/-! ## Who sees what -/

/-- The requester, the courier, or the administrator the errand was referred to. -/
def Privileged (order : OrderRow) (caller : AuthContext) : Prop :=
  caller.userId = order.requesterId ∨ order.courierId = some caller.userId ∨
    caller.isAdmin = true ∧ order.referredAdminId = some caller.userId

/-- Orders that agree on what any student may see. -/
structure SamePublic (first second : OrderRow) : Prop where
  orderId : first.orderId = second.orderId
  supplier : first.supplierSnapshot = second.supplierSnapshot
  items : first.items.map (fun item => (item.name, item.quantity)) =
    second.items.map fun item => (item.name, item.quantity)
  deliveryZone : first.deliveryZone = second.deliveryZone
  reward : first.reward = second.reward
  status : first.status = second.status
  version : first.version = second.version
  acceptanceDeadlineAt : first.acceptanceDeadlineAt = second.acceptanceDeadlineAt
  createdAt : first.createdAt = second.createdAt
  updatedAt : first.updatedAt = second.updatedAt

section Projections

variable {first second order : OrderRow} {caller : AuthContext} {time other : Millis}

theorem unprivileged (stranger : ¬ Privileged order caller) :
    decide (caller.userId = order.requesterId) = false ∧
      decide (some caller.userId = order.courierId) = false ∧
      (caller.isAdmin && decide (some caller.userId = order.referredAdminId)) = false := by
  simp only [Privileged, not_or, not_and] at stranger
  obtain ⟨requester, courier, admin⟩ := stranger
  refine ⟨by simpa using requester, by simpa [eq_comm] using courier, ?_⟩
  cases is : caller.isAdmin with
  | false => rfl
  | true => simpa [eq_comm] using admin is

theorem public_items {items others : List OrderItem}
    (same : items.map (fun item => (item.name, item.quantity)) =
      others.map fun item => (item.name, item.quantity)) :
    items.map OrderItem.public = others.map OrderItem.public := by
  have factors : OrderItem.public =
      (fun pair : String × Nat => OrderItem.mk pair.1 pair.2 none) ∘
        fun item => (item.name, item.quantity) := rfl
  rw [factors, ← List.map_map, ← List.map_map, same]

/-- Whoever has no privilege sees no more than the public fields. -/
theorem project_stranger (stranger : ¬ Privileged order caller) :
    projectOrder order caller time =
      if order.status = .pendingCredit ∨ order.status = .rejected then none
      else some
        { orderId := order.orderId
          supplier := order.supplierSnapshot
          items := order.items.map OrderItem.public
          deliveryZone := order.deliveryZone
          reward := order.reward
          status := order.status
          version := order.version
          acceptanceDeadlineAt := order.acceptanceDeadlineAt
          createdAt := order.createdAt
          updatedAt := order.updatedAt
          serverTime := time
          requesterId := none
          courierId := none
          deliveryInstructions := none
          nonDeliveryReportAt := none
          autoConfirmAt := none
          releaseReason := none
          rejection := none } := by
  obtain ⟨requester, courier, admin⟩ := unprivileged stranger
  simp [projectOrder, requester, courier, admin]

/-- Two orders that agree on the public fields look the same to a stranger of both. -/
theorem project_same (same : SamePublic first second) (stranger : ¬ Privileged first caller)
    (unknown : ¬ Privileged second caller) :
    (projectOrder first caller time).map (fun view => { view with serverTime := 0 }) =
      (projectOrder second caller other).map fun view => { view with serverTime := 0 } := by
  rw [project_stranger stranger, project_stranger unknown, same.status]
  split
  · rfl
  · simp [same.orderId, same.supplier, public_items same.items, same.deliveryZone, same.reward,
      same.version, same.acceptanceDeadlineAt, same.createdAt, same.updatedAt]

/-- The privileged see the delivery instructions, of an errand that has a courier only
once it is open. -/
theorem project_privileged (privileged : Privileged order caller)
    (unclaimed : order.status = .pendingCredit ∨ order.status = .rejected →
      order.courierId = none) :
    ∃ view, projectOrder order caller time = some view ∧
      view.deliveryInstructions = some order.deliveryInstructions := by
  have reads : (decide (caller.userId = order.requesterId) ||
      decide (some caller.userId = order.courierId) ||
      (caller.isAdmin && decide (some caller.userId = order.referredAdminId))) = true := by
    rcases privileged with requester | courier | ⟨admin, referred⟩
    · simp [requester]
    · simp [courier]
    · simp [admin, referred]
  have shown : ((decide (order.status = .pendingCredit) || decide (order.status = .rejected)) &&
      !decide (caller.userId = order.requesterId) &&
      !(caller.isAdmin && decide (some caller.userId = order.referredAdminId))) = false := by
    by_cases hidden : order.status = .pendingCredit ∨ order.status = .rejected
    · rcases privileged with requester | courier | ⟨admin, referred⟩
      · simp [requester]
      · rw [unclaimed hidden] at courier
        cases courier
      · simp [admin, referred]
    · rw [not_or] at hidden
      simp [hidden.1, hidden.2]
  unfold projectOrder
  simp only [shown, reads]
  exact ⟨_, rfl, rfl⟩

/-- An order is shown to the callers its commands answer. -/
theorem projected_visible : (projectOrder order caller time).isSome = visible order caller := by
  unfold projectOrder visible
  simp only [@eq_comm _ order.requesterId, @eq_comm _ order.referredAdminId]
  split
  · rename_i hidden
    simp only [Bool.and_eq_true, Bool.not_eq_true'] at hidden
    simp [hidden]
  · rename_i shown
    symm
    simpa [Bool.or_eq_true, Bool.and_eq_true, or_assoc, and_assoc, imp_iff_not_or] using shown

end Projections

section Endpoints

variable {view : Store Row} {id : Uuid} {row : StoredOrder} {caller : AuthContext} {time : Millis}

theorem find_by_id (found : view.lookup (.order id) = some row) :
    findById view id = some (mapOrder row) := by
  rw [findById, found]
  rfl

/-- The check passes for the privileged and for nobody else. -/
theorem read_private (found : view.lookup (.order id) = some row)
    (written : row.deliveryInstructions ≠ "")
    (unclaimed : row.status = .pendingCredit ∨ row.status = .rejected → row.courierId = none) :
    (∃ read, readPrivate view id caller time = .ok read) ↔ Privileged (mapOrder row) caller := by
  unfold readPrivate
  rw [find_by_id found]
  constructor
  · rintro ⟨read, passes⟩
    by_contra stranger
    simp only [project_stranger stranger] at passes
    split at passes
    · cases passes
    · rename_i projected shown
      split at shown
      · cases shown
      · cases shown
        cases passes
  · intro privileged
    obtain ⟨projected, shown, instructions⟩ : ∃ projected,
        projectOrder (mapOrder row) caller time = some projected ∧
          projected.deliveryInstructions = some row.deliveryInstructions :=
      project_privileged privileged unclaimed
    refine ⟨(mapOrder row, projected), ?_⟩
    have kept : truthy (some row.deliveryInstructions) = some row.deliveryInstructions := by
      simp [truthy, written]
    simp only [shown, instructions, kept]
    rfl

/-- What the check refuses with. -/
theorem read_refused {failure : Failure} (refused : readPrivate view id caller time = .error failure) :
    failure = notFound ∨ failure = privateForbidden := by
  unfold readPrivate at refused
  split at refused
  · cases refused
    exact .inl rfl
  · split at refused
    · cases refused
      exact .inl rfl
    · split at refused
      · cases refused
        exact .inr rfl
      · cases refused

end Endpoints

/-! ## Stored orders -/

section Stored

variable {settings : Settings}

theorem rejecting_rules : ∀ rule ∈ orderTransitions, rule.decision.target = .rejected →
    rule.status = .pendingCredit ∧ rule.action ≠ .accept := by decide

/-- A rejected errand never had a courier. -/
theorem reached_rejected {state : View Row × Env}
    (reached : Serial.Reached (orderService settings) (orderContract settings) state) (id : Uuid) :
    ∀ row, state.1 (.order id) = some row → row.status = .rejected → row.courierId = none := by
  apply reached_errand id (fun view => ∀ row, view (.order id) = some row → row.status = .rejected →
    row.courierId = none) _ _ reached
  · intro view empty row found
    simp [empty] at found
  · intro call act view does fits _ lawful held row found status
    cases errand_step does fits id with
    | untouched same => exact held row (same ▸ found) status
    | noted before mark is present left =>
        cases left.symm.trans found
        exact held before present status
    | created input now absent left =>
        cases left.symm.trans found
        cases status
    | changed cause before applied sent entered is named present left =>
        cases left.symm.trans found
        subst is
        obtain ⟨stepped, _⟩ := does_stepped does
        obtain ⟨rule, member, source, action, target, _⟩ := stepped.rule
        obtain ⟨pending, unaccepted⟩ := rejecting_rules rule member (target.trans status)
        have shape := (lawful id before present).shape
        unfold Shape at shape
        rw [← source, pending] at shape
        rcases stepped.courier with same | ⟨_, none | ⟨accepts, _⟩⟩
        · exact same.trans shape
        · exact none
        · exact absurd (action.trans accepts) unaccepted

theorem unclaimed_row {state : View Row × Env}
    (reached : Serial.Reached (orderService settings) (orderContract settings) state) {id : Uuid}
    {row : StoredOrder} (found : state.1 (.order id) = some row)
    (hidden : row.status = .pendingCredit ∨ row.status = .rejected) : row.courierId = none := by
  rcases hidden with pending | rejected
  · have shape := (reached_lawful reached id row found).shape
    unfold Shape at shape
    rw [pending] at shape
    exact shape
  · exact reached_rejected reached id row found rejected

theorem written_instructions {state : View Row × Env}
    (reached : Serial.Reached (orderService settings) (orderContract settings) state) {id : Uuid}
    {row : StoredOrder} (found : state.1 (.order id) = some row) : row.deliveryInstructions ≠ "" := by
  intro empty
  have length := (reached_lawful reached id row found).sound.deliveryInstructions
  rw [empty] at length
  exact absurd length (by decide)

variable {clock : Micros} {suspended : List UserId} {world : OrderWorld}

/-- Strangers see of an errand what its public fields say, and nothing of one that is
pending or rejected; and the private endpoints let through the requester, the courier
and the administrator it was referred to, of every order the service stored. -/
theorem projection_private (settings : Settings) (clock : Micros) (suspended : List UserId)
    (world : OrderWorld) (run : OrderRun settings (idle ∅ (Env.initial clock suspended)) world) :
    (∀ first second caller time other, SamePublic first second → ¬ Privileged first caller →
      ¬ Privileged second caller →
      (projectOrder first caller time).map (fun view => { view with serverTime := 0 }) =
        (projectOrder second caller other).map (fun view => { view with serverTime := 0 }) ∧
      (first.status = .pendingCredit ∨ first.status = .rejected →
        projectOrder first caller time = none)) ∧
    ∀ id row (caller : AuthContext) time (later : Store Row),
      world.committed.lookup (.order id) = some row →
      ((∃ view, getById world.committed id caller true time = .ok view) ↔
        Privileged (mapOrder row) caller) ∧
      ((∃ entries, history world.committed later id caller time = .ok entries) ↔
        Privileged (mapOrder row) caller) ∧
      ((receipt world.committed later id caller time ≠ .error notFound ∧
          receipt world.committed later id caller time ≠ .error privateForbidden) ↔
        Privileged (mapOrder row) caller) := by
  constructor
  · intro first second caller time other same stranger unknown
    refine ⟨project_same same stranger unknown, ?_⟩
    intro hidden
    rw [project_stranger stranger, if_pos hidden]
  · intro id row caller time later found
    have reached := order_reached run
    have reads : (∃ read, readPrivate world.committed id caller time = .ok read) ↔
        Privileged (mapOrder row) caller :=
      read_private found (written_instructions reached found) (unclaimed_row reached found)
    rw [← reads]
    unfold getById history receipt
    cases read : readPrivate world.committed id caller time with
    | error failure =>
        have none : ¬ ∃ read, (Except.error failure : Except Failure (OrderRow × OrderView)) = .ok read := by
          rintro ⟨_, same⟩
          cases same
        rcases read_refused read with rfl | rfl
        · simp [Except.map, bind, Except.bind]
        · simp [Except.map, bind, Except.bind]
    | ok found =>
        refine ⟨?_, ?_, ?_⟩
        · simp [Except.map]
        · simp [bind, Except.bind, pure, Except.pure]
        · simp only [bind, Except.bind]
          cases kept : later.lookup (.receipt id) with
          | none => simp [receiptNotFound, notFound, privateForbidden]
          | some receipt => simp [pure, Except.pure]

theorem requester_reads : ∃ (world : OrderWorld) (row : StoredOrder),
    OrderRun plainSettings (idle ∅ (Env.initial 0 [])) world ∧
    world.committed.lookup (.order 1) = some row ∧
    (∃ view, getById world.committed 1 requesterOne true 0 = .ok view) ∧
    ¬ ∃ view, getById world.committed 1 courierOne true 0 = .ok view := by
  have reached : (steps (orderService plainSettings).machine (fun _ _ => True)
      (idle ∅ (Env.initial 0 [])) (creating ++ opening)).bind (fun world =>
        (world.committed.lookup (.order 1)).map fun row =>
          (row.requesterId, row.courierId)) = some ("u1", none) := by rfl
  obtain ⟨world, stepped, reached⟩ := Option.bind_eq_some_iff.mp reached
  obtain ⟨row, found, parties⟩ := Option.map_eq_some_iff.mp reached
  obtain ⟨requester, courier⟩ := Prod.mk.inj parties
  have run := run_steps .refl _ stepped
  have reads := (projection_private plainSettings 0 [] world run).2 1 row
  refine ⟨world, row, run, found, ?_, ?_⟩
  · apply (reads requesterOne 0 world.committed found).1.mpr
    exact .inl requester.symm
  · intro read
    rcases (reads courierOne 0 world.committed found).1.mp read with same | same | ⟨admin, _⟩
    · have other : "u2" = row.requesterId := same
      rw [requester] at other
      exact absurd other (by decide)
    · have other : row.courierId = some "u2" := same
      rw [courier] at other
      cases other
    · cases admin

end Stored

end Foc.Order
