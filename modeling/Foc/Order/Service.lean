import Foc.Library.Serial
import Foc.Order.Repository
import Foc.Order.Request

/-!
The Order Service over its database: each call is one transaction, written as the
source writes it, and any number of them run together. What one transaction read
and another relies on is kept in a log, as the process between them keeps it.
Not here: what only reads for a page or an operator, the relay of the outbox and
the retention of its tables.
-/
namespace Foc.Order
open Library.ReadCommitted Library.Transaction

/-! ## Rows -/

inductive Consumer where
  | reservationResults
  | transferResults
  | releaseResults
  | userSuspensions
  deriving DecidableEq, Repr

inductive AlertKind where
  | creditStateConflict
  | referralUnassigned
  deriving DecidableEq, Repr

/-- The primary keys and unique indexes. An advisory lock is a row that is only
ever inserted and deleted again. -/
inductive Key where
  | order (id : Uuid)
  | history (id : Uuid) (version : Int)
  | receipt (id : Uuid)
  | receiptTransaction (transactionId : Uuid)
  | requesterKey (requesterId : UserId) (key : String)
  | commandKey (callerId : UserId) (key : String)
  | outbox (id : Uuid)
  | processed (consumer : Consumer) (eventId : Uuid)
  | alert (id : Uuid) (kind : AlertKind)
  | attempt (attemptId : Uuid)
  | advisory (lock : Int)
  deriving DecidableEq, Repr

/-- Which order a key was used for, and for what request. -/
structure KeyRow where
  orderId : Uuid
  requestHash : String
  deriving DecidableEq, Repr

inductive ReconciliationAction where
  | reissue
  | alert
  | creditUnavailable
  deriving DecidableEq, Repr

structure Attempt where
  runId : Uuid
  orderId : Uuid
  orderStatus : OrderStatus
  orderVersion : Int
  creditStatus : Option String
  creditDetail : Option String
  action : ReconciliationAction
  reissuedEventId : Option Uuid
  attemptedAt : Micros
  deriving DecidableEq, Repr

@[reducible] def Row : Key → Type
  | .order _ => StoredOrder
  | .history _ _ => HistoryEntry
  | .receipt _ => OrderReceipt
  | .receiptTransaction _ => Unit
  | .requesterKey _ _ => KeyRow
  | .commandKey _ _ => KeyRow
  | .outbox _ => OutboxEvent
  | .processed _ _ => Unit
  | .alert _ _ => Unit
  | .attempt _ => Attempt
  | .advisory _ => Unit

/-! ## Calls -/

inductive Timer where
  | expire
  | pickupTimeout
  | autoConfirm
  | undelivered
  deriving DecidableEq, Repr

inductive Reply where
  | reserved
  | rejected (refusal : Refusal)
  deriving DecidableEq, Repr

/-- One candidate of a reconciliation run, and what Credit said of it. -/
structure Reconciliation where
  orderId : Uuid
  status : OrderStatus
  version : Int
  runId : Uuid
  creditStatus : Option String
  creditDetail : Option String
  action : ReconciliationAction
  correlationId : String
  deriving DecidableEq, Repr

inductive Task where
  | findIdempotent (caller : AuthContext) (key : String) (request : CreateRequest)
  | create (caller : AuthContext) (key : String) (request : CreateRequest)
      (supplierSnapshot : SupplierSnapshot) (correlationId : String)
  | command (caller : AuthContext) (key : Option String) (request : UserRequest)
      (correlationId : String)
  | review (caller : AuthContext) (orderId : WrittenId)
  | reservation (envelope : Envelope) (payload : Reservation) (reply : Reply)
  | released (envelope : Envelope) (payload : Released)
  | transferred (envelope : Envelope) (payload : Transferred)
  | suspended (envelope : Envelope) (userId : UserId)
  | databaseNow
  | timer (timer : Timer) (orderId : Uuid) (now : Millis) (correlationId : String)
  | deliveryOverdue (now : Millis)
  | inquire (orderId : Uuid) (requesterId : UserId) (now : Millis)
  | clearSuspended (orderId : Uuid)
  | disputesToRefer (admins : List Account)
  | consider (orderId : Uuid) (admins : List Account)
  | unassign (orderId : Uuid) (now : Millis) (heldBy : Account) (correlationId : String)
  | assign (orderId : Uuid) (now : Millis) (admin : Account) (correlationId : String)
  | reconcile (input : Reconciliation)

/-- A transaction and its `now()`: the database's clock when it began. -/
structure Call where
  began : Micros
  task : Task

inductive Result where
  | absent
  | created (order : OrderRow)
  | replayed (order : OrderRow)
  | answered (order : OrderRow)
  | refused (failure : Failure)
  | unbiased
  | duplicate
  | handled (changed : Bool)
  | suspensionHandled (suspended : Bool) (lifted : Nat)
  | time (now : Millis)
  | overdue (found : List (Uuid × UserId))
  | told (suspended : Bool)
  | disputes (found : List (Uuid × Option UserId))
  | chosen (admin : Option Account)
  | reconciled (recorded : Bool)

inductive Ask where
  | randomUUID
  | serviceClock
  | isSuspended (userId : UserId)
  deriving DecidableEq, Repr

/-- What the User Service says of an account. `lifted`, how often a suspension of
it has been lifted, is not in its answer: it tells one suspension from the next. -/
structure Suspension where
  suspended : Bool
  lifted : Nat
  deriving DecidableEq, Repr

@[reducible] def Answer : Ask → Type
  | .randomUUID => Uuid
  | .serviceClock => Millis
  | .isSuspended _ => Suspension

abbrev Tx := Program Row Answer Failure

structure Settings where
  periods : Periods
  pickupTimeout : Nat
  retryAfter : Nat
  batchSize : Nat
  hashtext : String → Int
  sha256 : String → String

/-! ## Statements -/

def ask (question : Ask) : Tx (Answer question) := .await question .done

def read : Tx (Store Row) := .select .done

def insertRow (key : Key) (row : Row key) : Tx Unit :=
  .insert key row fun inserted =>
    if inserted then .done () else .fail (.database .uniqueViolation)

/-- `ON CONFLICT DO NOTHING`: whether the row is new. -/
def insertNew (key : Key) (row : Row key) : Tx Bool := .insert key row .done

def selectOrder (id : Uuid) : Tx (Option StoredOrder) :=
  .select fun view => .done (view.lookup (.order id))

def lockById (id : Uuid) : Tx (Option StoredOrder) :=
  lockRow (Key.order id) false (fun _ => true) some

def commandKeyRow (callerId : UserId) (key : String) : Tx (Option KeyRow) :=
  .select fun view => .done (view.lookup (.commandKey callerId key))

def requesterKeyRow (requesterId : UserId) (key : String) : Tx (Option KeyRow) :=
  .select fun view => .done (view.lookup (.requesterKey requesterId key))

def updateOrder (id : Uuid) (wanted : StoredOrder → Bool) (write : StoredOrder → StoredOrder) :
    Tx (Option StoredOrder) :=
  lockRow (Key.order id) false wanted fun row => some (write row)

def advisoryLock (lock : Int) : Tx Unit := do
  let _ ← insertNew (.advisory lock) ()
  let _ ← lockRow (Key.advisory lock) false (fun _ => true) fun _ => none
  return ()

def insertOutboxEvent (event : OutboxEvent) : Tx Uuid := do
  let id ← ask .randomUUID
  insertRow (.outbox id) event
  return id

def insertOutboxEvents : List OutboxEvent → Tx Unit
  | [] => .done ()
  | event :: rest => do
      let _ ← insertOutboxEvent event
      insertOutboxEvents rest

def insertReceipt (id : Uuid) : Option OrderReceipt → Tx Unit
  | none => .done ()
  | some receipt => do
      insertRow (.receipt id) receipt
      insertRow (.receiptTransaction receipt.creditTransactionId) ()

/-- What follows the update of an order's row. -/
def insertChange (id : Uuid) (change : Applied) : Tx Unit := do
  insertRow (.history id change.next.version) change.history
  insertReceipt id change.receipt
  insertOutboxEvents change.events

/-! ## Transitions and acceptance -/

inductive TransitionResult where
  | applied (order : OrderRow)
  | rejected (reason : Rejection) (order : Option OrderRow)

def transition (periods : Periods) (command : TransitionCommand) (tx : Micros) :
    Tx TransitionResult := do
  match ← lockById command.orderId.id with
  | none => return .rejected .notFound none
  | some stored =>
      match transitionUsing periods command tx stored with
      | .error failure => .fail failure
      | .ok (.rejected reason) => return .rejected reason (some (mapOrder stored))
      | .ok (.applied change) =>
          match ← updateOrder command.orderId.id
            (fun row => decide (row.version = stored.version)) fun _ => change.next with
          | none => return .rejected .versionConflict (some (mapOrder stored))
          | some _ =>
              insertChange command.orderId.id change
              return .applied (mapOrder change.next)

inductive Acceptance where
  | accepted (order : OrderRow)
  | declined (order : Option OrderRow)

def accept (orderId : WrittenId) (courierId : UserId) (expectedVersion : Int)
    (correlationId : String) (tx : Micros) : Tx Acceptance := do
  let accepting := acceptUsing orderId courierId correlationId tx
  match ← updateOrder orderId.id (acceptable courierId expectedVersion tx) fun row =>
      match accepting row with
      | .ok change => change.next
      | .error _ => row with
  | none => return .declined ((← selectOrder orderId.id).map mapOrder)
  | some stored =>
      match accepting stored with
      | .error failure => .fail failure
      | .ok change =>
          insertChange orderId.id change
          return .accepted (mapOrder change.next)

/-! ## People's commands -/

/-- Pending and rejected requests are private to their requester and the
referred administrator; every other errand has a view for anyone. -/
def visible (order : OrderRow) (caller : AuthContext) : Bool :=
  !(decide (order.status = .pendingCredit) || decide (order.status = .rejected)) ||
    decide (order.requesterId = caller.userId) ||
    (caller.isAdmin && decide (order.referredAdminId = some caller.userId))

def notFound : Failure := .api 404 "NOT_FOUND"

/-- The caller's view of an order. Which of its fields they see is left out. -/
def project (order : OrderRow) (caller : AuthContext) : Except Failure OrderRow :=
  if visible order caller then .ok order else .error notFound

def declined (order : Option OrderRow) (caller : AuthContext) (now : Millis) : Failure :=
  match order with
  | none => notFound
  | some current =>
      if !visible current caller then notFound
      else if current.requesterId = caller.userId then .api 403 "SELF_ACCEPTANCE_FORBIDDEN"
      else if current.status ≠ .opened then .api 409 "ORDER_NOT_OPEN"
      else if current.acceptanceDeadlineAt.all fun deadline => decide (deadline ≤ now) then
        .api 409 "ACCEPTANCE_DEADLINE_PASSED"
      else .api 409 "ORDER_CHANGED"

/-- The report refused in its own status can only be refused by its deadline. -/
def deadlineRefusal (action : OrderAction) (status : OrderStatus) : Option Failure :=
  match action, status with
  | .reportNonDelivery, .pickedUp => some (.api 409 "DELIVERY_PERIOD_NOT_PASSED")
  | .reportNonReceipt, .delivered => some (.api 409 "AUTO_CONFIRMATION_PASSED")
  | _, _ => none

def answer (result : TransitionResult) (action : OrderAction) (caller : AuthContext) :
    Except Failure OrderRow :=
  match result with
  | .applied order => project order caller
  | .rejected _ none => .error notFound
  | .rejected reason (some order) =>
      if !visible order caller then .error notFound
      else
        match reason with
        | .forbidden => .error (.api 403 "ACTION_FORBIDDEN")
        | .versionConflict => .error (.api 409 "ORDER_CHANGED")
        | .invalidState | .notFound =>
            .error ((deadlineRefusal action order.status).getD (.api 409 "INVALID_ORDER_STATE"))

def userCommand (request : UserRequest) (caller : AuthContext) (correlationId : String) :
    TransitionCommand :=
  match request with
  | .resolve orderId outcome reason expectedVersion =>
      resolveCommand orderId outcome reason expectedVersion caller correlationId
  | request =>
      participantCommand request.orderId request.action request.expectedVersion caller correlationId

/-- One command: the caller's view of the order it changed, or its refusal. -/
def runCommand (periods : Periods) (request : UserRequest) (caller : AuthContext)
    (correlationId : String) (tx : Micros) : Tx (Except Failure OrderRow) :=
  match request with
  | .accept orderId expectedVersion => do
      match ← accept orderId caller.userId expectedVersion correlationId tx with
      | .accepted order => return project order caller
      | .declined order => return .error (declined order caller (← ask .serviceClock))
  | request => do
      let result ← transition periods (userCommand request caller correlationId) tx
      return answer result request.action caller

def commandLock (callerId : UserId) (key : String) : String :=
  "order-command:" ++ callerId ++ ":" ++ key

def requesterLock (requesterId : UserId) (key : String) : String := requesterId ++ ":" ++ key

/-- A send of a key already recorded answers with the order it was recorded for. -/
def replay (held : KeyRow) (requestHash : String) : Tx OrderRow :=
  if held.requestHash ≠ requestHash then .fail .keyReused
  else do
    match ← selectOrder held.orderId with
    | none => .fail .missingOrder
    | some row => return mapOrder row

def withCommandKey (settings : Settings) (caller : AuthContext) (key : String)
    (request : UserRequest) (run : Tx (Except Failure OrderRow)) : Tx Result := do
  advisoryLock (settings.hashtext (commandLock caller.userId key))
  let requestHash := hashRequest settings.sha256 request.json
  match ← commandKeyRow caller.userId key with
  | some held =>
      let order ← replay held requestHash
      match project order caller with
      | .ok order => return .replayed order
      | .error failure => return .refused failure
  | none =>
      match ← run with
      | .error failure => .fail failure
      | .ok order =>
          insertRow (.commandKey caller.userId key)
            { orderId := request.orderId.id, requestHash }
          return .answered order

def command (settings : Settings) (caller : AuthContext) (key : Option String)
    (request : UserRequest) (correlationId : String) (tx : Micros) : Tx Result :=
  let run := runCommand settings.periods request caller correlationId tx
  match key with
  | some key => withCommandKey settings caller key request run
  | none => do
      match ← run with
      | .ok order => return .answered order
      | .error failure => return .refused failure

/-! ## Creation -/

def findIdempotent (settings : Settings) (caller : AuthContext) (key : String)
    (request : CreateRequest) : Tx Result := do
  match ← requesterKeyRow caller.userId key with
  | none => return .absent
  | some held =>
      match ← selectOrder held.orderId with
      | none => return .absent
      | some row =>
          if held.requestHash ≠ hashRequest settings.sha256 request.json then .fail .keyReused
          else
            match project (mapOrder row) caller with
            | .ok order => return .replayed order
            | .error failure => return .refused failure

def pendingInput (caller : AuthContext) (request : CreateRequest)
    (supplierSnapshot : SupplierSnapshot) (correlationId : String) : CreatePendingInput :=
  { request := request.input, requesterId := caller.userId, supplierSnapshot, correlationId }

def create (settings : Settings) (caller : AuthContext) (key : String) (request : CreateRequest)
    (supplierSnapshot : SupplierSnapshot) (correlationId : String) : Tx Result := do
  advisoryLock (settings.hashtext (requesterLock caller.userId key))
  let requestHash := hashRequest settings.sha256 request.json
  match ← requesterKeyRow caller.userId key with
  | some held =>
      let order ← replay held requestHash
      match project order caller with
      | .ok order => return .replayed order
      | .error failure => return .refused failure
  | none =>
      let orderId ← ask .randomUUID
      let now ← ask .serviceClock
      match createPending (pendingInput caller request supplierSnapshot correlationId) orderId now with
      | .error failure => .fail failure
      | .ok change =>
          insertRow (.order orderId) change.next
          insertRow (.history orderId change.next.version) change.history
          insertRow (.requesterKey caller.userId key) { orderId, requestHash }
          insertOutboxEvents change.events
          return .created (mapOrder change.next)

/-! ## Consumers -/

/-- The event's id is recorded in the transaction of its effect. -/
def processOnce (consumer : Consumer) (eventId : Uuid) (effect : Tx Result) : Tx Result := do
  if ← insertNew (.processed consumer eventId) () then effect else return .duplicate

/-- The version the reservation produced, if one was ever applied. -/
def reservationAppliedAt (view : Store Row) (id : Uuid) : Option Int :=
  view.entries.findSome? fun
    | ⟨.history errand version, entry⟩ =>
        if errand = id ∧ entry.action = .action .creditReserved then some version else none
    | _ => none

/-- The requester is asked about only while the answer decides the outcome. -/
def askRequester (order : OrderRow) : Tx Bool :=
  if order.status = .pendingCredit then do
    let answer ← ask (.isSuspended order.requesterId)
    return answer.suspended
  else .done false

def Refusal.repeats (refusal : Refusal) (order : OrderRow) : Bool :=
  decide (order.status = .rejected) && decide (order.rejectionReason = some refusal.reason) &&
    decide (order.availableAtRejection = refusal.available)

def handleReservation (periods : Periods) (envelope : Envelope) (payload : Reservation)
    (reply : Reply) (tx : Micros) : Tx Result := do
  if envelope.aggregateId ≠ payload.orderId then .fail .unparseable
  else
    match ← lockById payload.orderId.id with
    | none => .fail .unparseable
    | some stored =>
        let order := mapOrder stored
        if order.requesterId ≠ payload.requesterId ∨ order.reward ≠ payload.amount then
          .fail .unparseable
        else
          match reply with
          | .reserved =>
              let suspended ← askRequester order
              match ← transition periods (reservedCommand envelope payload.orderId suspended) tx with
              | .applied _ => return .handled true
              | .rejected _ _ =>
                  if order.status = .rejected then .fail .unparseable
                  else if (reservationAppliedAt (← read) payload.orderId.id).any
                      fun version => decide (version < order.version) then .fail .staleEvent
                  else return .handled false
          | .rejected refusal =>
              match ← transition periods (rejectedCommand envelope payload.orderId refusal) tx with
              | .applied _ => return .handled true
              | .rejected _ _ =>
                  if refusal.repeats order then return .handled false else .fail .unparseable

def Released.repeats (payload : Released) (order : OrderRow) : Bool :=
  (decide (order.status = .cancelled) || decide (order.status = .expired)) &&
    decide (order.creditTransactionId = some payload.transactionId) && payload.matches order

def Transferred.repeats (payload : Transferred) (order : OrderRow) : Bool :=
  decide (order.status = .completed) &&
    decide (order.creditTransactionId = some payload.transactionId) && payload.matches order

/-- A confirmation that cannot be applied is harmless only as a repeat. -/
def confirmed (result : TransitionResult) (repeats : OrderRow → Bool) : Tx Result :=
  match result with
  | .applied _ => .done (.handled true)
  | .rejected _ order =>
      if order.any repeats then .done (.handled false) else .fail .unparseable

def handleRelease (periods : Periods) (envelope : Envelope) (payload : Released) (tx : Micros) :
    Tx Result := do
  if envelope.aggregateId ≠ payload.reservation.orderId then .fail .unparseable
  else confirmed (← transition periods (releaseCommand envelope payload) tx) payload.repeats

def handleTransfer (periods : Periods) (envelope : Envelope) (payload : Transferred)
    (tx : Micros) : Tx Result := do
  if envelope.aggregateId ≠ payload.reservation.orderId then .fail .unparseable
  else confirmed (← transition periods (transferCommand envelope payload) tx) payload.repeats

/-- The user's part in an errand a suspension can change. -/
def partOf (userId : UserId) (row : StoredOrder) : Part :=
  if row.requesterId = userId then .requester else .courier

/-- The rows `lockActiveErrandsOf` locks: a pending reservation of the
requester's too, though no rule moves it. -/
def activeErrand (userId : UserId) (row : StoredOrder) : Bool :=
  (decide (row.requesterId = userId) && (decide (row.status = .pendingCredit) ||
    (suspensionAction .requester row.status).isSome)) ||
  (decide (row.courierId = some userId) && (suspensionAction .courier row.status).isSome)

def lockActiveErrandsOf (userId : UserId) : Tx (List StoredOrder) :=
  .scan
    { wanted := fun _ key =>
        match key with
        | .order _ => activeErrand userId
        | _ => fun _ => false
      write := fun _ row => some row
      skipLocked := false
      limit := none }
    fun _ hits => .done (hits.filterMap fun
      | ⟨.order _, row⟩ => some row
      | _ => none)

def noteRequesterSuspended (id : Uuid) (tx : Micros) : Tx Unit := do
  let _ ← updateOrder id (fun _ => true) fun row => { row with requesterSuspendedAt := some tx }
  return ()

/-- An errand waiting for its reservation is locked only; the reply decides it. -/
def suspendErrands (periods : Periods) (envelope : Envelope) (userId : UserId) (tx : Micros) :
    List StoredOrder → Tx Unit
  | [] => .done ()
  | row :: rest => do
      match suspensionAction (partOf userId row) row.status with
      | none => suspendErrands periods envelope userId tx rest
      | some action =>
          let command := suspensionCommand envelope row.orderId (partOf userId row) action
          match ← transition periods command tx with
          | .applied _ => suspendErrands periods envelope userId tx rest
          | .rejected _ _ =>
              -- Within its delivery period: the scheduler asks again once that ends.
              if partOf userId row = .requester ∧ row.status = .pickedUp then
                noteRequesterSuspended row.orderId tx
                suspendErrands periods envelope userId tx rest
              else suspendErrands periods envelope userId tx rest

def handleSuspension (periods : Periods) (envelope : Envelope) (userId : UserId) (tx : Micros) :
    Tx Result := do
  let answer ← ask (.isSuspended userId)
  if answer.suspended then
    suspendErrands periods envelope userId tx (← lockActiveErrandsOf userId)
    return .suspensionHandled true answer.lifted
  else return .suspensionHandled false answer.lifted

/-! ## The scheduler -/

def timerCommand (settings : Settings) (timer : Timer) (orderId : Uuid) (now : Millis)
    (correlationId : String) : TransitionCommand :=
  match timer with
  | .expire => expireCommand orderId now correlationId
  | .pickupTimeout => pickupTimeoutCommand orderId now (now - settings.pickupTimeout) correlationId
  | .autoConfirm => autoConfirmCommand orderId now correlationId
  | .undelivered => undeliveredCommand orderId now correlationId

def fireCommand (periods : Periods) (command : TransitionCommand) (tx : Micros) : Tx Result := do
  match ← transition periods command tx with
  | .applied _ => return .handled true
  | .rejected _ _ => return .handled false

def orderRows (view : Store Row) : List StoredOrder :=
  view.entries.filterMap fun
    | ⟨.order _, row⟩ => some row
    | _ => none

/-- A marked errand whose delivery period has ended. -/
def deliveryOverdue (now : Millis) (row : StoredOrder) : Bool :=
  decide (row.status = .pickedUp) && row.requesterSuspendedAt.isSome &&
    row.nonDeliveryReportAt.any fun ends => decide (ends ≤ toMicros now)

def soonestEnded (first second : StoredOrder) : Bool :=
  let ends (row : StoredOrder) := row.nonDeliveryReportAt.getD 0
  decide (ends first < ends second) ||
    (decide (ends first = ends second) && decide (first.orderId ≤ second.orderId))

def findDeliveryOverdue (settings : Settings) (now : Millis) : Tx Result :=
  .select fun view => .done (.overdue
    ((((orderRows view).filter (deliveryOverdue now)).mergeSort soonestEnded).take
      settings.batchSize |>.map fun row => (row.orderId, row.requesterId)))

/-- The sweep's question about an errand it found, outside any transaction. -/
def inquire (requesterId : UserId) : Tx Result := do
  let answer ← ask (.isSuspended requesterId)
  return .told answer.suspended

def clearRequesterSuspended (id : Uuid) : Tx Result := do
  let cleared ← updateOrder id (fun row => decide (row.status = .pickedUp))
    fun row => { row with requesterSuspendedAt := none }
  return .handled cleared.isSome

/-- Who took part: the requester, the courier, and whoever ever accepted. -/
def participants (view : Store Row) (id : Uuid) : List UserId :=
  ((view.lookup (.order id)).toList.flatMap fun row => row.requesterId :: row.courierId.toList) ++
    view.entries.filterMap fun
      | ⟨.history errand _, entry⟩ =>
          if errand = id ∧ entry.action = .action .accept then entry.actorId else none
      | _ => none

def needsReferral (admins : List Account) (row : StoredOrder) : Bool :=
  decide (row.status = .disputed) &&
    row.referredAdminId.all fun held => !(admins.map Account.id).contains held

def longestUnchanged (first second : StoredOrder) : Bool :=
  decide (first.updatedAt < second.updatedAt) ||
    (decide (first.updatedAt = second.updatedAt) && decide (first.orderId ≤ second.orderId))

def listDisputesToRefer (settings : Settings) (admins : List Account) : Tx Result :=
  .select fun view => .done (.disputes
    ((((orderRows view).filter (needsReferral admins)).mergeSort longestUnchanged).take
      settings.batchSize |>.map fun row => (row.orderId, row.referredAdminId)))

/-- Undecided disputes first, then referrals ever kept, then the lowest id. -/
def referralsBefore (view : Store Row) (first second : Account) : Bool :=
  let kept (admin : Account) := (orderRows view).filter fun row =>
    decide (row.referredAdminId = some admin.id)
  let undecided (admin : Account) := (kept admin).filter fun row => decide (row.status = .disputed)
  let load (admin : Account) := ((undecided admin).length, (kept admin).length)
  decide ((load first).1 < (load second).1) ||
    (decide ((load first).1 = (load second).1) && (decide ((load first).2 < (load second).2) ||
      (decide ((load first).2 = (load second).2) && decide (¬ second.id < first.id))))

def leastReferred (view : Store Row) (eligible : List Account) : Option Account :=
  (eligible.mergeSort (referralsBefore view)).head?

def considerDispute (orderId : Uuid) (admins : List Account) : Tx Result := do
  let took := participants (← read) orderId
  let eligible := admins.filter fun admin => !took.contains admin.id
  if eligible = [] then
    let _ ← insertNew (.alert orderId .referralUnassigned) ()
    return .chosen none
  else return .chosen (leastReferred (← read) eligible)

/-- `resolve` reads who took part before the command. -/
def reviewDispute (caller : AuthContext) (orderId : WrittenId) : Tx Result := do
  match ← selectOrder orderId.id with
  | none => return .refused notFound
  | some row =>
      if !visible (mapOrder row) caller then return .refused notFound
      else if (participants (← read) orderId.id).contains caller.userId then
        return .refused (.api 403 "CONFLICT_OF_INTEREST")
      else return .unbiased

/-! ## Reconciliation -/

/-- The request an order waiting on Credit waits for, once more. -/
def creditRequest (order : OrderRow) : Except Failure Payload :=
  match order.status with
  | .pendingCredit =>
      .ok (.reservationRequested (written order.orderId) order.requesterId order.reward)
  | .completionPendingCredit => emittedEvent order order order.updatedAt .completionRequested
  | .releasePendingCredit => emittedEvent order order order.updatedAt .releaseRequested
  | _ => .error .uncataloguedEvent

def attemptedSince (view : Store Row) (id : Uuid) (since : Micros) : Bool :=
  view.entries.any fun
    | ⟨.attempt _, attempt⟩ => decide (attempt.orderId = id) && decide (since < attempt.attemptedAt)
    | _ => false

def reissued (input : Reconciliation) (order : OrderRow) : Tx (Option Uuid) :=
  match input.action with
  | .reissue =>
      match creditRequest order with
      | .error failure => .fail failure
      | .ok payload =>
          let event : OutboxEvent :=
            { aggregateId := written order.orderId
              payload
              correlationId := input.correlationId
              causationId := none }
          match outboxRow event with
          | .error failure => .fail failure
          | .ok event => do
              let id ← insertOutboxEvent event
              return some id
  | .alert => do
      let _ ← insertNew (.alert order.orderId .creditStateConflict) ()
      return none
  | .creditUnavailable => .done none

def recordReconciliation (settings : Settings) (input : Reconciliation) (tx : Micros) :
    Tx Result := do
  match ← lockRow (Key.order input.orderId) true (fun _ => true) some with
  | none => return .reconciled false
  | some stored =>
      let order := mapOrder stored
      if order.status ≠ input.status ∨ order.version ≠ input.version then
        return .reconciled false
      else if attemptedSince (← read) input.orderId (tx - settings.retryAfter * 1000) then
        return .reconciled false
      else
        let reissuedEventId ← reissued input order
        let attemptId ← ask .randomUUID
        insertRow (.attempt attemptId)
          { runId := input.runId
            orderId := order.orderId
            orderStatus := order.status
            orderVersion := order.version
            creditStatus := input.creditStatus
            creditDetail := input.creditDetail
            action := input.action
            reissuedEventId
            attemptedAt := tx }
        return .reconciled true

/-! ## The service -/

/-- The program of a call. -/
def main (settings : Settings) (call : Call) : Tx Result :=
  let tx := call.began
  match call.task with
  | .findIdempotent caller key request => findIdempotent settings caller key request
  | .create caller key request supplierSnapshot correlationId =>
      create settings caller key request supplierSnapshot correlationId
  | .command caller key request correlationId =>
      command settings caller key request correlationId tx
  | .review caller orderId => reviewDispute caller orderId
  | .reservation envelope payload reply =>
      processOnce .reservationResults envelope.eventId
        (handleReservation settings.periods envelope payload reply tx)
  | .released envelope payload =>
      processOnce .releaseResults envelope.eventId
        (handleRelease settings.periods envelope payload tx)
  | .transferred envelope payload =>
      processOnce .transferResults envelope.eventId
        (handleTransfer settings.periods envelope payload tx)
  | .suspended envelope userId =>
      processOnce .userSuspensions envelope.eventId
        (handleSuspension settings.periods envelope userId tx)
  | .databaseNow => .done (.time (toMillis tx))
  | .timer timer orderId now correlationId =>
      fireCommand settings.periods (timerCommand settings timer orderId now correlationId) tx
  | .deliveryOverdue now => findDeliveryOverdue settings now
  | .inquire _ requesterId _ => inquire requesterId
  | .clearSuspended orderId => clearRequesterSuspended orderId
  | .disputesToRefer admins => listDisputesToRefer settings admins
  | .consider orderId admins => considerDispute orderId admins
  | .unassign orderId now heldBy correlationId =>
      fireCommand settings.periods (unassignCommand orderId now heldBy.id correlationId) tx
  | .assign orderId now admin correlationId =>
      fireCommand settings.periods (assignCommand orderId now admin correlationId) tx
  | .reconcile input => recordReconciliation settings input tx

/-- The world outside the database: its clock, whom the User Service holds
suspended and whom it ever reactivated, its answers, and how calls ended. -/
structure Env where
  clock : Micros
  suspended : List UserId
  reactivated : List UserId
  answers : List (Call × UserId × Bool)
  log : List (Call × Except Failure Result)

/-- How often a suspension of the user has been lifted. -/
def Env.lifted (env : Env) (userId : UserId) : Nat := env.reactivated.count userId

def Env.clockRead (env : Env) (now : Millis) : Bool :=
  env.log.any fun
    | (_, .ok (.time read)) => decide (read = now)
    | _ => false

def Env.overdue (env : Env) (orderId : Uuid) (requesterId : UserId) (now : Millis) : Bool :=
  env.log.any fun
    | ({ task := .deliveryOverdue swept, .. }, .ok (.overdue found)) =>
        decide (swept = now) && decide ((orderId, requesterId) ∈ found)
    | _ => false

def Env.inquired (env : Env) (orderId : Uuid) (suspended : Bool) : Bool :=
  env.log.any fun
    | ({ task := .inquire asked _ _, .. }, .ok (.told answer)) =>
        decide (asked = orderId) && decide (answer = suspended)
    | _ => false

def Env.listed (env : Env) (orderId : Uuid) (holds : Option UserId → Bool) : Bool :=
  env.log.any fun
    | (_, .ok (.disputes found)) => found.any fun dispute =>
        decide (dispute.1 = orderId) && holds dispute.2
    | _ => false

def Env.chose (env : Env) (orderId : Uuid) (admin : Account) : Bool :=
  env.log.any fun
    | ({ task := .consider considered _, .. }, .ok (.chosen (some picked))) =>
        decide (considered = orderId) && decide (picked.id = admin.id)
    | _ => false

def Env.reviewed (env : Env) (caller : AuthContext) (orderId : WrittenId) : Bool :=
  env.log.any fun
    | ({ task := .review reviewer reviewed, .. }, .ok .unbiased) =>
        decide (reviewer.userId = caller.userId) && decide (reviewed = orderId)
    | _ => false

/-- What the process behind a call must have read before. Its timers but the last
may be tried on any order: their lists only say which are worth trying. -/
def prepared (env : Env) : Task → Bool
  | .command caller _ (.resolve orderId _ _ _) _ => env.reviewed caller orderId
  | .timer .undelivered orderId now _ => env.clockRead now && env.inquired orderId true
  | .timer _ _ now _ => env.clockRead now
  | .deliveryOverdue now => env.clockRead now
  | .inquire orderId requesterId now => env.overdue orderId requesterId now
  | .clearSuspended orderId => env.inquired orderId false
  | .consider orderId _ => env.listed orderId fun _ => true
  | .unassign orderId now heldBy _ =>
      env.clockRead now && env.listed orderId fun held => decide (held = some heldBy.id)
  | .assign orderId now admin _ => env.clockRead now && env.chose orderId admin
  | _ => true

inductive Stimulus where
  | tick (clock : Micros)
  | suspend (userId : UserId)
  | reactivate (userId : UserId)

def respond (env : Env) (call : Call) : (question : Ask) → Answer question → Option Env
  | .randomUUID, _ => some env
  | .serviceClock, _ => some env
  | .isSuspended userId, answer =>
      if answer = { suspended := env.suspended.contains userId, lifted := env.lifted userId } then
        some { env with answers := (call, userId, answer.suspended) :: env.answers }
      else none

def orderService (settings : Settings) :
    Service Row Answer Failure Call Result Env Stimulus :=
  { main := main settings
    starts := fun env call => decide (call.began = env.clock) && prepared env call.task
    respond
    finished := fun env call result => { env with log := (call, .ok result) :: env.log }
    refused := fun env call failure => { env with log := (call, .error failure) :: env.log }
    stimulus := fun env stimulus =>
      match stimulus with
      | .tick clock => if env.clock ≤ clock then some { env with clock } else none
      | .suspend userId => some { env with suspended := userId :: env.suspended }
      | .reactivate userId => some
          { env with
            suspended := env.suspended.filter (· ≠ userId)
            reactivated := userId :: env.reactivated } }

/-- Before anything has happened. -/
def Env.initial (clock : Micros) (suspended : List UserId) : Env :=
  { clock, suspended, reactivated := [], answers := [], log := [] }

end Foc.Order
