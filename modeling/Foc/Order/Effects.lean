import Foc.Order.Service
import Foc.Order.Step

/-!
What a call can commit: a few kinds of act on the rows it holds, and what its
result says of the rows around them. Turns made of these never take back an
errand, its history or a key.
-/
namespace Foc.Order
open Library Library.ReadCommitted Library.Transaction Library.Serial

/-! ## Acts -/

/-- A key somebody uses: for creations, or for commands. -/
inductive Slot where
  | requester (requesterId : UserId) (key : String)
  | command (callerId : UserId) (key : String)
  deriving DecidableEq

def slotRow (view : View Row) : Slot → Option KeyRow
  | .requester requesterId key => view (.requesterKey requesterId key)
  | .command callerId key => view (.commandKey callerId key)

/-- One effect on the rows a transaction holds. `sent` are the ids of its events. -/
inductive Act where
  | keep (key : Key) (row : Row key)
  | lock (lock : Int)
  | change (cause : Cause) (before : StoredOrder) (change : Applied)
      (sent : List (Uuid × OutboxEvent)) (entered : Option (UserId × String × KeyRow))
  | create (input : CreatePendingInput) (key requestHash : String) (orderId : Uuid) (now : Millis)
      (sent : List (Uuid × OutboxEvent))
  | note (id : Uuid) (before : StoredOrder) (mark : Option Micros)
  | record (key : Key) (row : Row key)

def sentMoves (sent : List (Uuid × OutboxEvent)) : List (Move Row) :=
  sent.map fun event => ⟨.outbox event.1, none, some event.2⟩

def receiptMoves (id : Uuid) : Option OrderReceipt → List (Move Row)
  | none => []
  | some receipt =>
      [ ⟨.receipt id, none, some receipt⟩,
        ⟨.receiptTransaction receipt.creditTransactionId, none, some ()⟩ ]

def enteredMoves : Option (UserId × String × KeyRow) → List (Move Row)
  | none => []
  | some (callerId, key, row) => [⟨.commandKey callerId key, none, some row⟩]

def changeMoves (id : Uuid) (change : Applied) (sent : List (Uuid × OutboxEvent)) :
    List (Move Row) :=
  ⟨.history id change.next.version, none, some change.history⟩ ::
    (receiptMoves id change.receipt ++ sentMoves sent)

def Act.moves : Act → List (Move Row)
  | .keep key row => [⟨key, some row, some row⟩]
  | .lock number => [⟨.advisory number, none, some ()⟩, ⟨.advisory number, some (), none⟩]
  | .change cause before applied sent entered =>
      ⟨.order cause.orderId.id, some before, some applied.next⟩ ::
        (changeMoves cause.orderId.id applied sent ++ enteredMoves entered)
  | .create input key requestHash orderId now sent =>
      ⟨.order orderId, none, some (pendingRow input orderId now)⟩ ::
        ⟨.history orderId 1, none, some (creationHistory input now)⟩ ::
        ⟨.requesterKey input.requesterId key, none, some { orderId, requestHash }⟩ ::
        sentMoves sent
  | .note id before mark =>
      [⟨.order id, some before, some { before with requesterSuspendedAt := mark }⟩]
  | .record key row => [⟨key, none, some row⟩]

def flat (acts : List Act) : List (Move Row) := acts.flatMap Act.moves

@[simp] theorem flat_nil : flat [] = [] := rfl

@[simp] theorem flat_append (first second : List Act) :
    flat (first ++ second) = flat first ++ flat second := List.flatMap_append

@[simp] theorem flat_cons (act : Act) (rest : List Act) : flat (act :: rest) = act.moves ++ flat rest :=
  rfl

/-- Rows that tell nothing of an errand's state. -/
def recordable : (key : Key) → Row key → Prop
  | .processed _ _, _ | .alert _ _, _ | .attempt _, _ => True
  | .outbox _, event => event.payload.eventType ≠ .statusChanged
  | _, _ => False

/-- The rows that only a reconciliation records. -/
def Key.reconciling : Key → Bool
  | .attempt _ | .outbox _ => true
  | _ => false

/-- Acts that leave errands, their history, receipts, keys and events alone. -/
def Act.quiet : Act → Prop
  | .keep _ _ | .lock _ => True
  | .record (.outbox _) _ => False
  | .record _ _ => True
  | _ => False

/-! ## What a call may do -/

/-- The changes a call can make to an errand. -/
inductive Issues (settings : Settings) : Task → Cause → Prop where
  | accept (caller : AuthContext) (key : Option String) (orderId : WrittenId)
      (expectedVersion : Int) (correlationId : String) :
      Issues settings (.command caller key (.accept orderId expectedVersion) correlationId)
        (.acceptance orderId caller expectedVersion correlationId)
  | act (caller : AuthContext) (key : Option String) (orderId : WrittenId)
      (action : ParticipantAction) (expectedVersion : Int) (correlationId : String) :
      Issues settings (.command caller key (.act orderId action expectedVersion) correlationId)
        (.transition (participantCommand orderId action.val expectedVersion caller correlationId))
  | resolve (caller : AuthContext) (key : Option String) (orderId : WrittenId) (outcome : Outcome)
      (reason : String) (expectedVersion : Int) (correlationId : String) :
      Issues settings
        (.command caller key (.resolve orderId outcome reason expectedVersion) correlationId)
        (.transition (resolveCommand orderId outcome reason expectedVersion caller correlationId))
  | reserved (envelope : Envelope) (payload : Reservation) (suspended : Bool) :
      Issues settings (.reservation envelope payload .reserved)
        (.transition (reservedCommand envelope payload.orderId suspended))
  | rejected (envelope : Envelope) (payload : Reservation) (refusal : Refusal) :
      Issues settings (.reservation envelope payload (.rejected refusal))
        (.transition (rejectedCommand envelope payload.orderId refusal))
  | released (envelope : Envelope) (payload : Released) :
      Issues settings (.released envelope payload) (.transition (releaseCommand envelope payload))
  | transferred (envelope : Envelope) (payload : Transferred) :
      Issues settings (.transferred envelope payload)
        (.transition (transferCommand envelope payload))
  | suspended (envelope : Envelope) (userId : UserId) (orderId : Uuid) (part : Part)
      (status : OrderStatus) (action : OrderAction)
      (tried : suspensionAction part status = some action) :
      Issues settings (.suspended envelope userId)
        (.transition (suspensionCommand envelope orderId part action))
  | timer (timer : Timer) (orderId : Uuid) (now : Millis) (correlationId : String) :
      Issues settings (.timer timer orderId now correlationId)
        (.transition (timerCommand settings timer orderId now correlationId))
  | unassign (orderId : Uuid) (now : Millis) (heldBy : Account) (correlationId : String) :
      Issues settings (.unassign orderId now heldBy correlationId)
        (.transition (unassignCommand orderId now heldBy.id correlationId))
  | assign (orderId : Uuid) (now : Millis) (admin : Account) (correlationId : String) :
      Issues settings (.assign orderId now admin correlationId)
        (.transition (assignCommand orderId now admin correlationId))

/-- The key a keyed command leaves behind. -/
def entry (settings : Settings) (caller : AuthContext) (key : String) (request : UserRequest) :
    UserId × String × KeyRow :=
  (caller.userId, key,
    { orderId := request.orderId.id
      requestHash := hashRequest settings.sha256 request.json })

/-- The marks of a suspended requester's errand: a suspension sets them, and a sweep
that was told its requester is active takes one away. -/
def Marks (call : Call) (id : Uuid) (before : StoredOrder) (mark : Option Micros) : Prop :=
  before.status = .pickedUp ∧
    ((∃ envelope, call.task = .suspended envelope before.requesterId ∧ mark = some call.began) ∨
      call.task = .clearSuspended id ∧ mark = none)

/-- The acts a call can commit. -/
inductive Does (settings : Settings) (call : Call) : Act → Prop where
  | keep (key : Key) (row : Row key) : Does settings call (.keep key row)
  | lock (lock : Int) : Does settings call (.lock lock)
  | change (cause : Cause) (before : StoredOrder) (change : Applied)
      (sent : List (Uuid × OutboxEvent)) (named : before.orderId = cause.orderId.id)
      (issued : Issues settings call.task cause)
      (applies : cause.applies settings.periods call.began before change)
      (events : sent.map Prod.snd = change.events) :
      Does settings call (.change cause before change sent none)
  | keyed (cause : Cause) (before : StoredOrder) (change : Applied)
      (sent : List (Uuid × OutboxEvent)) (named : before.orderId = cause.orderId.id)
      (issued : Issues settings call.task cause)
      (applies : cause.applies settings.periods call.began before change)
      (events : sent.map Prod.snd = change.events) (caller : AuthContext) (key : String)
      (request : UserRequest) (correlationId : String)
      (task : call.task = .command caller (some key) request correlationId) :
      Does settings call (.change cause before change sent (some (entry settings caller key request)))
  | create (caller : AuthContext) (key : String) (request : CreateRequest)
      (supplierSnapshot : SupplierSnapshot) (correlationId : String) (orderId : Uuid)
      (now : Millis) (change : Applied) (sent : List (Uuid × OutboxEvent))
      (task : call.task = .create caller key request supplierSnapshot correlationId)
      (applied : createPending (pendingInput caller request supplierSnapshot correlationId) orderId
        now = .ok change)
      (events : sent.map Prod.snd = change.events) :
      Does settings call (.create (pendingInput caller request supplierSnapshot correlationId) key
        (hashRequest settings.sha256 request.json) orderId now sent)
  | note (id : Uuid) (before : StoredOrder) (mark : Option Micros)
      (marks : Marks call id before mark) : Does settings call (.note id before mark)
  | record (key : Key) (row : Row key) (plain : recordable key row)
      (attempts : key.reconciling = true → ∃ input, call.task = .reconcile input) :
      Does settings call (.record key row)

/-! ## What a result says -/

/-- Who is or was the errand's requester or courier. -/
def TookPart (view : View Row) (id : Uuid) (userId : UserId) : Prop :=
  (∃ row, view (.order id) = some row ∧ (row.requesterId = userId ∨ row.courierId = some userId)) ∨
    ∃ version entry, view (.history id version) = some entry ∧ entry.action = .action .accept ∧
      entry.actorId = some userId

/-- A reservation reply for the errand was told its requester is not suspended. -/
def Cleared (env : Env) (id : Uuid) (userId : UserId) : Prop :=
  ∃ call envelope payload reply, (call, userId, false) ∈ env.answers ∧
    call.task = .reservation envelope payload reply ∧ payload.orderId.id = id

/-- A suspension of the user has been carried out, and not been lifted since. -/
def SuspensionDone (env : Env) (userId : UserId) : Prop :=
  ∃ call envelope, (call, .ok (.suspensionHandled true (env.lifted userId))) ∈ env.log ∧
    call.task = .suspended envelope userId

/-- Results of a call that may have changed an errand, a key or the outbox. -/
def Result.effective : Result → Bool
  | .created _ | .answered _ | .handled true | .suspensionHandled true _ | .reconciled true => true
  | _ => false

/-- The key a call is for, and the hash of its request. -/
def slotOf (settings : Settings) : Task → Option (Slot × String)
  | .findIdempotent caller key request =>
      some (.requester caller.userId key, hashRequest settings.sha256 request.json)
  | .create caller key request _ _ =>
      some (.requester caller.userId key, hashRequest settings.sha256 request.json)
  | .command caller (some key) request _ =>
      some (.command caller.userId key, hashRequest settings.sha256 request.json)
  | _ => none

/-- The advisory lock that serializes the uses of a key. -/
def lockOf (settings : Settings) : Slot → Int
  | .requester requesterId key => settings.hashtext (requesterLock requesterId key)
  | .command callerId key => settings.hashtext (commandLock callerId key)

/-- The key row an act leaves. -/
def Act.enters (slot : Slot) (row : KeyRow) : Act → Prop
  | .change _ _ _ _ (some (callerId, key, entered)) => slot = .command callerId key ∧ row = entered
  | .create input key requestHash orderId _ _ =>
      slot = .requester input.requesterId key ∧ row = { orderId, requestHash }
  | _ => False

/-- A keyed call applies once and replays ever after. -/
def KeyedResult (slot : Slot) (requestHash : String) (view : View Row) (acts : List Act) :
    Result → Prop
  | .created order | .answered order =>
      slotRow view slot = none ∧
        ∃ act ∈ acts, act.enters slot { orderId := order.orderId, requestHash }
  | .replayed order => ∃ held, slotRow view slot = some held ∧ held.requestHash = requestHash ∧
      order.orderId = held.orderId
  | .absent => True
  | _ => False

/-- The statuses in which a suspension locks its requester's errand. -/
def suspendable : OrderStatus → Bool
  | .pendingCredit | .opened | .accepted | .pickedUp => true
  | _ => false

/-- What a carried out suspension did to an errand of its user's. One picked up was
disputed, or marked because its delivery period was not over. -/
def Closes (call : Call) (envelope : Envelope) (id : Uuid) (row : StoredOrder)
    (acts : List Act) : Prop :=
  (row.status = .opened ∨ row.status = .accepted → ∃ change sent,
    .change (.transition (suspensionCommand envelope id .requester .requesterSuspended)) row
      change sent none ∈ acts) ∧
  (row.status = .pickedUp →
    (∃ change sent, .change (.transition (suspensionCommand envelope id .requester
        .deliveryPeriodPassed)) row change sent none ∈ acts) ∨
      passed (mapOrder row).nonDeliveryReportAt (toMillis call.began) = false ∧
        .note id row (some call.began) ∈ acts)

/-- A suspension that was carried out has locked every errand of the user's that
was cleared before, closed those that were open or accepted, and disputed or
marked those picked up. -/
def Covers (call : Call) (envelope : Envelope) (userId : UserId) (view : View Row) (env : Env)
    (acts : List Act) : Prop :=
  ∀ id, Cleared env id userId → ∀ row, view (.order id) = some row →
    suspendable row.status = true → Act.keep (.order id) row ∈ acts ∧ Closes call envelope id row acts

/-- What a result tells of the rows and of the answers it was read from. -/
def Reports (call : Call) (view : View Row) (env : Env) : Result → Prop
  | .disputes found => ∀ dispute ∈ found,
      ∃ row, view (.order dispute.1) = some row ∧ partiesFixed row.status = true
  | .time now => now = toMillis call.began
  | .overdue found => ∀ now, call.task = .deliveryOverdue now → ∀ errand ∈ found,
      ∃ row ends, view (.order errand.1) = some row ∧ row.requesterId = errand.2 ∧
        partiesFixed row.status = true ∧ row.nonDeliveryReportAt = some ends ∧ ends ≤ toMicros now
  | .told suspended => ∀ orderId requesterId now, call.task = .inquire orderId requesterId now →
      (call, requesterId, suspended) ∈ env.answers
  | _ => True

/-- What an attempt writes beside itself: a request again, an alert, or nothing. -/
def Reissues (input : Reconciliation) (order : OrderRow) (issued : Option Uuid) (more : List Act) :
    Prop :=
  match input.action with
  | .reissue => ∃ eventId payload, issued = some eventId ∧ creditRequest order = .ok payload ∧
      more = [.record (.outbox eventId)
        { aggregateId := written order.orderId
          payload
          correlationId := input.correlationId
          causationId := none }]
  | .alert => more = [] ∨ more = [.record (.alert order.orderId .creditStateConflict) ()]
  | .creditUnavailable => more = []

/-- An attempt to repair an order: its row is locked as it was observed, and no
attempt was recorded shortly before. -/
structure Attempted (settings : Settings) (call : Call) (input : Reconciliation) (view : View Row)
    (acts : List Act) (attemptId : Uuid) (attempt : Attempt) : Prop where
  task : call.task = .reconcile input
  order : attempt.orderId = input.orderId
  attemptedAt : attempt.attemptedAt = call.began
  action : attempt.action = input.action
  spaced : ∀ other earlier, view (.attempt other) = some earlier →
    earlier.orderId = input.orderId → earlier.attemptedAt ≤ call.began - settings.retryAfter * 1000
  observed : ∃ row more, view (.order input.orderId) = some row ∧ row.status = input.status ∧
    row.version = input.version ∧ Reissues input (mapOrder row) attempt.reissuedEventId more ∧
    acts = .keep (.order input.orderId) row :: (more ++ [.record (.attempt attemptId) attempt])

/-- How a call may end with a result, seen on the rows it commits to. -/
structure Concluded (settings : Settings) (call : Call) (result : Result) (view : View Row)
    (env : Env) (acts : List Act) : Prop where
  prepared : prepared env call.task = true
  does : ∀ act ∈ acts, Does settings call act
  quiet : result.effective = false → ∀ act ∈ acts, act.quiet
  keyed : ∀ slot requestHash, slotOf settings call.task = some (slot, requestHash) →
    KeyedResult slot requestHash view acts result
  locked : ∀ act ∈ acts, ∀ slot row, act.enters slot row → .lock (lockOf settings slot) ∈ acts
  reports : Reports call view env result
  chosen : ∀ id admins admin, call.task = .consider id admins → result = .chosen (some admin) →
    ¬ TookPart view id admin.id
  cleared : ∀ envelope (orderId : WrittenId) before change sent entered,
    .change (.transition (reservedCommand envelope orderId false)) before change sent entered ∈
      acts →
    Cleared env orderId.id before.requesterId ∧ ¬ SuspensionDone env before.requesterId
  suspended : ∀ envelope userId lifted, call.task = .suspended envelope userId →
    result = .suspensionHandled true lifted → lifted ≤ env.lifted userId ∧
      (lifted = env.lifted userId →
        userId ∈ env.suspended ∧ Covers call envelope userId view env acts)
  referred : ∀ envelope userId, call.task = .suspended envelope userId →
    ∀ cause before change sent entered, .change cause before change sent entered ∈ acts →
      cause.action = .deliveryPeriodPassed →
      before.requesterId = userId ∧ (call, userId, true) ∈ env.answers
  recorded : ∀ attemptId attempt, .record (.attempt attemptId) attempt ∈ acts →
    ∃ input, Attempted settings call input view acts attemptId attempt
  reissued : ∀ id event, .record (.outbox id) event ∈ acts →
    ∃ attemptId attempt, .record (.attempt attemptId) attempt ∈ acts

/-- How a call may end. It does not throw for a key recorded for its own request. -/
def ended (settings : Settings) (call : Call) (result : Except Failure Result) (view : View Row)
    (env : Env) (moves : List (Move Row)) : Prop :=
  match result with
  | .ok result => ∃ acts, moves = flat acts ∧ Concluded settings call result view env acts
  | .error _ => ∀ slot requestHash held, slotOf settings call.task = some (slot, requestHash) →
      slotRow view slot = some held → held.requestHash ≠ requestHash

/-- A reply asks about a suspension only of the requester of an errand there is, and
a call asks only after what was to be read before it. -/
def asksOf (call : Call) : Ask → View Row → Env → Prop
  | .isSuspended userId, view, env => prepared env call.task = true ∧
      ∀ envelope payload reply, call.task = .reservation envelope payload reply →
        ∃ row, view (.order payload.orderId.id) = some row ∧ row.requesterId = userId
  | _, _, _ => True

/-- An empty database, and nothing done yet. -/
def fresh (view : View Row) (env : Env) : Prop :=
  (∀ key, view key = none) ∧ env.log = [] ∧ env.answers = [] ∧ env.reactivated = []

def orderContract (settings : Settings) : Contract Row Ask Failure Call Result Env :=
  { initial := fresh
    asks := asksOf
    outcome := ended settings }

abbrev OrderTurn (settings : Settings) (kept : Key → Prop) : View Row × Env → View Row × Env → Prop :=
  Serial.Turn (orderService settings) (orderContract settings) kept

abbrev OrderTurns (settings : Settings) (kept : Key → Prop) :
    View Row × Env → View Row × Env → Prop :=
  Serial.Turns (orderService settings) (orderContract settings) kept

/-! ## The rows an act leaves -/

def Act.order (id : Uuid) : Act → Option StoredOrder
  | .change cause _ applied _ _ => if cause.orderId.id = id then some applied.next else none
  | .create input _ _ orderId now _ =>
      if orderId = id then some (pendingRow input orderId now) else none
  | .note errand before mark =>
      if errand = id then some { before with requesterSuspendedAt := mark } else none
  | _ => none

def Act.history (id : Uuid) (version : Int) : Act → Option HistoryEntry
  | .change cause _ applied _ _ =>
      if cause.orderId.id = id ∧ applied.next.version = version then some applied.history else none
  | .create input _ _ orderId now _ =>
      if orderId = id ∧ 1 = version then some (creationHistory input now) else none
  | _ => none

def Act.sends : Act → List (Uuid × OutboxEvent)
  | .change _ _ _ sent _ | .create _ _ _ _ _ sent => sent
  | .record (.outbox id) event => [(id, event)]
  | _ => []

section Acts

variable {settings : Settings} {call : Call} {view : View Row} {act : Act}

theorem sent_other {sent : List (Uuid × OutboxEvent)} {key : Key}
    (other : ∀ id, key ≠ .outbox id) : ¬ touched (sentMoves sent) key := by
  simp only [touched, sentMoves, List.map_map, List.mem_map, Function.comp_apply, not_exists,
    not_and]
  intro event _ same
  exact other event.1 same.symm

theorem receipt_other {id : Uuid} {receipt : Option OrderReceipt} {key : Key}
    (other : ∀ id, key ≠ .receipt id ∧ key ≠ .receiptTransaction id) :
    ¬ touched (receiptMoves id receipt) key := by
  cases receipt <;> simp [receiptMoves, other]

theorem entered_other {entered : Option (UserId × String × KeyRow)} {key : Key}
    (other : ∀ callerId name, key ≠ .commandKey callerId name) :
    ¬ touched (enteredMoves entered) key := by
  cases entered <;> simp [enteredMoves, other]

/-- After its order, a change touches its history, its receipt, its events and a key. -/
theorem change_other {id : Uuid} {applied : Applied} {sent : List (Uuid × OutboxEvent)}
    {entered : Option (UserId × String × KeyRow)} {key : Key}
    (history : key ≠ .history id applied.next.version)
    (receipt : ∀ id, key ≠ .receipt id ∧ key ≠ .receiptTransaction id)
    (outbox : ∀ id, key ≠ .outbox id)
    (command : ∀ callerId name, key ≠ .commandKey callerId name) :
    ¬ touched (changeMoves id applied sent ++ enteredMoves entered) key := by
  simp [changeMoves, history, receipt_other receipt, sent_other outbox, entered_other command]

/-- Locks leave what they found. -/
theorem quiet_seen (fits : Fits view act.moves) (quiet : (∃ key row, act = .keep key row) ∨ ∃ lock, act = .lock lock) :
    wrote view act.moves = view := by
  rcases quiet with ⟨key, row, rfl⟩ | ⟨lock, rfl⟩
  · exact Function.update_eq_self_iff.mpr fits.1.symm
  · have absent : view (.advisory lock) = none := fits.1
    simp [Act.moves, ← absent]

theorem record_seen {key other : Key} {row : Row key} (different : other ≠ key) :
    wrote view (Act.record key row).moves other = view other :=
  Function.update_of_ne different _ _

theorem act_order (does : Does settings call act) (fits : Fits view act.moves) (id : Uuid) :
    wrote view act.moves (.order id) = (act.order id).or (view (.order id)) := by
  cases act with
  | keep key row => rw [quiet_seen fits (.inl ⟨_, _, rfl⟩)]; rfl
  | lock lock => rw [quiet_seen fits (.inr ⟨_, rfl⟩)]; rfl
  | change cause before applied sent entered =>
      simp only [Act.moves, wrote_cons, Act.order]
      rw [wrote_other (change_other (by simp) (by simp) (by simp) (by simp))]
      by_cases same : cause.orderId.id = id
      · subst same
        simp
      · rw [Function.update_of_ne (by simpa using Ne.symm same), if_neg same]
        rfl
  | create input key requestHash orderId now sent =>
      simp only [Act.moves, wrote_cons, Act.order]
      rw [wrote_other (sent_other (by simp)), Function.update_of_ne (by simp),
        Function.update_of_ne (by simp)]
      by_cases same : orderId = id
      · subst same
        simp
      · rw [Function.update_of_ne (by simpa using Ne.symm same), if_neg same]
        rfl
  | note errand before mark =>
      simp only [Act.moves, wrote_cons, wrote_nil, Act.order]
      by_cases same : errand = id
      · subst same
        simp
      · rw [Function.update_of_ne (by simpa using Ne.symm same), if_neg same]
        rfl
  | record key row =>
      cases does with
      | record _ _ plain =>
          rw [record_seen]
          · rfl
          · rintro rfl
            exact plain

/-- An act that writes history finds none there. -/
theorem act_history_new (fits : Fits view act.moves) {id : Uuid} {version : Int}
    {entry : HistoryEntry} (writes : act.history id version = some entry) :
    view (.history id version) = none := by
  cases act with
  | change cause before applied sent entered =>
      simp only [Act.history] at writes
      split at writes
      · rename_i same
        obtain ⟨rfl, rfl⟩ := same
        have absent := fits.2.1
        rwa [Function.update_of_ne (by simp)] at absent
      · cases writes
  | create input key requestHash orderId now sent =>
      simp only [Act.history] at writes
      split at writes
      · rename_i same
        obtain ⟨rfl, rfl⟩ := same
        have absent := fits.2.1
        rwa [Function.update_of_ne (by simp)] at absent
      · cases writes
  | _ => cases writes

theorem act_history (does : Does settings call act) (fits : Fits view act.moves) (id : Uuid)
    (version : Int) :
    wrote view act.moves (.history id version) =
      (act.history id version).or (view (.history id version)) := by
  cases act with
  | keep key row => rw [quiet_seen fits (.inl ⟨_, _, rfl⟩)]; rfl
  | lock lock => rw [quiet_seen fits (.inr ⟨_, rfl⟩)]; rfl
  | change cause before applied sent entered =>
      simp only [Act.moves, changeMoves, List.cons_append, wrote_cons, Act.history]
      rw [wrote_other (by simp [receipt_other, sent_other, entered_other])]
      by_cases same : cause.orderId.id = id ∧ applied.next.version = version
      · obtain ⟨rfl, rfl⟩ := same
        simp
      · rw [Function.update_of_ne, Function.update_of_ne (by simp), if_neg same]
        · rfl
        · intro equal
          cases equal
          exact same ⟨rfl, rfl⟩
  | create input key requestHash orderId now sent =>
      simp only [Act.moves, wrote_cons, Act.history]
      rw [wrote_other (sent_other (by simp)), Function.update_of_ne (by simp)]
      by_cases same : orderId = id ∧ 1 = version
      · obtain ⟨rfl, rfl⟩ := same
        simp
      · rw [Function.update_of_ne, Function.update_of_ne (by simp), if_neg same]
        · rfl
        · intro equal
          cases equal
          exact same ⟨rfl, rfl⟩
  | note errand before mark =>
      simp only [Act.moves, wrote_cons, wrote_nil]
      rw [Function.update_of_ne (by simp)]
      rfl
  | record key row =>
      cases does with
      | record _ _ plain =>
          rw [record_seen]
          · rfl
          · rintro rfl
            exact plain

end Acts

/-! ## Keys, events and advisory locks -/

def Move.isNew (move : Move Row) : Prop := move.found = none ∧ move.left ≠ none

theorem sent_new {sent : List (Uuid × OutboxEvent)} : ∀ move ∈ sentMoves sent, Move.isNew move := by
  intro move member
  obtain ⟨event, _, rfl⟩ := List.mem_map.mp member
  exact ⟨rfl, by simp⟩

theorem receipt_new {id : Uuid} {receipt : Option OrderReceipt} :
    ∀ move ∈ receiptMoves id receipt, Move.isNew move := by
  cases receipt <;> simp [receiptMoves, Move.isNew]

theorem entered_new {entered : Option (UserId × String × KeyRow)} :
    ∀ move ∈ enteredMoves entered, Move.isNew move := by
  cases entered <;> simp [enteredMoves, Move.isNew]

/-- All but the first move of a change insert new rows. -/
theorem change_new {id : Uuid} {applied : Applied} {sent : List (Uuid × OutboxEvent)}
    {entered : Option (UserId × String × KeyRow)} :
    ∀ move ∈ changeMoves id applied sent ++ enteredMoves entered, Move.isNew move := by
  intro move member
  rcases List.mem_append.mp member with own | key
  · rcases List.mem_cons.mp own with rfl | rest
    · exact ⟨rfl, by simp⟩
    · rcases List.mem_append.mp rest with receipt | event
      · exact receipt_new move receipt
      · exact sent_new move event
  · exact entered_new move key

theorem mem_sent {sent : List (Uuid × OutboxEvent)} {id : Uuid} {event : OutboxEvent} :
    (⟨.outbox id, none, some event⟩ : Move Row) ∈ sentMoves sent ↔ (id, event) ∈ sent := by
  constructor
  · intro member
    obtain ⟨⟨other, found⟩, present, same⟩ := List.mem_map.mp member
    cases same
    exact present
  · intro member
    exact List.mem_map.mpr ⟨(id, event), member, rfl⟩

theorem mem_change {errand id : Uuid} {applied : Applied} {sent : List (Uuid × OutboxEvent)}
    {entered : Option (UserId × String × KeyRow)} {event : OutboxEvent} :
    (⟨.outbox id, none, some event⟩ : Move Row) ∈
        changeMoves errand applied sent ++ enteredMoves entered ↔ (id, event) ∈ sent := by
  rw [← mem_sent]
  cases entered <;> cases receipt : applied.receipt <;>
    simp [changeMoves, enteredMoves, receiptMoves, receipt]

theorem mem_entered {errand : Uuid} {applied : Applied} {sent : List (Uuid × OutboxEvent)}
    {entered : Option (UserId × String × KeyRow)} {callerId : UserId} {key : String}
    {held : KeyRow} :
    (⟨.commandKey callerId key, none, some held⟩ : Move Row) ∈
        changeMoves errand applied sent ++ enteredMoves entered ↔
      entered = some (callerId, key, held) := by
  have apart : (⟨.commandKey callerId key, none, some held⟩ : Move Row) ∉ sentMoves sent := by
    intro member
    obtain ⟨_, _, same⟩ := List.mem_map.mp member
    cases same
  cases entered with
  | none => cases receipt : applied.receipt <;>
      simp [changeMoves, enteredMoves, receiptMoves, receipt, apart]
  | some entered =>
      obtain ⟨caller, name, row⟩ := entered
      have here : (⟨.commandKey callerId key, none, some held⟩ : Move Row) ∈
          enteredMoves (some (caller, name, row)) ↔
          some (caller, name, row) = some (callerId, key, held) := by
        constructor
        · intro member
          cases List.mem_singleton.mp member
          rfl
        · rintro same
          cases same
          exact List.mem_singleton.mpr rfl
      rw [List.mem_append, here]
      cases receipt : applied.receipt <;> simp [changeMoves, receiptMoves, receipt, apart]

section Events

variable {settings : Settings} {call : Call} {view : View Row} {act : Act}

theorem act_outbox (does : Does settings call act) (fits : Fits view act.moves) (id : Uuid)
    (event : OutboxEvent) :
    wrote view act.moves (.outbox id) = some event ↔
      view (.outbox id) = some event ∨ (id, event) ∈ act.sends := by
  cases act with
  | keep key row => rw [quiet_seen fits (.inl ⟨_, _, rfl⟩)]; simp [Act.sends]
  | lock lock => rw [quiet_seen fits (.inr ⟨_, rfl⟩)]; simp [Act.sends]
  | change cause before applied sent entered =>
      simp only [Act.moves, wrote_cons, Act.sends]
      rw [wrote_new fits.2 change_new, mem_change, Function.update_of_ne (by simp)]
  | create input key requestHash orderId now sent =>
      simp only [Act.moves, wrote_cons, Act.sends]
      rw [wrote_new fits.2.2.2 sent_new, mem_sent, Function.update_of_ne (by simp),
        Function.update_of_ne (by simp), Function.update_of_ne (by simp)]
  | note errand before mark =>
      simp only [Act.moves, wrote_cons, wrote_nil, Act.sends]
      rw [Function.update_of_ne (by simp)]
      simp
  | record key row =>
      cases key with
      | outbox other =>
          have new : ∀ move ∈ (Act.record (.outbox other) row).moves, Move.isNew move := by
            simp [Act.moves, Move.isNew]
          rw [wrote_new fits new]
          simp only [Act.moves]
          simp only [List.mem_singleton, Act.sends, Prod.mk.injEq]
          constructor
          · rintro (old | same)
            · exact .inl old
            · cases same
              exact .inr ⟨rfl, rfl⟩
          · rintro (old | ⟨rfl, rfl⟩)
            · exact .inl old
            · exact .inr rfl
      | _ =>
          rw [record_seen (by simp)]
          simp [Act.sends]

/-- Events are sent under new ids. -/
theorem act_outbox_new (fits : Fits view act.moves) {id : Uuid} {event : OutboxEvent}
    (sends : (id, event) ∈ act.sends) : view (.outbox id) = none := by
  cases act with
  | change cause before applied sent entered =>
      have absent := fits_new fits.2 change_new (mem_change.mpr sends)
      rwa [Function.update_of_ne (by simp)] at absent
  | create input key requestHash orderId now sent =>
      have absent := fits_new fits.2.2.2 sent_new (mem_sent.mpr sends)
      rwa [Function.update_of_ne (by simp), Function.update_of_ne (by simp),
        Function.update_of_ne (by simp)] at absent
  | record key row =>
      cases key with
      | outbox other =>
          cases List.mem_singleton.mp sends
          exact fits.1
      | _ => cases sends
  | _ => cases sends

theorem act_slot (does : Does settings call act) (fits : Fits view act.moves) (slot : Slot)
    (held : KeyRow) :
    slotRow (wrote view act.moves) slot = some held ↔
      slotRow view slot = some held ∨ act.enters slot held := by
  cases act with
  | keep key row => rw [quiet_seen fits (.inl ⟨_, _, rfl⟩)]; simp [Act.enters]
  | lock lock => rw [quiet_seen fits (.inr ⟨_, rfl⟩)]; simp [Act.enters]
  | change cause before applied sent entered =>
      simp only [Act.moves, wrote_cons]
      cases slot with
      | requester requesterId key =>
          simp only [slotRow]
          rw [wrote_other (change_other (by simp) (by simp) (by simp) (by simp)),
            Function.update_of_ne (by simp)]
          cases entered <;> simp [Act.enters]
      | command callerId key =>
          simp only [slotRow]
          rw [wrote_new fits.2 change_new, mem_entered, Function.update_of_ne (by simp)]
          cases entered with
          | none => simp [Act.enters]
          | some entered =>
              obtain ⟨caller, name, row⟩ := entered
              simp [Act.enters, @eq_comm _ callerId, @eq_comm _ key, @eq_comm _ held, and_assoc]
  | create input key requestHash orderId now sent =>
      simp only [Act.moves, wrote_cons]
      cases slot with
      | requester requesterId name =>
          simp only [slotRow, Act.enters, Slot.requester.injEq]
          have absent := fits.2.2.1
          rw [Function.update_of_ne (by simp), Function.update_of_ne (by simp)] at absent
          rw [wrote_other (sent_other (by simp))]
          by_cases same : requesterId = input.requesterId ∧ name = key
          · obtain ⟨rfl, rfl⟩ := same
            simp [absent, eq_comm]
          · rw [Function.update_of_ne, Function.update_of_ne (by simp), Function.update_of_ne (by simp)]
            · simp [same]
            · intro equal
              cases equal
              exact same ⟨rfl, rfl⟩
      | command callerId name =>
          simp only [slotRow, Act.enters, reduceCtorEq, false_and, or_false]
          rw [wrote_other (sent_other (by simp)), Function.update_of_ne (by simp),
            Function.update_of_ne (by simp), Function.update_of_ne (by simp)]
  | note errand before mark =>
      cases slot <;> simp [Act.moves, slotRow, Act.enters]
  | record key row =>
      cases does with
      | record _ _ plain =>
          simp only [Act.enters, or_false]
          cases slot with
          | requester requesterId name =>
              simp only [slotRow]
              rw [record_seen]
              rintro rfl
              exact plain
          | command callerId name =>
              simp only [slotRow]
              rw [record_seen]
              rintro rfl
              exact plain

/-- A key is entered once. -/
theorem act_slot_new (fits : Fits view act.moves) {slot : Slot} {held : KeyRow}
    (enters : act.enters slot held) : slotRow view slot = none := by
  cases act with
  | change cause before applied sent entered =>
      cases entered with
      | none => cases enters
      | some entered =>
          obtain ⟨callerId, key, row⟩ := entered
          obtain ⟨rfl, rfl⟩ := enters
          have absent := fits_new fits.2 change_new (mem_entered.mpr rfl)
          rwa [Function.update_of_ne (by simp)] at absent
  | create input key requestHash orderId now sent =>
      obtain ⟨rfl, rfl⟩ := enters
      have absent := fits.2.2.1
      rwa [Function.update_of_ne (by simp), Function.update_of_ne (by simp)] at absent
  | _ => cases enters

/-- No advisory lock is ever left behind. -/
theorem act_advisory (does : Does settings call act) (fits : Fits view act.moves)
    (free : ∀ lock, view (.advisory lock) = none) (lock : Int) :
    wrote view act.moves (.advisory lock) = none := by
  cases act with
  | keep key row => rw [quiet_seen fits (.inl ⟨_, _, rfl⟩)]; exact free lock
  | lock number => rw [quiet_seen fits (.inr ⟨_, rfl⟩)]; exact free lock
  | change cause before applied sent entered =>
      simp only [Act.moves, wrote_cons]
      rw [wrote_other (change_other (by simp) (by simp) (by simp) (by simp)),
        Function.update_of_ne (by simp)]
      exact free lock
  | create input key requestHash orderId now sent =>
      simp only [Act.moves, wrote_cons]
      rw [wrote_other (sent_other (by simp)), Function.update_of_ne (by simp),
        Function.update_of_ne (by simp), Function.update_of_ne (by simp)]
      exact free lock
  | note errand before mark =>
      simp only [Act.moves, wrote_cons, wrote_nil]
      rw [Function.update_of_ne (by simp)]
      exact free lock
  | record key row =>
      cases does with
      | record _ _ plain =>
          rw [record_seen]
          · exact free lock
          · rintro rfl
            exact plain

end Events

/-! ## Errands -/

/-- What an act does to an errand's row and its history. -/
inductive ErrandStep (settings : Settings) (call : Call) (view : View Row) (act : Act) (id : Uuid) :
    Prop where
  | untouched (row : wrote view act.moves (.order id) = view (.order id))
      (history : ∀ version, wrote view act.moves (.history id version) = view (.history id version))
  | changed (cause : Cause) (before : StoredOrder) (applied : Applied)
      (sent : List (Uuid × OutboxEvent)) (entered : Option (UserId × String × KeyRow))
      (is : act = .change cause before applied sent entered) (named : cause.orderId.id = id)
      (found : view (.order id) = some before)
      (left : wrote view act.moves (.order id) = some applied.next)
      (noted : wrote view act.moves (.history id applied.next.version) = some applied.history)
      (others : ∀ version, version ≠ applied.next.version →
        wrote view act.moves (.history id version) = view (.history id version))
  | created (input : CreatePendingInput) (now : Millis) (found : view (.order id) = none)
      (left : wrote view act.moves (.order id) = some (pendingRow input id now))
      (noted : wrote view act.moves (.history id 1) = some (creationHistory input now))
      (others : ∀ version, version ≠ 1 →
        wrote view act.moves (.history id version) = view (.history id version))
      (starts : ∀ cause, ¬ Issues settings call.task cause)
      (is : ∃ key requestHash sent, act = .create input key requestHash id now sent)
  | noted (before : StoredOrder) (mark : Option Micros) (is : act = .note id before mark)
      (found : view (.order id) = some before)
      (left : wrote view act.moves (.order id) = some { before with requesterSuspendedAt := mark })
      (history : ∀ version, wrote view act.moves (.history id version) = view (.history id version))

theorem errand_step {settings : Settings} {call : Call} {view : View Row} {act : Act}
    (does : Does settings call act) (fits : Fits view act.moves) (id : Uuid) :
    ErrandStep settings call view act id := by
  have rows := act_order does fits id
  have histories := act_history does fits id
  have elsewhere (unwritten : act.order id = none) (empty : ∀ version, act.history id version = none) :
      ErrandStep settings call view act id := by
    refine .untouched ?_ ?_
    · rw [rows, unwritten, Option.none_or]
    · intro version
      rw [histories, empty, Option.none_or]
  cases act with
  | change cause before applied sent entered =>
      by_cases same : cause.orderId.id = id
      · subst same
        refine .changed cause before applied sent entered rfl rfl fits.1 ?_ ?_ ?_
        · simp [rows, Act.order]
        · simp [histories, Act.history]
        · intro version other
          simp [histories, Act.history, Ne.symm other]
      · apply elsewhere
        · simp [Act.order, same]
        · simp [Act.history, same]
  | create input key requestHash orderId now sent =>
      by_cases same : orderId = id
      · subst same
        refine .created input now fits.1 ?_ ?_ ?_ ?_ ⟨key, requestHash, sent, rfl⟩
        · simp [rows, Act.order]
        · simp [histories, Act.history]
        · intro version other
          simp [histories, Act.history, Ne.symm other]
        · intro cause issues
          cases does with
          | create caller key request supplierSnapshot correlationId orderId now change sent task =>
              rw [task] at issues
              cases issues
      · apply elsewhere
        · simp [Act.order, same]
        · simp [Act.history, same]
  | note errand before mark =>
      by_cases same : errand = id
      · subst same
        refine .noted before mark rfl fits.1 ?_ ?_
        · simp [rows, Act.order]
        · intro version
          rw [histories]
          rfl
      · apply elsewhere
        · simp [Act.order, same]
        · exact fun _ => rfl
  | keep | lock | record =>
      apply elsewhere
      · rfl
      · exact fun _ => rfl

end Foc.Order
