import Foc.Agreement.Exchange
import Foc.Order.Runs
import Mathlib

/-!
What the rows of the Order Service and those of the Credit Service say of each other, and that
a commit of Order's keeps it. An errand leaves its waiting statuses on a reply of Credit's
only, and a reply tells what Credit has recorded; what Order asks for is of the errand as it
is, and stays of it whatever the errand does next.
-/
namespace Foc.Agreement
open Library Library.ReadCommitted Library.Serial Library.UuidText
open Foc.Order
open Foc.Credit (Tables OperationType CreditEvent)
open Foc.Credit.Interleaving (Records Tells Paid Returned figure)

/-! ## What Credit has for an errand -/

/-- The operation recorded for an errand. -/
def recordOf (tables : Tables) (id : Uuid) (operationType : OperationType) :
    Option Credit.Operation :=
  tables.operations.lookup (idText id, operationType)

/-- Credit has set the reward aside. -/
def Reserved (tables : Tables) (row : StoredOrder) : Prop :=
  ∃ operation transactionId, recordOf tables row.orderId .reserve = some operation ∧
    operation.requesterId = row.requesterId ∧ operation.amount = row.reward ∧
    operation.outcome = .succeeded transactionId

/-- Credit refused to, and why. -/
def Refuses (tables : Tables) (row : StoredOrder) (refusal : Refusal) : Prop :=
  ∃ operation recorded held, recordOf tables row.orderId .reserve = some operation ∧
    operation.outcome = .rejected recorded held ∧
    refusalOf recorded.reason (figure recorded held) = some refusal

/-- Credit has paid the reward to the courier, by this transaction. -/
def Rewards (tables : Tables) (row : StoredOrder) (transactionId : Uuid) : Prop :=
  ∃ operation result, recordOf tables row.orderId .transfer = some operation ∧
    Paid (idText row.orderId) operation result ∧
    scanUuid result.transactionId.toList = some transactionId ∧
    operation.requesterId = row.requesterId ∧ operation.courierId = row.courierId ∧
    operation.amount = row.reward

/-- Credit has given it back to the requester. -/
def Restores (tables : Tables) (row : StoredOrder) (transactionId : Uuid) : Prop :=
  ∃ operation result, recordOf tables row.orderId .release = some operation ∧
    Returned (idText row.orderId) operation result ∧
    scanUuid result.transactionId.toList = some transactionId ∧
    operation.requesterId = row.requesterId ∧ operation.amount = row.reward

/-- The row gives Credit's reasons. -/
def Refused (tables : Tables) (row : StoredOrder) : Prop :=
  ∃ refusal, Refuses tables row refusal ∧ row.rejectionReason = some refusal.reason ∧
    row.availableAtRejection = refusal.available

/-- The row names Credit's transaction. -/
def Rewarded (tables : Tables) (row : StoredOrder) : Prop :=
  ∃ transactionId, Rewards tables row transactionId ∧ row.creditTransactionId = some transactionId

def Restored (tables : Tables) (row : StoredOrder) : Prop :=
  ∃ transactionId, Restores tables row transactionId ∧ row.creditTransactionId = some transactionId

/-- What an errand's status says of Credit. -/
def Backed (tables : Tables) (row : StoredOrder) : Prop :=
  match row.status with
  | .pendingCredit => True
  | .rejected => Refused tables row
  | .opened | .accepted | .pickedUp | .delivered | .disputed | .completionPendingCredit
  | .releasePendingCredit => Reserved tables row
  | .completed => Reserved tables row ∧ Rewarded tables row
  | .cancelled | .expired => Reserved tables row ∧ Restored tables row

/-- The statuses of an errand whose reward is to go to the courier. -/
def completes : OrderStatus → Bool
  | .completionPendingCredit | .completed => true
  | _ => false

/-- And of one whose reward is to go back. -/
def closes : OrderStatus → Bool
  | .releasePendingCredit | .cancelled | .expired => true
  | _ => false

/-- What Order asks is of the errand as it is. -/
def Asks (view : View Row) : Payload → Prop
  | .statusChanged _ _ _ _ _ => True
  | .reservationRequested orderId requesterId amount => ∃ row,
      view (.order orderId.id) = some row ∧ requesterId = row.requesterId ∧ amount = row.reward
  | .completionRequested orderId requesterId courierId amount => ∃ row,
      view (.order orderId.id) = some row ∧ requesterId = row.requesterId ∧ amount = row.reward ∧
        row.courierId = some courierId ∧ completes row.status = true
  | .releaseRequested orderId requesterId amount => ∃ row,
      view (.order orderId.id) = some row ∧ requesterId = row.requesterId ∧ amount = row.reward ∧
        closes row.status = true

/-- What Credit recorded is what an errand asked for. -/
def Recorded (view : View Row) (key : Credit.OrderId × OperationType)
    (operation : Credit.Operation) : Prop :=
  ∃ id row, key.1 = idText id ∧ view (.order id) = some row ∧
    operation.requesterId = row.requesterId ∧ operation.amount = row.reward ∧
    (key.2 = .transfer → operation.courierId = row.courierId ∧ completes row.status = true) ∧
    (key.2 = .release → closes row.status = true)

/-- An errand's id is its own, and a UUID; nobody carries out their own errand. -/
structure Named (id : Uuid) (row : StoredOrder) : Prop where
  own : row.orderId = id
  versioned : Versioned id
  apart : row.courierId ≠ some row.requesterId

/-- A reply that says a request contradicts the one before. -/
def conflicting : CreditEvent → Prop
  | .creditReservationRejected _ _ _ reason _ => reason = .conflictingRequest
  | _ => False

structure Agrees (view : View Row) (tables : Tables) : Prop where
  named : ∀ id row, view (.order id) = some row → Named id row
  backed : ∀ id row, view (.order id) = some row → Backed tables row
  asks : ∀ eventId event, view (.outbox eventId) = some event → Asks view event.payload
  recorded : ∀ key operation, tables.operations.lookup key = some operation →
    Recorded view key operation
  quiet : tables.alerts = []
  civil : ∀ row ∈ tables.outbox, ¬ conflicting row.payload

/-! ## Errands going on -/

/-- What an errand keeps of its request and of where its reward goes. -/
structure Onward (row next : StoredOrder) : Prop where
  requester : next.requesterId = row.requesterId
  reward : next.reward = row.reward
  completes : completes row.status = true →
    completes next.status = true ∧ next.courierId = row.courierId
  closes : closes row.status = true → closes next.status = true

theorem onward_refl (row : StoredOrder) : Onward row row :=
  ⟨rfl, rfl, fun done => ⟨done, rfl⟩, fun done => done⟩

theorem onward_trans {row next last : StoredOrder} (first : Onward row next)
    (second : Onward next last) : Onward row last := by
  refine ⟨second.requester.trans first.requester, second.reward.trans first.reward, fun done => ?_,
    fun done => second.closes (first.closes done)⟩
  obtain ⟨stays, courier⟩ := first.completes done
  obtain ⟨ends, same⟩ := second.completes stays
  exact ⟨ends, same.trans courier⟩

theorem heading_rules : ∀ rule ∈ orderTransitions,
    (completes rule.status = true →
      completes rule.decision.target = true ∧ partiesFixed rule.status = true) ∧
    (closes rule.status = true → closes rule.decision.target = true) := by
  decide

theorem stepped_onward {cause : Cause} {tx : Micros} {before : StoredOrder} {applied : Applied}
    (stepped : Stepped cause tx before applied) : Onward before applied.next := by
  obtain ⟨rule, member, status, _, target, _⟩ := stepped.rule
  obtain ⟨completing, closing⟩ := heading_rules rule member
  rw [status, target] at completing closing
  refine ⟨stepped.same.requesterId, stepped.same.reward, fun done => ?_, closing⟩
  obtain ⟨stays, fixed⟩ := completing done
  refine ⟨stays, stepped.courier.resolve_right ?_⟩
  rintro ⟨open_, -⟩
  rw [fixed] at open_
  cases open_

section Acts

variable {settings : Settings} {call : Call} {view : View Row} {act : Act} {tables : Tables}

theorem act_onward (does : Does settings call act) (fits : Fits view act.moves) {id : Uuid}
    {row : StoredOrder} (found : view (.order id) = some row) :
    ∃ next, wrote view act.moves (.order id) = some next ∧ Onward row next := by
  cases errand_step does fits id with
  | untouched same => exact ⟨row, same.trans found, onward_refl row⟩
  | changed cause before applied sent entered is named present left =>
      cases found.symm.trans present
      subst is
      exact ⟨_, left, stepped_onward (does_stepped does).1⟩
  | created input now absent =>
      rw [absent] at found
      cases found
  | noted before mark is present left =>
      cases found.symm.trans present
      exact ⟨_, left, rfl, rfl, fun done => ⟨done, rfl⟩, fun done => done⟩

/-- What was asked of an errand is still of it. -/
theorem asks_onward {later : View Row} {payload : Payload}
    (onward : ∀ id row, view (.order id) = some row →
      ∃ next, later (.order id) = some next ∧ Onward row next)
    (asks : Asks view payload) : Asks later payload := by
  cases payload with
  | statusChanged => trivial
  | reservationRequested orderId requesterId amount =>
      obtain ⟨row, found, requester, reward⟩ := asks
      obtain ⟨next, there, on⟩ := onward _ row found
      exact ⟨next, there, requester.trans on.requester.symm, reward.trans on.reward.symm⟩
  | completionRequested orderId requesterId courierId amount =>
      obtain ⟨row, found, requester, reward, courier, done⟩ := asks
      obtain ⟨next, there, on⟩ := onward _ row found
      obtain ⟨stays, same⟩ := on.completes done
      exact ⟨next, there, requester.trans on.requester.symm, reward.trans on.reward.symm,
        same.trans courier, stays⟩
  | releaseRequested orderId requesterId amount =>
      obtain ⟨row, found, requester, reward, done⟩ := asks
      obtain ⟨next, there, on⟩ := onward _ row found
      exact ⟨next, there, requester.trans on.requester.symm, reward.trans on.reward.symm,
        on.closes done⟩

theorem recorded_onward {later : View Row} {key : Credit.OrderId × OperationType}
    {operation : Credit.Operation}
    (onward : ∀ id row, view (.order id) = some row →
      ∃ next, later (.order id) = some next ∧ Onward row next)
    (recorded : Recorded view key operation) : Recorded later key operation := by
  obtain ⟨id, row, text, found, requester, amount, transfers, releases⟩ := recorded
  obtain ⟨next, there, on⟩ := onward id row found
  refine ⟨id, next, text, there, requester.trans on.requester.symm, amount.trans on.reward.symm,
    fun kind => ?_, fun kind => on.closes (releases kind)⟩
  obtain ⟨courier, done⟩ := transfers kind
  obtain ⟨stays, same⟩ := on.completes done
  exact ⟨courier.trans same.symm, stays⟩

/-! ## Events -/

/-- What an event that asks something of Credit says of the row it was made from. -/
def Means (after : OrderRow) (eventType : EventType) : Payload → Prop
  | .statusChanged _ _ _ _ _ => True
  | .reservationRequested _ _ _ => False
  | .completionRequested orderId requesterId courierId amount =>
      eventType = .completionRequested ∧ orderId = written after.orderId ∧
        requesterId = after.requesterId ∧ after.courierId = some courierId ∧ amount = after.reward
  | .releaseRequested orderId requesterId amount =>
      eventType = .releaseRequested ∧ orderId = written after.orderId ∧
        requesterId = after.requesterId ∧ amount = after.reward

theorem emitted_means {before after : OrderRow} {now : Millis} {eventType : EventType}
    {payload : Payload} (emitted : emittedEvent before after now eventType = .ok payload) :
    Means after eventType payload := by
  cases eventType with
  | statusChanged =>
      cases emitted
      trivial
  | reservationRequested => cases emitted
  | releaseRequested =>
      cases emitted
      exact ⟨rfl, rfl, rfl, rfl⟩
  | completionRequested =>
      simp only [emittedEvent] at emitted
      split at emitted
      · cases emitted
      · rename_i courierId courier
        split at emitted
        · cases emitted
        · cases emitted
          exact ⟨rfl, rfl, rfl, courier, rfl⟩

theorem asking_rules : ∀ rule ∈ orderTransitions,
    (.completionRequested ∈ rule.decision.emitted →
      rule.decision.target = .completionPendingCredit) ∧
    (.releaseRequested ∈ rule.decision.emitted →
      rule.decision.target = .releasePendingCredit) := by
  decide

/-- What an event says of the row that its change leaves. -/
theorem means_asks {view : View Row} {row : StoredOrder} {eventType : EventType} {payload : Payload}
    (found : view (.order row.orderId) = some row)
    (completing : eventType = .completionRequested → completes row.status = true)
    (closing : eventType = .releaseRequested → closes row.status = true)
    (means : Means (mapOrder row) eventType payload) : Asks view payload := by
  cases payload with
  | statusChanged => trivial
  | reservationRequested => exact means.elim
  | completionRequested orderId requesterId courierId amount =>
      obtain ⟨kind, rfl, rfl, courier, rfl⟩ := means
      exact ⟨row, found, rfl, rfl, courier, completing kind⟩
  | releaseRequested orderId requesterId amount =>
      obtain ⟨kind, rfl, rfl, rfl⟩ := means
      exact ⟨row, found, rfl, rfl, closing kind⟩

theorem forall_right {α β : Type} {related : α → β → Prop} {ones : List α} {twos : List β}
    (all : List.Forall₂ related ones twos) : ∀ two ∈ twos, ∃ one ∈ ones, related one two := by
  induction all with
  | nil => simp
  | cons here _ ih =>
      intro two member
      rcases List.mem_cons.mp member with rfl | later
      · exact ⟨_, List.mem_cons_self, here⟩
      · obtain ⟨one, present, holds⟩ := ih two later
        exact ⟨one, List.mem_cons_of_mem _ present, holds⟩

/-- Every event of a change is of the row the change leaves. -/
theorem change_asks {periods : Periods} {tx : Micros} {cause : Cause} {before : StoredOrder}
    {applied : Applied} (fitting : cause.fitting)
    (applies : cause.applies periods tx before applied) {view : View Row}
    (found : view (.order applied.next.orderId) = some applied.next) :
    ∀ event ∈ applied.events, Asks view event.payload := by
  intro event member
  cases cause with
  | acceptance orderId caller expectedVersion correlationId =>
      obtain ⟨rfl, -⟩ := accept_ok applies.2
      cases List.mem_singleton.mp member
      trivial
  | transition command =>
      obtain ⟨rule, listed, _, _, _, target, _, writes⟩ := transition_rule fitting applies
      obtain ⟨eventType, emits, made⟩ := forall_right (events_each writes.events) event member
      obtain ⟨payload, emitted, made⟩ := bind_ok made
      obtain ⟨rfl, -⟩ := outbox_ok made
      obtain ⟨completing, closing⟩ := asking_rules rule listed
      refine means_asks found ?_ ?_ (emitted_means emitted)
      · rintro rfl
        rw [← target, completing emits]
        rfl
      · rintro rfl
        rw [← target, closing emits]
        rfl

/-- A request that the reconciler makes again is of the errand as it is. -/
theorem request_asks {view : View Row} {row : StoredOrder} {payload : Payload}
    (found : view (.order row.orderId) = some row)
    (made : creditRequest (mapOrder row) = .ok payload) : Asks view payload := by
  unfold creditRequest at made
  split at made
  · cases made
    exact ⟨row, found, rfl, rfl⟩
  · rename_i status
    refine means_asks found (fun _ => ?_) (by simp) (emitted_means made)
    rw [show row.status = .completionPendingCredit from status]
    rfl
  · rename_i status
    refine means_asks found (by simp) (fun _ => ?_) (emitted_means made)
    rw [show row.status = .releasePendingCredit from status]
    rfl
  · cases made

end Acts

/-! ## Replies -/

/-- What a reply of Credit's tells, and of which errand. -/
def Holds (view : View Row) (tables : Tables) : Told → Prop
  | .reservation envelope payload reply => envelope.aggregateId = payload.orderId ∧
      ∃ row, view (.order payload.orderId.id) = some row ∧
        row.requesterId = payload.requesterId ∧ row.reward = payload.amount ∧
        match reply with
        | .reserved => Reserved tables row
        | .rejected refusal => Refuses tables row refusal
  | .transferred envelope payload => envelope.aggregateId = payload.reservation.orderId ∧
      ∃ row, view (.order payload.reservation.orderId.id) = some row ∧
        completes row.status = true ∧ row.requesterId = payload.reservation.requesterId ∧
        row.reward = payload.reservation.amount ∧ row.courierId = some payload.courierId ∧
        Rewards tables row payload.transactionId
  | .released envelope payload => envelope.aggregateId = payload.reservation.orderId ∧
      ∃ row, view (.order payload.reservation.orderId.id) = some row ∧
        closes row.status = true ∧ row.requesterId = payload.reservation.requesterId ∧
        row.reward = payload.reservation.amount ∧ Restores tables row payload.transactionId

theorem scan_id {id : Uuid} (versioned : Versioned id) :
    scanUuid (idText id).toList = some id := by
  rw [idText, String.toList_ofList, scan_uuid versioned]

theorem read_id {id : Uuid} (versioned : Versioned id) : readId (idText id) = some (written id) := by
  rw [readId, scan_id versioned, Option.map_some]

/-- Two errands whose ids are written alike are one. -/
theorem id_text_inj {one two : Uuid} (first : Versioned one) (second : Versioned two)
    (same : idText one = idText two) : one = two := by
  have read := scan_id first
  rw [same, scan_id second] at read
  exact (Option.some.inj read).symm

section Replies

variable {view : View Row} {tables : Tables}

/-- The errand of an operation, and how its text is read. -/
theorem recorded_errand (agrees : Agrees view tables) {text : Credit.OrderId}
    {operationType : OperationType} {operation : Credit.Operation}
    (found : tables.operations.lookup (text, operationType) = some operation) {orderId : WrittenId}
    (read : readId text = some orderId) :
    ∃ row, view (.order orderId.id) = some row ∧ text = idText row.orderId ∧
      recordOf tables row.orderId operationType = some operation ∧
      operation.requesterId = row.requesterId ∧ operation.amount = row.reward ∧
      (operationType = .transfer →
        operation.courierId = row.courierId ∧ completes row.status = true) ∧
      (operationType = .release → closes row.status = true) := by
  obtain ⟨id, row, written, there, rest⟩ := agrees.recorded _ operation found
  have named := agrees.named id row there
  have same : text = idText id := written
  rw [same, read_id named.versioned] at read
  cases read
  rw [same] at found
  refine ⟨row, there, ?_, ?_, rest⟩
  · rw [named.own, same]
  · rw [recordOf, named.own]
    exact found

theorem reply_holds (agrees : Agrees view tables) (records : Records tables) {eventId : Uuid}
    {row : Credit.OutboxRow} (member : row ∈ tables.outbox) {reply : Told}
    (read : readReply eventId row = some reply) : Holds view tables reply := by
  obtain ⟨about, tells⟩ := records.told row member
  have civil := agrees.civil row member
  obtain ⟨aggregateId, named, read⟩ := Option.bind_eq_some_iff.mp read
  rw [about] at named
  cases payload : row.payload with
  | creditsReserved orderId requesterId amount =>
      rw [payload] at tells named
      simp only [payload] at read
      obtain ⟨id, reads, read⟩ := Option.bind_eq_some_iff.mp read
      cases read
      cases named.symm.trans reads
      obtain ⟨operation, transactionId, found, requester, asked, succeeded⟩ := tells
      obtain ⟨errand, there, -, stored, own, reward, -⟩ := recorded_errand agrees found reads
      exact ⟨rfl, errand, there, own.symm.trans requester, reward.symm.trans asked, operation,
        transactionId, stored, own, reward, succeeded⟩
  | creditReservationRejected orderId requesterId amount reason available =>
      rw [payload] at tells named civil
      simp only [payload] at read
      obtain ⟨id, reads, read⟩ := Option.bind_eq_some_iff.mp read
      obtain ⟨refusal, refused, read⟩ := Option.bind_eq_some_iff.mp read
      cases read
      cases named.symm.trans reads
      obtain ⟨operation, found, conflict | told⟩ := tells
      · exact absurd conflict.1 civil
      · obtain ⟨requester, asked, recorded, held, outcome, rfl, rfl⟩ := told
        obtain ⟨errand, there, -, stored, own, reward, -⟩ := recorded_errand agrees found reads
        exact ⟨rfl, errand, there, own.symm.trans requester, reward.symm.trans asked, operation,
          recorded, held, stored, outcome, refused⟩
  | creditsTransferred result =>
      rw [payload] at tells named
      simp only [payload] at read
      obtain ⟨id, reads, read⟩ := Option.bind_eq_some_iff.mp read
      obtain ⟨transactionId, scanned, read⟩ := Option.bind_eq_some_iff.mp read
      cases read
      cases named.symm.trans reads
      obtain ⟨operation, found, paid⟩ := tells
      obtain ⟨errand, there, text, stored, own, reward, transfers, -⟩ :=
        recorded_errand agrees found reads
      obtain ⟨courier, done⟩ := transfers rfl
      rw [text] at paid
      exact ⟨rfl, errand, there, done, own.symm.trans paid.requester.symm,
        reward.symm.trans paid.amount.symm, courier.symm.trans paid.courier, operation, result,
        stored, paid, scanned, own, courier, reward⟩
  | creditsReleased result =>
      rw [payload] at tells named
      simp only [payload] at read
      obtain ⟨id, reads, read⟩ := Option.bind_eq_some_iff.mp read
      obtain ⟨transactionId, scanned, read⟩ := Option.bind_eq_some_iff.mp read
      cases read
      cases named.symm.trans reads
      obtain ⟨operation, found, returned⟩ := tells
      obtain ⟨errand, there, text, stored, own, reward, -, releases⟩ :=
        recorded_errand agrees found reads
      rw [text] at returned
      exact ⟨rfl, errand, there, releases rfl, own.symm.trans returned.requester.symm,
        reward.symm.trans returned.amount.symm, operation, result, stored, returned, scanned, own,
        reward⟩

/-- A reply that is delivered is true. -/
theorem delivered_holds (agrees : Agrees view tables) (records : Records tables) {task : Task}
    {reply : Told} (is : told task = some reply) (heard : delivered tables task = true) :
    Holds view tables reply := by
  rw [delivered, is, Option.all_some, List.any_eq_true] at heard
  obtain ⟨row, member, read⟩ := heard
  exact reply_holds agrees records member (of_decide_eq_true read)

end Replies

end Foc.Agreement
