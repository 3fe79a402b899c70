import Foc.Credit.Serial
import Mathlib

/-!
What Credit has recorded of an order: its operations, the transactions that moved credit for
them and the replies it sent. Operations are recorded once and never changed, so a reply that
was true when it was sent is true ever after, and a request sent again gets the same one.
-/
namespace Foc.Credit.Interleaving
open Library.Difference Library.EventLoop Library.LockTable
open Foc.Order (Micros Uuid idText)

/-! ## Records -/

def OperationType.moves : OperationType → TransactionType
  | .reserve => .reserve
  | .release => .release
  | .transfer => .transfer

/-- The transaction of an operation that succeeded. -/
def movement (key : OrderId × OperationType) (operation : Operation) : CreditTransaction :=
  { orderId := some key.1
    transactionType := OperationType.moves key.2
    walletUserId := operation.requesterId
    amount := operation.amount }

/-- The record of a transfer restates it in its result. -/
structure Paid (orderId : OrderId) (operation : Operation) (result : TransferResult) : Prop where
  payload : operation.resultPayload = some (.transferred result)
  outcome : operation.outcome = .succeeded result.transactionId
  order : result.orderId = orderId
  requester : result.requesterId = operation.requesterId
  courier : operation.courierId = some result.courierId
  amount : result.amount = operation.amount

structure Returned (orderId : OrderId) (operation : Operation) (result : ReleaseResult) :
    Prop where
  payload : operation.resultPayload = some (.released result)
  outcome : operation.outcome = .succeeded result.transactionId
  order : result.orderId = orderId
  requester : result.requesterId = operation.requesterId
  amount : result.amount = operation.amount

/-- What a finished operation looks like, by its kind. -/
def Finished (key : OrderId × OperationType) (operation : Operation) : Prop :=
  match key.2 with
  | .reserve => operation.outcome ≠ .pending
  | .transfer => ∃ result, Paid key.1 operation result
  | .release => ∃ result, Returned key.1 operation result

/-- The figure that a recorded refusal is answered with. -/
def figure (reason : RecordedRejection) (available : Option Int) : Option Int :=
  if reason.reason = .insufficientCredits then available else none

/-- A reply tells what is recorded, or that something else is. -/
def Tells (operations : AList fun _ : OrderId × OperationType => Operation) : CreditEvent → Prop
  | .creditsReserved orderId requesterId amount => ∃ operation transactionId,
      operations.lookup (orderId, .reserve) = some operation ∧
        operation.requesterId = requesterId ∧ operation.amount = amount ∧
        operation.outcome = .succeeded transactionId
  | .creditReservationRejected orderId requesterId amount reason available => ∃ operation,
      operations.lookup (orderId, .reserve) = some operation ∧
        (reason = .conflictingRequest ∧
            (operation.requesterId ≠ requesterId ∨ operation.amount ≠ amount) ∨
          operation.requesterId = requesterId ∧ operation.amount = amount ∧
            ∃ recorded held, operation.outcome = .rejected recorded held ∧
              reason = recorded.reason ∧ available = figure recorded held)
  | .creditsTransferred result => ∃ operation,
      operations.lookup (result.orderId, .transfer) = some operation ∧
        Paid result.orderId operation result
  | .creditsReleased result => ∃ operation,
      operations.lookup (result.orderId, .release) = some operation ∧
        Returned result.orderId operation result

def CreditEvent.about : CreditEvent → OrderId
  | .creditsReserved orderId _ _ => orderId
  | .creditReservationRejected orderId _ _ _ _ => orderId
  | .creditsTransferred result => result.orderId
  | .creditsReleased result => result.orderId

/-- A settlement is of a live reservation that names its requester and amount. -/
def Backs (operations : AList fun _ : OrderId × OperationType => Operation) (orderId : OrderId)
    (operation : Operation) : Prop :=
  ∃ reservation transactionId, operations.lookup (orderId, .reserve) = some reservation ∧
    reservation.outcome = .succeeded transactionId ∧
    reservation.requesterId = operation.requesterId ∧ reservation.amount = operation.amount ∧
    operation.courierId ≠ some operation.requesterId

structure Records (tables : Tables) : Prop where
  finished : ∀ key operation, tables.operations.lookup key = some operation →
    Finished key operation
  moved : ∀ key operation transactionId, tables.operations.lookup key = some operation →
    operation.outcome = .succeeded transactionId →
    tables.transactions.lookup transactionId = some (movement key operation)
  caused : ∀ transactionId row orderId, tables.transactions.lookup transactionId = some row →
    row.orderId = some orderId → ∃ operationType operation,
      tables.operations.lookup (orderId, operationType) = some operation ∧
        operation.outcome = .succeeded transactionId
  once : ∀ orderId operation, tables.operations.lookup (orderId, .transfer) = some operation →
    tables.operations.lookup (orderId, .release) = none
  backed : ∀ key operation, tables.operations.lookup key = some operation → key.2 ≠ .reserve →
    Backs tables.operations key.1 operation
  told : ∀ row ∈ tables.outbox,
    row.aggregateId = CreditEvent.about row.payload ∧ Tells tables.operations row.payload

theorem empty_records : Records .empty := by
  constructor <;> simp [Tables.empty]

variable {tables after : Tables} {request : Request} {outcome : Outcome}

/-! ## New records -/

/-- Operations are only ever added. -/
def Later (operations later : AList fun _ : OrderId × OperationType => Operation) : Prop :=
  ∀ key operation, operations.lookup key = some operation → later.lookup key = some operation

theorem later_refl (operations : AList fun _ : OrderId × OperationType => Operation) :
    Later operations operations := fun _ _ found => found

theorem later_insert {operations : AList fun _ : OrderId × OperationType => Operation}
    {key : OrderId × OperationType} {operation : Operation}
    (absent : operations.lookup key = none) :
    Later operations (operations.insert key operation) := by
  intro other found there
  have differs : other ≠ key := by
    rintro rfl
    rw [absent] at there
    cases there
  rwa [AList.lookup_insert_ne differs]

theorem backs_later {operations later : AList fun _ : OrderId × OperationType => Operation}
    (onward : Later operations later) {orderId : OrderId} {operation : Operation}
    (backs : Backs operations orderId operation) : Backs later orderId operation := by
  obtain ⟨reservation, transactionId, found, rest⟩ := backs
  exact ⟨reservation, transactionId, onward _ _ found, rest⟩

/-- What a reply told stays true. -/
theorem tells_later {operations later : AList fun _ : OrderId × OperationType => Operation}
    (onward : Later operations later) {event : CreditEvent} (tells : Tells operations event) :
    Tells later event := by
  cases event with
  | creditsReserved orderId requesterId amount =>
      obtain ⟨operation, transactionId, found, rest⟩ := tells
      exact ⟨operation, transactionId, onward _ _ found, rest⟩
  | creditReservationRejected orderId requesterId amount reason available =>
      obtain ⟨operation, found, rest⟩ := tells
      exact ⟨operation, onward _ _ found, rest⟩
  | creditsTransferred result =>
      obtain ⟨operation, found, rest⟩ := tells
      exact ⟨operation, onward _ _ found, rest⟩
  | creditsReleased result =>
      obtain ⟨operation, found, rest⟩ := tells
      exact ⟨operation, onward _ _ found, rest⟩

/-- A commit that records nothing but replies, which tell what is recorded. -/
theorem records_replied (records : Records tables)
    (operations : after.operations = tables.operations)
    (transactions : after.transactions = tables.transactions)
    (replies : ∀ row ∈ after.outbox, row ∈ tables.outbox ∨
      row.aggregateId = CreditEvent.about row.payload ∧ Tells tables.operations row.payload) :
    Records after := by
  constructor
  · rw [operations]
    exact records.finished
  · rw [operations, transactions]
    exact records.moved
  · rw [operations, transactions]
    exact records.caused
  · rw [operations]
    exact records.once
  · rw [operations]
    exact records.backed
  · rw [operations]
    intro row member
    exact (replies row member).elim (records.told row) id

/-- An operation recorded with the transaction that it is about, if it succeeded. -/
structure Recording (tables after : Tables) (key : OrderId × OperationType)
    (operation : Operation) : Prop where
  absent : tables.operations.lookup key = none
  operations : after.operations = tables.operations.insert key operation
  finished : Finished key operation
  transactions : after.transactions = tables.transactions ∧
      (∀ transactionId, operation.outcome ≠ .succeeded transactionId) ∨
    ∃ transactionId, operation.outcome = .succeeded transactionId ∧
      tables.transactions.lookup transactionId = none ∧
      after.transactions = tables.transactions.insert transactionId (movement key operation)
  alone : key.2 ≠ .reserve →
    findTerminalOperation tables key.1 = none ∧ Backs tables.operations key.1 operation
  replies : ∀ row ∈ after.outbox, row ∈ tables.outbox ∨
    row.aggregateId = CreditEvent.about row.payload ∧ Tells after.operations row.payload

/-- What is recorded of an operation afterwards: the new one, or what there was. -/
theorem recording_lookup {key other : OrderId × OperationType} {operation found : Operation}
    (recording : Recording tables after key operation)
    (there : after.operations.lookup other = some found) :
    other = key ∧ found = operation ∨
      other ≠ key ∧ tables.operations.lookup other = some found := by
  rw [recording.operations] at there
  by_cases same : other = key
  · subst same
    rw [AList.lookup_insert] at there
    exact .inl ⟨rfl, (Option.some.inj there).symm⟩
  · rw [AList.lookup_insert_ne same] at there
    exact .inr ⟨same, there⟩

theorem recording_later {key : OrderId × OperationType} {operation : Operation}
    (recording : Recording tables after key operation) :
    Later tables.operations after.operations := by
  rw [recording.operations]
  exact later_insert recording.absent

theorem recording_kept {key : OrderId × OperationType} {operation : Operation}
    (recording : Recording tables after key operation) {transactionId : TransactionId}
    {row : CreditTransaction} (there : tables.transactions.lookup transactionId = some row) :
    after.transactions.lookup transactionId = some row := by
  rcases recording.transactions with ⟨same, -⟩ | ⟨drawn, -, fresh, inserted⟩
  · rwa [same]
  · have differs : transactionId ≠ drawn := by
      rintro rfl
      rw [fresh] at there
      cases there
    rwa [inserted, AList.lookup_insert_ne differs]

theorem records_recording {key : OrderId × OperationType} {operation : Operation}
    (records : Records tables) (recording : Recording tables after key operation) :
    Records after := by
  have here : after.operations.lookup key = some operation := by
    rw [recording.operations, AList.lookup_insert]
  constructor
  · intro other found there
    rcases recording_lookup recording there with ⟨rfl, rfl⟩ | ⟨-, old⟩
    · exact recording.finished
    · exact records.finished other found old
  · intro other found transactionId there succeeded
    rcases recording_lookup recording there with ⟨rfl, rfl⟩ | ⟨-, old⟩
    · rcases recording.transactions with ⟨-, failed⟩ | ⟨drawn, drew, -, inserted⟩
      · exact absurd succeeded (failed transactionId)
      · cases drew.symm.trans succeeded
        rw [inserted, AList.lookup_insert]
    · exact recording_kept recording (records.moved other found transactionId old succeeded)
  · intro transactionId row orderId there named
    have old (before : tables.transactions.lookup transactionId = some row) :
        ∃ operationType found,
          after.operations.lookup (orderId, operationType) = some found ∧
            found.outcome = .succeeded transactionId := by
      obtain ⟨operationType, found, recorded, succeeded⟩ :=
        records.caused transactionId row orderId before named
      exact ⟨operationType, found, recording_later recording _ _ recorded, succeeded⟩
    rcases recording.transactions with ⟨same, -⟩ | ⟨drawn, drew, -, inserted⟩
    · exact old (same ▸ there)
    · by_cases new : transactionId = drawn
      · subst new
        rw [inserted, AList.lookup_insert] at there
        cases there
        cases named
        exact ⟨key.2, operation, here, drew⟩
      · rw [inserted, AList.lookup_insert_ne new] at there
        exact old there
  · intro orderId found there
    rcases recording_lookup recording there with ⟨is, -⟩ | ⟨-, old⟩
    · subst is
      have free := find_terminal_none (recording.alone (by simp)).1
      rw [recording.operations, AList.lookup_insert_ne (by simp)]
      exact free.1
    · rw [recording.operations]
      by_cases same : (orderId, OperationType.release) = key
      · subst same
        have free := find_terminal_none (recording.alone (by simp)).1
        rw [free.2] at old
        cases old
      · rw [AList.lookup_insert_ne same]
        exact records.once orderId found old
  · intro other found there settles
    rcases recording_lookup recording there with ⟨rfl, rfl⟩ | ⟨-, old⟩
    · exact backs_later (recording_later recording) (recording.alone settles).2
    · exact backs_later (recording_later recording) (records.backed other found old settles)
  · intro row member
    rcases recording.replies row member with old | new
    · obtain ⟨named, tells⟩ := records.told row old
      exact ⟨named, tells_later (recording_later recording) tells⟩
    · exact new

/-! ## What a commit records -/

theorem same_parts {operation : Operation} {input : ReservationInput}
    (same : operation.differs input = false) :
    operation.requesterId = input.requesterId ∧ operation.amount = input.amount := by
  simpa [Operation.differs] using same

theorem other_parts {operation : Operation} {input : ReservationInput}
    (differs : operation.differs input = true) :
    operation.requesterId ≠ input.requesterId ∨ operation.amount ≠ input.amount := by
  simpa [Operation.differs] using differs

/-- The answer to a reservation is about what is recorded. -/
theorem reply_tells {operations : AList fun _ : OrderId × OperationType => Operation}
    {input : ReservationInput} {operation : Operation} {outcome : ReservationOutcome}
    (found : operations.lookup (input.orderId, .reserve) = some operation)
    (same : operation.requesterId = input.requesterId ∧ operation.amount = input.amount)
    (recorded : recordedOutcome operation.outcome = some outcome) :
    Tells operations (reservationReply input outcome).payload := by
  cases is : operation.outcome with
  | pending =>
      rw [is] at recorded
      cases recorded
  | succeeded transactionId =>
      rw [is] at recorded
      cases recorded
      exact ⟨operation, transactionId, found, same.1, same.2, is⟩
  | rejected reason available =>
      rw [is] at recorded
      cases recorded
      exact ⟨operation, found, .inr ⟨same.1, same.2, reason, available, is, rfl, rfl⟩⟩

theorem reply_about (input : ReservationInput) (outcome : ReservationOutcome) :
    (reservationReply input outcome).aggregateId =
      CreditEvent.about (reservationReply input outcome).payload := by
  cases outcome <;> rfl

theorem reserve_records {input : ReservationInput} {transactionId : TransactionId}
    {outcome : ReservationOutcome} (records : Records tables)
    (reserved : Reserved tables input transactionId outcome after) : Records after := by
  cases reserved with
  | conflict operation found differs =>
      refine records_replied records rfl rfl fun row member => ?_
      rcases List.mem_append.mp member with old | new
      · exact .inl old
      · rw [List.mem_singleton.mp new]
        exact .inr ⟨rfl, operation, found, .inl ⟨rfl, other_parts differs⟩⟩
  | replay operation outcome found same recorded =>
      refine records_replied records rfl rfl fun row member => ?_
      rcases List.mem_append.mp member with old | new
      · exact .inl old
      · rw [List.mem_singleton.mp new]
        exact .inr ⟨reply_about input _, reply_tells found (same_parts same) recorded⟩
  | refuse reason available absent =>
      refine records_recording records
        ⟨absent, rfl, by simp [Finished], .inl ⟨rfl, by simp⟩, by simp, fun row member => ?_⟩
      rcases List.mem_append.mp member with old | new
      · exact .inl old
      · rw [List.mem_singleton.mp new]
        refine .inr ⟨rfl, ?_⟩
        exact reply_tells (AList.lookup_insert _) ⟨rfl, rfl⟩ rfl
  | reserve wallet absent positive ranged held nonneg fresh =>
      refine records_recording records
        ⟨absent, rfl, by simp [Finished], .inr ⟨transactionId, rfl, fresh, rfl⟩, by simp,
          fun row member => ?_⟩
      rcases List.mem_append.mp member with old | new
      · exact .inl old
      · rw [List.mem_singleton.mp new]
        refine .inr ⟨rfl, ?_⟩
        exact reply_tells (AList.lookup_insert _) ⟨rfl, rfl⟩ rfl

/-- A refusal that read its balance in a statement of its own. -/
theorem refuse_records {input : ReservationInput} {reason : RecordedRejection}
    {available : Option Int} (records : Records tables)
    (absent : tables.operations.lookup (input.orderId, .reserve) = none) :
    Records (tables.settle (input.orderId, .reserve)
      { pendingOperation input.requesterId none input.amount with
        outcome := .rejected reason available }
      (reservationReply input (.rejected reason.reason available))) := by
  refine records_recording records
    ⟨absent, rfl, by simp [Finished], .inl ⟨rfl, by simp⟩, by simp, fun row member => ?_⟩
  rcases List.mem_append.mp member with old | new
  · exact .inl old
  · rw [List.mem_singleton.mp new]
    refine .inr ⟨rfl, ?_⟩
    exact reply_tells (AList.lookup_insert _) ⟨rfl, rfl⟩ rfl

theorem terminal_lookup {orderId : OrderId} {operationType : OperationType} {prior : Operation}
    (found : findTerminalOperation tables orderId = some (operationType, prior)) :
    tables.operations.lookup (orderId, operationType) = some prior := by
  unfold findTerminalOperation at found
  split at found
  · rename_i operation released
    cases found
    exact released
  · obtain ⟨operation, transferred, is⟩ := Option.map_eq_some_iff.mp found
    cases is
    exact transferred

/-- A replayed result is that of the recorded transfer. -/
theorem paid_result {orderId : OrderId} {operation : Operation} {result other : TransferResult}
    (paid : Paid orderId operation result)
    (recorded : operation.resultPayload = some (.transferred other)) : other = result := by
  have same := paid.payload.symm.trans recorded
  simp only [Option.some.injEq, ResultPayload.transferred.injEq] at same
  exact same.symm

theorem returned_result {orderId : OrderId} {operation : Operation}
    {result other : ReleaseResult} {payload : ResultPayload}
    (returned : Returned orderId operation result)
    (recorded : operation.resultPayload = some payload)
    (parsed : parseReleased payload = .ok other) : other = result := by
  cases returned.payload.symm.trans recorded
  simp only [parseReleased] at parsed
  split at parsed
  · cases parsed
    rfl
  · cases parsed

/-- A reservation that may be settled backs the settlement. -/
theorem settleable_backs {input : ReservationInput} {reservation : Operation}
    {courierId : Option UserId} {transactionId : TransactionId} {result : ResultPayload}
    (settleable : Settleable tables input reservation)
    (differs : courierId ≠ some input.requesterId) :
    Backs tables.operations input.orderId
      (settledOperation input courierId transactionId result) := by
  obtain ⟨⟨reservationId, succeeded⟩, requester, amount⟩ := valid_reservation settleable.valid
  exact ⟨reservation, reservationId, settleable.found, succeeded, requester, amount, differs⟩

theorem transfer_records {input : TransferInput} {transactionId : TransactionId}
    {outcome : TransferOutcome} (records : Records tables)
    (transferred : Transferred tables input transactionId outcome after) : Records after := by
  cases transferred with
  | invalid | participants | conflict =>
      exact records_replied records rfl rfl fun row member => .inl member
  | replay prior result found same recorded =>
      refine records_replied records rfl rfl fun row member => ?_
      rcases List.mem_append.mp member with old | new
      · exact .inl old
      · rw [List.mem_singleton.mp new]
        have there := terminal_lookup found
        obtain ⟨kept, paid⟩ := records.finished _ prior there
        obtain rfl := paid_result paid recorded
        refine .inr ⟨paid.order.symm, prior, ?_, ?_⟩
        · rw [paid.order]
          exact there
        · rw [paid.order]
          exact paid
  | transfer reservation requester courier settleable different positive heldRequester
      heldCourier nonneg fresh =>
      refine records_recording records
        ⟨(find_terminal_none settleable.unsettled).2, rfl, ⟨_, rfl, rfl, rfl, rfl, rfl, rfl⟩,
          .inr ⟨transactionId, rfl, fresh, rfl⟩, fun _ => ⟨settleable.unsettled,
            settleable_backs settleable fun same => different (Option.some.inj same).symm⟩,
          fun row member => ?_⟩
      rcases List.mem_append.mp member with old | new
      · exact .inl old
      · rw [List.mem_singleton.mp new]
        exact .inr ⟨rfl, _, AList.lookup_insert _, ⟨rfl, rfl, rfl, rfl, rfl, rfl⟩⟩

theorem release_records {input : ReleaseInput} {transactionId : TransactionId}
    {outcome : ReleaseOutcome} (records : Records tables)
    (released : Released tables input transactionId outcome after) : Records after := by
  cases released with
  | invalid | conflict =>
      exact records_replied records rfl rfl fun row member => .inl member
  | replay prior payload result found same recorded parsed =>
      refine records_replied records rfl rfl fun row member => ?_
      rcases List.mem_append.mp member with old | new
      · exact .inl old
      · rw [List.mem_singleton.mp new]
        have there := terminal_lookup found
        obtain ⟨kept, returned⟩ := records.finished _ prior there
        obtain rfl := returned_result returned recorded parsed
        refine .inr ⟨returned.order.symm, prior, ?_, ?_⟩
        · rw [returned.order]
          exact there
        · rw [returned.order]
          exact returned
  | release reservation requester settleable positive held nonneg fresh =>
      refine records_recording records
        ⟨(find_terminal_none settleable.unsettled).1, rfl, ⟨_, rfl, rfl, rfl, rfl, rfl⟩,
          .inr ⟨transactionId, rfl, fresh, rfl⟩,
          fun _ => ⟨settleable.unsettled, settleable_backs settleable (by simp)⟩,
          fun row member => ?_⟩
      rcases List.mem_append.mp member with old | new
      · exact .inl old
      · rw [List.mem_singleton.mp new]
        exact .inr ⟨rfl, _, AList.lookup_insert _, ⟨rfl, rfl, rfl, rfl, rfl⟩⟩

/-- A wallet's first credit is of no order. -/
theorem issue_records {userId : UserId} {initialAllocation : Int} {transactionId : TransactionId}
    {created : Bool} (records : Records tables)
    (issued : Issued tables userId initialAllocation transactionId created after) :
    Records after := by
  cases issued with
  | known => exact records
  | issue absent positive fresh =>
      refine ⟨records.finished, ?_, ?_, records.once, records.backed, records.told⟩
      · intro key operation other there succeeded
        have before := records.moved key operation other there succeeded
        have differs : other ≠ transactionId := by
          rintro rfl
          rw [fresh] at before
          cases before
        simpa [Tables.book, Tables.hold, AList.lookup_insert_ne differs] using before
      · intro other row orderId there named
        by_cases same : other = transactionId
        · subst same
          simp only [Tables.book, Tables.hold, AList.lookup_insert, Option.some.injEq] at there
          subst there
          cases named
        · simp only [Tables.book, Tables.hold, AList.lookup_insert_ne same] at there
          exact records.caused other row orderId there named

theorem lands_records (records : Records tables) (lands : Lands tables request outcome after) :
    Records after := by
  cases lands with
  | issue issued => exact issue_records records issued
  | reserve reserved => exact reserve_records records reserved
  | refuse reason available absent => exact refuse_records records absent
  | transfer transferred => exact transfer_records records transferred
  | release released => exact release_records records released

end Foc.Credit.Interleaving
