import Foc.Agreement.Errands
import Mathlib

/-!
A commit of Credit's keeps the agreement. A request that Order made is of an errand as it is,
so nothing that Credit recorded before can contradict it.
-/
namespace Foc.Agreement
open Library Library.Serial Library.UuidText
open Library.ReadCommitted (Store)
open Foc.Order (Key Row StoredOrder WrittenId Uuid idText written)
open Foc.Credit (Tables OperationType Operation Outcome ReservationInput findTerminalOperation
  validateReservation)
open Foc.Credit.Interleaving (Request Lands Later)

variable {view : View Row} {tables after : Tables} {request : Request} {outcome : Outcome}
  {input : ReservationInput} {row : StoredOrder} {operation : Operation}

/-! ## Requests -/

/-- A request names an errand, its requester and its reward. -/
structure Of (view : View Row) (input : ReservationInput) (row : StoredOrder) : Prop where
  found : view (.order row.orderId) = some row
  text : input.orderId = idText row.orderId
  requester : input.requesterId = row.requesterId
  amount : input.amount = row.reward

/-- And a settlement is of one that it is to settle so. -/
def Requests (view : View Row) : Request → Prop
  | .issueInitial _ _ => True
  | .reserve input => ∃ row, Of view input row
  | .transfer input => ∃ row, Of view input.toReservationInput row ∧
      row.courierId = some input.courierId ∧ completes row.status = true
  | .release input => ∃ row, Of view input row ∧ closes row.status = true

theorem read_requests {eventId : Uuid} {event : Order.OutboxEvent}
    (named : ∀ id row, view (.order id) = some row → Named id row)
    (asks : Asks view event.payload) (read : readRequest eventId event = some request) :
    Requests view request := by
  unfold readRequest at read
  cases payload : event.payload with
  | statusChanged =>
      simp only [payload] at read
      cases read
  | reservationRequested orderId requesterId amount =>
      rw [payload] at asks
      simp only [payload] at read
      split at read
      · obtain ⟨row, found, requester, reward⟩ := asks
        have own := (named _ row found).own
        cases read
        exact ⟨row, own ▸ found, congrArg idText own.symm, requester, reward⟩
      · cases read
  | completionRequested orderId requesterId courierId amount =>
      rw [payload] at asks
      simp only [payload] at read
      split at read
      · obtain ⟨row, found, requester, reward, courier, done⟩ := asks
        have own := (named _ row found).own
        cases read
        exact ⟨row, ⟨own ▸ found, congrArg idText own.symm, requester, reward⟩, courier, done⟩
      · cases read
  | releaseRequested orderId requesterId amount =>
      rw [payload] at asks
      simp only [payload] at read
      split at read
      · obtain ⟨row, found, requester, reward, done⟩ := asks
        have own := (named _ row found).own
        cases read
        exact ⟨row, ⟨own ▸ found, congrArg idText own.symm, requester, reward⟩, done⟩
      · cases read

/-- Whatever Credit starts, Order asked for. -/
theorem asked_requests {orders : Store Row} (agrees : Agrees orders.lookup tables)
    (requested : asked orders request = true) : Requests orders.lookup request := by
  unfold asked at requested
  split at requested
  · trivial
  · obtain ⟨⟨key, event⟩, member, read⟩ := List.any_eq_true.mp requested
    cases key with
    | outbox eventId =>
        have there : orders.lookup (.outbox eventId) = some event :=
          AList.mem_lookup_iff.mpr member
        exact read_requests agrees.named (agrees.asks eventId event there) (of_decide_eq_true read)
    | _ => cases read

theorem of_onward {later : View Row} (named : ∀ id row, later (.order id) = some row → Named id row)
    (onward : ∀ id row, view (.order id) = some row →
      ∃ next, later (.order id) = some next ∧ Onward row next)
    (asker : Of view input row) : ∃ next, Of later input next ∧ Onward row next := by
  obtain ⟨next, there, on⟩ := onward _ row asker.found
  have own := (named _ next there).own
  refine ⟨next, ⟨own ▸ there, ?_, asker.requester.trans on.requester.symm,
    asker.amount.trans on.reward.symm⟩, on⟩
  rw [own]
  exact asker.text

/-- A request under way is still of its errand, whatever Order commits. -/
theorem requests_onward {later : View Row}
    (named : ∀ id row, later (.order id) = some row → Named id row)
    (onward : ∀ id row, view (.order id) = some row →
      ∃ next, later (.order id) = some next ∧ Onward row next)
    (requests : Requests view request) : Requests later request := by
  cases request with
  | issueInitial => trivial
  | reserve input =>
      obtain ⟨row, asker⟩ := requests
      obtain ⟨next, still, -⟩ := of_onward named onward asker
      exact ⟨next, still⟩
  | transfer input =>
      obtain ⟨row, asker, courier, done⟩ := requests
      obtain ⟨next, still, on⟩ := of_onward named onward asker
      obtain ⟨stays, same⟩ := on.completes done
      exact ⟨next, still, same.trans courier, stays⟩
  | release input =>
      obtain ⟨row, asker, done⟩ := requests
      obtain ⟨next, still, on⟩ := of_onward named onward asker
      exact ⟨next, still, on.closes done⟩

/-! ## What is recorded of the errand -/

/-- What Credit has recorded of the errand is of the same requester and reward. -/
theorem of_recorded (agrees : Agrees view tables) (asker : Of view input row)
    {operationType : OperationType}
    (found : tables.operations.lookup (input.orderId, operationType) = some operation) :
    operation.differs input = false ∧
      (operationType = .transfer →
        operation.courierId = row.courierId ∧ completes row.status = true) ∧
      (operationType = .release → closes row.status = true) := by
  obtain ⟨id, other, text, there, requester, amount, transfers, releases⟩ :=
    agrees.recorded _ operation found
  have named := agrees.named id other there
  have same : id = row.orderId := by
    apply id_text_inj named.versioned (agrees.named _ row asker.found).versioned
    exact text.symm.trans asker.text
  subst same
  cases there.symm.trans asker.found
  refine ⟨?_, transfers, releases⟩
  simp [Credit.Operation.differs, requester.trans asker.requester.symm,
    amount.trans asker.amount.symm]

/-- Whoever asks for a settlement has the reward set aside. -/
theorem settling_reserved (backed : Backed tables row)
    (settling : completes row.status = true ∨ closes row.status = true) : Reserved tables row := by
  unfold Backed at backed
  cases status : row.status <;> rw [status] at backed settling
  case completionPendingCredit | releasePendingCredit => exact backed
  case completed | cancelled | expired => exact backed.1
  all_goals simp [completes, closes] at settling

theorem of_valid (agrees : Agrees view tables) (asker : Of view input row)
    (settling : completes row.status = true ∨ closes row.status = true)
    (found : tables.operations.lookup (input.orderId, .reserve) = some operation) :
    validateReservation operation input = none := by
  obtain ⟨reservation, transactionId, stored, -, -, succeeded⟩ :=
    settling_reserved (agrees.backed _ row asker.found) settling
  rw [recordOf, ← asker.text, found] at stored
  cases stored
  have same := (of_recorded agrees asker found).1
  simp [validateReservation, succeeded, Credit.OperationOutcome.transactionId, same]

/-- The terminal operation of an order, by its kind. -/
theorem terminal_kind {prior : OperationType × Operation} {orderId : Credit.OrderId}
    (found : findTerminalOperation tables orderId = some prior) :
    (prior.1 = .transfer ∨ prior.1 = .release) ∧
      tables.operations.lookup (orderId, prior.1) = some prior.2 := by
  refine ⟨?_, Credit.Interleaving.terminal_lookup found⟩
  unfold findTerminalOperation at found
  split at found
  · cases found
    exact .inr rfl
  · obtain ⟨operation, -, is⟩ := Option.map_eq_some_iff.mp found
    cases is
    exact .inl rfl

theorem completes_open {status : Order.OrderStatus} (done : completes status = true) :
    closes status = false := by
  cases status <;> first | rfl | cases done

/-! ## Commits -/

theorem reserved_later (later : Later tables.operations after.operations)
    (reserved : Reserved tables row) : Reserved after row := by
  obtain ⟨reservation, transactionId, found, rest⟩ := reserved
  exact ⟨reservation, transactionId, later _ _ found, rest⟩

/-- What Credit recorded, it does not take back. -/
theorem backed_later (later : Later tables.operations after.operations)
    (backed : Backed tables row) : Backed after row := by
  have restored : Restored tables row → Restored after row := by
    rintro ⟨transactionId, ⟨operation, result, found, rest⟩, named⟩
    exact ⟨transactionId, ⟨operation, result, later _ _ found, rest⟩, named⟩
  unfold Backed at backed ⊢
  cases status : row.status <;> rw [status] at backed
  case pendingCredit => trivial
  case rejected =>
      obtain ⟨refusal, ⟨operation, recorded, held, found, rest⟩, named⟩ := backed
      exact ⟨refusal, ⟨operation, recorded, held, later _ _ found, rest⟩, named⟩
  case completed =>
      obtain ⟨reserved, transactionId, ⟨operation, result, found, rest⟩, named⟩ := backed
      exact ⟨reserved_later later reserved, transactionId,
        ⟨operation, result, later _ _ found, rest⟩, named⟩
  case cancelled | expired => exact ⟨reserved_later later backed.1, restored backed.2⟩
  all_goals exact reserved_later later backed

/-- A commit that records at most one operation, of an errand as it is, and reports nothing. -/
structure Settled (view : View Row) (tables after : Tables) : Prop where
  recorded : after.operations = tables.operations ∨ ∃ key operation,
    after.operations = tables.operations.insert key operation ∧ Recorded view key operation
  quiet : after.alerts = tables.alerts
  replies : ∀ row ∈ after.outbox, row ∈ tables.outbox ∨ ¬ conflicting row.payload

theorem settled_agrees (agrees : Agrees view tables)
    (later : Later tables.operations after.operations) (settled : Settled view tables after) :
    Agrees view after where
  named := agrees.named
  backed := fun id row found => backed_later later (agrees.backed id row found)
  asks := agrees.asks
  recorded := by
    intro key operation found
    rcases settled.recorded with same | ⟨other, added, inserted, recorded⟩
    · exact agrees.recorded key operation (same ▸ found)
    · rw [inserted] at found
      by_cases here : key = other
      · subst here
        rw [AList.lookup_insert] at found
        cases found
        exact recorded
      · rw [AList.lookup_insert_ne here] at found
        exact agrees.recorded key operation found
  quiet := settled.quiet.trans agrees.quiet
  civil := by
    intro row member
    exact (settled.replies row member).elim (agrees.civil row) id

theorem last_reply {outbox : List Credit.OutboxRow} {reply : Credit.OutboxRow}
    (civil : ¬ conflicting reply.payload) :
    ∀ row ∈ outbox ++ [reply], row ∈ outbox ∨ ¬ conflicting row.payload := by
  intro row member
  rcases List.mem_append.mp member with old | new
  · exact .inl old
  · cases List.mem_singleton.mp new
    exact .inr civil

theorem civil_outcome {recorded : Credit.OperationOutcome} {outcome : Credit.ReservationOutcome}
    (answered : Credit.recordedOutcome recorded = some outcome) :
    ¬ conflicting (Credit.reservationReply input outcome).payload := by
  cases recorded with
  | pending => cases answered
  | succeeded transactionId =>
      cases answered
      exact fun conflict => conflict
  | rejected reason available =>
      cases answered
      intro conflict
      cases reason <;> cases conflict

theorem reserve_settled (agrees : Agrees view tables) (asker : Of view input row)
    {transactionId : Credit.TransactionId} {outcome : Credit.ReservationOutcome}
    (reserved : Credit.Reserved tables input transactionId outcome after) :
    Settled view tables after := by
  have recorded : ∀ outcome : Credit.OperationOutcome, Recorded view (input.orderId, .reserve)
      { Credit.pendingOperation input.requesterId none input.amount with outcome } := by
    intro outcome
    exact ⟨row.orderId, row, asker.text, asker.found, asker.requester, asker.amount, by simp,
      by simp⟩
  cases reserved with
  | conflict operation found differs =>
      rw [(of_recorded agrees asker found).1] at differs
      cases differs
  | replay operation outcome found same answered =>
      exact ⟨.inl rfl, rfl, last_reply (civil_outcome answered)⟩
  | refuse reason available absent =>
      exact ⟨.inr ⟨_, _, rfl, recorded _⟩, rfl,
        last_reply (@civil_outcome input (.rejected reason available) _ rfl)⟩
  | reserve wallet absent =>
      exact ⟨.inr ⟨_, _, rfl, recorded _⟩, rfl, last_reply fun conflict => conflict⟩

theorem refuse_settled (asker : Of view input row) {reason : Credit.RecordedRejection}
    {available : Option Int} :
    Settled view tables (tables.settle (input.orderId, .reserve)
      { Credit.pendingOperation input.requesterId none input.amount with
        outcome := .rejected reason available }
      (Credit.reservationReply input (.rejected reason.reason available))) := by
  refine ⟨.inr ⟨_, _, rfl, row.orderId, row, asker.text, asker.found, asker.requester,
    asker.amount, by simp, by simp⟩, rfl, ?_⟩
  exact last_reply (@civil_outcome input (.rejected reason available) _ rfl)

theorem transfer_settled (agrees : Agrees view tables) {input : Credit.TransferInput}
    (asker : Of view input.toReservationInput row) (courier : row.courierId = some input.courierId)
    (done : completes row.status = true) {transactionId : Credit.TransactionId}
    {outcome : Credit.TransferOutcome}
    (transferred : Credit.Transferred tables input transactionId outcome after) :
    Settled view tables after := by
  cases transferred with
  | invalid reservation reason details found invalid =>
      rw [of_valid agrees asker (.inl done) found] at invalid
      cases invalid
  | participants same =>
      have apart := (agrees.named _ row asker.found).apart
      rw [courier, ← same, asker.requester] at apart
      exact absurd rfl apart
  | conflict prior found differs =>
      obtain ⟨kind, there⟩ := terminal_kind found
      obtain ⟨same, transfers, releases⟩ := of_recorded agrees asker there
      rcases kind with transfer | release
      · rcases differs with other | other | other
        · exact absurd transfer other
        · rw [same] at other
          cases other
        · exact absurd ((transfers transfer).1.trans courier) other
      · have closed := releases release
        rw [completes_open done] at closed
        cases closed
  | replay prior result found same recorded =>
      exact ⟨.inl rfl, rfl, last_reply fun conflict => conflict⟩
  | transfer reservation requester payee settleable =>
      refine ⟨.inr ⟨_, _, rfl, row.orderId, row, asker.text, asker.found, asker.requester,
        asker.amount, fun _ => ⟨courier.symm, done⟩, by simp⟩, rfl, ?_⟩
      exact last_reply fun conflict => conflict

theorem release_settled (agrees : Agrees view tables) (asker : Of view input row)
    (done : closes row.status = true) {transactionId : Credit.TransactionId}
    {outcome : Credit.ReleaseOutcome}
    (released : Credit.Released tables input transactionId outcome after) :
    Settled view tables after := by
  cases released with
  | invalid reservation reason details found invalid =>
      rw [of_valid agrees asker (.inr done) found] at invalid
      cases invalid
  | conflict prior found differs =>
      obtain ⟨kind, there⟩ := terminal_kind found
      obtain ⟨same, transfers, -⟩ := of_recorded agrees asker there
      rcases kind with transfer | release
      · have open_ := completes_open (transfers transfer).2
        rw [done] at open_
        cases open_
      · rcases differs with other | other
        · exact absurd release other
        · rw [same] at other
          cases other
  | replay prior payload result found same recorded parsed =>
      exact ⟨.inl rfl, rfl, last_reply fun conflict => conflict⟩
  | release reservation requester settleable =>
      refine ⟨.inr ⟨_, _, rfl, row.orderId, row, asker.text, asker.found, asker.requester,
        asker.amount, by simp, fun _ => done⟩, rfl, ?_⟩
      exact last_reply fun conflict => conflict

theorem lands_settled (agrees : Agrees view tables) (requests : Requests view request)
    (lands : Lands tables request outcome after) : Settled view tables after := by
  cases lands with
  | issue issued =>
      cases issued with
      | known | issue => exact ⟨.inl rfl, rfl, fun row member => .inl member⟩
  | reserve reserved =>
      obtain ⟨row, asker⟩ := requests
      exact reserve_settled agrees asker reserved
  | refuse reason available absent =>
      obtain ⟨row, asker⟩ := requests
      exact refuse_settled asker
  | transfer transferred =>
      obtain ⟨row, asker, courier, done⟩ := requests
      exact transfer_settled agrees asker courier done transferred
  | release released =>
      obtain ⟨row, asker, done⟩ := requests
      exact release_settled agrees asker done released

/-- What a commit of Credit's leaves. -/
theorem lands_agree (agrees : Agrees view tables) (requests : Requests view request)
    (lands : Lands tables request outcome after) : Agrees view after :=
  settled_agrees agrees (Credit.Interleaving.lands_later lands)
    (lands_settled agrees requests lands)

end Foc.Agreement
