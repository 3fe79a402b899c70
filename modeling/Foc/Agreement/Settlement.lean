import Foc.Agreement.Standing
import Foc.Credit.Status
import Mathlib

/-!
What the system tests check of the two services, in every state they reach together: what
Credit has recorded for an errand is what the errand's status says, and nothing that either
was told ever contradicted what it had.
-/
namespace Foc.Agreement
open Library Library.EventLoop Library.UuidText
open Foc.Order (Key Row StoredOrder OrderStatus Settings Micros UserId Uuid idText)
open Foc.Credit (Tables OperationType TransactionType)
open Foc.Credit.Interleaving (Records transactionsFor did undone done_did refused_did
  transactions_are)

/-! ## What an errand's status says of it -/

/-- What Credit must have recorded for an order Order shows in each state. Scenarios dispute
nothing, so a disputed order has no entry. -/
def expected : OrderStatus → List (List TransactionType)
  | .pendingCredit => [[], [.reserve]]
  | .rejected => [[]]
  | .opened | .accepted | .pickedUp | .delivered => [[.reserve]]
  | .completionPendingCredit => [[.reserve], [.reserve, .transfer]]
  | .releasePendingCredit => [[.reserve], [.reserve, .release]]
  | .completed => [[.reserve, .transfer]]
  | .cancelled | .expired => [[.reserve, .release]]
  | .disputed => []

section Errands

variable {tables : Tables} {view : Serial.View Row} {row : StoredOrder} {id : Uuid}

/-- Credit settles an errand only as it is being settled. -/
theorem unsettled (agrees : Agrees view tables) (found : view (.order row.orderId) = some row)
    {operationType : OperationType} (terminal : operationType ≠ .reserve)
    (paying : operationType = .transfer → completes row.status = false)
    (closing : operationType = .release → closes row.status = false) :
    recordOf tables row.orderId operationType = none := by
  cases there : recordOf tables row.orderId operationType with
  | none => rfl
  | some operation =>
      have named := agrees.named _ row found
      obtain ⟨other, errand, text, present, -, -, transfers, releases⟩ :=
        agrees.recorded (idText row.orderId, operationType) operation there
      have same : row.orderId = other := by
        apply id_text_inj named.versioned (agrees.named other errand present).versioned text
      subst same
      cases present.symm.trans found
      cases operationType with
      | reserve => exact absurd rfl terminal
      | transfer =>
          have done := (transfers rfl).2
          rw [paying rfl] at done
          cases done
      | release =>
          have done := releases rfl
          rw [closing rfl] at done
          cases done

theorem reserved_did (reserved : Reserved tables row) :
    did tables (idText row.orderId) .reserve = true := by
  obtain ⟨operation, transactionId, found, -, -, succeeded⟩ := reserved
  exact done_did found succeeded

theorem refused_undone (refused : Refused tables row) :
    did tables (idText row.orderId) .reserve = false := by
  obtain ⟨_, ⟨operation, recorded, held, found, outcome, -⟩, -⟩ := refused
  exact refused_did found outcome

theorem rewarded_did (rewarded : Rewarded tables row) :
    did tables (idText row.orderId) .transfer = true := by
  obtain ⟨_, ⟨operation, result, found, paid, -⟩, -⟩ := rewarded
  exact done_did found paid.outcome

theorem restored_did (restored : Restored tables row) :
    did tables (idText row.orderId) .release = true := by
  obtain ⟨_, ⟨operation, result, found, returned, -⟩, -⟩ := restored
  exact done_did found returned.outcome

theorem errand_expected (agrees : Agrees view tables) (records : Records tables)
    (found : view (.order row.orderId) = some row) :
    (∃ types ∈ expected row.status,
      (transactionsFor tables (idText row.orderId)).Perm types) ∨
      row.status = .disputed ∧ (transactionsFor tables (idText row.orderId)).Perm [.reserve] := by
  have backed := agrees.backed _ row found
  have unpaid (open_ : completes row.status = false) :
      did tables (idText row.orderId) .transfer = false :=
    undone (unsettled agrees found (by simp) (fun _ => open_) (by simp))
  have unreturned (open_ : closes row.status = false) :
      did tables (idText row.orderId) .release = false :=
    undone (unsettled agrees found (by simp) (by simp) fun _ => open_)
  unfold Backed at backed
  cases status : row.status <;> rw [status] at backed unpaid unreturned
  case pendingCredit =>
      cases reserve : did tables (idText row.orderId) .reserve with
      | false => exact .inl ⟨[], by simp [expected], transactions_are records _ reserve
          (unpaid rfl) (unreturned rfl) rfl⟩
      | true => exact .inl ⟨[.reserve], by simp [expected], transactions_are records _ reserve
          (unpaid rfl) (unreturned rfl) rfl⟩
  case rejected =>
      exact .inl ⟨[], by simp [expected], transactions_are records _ (refused_undone backed)
        (unpaid rfl) (unreturned rfl) rfl⟩
  case completionPendingCredit =>
      cases transfer : did tables (idText row.orderId) .transfer with
      | false => exact .inl ⟨[.reserve], by simp [expected], transactions_are records _
          (reserved_did backed) transfer (unreturned rfl) rfl⟩
      | true => exact .inl ⟨[.reserve, .transfer], by simp [expected], transactions_are records _
          (reserved_did backed) transfer (unreturned rfl) rfl⟩
  case releasePendingCredit =>
      cases release : did tables (idText row.orderId) .release with
      | false => exact .inl ⟨[.reserve], by simp [expected], transactions_are records _
          (reserved_did backed) (unpaid rfl) release rfl⟩
      | true => exact .inl ⟨[.reserve, .release], by simp [expected], transactions_are records _
          (reserved_did backed) (unpaid rfl) release rfl⟩
  case completed =>
      exact .inl ⟨[.reserve, .transfer], by simp [expected], transactions_are records _
        (reserved_did backed.1) (rewarded_did backed.2) (unreturned rfl) rfl⟩
  case cancelled | expired =>
      exact .inl ⟨[.reserve, .release], by simp [expected], transactions_are records _
        (reserved_did backed.1) (unpaid rfl) (restored_did backed.2) rfl⟩
  case disputed =>
      exact .inr ⟨rfl, transactions_are records _ (reserved_did backed) (unpaid rfl)
        (unreturned rfl) rfl⟩
  all_goals
    exact .inl ⟨[.reserve], by simp [expected], transactions_are records _ (reserved_did backed)
      (unpaid rfl) (unreturned rfl) rfl⟩

/-- The transaction that an ended errand names is the one that settled it. -/
structure NamesTransaction (tables : Tables) (row : StoredOrder)
    (transactionType : TransactionType) : Prop where
  names : ∃ transactionId, row.creditTransactionId = scanUuid transactionId.toList ∧
    tables.transactions.lookup transactionId = some
      { orderId := some (idText row.orderId)
        transactionType
        walletUserId := row.requesterId
        amount := row.reward }

theorem rewarded_names (records : Records tables) (rewarded : Rewarded tables row) :
    NamesTransaction tables row .transfer := by
  obtain ⟨transactionId, ⟨operation, result, found, paid, read, requester, -, amount⟩, named⟩ :=
    rewarded
  refine ⟨result.transactionId, named.trans read.symm, ?_⟩
  rw [records.moved _ operation _ found paid.outcome, ← requester, ← amount]
  rfl

theorem restored_names (records : Records tables) (restored : Restored tables row) :
    NamesTransaction tables row .release := by
  obtain ⟨transactionId, ⟨operation, result, found, returned, read, requester, amount⟩, named⟩ :=
    restored
  refine ⟨result.transactionId, named.trans read.symm, ?_⟩
  rw [records.moved _ operation _ found returned.outcome, ← requester, ← amount]
  rfl

theorem ended_names (agrees : Agrees view tables) (records : Records tables)
    (found : view (.order row.orderId) = some row) :
    (row.status = .completed → NamesTransaction tables row .transfer) ∧
      (row.status = .cancelled ∨ row.status = .expired → NamesTransaction tables row .release) := by
  have backed := agrees.backed _ row found
  refine ⟨fun status => ?_, fun ended => ?_⟩
  · simp only [Backed, status] at backed
    exact rewarded_names records backed.2
  · rcases ended with status | status <;> simp only [Backed, status] at backed <;>
      exact restored_names records backed.2

end Errands

/-! ## In every state reached -/

section Runs

variable {settings : Settings} {clock creditClock : Micros} {suspended : List UserId}
  {world : World}

/-- Whatever is delivered, when, how often and in what order, and whatever the two services
commit in between: Credit has recorded for every errand what its status says, an ended errand
names the transaction that settled it, and neither service was ever told anything that
contradicts what it has. -/
theorem services_agree
    (run : Run (turn settings) (begun clock creditClock suspended) world) :
    world.credit.tables.alerts = [] ∧
      (∀ reply ∈ world.credit.tables.outbox, ¬ conflicting reply.payload) ∧
      ∀ id row, world.order.committed.lookup (.order id) = some row →
        ((∃ types ∈ expected row.status,
            (transactionsFor world.credit.tables (idText id)).Perm types) ∨
          row.status = .disputed ∧
            (transactionsFor world.credit.tables (idText id)).Perm [.reserve]) ∧
        (row.status = .completed → NamesTransaction world.credit.tables row .transfer) ∧
        (row.status = .cancelled ∨ row.status = .expired →
          NamesTransaction world.credit.tables row .release) := by
  have standing := run_standing run
  have agrees := standing.agrees
  have records := standing.credit.records
  refine ⟨agrees.quiet, agrees.civil, fun id row found => ?_⟩
  have own := (agrees.named id row found).own
  have here : world.order.committed.lookup (.order row.orderId) = some row := own ▸ found
  rw [← own]
  exact ⟨errand_expected agrees records here, ended_names agrees records here⟩

/-- Credit has set the reward of an open errand aside. -/
theorem opened_agrees : ∃ (world : World) (row : StoredOrder),
    world.order.committed.lookup (.order (Credit.Interleaving.drawn 1)) = some row ∧
      row.status = .opened ∧
      ((∃ types ∈ expected row.status, (transactionsFor world.credit.tables
          (idText (Credit.Interleaving.drawn 1))).Perm types) ∨
        row.status = .disputed ∧ (transactionsFor world.credit.tables
          (idText (Credit.Interleaving.drawn 1))).Perm [.reserve]) := by
  have reached : ((turns (turn Order.plainSettings) (begun 0 0 [])
      (waits ++ hears.map .order ++ opens.map .order)).any fun world =>
        (world.order.committed.lookup (.order (Credit.Interleaving.drawn 1))).any fun row =>
          decide (row.status = .opened)) = true := by
    decide +kernel
  obtain ⟨world, reached, shown⟩ := (Option.any_eq_true _ _).mp reached
  obtain ⟨row, found, status⟩ := (Option.any_eq_true _ _).mp shown
  have agreed := services_agree (run_turns .refl _ reached)
  exact ⟨world, row, found, of_decide_eq_true status, (agreed.2.2 _ row found).1⟩

end Runs

end Foc.Agreement
