import Foc.Agreement.Repair
import Foc.Agreement.Replies
import Mathlib

/-!
The agreement of the two services, with the reconciler beside them: what Credit has for every
errand, what Order makes of Credit's replies, and what the reconciler makes of both.
-/
namespace Foc.Agreement
open Library Library.EventLoop Library.Transaction
open Foc.Order (Row StoredOrder OrderStatus Settings Micros UserId Answer Failure Call Result
  orderService idText)
open Foc.Credit (Tables)
open Foc.Credit.Interleaving (transactionsFor orderStatus drawn)

/-- What Credit has for an errand, by its status. -/
structure Accounted (tables : Tables) (row : StoredOrder) : Prop where
  transactions : (∃ types ∈ expected row.status,
      (transactionsFor tables (idText row.orderId)).Perm types) ∨
    row.status = .disputed ∧ (transactionsFor tables (idText row.orderId)).Perm [.reserve]
  completed : row.status = .completed →
    Reserved tables row ∧ Rewarded tables row ∧ NamesTransaction tables row .transfer
  closed : row.status = .cancelled ∨ row.status = .expired →
    Reserved tables row ∧ Restored tables row ∧ NamesTransaction tables row .release

section Runs

variable {settings : Settings} {options : ReconcilerOptions} {clock creditClock : Micros}
  {suspended : List UserId} {world : World} {system after : System}

theorem standing_accounted (standing : Standing settings clock suspended world) {id : Order.Uuid}
    {row : StoredOrder} (found : world.order.committed.lookup (.order id) = some row) :
    Accounted world.credit.tables row := by
  have agrees := standing.agrees
  have own := (agrees.named id row found).own
  have here : world.order.committed.lookup (.order row.orderId) = some row := own ▸ found
  have backed := agrees.backed id row found
  obtain ⟨paid, returned⟩ := ended_names agrees standing.credit.records here
  refine ⟨errand_expected agrees standing.credit.records here, fun status => ?_, fun ended => ?_⟩
  · simp only [Backed, status] at backed
    exact ⟨backed.1, backed.2, paid status⟩
  · refine ⟨?_, ?_, returned ended⟩ <;>
      rcases ended with status | status <;> simp only [Backed, status] at backed
    · exact backed.1
    · exact backed.1
    · exact backed.2
    · exact backed.2

/-- The reconciler goes on beside the two services, and both keep what they keep alone. -/
structure Together (settings : Settings) (clock : Micros) (suspended : List UserId)
    (system : System) : Prop where
  reconciled : Reconciled settings clock suspended system
  hearing : Hearing settings clock suspended system.world

theorem reconcile_together {move : Move} (together : Together settings clock suspended system)
    (turned : reconcile settings options system move = some after) :
    Together settings clock suspended after := by
  refine ⟨reconcile_reconciled together.reconciled turned, ?_⟩
  cases move with
  | world event =>
      rw [reconcile] at turned
      split at turned
      · obtain ⟨world, moved, rfl⟩ := Option.map_eq_some_iff.mp turned
        exact turn_hearing together.hearing moved
      · cases turned
  | list published =>
      cases turned
      exact together.hearing
  | examine candidate runId answers =>
      rw [reconcile] at turned
      split at turned
      · cases turned
        exact together.hearing
      · cases turned

/-- Whatever is delivered, when, how often and in what order, whatever the two services commit in
between, and whenever the reconciler asks again: Credit has for every errand what its status
says, no reply that Credit sent is refused as inconsistent, and an errand that waits for Credit is
never one that an operator has to look at. -/
theorem order_credit_agree
    (run : Run (reconcile settings options) (unlisted clock creditClock suspended) system) :
    (∀ id row, system.world.order.committed.lookup (.order id) = some row →
      Accounted system.world.credit.tables row) ∧
    (∀ session tx reply, system.world.order.active.lookup session = some tx →
      told tx.pc.call.task = some reply →
      (orderService settings).current tx.pc ≠ .fail .unparseable) ∧
    (∀ id row, system.world.order.committed.lookup (.order id) = some row →
      repairable row.status ≠ [] → reconciliationDecision row.status
        (orderStatus system.world.credit.tables (idText id)).status = .reissue) ∧
    ∀ attemptId attempt,
      system.world.order.committed.lookup (.attempt attemptId) = some attempt →
      attempt.action ≠ .alert := by
  have together : Together settings clock suspended system :=
    run_keeps (fun _ _ _ together turned => reconcile_together together turned)
      ⟨unlisted_reconciled, begun_hearing⟩ run
  have standing := together.reconciled.standing
  refine ⟨fun id row found => standing_accounted standing found,
    fun session tx reply found is => hearing_clears together.hearing found is,
    fun id row found waits => ?_, together.reconciled.repaired⟩
  have own := (standing.agrees.named id row found).own
  have repairs := waiting_repairable standing.agrees standing.credit.records (own ▸ found) waits
  rw [own] at repairs
  exact if_pos repairs

/-- An errand is opened, and Credit has set its reward aside. -/
theorem opened_accounted : ∃ (system : System) (row : StoredOrder),
    system.world.order.committed.lookup (.order (drawn 1)) = some row ∧ row.status = .opened ∧
      Accounted system.world.credit.tables row := by
  have reached : ((turns (reconcile Order.plainSettings patient) (unlisted 0 0 [])
      ((waits ++ hears.map Event.order ++ opens.map Event.order).map Move.world)).any fun system =>
        (system.world.order.committed.lookup (.order (drawn 1))).any fun row =>
          decide (row.status = .opened)) = true := by
    decide +kernel
  obtain ⟨system, reached, shown⟩ := (Option.any_eq_true _ _).mp reached
  obtain ⟨row, found, status⟩ := (Option.any_eq_true _ _).mp shown
  have agreed := order_credit_agree (run_turns .refl _ reached)
  exact ⟨system, row, found, of_decide_eq_true status, agreed.1 _ row found⟩

end Runs

end Foc.Agreement
