import Foc.Credit.Serial
import Mathlib

/-!
What a transaction's statements do: each writes nothing, or is the last of a method and writes
what the method changed. So what holds of all that is committed and all that is yet to commit is
kept when each method keeps it.
-/
namespace Foc.Credit.Interleaving
open Library.Difference Library.EventLoop Library.LockTable
open Foc.Order (Micros Uuid idText)

variable {tables after : Tables} {transactionId : TransactionId} {call moved : Active}
  {busy : Lock → Bool}

/-! ## Statements -/

/-- The method whose last statement brought the outcome. -/
inductive Ran (tables : Tables) (transactionId : TransactionId) (call : Active) :
    Outcome → Tables → Prop where
  | issue {userId : UserId} {initialAllocation : Int} {created : Bool} {after : Tables}
      (asked : call.request = .issueInitial userId initialAllocation)
      (returned : issueInitial tables userId initialAllocation transactionId =
        .ok (created, after)) :
      Ran tables transactionId call (.issued created) after
  | reserve {input : ReservationInput} {outcome : ReservationOutcome} {after : Tables}
      (asked : call.request = .reserve input)
      (returned : reserve tables input transactionId noFault = .ok (outcome, after)) :
      Ran tables transactionId call (.reservation outcome) after
  | refuse {input : ReservationInput} {wallet : Wallet} {outcome : ReservationOutcome}
      {after : Tables} (asked : call.request = .reserve input) (short : call.stage = .short)
      (found : tables.wallets.lookup input.requesterId = some wallet)
      (returned : refuse tables input wallet.available = .ok (outcome, after)) :
      Ran tables transactionId call (.reservation outcome) after
  | transfer {input : TransferInput} {outcome : TransferOutcome} {after : Tables}
      (asked : call.request = .transfer input)
      (returned : transfer tables input transactionId noFault = .ok (outcome, after)) :
      Ran tables transactionId call (.transfer outcome) after
  | release {input : ReleaseInput} {outcome : ReleaseOutcome} {after : Tables}
      (asked : call.request = .release input)
      (returned : release tables input transactionId noFault = .ok (outcome, after)) :
      Ran tables transactionId call (.release outcome) after

def Goes (tables : Tables) (transactionId : TransactionId) (call moved : Active) : Prop :=
  moved.own = call.own ∨ ∃ outcome after, Ran tables transactionId call outcome after ∧
    moved.own = changes tables after

theorem performed_goes {rest : Result (Outcome × Tables)}
    (performed : perform tables busy call rest = some (.ok moved))
    (ran : ∀ outcome after, rest = .ok (outcome, after) →
      Ran tables transactionId call outcome after) :
    Goes tables transactionId call moved := by
  obtain ⟨outcome, after, is, _, _, own, _⟩ := perform_moves performed
  exact .inr ⟨outcome, after, ran outcome after is, own⟩

theorem lock_goes {orderId : OrderId}
    (locked : runLock tables busy call orderId = some (.ok moved)) :
    Goes tables transactionId call moved := by
  rw [runLock] at locked
  split at locked
  · cases locked
  · split at locked
    · cases locked
    · cases locked
      exact .inl rfl

theorem reserve_goes {input : ReservationInput} (asked : call.request = .reserve input)
    (ran : runReserve tables busy call input transactionId = some (.ok moved)) :
    Goes tables transactionId call moved := by
  have reserves : perform tables busy call
      (asReservation <$> reserve tables input transactionId noFault) = some (.ok moved) →
      Goes tables transactionId call moved := by
    intro performed
    apply performed_goes performed
    intro outcome after is
    obtain ⟨⟨result, left⟩, returned, mapped⟩ := map_ok is
    cases mapped
    exact .reserve asked returned
  rw [runReserve] at ran
  split at ran
  · split at ran
    · cases ran
    · cases ran
      exact .inl rfl
    · split at ran
      · cases ran
      · cases ran
        exact .inl rfl
  · exact reserves ran
  · split at ran
    · cases ran
      exact .inl rfl
    · exact reserves ran
  · next short =>
    split at ran
    · cases ran
    · next wallet found =>
      apply performed_goes ran
      intro outcome after is
      obtain ⟨⟨result, left⟩, returned, mapped⟩ := map_ok is
      cases mapped
      exact .refuse asked short found returned
  · cases ran

theorem next_goes (ran : next tables busy call transactionId = some (.ok moved)) :
    Goes tables transactionId call moved := by
  rw [next] at ran
  cases asked : call.request with
  | issueInitial userId initialAllocation =>
      rw [asked] at ran
      dsimp only at ran
      split at ran
      · apply performed_goes ran
        intro outcome after is
        obtain ⟨⟨created, left⟩, returned, mapped⟩ := map_ok is
        cases mapped
        exact .issue asked returned
      · cases ran
  | reserve input =>
      rw [asked] at ran
      exact reserve_goes asked ran
  | transfer input =>
      rw [asked] at ran
      dsimp only at ran
      split at ran
      · exact lock_goes ran
      · apply performed_goes ran
        intro outcome after is
        obtain ⟨⟨result, left⟩, returned, mapped⟩ := map_ok is
        cases mapped
        exact .transfer asked returned
      · cases ran
  | release input =>
      rw [asked] at ran
      dsimp only at ran
      split at ran
      · exact lock_goes ran
      · apply performed_goes ran
        intro outcome after is
        obtain ⟨⟨result, left⟩, returned, mapped⟩ := map_ok is
        cases mapped
        exact .release asked returned
      · cases ran

/-! ## What is committed and what is yet to commit -/

structure Holds (committed : Tables → Prop) (written : Changes → Prop) (state : State) :
    Prop where
  committed : committed state.tables
  written : ∀ (index : Nat) call, state.active[index]? = some call → written call.own

section Holds

variable {committed : Tables → Prop} {written : Changes → Prop} {state next_ : State}
  {index : Nat}

theorem initial_holds {clock : Micros} (empty : committed .empty) :
    Holds committed written (initial clock) := by
  refine ⟨empty, ?_⟩
  intro index call found
  cases found

theorem put_holds (holds : Holds committed written state) (found : state.active[index]? = some call)
    (own : written moved.own) : Holds committed written (put state index moved) := by
  refine ⟨holds.committed, ?_⟩
  intro other holder there
  rcases (get_set found).mp there with ⟨-, rfl⟩ | ⟨-, there⟩
  · exact own
  · exact holds.written other holder there

/-- What holds of no change, and is kept by every commit and by every method. -/
theorem turn_holds {event : Event} (nothing : written .none)
    (commits : ∀ own, written own → committed (own.apply state.tables))
    (methods : ∀ index draw call transactionId outcome after, event = .run index draw →
      state.active[index]? = some call → Ran state.tables transactionId call outcome after →
      written (changes state.tables after))
    (holds : Holds committed written state) (turned : turn state event = some next_) :
    Holds committed written next_ := by
  cases event with
  | tick now =>
      cases turned
      exact ⟨holds.committed, holds.written⟩
  | start request =>
      cases turned
      refine ⟨holds.committed, ?_⟩
      intro index call there
      rcases get_append there with there | ⟨-, rfl⟩
      · exact holds.written index call there
      · exact nothing
  | run index draw =>
      rw [turn] at turned
      split at turned
      · obtain ⟨call, found, ran⟩ := Option.bind_eq_some_iff.mp turned
        obtain ⟨result, stepped, rfl⟩ := Option.map_eq_some_iff.mp ran
        cases result with
        | error error => exact put_holds holds found nothing
        | ok moved =>
            apply put_holds holds found
            rcases next_goes stepped with same | ⟨outcome, after, ran, own⟩
            · rw [same]
              exact holds.written index call found
            · rw [own]
              exact methods index draw call _ outcome after rfl found ran
      · cases turned
  | commit index =>
      obtain ⟨call, found, committed⟩ := Option.bind_eq_some_iff.mp turned
      split at committed
      · cases committed
        refine ⟨commits call.own (holds.written index call found), ?_⟩
        intro other holder there
        rcases (get_set found).mp there with ⟨-, rfl⟩ | ⟨-, there⟩
        · exact nothing
        · exact holds.written other holder there
      · cases committed
  | abort index =>
      obtain ⟨call, found, aborted⟩ := Option.bind_eq_some_iff.mp turned
      split at aborted
      · cases aborted
      · cases aborted
      · cases aborted
        exact put_holds holds found nothing

end Holds

end Foc.Credit.Interleaving
