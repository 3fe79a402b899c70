import Foc.Credit.Invariants
import Foc.Credit.Repeats
import Foc.Credit.Statements
import Mathlib

/-!
Requests of one order, however they interleave: it is reserved once and settled once, and a
request that was answered is answered the same for good. It never fails: the reply that is
recorded was once put in the outbox, so it still parses.
-/
namespace Foc.Credit.Interleaving
open Library.Difference Library.EventLoop Library.LockTable
open Foc.Order (Micros Uuid idText)
open Foc.Credit.Invariants (Consistent countOf initial_consistent reserves_once terminals_once
  turn_consistent)

variable {tables after : Tables} {transactionId : TransactionId} {request : Request}
  {outcome : Outcome} {call moved : Active} {busy : Lock → Bool}

/-! ## Replies that parse -/

section Replies

theorem inserted_parses {row : OutboxRow} (inserted : insertOutboxEvent tables row = .ok after) :
    row.payload.parses = true := by
  simp only [insertOutboxEvent, bind_ok, require_ok] at inserted
  obtain ⟨_, parses, _⟩ := inserted
  exact parses

variable {input : ReservationInput} {fault : ReservationBoundary → Bool}
  {reserved : ReservationOutcome}

theorem claim_fits {claimed : Option Tables}
    (returned : claimReservation tables input = .ok claimed) :
    fitsInteger input.amount = true := by
  simp only [claimReservation, bind_ok, require_ok] at returned
  obtain ⟨_, fits, _⟩ := returned
  exact fits

theorem refuse_reservation_parses {reason : RecordedRejection} {available : Option Int}
    (returned : refuseReservation tables input reason available fault = .ok (reserved, after)) :
    (reservationReply input reserved).payload.parses = true := by
  simp only [refuseReservation, bind_ok, return_ok, Prod.mk.injEq] at returned
  obtain ⟨_, _, _, _, _, written, _, _, rfl, _⟩ := returned
  exact inserted_parses written

theorem record_reservation_parses {balances : Wallet}
    (returned : recordReservation tables input balances transactionId fault =
      .ok (reserved, after)) :
    (reservationReply input reserved).payload.parses = true := by
  simp only [recordReservation, bind_ok, return_ok, Prod.mk.injEq] at returned
  obtain ⟨_, _, _, _, _, _, _, _, _, _, _, _, _, written, _, _, rfl, _⟩ := returned
  exact inserted_parses written

theorem replay_reservation_parses
    (returned : replayOrRejectConflict tables input = .ok (reserved, after)) :
    (reservationReply input reserved).payload.parses = true := by
  unfold replayOrRejectConflict at returned
  split at returned
  · simp at returned
  · split at returned
    · simp only [bind_ok, return_ok, Prod.mk.injEq] at returned
      obtain ⟨_, written, rfl, _⟩ := returned
      exact inserted_parses written
    · split at returned
      · simp at returned
      · simp only [bind_ok, return_ok, Prod.mk.injEq] at returned
        obtain ⟨_, written, rfl, _⟩ := returned
        exact inserted_parses written

theorem reserve_parses
    (returned : reserve tables input transactionId fault = .ok (reserved, after)) :
    fitsInteger input.amount = true ∧ (reservationReply input reserved).payload.parses = true := by
  simp only [reserve, bind_ok] at returned
  obtain ⟨claimed, claim, rest⟩ := returned
  refine ⟨claim_fits claim, ?_⟩
  cases claimed with
  | none => exact replay_reservation_parses rest
  | some pending =>
      simp only [bind_ok] at rest
      obtain ⟨_, _, rest⟩ := rest
      split at rest
      · exact refuse_reservation_parses rest
      · simp only [bind_ok] at rest
        obtain ⟨updated, update, rest⟩ := rest
        cases updated with
        | none =>
            dsimp only at rest
            split at rest
            · simp at rest
            · exact refuse_reservation_parses rest
        | some written =>
            obtain ⟨balances, held⟩ := written
            simp only [bind_ok] at rest
            obtain ⟨_, _, rest⟩ := rest
            exact record_reservation_parses rest

theorem refuse_parses {available : Int}
    (returned : refuse tables input available = .ok (reserved, after)) :
    fitsInteger input.amount = true ∧ (reservationReply input reserved).payload.parses = true := by
  simp only [refuse, bind_ok] at returned
  obtain ⟨claimed, claim, rest⟩ := returned
  cases claimed with
  | none => cases rest
  | some pending => exact ⟨claim_fits claim, refuse_reservation_parses rest⟩

theorem record_settlement_parses {orderId : OrderId} {operationType : OperationType}
    {row : CreditTransaction} {first second : LedgerEntry} {result : ResultPayload}
    {reply : OutboxRow} {fault : TerminalBoundary → Bool}
    (returned : recordSettlement tables orderId operationType transactionId row first second result
      reply fault = .ok after) : reply.payload.parses = true := by
  simp only [recordSettlement, bind_ok, return_ok] at returned
  obtain ⟨_, _, _, _, _, _, _, _, _, _, _, _, _, written, _⟩ := returned
  exact inserted_parses written

theorem transfer_parses {input : TransferInput} {fault : TerminalBoundary → Bool}
    {result : TransferResult}
    (returned : transfer tables input transactionId fault = .ok (.transferred result, after)) :
    (CreditEvent.creditsTransferred result).parses = true := by
  simp only [transfer, bind_ok] at returned
  obtain ⟨reservation, _, _, _, rest⟩ := returned
  split at rest
  · simp at rest
  · split at rest
    · simp at rest
    · split at rest
      · unfold replayTransferOrReject at rest
        split at rest
        · simp at rest
        · split at rest
          · simp at rest
          · simp only [bind_ok, return_ok, Prod.mk.injEq] at rest
            obtain ⟨_, _, _, written, is, _⟩ := rest
            cases is
            exact inserted_parses written
      · simp only [bind_ok] at rest
        obtain ⟨_, _, _, _, _, _, _, _, debited, _, rest⟩ := rest
        cases debited with
        | none => simp at rest
        | some debited =>
            obtain ⟨_, _⟩ := debited
            simp only [bind_ok] at rest
            obtain ⟨_, _, paid, _, rest⟩ := rest
            cases paid with
            | none => simp at rest
            | some paid =>
                obtain ⟨_, _⟩ := paid
                simp only [bind_ok, return_ok, Prod.mk.injEq] at rest
                obtain ⟨_, _, _, recorded, is, _⟩ := rest
                cases is
                exact record_settlement_parses recorded

theorem release_parses {input : ReleaseInput} {fault : TerminalBoundary → Bool}
    {result : ReleaseResult}
    (returned : release tables input transactionId fault = .ok (.released result, after)) :
    (CreditEvent.creditsReleased result).parses = true := by
  simp only [release, bind_ok] at returned
  obtain ⟨reservation, _, _, _, rest⟩ := returned
  split at rest
  · simp at rest
  · split at rest
    · unfold replayReleaseOrReject at rest
      split at rest
      · simp at rest
      · split at rest
        · simp at rest
        · simp only [bind_ok, return_ok, Prod.mk.injEq] at rest
          obtain ⟨_, _, _, written, is, _⟩ := rest
          cases is
          exact inserted_parses written
    · simp only [bind_ok] at rest
      obtain ⟨_, _, _, _, debited, _, rest⟩ := rest
      cases debited with
      | none => simp at rest
      | some debited =>
          obtain ⟨_, _⟩ := debited
          simp only [bind_ok, return_ok, Prod.mk.injEq] at rest
          obtain ⟨_, _, _, recorded, is, _⟩ := rest
          cases is
          exact record_settlement_parses recorded

end Replies

/-! ## What is recorded can be answered -/

/-- The replies that a record is answered with parse. -/
def Answerable (key : OrderId × OperationType) (operation : Operation) : Prop :=
  match key.2 with
  | .reserve => fitsInteger operation.amount = true ∧
      ∀ input outcome, input.orderId = key.1 → operation.differs input = false →
        recordedOutcome operation.outcome = some outcome →
        (reservationReply input outcome).payload.parses = true
  | .transfer => ∀ result, operation.resultPayload = some (.transferred result) →
      (CreditEvent.creditsTransferred result).parses = true
  | .release => ∀ result, operation.resultPayload = some (.released result) →
      (CreditEvent.creditsReleased result).parses = true

def AllAnswerable (tables : Tables) : Prop :=
  ∀ key operation, tables.operations.lookup key = some operation → Answerable key operation

theorem inserted_answerable {key : OrderId × OperationType} {operation : Operation}
    (all : AllAnswerable tables) (own : Answerable key operation)
    (inserted : after.operations = tables.operations.insert key operation) :
    AllAnswerable after := by
  intro other known found
  rw [inserted] at found
  by_cases same : other = key
  · subst same
    rw [AList.lookup_insert] at found
    cases found
    exact own
  · rw [AList.lookup_insert_ne same] at found
    exact all other known found

theorem reserved_answerable {input : ReservationInput} {operation : Operation}
    {reserved : ReservationOutcome}
    (parses : fitsInteger input.amount = true ∧
      (reservationReply input reserved).payload.parses = true)
    (requester : operation.requesterId = input.requesterId)
    (amount : operation.amount = input.amount)
    (recorded : recordedOutcome operation.outcome = some reserved) :
    Answerable (input.orderId, .reserve) operation := by
  refine ⟨amount ▸ parses.1, fun again known order same answered => ?_⟩
  cases recorded.symm.trans answered
  obtain ⟨otherRequester, otherAmount⟩ := same_parts same
  have alike : (reservationReply again reserved).payload =
      (reservationReply input reserved).payload := by
    simp only [reservationReply, order, ← otherRequester, ← otherAmount, requester, amount]
  rw [alike]
  exact parses.2

theorem ran_answerable (all : AllAnswerable tables)
    (ran : Ran tables transactionId call outcome after) : AllAnswerable after := by
  cases ran with
  | issue asked returned =>
      cases issue_initial_ok returned with
      | known => exact all
      | issue => exact all
  | reserve asked returned =>
      have parses := reserve_parses returned
      cases reserve_ok returned with
      | conflict | replay => exact all
      | refuse | reserve =>
          refine inserted_answerable all ?_ rfl
          exact reserved_answerable parses rfl rfl rfl
  | refuse asked short found returned =>
      have parses := refuse_parses returned
      obtain ⟨_, _, rfl, rfl⟩ := refuse_ok returned
      refine inserted_answerable all ?_ rfl
      exact reserved_answerable parses rfl rfl rfl
  | transfer asked returned =>
      cases transfer_ok returned with
      | invalid | participants | conflict | replay => exact all
      | transfer =>
          refine inserted_answerable all ?_ rfl
          intro result is
          cases is
          exact transfer_parses returned
  | release asked returned =>
      cases release_ok returned with
      | invalid | conflict | replay => exact all
      | release =>
          refine inserted_answerable all ?_ rfl
          intro result is
          cases is
          exact release_parses returned

def Replayable (state : State) : Prop :=
  Holds AllAnswerable (fun own => ∀ row ∈ own.operations, Answerable row.1 row.2) state

variable {state next_ : State} {index : Nat}

theorem initial_replayable (clock : Micros) : Replayable (initial clock) := by
  apply initial_holds
  intro key operation found
  cases found

theorem turn_replayable {event : Event} (replayable : Replayable state)
    (turned : turn state event = some next_) : Replayable next_ := by
  apply turn_holds _ _ _ replayable turned
  · exact fun row member => absurd member List.not_mem_nil
  · intro own answers key operation there
    rcases patch_found there with new | old
    · exact answers _ new
    · exact replayable.committed key operation old
  · intro index draw call transactionId outcome after _ _ ran row member
    exact ran_answerable replayable.committed ran row.1 row.2 (difference_found member)

/-! ## A repeat does not fail -/

theorem reply_positive {input : ReservationInput} {reserved : ReservationOutcome}
    (parses : (reservationReply input reserved).payload.parses = true) : 0 < input.amount := by
  cases reserved with
  | reserved transactionId =>
      simp only [reservationReply, CreditEvent.parses, movementParses, Bool.and_eq_true,
        decide_eq_true_eq] at parses
      exact parses.2
  | rejected reason available =>
      simp only [reservationReply, CreditEvent.parses, movementParses, Bool.and_eq_true,
        decide_eq_true_eq] at parses
      exact parses.1.2

theorem inserted_again {row : OutboxRow} (parses : row.payload.parses = true) :
    insertOutboxEvent tables row = .ok { tables with outbox := tables.outbox ++ [row] } := by
  rw [insertOutboxEvent, parses]
  rfl

section Again

variable {operation : Operation}

theorem claim_again {input : ReservationInput} (fits : fitsInteger input.amount = true)
    (positive : 0 < input.amount)
    (found : tables.operations.lookup (input.orderId, .reserve) = some operation) :
    claimReservation tables input = .ok none := by
  rw [claimReservation, fits, found, decide_eq_true positive]
  rfl

theorem reserve_again {input : ReservationInput} {reserved : ReservationOutcome}
    (claimed : claimReservation tables input = .ok none)
    (found : tables.operations.lookup (input.orderId, .reserve) = some operation)
    (same : operation.differs input = false)
    (recorded : recordedOutcome operation.outcome = some reserved)
    (parses : (reservationReply input reserved).payload.parses = true) :
    ∃ value, reserve tables input transactionId noFault = .ok value := by
  have replays : replayOrRejectConflict tables input =
      .ok (reserved,
        { tables with outbox := tables.outbox ++ [reservationReply input reserved] }) := by
    rw [replayOrRejectConflict, found]
    simp only [same, Bool.false_eq_true, if_false, recorded, writeOutcome, inserted_again parses]
    rfl
  refine ⟨(reserved,
    { tables with outbox := tables.outbox ++ [reservationReply input reserved] }), ?_⟩
  rw [reserve, claimed]
  exact replays

/-- The reservation that a settlement is recorded for can still be settled. -/
theorem backs_settles {input : ReservationInput} {orderId : OrderId}
    (backs : Backs tables.operations orderId operation) (order : input.orderId = orderId)
    (same : operation.differs input = false) :
    ∃ reservation, lockReservation tables input.orderId = .ok reservation ∧
      validateReservation reservation input = none ∧
      operation.courierId ≠ some input.requesterId := by
  obtain ⟨reservation, reservationId, found, succeeded, requester, amount, apart⟩ := backs
  obtain ⟨asker, asked⟩ := same_parts same
  refine ⟨reservation, ?_, ?_, asker ▸ apart⟩
  · rw [lockReservation, order, found]
    dsimp only
    rw [if_neg (by simp [succeeded])]
  · rw [validateReservation, if_neg (by simp [succeeded, OperationOutcome.transactionId]),
      if_neg (by simp [same_differs (requester.trans asker) (amount.trans asked)])]

theorem transfer_again {input : TransferInput} {result : TransferResult} (records : Records tables)
    (all : AllAnswerable tables)
    (found : tables.operations.lookup (input.orderId, .transfer) = some operation)
    (same : operation.differs input.toReservationInput = false)
    (paying : operation.courierId = some input.courierId)
    (paid : Paid input.orderId operation result) :
    (∃ reservation, lockReservation tables input.orderId = .ok reservation) ∧
      ∃ value, transfer tables input transactionId noFault = .ok value := by
  obtain ⟨reservation, locked, valid, apart⟩ :=
    backs_settles (records.backed _ operation found (by simp)) rfl same
  have terminal : findTerminalOperation tables input.orderId = some (.transfer, operation) := by
    rw [findTerminalOperation, records.once _ operation found]
    simp [found]
  have different : input.requesterId ≠ input.courierId := fun one => apart (one ▸ paying)
  have parses : (CreditEvent.creditsTransferred result).parses = true :=
    all _ operation found result paid.payload
  have replayable : operation.replayable = some (.transferred result) := by
    simp [Operation.replayable, paid.outcome, OperationOutcome.transactionId, paid.payload]
  have replays : replayTransferOrReject tables (.transfer, operation) input = .ok
      (.transferred result,
        { tables with outbox := tables.outbox ++ [transferReply input result] }) := by
    have written : insertOutboxEvent tables (transferReply input result) = _ :=
      inserted_again parses
    rw [replayTransferOrReject, if_neg (by simp [same, paying])]
    dsimp only
    rw [replayable]
    simp only [parseTransferred, parses, if_true, bind, Except.bind, written]
    rfl
  refine ⟨⟨reservation, locked⟩,
    (.transferred result,
      { tables with outbox := tables.outbox ++ [transferReply input result] }), ?_⟩
  rw [transfer, locked]
  simp only [reachTerminal, noFault, require, Bool.not_false, if_true, bind, Except.bind, valid,
    different, if_false, terminal, replays]

theorem release_again {input : ReleaseInput} {result : ReleaseResult} (records : Records tables)
    (all : AllAnswerable tables)
    (found : tables.operations.lookup (input.orderId, .release) = some operation)
    (same : operation.differs input = false) (returned : Returned input.orderId operation result) :
    (∃ reservation, lockReservation tables input.orderId = .ok reservation) ∧
      ∃ value, release tables input transactionId noFault = .ok value := by
  obtain ⟨reservation, locked, valid, _⟩ :=
    backs_settles (records.backed _ operation found (by simp)) rfl same
  have terminal : findTerminalOperation tables input.orderId = some (.release, operation) := by
    rw [findTerminalOperation, found]
  have parses : (CreditEvent.creditsReleased result).parses = true :=
    all _ operation found result returned.payload
  have replayable : operation.replayable = some (.released result) := by
    simp [Operation.replayable, returned.outcome, OperationOutcome.transactionId, returned.payload]
  have replays : replayReleaseOrReject tables (.release, operation) input = .ok
      (.released result,
        { tables with outbox := tables.outbox ++ [releaseReply input result] }) := by
    have written : insertOutboxEvent tables (releaseReply input result) = _ := inserted_again parses
    rw [replayReleaseOrReject, if_neg (by simp [same])]
    dsimp only
    rw [replayable]
    simp only [parseReleased, parses, if_true, bind, Except.bind, written]
    rfl
  refine ⟨⟨reservation, locked⟩,
    (.released result,
      { tables with outbox := tables.outbox ++ [releaseReply input result] }), ?_⟩
  rw [release, locked]
  simp only [reachTerminal, noFault, require, Bool.not_false, if_true, bind, Except.bind, valid,
    terminal, replays]

end Again

theorem performed_fine {rest : Result (Outcome × Tables)} {value : Outcome × Tables}
    {error : CreditError} (is : rest = .ok value) :
    perform tables busy call rest ≠ some (.error error) := by
  subst is
  unfold perform
  dsimp only
  split <;> simp

theorem lock_fine {orderId : OrderId} {reservation : Operation} {error : CreditError}
    (locked : lockReservation tables orderId = .ok reservation) :
    runLock tables busy call orderId ≠ some (.error error) := by
  rw [runLock, locked]
  dsimp only
  split <;> simp

/-- Whatever statement a request is at: once it is recorded, the statement does not fail. -/
theorem recorded_fine (records : Records tables) (all : AllAnswerable tables)
    (ready : Ready tables call) (recorded : Recorded tables call.request outcome)
    (error : CreditError) : next tables busy call transactionId ≠ some (.error error) := by
  cases asked : call.request with
  | issueInitial =>
      rw [asked] at recorded
      exact recorded.elim
  | reserve input =>
      rw [asked] at recorded
      cases outcome with
      | issued | transfer | release => exact recorded.elim
      | reservation reserved =>
          obtain ⟨operation, found, same, answered⟩ := recorded
          obtain ⟨fits, answers⟩ := all _ operation found
          have parses := answers input reserved rfl same answered
          rw [(same_parts same).2] at fits
          have claimed := claim_again fits (reply_positive parses) found
          have absent (waits : ∃ other, call.request = .reserve other ∧
              .operation (other.orderId, .reserve) ∈ call.locks ∧
              tables.operations.lookup (other.orderId, .reserve) = none) : False := by
            obtain ⟨other, one, _, none_⟩ := waits
            cases asked.symm.trans one
            cases found.symm.trans none_
          rw [next, asked]
          dsimp only
          rw [runReserve]
          cases stage : call.stage with
          | begun => simp [claimed]
          | conflicting =>
              obtain ⟨value, is⟩ := @reserve_again tables transactionId operation input reserved
                claimed found same answered parses
              dsimp only
              rw [is]
              exact performed_fine rfl
          | claimed | short =>
              rw [Ready, stage] at ready
              exact (absent ready).elim
          | locked | done | committed | rolledBack =>
              intro is
              cases is
  | transfer input =>
      rw [asked] at recorded
      cases outcome with
      | issued | reservation | release => exact recorded.elim
      | transfer settled =>
          cases settled with
          | rejected => exact recorded.elim
          | transferred result =>
              obtain ⟨operation, found, same, paying, paid⟩ := recorded
              obtain ⟨⟨reservation, locked⟩, value, is⟩ :=
                @transfer_again tables transactionId operation input result records all found same
                  paying paid
              rw [next, asked]
              dsimp only
              split
              · exact lock_fine locked
              · rw [is]
                exact performed_fine rfl
              · intro is
                cases is
  | release input =>
      rw [asked] at recorded
      cases outcome with
      | issued | reservation | transfer => exact recorded.elim
      | release settled =>
          cases settled with
          | rejected => exact recorded.elim
          | released result =>
              obtain ⟨operation, found, same, returned⟩ := recorded
              obtain ⟨⟨reservation, locked⟩, value, is⟩ :=
                @release_again tables transactionId operation input result records all found same
                  returned
              rw [next, asked]
              dsimp only
              split
              · exact lock_fine locked
              · rw [is]
                exact performed_fine rfl
              · intro is
                cases is

/-! ## Requests that conflict -/

/-- The request names another requester, courier or amount than is recorded of its order, or
settles it the other way. -/
def Conflicts (tables : Tables) : Request → Prop
  | .issueInitial _ _ => False
  | .reserve input => Contradicts tables (.reserve input)
  | .transfer input => Contradicts tables (.transfer input) ∨ ∃ reservation,
      tables.operations.lookup (input.orderId, .reserve) = some reservation ∧
        reservation.differs input.toReservationInput = true
  | .release input => Contradicts tables (.release input) ∨ ∃ reservation,
      tables.operations.lookup (input.orderId, .reserve) = some reservation ∧
        reservation.differs input = true

/-- A reservation is told of the conflict; a settlement is told nothing. -/
def conflictReply : Request → List OutboxRow
  | .reserve input => [reservationReply input (.rejected .conflictingRequest none)]
  | _ => []

theorem unfinal_answer (lands : Lands tables request outcome after)
    (final : Outcome.final outcome = false) : answer request outcome = conflictReply request := by
  cases lands with
  | issue => cases final
  | reserve reserved =>
      cases reserved with
      | conflict => rfl
      | replay operation reserved found same recorded =>
          cases is : operation.outcome with
          | pending =>
              rw [is] at recorded
              cases recorded
          | succeeded =>
              rw [is] at recorded
              cases recorded
              cases final
          | rejected reason =>
              rw [is] at recorded
              cases recorded
              cases reason <;> cases final
      | refuse reason => cases reason <;> cases final
      | reserve => cases final
  | refuse reason => cases reason <;> cases final
  | transfer transferred =>
      cases transferred with
      | invalid | participants | conflict => rfl
      | replay | transfer => cases final
  | release released =>
      cases released with
      | invalid | conflict => rfl
      | replay | release => cases final

/-- What is settled for a request was reserved for it. -/
theorem settlement_same {input : ReservationInput} {key : OrderId × OperationType}
    {prior reservation : Operation} (records : Records tables) (order : key.1 = input.orderId)
    (terminal : key.2 ≠ .reserve) (found : tables.operations.lookup key = some prior)
    (same : prior.differs input = false)
    (there : tables.operations.lookup (input.orderId, .reserve) = some reservation) :
    reservation.differs input = false := by
  obtain ⟨known, _, known_, _, requester, amount, _⟩ := records.backed key prior found terminal
  rw [order] at known_
  cases known_.symm.trans there
  obtain ⟨asker, asked⟩ := same_parts same
  exact same_differs (requester.trans asker) (amount.trans asked)

theorem conflicts_reported (records : Records tables) (lands : Lands tables request outcome after)
    (conflicts : Conflicts tables request) :
    Outcome.final outcome = false ∧ Reported tables after (conflictReply request) := by
  have told (contradicts : Contradicts tables request) :
      Outcome.final outcome = false ∧ Reported tables after (conflictReply request) := by
    obtain ⟨final, reported⟩ := lands_contradicts lands contradicts
    exact ⟨final, unfinal_answer lands final ▸ reported⟩
  have agreed {input : ReservationInput} {reservation : Operation} {claims : Prop}
      (valid : validateReservation reservation input = none)
      (differs : reservation.differs input = true) : claims := by
    obtain ⟨_, requester, amount⟩ := valid_reservation valid
    rw [same_differs requester amount] at differs
    cases differs
  cases request with
  | issueInitial => exact conflicts.elim
  | reserve => exact told conflicts
  | transfer input =>
      rcases conflicts with contradicts | ⟨reservation, there, differs⟩
      · exact told contradicts
      · cases lands with
        | transfer transferred =>
            cases transferred with
            | invalid | participants | conflict => exact ⟨rfl, reject_reported _ _ _ _ _ _⟩
            | replay prior result found same =>
                rw [settlement_same records rfl (by simp) (terminal_lookup found) same.1 there]
                  at differs
                cases differs
            | transfer known requester courier settleable =>
                cases settleable.found.symm.trans there
                exact agreed settleable.valid differs
  | release input =>
      rcases conflicts with contradicts | ⟨reservation, there, differs⟩
      · exact told contradicts
      · cases lands with
        | release released =>
            cases released with
            | invalid | conflict => exact ⟨rfl, reject_reported _ _ _ _ _ _⟩
            | replay prior payload result found same =>
                rw [settlement_same records rfl (by simp) (terminal_lookup found) same there]
                  at differs
                cases differs
            | release known requester settleable =>
                cases settleable.found.symm.trans there
                exact agreed settleable.valid differs

/-! ## Over every interleaving -/

variable {first between later last : State} {again : Request} {known : Outcome}

structure Settling (state : State) : Prop where
  consistent : Consistent state
  kept : Kept state
  replayable : Replayable state

theorem initial_settling (clock : Micros) : Settling (initial clock) :=
  ⟨initial_consistent clock, initial_kept clock, initial_replayable clock⟩

theorem turn_settling {event : Event} (settling : Settling state)
    (turned : turn state event = some next_) : Settling next_ :=
  ⟨turn_consistent settling.consistent turned, turn_kept settling.kept turned,
    turn_replayable settling.replayable turned⟩

/-- An order is reserved once and settled once. A request that was answered for good stays
recorded: sent again, no statement of it fails, and what it commits is the same answer, the same
reply and nothing else. A request that conflicts with what is recorded of its order moves nothing:
it adds an alert and, for a reservation, the reply that says so. -/
theorem settled_once (clock : Micros) (run : Run turn (initial clock) first) :
    (∀ orderId, countOf first.tables orderId Invariants.TransactionType.reserving ≤ 1 ∧
      countOf first.tables orderId TransactionType.terminal ≤ 1) ∧
    ∀ request outcome between, Commits first request outcome between →
      (∀ later again, Outcome.final outcome = true → Alike request again → Run turn between later →
        (∀ index call draw error, later.active[index]? = some call → call.request = again →
          next later.tables (taken Active.locks later.active index) call draw ≠
            some (.error error)) ∧
        ∀ known last, Commits later again known last →
          known = outcome ∧ Replied later.tables last.tables (answer again outcome) ∧
            (answer again outcome).map OutboxRow.payload =
              (answer request outcome).map OutboxRow.payload) ∧
      (Conflicts first.tables request → Outcome.final outcome = false ∧
        Reported first.tables between.tables (conflictReply request)) := by
  have settling : Settling first :=
    run_keeps (fun _ _ _ settling turned => turn_settling settling turned)
      (initial_settling clock) run
  refine ⟨fun orderId => ⟨reserves_once settling.consistent.sound.books orderId,
    terminals_once settling.consistent.outcomes orderId⟩, fun request outcome between commits => ?_⟩
  have lands := commits_lands settling.kept.sound commits
  refine ⟨fun later again final alike onward => ?_, conflicts_reported settling.kept.records lands⟩
  obtain ⟨event, turned⟩ := commits_turn commits
  have order : ∀ userId initialAllocation, request ≠ .issueInitial userId initialAllocation := by
    rintro userId initialAllocation rfl
    exact alike.elim
  have middle := turn_settling settling turned
  have recorded : Recorded later.tables again outcome :=
    recorded_later (run_recorded middle.kept onward)
      (recorded_alike alike (lands_recorded settling.kept.records lands order final))
  have there : Settling later :=
    run_keeps (fun _ _ _ settling turned => turn_settling settling turned) middle onward
  constructor
  · intro index call draw error found asked
    exact recorded_fine there.kept.records there.replayable.committed
      (there.kept.sound.ready index call found) (asked ▸ recorded) error
  · intro known last repeated
    obtain ⟨same, replied⟩ := lands_repeats there.kept.records
      (commits_lands there.kept.sound repeated) recorded
    exact ⟨same, replied, answers_alike alike⟩

theorem repeat_replied : ∃ later last : State, Replied later.tables last.tables
    (answer (.reserve { askedTwo with causationId := "f" })
      (.reservation (.reserved (idText (drawn 2))))) := by
  have reached : ((turns turn (initial 0) reserving).any fun first =>
      readyTwo first 1 "e" && (turn first (.commit 1)).any fun between =>
        (turns turn between reservingAgain).any fun later => readyTwo later 2 "f") = true := by
    decide +kernel
  obtain ⟨first, began, both⟩ := (Option.any_eq_true _ _).mp reached
  obtain ⟨ready, rest⟩ := Bool.and_eq_true_iff.mp both
  obtain ⟨between, turned, rest⟩ := (Option.any_eq_true _ _).mp rest
  obtain ⟨later, onward, again⟩ := (Option.any_eq_true _ _).mp rest
  obtain ⟨after, committed, commits⟩ := ready_commits ready
  cases turned.symm.trans committed
  obtain ⟨last, -, repeated⟩ := ready_commits again
  have alike : Alike (.reserve { askedTwo with causationId := "e" })
      (.reserve { askedTwo with causationId := "f" }) := ⟨rfl, rfl, rfl⟩
  have settled := (settled_once 0 (run_turns .refl _ began)).2 _ _ _ commits
  have answers := (settled.1 later _ rfl alike (run_turns .refl _ onward)).2
  exact ⟨later, last, (answers _ _ repeated).2.1⟩

end Foc.Credit.Interleaving
