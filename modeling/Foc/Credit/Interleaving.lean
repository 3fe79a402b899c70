import Foc.Credit.Repository
import Foc.Library.Difference
import Foc.Library.EventLoop
import Foc.Library.LockTable
import Foc.Order.Cursor
import Mathlib

/-!
The repository's methods in transactions that run at the same time (READ COMMITTED). A
transaction sees what is committed; what it writes is its own until it commits, and every
row it writes, or reads for update, is locked until it ends. A statement that would lock a
row of another transaction waits. What a method does once it has its last lock reads rows
it holds, or rows that never change again, so it is the method of `CreditRepository` run
there. Only `reserve` reads a row it does not hold: the wallet that its `UPDATE` left out.
-/
namespace Foc.Credit.Interleaving
open Library.Difference Library.EventLoop Library.LockTable
open Foc.Order (Micros Uuid idText)

inductive Request where
  | issueInitial (userId : UserId) (initialAllocation : Int)
  | reserve (input : ReservationInput)
  | transfer (input : TransferInput)
  | release (input : ReleaseInput)

/-- A row by its key, or an index entry that no other transaction may write. -/
inductive Lock where
  | wallet (userId : UserId)
  | operation (key : OrderId × OperationType)
  | transaction (transactionId : TransactionId)
  deriving DecidableEq

/-! ## What a transaction has written -/

structure Changes where
  wallets : List (UserId × Wallet)
  operations : List ((OrderId × OperationType) × Operation)
  transactions : List (TransactionId × CreditTransaction)
  entries : List LedgerEntry
  alerts : List AuditAlert
  outbox : List OutboxRow

def Changes.none : Changes :=
  { wallets := [], operations := [], transactions := [], entries := [], alerts := [], outbox := [] }

/-- What a method's statements have changed. -/
def changes (before after : Tables) : Changes :=
  { wallets := difference before.wallets after.wallets
    operations := difference before.operations after.operations
    transactions := difference before.transactions after.transactions
    entries := after.entries.drop before.entries.length
    alerts := after.alerts.drop before.alerts.length
    outbox := after.outbox.drop before.outbox.length }

def Changes.apply (own : Changes) (tables : Tables) : Tables :=
  { wallets := patch tables.wallets own.wallets
    operations := patch tables.operations own.operations
    transactions := patch tables.transactions own.transactions
    entries := tables.entries ++ own.entries
    alerts := tables.alerts ++ own.alerts
    outbox := tables.outbox ++ own.outbox }

def Changes.locks (own : Changes) : List Lock :=
  own.wallets.map (fun row => .wallet row.1) ++ own.operations.map (fun row => .operation row.1) ++
    own.transactions.map fun row => .transaction row.1

/-! ## Transactions -/

/-- How far a transaction is: what its next statement is, or how it ended. -/
inductive Stage where
  | begun
  /-- `reserve` has inserted its operation. -/
  | claimed
  /-- It found one there. -/
  | conflicting
  /-- Its `UPDATE` found no wallet with the amount available. -/
  | short
  /-- A terminal method has locked the reservation. -/
  | locked
  | done (outcome : Outcome)
  | committed (outcome : Outcome)
  | rolledBack

structure Active where
  request : Request
  startedAt : Micros
  stage : Stage
  locks : List Lock
  own : Changes

/-- `occurredAt` is of the rows of `transactions`: the start of the transaction that wrote
each. -/
structure State where
  clock : Micros
  tables : Tables
  occurredAt : AList fun _ : TransactionId => Micros
  active : List Active

def initial (clock : Micros) : State :=
  { clock, tables := .empty, occurredAt := ∅, active := [] }

/-! ## Statements -/

def noFault {Boundary : Type} (_ : Boundary) : Bool := false

/-- The rest of a method, once no other transaction has a row that it changes. -/
def perform (tables : Tables) (busy : Lock → Bool) (call : Active)
    (rest : Result (Outcome × Tables)) : Option (Result Active) :=
  match rest with
  | .error error => some (.error error)
  | .ok (outcome, after) =>
      let own := changes tables after
      if own.locks.any busy then none
      else some (.ok { call with stage := .done outcome, locks := call.locks ++ own.locks, own })

/-- What the `UPDATE` of `reserve` looks for. -/
def covers (tables : Tables) (input : ReservationInput) : Bool :=
  (tables.wallets.lookup input.requesterId).any fun row => decide (input.amount ≤ row.available)

/-- The refusal with the balance that was read after the `UPDATE`. -/
def refuse (tables : Tables) (input : ReservationInput) (available : Int) :
    Result (ReservationOutcome × Tables) := do
  match ← claimReservation tables input with
  | none => .error .conflictDisappeared
  | some claimed =>
      refuseReservation claimed input .insufficientCredits (some available) noFault

def asReservation (result : ReservationOutcome × Tables) : Outcome × Tables :=
  (.reservation result.1, result.2)

def runReserve (tables : Tables) (busy : Lock → Bool) (call : Active) (input : ReservationInput)
    (transactionId : TransactionId) : Option (Result Active) :=
  let key := (input.orderId, OperationType.reserve)
  match call.stage with
  | .begun =>
      match claimReservation tables input with
      | .error error => some (.error error)
      | .ok none => some (.ok { call with stage := .conflicting })
      | .ok (some _) =>
          -- A claim that is not committed is waited for.
          if busy (.operation key) then none
          else some (.ok { call with stage := .claimed, locks := [.operation key] })
  | .conflicting =>
      perform tables busy call (asReservation <$> reserve tables input transactionId noFault)
  | .claimed =>
      if input.amount ≤ maxReservationAmount ∧ covers tables input = false then
        some (.ok { call with stage := .short })
      else perform tables busy call (asReservation <$> reserve tables input transactionId noFault)
  | .short =>
      match tables.wallets.lookup input.requesterId with
      | none => some (.error (.walletNotReady input.requesterId))
      | some wallet =>
          perform tables busy call (asReservation <$> refuse tables input wallet.available)
  | _ => none

/-- `lockReservation`: a row that is not committed is not there to wait for. -/
def runLock (tables : Tables) (busy : Lock → Bool) (call : Active) (orderId : OrderId) :
    Option (Result Active) :=
  let key := (orderId, OperationType.reserve)
  match lockReservation tables orderId with
  | .error error => some (.error error)
  | .ok _ =>
      if busy (.operation key) then none
      else some (.ok { call with stage := .locked, locks := [.operation key] })

/-- The next statement of a transaction, `none` where it waits or has ended. -/
def next (tables : Tables) (busy : Lock → Bool) (call : Active) (transactionId : TransactionId) :
    Option (Result Active) :=
  match call.request with
  | .issueInitial userId initialAllocation =>
      match call.stage with
      | .begun =>
          perform tables busy call
            ((fun result => (.issued result.1, result.2)) <$>
              issueInitial tables userId initialAllocation transactionId)
      | _ => none
  | .reserve input => runReserve tables busy call input transactionId
  | .transfer input =>
      match call.stage with
      | .begun => runLock tables busy call input.orderId
      | .locked =>
          perform tables busy call
            ((fun result => (.transfer result.1, result.2)) <$>
              transfer tables input transactionId noFault)
      | _ => none
  | .release input =>
      match call.stage with
      | .begun => runLock tables busy call input.orderId
      | .locked =>
          perform tables busy call
            ((fun result => (.release result.1, result.2)) <$>
              release tables input transactionId noFault)
      | _ => none

/-! ## Runs -/

/-- `draw` is what `randomUUID` gives, if the statement asks for it. -/
inductive Event where
  | tick (now : Micros)
  | start (request : Request)
  | run (index : Nat) (draw : Uuid)
  | commit (index : Nat)
  | abort (index : Nat)

def put (state : State) (index : Nat) (call : Active) : State :=
  { state with active := state.active.set index call }

def rollBack (call : Active) : Active :=
  { call with stage := .rolledBack, locks := [], own := .none }

def commitActive (state : State) (index : Nat) (call : Active) (outcome : Outcome) : State :=
  { clock := state.clock
    tables := call.own.apply state.tables
    occurredAt := patch state.occurredAt
      (call.own.transactions.map fun row => (row.1, call.startedAt))
    active := state.active.set index
      { call with stage := .committed outcome, locks := [], own := .none } }

def turn : Turn State Event := fun state event =>
  match event with
  | .tick now => some { state with clock := now }
  | .start request =>
      some { state with active := state.active ++
        [{ request, startedAt := state.clock, stage := .begun, locks := [], own := .none }] }
  | .run index draw =>
      if Library.UuidText.Versioned draw then
        state.active[index]?.bind fun call =>
          (next state.tables (taken Active.locks state.active index) call (idText draw)).map
            fun
            | .ok moved => put state index moved
            | .error _ => put state index (rollBack call)
      else none
  | .commit index =>
      state.active[index]?.bind fun call =>
        match call.stage with
        | .done outcome => some (commitActive state index call outcome)
        | _ => none
  | .abort index =>
      state.active[index]?.bind fun call =>
        match call.stage with
        | .committed _ | .rolledBack => none
        | _ => some (put state index (rollBack call))

end Foc.Credit.Interleaving
