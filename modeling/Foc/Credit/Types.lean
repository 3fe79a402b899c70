import Mathlib.Data.List.AList

/-!
Rows, requests and outcomes of the Credit Service (`credit-service/src/credits`
and `db/schema.ts`). Balances and amounts are `Int`, as the integer columns are:
a sign or a range is checked where the schema checks it. The identifiers of
alerts and ledger entries, and every timestamp, are left out.
-/
namespace Foc.Credit

abbrev UserId := String
abbrev OrderId := String
abbrev TransactionId := String
abbrev EventId := String

def maxReservationAmount : Int := 5

/-- The range of a PostgreSQL `integer` column. -/
def fitsInteger (value : Int) : Bool :=
  decide (-2147483648 ≤ value) && decide (value ≤ 2147483647)

inductive TransactionType where
  | issue | reserve | release | transfer
  deriving DecidableEq, Repr

inductive OperationType where
  | reserve | release | transfer
  deriving DecidableEq, Repr

inductive OutcomeName where
  | pending | succeeded | rejected
  deriving DecidableEq, Repr

inductive LedgerAccount where
  | platformIssuance | available | reserved
  deriving DecidableEq, Repr

inductive Direction where
  | debit | credit
  deriving DecidableEq, Repr

/-- `credit_operations.rejection_reason`. A conflicting request is never recorded. -/
inductive RecordedRejection where
  | insufficientCredits | amountOutOfRange
  deriving DecidableEq, Repr

inductive ReservationRejection where
  | insufficientCredits | amountOutOfRange | conflictingRequest
  deriving DecidableEq, Repr

def RecordedRejection.reason : RecordedRejection → ReservationRejection
  | .insufficientCredits => .insufficientCredits
  | .amountOutOfRange => .amountOutOfRange

inductive TerminalRejection where
  | conflictingRequest | invalidParticipants | reservationNotActive | terminalOperationConflict
  deriving DecidableEq, Repr

structure Wallet where
  available : Int
  reserved : Int
  deriving DecidableEq, Repr

structure CreditTransaction where
  orderId : Option OrderId
  transactionType : TransactionType
  walletUserId : UserId
  amount : Int
  deriving DecidableEq, Repr

/-- `resulting` is the pair `resulting_available`, `resulting_reserved`, null
exactly when the entry has no wallet. -/
structure LedgerEntry where
  transactionId : TransactionId
  entryNo : Nat
  walletUserId : Option UserId
  account : LedgerAccount
  direction : Direction
  amount : Int
  resulting : Option Wallet
  deriving DecidableEq, Repr

structure ResultingBalance where
  available : Int
  reserved : Int
  total : Int
  deriving DecidableEq, Repr

def balance (row : Wallet) : ResultingBalance :=
  { available := row.available, reserved := row.reserved, total := row.available + row.reserved }

structure TransferResult where
  orderId : OrderId
  requesterId : UserId
  courierId : UserId
  amount : Int
  transactionId : TransactionId
  requesterBalance : ResultingBalance
  courierBalance : ResultingBalance
  deriving DecidableEq, Repr

structure ReleaseResult where
  orderId : OrderId
  requesterId : UserId
  amount : Int
  transactionId : TransactionId
  requesterBalance : ResultingBalance
  deriving DecidableEq, Repr

inductive ResultPayload where
  | transferred (result : TransferResult)
  | released (result : ReleaseResult)
  deriving DecidableEq, Repr

/-- `outcome` with the columns `credit_operations_outcome_shape` ties to it. -/
inductive OperationOutcome where
  | pending
  | succeeded (transactionId : TransactionId)
  | rejected (reason : RecordedRejection) (availableAtDecision : Option Int)
  deriving DecidableEq, Repr

def OperationOutcome.name : OperationOutcome → OutcomeName
  | .pending => .pending
  | .succeeded _ => .succeeded
  | .rejected _ _ => .rejected

/-- A `credit_operations` row without its key, `(order_id, operation_type)`. -/
structure Operation where
  requesterId : UserId
  courierId : Option UserId
  amount : Int
  outcome : OperationOutcome
  resultPayload : Option ResultPayload
  deriving DecidableEq, Repr

structure ReservationInput where
  orderId : OrderId
  requesterId : UserId
  amount : Int
  correlationId : String
  causationId : String
  deriving DecidableEq, Repr

abbrev ReleaseInput := ReservationInput

structure TransferInput extends ReservationInput where
  courierId : UserId
  deriving DecidableEq, Repr

inductive ReservationOutcome where
  | reserved (transactionId : TransactionId)
  | rejected (reason : ReservationRejection) (available : Option Int)
  deriving DecidableEq, Repr

inductive TransferOutcome where
  | transferred (result : TransferResult)
  | rejected (reason : TerminalRejection)
  deriving DecidableEq, Repr

inductive ReleaseOutcome where
  | released (result : ReleaseResult)
  | rejected (reason : TerminalRejection)
  deriving DecidableEq, Repr

/-- What an alert's `details` say was recorded, beside the request received. -/
inductive AlertDetails where
  | reservationOutcome (outcome : OutcomeName)
  | recordedReservation (requesterId : UserId) (amount : Int)
  | recordedOperation (operationType : OperationType) (requesterId : UserId)
      (courierId : Option UserId) (amount : Int)
  | participants (reason : String)
  deriving DecidableEq, Repr

structure AuditAlert where
  orderId : OrderId
  operationType : OperationType
  code : TerminalRejection
  details : AlertDetails
  requesterId : UserId
  courierId : Option UserId
  amount : Int
  correlationId : String
  deriving DecidableEq, Repr

inductive CreditEvent where
  | creditsReserved (orderId : OrderId) (requesterId : UserId) (amount : Int)
  | creditReservationRejected (orderId : OrderId) (requesterId : UserId) (amount : Int)
      (reason : ReservationRejection) (available : Option Int)
  | creditsTransferred (result : TransferResult)
  | creditsReleased (result : ReleaseResult)
  deriving DecidableEq, Repr

structure OutboxRow where
  aggregateId : OrderId
  payload : CreditEvent
  correlationId : String
  causationId : String
  deriving DecidableEq, Repr

inductive ReservationBoundary where
  | operationClaimed | walletUpdated | transactionWritten | ledgerWritten
  | operationFinalized | outboxWritten
  deriving DecidableEq, Repr

inductive TerminalBoundary where
  | reservationLocked | operationClaimed | requesterWalletUpdated | courierWalletUpdated
  | transactionWritten | ledgerWritten | operationFinalized | outboxWritten
  deriving DecidableEq, Repr

/-- Why a call threw. Every one of them rolls its transaction back. -/
inductive CreditError where
  | walletNotReady (userId : UserId)
  | reservationNotReady (orderId : OrderId)
  | notBacked (orderId : OrderId)
  | transferNotReplayable (orderId : OrderId)
  | releaseNotReplayable (orderId : OrderId)
  | conflictDisappeared
  | stillPending
  | uniqueViolation
  | checkViolation
  | foreignKeyViolation
  | integerOutOfRange
  | invalidPayload
  | reservationFault (boundary : ReservationBoundary)
  | terminalFault (boundary : TerminalBoundary)
  deriving DecidableEq, Repr

end Foc.Credit
