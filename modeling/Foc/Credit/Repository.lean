import Foc.Credit.Types

/-!
`CreditRepository`: each SQL statement is a function on the tables, checked by
the constraints of `db/schema.ts`, and each public method is their sequence in
the source's order. An error is an exception that leaves the caller's
transaction, so the tables a call throws on stay as they were. Identifiers the
source draws from `randomUUID` are arguments.
-/
namespace Foc.Credit

structure Tables where
  wallets : AList fun _ : UserId => Wallet
  transactions : AList fun _ : TransactionId => CreditTransaction
  entries : List LedgerEntry
  operations : AList fun _ : OrderId × OperationType => Operation
  alerts : List AuditAlert
  outbox : List OutboxRow

def Tables.empty : Tables :=
  { wallets := ∅, transactions := ∅, entries := [], operations := ∅, alerts := [], outbox := [] }

abbrev Result := Except CreditError

def require (holds : Bool) (error : CreditError) : Result Unit :=
  if holds then .ok () else .error error

/-! ## Statements -/

def updateWallet (tables : Tables) (userId : UserId) (guard : Wallet → Bool)
    (change : Wallet → Wallet) : Result (Option (Wallet × Tables)) :=
  match tables.wallets.lookup userId with
  | none => .ok none
  | some row =>
      if guard row then do
        let changed := change row
        require (fitsInteger changed.available && fitsInteger changed.reserved) .integerOutOfRange
        require (decide (0 ≤ changed.available) && decide (0 ≤ changed.reserved)) .checkViolation
        return some (changed, { tables with wallets := tables.wallets.insert userId changed })
      else .ok none

/-- `credit_transactions_terminal_order_key` counts these. -/
def TransactionType.terminal : TransactionType → Bool
  | .release | .transfer => true
  | .issue | .reserve => false

def CreditTransaction.conflicts (row other : CreditTransaction) : Bool :=
  (row.orderId.isSome && decide (other.orderId = row.orderId) &&
    (decide (other.transactionType = row.transactionType) ||
      other.transactionType.terminal && row.transactionType.terminal)) ||
  (decide (row.transactionType = .issue) && decide (other.transactionType = .issue) &&
    decide (other.walletUserId = row.walletUserId))

def insertTransaction (tables : Tables) (transactionId : TransactionId)
    (row : CreditTransaction) : Result Tables := do
  require (fitsInteger row.amount) .integerOutOfRange
  require (decide (0 < row.amount)) .checkViolation
  require (tables.transactions.lookup transactionId).isNone .uniqueViolation
  require (!tables.transactions.entries.any fun other => row.conflicts other.2) .uniqueViolation
  require (tables.wallets.lookup row.walletUserId).isSome .foreignKeyViolation
  return { tables with transactions := tables.transactions.insert transactionId row }

def checkEntry (tables : Tables) (entry : LedgerEntry) : Result Unit := do
  require (fitsInteger entry.amount) .integerOutOfRange
  require (decide (0 < entry.amount)) .checkViolation
  require (decide (entry.walletUserId.isNone = entry.resulting.isNone)) .checkViolation
  require (entry.resulting.all fun balances =>
    decide (0 ≤ balances.available) && decide (0 ≤ balances.reserved)) .checkViolation
  require (!tables.entries.any fun other =>
    decide (other.transactionId = entry.transactionId) && decide (other.entryNo = entry.entryNo))
    .uniqueViolation
  require (tables.transactions.lookup entry.transactionId).isSome .foreignKeyViolation
  require (entry.walletUserId.all fun userId => (tables.wallets.lookup userId).isSome)
    .foreignKeyViolation

/-- The two-row `INSERT INTO ledger_entries` every movement makes. -/
def insertEntries (tables : Tables) (first second : LedgerEntry) : Result Tables := do
  checkEntry tables first
  checkEntry tables second
  return { tables with entries := tables.entries ++ [first, second] }

def pendingOperation (requesterId : UserId) (courierId : Option UserId) (amount : Int) :
    Operation :=
  { requesterId, courierId, amount, outcome := .pending, resultPayload := none }

/-- `INSERT INTO credit_operations ... ON CONFLICT DO NOTHING`; `none` when the
order already has its reservation. -/
def claimReservation (tables : Tables) (input : ReservationInput) :
    Result (Option Tables) := do
  require (fitsInteger input.amount) .integerOutOfRange
  require (decide (0 < input.amount)) .checkViolation
  match tables.operations.lookup (input.orderId, .reserve) with
  | some _ => return none
  | none => return some { tables with
      operations := tables.operations.insert (input.orderId, .reserve)
        (pendingOperation input.requesterId none input.amount) }

def findTerminalOperation (tables : Tables) (orderId : OrderId) :
    Option (OperationType × Operation) :=
  match tables.operations.lookup (orderId, .release) with
  | some operation => some (.release, operation)
  | none => (tables.operations.lookup (orderId, .transfer)).map fun operation =>
      (.transfer, operation)

def insertTerminalOperation (tables : Tables) (orderId : OrderId)
    (operationType : OperationType) (row : Operation) : Result Tables := do
  require (fitsInteger row.amount) .integerOutOfRange
  require (decide (0 < row.amount)) .checkViolation
  require (findTerminalOperation tables orderId).isNone .uniqueViolation
  require (row.courierId.all fun userId => (tables.wallets.lookup userId).isSome)
    .foreignKeyViolation
  return { tables with operations := tables.operations.insert (orderId, operationType) row }

def OperationOutcome.transactionId : OperationOutcome → Option TransactionId
  | .succeeded transactionId => some transactionId
  | .pending | .rejected _ _ => none

/-- `UPDATE credit_operations ... WHERE order_id = .. AND operation_type = ..`,
and, for a reservation, `AND requester_id = ..`. -/
def updateOperation (tables : Tables) (key : OrderId × OperationType)
    (guard : Operation → Bool) (change : Operation → Operation) : Result Tables :=
  match tables.operations.lookup key with
  | none => .ok tables
  | some row =>
      if guard row then do
        let changed := change row
        require (changed.outcome.transactionId.all fun transactionId =>
          (tables.transactions.lookup transactionId).isSome) .foreignKeyViolation
        return { tables with operations := tables.operations.insert key changed }
      else .ok tables

def ResultingBalance.parses (balances : ResultingBalance) : Bool :=
  decide (0 ≤ balances.available) && decide (0 ≤ balances.reserved) &&
    decide (0 ≤ balances.total) &&
    decide (balances.total = balances.available + balances.reserved)

def movementParses (orderId : OrderId) (requesterId : UserId) (amount : Int) : Bool :=
  decide (orderId ≠ "") && decide (requesterId ≠ "") && decide (0 < amount)

/-- The catalogue's schema for each payload (`PAYLOAD_SCHEMAS`). -/
def CreditEvent.parses : CreditEvent → Bool
  | .creditsReserved orderId requesterId amount => movementParses orderId requesterId amount
  | .creditReservationRejected orderId requesterId amount reason available =>
      movementParses orderId requesterId amount &&
        (decide (reason ≠ .insufficientCredits) || available.any fun held => decide (0 ≤ held))
  | .creditsTransferred result =>
      movementParses result.orderId result.requesterId result.amount &&
        decide (result.courierId ≠ "") && result.requesterBalance.parses &&
        result.courierBalance.parses
  | .creditsReleased result =>
      movementParses result.orderId result.requesterId result.amount &&
        result.requesterBalance.parses

def insertOutboxEvent (tables : Tables) (row : OutboxRow) : Result Tables := do
  require row.payload.parses .invalidPayload
  return { tables with outbox := tables.outbox ++ [row] }

/-! ## Reserve -/

def reachReservation (fault : ReservationBoundary → Bool) (boundary : ReservationBoundary) :
    Result Unit :=
  require (!fault boundary) (.reservationFault boundary)

/-- The event `writeOutcome` puts in the outbox. -/
def reservationReply (input : ReservationInput) (outcome : ReservationOutcome) : OutboxRow :=
  { aggregateId := input.orderId
    payload := match outcome with
      | .reserved _ => .creditsReserved input.orderId input.requesterId input.amount
      | .rejected reason available =>
          .creditReservationRejected input.orderId input.requesterId input.amount reason
            (if reason = .insufficientCredits then available else none)
    correlationId := input.correlationId
    causationId := input.causationId }

def writeOutcome (tables : Tables) (input : ReservationInput) (outcome : ReservationOutcome) :
    Result Tables :=
  insertOutboxEvent tables (reservationReply input outcome)

def recordedOutcome : OperationOutcome → Option ReservationOutcome
  | .pending => none
  | .succeeded transactionId => some (.reserved transactionId)
  | .rejected reason available => some (.rejected reason.reason available)

def reservationConflict (operation : Operation) (input : ReservationInput) : AuditAlert :=
  { orderId := input.orderId
    operationType := .reserve
    code := .conflictingRequest
    details := .recordedReservation operation.requesterId operation.amount
    requesterId := input.requesterId
    courierId := none
    amount := input.amount
    correlationId := input.correlationId }

def Operation.differs (operation : Operation) (input : ReservationInput) : Bool :=
  decide (operation.requesterId ≠ input.requesterId) || decide (operation.amount ≠ input.amount)

def replayOrRejectConflict (tables : Tables) (input : ReservationInput) :
    Result (ReservationOutcome × Tables) :=
  match tables.operations.lookup (input.orderId, .reserve) with
  | none => .error .conflictDisappeared
  | some operation =>
      if operation.differs input then do
        let conflict := ReservationOutcome.rejected .conflictingRequest none
        let tables ← writeOutcome
          { tables with alerts := tables.alerts ++ [reservationConflict operation input] }
          input conflict
        return (conflict, tables)
      else match recordedOutcome operation.outcome with
        | none => .error .stillPending
        | some outcome => do
            let tables ← writeOutcome tables input outcome
            return (outcome, tables)

def finishRejection (tables : Tables) (input : ReservationInput) (reason : RecordedRejection)
    (available : Option Int) : Result Tables :=
  updateOperation tables (input.orderId, .reserve)
    (fun row => decide (row.requesterId = input.requesterId))
    (fun row => { row with outcome := .rejected reason available })

/-- A refusal: the operation's outcome and the reply, with their boundaries. -/
def refuseReservation (tables : Tables) (input : ReservationInput) (reason : RecordedRejection)
    (available : Option Int) (fault : ReservationBoundary → Bool) :
    Result (ReservationOutcome × Tables) := do
  let outcome := ReservationOutcome.rejected reason.reason available
  let tables ← finishRejection tables input reason available
  reachReservation fault .operationFinalized
  let tables ← writeOutcome tables input outcome
  reachReservation fault .outboxWritten
  return (outcome, tables)

def reserveEntries (input : ReservationInput) (transactionId : TransactionId)
    (balances : Wallet) : LedgerEntry × LedgerEntry :=
  ({ transactionId, entryNo := 1, walletUserId := some input.requesterId,
     account := .available, direction := .debit, amount := input.amount,
     resulting := some balances },
   { transactionId, entryNo := 2, walletUserId := some input.requesterId,
     account := .reserved, direction := .credit, amount := input.amount,
     resulting := some balances })

/-- What `reserve` writes once the wallet's credit is set aside. -/
def recordReservation (tables : Tables) (input : ReservationInput) (balances : Wallet)
    (transactionId : TransactionId) (fault : ReservationBoundary → Bool) :
    Result (ReservationOutcome × Tables) := do
  let tables ← insertTransaction tables transactionId
    { orderId := some input.orderId, transactionType := .reserve,
      walletUserId := input.requesterId, amount := input.amount }
  reachReservation fault .transactionWritten
  let entries := reserveEntries input transactionId balances
  let tables ← insertEntries tables entries.1 entries.2
  reachReservation fault .ledgerWritten
  let tables ← updateOperation tables (input.orderId, .reserve)
    (fun row => decide (row.requesterId = input.requesterId))
    (fun row => { row with outcome := .succeeded transactionId })
  reachReservation fault .operationFinalized
  let outcome := ReservationOutcome.reserved transactionId
  let tables ← writeOutcome tables input outcome
  reachReservation fault .outboxWritten
  return (outcome, tables)

def reserve (tables : Tables) (input : ReservationInput) (transactionId : TransactionId)
    (fault : ReservationBoundary → Bool) : Result (ReservationOutcome × Tables) := do
  match ← claimReservation tables input with
  | none => replayOrRejectConflict tables input
  | some tables =>
      reachReservation fault .operationClaimed
      if input.amount > maxReservationAmount then
        refuseReservation tables input .amountOutOfRange none fault
      else
        match ← updateWallet tables input.requesterId
          (fun row => decide (input.amount ≤ row.available))
          (fun row => { available := row.available - input.amount,
                        reserved := row.reserved + input.amount }) with
        | none =>
            match tables.wallets.lookup input.requesterId with
            | none => .error (.walletNotReady input.requesterId)
            | some wallet =>
                refuseReservation tables input .insufficientCredits (some wallet.available) fault
        | some (balances, tables) =>
            reachReservation fault .walletUpdated
            recordReservation tables input balances transactionId fault

/-! ## Transfer and release -/

def reachTerminal (fault : TerminalBoundary → Bool) (boundary : TerminalBoundary) :
    Result Unit :=
  require (!fault boundary) (.terminalFault boundary)

def lockReservation (tables : Tables) (orderId : OrderId) : Result Operation :=
  match tables.operations.lookup (orderId, .reserve) with
  | none => .error (.reservationNotReady orderId)
  | some reservation =>
      if reservation.outcome = .pending then .error (.reservationNotReady orderId)
      else .ok reservation

/-- What `validateReservation` refuses a request with, if it does. -/
def validateReservation (reservation : Operation) (input : ReservationInput) :
    Option (TerminalRejection × AlertDetails) :=
  if reservation.outcome.transactionId.isNone then
    some (.reservationNotActive, .reservationOutcome reservation.outcome.name)
  else if reservation.differs input then
    some (.conflictingRequest,
      .recordedReservation reservation.requesterId reservation.amount)
  else none

def rejectTerminal (tables : Tables) (input : ReservationInput) (courierId : Option UserId)
    (operationType : OperationType) (reason : TerminalRejection) (details : AlertDetails) :
    Tables :=
  { tables with alerts := tables.alerts ++
      [{ orderId := input.orderId, operationType, code := reason, details,
         requesterId := input.requesterId, courierId, amount := input.amount,
         correlationId := input.correlationId }] }

def recordedDetails (prior : OperationType × Operation) : AlertDetails :=
  .recordedOperation prior.1 prior.2.requesterId prior.2.courierId prior.2.amount

def priorRejection (prior requested : OperationType) : TerminalRejection :=
  if prior = requested then .conflictingRequest else .terminalOperationConflict

def transferReply (input : TransferInput) (result : TransferResult) : OutboxRow :=
  { aggregateId := input.orderId, payload := .creditsTransferred result,
    correlationId := input.correlationId, causationId := input.causationId }

def releaseReply (input : ReleaseInput) (result : ReleaseResult) : OutboxRow :=
  { aggregateId := input.orderId, payload := .creditsReleased result,
    correlationId := input.correlationId, causationId := input.causationId }

/-- `creditsTransferredPayload.parse(prior.result_payload)`. -/
def parseTransferred : ResultPayload → Result TransferResult
  | .transferred result =>
      if (CreditEvent.creditsTransferred result).parses then .ok result
      else .error .invalidPayload
  | .released _ => .error .invalidPayload

/-- `creditsReleasedPayload.parse(prior.result_payload)`, which drops the
fields a release does not have. -/
def parseReleased (payload : ResultPayload) : Result ReleaseResult :=
  let result : ReleaseResult := match payload with
    | .released result => result
    | .transferred result =>
        { orderId := result.orderId, requesterId := result.requesterId, amount := result.amount,
          transactionId := result.transactionId, requesterBalance := result.requesterBalance }
  if (CreditEvent.creditsReleased result).parses then .ok result else .error .invalidPayload

/-- The recorded result, when the prior operation settled and kept one. -/
def Operation.replayable (operation : Operation) : Option ResultPayload :=
  operation.outcome.transactionId.bind fun _ => operation.resultPayload

def replayTransferOrReject (tables : Tables) (prior : OperationType × Operation)
    (input : TransferInput) : Result (TransferOutcome × Tables) :=
  if prior.1 ≠ .transfer ∨ prior.2.differs input.toReservationInput ∨
      prior.2.courierId ≠ some input.courierId then
    let reason := priorRejection prior.1 .transfer
    .ok (.rejected reason, rejectTerminal tables input.toReservationInput
      (some input.courierId) .transfer reason (recordedDetails prior))
  else match prior.2.replayable with
    | none => .error (.transferNotReplayable input.orderId)
    | some payload => do
        let result ← parseTransferred payload
        let tables ← insertOutboxEvent tables (transferReply input result)
        return (.transferred result, tables)

def replayReleaseOrReject (tables : Tables) (prior : OperationType × Operation)
    (input : ReleaseInput) : Result (ReleaseOutcome × Tables) :=
  if prior.1 ≠ .release ∨ prior.2.differs input then
    let reason := priorRejection prior.1 .release
    .ok (.rejected reason, rejectTerminal tables input none .release reason
      (recordedDetails prior))
  else match prior.2.replayable with
    | none => .error (.releaseNotReplayable input.orderId)
    | some payload => do
        let result ← parseReleased payload
        let tables ← insertOutboxEvent tables (releaseReply input result)
        return (.released result, tables)

def finishTerminal (tables : Tables) (orderId : OrderId) (operationType : OperationType)
    (transactionId : TransactionId) (result : ResultPayload) : Result Tables :=
  updateOperation tables (orderId, operationType) (fun _ => true)
    (fun row => { row with outcome := .succeeded transactionId, resultPayload := some result })

/-- What both settlements write once the wallets are changed: the transaction,
its two entries, the operation's result and the reply. -/
def recordSettlement (tables : Tables) (orderId : OrderId) (operationType : OperationType)
    (transactionId : TransactionId) (row : CreditTransaction) (first second : LedgerEntry)
    (result : ResultPayload) (reply : OutboxRow) (fault : TerminalBoundary → Bool) :
    Result Tables := do
  let tables ← insertTransaction tables transactionId row
  reachTerminal fault .transactionWritten
  let tables ← insertEntries tables first second
  reachTerminal fault .ledgerWritten
  let tables ← finishTerminal tables orderId operationType transactionId result
  reachTerminal fault .operationFinalized
  let tables ← insertOutboxEvent tables reply
  reachTerminal fault .outboxWritten
  return tables

def transferEntries (input : TransferInput) (transactionId : TransactionId)
    (requester courier : Wallet) : LedgerEntry × LedgerEntry :=
  ({ transactionId, entryNo := 1, walletUserId := some input.requesterId,
     account := .reserved, direction := .debit, amount := input.amount,
     resulting := some requester },
   { transactionId, entryNo := 2, walletUserId := some input.courierId,
     account := .available, direction := .credit, amount := input.amount,
     resulting := some courier })

def transferResult (input : TransferInput) (transactionId : TransactionId)
    (requester courier : Wallet) : TransferResult :=
  { orderId := input.orderId, requesterId := input.requesterId, courierId := input.courierId,
    amount := input.amount, transactionId, requesterBalance := balance requester,
    courierBalance := balance courier }

def transfer (tables : Tables) (input : TransferInput) (transactionId : TransactionId)
    (fault : TerminalBoundary → Bool) : Result (TransferOutcome × Tables) := do
  let reservation ← lockReservation tables input.orderId
  reachTerminal fault .reservationLocked
  match validateReservation reservation input.toReservationInput with
  | some (reason, details) =>
      return (.rejected reason, rejectTerminal tables input.toReservationInput
        (some input.courierId) .transfer reason details)
  | none =>
  if input.requesterId = input.courierId then
    return (.rejected .invalidParticipants, rejectTerminal tables input.toReservationInput
      (some input.courierId) .transfer .invalidParticipants
      (.participants "requester and courier must differ"))
  else match findTerminalOperation tables input.orderId with
  | some prior => replayTransferOrReject tables prior input
  | none =>
  require (tables.wallets.lookup input.courierId).isSome (.walletNotReady input.courierId)
  require (tables.wallets.lookup input.requesterId).isSome (.walletNotReady input.requesterId)
  let tables ← insertTerminalOperation tables input.orderId .transfer
    (pendingOperation input.requesterId (some input.courierId) input.amount)
  reachTerminal fault .operationClaimed
  match ← updateWallet tables input.requesterId
    (fun row => decide (input.amount ≤ row.reserved))
    (fun row => { row with reserved := row.reserved - input.amount }) with
  | none => .error (.notBacked input.orderId)
  | some (requester, tables) =>
  reachTerminal fault .requesterWalletUpdated
  match ← updateWallet tables input.courierId (fun _ => true)
    (fun row => { row with available := row.available + input.amount }) with
  | none => .error (.walletNotReady input.courierId)
  | some (courier, tables) =>
  reachTerminal fault .courierWalletUpdated
  let entries := transferEntries input transactionId requester courier
  let result := transferResult input transactionId requester courier
  let tables ← recordSettlement tables input.orderId .transfer transactionId
    { orderId := some input.orderId, transactionType := .transfer,
      walletUserId := input.requesterId, amount := input.amount }
    entries.1 entries.2 (.transferred result) (transferReply input result) fault
  return (.transferred result, tables)

def releaseEntries (input : ReleaseInput) (transactionId : TransactionId)
    (requester : Wallet) : LedgerEntry × LedgerEntry :=
  ({ transactionId, entryNo := 1, walletUserId := some input.requesterId,
     account := .reserved, direction := .debit, amount := input.amount,
     resulting := some requester },
   { transactionId, entryNo := 2, walletUserId := some input.requesterId,
     account := .available, direction := .credit, amount := input.amount,
     resulting := some requester })

def releaseResult (input : ReleaseInput) (transactionId : TransactionId)
    (requester : Wallet) : ReleaseResult :=
  { orderId := input.orderId, requesterId := input.requesterId, amount := input.amount,
    transactionId, requesterBalance := balance requester }

def release (tables : Tables) (input : ReleaseInput) (transactionId : TransactionId)
    (fault : TerminalBoundary → Bool) : Result (ReleaseOutcome × Tables) := do
  let reservation ← lockReservation tables input.orderId
  reachTerminal fault .reservationLocked
  match validateReservation reservation input with
  | some (reason, details) =>
      return (.rejected reason, rejectTerminal tables input none .release reason details)
  | none =>
  match findTerminalOperation tables input.orderId with
  | some prior => replayReleaseOrReject tables prior input
  | none =>
  let tables ← insertTerminalOperation tables input.orderId .release
    (pendingOperation input.requesterId none input.amount)
  reachTerminal fault .operationClaimed
  match ← updateWallet tables input.requesterId
    (fun row => decide (input.amount ≤ row.reserved))
    (fun row => { available := row.available + input.amount,
                  reserved := row.reserved - input.amount }) with
  | none => .error (.notBacked input.orderId)
  | some (requester, tables) =>
  reachTerminal fault .requesterWalletUpdated
  let entries := releaseEntries input transactionId requester
  let result := releaseResult input transactionId requester
  let tables ← recordSettlement tables input.orderId .release transactionId
    { orderId := some input.orderId, transactionType := .release,
      walletUserId := input.requesterId, amount := input.amount }
    entries.1 entries.2 (.released result) (releaseReply input result) fault
  return (.released result, tables)

/-! ## Issuance -/

def issueEntries (userId : UserId) (initialAllocation : Int) (transactionId : TransactionId) :
    LedgerEntry × LedgerEntry :=
  ({ transactionId, entryNo := 1, walletUserId := none, account := .platformIssuance,
     direction := .debit, amount := initialAllocation, resulting := none },
   { transactionId, entryNo := 2, walletUserId := some userId, account := .available,
     direction := .credit, amount := initialAllocation,
     resulting := some { available := initialAllocation, reserved := 0 } })

def issueInitial (tables : Tables) (userId : UserId) (initialAllocation : Int)
    (transactionId : TransactionId) : Result (Bool × Tables) := do
  require (fitsInteger initialAllocation) .integerOutOfRange
  require (decide (0 ≤ initialAllocation)) .checkViolation
  match tables.wallets.lookup userId with
  | some _ => return (false, tables)
  | none =>
      let tables := { tables with
        wallets := tables.wallets.insert userId { available := initialAllocation, reserved := 0 } }
      let tables ← insertTransaction tables transactionId
        { orderId := none, transactionType := .issue, walletUserId := userId,
          amount := initialAllocation }
      let entries := issueEntries userId initialAllocation transactionId
      let tables ← insertEntries tables entries.1 entries.2
      return (true, tables)

/-! ## Calls -/

/-- One call of the repository inside a consumer's transaction. -/
inductive Call where
  | issueInitial (userId : UserId) (initialAllocation : Int) (transactionId : TransactionId)
  | reserve (input : ReservationInput) (transactionId : TransactionId)
      (fault : ReservationBoundary → Bool)
  | transfer (input : TransferInput) (transactionId : TransactionId)
      (fault : TerminalBoundary → Bool)
  | release (input : ReleaseInput) (transactionId : TransactionId)
      (fault : TerminalBoundary → Bool)

inductive Outcome where
  | issued (created : Bool)
  | reservation (outcome : ReservationOutcome)
  | transfer (outcome : TransferOutcome)
  | release (outcome : ReleaseOutcome)
  deriving DecidableEq, Repr

def execute (tables : Tables) : Call → Result (Outcome × Tables)
  | .issueInitial userId initialAllocation transactionId => do
      let (created, tables) ← issueInitial tables userId initialAllocation transactionId
      return (.issued created, tables)
  | .reserve input transactionId fault => do
      let (outcome, tables) ← reserve tables input transactionId fault
      return (.reservation outcome, tables)
  | .transfer input transactionId fault => do
      let (outcome, tables) ← transfer tables input transactionId fault
      return (.transfer outcome, tables)
  | .release input transactionId fault => do
      let (outcome, tables) ← release tables input transactionId fault
      return (.release outcome, tables)

/-- A call in its own transaction: what throws, or is rolled back by its caller
afterwards, leaves nothing behind. -/
structure Attempt where
  call : Call
  commits : Bool

def attempt (tables : Tables) (tried : Attempt) : Tables :=
  match execute tables tried.call with
  | .ok (_, changed) => if tried.commits then changed else tables
  | .error _ => tables

def run (tables : Tables) (attempts : List Attempt) : Tables :=
  attempts.foldl attempt tables

end Foc.Credit
