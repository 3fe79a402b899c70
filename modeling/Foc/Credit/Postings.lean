import Foc.Credit.Repository

/-!
What each call that returns has written. One relation for each method lists its
ways out of the source, with the tests it passed and the tables it left; the
statements and their constraints are not read again after this file.
-/
namespace Foc.Credit

variable {tables after : Tables}

theorem bind_ok {Value Next : Type} (first : Result Value) (next : Value → Result Next)
    (result : Next) :
    (first >>= next) = .ok result ↔ ∃ value, first = .ok value ∧ next value = .ok result := by
  cases first <;> simp [bind, Except.bind]

@[simp] theorem require_ok (holds : Bool) (error : CreditError) (result : Unit) :
    require holds error = .ok result ↔ holds = true := by
  cases holds <;> simp [require]

@[simp] theorem return_ok {Value : Type} (value result : Value) :
    (pure value : Result Value) = .ok result ↔ value = result := by
  simp [pure, Except.pure]

/-! ## Statements -/

theorem insert_transaction_ok {transactionId : TransactionId} {row : CreditTransaction}
    (inserted : insertTransaction tables transactionId row = .ok after) :
    0 < row.amount ∧ tables.transactions.lookup transactionId = none ∧
      after = { tables with
        transactions := tables.transactions.insert transactionId row } := by
  simp only [insertTransaction, bind_ok, require_ok, return_ok, decide_eq_true_eq,
    Option.isNone_iff_eq_none] at inserted
  obtain ⟨_, _, _, positive, _, absent, _, _, _, _, same⟩ := inserted
  exact ⟨positive, absent, same.symm⟩

theorem insert_entries_ok {first second : LedgerEntry}
    (inserted : insertEntries tables first second = .ok after) :
    after = { tables with entries := tables.entries ++ [first, second] } := by
  simp only [insertEntries, bind_ok, return_ok] at inserted
  obtain ⟨_, _, _, _, same⟩ := inserted
  exact same.symm

theorem update_wallet_ok {userId : UserId} {guard : Wallet → Bool} {change : Wallet → Wallet}
    {changed : Wallet} (updated : updateWallet tables userId guard change =
      .ok (some (changed, after))) :
    ∃ row, tables.wallets.lookup userId = some row ∧ guard row = true ∧ changed = change row ∧
      0 ≤ changed.available ∧ 0 ≤ changed.reserved ∧
      after = { tables with wallets := tables.wallets.insert userId changed } := by
  unfold updateWallet at updated
  split at updated
  · simp at updated
  · rename_i row found
    split at updated
    · rename_i guarded
      simp only [bind_ok, require_ok, return_ok, Option.some.injEq, Prod.mk.injEq,
        Bool.and_eq_true, decide_eq_true_eq] at updated
      obtain ⟨_, _, _, nonneg, rfl, same⟩ := updated
      exact ⟨row, found, guarded, rfl, nonneg.1, nonneg.2, same.symm⟩
    · simp at updated

theorem update_wallet_missed {userId : UserId} {guard : Wallet → Bool}
    {change : Wallet → Wallet} (missed : updateWallet tables userId guard change = .ok none) :
    ∀ row, tables.wallets.lookup userId = some row → guard row = false := by
  intro row found
  unfold updateWallet at missed
  rw [found] at missed
  by_cases guarded : guard row = true
  · simp only [guarded, if_true, bind_ok, return_ok] at missed
    obtain ⟨_, _, _, _, impossible⟩ := missed
    exact nomatch impossible
  · simpa using guarded

theorem update_operation_ok {key : OrderId × OperationType} {guard : Operation → Bool}
    {change : Operation → Operation} (row : Operation)
    (found : tables.operations.lookup key = some row) (guarded : guard row = true)
    (updated : updateOperation tables key guard change = .ok after) :
    after = { tables with operations := tables.operations.insert key (change row) } := by
  simp only [updateOperation, found, guarded, if_true, bind_ok, return_ok] at updated
  obtain ⟨_, _, same⟩ := updated
  exact same.symm

theorem insert_outbox_ok {row : OutboxRow} (inserted : insertOutboxEvent tables row = .ok after) :
    after = { tables with outbox := tables.outbox ++ [row] } := by
  simp only [insertOutboxEvent, bind_ok, return_ok] at inserted
  obtain ⟨_, _, same⟩ := inserted
  exact same.symm

theorem insert_terminal_ok {orderId : OrderId} {operationType : OperationType}
    {row : Operation}
    (inserted : insertTerminalOperation tables orderId operationType row = .ok after) :
    0 < row.amount ∧ after = { tables with
      operations := tables.operations.insert (orderId, operationType) row } := by
  simp only [insertTerminalOperation, bind_ok, require_ok, return_ok, decide_eq_true_eq]
    at inserted
  obtain ⟨_, _, _, positive, _, _, _, _, same⟩ := inserted
  exact ⟨positive, same.symm⟩

theorem lock_reservation_ok {orderId : OrderId} {reservation : Operation}
    (locked : lockReservation tables orderId = .ok reservation) :
    tables.operations.lookup (orderId, .reserve) = some reservation ∧
      reservation.outcome ≠ .pending := by
  unfold lockReservation at locked
  split at locked
  · simp at locked
  · rename_i row found
    split at locked
    · simp at locked
    · rename_i finished
      simp only [Except.ok.injEq] at locked
      subst locked
      exact ⟨found, finished⟩

/-! ## Methods -/

/-- The part of the tables every movement of credit writes. -/
def Tables.book (tables : Tables) (transactionId : TransactionId) (row : CreditTransaction)
    (entries : LedgerEntry × LedgerEntry) : Tables :=
  { tables with
    transactions := tables.transactions.insert transactionId row
    entries := tables.entries ++ [entries.1, entries.2] }

def Tables.hold (tables : Tables) (userId : UserId) (balances : Wallet) : Tables :=
  { tables with wallets := tables.wallets.insert userId balances }

def Tables.settle (tables : Tables) (key : OrderId × OperationType) (operation : Operation)
    (reply : OutboxRow) : Tables :=
  { tables with
    operations := tables.operations.insert key operation
    outbox := tables.outbox ++ [reply] }

def reservedBalances (wallet : Wallet) (amount : Int) : Wallet :=
  { available := wallet.available - amount, reserved := wallet.reserved + amount }

def reserveTransaction (input : ReservationInput) : CreditTransaction :=
  { orderId := some input.orderId, transactionType := .reserve,
    walletUserId := input.requesterId, amount := input.amount }

/-- How `reserve` returns. -/
inductive Reserved (tables : Tables) (input : ReservationInput)
    (transactionId : TransactionId) : ReservationOutcome → Tables → Prop where
  | conflict (operation : Operation)
      (found : tables.operations.lookup (input.orderId, .reserve) = some operation)
      (differs : operation.differs input = true) :
      Reserved tables input transactionId (.rejected .conflictingRequest none)
        { tables with
          alerts := tables.alerts ++ [reservationConflict operation input]
          outbox := tables.outbox ++
            [reservationReply input (.rejected .conflictingRequest none)] }
  | replay (operation : Operation) (outcome : ReservationOutcome)
      (found : tables.operations.lookup (input.orderId, .reserve) = some operation)
      (same : operation.differs input = false)
      (recorded : recordedOutcome operation.outcome = some outcome) :
      Reserved tables input transactionId outcome
        { tables with outbox := tables.outbox ++ [reservationReply input outcome] }
  | refuse (reason : RecordedRejection) (available : Option Int)
      (absent : tables.operations.lookup (input.orderId, .reserve) = none)
      (positive : 0 < input.amount)
      (cause : maxReservationAmount < input.amount ∧ reason = .amountOutOfRange ∧
          available = none ∨
        ∃ wallet, tables.wallets.lookup input.requesterId = some wallet ∧
          wallet.available < input.amount ∧ reason = .insufficientCredits ∧
          available = some wallet.available) :
      Reserved tables input transactionId (.rejected reason.reason available)
        (tables.settle (input.orderId, .reserve)
          { pendingOperation input.requesterId none input.amount with
            outcome := .rejected reason available }
          (reservationReply input (.rejected reason.reason available)))
  | reserve (wallet : Wallet)
      (absent : tables.operations.lookup (input.orderId, .reserve) = none)
      (positive : 0 < input.amount) (ranged : input.amount ≤ maxReservationAmount)
      (held : tables.wallets.lookup input.requesterId = some wallet)
      (nonneg : input.amount ≤ wallet.available ∧ 0 ≤ wallet.reserved + input.amount)
      (fresh : tables.transactions.lookup transactionId = none) :
      Reserved tables input transactionId (.reserved transactionId)
        (((tables.hold input.requesterId (reservedBalances wallet input.amount)).book
          transactionId (reserveTransaction input)
          (reserveEntries input transactionId (reservedBalances wallet input.amount))).settle
          (input.orderId, .reserve)
          { pendingOperation input.requesterId none input.amount with
            outcome := .succeeded transactionId }
          (reservationReply input (.reserved transactionId)))

theorem claim_reservation_ok {input : ReservationInput} {claimed : Option Tables}
    (returned : claimReservation tables input = .ok claimed) :
    0 < input.amount ∧
      match claimed with
      | none => ∃ operation,
          tables.operations.lookup (input.orderId, .reserve) = some operation
      | some after =>
          tables.operations.lookup (input.orderId, .reserve) = none ∧
            after = { tables with
              operations := tables.operations.insert (input.orderId, .reserve)
                (pendingOperation input.requesterId none input.amount) } := by
  simp only [claimReservation, bind_ok, require_ok, decide_eq_true_eq] at returned
  obtain ⟨_, _, _, positive, claim⟩ := returned
  refine ⟨positive, ?_⟩
  cases found : tables.operations.lookup (input.orderId, .reserve) with
  | none =>
      simp only [found, return_ok] at claim
      subst claim
      exact ⟨rfl, rfl⟩
  | some operation =>
      simp only [found, return_ok] at claim
      subst claim
      exact ⟨operation, rfl⟩

theorem replay_reservation_ok {input : ReservationInput} (transactionId : TransactionId)
    {outcome : ReservationOutcome}
    (returned : replayOrRejectConflict tables input = .ok (outcome, after)) :
    Reserved tables input transactionId outcome after := by
  unfold replayOrRejectConflict at returned
  split at returned
  · simp at returned
  · rename_i operation found
    split at returned
    · rename_i differs
      simp only [bind_ok, return_ok, Prod.mk.injEq] at returned
      obtain ⟨_, written, rfl, rfl⟩ := returned
      rw [insert_outbox_ok written]
      exact .conflict operation found differs
    · rename_i same
      split at returned
      · simp at returned
      · rename_i recorded
        simp only [bind_ok, return_ok, Prod.mk.injEq] at returned
        obtain ⟨_, written, rfl, rfl⟩ := returned
        rw [insert_outbox_ok written]
        exact .replay operation _ found (by simpa using same) recorded

theorem refuse_reservation_ok {input : ReservationInput} {reason : RecordedRejection}
    {available : Option Int} {fault : ReservationBoundary → Bool}
    {outcome : ReservationOutcome} {operation : Operation}
    (found : tables.operations.lookup (input.orderId, .reserve) = some operation)
    (own : operation.requesterId = input.requesterId)
    (returned : refuseReservation tables input reason available fault = .ok (outcome, after)) :
    outcome = .rejected reason.reason available ∧
      after = tables.settle (input.orderId, .reserve)
        { operation with outcome := .rejected reason available }
        (reservationReply input (.rejected reason.reason available)) := by
  simp only [refuseReservation, bind_ok, return_ok, Prod.mk.injEq] at returned
  obtain ⟨_, finished, _, _, _, written, _, _, rfl, rfl⟩ := returned
  rw [insert_outbox_ok written, update_operation_ok operation found (by simp [own]) finished]
  exact ⟨rfl, rfl⟩

theorem record_reservation_ok {input : ReservationInput} {balances : Wallet}
    {transactionId : TransactionId} {fault : ReservationBoundary → Bool}
    {outcome : ReservationOutcome} {operation : Operation}
    (found : tables.operations.lookup (input.orderId, .reserve) = some operation)
    (own : operation.requesterId = input.requesterId)
    (returned : recordReservation tables input balances transactionId fault =
      .ok (outcome, after)) :
    outcome = .reserved transactionId ∧
      tables.transactions.lookup transactionId = none ∧
      after = (tables.book transactionId (reserveTransaction input)
        (reserveEntries input transactionId balances)).settle (input.orderId, .reserve)
        { operation with outcome := .succeeded transactionId }
        (reservationReply input (.reserved transactionId)) := by
  simp only [recordReservation, bind_ok, return_ok, Prod.mk.injEq] at returned
  obtain ⟨_, inserted, _, _, _, entered, _, _, _, finished, _, _, _, written, _, _, rfl, rfl⟩ :=
    returned
  obtain ⟨_, fresh, rfl⟩ := insert_transaction_ok inserted
  obtain rfl := insert_entries_ok entered
  obtain rfl := update_operation_ok operation (by exact found) (by simp [own]) finished
  obtain rfl := insert_outbox_ok written
  exact ⟨rfl, fresh, rfl⟩

theorem reserve_ok {input : ReservationInput} {transactionId : TransactionId}
    {fault : ReservationBoundary → Bool} {outcome : ReservationOutcome}
    (returned : reserve tables input transactionId fault = .ok (outcome, after)) :
    Reserved tables input transactionId outcome after := by
  simp only [reserve, bind_ok] at returned
  obtain ⟨claimed, claim, rest⟩ := returned
  obtain ⟨positive, claimedCase⟩ := claim_reservation_ok claim
  cases claimed with
  | none => exact replay_reservation_ok transactionId rest
  | some pending =>
      obtain ⟨absent, rfl⟩ := claimedCase
      simp only [bind_ok] at rest
      obtain ⟨_, _, rest⟩ := rest
      split at rest
      · rename_i large
        obtain ⟨rfl, rfl⟩ := refuse_reservation_ok (AList.lookup_insert _) rfl rest
        simp only [Tables.settle, AList.insert_insert]
        exact .refuse .amountOutOfRange none absent positive (.inl ⟨large, rfl, rfl⟩)
      · rename_i ranged
        simp only [bind_ok] at rest
        obtain ⟨updated, update, rest⟩ := rest
        cases updated with
        | none =>
            have missed := update_wallet_missed update
            dsimp only at rest
            split at rest
            · simp at rest
            · rename_i wallet held
              have short := missed wallet held
              obtain ⟨rfl, rfl⟩ := refuse_reservation_ok (AList.lookup_insert _) rfl rest
              simp only [Tables.settle, AList.insert_insert]
              exact .refuse .insufficientCredits (some wallet.available) absent positive
                (.inr ⟨wallet, held, by simpa using short, rfl, rfl⟩)
        | some written =>
            obtain ⟨balances, held⟩ := written
            obtain ⟨wallet, found, enough, rfl, _, nonneg, rfl⟩ := update_wallet_ok update
            simp only [bind_ok] at rest
            obtain ⟨_, _, rest⟩ := rest
            obtain ⟨rfl, fresh, rfl⟩ := record_reservation_ok (AList.lookup_insert _) rfl rest
            simp only [Tables.settle, Tables.book, AList.insert_insert]
            exact .reserve wallet absent positive (by omega) found
              ⟨by simpa using enough, nonneg⟩ fresh

def terminalTransaction (input : ReservationInput) (transactionType : TransactionType) :
    CreditTransaction :=
  { orderId := some input.orderId, transactionType, walletUserId := input.requesterId,
    amount := input.amount }

/-- A live reservation that names this requester and amount, not yet settled. -/
structure Settleable (tables : Tables) (input : ReservationInput) (reservation : Operation) :
    Prop where
  found : tables.operations.lookup (input.orderId, .reserve) = some reservation
  valid : validateReservation reservation input = none
  unsettled : findTerminalOperation tables input.orderId = none

def debitedBalances (wallet : Wallet) (amount : Int) : Wallet :=
  { wallet with reserved := wallet.reserved - amount }

def paidBalances (wallet : Wallet) (amount : Int) : Wallet :=
  { wallet with available := wallet.available + amount }

def releasedBalances (wallet : Wallet) (amount : Int) : Wallet :=
  { available := wallet.available + amount, reserved := wallet.reserved - amount }

def settledOperation (input : ReservationInput) (courierId : Option UserId)
    (transactionId : TransactionId) (result : ResultPayload) : Operation :=
  { pendingOperation input.requesterId courierId input.amount with
    outcome := .succeeded transactionId, resultPayload := some result }

/-- How `transfer` returns. -/
inductive Transferred (tables : Tables) (input : TransferInput)
    (transactionId : TransactionId) : TransferOutcome → Tables → Prop where
  | invalid (reservation : Operation) (reason : TerminalRejection) (details : AlertDetails)
      (found : tables.operations.lookup (input.orderId, .reserve) = some reservation)
      (invalid : validateReservation reservation input.toReservationInput =
        some (reason, details)) :
      Transferred tables input transactionId (.rejected reason)
        (rejectTerminal tables input.toReservationInput (some input.courierId) .transfer
          reason details)
  | participants (same : input.requesterId = input.courierId) :
      Transferred tables input transactionId (.rejected .invalidParticipants)
        (rejectTerminal tables input.toReservationInput (some input.courierId) .transfer
          .invalidParticipants (.participants "requester and courier must differ"))
  | conflict (prior : OperationType × Operation)
      (found : findTerminalOperation tables input.orderId = some prior)
      (differs : prior.1 ≠ .transfer ∨ prior.2.differs input.toReservationInput = true ∨
        prior.2.courierId ≠ some input.courierId) :
      Transferred tables input transactionId (.rejected (priorRejection prior.1 .transfer))
        (rejectTerminal tables input.toReservationInput (some input.courierId) .transfer
          (priorRejection prior.1 .transfer) (recordedDetails prior))
  | replay (prior : Operation) (result : TransferResult)
      (found : findTerminalOperation tables input.orderId = some (.transfer, prior))
      (same : prior.differs input.toReservationInput = false ∧
        prior.courierId = some input.courierId)
      (recorded : prior.resultPayload = some (.transferred result)) :
      Transferred tables input transactionId (.transferred result)
        { tables with outbox := tables.outbox ++ [transferReply input result] }
  | transfer (reservation : Operation) (requester courier : Wallet)
      (settleable : Settleable tables input.toReservationInput reservation)
      (different : input.requesterId ≠ input.courierId) (positive : 0 < input.amount)
      (heldRequester : tables.wallets.lookup input.requesterId = some requester)
      (heldCourier : tables.wallets.lookup input.courierId = some courier)
      (nonneg : 0 ≤ requester.available ∧ input.amount ≤ requester.reserved ∧
        0 ≤ courier.available + input.amount ∧ 0 ≤ courier.reserved)
      (fresh : tables.transactions.lookup transactionId = none) :
      Transferred tables input transactionId
        (.transferred (transferResult input transactionId
          (debitedBalances requester input.amount) (paidBalances courier input.amount)))
        ((((tables.hold input.requesterId (debitedBalances requester input.amount)).hold
          input.courierId (paidBalances courier input.amount)).book transactionId
          (terminalTransaction input.toReservationInput .transfer)
          (transferEntries input transactionId (debitedBalances requester input.amount)
            (paidBalances courier input.amount))).settle (input.orderId, .transfer)
          (settledOperation input.toReservationInput (some input.courierId) transactionId
            (.transferred (transferResult input transactionId
              (debitedBalances requester input.amount) (paidBalances courier input.amount))))
          (transferReply input (transferResult input transactionId
            (debitedBalances requester input.amount) (paidBalances courier input.amount))))

/-- How `release` returns. -/
inductive Released (tables : Tables) (input : ReleaseInput)
    (transactionId : TransactionId) : ReleaseOutcome → Tables → Prop where
  | invalid (reservation : Operation) (reason : TerminalRejection) (details : AlertDetails)
      (found : tables.operations.lookup (input.orderId, .reserve) = some reservation)
      (invalid : validateReservation reservation input = some (reason, details)) :
      Released tables input transactionId (.rejected reason)
        (rejectTerminal tables input none .release reason details)
  | conflict (prior : OperationType × Operation)
      (found : findTerminalOperation tables input.orderId = some prior)
      (differs : prior.1 ≠ .release ∨ prior.2.differs input = true) :
      Released tables input transactionId (.rejected (priorRejection prior.1 .release))
        (rejectTerminal tables input none .release (priorRejection prior.1 .release)
          (recordedDetails prior))
  | replay (prior : Operation) (payload : ResultPayload) (result : ReleaseResult)
      (found : findTerminalOperation tables input.orderId = some (.release, prior))
      (same : prior.differs input = false) (recorded : prior.resultPayload = some payload)
      (parsed : parseReleased payload = .ok result) :
      Released tables input transactionId (.released result)
        { tables with outbox := tables.outbox ++ [releaseReply input result] }
  | release (reservation : Operation) (requester : Wallet)
      (settleable : Settleable tables input reservation) (positive : 0 < input.amount)
      (held : tables.wallets.lookup input.requesterId = some requester)
      (nonneg : 0 ≤ requester.available + input.amount ∧ input.amount ≤ requester.reserved)
      (fresh : tables.transactions.lookup transactionId = none) :
      Released tables input transactionId
        (.released (releaseResult input transactionId
          (releasedBalances requester input.amount)))
        (((tables.hold input.requesterId (releasedBalances requester input.amount)).book
          transactionId (terminalTransaction input .release)
          (releaseEntries input transactionId
            (releasedBalances requester input.amount))).settle (input.orderId, .release)
          (settledOperation input none transactionId (.released (releaseResult input
            transactionId (releasedBalances requester input.amount))))
          (releaseReply input (releaseResult input transactionId
            (releasedBalances requester input.amount))))

theorem record_settlement_ok {orderId : OrderId} {operationType : OperationType}
    {transactionId : TransactionId} {row : CreditTransaction} {first second : LedgerEntry}
    {result : ResultPayload} {reply : OutboxRow} {fault : TerminalBoundary → Bool}
    {operation : Operation}
    (found : tables.operations.lookup (orderId, operationType) = some operation)
    (returned : recordSettlement tables orderId operationType transactionId row first second
      result reply fault = .ok after) :
    tables.transactions.lookup transactionId = none ∧
      after = (tables.book transactionId row (first, second)).settle (orderId, operationType)
        { operation with outcome := .succeeded transactionId, resultPayload := some result }
        reply := by
  simp only [recordSettlement, bind_ok, return_ok] at returned
  obtain ⟨_, inserted, _, _, _, entered, _, _, _, finished, _, _, _, written, _, _, rfl⟩ :=
    returned
  obtain ⟨_, fresh, rfl⟩ := insert_transaction_ok inserted
  obtain rfl := insert_entries_ok entered
  obtain rfl := update_operation_ok operation (by exact found) rfl finished
  obtain rfl := insert_outbox_ok written
  exact ⟨fresh, rfl⟩

theorem replayable_some {operation : Operation} {payload : ResultPayload}
    (replayable : operation.replayable = some payload) :
    operation.resultPayload = some payload := by
  unfold Operation.replayable at replayable
  cases settled : operation.outcome.transactionId <;> simp_all

theorem parse_transferred_ok {payload : ResultPayload} {result : TransferResult}
    (parsed : parseTransferred payload = .ok result) : payload = .transferred result := by
  cases payload with
  | released stored => simp [parseTransferred] at parsed
  | transferred stored =>
      simp only [parseTransferred] at parsed
      split at parsed
      · simpa using parsed
      · simp at parsed

theorem replay_transfer_ok {prior : OperationType × Operation} {input : TransferInput}
    (transactionId : TransactionId) {outcome : TransferOutcome}
    (found : findTerminalOperation tables input.orderId = some prior)
    (returned : replayTransferOrReject tables prior input = .ok (outcome, after)) :
    Transferred tables input transactionId outcome after := by
  unfold replayTransferOrReject at returned
  split at returned
  · rename_i differs
    simp only [Except.ok.injEq, Prod.mk.injEq] at returned
    obtain ⟨rfl, rfl⟩ := returned
    exact .conflict prior found differs
  · rename_i same
    simp only [not_or, not_not, Bool.not_eq_true] at same
    split at returned
    · simp at returned
    · rename_i payload replayable
      simp only [bind_ok, return_ok, Prod.mk.injEq] at returned
      obtain ⟨result, parsed, _, written, rfl, rfl⟩ := returned
      obtain rfl := insert_outbox_ok written
      obtain rfl := parse_transferred_ok parsed
      obtain ⟨operationType, operation⟩ := prior
      obtain ⟨rfl, same⟩ := same
      exact .replay operation result found same (replayable_some replayable)

theorem replay_release_ok {prior : OperationType × Operation} {input : ReleaseInput}
    (transactionId : TransactionId) {outcome : ReleaseOutcome}
    (found : findTerminalOperation tables input.orderId = some prior)
    (returned : replayReleaseOrReject tables prior input = .ok (outcome, after)) :
    Released tables input transactionId outcome after := by
  unfold replayReleaseOrReject at returned
  split at returned
  · rename_i differs
    simp only [Except.ok.injEq, Prod.mk.injEq] at returned
    obtain ⟨rfl, rfl⟩ := returned
    exact .conflict prior found differs
  · rename_i same
    simp only [not_or, not_not, Bool.not_eq_true] at same
    split at returned
    · simp at returned
    · rename_i payload replayable
      simp only [bind_ok, return_ok, Prod.mk.injEq] at returned
      obtain ⟨result, parsed, _, written, rfl, rfl⟩ := returned
      obtain rfl := insert_outbox_ok written
      obtain ⟨operationType, operation⟩ := prior
      obtain ⟨rfl, same⟩ := same
      exact .replay operation payload result found same (replayable_some replayable) parsed

theorem transfer_ok {input : TransferInput} {transactionId : TransactionId}
    {fault : TerminalBoundary → Bool} {outcome : TransferOutcome}
    (returned : transfer tables input transactionId fault = .ok (outcome, after)) :
    Transferred tables input transactionId outcome after := by
  simp only [transfer, bind_ok] at returned
  obtain ⟨reservation, locked, _, _, rest⟩ := returned
  obtain ⟨found, _⟩ := lock_reservation_ok locked
  split at rest
  · rename_i reason details invalid
    simp only [return_ok, Prod.mk.injEq] at rest
    obtain ⟨rfl, rfl⟩ := rest
    exact .invalid reservation reason details found invalid
  · rename_i valid
    split at rest
    · rename_i same
      simp only [return_ok, Prod.mk.injEq] at rest
      obtain ⟨rfl, rfl⟩ := rest
      exact .participants same
    · rename_i different
      split at rest
      · rename_i prior settled
        exact replay_transfer_ok transactionId settled rest
      · rename_i unsettled
        simp only [bind_ok] at rest
        obtain ⟨_, _, _, _, _, claimed, _, _, debited, debit, rest⟩ := rest
        obtain ⟨positive, rfl⟩ := insert_terminal_ok claimed
        cases debited with
        | none => simp at rest
        | some debited =>
            obtain ⟨_, _⟩ := debited
            obtain ⟨requester, heldRequester, backed, rfl, keptAvailable, _, rfl⟩ :=
              update_wallet_ok debit
            simp only [bind_ok] at rest
            obtain ⟨_, _, paid, pay, rest⟩ := rest
            cases paid with
            | none => simp at rest
            | some paid =>
                obtain ⟨_, _⟩ := paid
                obtain ⟨courier, heldCourier, _, rfl, nonneg, keptReserved, rfl⟩ :=
                  update_wallet_ok pay
                simp only [bind_ok, return_ok, Prod.mk.injEq] at rest
                obtain ⟨_, _, _, recorded, rfl, rfl⟩ := rest
                obtain ⟨fresh, rfl⟩ :=
                  record_settlement_ok (AList.lookup_insert _) recorded
                rw [AList.lookup_insert_ne (Ne.symm different)] at heldCourier
                simp only [Tables.settle, Tables.book, AList.insert_insert]
                exact .transfer reservation requester courier ⟨found, valid, unsettled⟩
                  different positive heldRequester heldCourier
                  ⟨keptAvailable, by simpa using backed, nonneg, keptReserved⟩ fresh

theorem release_ok {input : ReleaseInput} {transactionId : TransactionId}
    {fault : TerminalBoundary → Bool} {outcome : ReleaseOutcome}
    (returned : release tables input transactionId fault = .ok (outcome, after)) :
    Released tables input transactionId outcome after := by
  simp only [release, bind_ok] at returned
  obtain ⟨reservation, locked, _, _, rest⟩ := returned
  obtain ⟨found, _⟩ := lock_reservation_ok locked
  split at rest
  · rename_i reason details invalid
    simp only [return_ok, Prod.mk.injEq] at rest
    obtain ⟨rfl, rfl⟩ := rest
    exact .invalid reservation reason details found invalid
  · rename_i valid
    split at rest
    · rename_i prior settled
      exact replay_release_ok transactionId settled rest
    · rename_i unsettled
      simp only [bind_ok] at rest
      obtain ⟨_, claimed, _, _, debited, debit, rest⟩ := rest
      obtain ⟨positive, rfl⟩ := insert_terminal_ok claimed
      cases debited with
      | none => simp at rest
      | some debited =>
          obtain ⟨_, _⟩ := debited
          obtain ⟨requester, held, backed, rfl, nonneg, _, rfl⟩ := update_wallet_ok debit
          simp only [bind_ok, return_ok, Prod.mk.injEq] at rest
          obtain ⟨_, _, _, recorded, rfl, rfl⟩ := rest
          obtain ⟨fresh, rfl⟩ := record_settlement_ok (AList.lookup_insert _) recorded
          simp only [Tables.settle, Tables.book, AList.insert_insert]
          exact .release reservation requester ⟨found, valid, unsettled⟩ positive held
            ⟨nonneg, by simpa using backed⟩ fresh

/-- How `issueInitial` returns. -/
inductive Issued (tables : Tables) (userId : UserId) (initialAllocation : Int)
    (transactionId : TransactionId) : Bool → Tables → Prop where
  | known (wallet : Wallet) (found : tables.wallets.lookup userId = some wallet) :
      Issued tables userId initialAllocation transactionId false tables
  | issue (absent : tables.wallets.lookup userId = none) (positive : 0 < initialAllocation)
      (fresh : tables.transactions.lookup transactionId = none) :
      Issued tables userId initialAllocation transactionId true
        ((tables.hold userId { available := initialAllocation, reserved := 0 }).book
          transactionId
          { orderId := none, transactionType := .issue, walletUserId := userId,
            amount := initialAllocation }
          (issueEntries userId initialAllocation transactionId))

theorem issue_initial_ok {userId : UserId} {initialAllocation : Int}
    {transactionId : TransactionId} {created : Bool}
    (returned : issueInitial tables userId initialAllocation transactionId =
      .ok (created, after)) :
    Issued tables userId initialAllocation transactionId created after := by
  simp only [issueInitial, bind_ok] at returned
  obtain ⟨_, _, _, _, rest⟩ := returned
  split at rest
  · rename_i wallet found
    simp only [return_ok, Prod.mk.injEq] at rest
    obtain ⟨rfl, rfl⟩ := rest
    exact .known wallet found
  · rename_i absent
    simp only [bind_ok, return_ok, Prod.mk.injEq] at rest
    obtain ⟨_, inserted, _, entered, rfl, rfl⟩ := rest
    obtain ⟨positive, fresh, rfl⟩ := insert_transaction_ok inserted
    obtain rfl := insert_entries_ok entered
    exact .issue absent positive fresh

/-! ## The one refusal that must not happen -/

theorem bind_error {Value Next : Type} (first : Result Value) (next : Value → Result Next)
    (error : CreditError) :
    (first >>= next) = .error error ↔
      first = .error error ∨ ∃ value, first = .ok value ∧ next value = .error error := by
  cases first <;> simp [bind, Except.bind]

@[simp] theorem require_error (holds : Bool) (thrown error : CreditError) :
    require holds thrown = .error error ↔ holds = false ∧ thrown = error := by
  cases holds <;> simp [require]

@[simp] theorem return_error {Value : Type} (value : Value) (error : CreditError) :
    (pure value : Result Value) ≠ .error error := by
  simp [pure, Except.pure]

@[simp] theorem map_error {Value Next : Type} (first : Result Value) (next : Value → Next)
    (error : CreditError) : next <$> first = .error error ↔ first = .error error := by
  cases first <;> simp [Functor.map, Except.map]

theorem update_wallet_backed {userId : UserId} {guard : Wallet → Bool}
    {change : Wallet → Wallet} (orderId : OrderId) :
    updateWallet tables userId guard change ≠ .error (.notBacked orderId) := by
  unfold updateWallet
  split
  · simp
  · split <;> simp [bind_error]

theorem insert_terminal_backed {orderId : OrderId} {operationType : OperationType}
    {row : Operation} (named : OrderId) :
    insertTerminalOperation tables orderId operationType row ≠ .error (.notBacked named) := by
  simp [insertTerminalOperation, bind_error]

theorem insert_transaction_backed {transactionId : TransactionId} {row : CreditTransaction}
    (named : OrderId) :
    insertTransaction tables transactionId row ≠ .error (.notBacked named) := by
  simp [insertTransaction, bind_error]

theorem insert_entries_backed {first second : LedgerEntry} (named : OrderId) :
    insertEntries tables first second ≠ .error (.notBacked named) := by
  simp [insertEntries, checkEntry, bind_error]

theorem update_operation_backed {key : OrderId × OperationType} {guard : Operation → Bool}
    {change : Operation → Operation} (named : OrderId) :
    updateOperation tables key guard change ≠ .error (.notBacked named) := by
  unfold updateOperation
  split
  · simp
  · split <;> simp

theorem insert_outbox_backed {row : OutboxRow} (named : OrderId) :
    insertOutboxEvent tables row ≠ .error (.notBacked named) := by
  simp [insertOutboxEvent]

theorem lock_reservation_backed {orderId : OrderId} (named : OrderId) :
    lockReservation tables orderId ≠ .error (.notBacked named) := by
  unfold lockReservation
  split
  · simp
  · split <;> simp

theorem record_settlement_backed {orderId : OrderId} {operationType : OperationType}
    {transactionId : TransactionId} {row : CreditTransaction} {first second : LedgerEntry}
    {result : ResultPayload} {reply : OutboxRow} {fault : TerminalBoundary → Bool}
    (named : OrderId) :
    recordSettlement tables orderId operationType transactionId row first second result reply
      fault ≠ .error (.notBacked named) := by
  simp [recordSettlement, finishTerminal, reachTerminal, bind_error, insert_transaction_backed,
    insert_entries_backed, update_operation_backed, insert_outbox_backed]

theorem parse_released_backed {payload : ResultPayload} (named : OrderId) :
    parseReleased payload ≠ .error (.notBacked named) := by
  simp only [parseReleased]
  split <;> split <;> simp

theorem parse_transferred_backed {payload : ResultPayload} (named : OrderId) :
    parseTransferred payload ≠ .error (.notBacked named) := by
  unfold parseTransferred
  split
  · split <;> simp
  · simp

/-- `transfer` and `release` throw this only when the requester's wallet holds
less in reserve than the live reservation they are about to settle. -/
def Unbacked (tables : Tables) (input : ReservationInput) : Prop :=
  ∃ reservation, Settleable tables input reservation ∧
    ∀ wallet, tables.wallets.lookup input.requesterId = some wallet →
      wallet.reserved < input.amount

theorem transfer_not_backed {input : TransferInput} {transactionId : TransactionId}
    {fault : TerminalBoundary → Bool} {named : OrderId}
    (thrown : transfer tables input transactionId fault = .error (.notBacked named)) :
    Unbacked tables input.toReservationInput := by
  simp only [transfer, bind_error, lock_reservation_backed, false_or] at thrown
  obtain ⟨reservation, locked, rest⟩ := thrown
  simp only [reachTerminal, require_error, reduceCtorEq, and_false, false_or] at rest
  obtain ⟨_, _, rest⟩ := rest
  obtain ⟨found, _⟩ := lock_reservation_ok locked
  split at rest
  · simp at rest
  · rename_i valid
    split at rest
    · simp at rest
    · split at rest
      · rename_i prior _
        unfold replayTransferOrReject at rest
        split at rest
        · simp at rest
        · split at rest <;>
            simp [bind_error, parse_transferred_backed, insert_outbox_backed] at rest
      · rename_i unsettled
        refine ⟨reservation, ⟨found, valid, unsettled⟩, ?_⟩
        simp only [bind_error, require_error, reduceCtorEq, and_false, false_or,
          insert_terminal_backed, update_wallet_backed] at rest
        obtain ⟨_, _, _, _, _, claimed, _, _, debited, debit, rest⟩ := rest
        obtain ⟨_, rfl⟩ := insert_terminal_ok claimed
        cases debited with
        | none =>
            intro wallet held
            simpa using update_wallet_missed debit wallet held
        | some debited =>
            obtain ⟨_, _⟩ := debited
            simp only [bind_error, require_error, reduceCtorEq, and_false, false_or,
              update_wallet_backed] at rest
            obtain ⟨_, _, paid, _, rest⟩ := rest
            cases paid with
            | none => simp at rest
            | some paid =>
                obtain ⟨_, _⟩ := paid
                simp [bind_error, record_settlement_backed] at rest

theorem release_not_backed {input : ReleaseInput} {transactionId : TransactionId}
    {fault : TerminalBoundary → Bool} {named : OrderId}
    (thrown : release tables input transactionId fault = .error (.notBacked named)) :
    Unbacked tables input := by
  simp only [release, bind_error, lock_reservation_backed, false_or] at thrown
  obtain ⟨reservation, locked, rest⟩ := thrown
  simp only [reachTerminal, require_error, reduceCtorEq, and_false, false_or] at rest
  obtain ⟨_, _, rest⟩ := rest
  obtain ⟨found, _⟩ := lock_reservation_ok locked
  split at rest
  · simp at rest
  · rename_i valid
    split at rest
    · rename_i prior _
      unfold replayReleaseOrReject at rest
      split at rest
      · simp at rest
      · split at rest <;>
          simp [bind_error, parse_released_backed, insert_outbox_backed] at rest
    · rename_i unsettled
      refine ⟨reservation, ⟨found, valid, unsettled⟩, ?_⟩
      simp only [bind_error, require_error, reduceCtorEq, and_false, false_or,
        insert_terminal_backed, update_wallet_backed] at rest
      obtain ⟨_, claimed, _, _, debited, debit, rest⟩ := rest
      obtain ⟨_, rfl⟩ := insert_terminal_ok claimed
      cases debited with
      | none =>
          intro wallet held
          simpa using update_wallet_missed debit wallet held
      | some debited =>
          obtain ⟨_, _⟩ := debited
          simp [bind_error, record_settlement_backed] at rest

end Foc.Credit
