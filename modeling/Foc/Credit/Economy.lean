import Foc.Library.Keyed
import Foc.Credit.Postings
import Mathlib.Algebra.BigOperators.Group.List.Lemmas

/-!
The closed economy of `credits/invariants.ts`, over every sequence of calls from
empty tables. The checks there are sums over stored rows; so are they here. What
makes them inductive is the agreement between operations and transactions kept
for each order (`Books`).
-/
namespace Foc.Credit
open Library.Keyed

/-! ## What the checks sum -/

def LedgerEntry.signed (entry : LedgerEntry) : Int :=
  match entry.direction with
  | .credit => entry.amount
  | .debit => -entry.amount

/-- `walletLedgerViolations`: a wallet's balance as its ledger records it. -/
def ledgerBalance (entries : List LedgerEntry) (userId : UserId) (account : LedgerAccount) :
    Int :=
  (entries.map fun entry =>
    if entry.walletUserId = some userId ∧ entry.account = account then entry.signed else 0).sum

/-- `unbalancedTransactionViolations`: one side of a transaction. -/
def transactionSide (entries : List LedgerEntry) (transactionId : TransactionId)
    (direction : Direction) : Int :=
  (entries.map fun entry =>
    if entry.transactionId = transactionId ∧ entry.direction = direction then entry.amount
    else 0).sum

def held (tables : Tables) : Int :=
  total (fun _ wallet => wallet.available + wallet.reserved) tables.wallets

def issued (tables : Tables) : Int :=
  total (fun _ row => if row.transactionType = .issue then row.amount else 0)
    tables.transactions

def settled (tables : Tables) (orderId : Option OrderId) : Bool :=
  tables.transactions.entries.any fun entry =>
    decide (entry.2.orderId = orderId) && entry.2.transactionType.terminal

/-- `reservedBackingViolations`: the reservations of a wallet not yet settled. -/
def openReservations (tables : Tables) (userId : UserId) : Int :=
  total (fun _ row =>
    if row.transactionType = .reserve ∧ row.walletUserId = userId ∧
      settled tables row.orderId = false then row.amount else 0) tables.transactions

structure Economy (tables : Tables) : Prop where
  nonnegative : ∀ userId wallet, tables.wallets.lookup userId = some wallet →
    0 ≤ wallet.available ∧ 0 ≤ wallet.reserved
  conserved : held tables = issued tables
  ledgered : ∀ userId wallet, tables.wallets.lookup userId = some wallet →
    wallet.available = ledgerBalance tables.entries userId .available ∧
      wallet.reserved = ledgerBalance tables.entries userId .reserved
  backed : ∀ userId wallet, tables.wallets.lookup userId = some wallet →
    wallet.reserved = openReservations tables userId
  balanced : ∀ transactionId row, tables.transactions.lookup transactionId = some row →
    transactionSide tables.entries transactionId .debit =
      transactionSide tables.entries transactionId .credit

/-- The agreement between a RESERVE transaction and its order's operation, and
the references between tables. -/
structure Books (tables : Tables) : Prop where
  entryWallet : ∀ entry ∈ tables.entries, ∀ userId, entry.walletUserId = some userId →
    tables.wallets.lookup userId ≠ none
  entryTransaction : ∀ entry ∈ tables.entries,
    tables.transactions.lookup entry.transactionId ≠ none
  rowWallet : ∀ transactionId row, tables.transactions.lookup transactionId = some row →
    tables.wallets.lookup row.walletUserId ≠ none
  positive : ∀ transactionId row, tables.transactions.lookup transactionId = some row →
    0 < row.amount
  reservation : ∀ transactionId row, tables.transactions.lookup transactionId = some row →
    row.transactionType = .reserve → ∃ orderId operation, row.orderId = some orderId ∧
      tables.operations.lookup (orderId, .reserve) = some operation ∧
      operation.outcome = .succeeded transactionId
  reserved : ∀ orderId operation transactionId,
    tables.operations.lookup (orderId, .reserve) = some operation →
    operation.outcome = .succeeded transactionId →
    tables.transactions.lookup transactionId = some
      { orderId := some orderId, transactionType := .reserve,
        walletUserId := operation.requesterId, amount := operation.amount }
  terminal : ∀ transactionId row, tables.transactions.lookup transactionId = some row →
    row.transactionType.terminal = true → ∃ orderId, row.orderId = some orderId ∧
      findTerminalOperation tables orderId ≠ none ∧
      tables.operations.lookup (orderId, .reserve) ≠ none

/-! ## Sums after one movement -/

section Movement

variable {tables : Tables}

@[simp] theorem ledger_balance_append (entries : List LedgerEntry) (first second : LedgerEntry)
    (userId : UserId) (account : LedgerAccount) :
    ledgerBalance (entries ++ [first, second]) userId account =
      ledgerBalance entries userId account +
        ((if first.walletUserId = some userId ∧ first.account = account
          then first.signed else 0) +
        (if second.walletUserId = some userId ∧ second.account = account
          then second.signed else 0)) := by
  simp [ledgerBalance]

@[simp] theorem transaction_side_append (entries : List LedgerEntry)
    (first second : LedgerEntry) (transactionId : TransactionId) (direction : Direction) :
    transactionSide (entries ++ [first, second]) transactionId direction =
      transactionSide entries transactionId direction +
        ((if first.transactionId = transactionId ∧ first.direction = direction
          then first.amount else 0) +
        (if second.transactionId = transactionId ∧ second.direction = direction
          then second.amount else 0)) := by
  simp [transactionSide]

theorem ledger_balance_unknown (books : Books tables) (userId : UserId)
    (account : LedgerAccount) (unknown : tables.wallets.lookup userId = none) :
    ledgerBalance tables.entries userId account = 0 := by
  apply List.sum_eq_zero
  intro amount member
  obtain ⟨entry, present, rfl⟩ := List.mem_map.mp member
  have known := books.entryWallet entry present userId
  by_cases named : entry.walletUserId = some userId
  · exact absurd unknown (known named)
  · simp [named]

theorem transaction_side_fresh (books : Books tables) (transactionId : TransactionId)
    (direction : Direction) (fresh : tables.transactions.lookup transactionId = none) :
    transactionSide tables.entries transactionId direction = 0 := by
  apply List.sum_eq_zero
  intro amount member
  obtain ⟨entry, present, rfl⟩ := List.mem_map.mp member
  have known := books.entryTransaction entry present
  by_cases same : entry.transactionId = transactionId
  · rw [same] at known
    exact absurd fresh known
  · simp [same]

theorem settled_insert (transactionId : TransactionId) (row : CreditTransaction)
    (fresh : tables.transactions.lookup transactionId = none) (after : Tables)
    (inserted : after.transactions = tables.transactions.insert transactionId row)
    (orderId : Option OrderId) :
    settled after orderId =
      ((decide (row.orderId = orderId) && row.transactionType.terminal) ||
        settled tables orderId) := by
  have absent : transactionId ∉ tables.transactions := AList.lookup_eq_none.mp fresh
  simp only [settled, inserted, AList.entries_insert_of_notMem absent, List.any_cons]

theorem settled_iff (orderId : Option OrderId) :
    settled tables orderId = true ↔ ∃ transactionId row,
      tables.transactions.lookup transactionId = some row ∧ row.orderId = orderId ∧
        row.transactionType.terminal = true := by
  simp only [settled, List.any_eq_true, Bool.and_eq_true, decide_eq_true_eq]
  constructor
  · rintro ⟨⟨transactionId, row⟩, member, named, terminal⟩
    exact ⟨transactionId, row, (mem_entries_iff _ _ _).mp member, named, terminal⟩
  · rintro ⟨transactionId, row, found, named, terminal⟩
    exact ⟨⟨transactionId, row⟩, (mem_entries_iff _ _ _).mpr found, named, terminal⟩

theorem unsettled_of_absent (books : Books tables) (orderId : OrderId)
    (absent : findTerminalOperation tables orderId = none ∨
      tables.operations.lookup (orderId, .reserve) = none) :
    settled tables (some orderId) = false := by
  rw [← Bool.not_eq_true, settled_iff]
  rintro ⟨transactionId, row, found, named, terminal⟩
  obtain ⟨other, ordered, settling, reserving⟩ :=
    books.terminal transactionId row found terminal
  rw [named, Option.some.injEq] at ordered
  subst ordered
  rcases absent with unsettled | unreserved
  · exact settling unsettled
  · exact reserving unreserved

variable {after : Tables} {transactionId : TransactionId} {row : CreditTransaction}

theorem open_reservations_unknown (books : Books tables) (userId : UserId)
    (unknown : tables.wallets.lookup userId = none) : openReservations tables userId = 0 := by
  have nothing : openReservations tables userId = total (fun _ _ => 0) tables.transactions := by
    apply total_congr
    intro transactionId row found
    have known := books.rowWallet transactionId row found
    by_cases same : row.walletUserId = userId
    · rw [same] at known
      exact absurd unknown known
    · simp [same]
  simp [nothing, total]

/-- A movement that settles nothing changes only what its own row adds. -/
theorem open_reservations_insert (fresh : tables.transactions.lookup transactionId = none)
    (inserted : after.transactions = tables.transactions.insert transactionId row)
    (unsettling : row.transactionType.terminal = false) (userId : UserId) :
    openReservations after userId = openReservations tables userId +
      if row.transactionType = .reserve ∧ row.walletUserId = userId ∧
        settled tables row.orderId = false then row.amount else 0 := by
  have same : ∀ orderId, settled after orderId = settled tables orderId := by
    intro orderId
    rw [settled_insert transactionId row fresh after inserted]
    simp [unsettling]
  simp only [openReservations, same, inserted]
  rw [total_insert_absent _ _ _ _ fresh]
  omega

/-- A settlement takes exactly its own reservation out of the open ones. -/
theorem open_reservations_settle (books : Books tables)
    (fresh : tables.transactions.lookup transactionId = none)
    (inserted : after.transactions = tables.transactions.insert transactionId row)
    (settling : row.transactionType.terminal = true) {orderId : OrderId}
    (named : row.orderId = some orderId) {reservation : Operation}
    {reservationId : TransactionId}
    (found : tables.operations.lookup (orderId, .reserve) = some reservation)
    (succeeded : reservation.outcome = .succeeded reservationId)
    (unsettled : settled tables (some orderId) = false) (userId : UserId) :
    openReservations after userId = openReservations tables userId -
      if reservation.requesterId = userId then reservation.amount else 0 := by
  have settledAfter := settled_insert transactionId row fresh after inserted
  have reserved := books.reserved orderId reservation reservationId found succeeded
  have notReserve : row.transactionType ≠ .reserve := by
    intro reserve
    simp [reserve, TransactionType.terminal] at settling
  have closed : settled after (some orderId) = true := by
    simp [settledAfter, named, settling]
  unfold openReservations
  rw [inserted, total_insert_absent _ _ _ _ fresh, total_split _ _ _ _ reserved,
    total_split _ _ _ _ reserved]
  -- Every other open reservation is of another order, so it stays open.
  have others : total (fun _ row => if row.transactionType = .reserve ∧
        row.walletUserId = userId ∧ settled after row.orderId = false then row.amount else 0)
        (tables.transactions.erase reservationId) =
      total (fun _ row => if row.transactionType = .reserve ∧
        row.walletUserId = userId ∧ settled tables row.orderId = false then row.amount else 0)
        (tables.transactions.erase reservationId) := by
    apply total_congr
    intro otherId other present
    have different : otherId ≠ reservationId := by
      intro same
      subst same
      rw [AList.lookup_erase] at present
      exact nomatch present
    rw [AList.lookup_erase_ne different] at present
    by_cases reserve : other.transactionType = .reserve
    · obtain ⟨otherOrder, operation, ordered, recorded, outcome⟩ :=
        books.reservation otherId other present reserve
      have elsewhere : orderId ≠ otherOrder := by
        intro same
        subst same
        rw [found, Option.some.injEq] at recorded
        subst recorded
        rw [succeeded] at outcome
        exact different (by simpa using outcome.symm)
      simp [settledAfter, ordered, named, elsewhere]
    · simp [reserve]
  rw [others]
  by_cases own : reservation.requesterId = userId <;>
    simp [notReserve, closed, unsettled, own]

end Movement

/-! ## What a movement keeps -/

/-- Everything a movement of credit shares: a fresh transaction with a debit and
a credit of one amount, between accounts that exist afterwards. -/
structure Moved (tables after : Tables) (transactionId : TransactionId)
    (row : CreditTransaction) (pair : LedgerEntry × LedgerEntry) : Prop where
  fresh : tables.transactions.lookup transactionId = none
  recorded : after.transactions = tables.transactions.insert transactionId row
  appended : after.entries = tables.entries ++ [pair.1, pair.2]
  own : pair.1.transactionId = transactionId ∧ pair.2.transactionId = transactionId
  sides : pair.1.direction = .debit ∧ pair.2.direction = .credit ∧
    pair.1.amount = pair.2.amount
  known : ∀ userId, tables.wallets.lookup userId ≠ none ∨ userId = row.walletUserId ∨
    pair.1.walletUserId = some userId ∨ pair.2.walletUserId = some userId →
    after.wallets.lookup userId ≠ none
  positive : 0 < row.amount

section Kept

variable {tables after : Tables} {transactionId : TransactionId} {row : CreditTransaction}
  {pair : LedgerEntry × LedgerEntry}

theorem moved_row (moved : Moved tables after transactionId row pair)
    (otherId : TransactionId) (other : CreditTransaction)
    (found : after.transactions.lookup otherId = some other) :
    otherId = transactionId ∧ other = row ∨
      otherId ≠ transactionId ∧ tables.transactions.lookup otherId = some other := by
  rw [moved.recorded] at found
  by_cases same : otherId = transactionId
  · subst same
    rw [AList.lookup_insert, Option.some.injEq] at found
    exact .inl ⟨rfl, found.symm⟩
  · rw [AList.lookup_insert_ne same] at found
    exact .inr ⟨same, found⟩

theorem moved_known (moved : Moved tables after transactionId row pair)
    (otherId : TransactionId) (known : tables.transactions.lookup otherId ≠ none) :
    after.transactions.lookup otherId = tables.transactions.lookup otherId := by
  have different : otherId ≠ transactionId := by
    intro same
    exact known (same ▸ moved.fresh)
  rw [moved.recorded, AList.lookup_insert_ne different]

theorem moved_balanced (moved : Moved tables after transactionId row pair)
    (books : Books tables) (economy : Economy tables) (otherId : TransactionId)
    (other : CreditTransaction) (found : after.transactions.lookup otherId = some other) :
    transactionSide after.entries otherId .debit =
      transactionSide after.entries otherId .credit := by
  rw [moved.appended]
  rcases moved_row moved otherId other found with ⟨rfl, rfl⟩ | ⟨different, present⟩
  · simp [transaction_side_fresh books otherId _ moved.fresh, moved.own, moved.sides]
  · simp [moved.own, Ne.symm different, economy.balanced otherId other present]

theorem moved_entry (moved : Moved tables after transactionId row pair)
    (entry : LedgerEntry) (member : entry ∈ after.entries) :
    entry ∈ tables.entries ∨ entry = pair.1 ∨ entry = pair.2 := by
  rw [moved.appended] at member
  simpa using member

/-- The references a movement keeps, whatever it does to operations. -/
theorem moved_references (moved : Moved tables after transactionId row pair)
    (books : Books tables) :
    (∀ entry ∈ after.entries, ∀ userId, entry.walletUserId = some userId →
      after.wallets.lookup userId ≠ none) ∧
    (∀ entry ∈ after.entries, after.transactions.lookup entry.transactionId ≠ none) ∧
    (∀ otherId other, after.transactions.lookup otherId = some other →
      after.wallets.lookup other.walletUserId ≠ none ∧ 0 < other.amount) := by
  refine ⟨?_, ?_, ?_⟩
  · intro entry member userId named
    apply moved.known
    rcases moved_entry moved entry member with old | rfl | rfl
    · exact .inl (books.entryWallet entry old userId named)
    · exact .inr (.inr (.inl named))
    · exact .inr (.inr (.inr named))
  · intro entry member
    have stored : after.transactions.lookup transactionId ≠ none := by
      simp [moved.recorded]
    rcases moved_entry moved entry member with old | rfl | rfl
    · have known := books.entryTransaction entry old
      rwa [moved_known moved _ known]
    · rwa [moved.own.1]
    · rwa [moved.own.2]
  · intro otherId other found
    rcases moved_row moved otherId other found with ⟨_, rfl⟩ | ⟨_, present⟩
    · exact ⟨moved.known _ (.inr (.inl rfl)), moved.positive⟩
    · exact ⟨moved.known _ (.inl (books.rowWallet otherId other present)),
        books.positive otherId other present⟩

/-- Same wallets, transactions and entries: what a reply or an alert leaves. -/
structure Unmoved (tables after : Tables) : Prop where
  wallets : after.wallets = tables.wallets
  transactions : after.transactions = tables.transactions
  entries : after.entries = tables.entries

theorem settle_unmoved (tables : Tables) (key : OrderId × OperationType)
    (operation : Operation) (reply : OutboxRow) :
    Unmoved tables (tables.settle key operation reply) :=
  ⟨rfl, rfl, rfl⟩

theorem unmoved_economy (unmoved : Unmoved tables after) (economy : Economy tables) :
    Economy after := by
  obtain ⟨wallets, transactions, entries⟩ := unmoved
  have reservations : ∀ userId, openReservations after userId = openReservations tables userId := by
    intro userId
    have same : ∀ orderId, settled after orderId = settled tables orderId := by
      simp [settled, transactions]
    simp only [openReservations, same, transactions]
  constructor
  · simpa only [wallets] using economy.nonnegative
  · simpa only [held, issued, wallets, transactions] using economy.conserved
  · simpa only [wallets, entries] using economy.ledgered
  · simpa only [wallets, reservations] using economy.backed
  · simpa only [transactions, entries] using economy.balanced

theorem find_terminal_insert (orderId other : OrderId) (operation : Operation)
    (inserted : after.operations = tables.operations.insert (orderId, .reserve) operation) :
    findTerminalOperation after other = findTerminalOperation tables other := by
  simp [findTerminalOperation, inserted, AList.lookup_insert_ne]

theorem find_terminal_settle (orderId other : OrderId) (operationType : OperationType)
    (operation : Operation)
    (inserted : after.operations = tables.operations.insert (orderId, operationType) operation)
    (terminal : operationType = .transfer ∨ operationType = .release)
    (kept : other = orderId ∨ findTerminalOperation tables other ≠ none) :
    findTerminalOperation after other ≠ none := by
  have found : ∀ looked, (looked = .transfer ∨ looked = .release) →
      after.operations.lookup (other, looked) ≠ none → findTerminalOperation after other ≠ none := by
    intro looked either present
    unfold findTerminalOperation
    rcases either with rfl | rfl
    · split <;> simp_all
    · split <;> simp_all
  by_cases same : other = orderId
  · subst same
    exact found operationType terminal (by simp [inserted])
  · have old := kept.resolve_left same
    have elsewhere : ∀ looked, (other, looked) ≠ (orderId, operationType) := by
      intro looked equal
      exact same (congrArg Prod.fst equal)
    simpa only [findTerminalOperation, inserted, AList.lookup_insert_ne (elsewhere _)] using old

theorem unmoved_books (unmoved : Unmoved tables after) (books : Books tables)
    (reservations : ∀ orderId, after.operations.lookup (orderId, .reserve) =
      tables.operations.lookup (orderId, .reserve))
    (terminals : ∀ orderId, findTerminalOperation after orderId =
      findTerminalOperation tables orderId) : Books after := by
  obtain ⟨wallets, transactions, entries⟩ := unmoved
  constructor
  · simpa only [wallets, entries] using books.entryWallet
  · simpa only [transactions, entries] using books.entryTransaction
  · simpa only [wallets, transactions] using books.rowWallet
  · simpa only [transactions] using books.positive
  · simpa only [transactions, reservations] using books.reservation
  · simpa only [transactions, reservations] using books.reserved
  · simpa only [transactions, reservations, terminals] using books.terminal

/-- A refused reservation records an operation for an order that had none. -/
theorem refused_books (unmoved : Unmoved tables after) (books : Books tables)
    {orderId : OrderId} {operation : Operation}
    (absent : tables.operations.lookup (orderId, .reserve) = none)
    (inserted : after.operations = tables.operations.insert (orderId, .reserve) operation)
    (refused : ∀ transactionId, operation.outcome ≠ .succeeded transactionId) :
    Books after := by
  obtain ⟨wallets, transactions, entries⟩ := unmoved
  have kept : ∀ other, tables.operations.lookup (other, .reserve) ≠ none →
      after.operations.lookup (other, .reserve) =
        tables.operations.lookup (other, .reserve) := by
    intro other present
    have different : other ≠ orderId := fun same => present (same ▸ absent)
    rw [inserted, AList.lookup_insert_ne (by simp [different])]
  have terminals : ∀ other, findTerminalOperation after other =
      findTerminalOperation tables other := fun other =>
    find_terminal_insert orderId other operation inserted
  constructor
  · simpa only [wallets, entries] using books.entryWallet
  · simpa only [transactions, entries] using books.entryTransaction
  · simpa only [wallets, transactions] using books.rowWallet
  · simpa only [transactions] using books.positive
  · intro transactionId row found reserve
    rw [transactions] at found
    obtain ⟨other, prior, named, recorded, outcome⟩ :=
      books.reservation transactionId row found reserve
    exact ⟨other, prior, named, by rw [kept other (by simp [recorded]), recorded], outcome⟩
  · intro other prior transactionId recorded outcome
    by_cases same : other = orderId
    · subst same
      rw [inserted, AList.lookup_insert, Option.some.injEq] at recorded
      subst recorded
      exact absurd outcome (refused transactionId)
    · rw [inserted, AList.lookup_insert_ne (by simp [same])] at recorded
      rw [transactions]
      exact books.reserved other prior transactionId recorded outcome
  · intro transactionId row found terminal
    rw [transactions] at found
    obtain ⟨other, named, settling, reserving⟩ := books.terminal transactionId row found terminal
    exact ⟨other, named, by rwa [terminals], by rwa [kept other reserving]⟩

/-- A new reservation: its transaction and its operation name each other, and
the order had neither. -/
theorem reserved_books (moved : Moved tables after transactionId row pair)
    (books : Books tables) {orderId : OrderId} {operation : Operation}
    (absent : tables.operations.lookup (orderId, .reserve) = none)
    (inserted : after.operations = tables.operations.insert (orderId, .reserve) operation)
    (outcome : operation.outcome = .succeeded transactionId)
    (recorded : row =
      { orderId := some orderId, transactionType := .reserve,
        walletUserId := operation.requesterId, amount := operation.amount }) :
    Books after := by
  obtain ⟨entryWallet, entryTransaction, rows⟩ := moved_references moved books
  have kept : ∀ other, tables.operations.lookup (other, .reserve) ≠ none →
      after.operations.lookup (other, .reserve) =
        tables.operations.lookup (other, .reserve) := by
    intro other present
    have different : other ≠ orderId := fun same => present (same ▸ absent)
    rw [inserted, AList.lookup_insert_ne (by simp [different])]
  refine ⟨entryWallet, entryTransaction, fun id other found => (rows id other found).1,
    fun id other found => (rows id other found).2, ?_, ?_, ?_⟩
  · intro otherId other found reserve
    rcases moved_row moved otherId other found with ⟨rfl, rfl⟩ | ⟨_, present⟩
    · exact ⟨orderId, operation, by rw [recorded], by simp [inserted], outcome⟩
    · obtain ⟨named, prior, ordered, stored, succeeded⟩ :=
        books.reservation otherId other present reserve
      exact ⟨named, prior, ordered, by rw [kept named (by simp [stored]), stored], succeeded⟩
  · intro other prior otherId stored succeeded
    by_cases same : other = orderId
    · subst same
      rw [inserted, AList.lookup_insert, Option.some.injEq] at stored
      subst stored
      rw [outcome, OperationOutcome.succeeded.injEq] at succeeded
      subst succeeded
      simp [moved.recorded, recorded]
    · rw [inserted, AList.lookup_insert_ne (by simp [same])] at stored
      have found := books.reserved other prior otherId stored succeeded
      rw [moved_known moved otherId (by simp [found]), found]
  · intro otherId other found terminal
    rcases moved_row moved otherId other found with ⟨rfl, rfl⟩ | ⟨_, present⟩
    · simp [recorded, TransactionType.terminal] at terminal
    · obtain ⟨named, ordered, settling, reserving⟩ :=
        books.terminal otherId other present terminal
      exact ⟨named, ordered, by rwa [find_terminal_insert orderId named operation inserted],
        by rwa [kept named reserving]⟩

/-- A settlement: it leaves every reservation's operation as it was. -/
theorem settled_books (moved : Moved tables after transactionId row pair)
    (books : Books tables) {orderId : OrderId} {operationType : OperationType}
    {operation : Operation} (terminal : operationType = .transfer ∨ operationType = .release)
    (inserted : after.operations = tables.operations.insert (orderId, operationType) operation)
    (reservation : tables.operations.lookup (orderId, .reserve) ≠ none)
    (named : row.orderId = some orderId) (settling : row.transactionType.terminal = true) :
    Books after := by
  obtain ⟨entryWallet, entryTransaction, rows⟩ := moved_references moved books
  have kept : ∀ other, after.operations.lookup (other, .reserve) =
      tables.operations.lookup (other, .reserve) := by
    intro other
    have different : operationType ≠ .reserve := by rcases terminal with rfl | rfl <;> simp
    rw [inserted, AList.lookup_insert_ne (by simp [Ne.symm different])]
  refine ⟨entryWallet, entryTransaction, fun id other found => (rows id other found).1,
    fun id other found => (rows id other found).2, ?_, ?_, ?_⟩
  · intro otherId other found reserve
    rcases moved_row moved otherId other found with ⟨rfl, rfl⟩ | ⟨_, present⟩
    · simp [reserve, TransactionType.terminal] at settling
    · simpa only [kept] using books.reservation otherId other present reserve
  · intro other prior otherId stored succeeded
    rw [kept] at stored
    have found := books.reserved other prior otherId stored succeeded
    rw [moved_known moved otherId (by simp [found]), found]
  · intro otherId other found terminalRow
    rcases moved_row moved otherId other found with ⟨rfl, rfl⟩ | ⟨_, present⟩
    · exact ⟨orderId, named,
        find_terminal_settle orderId orderId operationType operation inserted terminal (.inl rfl),
        by rwa [kept]⟩
    · obtain ⟨order, ordered, prior, reserving⟩ :=
        books.terminal otherId other present terminalRow
      exact ⟨order, ordered,
        find_terminal_settle orderId order operationType operation inserted terminal (.inr prior),
        by rwa [kept]⟩

/-- An issuance names no order and touches no operation. -/
theorem issued_books (moved : Moved tables after transactionId row pair)
    (books : Books tables) (same : after.operations = tables.operations)
    (issue : row.transactionType = .issue) : Books after := by
  obtain ⟨entryWallet, entryTransaction, rows⟩ := moved_references moved books
  refine ⟨entryWallet, entryTransaction, fun id other found => (rows id other found).1,
    fun id other found => (rows id other found).2, ?_, ?_, ?_⟩
  · intro otherId other found reserve
    rcases moved_row moved otherId other found with ⟨rfl, rfl⟩ | ⟨_, present⟩
    · simp [issue] at reserve
    · simpa only [same] using books.reservation otherId other present reserve
  · intro other prior otherId stored succeeded
    rw [same] at stored
    have found := books.reserved other prior otherId stored succeeded
    rw [moved_known moved otherId (by simp [found]), found]
  · intro otherId other found terminal
    rcases moved_row moved otherId other found with ⟨rfl, rfl⟩ | ⟨_, present⟩
    · simp [issue, TransactionType.terminal] at terminal
    · simpa only [findTerminalOperation, same] using books.terminal otherId other present terminal

end Kept

/-! ## The economy after each movement -/

section Economies

variable {tables after : Tables} {transactionId : TransactionId}

theorem issued_insert {row : CreditTransaction}
    (fresh : tables.transactions.lookup transactionId = none)
    (recorded : after.transactions = tables.transactions.insert transactionId row) :
    issued after = (if row.transactionType = .issue then row.amount else 0) + issued tables := by
  simp only [issued, recorded]
  rw [total_insert_absent _ _ _ _ fresh]

theorem held_replace {userId : UserId} {old new : Wallet}
    (found : tables.wallets.lookup userId = some old)
    (changed : after.wallets = tables.wallets.insert userId new) :
    held after = held tables - (old.available + old.reserved) + (new.available + new.reserved) := by
  simp only [held, changed]
  rw [total_replace _ _ _ _ _ found]

/-- A user's wallet, empty before it exists. -/
def walletOf (tables : Tables) (userId : UserId) : Wallet :=
  (tables.wallets.lookup userId).getD { available := 0, reserved := 0 }

/-- What a movement's two entries add to one account of a user. -/
def entryChange (pair : LedgerEntry × LedgerEntry) (userId : UserId) (account : LedgerAccount) :
    Int :=
  (if pair.1.walletUserId = some userId ∧ pair.1.account = account then pair.1.signed else 0) +
    if pair.2.walletUserId = some userId ∧ pair.2.account = account then pair.2.signed else 0

/-- A movement whose wallets, ledger and open reservations change alike. -/
structure Posted (tables after : Tables) (pair : LedgerEntry × LedgerEntry) : Prop where
  balances : ∀ userId wallet, after.wallets.lookup userId = some wallet →
    0 ≤ wallet.available ∧ 0 ≤ wallet.reserved ∧
      wallet.available = (walletOf tables userId).available + entryChange pair userId .available ∧
      wallet.reserved = (walletOf tables userId).reserved + entryChange pair userId .reserved
  reservations : ∀ userId, openReservations after userId =
    openReservations tables userId + entryChange pair userId .reserved
  conserved : held after - held tables = issued after - issued tables

theorem wallet_of_economy (books : Books tables) (economy : Economy tables) (userId : UserId) :
    (walletOf tables userId).available = ledgerBalance tables.entries userId .available ∧
      (walletOf tables userId).reserved = ledgerBalance tables.entries userId .reserved ∧
      (walletOf tables userId).reserved = openReservations tables userId := by
  cases found : tables.wallets.lookup userId with
  | none =>
      simp [walletOf, found, ledger_balance_unknown books userId _ found,
        open_reservations_unknown books userId found]
  | some wallet =>
      have ledgered := economy.ledgered userId wallet found
      have backed := economy.backed userId wallet found
      simp only [walletOf, found, Option.getD_some]
      exact ⟨ledgered.1, ledgered.2, backed⟩

theorem posted_economy {row : CreditTransaction} {pair : LedgerEntry × LedgerEntry}
    (books : Books tables) (economy : Economy tables)
    (moved : Moved tables after transactionId row pair) (posted : Posted tables after pair) :
    Economy after := by
  constructor
  · intro userId wallet found
    have balances := posted.balances userId wallet found
    exact ⟨balances.1, balances.2.1⟩
  · have before := economy.conserved
    have change := posted.conserved
    omega
  · intro userId wallet found
    obtain ⟨_, _, available, reserved⟩ := posted.balances userId wallet found
    obtain ⟨ledgerAvailable, ledgerReserved, _⟩ := wallet_of_economy books economy userId
    rw [moved.appended, ledger_balance_append, ledger_balance_append, ← ledgerAvailable,
      ← ledgerReserved]
    exact ⟨available, reserved⟩
  · intro userId wallet found
    obtain ⟨_, _, _, reserved⟩ := posted.balances userId wallet found
    obtain ⟨_, _, backed⟩ := wallet_of_economy books economy userId
    rw [posted.reservations, ← backed]
    exact reserved
  · exact moved_balanced moved books economy

theorem reserve_posted {input : ReservationInput} {wallet : Wallet} (economy : Economy tables)
    (moved : Moved tables after transactionId (reserveTransaction input)
      (reserveEntries input transactionId (reservedBalances wallet input.amount)))
    (found : tables.wallets.lookup input.requesterId = some wallet)
    (changed : after.wallets =
      tables.wallets.insert input.requesterId (reservedBalances wallet input.amount))
    (enough : input.amount ≤ wallet.available)
    (unsettled : settled tables (some input.orderId) = false) :
    Posted tables after
      (reserveEntries input transactionId (reservedBalances wallet input.amount)) := by
  have positive : 0 < input.amount := moved.positive
  constructor
  · intro userId other present
    by_cases own : userId = input.requesterId
    · subst own
      have before := economy.nonnegative input.requesterId wallet found
      rw [changed, AList.lookup_insert, Option.some.injEq] at present
      subst present
      simp [reserveEntries, reservedBalances, entryChange, LedgerEntry.signed, walletOf, found]
      omega
    · rw [changed, AList.lookup_insert_ne own] at present
      have before := economy.nonnegative userId other present
      simpa [reserveEntries, entryChange, walletOf, present, Ne.symm own] using before
  · intro userId
    rw [open_reservations_insert moved.fresh moved.recorded rfl]
    simp [reserveTransaction, reserveEntries, entryChange, LedgerEntry.signed, unsettled]
  · rw [held_replace found changed, issued_insert moved.fresh moved.recorded]
    simp only [reservedBalances, reserveTransaction, reduceCtorEq, if_false]
    omega

theorem release_posted {input : ReleaseInput} {wallet : Wallet} (books : Books tables)
    (economy : Economy tables)
    (moved : Moved tables after transactionId (terminalTransaction input .release)
      (releaseEntries input transactionId (releasedBalances wallet input.amount)))
    (found : tables.wallets.lookup input.requesterId = some wallet)
    (changed : after.wallets =
      tables.wallets.insert input.requesterId (releasedBalances wallet input.amount))
    (enough : input.amount ≤ wallet.reserved)
    {reservation : Operation} {reservationId : TransactionId}
    (recorded : tables.operations.lookup (input.orderId, .reserve) = some reservation)
    (succeeded : reservation.outcome = .succeeded reservationId)
    (same : reservation.requesterId = input.requesterId ∧ reservation.amount = input.amount)
    (unsettled : settled tables (some input.orderId) = false) :
    Posted tables after
      (releaseEntries input transactionId (releasedBalances wallet input.amount)) := by
  have positive : 0 < input.amount := moved.positive
  constructor
  · intro userId other present
    by_cases own : userId = input.requesterId
    · subst own
      have before := economy.nonnegative input.requesterId wallet found
      rw [changed, AList.lookup_insert, Option.some.injEq] at present
      subst present
      simp [releaseEntries, releasedBalances, entryChange, LedgerEntry.signed, walletOf, found]
      omega
    · rw [changed, AList.lookup_insert_ne own] at present
      have before := economy.nonnegative userId other present
      simpa [releaseEntries, entryChange, walletOf, present, Ne.symm own] using before
  · intro userId
    rw [open_reservations_settle books moved.fresh moved.recorded rfl rfl recorded succeeded
      unsettled, same.1, same.2]
    by_cases own : input.requesterId = userId <;>
      simp [releaseEntries, entryChange, LedgerEntry.signed, own]
    omega
  · rw [held_replace found changed, issued_insert moved.fresh moved.recorded]
    simp only [releasedBalances, terminalTransaction, reduceCtorEq, if_false]
    omega

theorem transfer_posted {input : TransferInput} {requester courier : Wallet}
    (books : Books tables) (economy : Economy tables)
    (moved : Moved tables after transactionId
      (terminalTransaction input.toReservationInput .transfer)
      (transferEntries input transactionId (debitedBalances requester input.amount)
        (paidBalances courier input.amount)))
    (foundRequester : tables.wallets.lookup input.requesterId = some requester)
    (foundCourier : tables.wallets.lookup input.courierId = some courier)
    (different : input.requesterId ≠ input.courierId)
    (changed : after.wallets = (tables.wallets.insert input.requesterId
      (debitedBalances requester input.amount)).insert input.courierId
      (paidBalances courier input.amount))
    (enough : input.amount ≤ requester.reserved)
    {reservation : Operation} {reservationId : TransactionId}
    (recorded : tables.operations.lookup (input.orderId, .reserve) = some reservation)
    (succeeded : reservation.outcome = .succeeded reservationId)
    (same : reservation.requesterId = input.requesterId ∧ reservation.amount = input.amount)
    (unsettled : settled tables (some input.orderId) = false) :
    Posted tables after
      (transferEntries input transactionId (debitedBalances requester input.amount)
        (paidBalances courier input.amount)) := by
  have positive : 0 < input.amount := moved.positive
  constructor
  · intro userId other present
    by_cases paid : userId = input.courierId
    · subst paid
      have before := economy.nonnegative input.courierId courier foundCourier
      rw [changed, AList.lookup_insert, Option.some.injEq] at present
      subst present
      simp [transferEntries, paidBalances, entryChange, LedgerEntry.signed, walletOf,
        foundCourier, different]
      omega
    · rw [changed, AList.lookup_insert_ne paid] at present
      by_cases own : userId = input.requesterId
      · subst own
        have before := economy.nonnegative input.requesterId requester foundRequester
        rw [AList.lookup_insert, Option.some.injEq] at present
        subst present
        simp [transferEntries, debitedBalances, entryChange, LedgerEntry.signed, walletOf,
          foundRequester, Ne.symm different]
        omega
      · rw [AList.lookup_insert_ne own] at present
        have before := economy.nonnegative userId other present
        simpa [transferEntries, entryChange, walletOf, present, Ne.symm own, Ne.symm paid]
          using before
  · intro userId
    rw [open_reservations_settle books moved.fresh moved.recorded rfl rfl recorded succeeded
      unsettled, same.1, same.2]
    by_cases own : input.requesterId = userId <;>
      simp [transferEntries, entryChange, LedgerEntry.signed, own]
    omega
  · let debited := tables.hold input.requesterId (debitedBalances requester input.amount)
    have foundPaid : debited.wallets.lookup input.courierId = some courier := by
      simpa only [debited, Tables.hold, AList.lookup_insert_ne (Ne.symm different)]
        using foundCourier
    have debit : held debited = held tables - _ + _ := held_replace foundRequester rfl
    rw [held_replace foundPaid changed, debit, issued_insert moved.fresh moved.recorded]
    simp only [debitedBalances, paidBalances, terminalTransaction, reduceCtorEq, if_false]
    omega

theorem issue_posted {userId : UserId} {initialAllocation : Int} (economy : Economy tables)
    (moved : Moved tables after transactionId
      { orderId := none, transactionType := .issue, walletUserId := userId,
        amount := initialAllocation } (issueEntries userId initialAllocation transactionId))
    (absent : tables.wallets.lookup userId = none)
    (changed : after.wallets =
      tables.wallets.insert userId { available := initialAllocation, reserved := 0 }) :
    Posted tables after (issueEntries userId initialAllocation transactionId) := by
  have positive : 0 < initialAllocation := moved.positive
  constructor
  · intro other wallet present
    by_cases own : other = userId
    · subst own
      rw [changed, AList.lookup_insert, Option.some.injEq] at present
      subst present
      simp [issueEntries, entryChange, LedgerEntry.signed, walletOf, absent]
      omega
    · rw [changed, AList.lookup_insert_ne own] at present
      have before := economy.nonnegative other wallet present
      simpa [issueEntries, entryChange, walletOf, present, Ne.symm own] using before
  · intro other
    rw [open_reservations_insert moved.fresh moved.recorded rfl]
    simp [issueEntries, entryChange]
  · rw [issued_insert moved.fresh moved.recorded]
    simp only [held, changed, if_true]
    rw [total_insert_absent _ _ _ _ absent]
    dsimp only
    omega

end Economies

/-! ## Every call -/

/-- What a committed call did to the books: nothing, or one movement whose
entries state the balances it left. -/
inductive Effect (tables after : Tables) : Prop where
  | none (unmoved : Unmoved tables after)
  | movement (transactionId : TransactionId) (row : CreditTransaction)
      (pair : LedgerEntry × LedgerEntry) (moved : Moved tables after transactionId row pair)
      (results : ∀ entry, entry = pair.1 ∨ entry = pair.2 → ∀ userId,
        entry.walletUserId = some userId → entry.resulting = after.wallets.lookup userId)

structure Kept (tables after : Tables) : Prop where
  books : Books after
  economy : Economy after
  effect : Effect tables after

section Calls

variable {tables after : Tables} {transactionId : TransactionId}

theorem valid_reservation {reservation : Operation} {input : ReservationInput}
    (valid : validateReservation reservation input = none) :
    (∃ reservationId, reservation.outcome = .succeeded reservationId) ∧
      reservation.requesterId = input.requesterId ∧ reservation.amount = input.amount := by
  unfold validateReservation at valid
  split at valid
  · simp at valid
  · rename_i succeeded
    split at valid
    · simp at valid
    · rename_i same
      simp only [Operation.differs, Bool.or_eq_true, decide_eq_true_eq, not_or, not_not] at same
      refine ⟨?_, same⟩
      cases outcome : reservation.outcome with
      | succeeded reservationId => exact ⟨reservationId, rfl⟩
      | pending => simp [outcome, OperationOutcome.transactionId] at succeeded
      | rejected => simp [outcome, OperationOutcome.transactionId] at succeeded

theorem replied_kept (books : Books tables) (economy : Economy tables)
    (unmoved : Unmoved tables after) (same : after.operations = tables.operations) :
    Kept tables after :=
  ⟨unmoved_books unmoved books (fun _ => by rw [same])
    (fun _ => by simp only [findTerminalOperation, same]),
    unmoved_economy unmoved economy, .none unmoved⟩

theorem kept_of_moved {row : CreditTransaction} {pair : LedgerEntry × LedgerEntry}
    (books : Books tables) (economy : Economy tables)
    (moved : Moved tables after transactionId row pair)
    (kept : Moved tables after transactionId row pair → Books after)
    (posted : Moved tables after transactionId row pair → Posted tables after pair)
    (results : ∀ entry, entry = pair.1 ∨ entry = pair.2 → ∀ userId,
      entry.walletUserId = some userId → entry.resulting = after.wallets.lookup userId) :
    Kept tables after :=
  ⟨kept moved, posted_economy books economy moved (posted moved),
    .movement transactionId row pair moved results⟩

/-- The wallets a movement of one user's credit names exist afterwards. -/
theorem hold_known {row : CreditTransaction} {pair : LedgerEntry × LedgerEntry}
    {userId : UserId} {balances : Wallet}
    (changed : after.wallets = tables.wallets.insert userId balances)
    (owner : row.walletUserId = userId)
    (named : ∀ other, pair.1.walletUserId = some other ∨ pair.2.walletUserId = some other →
      other = userId) (other : UserId)
    (known : tables.wallets.lookup other ≠ none ∨ other = row.walletUserId ∨
      pair.1.walletUserId = some other ∨ pair.2.walletUserId = some other) :
    after.wallets.lookup other ≠ none := by
  rw [changed]
  by_cases own : other = userId
  · simp [own]
  · rw [AList.lookup_insert_ne own]
    rcases known with old | isOwner | entry
    · exact old
    · exact absurd (isOwner.trans owner) own
    · exact absurd (named other entry) own

theorem reserve_kept {input : ReservationInput} {outcome : ReservationOutcome}
    (books : Books tables) (economy : Economy tables)
    (returned : Reserved tables input transactionId outcome after) : Kept tables after := by
  cases returned with
  | conflict => exact replied_kept books economy ⟨rfl, rfl, rfl⟩ rfl
  | replay => exact replied_kept books economy ⟨rfl, rfl, rfl⟩ rfl
  | refuse reason available absent =>
      have unmoved := settle_unmoved tables (input.orderId, .reserve)
      exact ⟨refused_books (unmoved _ _) books absent rfl (by simp),
        unmoved_economy (unmoved _ _) economy, .none (unmoved _ _)⟩
  | reserve wallet absent positive ranged found nonneg fresh =>
      have unsettled := unsettled_of_absent books input.orderId (.inr absent)
      refine kept_of_moved books economy ⟨fresh, rfl, rfl, ⟨rfl, rfl⟩, ⟨rfl, rfl, rfl⟩,
        hold_known rfl rfl (by simp [reserveEntries]), positive⟩
        (fun moved => reserved_books moved books absent rfl rfl rfl)
        (fun moved => reserve_posted economy moved found rfl nonneg.1 unsettled) ?_
      rintro entry (rfl | rfl) userId named <;> cases named <;>
        simp [Tables.settle, Tables.book, Tables.hold, reserveEntries]

theorem release_kept {input : ReleaseInput} {outcome : ReleaseOutcome}
    (books : Books tables) (economy : Economy tables)
    (returned : Released tables input transactionId outcome after) : Kept tables after := by
  cases returned with
  | invalid => exact replied_kept books economy ⟨rfl, rfl, rfl⟩ rfl
  | conflict => exact replied_kept books economy ⟨rfl, rfl, rfl⟩ rfl
  | replay => exact replied_kept books economy ⟨rfl, rfl, rfl⟩ rfl
  | release reservation wallet settleable positive found nonneg fresh =>
      obtain ⟨⟨reservationId, succeeded⟩, same⟩ := valid_reservation settleable.valid
      have unsettled := unsettled_of_absent books input.orderId (.inl settleable.unsettled)
      refine kept_of_moved books economy ⟨fresh, rfl, rfl, ⟨rfl, rfl⟩, ⟨rfl, rfl, rfl⟩,
        hold_known rfl rfl (by simp [releaseEntries]), positive⟩
        (fun moved => settled_books moved books (.inr rfl) rfl (by simp [settleable.found])
          rfl rfl)
        (fun moved => release_posted books economy moved found rfl nonneg.2 settleable.found
          succeeded same unsettled) ?_
      rintro entry (rfl | rfl) userId named <;> cases named <;>
        simp [Tables.settle, Tables.book, Tables.hold, releaseEntries]

theorem transfer_kept {input : TransferInput} {outcome : TransferOutcome}
    (books : Books tables) (economy : Economy tables)
    (returned : Transferred tables input transactionId outcome after) : Kept tables after := by
  cases returned with
  | invalid => exact replied_kept books economy ⟨rfl, rfl, rfl⟩ rfl
  | participants => exact replied_kept books economy ⟨rfl, rfl, rfl⟩ rfl
  | conflict => exact replied_kept books economy ⟨rfl, rfl, rfl⟩ rfl
  | replay => exact replied_kept books economy ⟨rfl, rfl, rfl⟩ rfl
  | transfer reservation requester courier settleable different positive foundRequester
      foundCourier nonneg fresh =>
      obtain ⟨⟨reservationId, succeeded⟩, same⟩ := valid_reservation settleable.valid
      have unsettled := unsettled_of_absent books input.orderId (.inl settleable.unsettled)
      refine kept_of_moved books economy ⟨fresh, rfl, rfl, ⟨rfl, rfl⟩, ⟨rfl, rfl, rfl⟩,
        ?_, positive⟩
        (fun moved => settled_books moved books (.inl rfl) rfl (by simp [settleable.found])
          rfl rfl)
        (fun moved => transfer_posted books economy moved foundRequester foundCourier different
          rfl nonneg.2.1 settleable.found succeeded same unsettled) ?_
      · intro userId known
        by_cases paid : userId = input.courierId
        · simp [Tables.settle, Tables.book, Tables.hold, paid]
        · by_cases own : userId = input.requesterId
          · simp [Tables.settle, Tables.book, Tables.hold, own, different]
          · simpa [Tables.settle, Tables.book, Tables.hold, AList.lookup_insert_ne own,
              AList.lookup_insert_ne paid, own, Ne.symm own, Ne.symm paid,
              terminalTransaction, transferEntries] using known
      · rintro entry (rfl | rfl) userId named <;> cases named <;>
          simp [Tables.settle, Tables.book, Tables.hold, transferEntries,
            AList.lookup_insert_ne different]

theorem issue_kept {userId : UserId} {initialAllocation : Int} {created : Bool}
    (books : Books tables) (economy : Economy tables)
    (returned : Issued tables userId initialAllocation transactionId created after) :
    Kept tables after := by
  cases returned with
  | known => exact replied_kept books economy ⟨rfl, rfl, rfl⟩ rfl
  | issue absent positive fresh =>
      refine kept_of_moved books economy ⟨fresh, rfl, rfl, ⟨rfl, rfl⟩, ⟨rfl, rfl, rfl⟩,
        hold_known rfl rfl (by simp [issueEntries, eq_comm]), positive⟩
        (fun moved => issued_books moved books rfl rfl)
        (fun moved => issue_posted economy moved absent rfl) ?_
      rintro entry (rfl | rfl) other named <;> cases named
      simp [Tables.book, Tables.hold, issueEntries]

theorem execute_kept {call : Call} {outcome : Outcome} (books : Books tables)
    (economy : Economy tables) (returned : execute tables call = .ok (outcome, after)) :
    Kept tables after := by
  cases call with
  | issueInitial userId initialAllocation transactionId =>
      simp only [execute, bind_ok, return_ok, Prod.mk.injEq] at returned
      obtain ⟨_, returned, rfl, rfl⟩ := returned
      exact issue_kept books economy (issue_initial_ok returned)
  | reserve input transactionId fault =>
      simp only [execute, bind_ok, return_ok, Prod.mk.injEq] at returned
      obtain ⟨_, returned, rfl, rfl⟩ := returned
      exact reserve_kept books economy (reserve_ok returned)
  | transfer input transactionId fault =>
      simp only [execute, bind_ok, return_ok, Prod.mk.injEq] at returned
      obtain ⟨_, returned, rfl, rfl⟩ := returned
      exact transfer_kept books economy (transfer_ok returned)
  | release input transactionId fault =>
      simp only [execute, bind_ok, return_ok, Prod.mk.injEq] at returned
      obtain ⟨_, returned, rfl, rfl⟩ := returned
      exact release_kept books economy (release_ok returned)

theorem attempt_kept (books : Books tables) (economy : Economy tables) (tried : Attempt) :
    Kept tables (attempt tables tried) := by
  have still : Kept tables tables := replied_kept books economy ⟨rfl, rfl, rfl⟩ rfl
  unfold attempt
  cases returned : execute tables tried.call with
  | error => exact still
  | ok result =>
      obtain ⟨outcome, changed⟩ := result
      by_cases commits : tried.commits = true
      · simpa [commits] using execute_kept books economy returned
      · simpa [commits] using still

/-- A reservation still open is part of its requester's reserved balance. -/
theorem settleable_backed {input : ReservationInput} (books : Books tables)
    (economy : Economy tables) : ¬ Unbacked tables input := by
  rintro ⟨reservation, settleable, short⟩
  obtain ⟨⟨reservationId, succeeded⟩, requester, amount⟩ :=
    valid_reservation settleable.valid
  have unsettled := unsettled_of_absent books input.orderId (.inl settleable.unsettled)
  have recorded := books.reserved input.orderId reservation reservationId settleable.found
    succeeded
  have owner := books.rowWallet reservationId _ recorded
  obtain ⟨wallet, found⟩ := Option.ne_none_iff_exists'.mp owner
  rw [requester] at found
  have backed := economy.backed input.requesterId wallet found
  have part := total_le_of_found (fun _ row =>
    if row.transactionType = .reserve ∧ row.walletUserId = input.requesterId ∧
      settled tables row.orderId = false then row.amount else 0) recorded (by
      intro otherId other present
      have positive := books.positive otherId other present
      split <;> omega)
  simp only [requester, amount, unsettled, and_self, if_true] at part
  have less := short wallet found
  unfold openReservations at backed
  omega

end Calls

/-! ## Every run -/

/-- Each entry of a wallet states the balances that wallet had right after the
call that recorded the entry's transaction. -/
def BalancesRecorded (attempts : List Attempt) : Prop :=
  ∀ entry ∈ (run .empty attempts).entries, ∀ userId, entry.walletUserId = some userId →
    ∃ before tried rest, attempts = before ++ tried :: rest ∧
      (run .empty before).transactions.lookup entry.transactionId = none ∧
      (run .empty (before ++ [tried])).transactions.lookup entry.transactionId ≠ none ∧
      entry.resulting = (run .empty (before ++ [tried])).wallets.lookup userId

theorem empty_kept : Books .empty ∧ Economy .empty := by
  constructor <;> constructor <;> simp [Tables.empty, held, issued, total]

theorem run_snoc (tables : Tables) (attempts : List Attempt) (tried : Attempt) :
    run tables (attempts ++ [tried]) = attempt (run tables attempts) tried := by
  simp [run]

theorem run_kept (attempts : List Attempt) :
    Books (run .empty attempts) ∧ Economy (run .empty attempts) := by
  induction attempts using List.reverseRecOn with
  | nil => exact empty_kept
  | append_singleton attempts tried ih =>
      have kept := attempt_kept ih.1 ih.2 tried
      rw [run_snoc]
      exact ⟨kept.books, kept.economy⟩

theorem balances_recorded (attempts : List Attempt) : BalancesRecorded attempts := by
  induction attempts using List.reverseRecOn with
  | nil => simp [BalancesRecorded, run, Tables.empty]
  | append_singleton attempts tried ih =>
      intro entry member userId named
      obtain ⟨books, economy⟩ := run_kept attempts
      have effect := (attempt_kept books economy tried).effect
      -- An entry that was there before keeps the call that recorded it.
      have earlier : entry ∈ (run .empty attempts).entries → ∃ before called rest,
          attempts ++ [tried] = before ++ called :: rest ∧
            (run .empty before).transactions.lookup entry.transactionId = none ∧
            (run .empty (before ++ [called])).transactions.lookup entry.transactionId ≠ none ∧
            entry.resulting = (run .empty (before ++ [called])).wallets.lookup userId := by
        intro old
        obtain ⟨before, called, rest, split, recorded⟩ := ih entry old userId named
        exact ⟨before, called, rest ++ [tried], by simp [split], recorded⟩
      rw [run_snoc] at member
      cases effect with
      | none unmoved => exact earlier (by rwa [unmoved.entries] at member)
      | movement transactionId row pair moved results =>
          rcases moved_entry moved entry member with old | new
          · exact earlier old
          · have own : entry.transactionId = transactionId := by
              rcases new with rfl | rfl
              · exact moved.own.1
              · exact moved.own.2
            refine ⟨attempts, tried, [], rfl, ?_, ?_, ?_⟩
            · rw [own]
              exact moved.fresh
            · rw [run_snoc, own, moved.recorded]
              simp
            · rw [run_snoc]
              exact results entry new userId named

/-- The closed economy: from empty tables, after every sequence of calls, each
committed, thrown at any boundary or rolled back, every check holds, and no
transfer or release finds its reservation without reserved credit behind it. -/
theorem economy_invariant (attempts : List Attempt) :
    Economy (run .empty attempts) ∧ BalancesRecorded attempts ∧
      (∀ input transactionId fault orderId,
        transfer (run .empty attempts) input transactionId fault ≠
          .error (.notBacked orderId)) ∧
      (∀ input transactionId fault orderId,
        release (run .empty attempts) input transactionId fault ≠
          .error (.notBacked orderId)) := by
  obtain ⟨books, economy⟩ := run_kept attempts
  refine ⟨economy, balances_recorded attempts, ?_, ?_⟩
  · intro input transactionId fault orderId thrown
    exact settleable_backed books economy (transfer_not_backed thrown)
  · intro input transactionId fault orderId thrown
    exact settleable_backed books economy (release_not_backed thrown)

end Foc.Credit
