import Foc.Credit.Serial
import Mathlib

/-!
The checks of the ledger audit (`credits/invariants.ts`): each reads the stored tables and gives a
line for every row that breaks it. The order of the lines is left out where the source's is that of
its rows. Over a closed economy in which every order is reserved once and settled once, none
finds anything.
-/
namespace Foc.Credit.Invariants
open Library.Keyed
open Foc.Credit.Interleaving (Lands)

/-- A check: the lines it gives, none where it holds. -/
abbrev CreditInvariant := Tables → List String

/-- `Number` of an integer of any size: the nearest of 53 bits, the even one of two as near. -/
def number (value : Int) : Int :=
  let size := value.natAbs.log2 + 1
  if size ≤ 53 then value
  else
    let unit := 2 ^ (size - 53)
    let whole := value.natAbs / unit
    let rest := 2 * (value.natAbs % unit)
    let up := decide (unit < rest) || decide (rest = unit) && decide (whole % 2 = 1)
    value.sign * ((if up then whole + 1 else whole) * unit : Nat)

/-! ## The checks -/

def walletLedgerViolations : CreditInvariant := fun tables =>
  tables.wallets.entries.filterMap fun entry =>
    let available := ledgerBalance tables.entries entry.1 .available
    let reserved := ledgerBalance tables.entries entry.1 .reserved
    if entry.2.available ≠ available ∨ entry.2.reserved ≠ reserved then
      some ("wallet " ++ entry.1 ++ " holds " ++ toString entry.2.available ++ "/" ++
        toString entry.2.reserved ++ " available/reserved but its ledger records " ++
        toString available ++ "/" ++ toString reserved)
    else none

/-- The columns are integers, so no balance is fractional. -/
def balanceViolations : CreditInvariant := fun tables =>
  tables.wallets.entries.filterMap fun entry =>
    if entry.2.available < 0 ∨ entry.2.reserved < 0 then
      some ("wallet " ++ entry.1 ++ " is negative")
    else none

/-- A sum over the entries of one side, null where there are none. -/
def sideText (tables : Tables) (transactionId : TransactionId) (direction : Direction) : String :=
  if tables.entries.any fun entry =>
    decide (entry.transactionId = transactionId) && decide (entry.direction = direction) then
    toString (transactionSide tables.entries transactionId direction)
  else "null"

def unbalancedTransactionViolations : CreditInvariant := fun tables =>
  (tables.entries.map LedgerEntry.transactionId).dedup.filterMap fun transactionId =>
    if transactionSide tables.entries transactionId .debit ≠
      transactionSide tables.entries transactionId .credit then
      some ("transaction " ++ transactionId ++ " is unbalanced (" ++
        sideText tables transactionId .debit ++ " ≠ " ++
        sideText tables transactionId .credit ++ ")")
    else none

def conservationViolations : CreditInvariant := fun tables =>
  if number (held tables) = number (issued tables) then []
  else
    ["credits not conserved: wallets hold " ++ toString (held tables) ++ " but " ++
      toString (issued tables) ++ " were issued"]

/-- How many transactions of some kind an order has. -/
def countOf (tables : Tables) (orderId : OrderId) (kind : TransactionType → Bool) : Nat :=
  tables.transactions.entries.countP fun entry =>
    decide (entry.2.orderId = some orderId) && kind entry.2.transactionType

def TransactionType.reserving : TransactionType → Bool
  | .reserve => true
  | _ => false

def orderOutcomeViolations : CreditInvariant := fun tables =>
  (tables.transactions.entries.filterMap fun entry => entry.2.orderId).dedup.flatMap fun orderId =>
    let reserves := countOf tables orderId TransactionType.reserving
    let terminals := countOf tables orderId Credit.TransactionType.terminal
    (if 1 < reserves then ["order " ++ orderId ++ " reserved " ++ toString reserves ++ " times"]
      else []) ++
    (if 1 < terminals then
      ["order " ++ orderId ++ " has " ++ toString terminals ++ " terminal outcomes"] else []) ++
    if 0 < terminals ∧ reserves = 0 then
      ["order " ++ orderId ++ " has a terminal outcome without a reservation"]
    else []

/-- A RESERVE without an order is never settled: nothing equals null. -/
def openAmount (tables : Tables) (userId : UserId) : Int :=
  total (fun _ row =>
    if row.transactionType = .reserve ∧ row.walletUserId = userId ∧
      (row.orderId.any fun orderId => settled tables (some orderId)) = false then row.amount
    else 0) tables.transactions

def reservedBackingViolations : CreditInvariant := fun tables =>
  tables.wallets.entries.filterMap fun entry =>
    let opened := openAmount tables entry.1
    if entry.2.reserved ≠ opened then
      some ("wallet " ++ entry.1 ++ " holds " ++ toString entry.2.reserved ++
        " reserved but its open reservations total " ++ toString (number opened))
    else none

def CREDIT_INVARIANTS : List (String × CreditInvariant) :=
  [ ("no wallet is negative or fractional", balanceViolations),
    ("every transaction's debits equal its credits", unbalancedTransactionViolations),
    ("all wallets together hold exactly what was issued", conservationViolations),
    ("each order is reserved once and settles once", orderOutcomeViolations),
    ("every wallet's reserved credits are its open reservations", reservedBackingViolations) ]

/-- What the audit checks. -/
def auditChecks : List (String × CreditInvariant) :=
  CREDIT_INVARIANTS ++ [("wallet balances agree with their ledger", walletLedgerViolations)]

def creditEconomyViolations : CreditInvariant := fun tables =>
  CREDIT_INVARIANTS.flatMap fun check => check.2 tables

/-! ## Every order is settled once -/

/-- An order has one RESERVE at most, and a RELEASE or TRANSFER at most once and after it. -/
structure Outcomes (tables : Tables) : Prop where
  once : ∀ first second one two, tables.transactions.lookup first = some one →
    tables.transactions.lookup second = some two → one.transactionType.terminal = true →
    two.transactionType.terminal = true → one.orderId = two.orderId → first = second
  reserved : ∀ transactionId row, tables.transactions.lookup transactionId = some row →
    row.transactionType.terminal = true → ∃ reservationId reservation,
      tables.transactions.lookup reservationId = some reservation ∧
      reservation.transactionType = .reserve ∧ reservation.orderId = row.orderId

section Settlement

variable {tables after : Tables} {request : Interleaving.Request} {outcome : Outcome}

theorem empty_outcomes : Outcomes .empty := by
  constructor <;> simp [Tables.empty]

/-- A settlement's order was reserved, and was not settled. -/
structure Settles (tables : Tables) (row : CreditTransaction) : Prop where
  fresh : ∀ orderId, row.orderId = some orderId → settled tables (some orderId) = false
  named : row.orderId.isSome = true
  reserved : ∃ reservationId reservation,
    tables.transactions.lookup reservationId = some reservation ∧
      reservation.transactionType = .reserve ∧ reservation.orderId = row.orderId

theorem settleable_settles {input : ReservationInput} {reservation : Operation}
    {transactionType : TransactionType} (books : Books tables)
    (settleable : Settleable tables input reservation) :
    Settles tables (terminalTransaction input transactionType) := by
  obtain ⟨⟨reservationId, succeeded⟩, -⟩ := valid_reservation settleable.valid
  have recorded := books.reserved input.orderId reservation reservationId settleable.found succeeded
  refine ⟨?_, rfl, reservationId, _, recorded, rfl, rfl⟩
  intro orderId named
  cases named
  exact unsettled_of_absent books input.orderId (.inl settleable.unsettled)

/-- What a commit adds to the transactions. -/
theorem lands_transactions (books : Books tables) (lands : Lands tables request outcome after) :
    after.transactions = tables.transactions ∨ ∃ transactionId row,
      tables.transactions.lookup transactionId = none ∧
        after.transactions = tables.transactions.insert transactionId row ∧
        (row.transactionType.terminal = true → Settles tables row) := by
  cases lands with
  | issue issued =>
      cases issued with
      | known => exact .inl rfl
      | issue absent positive fresh =>
          exact .inr ⟨_, _, fresh, rfl, fun terminal => Bool.noConfusion terminal⟩
  | reserve reserved =>
      cases reserved with
      | conflict => exact .inl rfl
      | replay => exact .inl rfl
      | refuse => exact .inl rfl
      | reserve wallet absent positive ranged found nonneg fresh =>
          exact .inr ⟨_, _, fresh, rfl, fun terminal => Bool.noConfusion terminal⟩
  | refuse => exact .inl rfl
  | transfer transferred =>
      cases transferred with
      | invalid => exact .inl rfl
      | participants => exact .inl rfl
      | conflict => exact .inl rfl
      | replay => exact .inl rfl
      | transfer reservation requester courier settleable different positive one two nonneg fresh =>
          exact .inr ⟨_, _, fresh, rfl, fun _ => settleable_settles books settleable⟩
  | release released =>
      cases released with
      | invalid => exact .inl rfl
      | conflict => exact .inl rfl
      | replay => exact .inl rfl
      | release reservation requester settleable positive held nonneg fresh =>
          exact .inr ⟨_, _, fresh, rfl, fun _ => settleable_settles books settleable⟩

theorem settled_row {transactionId : TransactionId} {row : CreditTransaction} {orderId : OrderId}
    (found : tables.transactions.lookup transactionId = some row)
    (terminal : row.transactionType.terminal = true) (named : row.orderId = some orderId) :
    settled tables (some orderId) = true := by
  rw [settled_iff]
  exact ⟨transactionId, row, found, named, terminal⟩

/-- A settlement is of another order than those settled before. -/
theorem settles_apart {transactionId : TransactionId} {row old : CreditTransaction}
    (settles : Settles tables row) (found : tables.transactions.lookup transactionId = some old)
    (terminal : old.transactionType.terminal = true) : old.orderId ≠ row.orderId := by
  intro same
  obtain ⟨orderId, named⟩ := Option.isSome_iff_exists.mp settles.named
  have before := settled_row found terminal (same.trans named)
  rw [settles.fresh orderId named] at before
  cases before

theorem insert_outcomes {transactionId : TransactionId} {row : CreditTransaction}
    (outcomes : Outcomes tables) (fresh : tables.transactions.lookup transactionId = none)
    (inserted : after.transactions = tables.transactions.insert transactionId row)
    (settles : row.transactionType.terminal = true → Settles tables row) : Outcomes after := by
  have there : ∀ other found, after.transactions.lookup other = some found →
      other = transactionId ∧ found = row ∨ other ≠ transactionId ∧
        tables.transactions.lookup other = some found := by
    intro other found present
    rw [inserted] at present
    by_cases same : other = transactionId
    · subst same
      rw [AList.lookup_insert] at present
      exact .inl ⟨rfl, (Option.some.inj present).symm⟩
    · rw [AList.lookup_insert_ne same] at present
      exact .inr ⟨same, present⟩
  have kept : ∀ other found, tables.transactions.lookup other = some found →
      after.transactions.lookup other = some found := by
    intro other found present
    have apart : other ≠ transactionId := by
      rintro rfl
      rw [fresh] at present
      cases present
    rw [inserted, AList.lookup_insert_ne apart]
    exact present
  constructor
  · intro first second one two foundOne foundTwo terminalOne terminalTwo same
    rcases there first one foundOne with ⟨rfl, rfl⟩ | ⟨_, oldOne⟩
    · rcases there second two foundTwo with ⟨rfl, rfl⟩ | ⟨_, oldTwo⟩
      · rfl
      · exact absurd same.symm (settles_apart (settles terminalOne) oldTwo terminalTwo)
    · rcases there second two foundTwo with ⟨rfl, rfl⟩ | ⟨_, oldTwo⟩
      · exact absurd same (settles_apart (settles terminalTwo) oldOne terminalOne)
      · exact outcomes.once first second one two oldOne oldTwo terminalOne terminalTwo same
  · intro other found present terminal
    rcases there other found present with ⟨rfl, rfl⟩ | ⟨_, old⟩
    · obtain ⟨reservationId, reservation, stored, kind, named⟩ := (settles terminal).reserved
      exact ⟨reservationId, reservation, kept _ _ stored, kind, named⟩
    · obtain ⟨reservationId, reservation, stored, kind, named⟩ :=
        outcomes.reserved other found old terminal
      exact ⟨reservationId, reservation, kept _ _ stored, kind, named⟩

theorem lands_outcomes (books : Books tables) (outcomes : Outcomes tables)
    (lands : Lands tables request outcome after) : Outcomes after := by
  rcases lands_transactions books lands with same | ⟨transactionId, row, fresh, inserted, settles⟩
  · constructor
    · rw [same]
      exact outcomes.once
    · rw [same]
      exact outcomes.reserved
  · exact insert_outcomes outcomes fresh inserted settles

end Settlement

/-! ## Nothing is found -/

section Quiet

variable {tables : Tables}

/-- An item that is the only one of its kind, and there once, is counted once. -/
theorem count_one {Item : Type} {kind : Item → Bool} {items : List Item} (once : items.Nodup)
    (only : ∀ first ∈ items, ∀ second ∈ items, kind first = true → kind second = true →
      first = second) : items.countP kind ≤ 1 := by
  induction items with
  | nil => exact Nat.zero_le 1
  | cons item rest ih =>
      obtain ⟨apart, once⟩ := List.nodup_cons.mp once
      have fewer := ih once fun first one second two =>
        only first (List.mem_cons_of_mem item one) second (List.mem_cons_of_mem item two)
      rw [List.countP_cons]
      split
      · rename_i counted
        have none_ : rest.countP kind = 0 := by
          rw [List.countP_eq_zero]
          intro other member also
          have same := only item List.mem_cons_self other (List.mem_cons_of_mem item member)
            counted also
          exact apart (same ▸ member)
        omega
      · exact fewer

theorem entries_nodup (table : AList fun _ : TransactionId => CreditTransaction) :
    table.entries.Nodup :=
  table.nodupKeys.nodup

/-- An order has one transaction of a kind at most, if no two of its kind are. -/
theorem count_once {orderId : OrderId} {kind : TransactionType → Bool}
    (only : ∀ first second one two, tables.transactions.lookup first = some one →
      tables.transactions.lookup second = some two → kind one.transactionType = true →
      kind two.transactionType = true → one.orderId = some orderId →
      two.orderId = some orderId → first = second) : countOf tables orderId kind ≤ 1 := by
  refine count_one (entries_nodup tables.transactions) ?_
  rintro ⟨first, one⟩ there ⟨second, two⟩ also left right
  have foundOne := (mem_entries_iff tables.transactions first one).mp there
  have foundTwo := (mem_entries_iff tables.transactions second two).mp also
  obtain ⟨namedOne, kindOne⟩ := Bool.and_eq_true_iff.mp left
  obtain ⟨namedTwo, kindTwo⟩ := Bool.and_eq_true_iff.mp right
  have same := only first second one two foundOne foundTwo kindOne kindTwo
    (of_decide_eq_true namedOne) (of_decide_eq_true namedTwo)
  subst same
  rw [foundOne] at foundTwo
  cases foundTwo
  rfl

theorem reserves_once (books : Books tables) (orderId : OrderId) :
    countOf tables orderId TransactionType.reserving ≤ 1 := by
  refine count_once ?_
  intro first second one two foundOne foundTwo kindOne kindTwo namedOne namedTwo
  have reserving : ∀ row : CreditTransaction,
      TransactionType.reserving row.transactionType = true → row.transactionType = .reserve := by
    intro row kind
    cases type_ : row.transactionType with
    | reserve => rfl
    | _ =>
        rw [type_] at kind
        cases kind
  obtain ⟨order, operation, named, stored, outcome⟩ :=
    books.reservation first one foundOne (reserving one kindOne)
  obtain ⟨other, operation', named', stored', outcome'⟩ :=
    books.reservation second two foundTwo (reserving two kindTwo)
  cases namedOne.symm.trans named
  cases namedTwo.symm.trans named'
  cases stored.symm.trans stored'
  cases outcome.symm.trans outcome'
  rfl

theorem terminals_once (outcomes : Outcomes tables) (orderId : OrderId) :
    countOf tables orderId Credit.TransactionType.terminal ≤ 1 := by
  refine count_once ?_
  intro first second one two foundOne foundTwo kindOne kindTwo namedOne namedTwo
  exact outcomes.once first second one two foundOne foundTwo kindOne kindTwo
    (namedOne.trans namedTwo.symm)

theorem terminal_reserved (outcomes : Outcomes tables) (orderId : OrderId)
    (settled : 0 < countOf tables orderId Credit.TransactionType.terminal) :
    countOf tables orderId TransactionType.reserving ≠ 0 := by
  obtain ⟨⟨transactionId, row⟩, there, counted⟩ := List.countP_pos_iff.mp settled
  obtain ⟨named, terminal⟩ := Bool.and_eq_true_iff.mp counted
  have found := (mem_entries_iff tables.transactions transactionId row).mp there
  obtain ⟨reservationId, reservation, stored, kind, same⟩ :=
    outcomes.reserved transactionId row found terminal
  refine Nat.pos_iff_ne_zero.mp (List.countP_pos_iff.mpr ⟨⟨reservationId, reservation⟩, ?_, ?_⟩)
  · exact (mem_entries_iff tables.transactions reservationId reservation).mpr stored
  · have named := same.trans (of_decide_eq_true named)
    simp only [named, kind, TransactionType.reserving, decide_true, Bool.and_self]

theorem order_outcomes_quiet (books : Books tables) (outcomes : Outcomes tables) :
    orderOutcomeViolations tables = [] := by
  unfold orderOutcomeViolations
  rw [List.flatMap_eq_nil_iff]
  intro orderId _
  have reserves := reserves_once books orderId
  have terminals := terminals_once outcomes orderId
  have reserved := terminal_reserved outcomes orderId
  simp only [List.append_eq_nil_iff, ite_eq_right_iff, List.cons_ne_nil, imp_false, not_lt,
    not_and]
  exact ⟨⟨reserves, terminals⟩, reserved⟩

theorem balances_quiet (economy : Economy tables) : balanceViolations tables = [] := by
  unfold balanceViolations
  rw [List.filterMap_eq_nil_iff]
  rintro ⟨userId, wallet⟩ there
  have found := (mem_entries_iff tables.wallets userId wallet).mp there
  have nonnegative := economy.nonnegative userId wallet found
  rw [if_neg]
  rintro (negative | negative)
  · exact absurd nonnegative.1 (Int.not_le.mpr negative)
  · exact absurd nonnegative.2 (Int.not_le.mpr negative)

theorem balanced_quiet (books : Books tables) (economy : Economy tables) :
    unbalancedTransactionViolations tables = [] := by
  unfold unbalancedTransactionViolations
  rw [List.filterMap_eq_nil_iff]
  intro transactionId listed
  obtain ⟨entry, there, rfl⟩ := List.mem_map.mp (List.mem_dedup.mp listed)
  obtain ⟨row, found⟩ := Option.ne_none_iff_exists'.mp (books.entryTransaction entry there)
  rw [if_neg]
  rw [not_not]
  exact economy.balanced entry.transactionId row found

theorem conserved_quiet (economy : Economy tables) : conservationViolations tables = [] := by
  rw [conservationViolations, economy.conserved, if_pos rfl]

/-- Every RESERVE names its order, so the open ones are those of the economy. -/
theorem open_amount (books : Books tables) (userId : UserId) :
    openAmount tables userId = openReservations tables userId := by
  refine total_congr ?_
  intro transactionId row found
  by_cases reserve : row.transactionType = .reserve
  · obtain ⟨orderId, operation, named, -⟩ := books.reservation transactionId row found reserve
    simp only [named, Option.any_some]
  · rw [if_neg fun holds => reserve holds.1, if_neg fun holds => reserve holds.1]

theorem backed_quiet (books : Books tables) (economy : Economy tables) :
    reservedBackingViolations tables = [] := by
  unfold reservedBackingViolations
  rw [List.filterMap_eq_nil_iff]
  rintro ⟨userId, wallet⟩ there
  have found := (mem_entries_iff tables.wallets userId wallet).mp there
  rw [if_neg]
  rw [not_not, open_amount books]
  exact economy.backed userId wallet found

theorem ledgered_quiet (economy : Economy tables) : walletLedgerViolations tables = [] := by
  unfold walletLedgerViolations
  rw [List.filterMap_eq_nil_iff]
  rintro ⟨userId, wallet⟩ there
  have found := (mem_entries_iff tables.wallets userId wallet).mp there
  obtain ⟨available, reserved⟩ := economy.ledgered userId wallet found
  rw [if_neg]
  rintro (differs | differs)
  · exact differs available
  · exact differs reserved

/-- No check of the audit finds anything. -/
theorem checks_quiet (books : Books tables) (economy : Economy tables)
    (outcomes : Outcomes tables) : ∀ check ∈ auditChecks, check.2 tables = [] := by
  intro check listed
  simp only [auditChecks, CREDIT_INVARIANTS, List.cons_append, List.nil_append, List.mem_cons,
    List.not_mem_nil, or_false] at listed
  rcases listed with rfl | rfl | rfl | rfl | rfl | rfl
  · exact balances_quiet economy
  · exact balanced_quiet books economy
  · exact conserved_quiet economy
  · exact order_outcomes_quiet books outcomes
  · exact backed_quiet books economy
  · exact ledgered_quiet economy

end Quiet

/-! ## Over every interleaving -/

section Runs
open Interleaving Library.EventLoop
open Foc.Order (Micros)

variable {state after : State}

/-- Only a commit changes the tables. -/
theorem turn_outcomes {event : Event} (sound : Sound state) (outcomes : Outcomes state.tables)
    (turned : turn state event = some after) : Outcomes after.tables := by
  cases event with
  | tick now =>
      cases turned
      exact outcomes
  | start request =>
      cases turned
      exact outcomes
  | run index draw =>
      rw [turn] at turned
      split at turned
      · obtain ⟨call, found, ran⟩ := Option.bind_eq_some_iff.mp turned
        obtain ⟨result, stepped, is⟩ := Option.map_eq_some_iff.mp ran
        subst is
        cases result with
        | error error => exact outcomes
        | ok moved => exact outcomes
      · cases turned
  | commit index =>
      obtain ⟨call, found, committed⟩ := Option.bind_eq_some_iff.mp turned
      split at committed
      · rename_i outcome done
        cases committed
        exact lands_outcomes sound.books outcomes (commit_lands sound found done)
      · cases committed
  | abort index =>
      obtain ⟨call, found, aborted⟩ := Option.bind_eq_some_iff.mp turned
      split at aborted
      · cases aborted
      · cases aborted
      · cases aborted
        exact outcomes

/-- What the checks read is sound, so they find nothing. -/
structure Consistent (state : State) : Prop where
  sound : Sound state
  outcomes : Outcomes state.tables

theorem initial_consistent (clock : Micros) : Consistent (initial clock) :=
  ⟨sound_initial clock, empty_outcomes⟩

theorem turn_consistent {event : Event} (consistent : Consistent state)
    (turned : turn state event = some after) : Consistent after :=
  ⟨turn_sound consistent.sound turned,
    turn_outcomes consistent.sound consistent.outcomes turned⟩

theorem Consistent.quiet (consistent : Consistent state) :
    ∀ check ∈ auditChecks, check.2 state.tables = [] :=
  checks_quiet consistent.sound.books consistent.sound.economy consistent.outcomes

/-- Whatever the order of issues, reservations, transfers and releases, at every commit between
them an order has one RESERVE at most, one settlement at most and none without a RESERVE, and no
check of the economy finds anything. -/
theorem interleaved_quiet {clock : Micros} (run : Run turn (initial clock) state) :
    Outcomes state.tables ∧
      (∀ orderId, countOf state.tables orderId TransactionType.reserving ≤ 1) ∧
      ∀ check ∈ auditChecks, check.2 state.tables = [] := by
  have consistent : Consistent state :=
    run_keeps (fun _ _ _ kept turned => turn_consistent kept turned) (initial_consistent clock) run
  exact ⟨consistent.outcomes, reserves_once consistent.sound.books, consistent.quiet⟩

theorem issued_quiet : ∃ state : Interleaving.State,
    state.tables.wallets.lookup "u" = some { available := 10, reserved := 0 } ∧
      ∀ check ∈ auditChecks, check.2 state.tables = [] := by
  have reached : ((turns turn (initial 0) [.start (.issueInitial "u" 10),
      .run 0 (4 * 2 ^ 76 + 8 * 2 ^ 60), .commit 0]).any fun state =>
        decide (state.tables.wallets.lookup "u" = some { available := 10, reserved := 0 })) =
          true := by
    decide +kernel
  obtain ⟨state, run, issued⟩ := (Option.any_eq_true _ _).mp reached
  exact ⟨state, of_decide_eq_true issued, (interleaved_quiet (run_turns .refl _ run)).2.2⟩

end Runs

end Foc.Credit.Invariants
