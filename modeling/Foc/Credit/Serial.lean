import Foc.Credit.Economy
import Foc.Credit.Interleaving

/-!
Interleaved transactions, one at a time: each that commits leaves the tables as if its
method had run there alone, at its commit, but for a refusal whose balance is that of an
earlier moment. So what holds of the books after every call holds of them here.
-/
namespace Foc.Credit.Interleaving
open Library.Difference Library.EventLoop Library.LockTable
open Foc.Order (Micros Uuid idText)

variable {tables after later : Tables} {request : Request} {outcome : Outcome} {own : Changes}
  {locks : List Lock}

/-! ## What a commit leaves -/

/-- What a method that ran on the tables leaves. A refusal may have read another balance. -/
inductive Lands (tables : Tables) : Request → Outcome → Tables → Prop where
  | issue {userId : UserId} {initialAllocation : Int} {transactionId : TransactionId}
      {created : Bool} {after : Tables}
      (issued : Issued tables userId initialAllocation transactionId created after) :
      Lands tables (.issueInitial userId initialAllocation) (.issued created) after
  | reserve {input : ReservationInput} {transactionId : TransactionId}
      {outcome : ReservationOutcome} {after : Tables}
      (reserved : Reserved tables input transactionId outcome after) :
      Lands tables (.reserve input) (.reservation outcome) after
  | refuse {input : ReservationInput} (reason : RecordedRejection) (available : Option Int)
      (absent : tables.operations.lookup (input.orderId, .reserve) = none) :
      Lands tables (.reserve input) (.reservation (.rejected reason.reason available))
        (tables.settle (input.orderId, .reserve)
          { pendingOperation input.requesterId none input.amount with
            outcome := .rejected reason available }
          (reservationReply input (.rejected reason.reason available)))
  | transfer {input : TransferInput} {transactionId : TransactionId}
      {outcome : TransferOutcome} {after : Tables}
      (transferred : Transferred tables input transactionId outcome after) :
      Lands tables (.transfer input) (.transfer outcome) after
  | release {input : ReleaseInput} {transactionId : TransactionId}
      {outcome : ReleaseOutcome} {after : Tables}
      (released : Released tables input transactionId outcome after) :
      Lands tables (.release input) (.release outcome) after

/-- The order that a terminal method settles. -/
def Settles : Request → OrderId → Prop
  | .transfer input, orderId => input.orderId = orderId
  | .release input, orderId => input.orderId = orderId
  | .issueInitial _ _, _ | .reserve _, _ => False

theorem find_terminal_none {orderId : OrderId} (unsettled : findTerminalOperation tables orderId = none) :
    tables.operations.lookup (orderId, .release) = none ∧
      tables.operations.lookup (orderId, .transfer) = none := by
  rw [findTerminalOperation] at unsettled
  split at unsettled
  · cases unsettled
  · next released => exact ⟨released, Option.map_eq_none_iff.mp unsettled⟩

theorem lands_kept (books : Books tables) (economy : Economy tables)
    (lands : Lands tables request outcome after) : Kept tables after := by
  cases lands with
  | issue issued => exact issue_kept books economy issued
  | reserve reserved => exact reserve_kept books economy reserved
  | @refuse input reason available absent =>
      have unmoved := settle_unmoved tables (input.orderId, .reserve)
      exact ⟨refused_books (unmoved _ _) books absent rfl (by simp),
        unmoved_economy (unmoved _ _) economy, .none (unmoved _ _)⟩
  | transfer transferred => exact transfer_kept books economy transferred
  | release released => exact release_kept books economy released

theorem lands_wallets (lands : Lands tables request outcome after) {userId : UserId}
    (present : tables.wallets.lookup userId ≠ none) : after.wallets.lookup userId ≠ none := by
  have held : ∀ (table : AList fun _ : UserId => Wallet) other balances,
      table.lookup userId ≠ none → (table.insert other balances).lookup userId ≠ none := by
    intro table other balances there
    by_cases same : userId = other
    · subst same
      rw [AList.lookup_insert]
      exact nofun
    · rwa [AList.lookup_insert_ne same]
  cases lands with
  | issue issued =>
      cases issued with
      | known => exact present
      | issue => exact held _ _ _ present
  | reserve reserved =>
      cases reserved with
      | conflict | replay | refuse => exact present
      | reserve => exact held _ _ _ present
  | refuse => exact present
  | transfer transferred =>
      cases transferred with
      | invalid | participants | conflict | replay => exact present
      | transfer => exact held _ _ _ (held _ _ _ present)
  | release released =>
      cases released with
      | invalid | conflict | replay => exact present
      | release => exact held _ _ _ present

/-- A commit adds one operation at most, to an order that had none of its kind. -/
theorem lands_operations (lands : Lands tables request outcome after) :
    after.operations = tables.operations ∨ ∃ key operation,
      after.operations = tables.operations.insert key operation ∧
        tables.operations.lookup key = none ∧
        (key.2 ≠ .reserve → Settles request key.1 ∧ findTerminalOperation tables key.1 = none) := by
  cases lands with
  | issue issued =>
      cases issued with
      | known | issue => exact .inl rfl
  | @reserve input _ _ _ reserved =>
      cases reserved with
      | conflict | replay => exact .inl rfl
      | refuse _ _ absent => exact .inr ⟨_, _, rfl, absent, fun other => absurd rfl other⟩
      | reserve _ absent => exact .inr ⟨_, _, rfl, absent, fun other => absurd rfl other⟩
  | refuse _ _ absent => exact .inr ⟨_, _, rfl, absent, fun other => absurd rfl other⟩
  | transfer transferred =>
      cases transferred with
      | invalid | participants | conflict | replay => exact .inl rfl
      | transfer _ _ _ settleable =>
          exact .inr ⟨_, _, rfl, (find_terminal_none settleable.unsettled).2,
            fun _ => ⟨rfl, settleable.unsettled⟩⟩
  | release released =>
      cases released with
      | invalid | conflict | replay => exact .inl rfl
      | release _ _ settleable =>
          exact .inr ⟨_, _, rfl, (find_terminal_none settleable.unsettled).1,
            fun _ => ⟨rfl, settleable.unsettled⟩⟩

/-! ## What others leave to a transaction -/

/-- What others may have committed since, for one that holds some locks. -/
structure Frame (locks : List Lock) (tables later : Tables) : Prop where
  wallet : ∀ userId, .wallet userId ∈ locks →
    later.wallets.lookup userId = tables.wallets.lookup userId
  operation : ∀ key, .operation key ∈ locks →
    later.operations.lookup key = tables.operations.lookup key
  transaction : ∀ transactionId, .transaction transactionId ∈ locks →
    later.transactions.lookup transactionId = tables.transactions.lookup transactionId
  existing : ∀ userId, tables.wallets.lookup userId ≠ none → later.wallets.lookup userId ≠ none
  recorded : ∀ key operation, tables.operations.lookup key = some operation →
    later.operations.lookup key = some operation
  settled : ∀ orderId prior, findTerminalOperation tables orderId = some prior →
    findTerminalOperation later orderId = some prior
  unsettled : ∀ orderId, .operation (orderId, .reserve) ∈ locks →
    findTerminalOperation tables orderId = none → findTerminalOperation later orderId = none

theorem frame_refl : Frame locks tables tables :=
  ⟨fun _ _ => rfl, fun _ _ => rfl, fun _ _ => rfl, fun _ there => there, fun _ _ there => there,
    fun _ _ there => there, fun _ _ none => none⟩

theorem frame_trans {last : Tables} (first : Frame locks tables later)
    (second : Frame locks later last) : Frame locks tables last where
  wallet userId held := (second.wallet userId held).trans (first.wallet userId held)
  operation key held := (second.operation key held).trans (first.operation key held)
  transaction id held := (second.transaction id held).trans (first.transaction id held)
  existing userId there := second.existing userId (first.existing userId there)
  recorded key operation there := second.recorded key operation (first.recorded key operation there)
  settled orderId prior there := second.settled orderId prior (first.settled orderId prior there)
  unsettled orderId held none :=
    second.unsettled orderId held (first.unsettled orderId held none)

theorem frame_less {fewer : List Lock} (less : ∀ lock ∈ fewer, lock ∈ locks)
    (frame : Frame locks tables later) : Frame fewer tables later :=
  ⟨fun userId held => frame.wallet userId (less _ held),
    fun key held => frame.operation key (less _ held),
    fun id held => frame.transaction id (less _ held), frame.existing, frame.recorded, frame.settled,
    fun orderId held => frame.unsettled orderId (less _ held)⟩

theorem patch_free {Key Row : Type} [DecidableEq Key] {table : Table Key Row} {key : Key}
    {rows : List (Key × Row)} {lock : Key → Lock} {kept : List Lock}
    (within : ∀ row ∈ rows, lock row.1 ∈ kept) (free : lock key ∉ kept) :
    (patch table rows).lookup key = table.lookup key :=
  patch_lookup fun row member => free (within (key, row) member)

/-- What a commit leaves to a transaction that holds none of its locks. -/
theorem lands_frame {held : List Lock} (lands : Lands tables request outcome (own.apply tables))
    (within : ∀ lock ∈ own.locks, lock ∈ held)
    (settling : ∀ orderId, Settles request orderId → .operation (orderId, .reserve) ∈ held)
    (apart : ∀ lock ∈ locks, lock ∉ held) : Frame locks tables (own.apply tables) := by
  have wallets : ∀ row ∈ own.wallets, Lock.wallet row.1 ∈ held := by
    intro row member
    apply within
    simp only [Changes.locks, List.mem_append, List.mem_map]
    exact .inl (.inl ⟨row, member, rfl⟩)
  have operations : ∀ row ∈ own.operations, Lock.operation row.1 ∈ held := by
    intro row member
    apply within
    simp only [Changes.locks, List.mem_append, List.mem_map]
    exact .inl (.inr ⟨row, member, rfl⟩)
  have transactions : ∀ row ∈ own.transactions, Lock.transaction row.1 ∈ held := by
    intro row member
    apply within
    simp only [Changes.locks, List.mem_append, List.mem_map]
    exact .inr ⟨row, member, rfl⟩
  -- What is found of an order that the commit does not settle.
  have terminals : ∀ orderId, (findTerminalOperation tables orderId ≠ none ∨ ¬ Settles request orderId) →
      findTerminalOperation (own.apply tables) orderId = findTerminalOperation tables orderId := by
    intro orderId apart
    rcases lands_operations lands with same | ⟨key, operation, inserted, absent, terminal⟩
    · simp only [findTerminalOperation, same]
    · obtain ⟨settledId, kind⟩ := key
      by_cases reserving : kind = .reserve
      · subst reserving
        exact find_terminal_insert settledId orderId operation inserted
      · obtain ⟨settles, free⟩ := terminal reserving
        have differs : orderId ≠ settledId := by
          rintro rfl
          rcases apart with present | unsettled
          · exact present free
          · exact unsettled settles
        have elsewhere : ∀ looked, (orderId, looked) ≠ (settledId, kind) :=
          fun looked equal => differs (congrArg Prod.fst equal)
        simp only [findTerminalOperation, inserted, AList.lookup_insert_ne (elsewhere _)]
  refine ⟨?_, ?_, ?_, fun userId => lands_wallets lands, ?_, ?_, ?_⟩
  · exact fun userId holds => patch_free wallets (apart _ holds)
  · exact fun key holds => patch_free operations (apart _ holds)
  · exact fun id holds => patch_free transactions (apart _ holds)
  · intro key operation there
    rcases lands_operations lands with same | ⟨other, _, inserted, absent, -⟩
    · rwa [same]
    · have differs : key ≠ other := by
        rintro rfl
        rw [there] at absent
        cases absent
      rwa [inserted, AList.lookup_insert_ne differs]
  · intro orderId prior there
    rw [terminals orderId (.inl (by rw [there]; simp)), there]
  · intro orderId holds none
    rw [terminals orderId (.inr fun settles => apart _ holds (settling orderId settles)), none]

/-! ## What a method has changed -/
section Differences

variable {userId other : UserId} {wallet paid : Wallet} {transactionId : TransactionId}
  {row : CreditTransaction} {pair : LedgerEntry × LedgerEntry} {key : OrderId × OperationType}
  {operation : Operation} {reply : OutboxRow}

theorem changes_replied (alerts : List AuditAlert) (replies : List OutboxRow) :
    changes tables { tables with alerts := tables.alerts ++ alerts, outbox := tables.outbox ++ replies } =
      { Changes.none with alerts, outbox := replies } := by
  simp [changes, Changes.none, difference_self]

theorem changes_settled (absent : tables.operations.lookup key = none) :
    changes tables (tables.settle key operation reply) =
      { Changes.none with operations := [(key, operation)], outbox := [reply] } := by
  have added : tables.operations.lookup key ≠ some operation := by
    rw [absent]
    exact nofun
  simp [changes, Changes.none, Tables.settle, difference_self, difference_insert added]

theorem changes_booked (changed : tables.wallets.lookup userId ≠ some wallet)
    (fresh : tables.transactions.lookup transactionId = none) :
    changes tables ((tables.hold userId wallet).book transactionId row pair) =
      { Changes.none with
        wallets := [(userId, wallet)], transactions := [(transactionId, row)]
        entries := [pair.1, pair.2] } := by
  have added : tables.transactions.lookup transactionId ≠ some row := by
    rw [fresh]
    exact nofun
  simp [changes, Changes.none, Tables.hold, Tables.book, difference_self, difference_insert added,
    difference_insert changed]

theorem changes_moved (changed : tables.wallets.lookup userId ≠ some wallet)
    (fresh : tables.transactions.lookup transactionId = none)
    (absent : tables.operations.lookup key = none) :
    changes tables (((tables.hold userId wallet).book transactionId row pair).settle key operation
      reply) =
      { wallets := [(userId, wallet)], operations := [(key, operation)]
        transactions := [(transactionId, row)], entries := [pair.1, pair.2], alerts := []
        outbox := [reply] } := by
  have booked := @changes_booked tables userId wallet transactionId row pair changed fresh
  have settled := @changes_settled tables key operation reply absent
  simp only [changes, Changes.none, Changes.mk.injEq] at booked settled ⊢
  exact ⟨booked.1, settled.2.1, booked.2.2.1, booked.2.2.2.1, settled.2.2.2.2.1, settled.2.2.2.2.2⟩

theorem changes_paid (differs : other ≠ userId) (changed : tables.wallets.lookup userId ≠ some wallet)
    (pays : tables.wallets.lookup other ≠ some paid)
    (fresh : tables.transactions.lookup transactionId = none)
    (absent : tables.operations.lookup key = none) :
    changes tables ((((tables.hold userId wallet).hold other paid).book transactionId row pair).settle
      key operation reply) =
      { wallets := [(other, paid), (userId, wallet)], operations := [(key, operation)]
        transactions := [(transactionId, row)], entries := [pair.1, pair.2], alerts := []
        outbox := [reply] } := by
  have moved := @changes_moved tables userId wallet transactionId row pair key operation reply changed
    fresh absent
  have both : difference tables.wallets ((tables.wallets.insert userId wallet).insert other paid) =
      [(other, paid), (userId, wallet)] := by
    rw [difference_insert pays, difference_insert changed, difference_self]
    simp [differs.symm]
  simp only [changes, Changes.mk.injEq] at moved ⊢
  exact ⟨both, moved.2⟩

end Differences

/-! ## A method that has run stays good until its commit -/
section Stable

/-- What alerts and replies alone leave. -/
theorem replied_again (alerts : List AuditAlert) (replies : List OutboxRow) :
    (changes tables { tables with
      alerts := tables.alerts ++ alerts, outbox := tables.outbox ++ replies }).apply later =
      { later with alerts := later.alerts ++ alerts, outbox := later.outbox ++ replies } := by
  rw [changes_replied]
  simp [Changes.apply, Changes.none, patch]

theorem reply_again (replies : List OutboxRow) :
    (changes tables { tables with outbox := tables.outbox ++ replies }).apply later =
      { later with outbox := later.outbox ++ replies } := by
  have again := @replied_again tables later [] replies
  rwa [List.append_nil, List.append_nil] at again

theorem alert_again {input : ReservationInput} {courierId : Option UserId}
    {operationType : OperationType} {reason : TerminalRejection} {details : AlertDetails} :
    (changes tables (rejectTerminal tables input courierId operationType reason details)).apply later =
      rejectTerminal later input courierId operationType reason details := by
  have again := @replied_again tables later
    [{ orderId := input.orderId, operationType, code := reason, details,
       requesterId := input.requesterId, courierId, amount := input.amount,
       correlationId := input.correlationId }] []
  rwa [List.append_nil, List.append_nil] at again

theorem unchanged_again : (changes tables tables).apply later = later := by
  have again := @reply_again tables later []
  rwa [List.append_nil, List.append_nil] at again

variable {userId other : UserId} {wallet paid : Wallet} {transactionId : TransactionId}
  {row : CreditTransaction} {pair : LedgerEntry × LedgerEntry} {key : OrderId × OperationType}
  {operation : Operation} {reply : OutboxRow}

theorem settled_again (absent : tables.operations.lookup key = none) :
    (changes tables (tables.settle key operation reply)).apply later =
      later.settle key operation reply := by
  rw [changes_settled absent]
  simp [Changes.apply, Changes.none, patch, Tables.settle]

theorem booked_again (changed : tables.wallets.lookup userId ≠ some wallet)
    (fresh : tables.transactions.lookup transactionId = none) :
    (changes tables ((tables.hold userId wallet).book transactionId row pair)).apply later =
      (later.hold userId wallet).book transactionId row pair := by
  rw [changes_booked changed fresh]
  simp [Changes.apply, Changes.none, patch, Tables.hold, Tables.book]

theorem moved_again (changed : tables.wallets.lookup userId ≠ some wallet)
    (fresh : tables.transactions.lookup transactionId = none)
    (absent : tables.operations.lookup key = none) :
    (changes tables (((tables.hold userId wallet).book transactionId row pair).settle key operation
      reply)).apply later =
      ((later.hold userId wallet).book transactionId row pair).settle key operation reply := by
  rw [changes_moved changed fresh absent]
  simp [Changes.apply, patch, Tables.hold, Tables.book, Tables.settle]

theorem paid_again (differs : other ≠ userId) (changed : tables.wallets.lookup userId ≠ some wallet)
    (pays : tables.wallets.lookup other ≠ some paid)
    (fresh : tables.transactions.lookup transactionId = none)
    (absent : tables.operations.lookup key = none) :
    (changes tables ((((tables.hold userId wallet).hold other paid).book transactionId row pair).settle
      key operation reply)).apply later =
      (((later.hold userId wallet).hold other paid).book transactionId row pair).settle key operation
        reply := by
  rw [changes_paid differs changed pays fresh absent]
  simp [Changes.apply, patch, Tables.hold, Tables.book, Tables.settle]

theorem refused_stable {input : ReservationInput} {reason : RecordedRejection}
    {available : Option Int} (absent : tables.operations.lookup (input.orderId, .reserve) = none)
    (is : after = tables.settle (input.orderId, .reserve)
      { pendingOperation input.requesterId none input.amount with
        outcome := .rejected reason available }
      (reservationReply input (.rejected reason.reason available)))
    (within : ∀ lock ∈ (changes tables after).locks, lock ∈ locks)
    (frame : Frame locks tables later) :
    Lands later (.reserve input) (.reservation (.rejected reason.reason available))
      ((changes tables after).apply later) := by
  subst is
  rw [changes_settled absent] at within
  have claimed : Lock.operation (input.orderId, .reserve) ∈ locks :=
    within _ (by simp [Changes.locks, Changes.none])
  rw [settled_again absent]
  exact .refuse reason available ((frame.operation _ claimed).trans absent)

theorem reserved_stable {input : ReservationInput} {outcome : ReservationOutcome}
    (reserved : Reserved tables input transactionId outcome after)
    (within : ∀ lock ∈ (changes tables after).locks, lock ∈ locks)
    (frame : Frame locks tables later) :
    Lands later (.reserve input) (.reservation outcome) ((changes tables after).apply later) := by
  cases reserved with
  | conflict operation found differs =>
      rw [replied_again [_] [_]]
      exact @Lands.reserve _ _ transactionId _ _ (.conflict operation (frame.recorded _ _ found) differs)
  | replay operation outcome found same recorded =>
      rw [reply_again]
      exact @Lands.reserve _ _ transactionId _ _
        (.replay operation outcome (frame.recorded _ _ found) same recorded)
  | refuse reason available absent => exact refused_stable absent rfl within frame
  | reserve wallet absent positive ranged held nonneg fresh =>
      have changed : tables.wallets.lookup input.requesterId ≠
          some (reservedBalances wallet input.amount) := by
        rw [held]
        intro same
        have equal := congrArg Wallet.available (Option.some.inj same)
        simp only [reservedBalances] at equal
        omega
      rw [changes_moved changed fresh absent] at within
      have claimed : Lock.operation (input.orderId, .reserve) ∈ locks :=
        within _ (by simp [Changes.locks])
      have locked : Lock.wallet input.requesterId ∈ locks := within _ (by simp [Changes.locks])
      have drawn : Lock.transaction transactionId ∈ locks := within _ (by simp [Changes.locks])
      rw [moved_again changed fresh absent]
      exact .reserve (.reserve wallet ((frame.operation _ claimed).trans absent) positive ranged
        ((frame.wallet _ locked).trans held) nonneg ((frame.transaction _ drawn).trans fresh))

theorem transferred_stable {input : TransferInput} {outcome : TransferOutcome}
    (transferred : Transferred tables input transactionId outcome after)
    (within : ∀ lock ∈ (changes tables after).locks, lock ∈ locks)
    (reserving : Lock.operation (input.orderId, .reserve) ∈ locks)
    (frame : Frame locks tables later) :
    Lands later (.transfer input) (.transfer outcome) ((changes tables after).apply later) := by
  cases transferred with
  | invalid reservation reason details found invalid =>
      rw [alert_again]
      exact @Lands.transfer _ _ transactionId _ _
        (.invalid reservation reason details (frame.recorded _ _ found) invalid)
  | participants same =>
      rw [alert_again]
      exact @Lands.transfer _ _ transactionId _ _ (.participants same)
  | conflict prior found differs =>
      rw [alert_again]
      exact @Lands.transfer _ _ transactionId _ _ (.conflict prior (frame.settled _ _ found) differs)
  | replay prior result found same recorded =>
      rw [reply_again]
      exact @Lands.transfer _ _ transactionId _ _
        (.replay prior result (frame.settled _ _ found) same recorded)
  | transfer reservation requester courier settleable different positive heldRequester heldCourier
      nonneg fresh =>
      have absent := (find_terminal_none settleable.unsettled).2
      have changed : tables.wallets.lookup input.requesterId ≠
          some (debitedBalances requester input.amount) := by
        rw [heldRequester]
        intro same
        have equal := congrArg Wallet.reserved (Option.some.inj same)
        simp only [debitedBalances] at equal
        omega
      have pays : tables.wallets.lookup input.courierId ≠
          some (paidBalances courier input.amount) := by
        rw [heldCourier]
        intro same
        have equal := congrArg Wallet.available (Option.some.inj same)
        simp only [paidBalances] at equal
        omega
      rw [changes_paid different.symm changed pays fresh absent] at within
      have debited : Lock.wallet input.requesterId ∈ locks := within _ (by simp [Changes.locks])
      have credited : Lock.wallet input.courierId ∈ locks := within _ (by simp [Changes.locks])
      have drawn : Lock.transaction transactionId ∈ locks := within _ (by simp [Changes.locks])
      rw [paid_again different.symm changed pays fresh absent]
      exact .transfer (.transfer reservation requester courier
        ⟨frame.recorded _ _ settleable.found, settleable.valid,
          frame.unsettled _ reserving settleable.unsettled⟩ different positive
        ((frame.wallet _ debited).trans heldRequester) ((frame.wallet _ credited).trans heldCourier)
        nonneg ((frame.transaction _ drawn).trans fresh))

theorem released_stable {input : ReleaseInput} {outcome : ReleaseOutcome}
    (released : Released tables input transactionId outcome after)
    (within : ∀ lock ∈ (changes tables after).locks, lock ∈ locks)
    (reserving : Lock.operation (input.orderId, .reserve) ∈ locks)
    (frame : Frame locks tables later) :
    Lands later (.release input) (.release outcome) ((changes tables after).apply later) := by
  cases released with
  | invalid reservation reason details found invalid =>
      rw [alert_again]
      exact @Lands.release _ _ transactionId _ _
        (.invalid reservation reason details (frame.recorded _ _ found) invalid)
  | conflict prior found differs =>
      rw [alert_again]
      exact @Lands.release _ _ transactionId _ _ (.conflict prior (frame.settled _ _ found) differs)
  | replay prior payload result found same recorded parsed =>
      rw [reply_again]
      exact @Lands.release _ _ transactionId _ _
        (.replay prior payload result (frame.settled _ _ found) same recorded parsed)
  | release reservation requester settleable positive held nonneg fresh =>
      have absent := (find_terminal_none settleable.unsettled).1
      have changed : tables.wallets.lookup input.requesterId ≠
          some (releasedBalances requester input.amount) := by
        rw [held]
        intro same
        have equal := congrArg Wallet.available (Option.some.inj same)
        simp only [releasedBalances] at equal
        omega
      rw [changes_moved changed fresh absent] at within
      have locked : Lock.wallet input.requesterId ∈ locks := within _ (by simp [Changes.locks])
      have drawn : Lock.transaction transactionId ∈ locks := within _ (by simp [Changes.locks])
      rw [moved_again changed fresh absent]
      exact .release (.release reservation requester
        ⟨frame.recorded _ _ settleable.found, settleable.valid,
          frame.unsettled _ reserving settleable.unsettled⟩ positive
        ((frame.wallet _ locked).trans held) nonneg ((frame.transaction _ drawn).trans fresh))

theorem issued_stable {initialAllocation : Int} {created : Bool}
    (issued : Issued tables userId initialAllocation transactionId created after)
    (within : ∀ lock ∈ (changes tables after).locks, lock ∈ locks)
    (frame : Frame locks tables later) :
    Lands later (.issueInitial userId initialAllocation) (.issued created)
      ((changes tables after).apply later) := by
  cases issued with
  | known wallet found =>
      rw [unchanged_again]
      have there := frame.existing userId (by rw [found]; exact nofun)
      obtain ⟨wallet, present⟩ := Option.ne_none_iff_exists'.mp there
      exact @Lands.issue _ _ _ transactionId _ _ (.known wallet present)
  | issue absent positive fresh =>
      have changed : tables.wallets.lookup userId ≠
          some { available := initialAllocation, reserved := 0 } := by
        rw [absent]
        exact nofun
      rw [changes_booked changed fresh] at within
      have locked : Lock.wallet userId ∈ locks := within _ (by simp [Changes.locks, Changes.none])
      have drawn : Lock.transaction transactionId ∈ locks :=
        within _ (by simp [Changes.locks, Changes.none])
      rw [booked_again changed fresh]
      exact .issue (.issue ((frame.wallet _ locked).trans absent) positive
        ((frame.transaction _ drawn).trans fresh))

end Stable

/-! ## Transactions under way -/

/-- What holds of a transaction, whatever others commit. -/
def Ready (tables : Tables) (call : Active) : Prop :=
  match call.stage with
  | .begun | .conflicting | .committed _ | .rolledBack => True
  | .claimed | .short => ∃ input, call.request = .reserve input ∧
      .operation (input.orderId, .reserve) ∈ call.locks ∧
      tables.operations.lookup (input.orderId, .reserve) = none
  | .locked => ∀ orderId, Settles call.request orderId → .operation (orderId, .reserve) ∈ call.locks
  | .done outcome => (∀ lock ∈ call.own.locks, lock ∈ call.locks) ∧
      (∀ orderId, Settles call.request orderId → .operation (orderId, .reserve) ∈ call.locks) ∧
      ∀ later, Frame call.locks tables later → Lands later call.request outcome (call.own.apply later)

variable {call moved : Active} {busy : Lock → Bool} {transactionId : TransactionId}

theorem ready_frame (ready : Ready tables call) (frame : Frame call.locks tables later) :
    Ready later call := by
  rw [Ready] at ready ⊢
  cases is : call.stage with
  | begun | conflicting | committed | rolledBack => trivial
  | claimed =>
      rw [is] at ready
      obtain ⟨input, asked, holds, absent⟩ := ready
      exact ⟨input, asked, holds, (frame.operation _ holds).trans absent⟩
  | short =>
      rw [is] at ready
      obtain ⟨input, asked, holds, absent⟩ := ready
      exact ⟨input, asked, holds, (frame.operation _ holds).trans absent⟩
  | locked =>
      rw [is] at ready
      exact ready
  | done outcome =>
      rw [is] at ready
      obtain ⟨within, settling, lands⟩ := ready
      exact ⟨within, settling, fun last onward => lands last (frame_trans frame onward)⟩

/-- A statement of a transaction takes locks that no other one has. -/
structure Proceeds (busy : Lock → Bool) (call moved : Active) : Prop where
  request : moved.request = call.request
  startedAt : moved.startedAt = call.startedAt
  locks : ∀ lock ∈ moved.locks, lock ∈ call.locks ∨ busy lock = false

theorem perform_moves {rest : Result (Outcome × Tables)}
    (performed : perform tables busy call rest = some (.ok moved)) :
    ∃ outcome after, rest = .ok (outcome, after) ∧ Proceeds busy call moved ∧
      moved.stage = .done outcome ∧ moved.own = changes tables after ∧
      (∀ lock ∈ call.locks, lock ∈ moved.locks) ∧
      ∀ lock ∈ (changes tables after).locks, lock ∈ moved.locks := by
  unfold perform at performed
  split at performed
  · cases performed
  · next outcome after =>
    dsimp only at performed
    split at performed
    · cases performed
    · next free =>
      cases performed
      refine ⟨outcome, after, rfl, ⟨rfl, rfl, ?_⟩, rfl, rfl, ?_, ?_⟩
      · intro lock member
        rcases List.mem_append.mp member with held | taken
        · exact .inl held
        · right
          rw [← Bool.not_eq_true]
          exact fun taken_ => free (List.any_eq_true.mpr ⟨lock, taken, taken_⟩)
      · exact fun lock member => List.mem_append_left _ member
      · exact fun lock member => List.mem_append_right _ member

theorem map_ok {Value Next : Type} {change : Value → Next} {first : Result Value} {result : Next}
    (mapped : change <$> first = .ok result) : ∃ value, first = .ok value ∧ change value = result := by
  cases first with
  | error error => cases mapped
  | ok value =>
      cases mapped
      exact ⟨value, rfl, rfl⟩

theorem refuse_ok {input : ReservationInput} {available : Int} {outcome : ReservationOutcome}
    (refused : refuse tables input available = .ok (outcome, after)) :
    tables.operations.lookup (input.orderId, .reserve) = none ∧ 0 < input.amount ∧
      outcome = .rejected .insufficientCredits (some available) ∧
      after = tables.settle (input.orderId, .reserve)
        { pendingOperation input.requesterId none input.amount with
          outcome := .rejected .insufficientCredits (some available) }
        (reservationReply input (.rejected .insufficientCredits (some available))) := by
  simp only [refuse, bind_ok] at refused
  obtain ⟨claimed, claim, rest⟩ := refused
  obtain ⟨positive, claimedCase⟩ := claim_reservation_ok claim
  cases claimed with
  | none => cases rest
  | some pending =>
      obtain ⟨absent, rfl⟩ := claimedCase
      obtain ⟨rfl, rfl⟩ := refuse_reservation_ok (AList.lookup_insert _) rfl rest
      refine ⟨absent, positive, rfl, ?_⟩
      simp only [Tables.settle, AList.insert_insert]
      rfl

/-- A method that has its last lock. -/
theorem performed_ready {rest : Result (Outcome × Tables)}
    (performed : perform tables busy call rest = some (.ok moved))
    (settling : ∀ orderId, Settles call.request orderId → .operation (orderId, .reserve) ∈ call.locks)
    (stable : ∀ outcome after, rest = .ok (outcome, after) → ∀ locks,
      (∀ lock ∈ call.locks, lock ∈ locks) → (∀ lock ∈ (changes tables after).locks, lock ∈ locks) →
      ∀ later, Frame locks tables later →
        Lands later call.request outcome ((changes tables after).apply later)) :
    Ready tables moved ∧ Proceeds busy call moved := by
  obtain ⟨outcome, after, is, proceeds, done, own, kept, within⟩ := perform_moves performed
  refine ⟨?_, proceeds⟩
  rw [Ready, done]
  refine ⟨?_, ?_, ?_⟩
  · rw [own]
    exact within
  · intro orderId settles
    rw [proceeds.request] at settles
    exact kept _ (settling orderId settles)
  · intro later frame
    rw [own, proceeds.request]
    exact stable outcome after is moved.locks kept within later frame

theorem reserve_performed {input : ReservationInput} (asked : call.request = .reserve input)
    (performed : perform tables busy call (asReservation <$> reserve tables input transactionId noFault) =
      some (.ok moved)) : Ready tables moved ∧ Proceeds busy call moved := by
  apply performed_ready performed
  · intro orderId settles
    rw [asked] at settles
    cases settles
  · intro outcome after is locks _ within later frame
    obtain ⟨⟨result, left⟩, returned, mapped⟩ := map_ok is
    cases mapped
    rw [asked]
    exact reserved_stable (reserve_ok returned) within frame

theorem run_reserve_ready {input : ReservationInput} (asked : call.request = .reserve input)
    (ready : Ready tables call)
    (ran : runReserve tables busy call input transactionId = some (.ok moved)) :
    Ready tables moved ∧ Proceeds busy call moved := by
  rw [runReserve] at ran
  cases is : call.stage with
  | begun =>
      rw [is] at ran
      dsimp only at ran
      cases claim : claimReservation tables input with
      | error error =>
          rw [claim] at ran
          cases ran
      | ok claimed =>
          rw [claim] at ran
          cases claimed with
          | none =>
              cases ran
              exact ⟨trivial, rfl, rfl, fun lock held => .inl held⟩
          | some claimed =>
              dsimp only at ran
              split at ran
              · cases ran
              · next free =>
                cases ran
                have absent := (claim_reservation_ok claim).2.1
                refine ⟨⟨input, asked, List.mem_cons_self, absent⟩, rfl, rfl, ?_⟩
                intro lock held
                rw [List.mem_singleton.mp held]
                exact .inr (by simpa using free)
  | conflicting =>
      rw [is] at ran
      exact reserve_performed asked ran
  | claimed =>
      rw [is] at ran
      dsimp only at ran
      split at ran
      · cases ran
        rw [Ready, is] at ready
        exact ⟨ready, rfl, rfl, fun lock held => .inl held⟩
      · exact reserve_performed asked ran
  | short =>
      rw [is] at ran
      dsimp only at ran
      split at ran
      · cases ran
      · apply performed_ready ran
        · intro orderId settles
          rw [asked] at settles
          cases settles
        · intro outcome after refused locks _ within later frame
          obtain ⟨⟨result, left⟩, returned, mapped⟩ := map_ok refused
          cases mapped
          obtain ⟨absent, -, rfl, left⟩ := refuse_ok returned
          have lands : Lands later (.reserve input) (.reservation
              (.rejected (RecordedRejection.reason .insufficientCredits) (some _))) _ :=
            refused_stable absent left within frame
          rw [asked]
          exact lands
  | locked | done | committed | rolledBack =>
      rw [is] at ran
      cases ran

theorem run_lock_ready {orderId : OrderId}
    (asked : ∀ other, Settles call.request other → other = orderId)
    (ran : runLock tables busy call orderId = some (.ok moved)) :
    Ready tables moved ∧ Proceeds busy call moved := by
  rw [runLock] at ran
  split at ran
  · cases ran
  · split at ran
    · cases ran
    · next free =>
      cases ran
      refine ⟨?_, rfl, rfl, ?_⟩
      · intro other settles
        rw [asked other settles]
        exact List.mem_cons_self
      · intro lock held
        rw [List.mem_singleton.mp held]
        exact .inr (by simpa using free)

theorem next_ready (ready : Ready tables call)
    (ran : next tables busy call transactionId = some (.ok moved)) :
    Ready tables moved ∧ Proceeds busy call moved := by
  rw [next] at ran
  cases asked : call.request with
  | issueInitial userId initialAllocation =>
      rw [asked] at ran
      dsimp only at ran
      split at ran
      · apply performed_ready ran
        · intro orderId settles
          rw [asked] at settles
          cases settles
        · intro outcome after is locks _ within later frame
          obtain ⟨⟨created, left⟩, returned, mapped⟩ := map_ok is
          cases mapped
          rw [asked]
          exact issued_stable (issue_initial_ok returned) within frame
      · cases ran
  | reserve input =>
      rw [asked] at ran
      exact run_reserve_ready asked ready ran
  | transfer input =>
      rw [asked] at ran
      dsimp only at ran
      split at ran
      · apply run_lock_ready _ ran
        intro other settles
        rw [asked] at settles
        exact settles.symm
      · next locked =>
        rw [Ready, locked] at ready
        apply performed_ready ran ready
        intro outcome after is locks kept within later frame
        obtain ⟨⟨result, left⟩, returned, mapped⟩ := map_ok is
        cases mapped
        have reserving := kept _ (ready input.orderId (by rw [asked]; rfl))
        rw [asked]
        exact transferred_stable (transfer_ok returned) within reserving frame
      · cases ran
  | release input =>
      rw [asked] at ran
      dsimp only at ran
      split at ran
      · apply run_lock_ready _ ran
        intro other settles
        rw [asked] at settles
        exact settles.symm
      · next locked =>
        rw [Ready, locked] at ready
        apply performed_ready ran ready
        intro outcome after is locks kept within later frame
        obtain ⟨⟨result, left⟩, returned, mapped⟩ := map_ok is
        cases mapped
        have reserving := kept _ (ready input.orderId (by rw [asked]; rfl))
        rw [asked]
        exact released_stable (release_ok returned) within reserving frame
      · cases ran

/-! ## Whole runs -/

structure Sound (state : State) : Prop where
  ready : ∀ (index : Nat) call, state.active[index]? = some call → Ready state.tables call
  apart : Apart Active.locks state.active
  books : Books state.tables
  economy : Economy state.tables

variable {state next_ : State} {index : Nat}

theorem sound_initial (clock : Micros) : Sound (initial clock) := by
  refine ⟨?_, ?_, empty_kept.1, empty_kept.2⟩
  · intro index call found
    cases found
  · intro first second one other lock found
    cases found

/-- A transaction that may commit has run its method on the tables as they are. -/
theorem commit_lands (sound : Sound state) (found : state.active[index]? = some call)
    (done : call.stage = .done outcome) :
    Lands state.tables call.request outcome (call.own.apply state.tables) := by
  have ready := sound.ready index call found
  rw [Ready, done] at ready
  exact ready.2.2 _ frame_refl

/-- What the others find after the commit. -/
theorem commit_frame (sound : Sound state) (found : state.active[index]? = some call)
    (done : call.stage = .done outcome) {other : Nat} {holder : Active} (differs : index ≠ other)
    (there : state.active[other]? = some holder) :
    Frame holder.locks state.tables (call.own.apply state.tables) := by
  have lands := commit_lands sound found done
  have ready := sound.ready index call found
  rw [Ready, done] at ready
  apply lands_frame lands ready.1 ready.2.1
  intro lock theirs ours
  exact differs (sound.apart index other call holder lock found there ours theirs)

theorem sound_put (sound : Sound state) (found : state.active[index]? = some call)
    (ready : Ready state.tables moved)
    (free : ∀ lock ∈ moved.locks, lock ∈ call.locks ∨
      taken Active.locks state.active index lock = false) : Sound (put state index moved) := by
  refine ⟨?_, ?_, sound.books, sound.economy⟩
  · intro other holder there
    rcases (get_set found).mp there with ⟨rfl, rfl⟩ | ⟨-, there⟩
    · exact ready
    · exact sound.ready other holder there
  · apply apart_set sound.apart found
    intro lock held
    rcases free lock held with ours | untaken
    · exact .inl ours
    · exact .inr fun other holder differs there => taken_free untaken differs there

theorem sound_roll_back (sound : Sound state) (found : state.active[index]? = some call) :
    Sound (put state index (rollBack call)) :=
  sound_put sound found trivial nofun

theorem sound_commit (sound : Sound state) (found : state.active[index]? = some call)
    (done : call.stage = .done outcome) : Sound (commitActive state index call outcome) := by
  have kept := lands_kept sound.books sound.economy (commit_lands sound found done)
  refine ⟨?_, ?_, kept.books, kept.economy⟩
  · intro other holder there
    rcases (get_set found).mp there with ⟨rfl, rfl⟩ | ⟨differs, there⟩
    · trivial
    · exact ready_frame (sound.ready other holder there) (commit_frame sound found done differs there)
  · exact apart_set sound.apart found nofun

theorem turn_sound {event : Event} (sound : Sound state) (turned : turn state event = some next_) :
    Sound next_ := by
  cases event with
  | tick now =>
      cases turned
      exact ⟨sound.ready, sound.apart, sound.books, sound.economy⟩
  | start request =>
      cases turned
      refine ⟨?_, apart_append sound.apart rfl, sound.books, sound.economy⟩
      intro index call there
      rcases get_append there with there | ⟨-, rfl⟩
      · exact sound.ready index call there
      · trivial
  | run index draw =>
      rw [turn] at turned
      split at turned
      · obtain ⟨call, found, ran⟩ := Option.bind_eq_some_iff.mp turned
        obtain ⟨result, stepped, is⟩ := Option.map_eq_some_iff.mp ran
        subst is
        cases result with
        | error error => exact sound_roll_back sound found
        | ok moved =>
            obtain ⟨ready, proceeds⟩ := next_ready (sound.ready index call found) stepped
            exact sound_put sound found ready proceeds.locks
      · cases turned
  | commit index =>
      obtain ⟨call, found, committed⟩ := Option.bind_eq_some_iff.mp turned
      split at committed
      · next outcome done =>
        cases committed
        exact sound_commit sound found done
      · cases committed
  | abort index =>
      obtain ⟨call, found, aborted⟩ := Option.bind_eq_some_iff.mp turned
      split at aborted
      · cases aborted
      · cases aborted
      · cases aborted
        exact sound_roll_back sound found

/-- The books and the closed economy, for every interleaving. -/
theorem interleaved_economy {clock : Micros} (run : Run turn (initial clock) state) :
    Books state.tables ∧ Economy state.tables := by
  have sound : Sound state :=
    run_keeps (fun _ _ _ sound turned => turn_sound sound turned) (sound_initial clock) run
  exact ⟨sound.books, sound.economy⟩

end Foc.Credit.Interleaving
