import Foc.Credit.Ledger
import Foc.Library.Keyset

/-!
Walks through a wallet's ledger that does not change. A cursor's time is cut to the
millisecond, so a page that ends in the middle of a millisecond is resumed past what is
left of it.
-/
namespace Foc.Credit
open Library Library.Calendar Library.UuidText Library.OpaqueText Library.JsonText Library.Keyset
open Foc.Order (Dated Micros Uuid field idText uuid uuidSchema decimal_plain id_plain id_taken read_id)

/-! ## Positions -/

/-- Rows come newest first, so the order of their positions is turned. -/
def newest (row : ActivityRow) : (Micros ×ₗ Uuid)ᵒᵈ := OrderDual.toDual row.position

/-- The position that a cursor made from a row stands for. -/
def resumed (row : ActivityRow) : (Micros ×ₗ Uuid)ᵒᵈ :=
  OrderDual.toDual (toLex (row.occurredAt / 1000 * 1000, row.transactionId))

/-- An entry of the transaction is on the wallet. -/
def Touches (ledger : Ledger) (userId : UserId) (transactionId : Uuid) : Prop :=
  ∃ entry ∈ ledger.entries, entry.transactionId = transactionId ∧
    ∃ balances, entry.wallet = some (userId, balances)

variable {ledger : Ledger} {userId : UserId} {limitValue : Option Double} {limit : Limit}

theorem mem_wallet_entries {transactionId : Uuid} {entry : StoredEntry} {balances : Wallet} :
    (entry, balances) ∈ walletEntries ledger userId transactionId ↔
      entry ∈ ledger.entries ∧ entry.transactionId = transactionId ∧
        entry.wallet = some (userId, balances) := by
  rw [walletEntries, List.mem_insertionSort, List.mem_filterMap]
  constructor
  · rintro ⟨stored, member, found⟩
    split at found
    · next owner shown wallet =>
      split at found
      · next same =>
        cases found
        exact ⟨member, same.1, same.2 ▸ wallet⟩
      · cases found
    · cases found
  · rintro ⟨member, same, wallet⟩
    refine ⟨entry, member, ?_⟩
    rw [wallet]
    exact if_pos ⟨same, rfl⟩

theorem activity_row_id {transaction : StoredTransaction} {row : ActivityRow}
    (is : activityRow ledger userId transaction = some row) :
    row.transactionId = transaction.transactionId ∧ row.occurredAt = transaction.occurredAt := by
  obtain ⟨last, _, rfl⟩ := Option.map_eq_some_iff.mp is
  exact ⟨rfl, rfl⟩

theorem activity_row_some (transaction : StoredTransaction) :
    (∃ row, activityRow ledger userId transaction = some row) ↔
      Touches ledger userId transaction.transactionId := by
  constructor
  · rintro ⟨row, is⟩
    obtain ⟨⟨entry, balances⟩, first, -⟩ := Option.map_eq_some_iff.mp is
    obtain ⟨member, same, wallet⟩ := mem_wallet_entries.mp (List.mem_of_head? first)
    exact ⟨entry, member, same, balances, wallet⟩
  · rintro ⟨entry, member, same, balances, wallet⟩
    have listed := mem_wallet_entries.mpr ⟨member, same, wallet⟩
    obtain ⟨last, first⟩ := Option.isSome_iff_exists.mp
      (List.isSome_head?.mpr (List.ne_nil_of_mem listed))
    exact ⟨_, Option.map_eq_some_iff.mpr ⟨last, first, rfl⟩⟩

theorem activity_ids :
    ((activity ledger userId).map ActivityRow.transactionId).Sublist
      (ledger.transactions.map StoredTransaction.transactionId) := by
  rw [activity]
  induction ledger.transactions with
  | nil => exact List.Sublist.slnil
  | cons transaction rest ih =>
      rw [List.filterMap_cons]
      split
      · exact ih.cons _
      · next row is =>
        rw [List.map_cons, List.map_cons, (activity_row_id is).1]
        exact ih.cons_cons _

theorem activity_distinct : ((activity ledger userId).map newest).Nodup := by
  have ids := (@activity_ids ledger userId).nodup ledger.identified
  rw [List.nodup_iff_pairwise_ne, List.pairwise_map] at ids ⊢
  apply ids.imp
  intro first second different same
  exact different (congrArg Prod.snd (congrArg ofLex (congrArg OrderDual.ofDual same)))

theorem activity_versioned : ∀ row ∈ activity ledger userId, Versioned row.transactionId := by
  intro row member
  obtain ⟨transaction, stored, is⟩ := List.mem_filterMap.mp member
  rw [(activity_row_id is).1]
  exact ledger.versioned transaction stored

theorem select_past (after : Option (Micros ×ₗ Uuid)) :
    selectLedger ledger userId after =
      past newest (after.map OrderDual.toDual) (activity ledger userId) := by
  rw [selectLedger, past]
  congr 1
  apply List.filter_congr
  intro row member
  cases after <;> rfl

/-! ## Cursors made from rows -/

def writeCursor (row : ActivityRow) : String :=
  encodeLedgerCursor { occurredAt := iso row.occurredAt, transactionId := idText row.transactionId }

theorem digit_plain {char : Char} (is : char.isDigit = true) : plain char = true := by
  have bounds : 48 ≤ char.toNat ∧ char.toNat ≤ 57 := by
    simpa [Char.isDigit, UInt32.le_iff_toNat_le] using is
  have unquoted : char ≠ '"' := by
    rintro rfl
    cases is
  have unslashed : char ≠ '\\' := by
    rintro rfl
    cases is
  simp only [plain, Bool.and_eq_true, decide_eq_true_eq, bne_iff_ne, ne_eq]
  exact ⟨⟨⟨by omega, by omega⟩, unquoted⟩, unslashed⟩

theorem year_plain (year : Int) : ∀ char ∈ signedYear year, plain char = true := by
  have digits : ∀ char ∈ Digits.padded 10 6 year.natAbs, plain char = true := by
    rw [Digits.padded]
    split
    · exact decimal_plain
    · intro char member
      exact digit_plain (Nat.isDigit_of_mem_toDigits (by decide) (by decide) member)
  rw [signedYear]
  split
  · exact decimal_plain
  · rw [List.forall_mem_cons]
    constructor
    · split <;> decide
    · exact digits

theorem iso_plain (time : Micros) : Plain (iso time) := by
  rw [Plain, iso, String.toList_ofList, isoMillis]
  simp only [isoWith, List.forall_mem_append, List.forall_mem_cons]
  refine ⟨year_plain _, by decide, decimal_plain, by decide, decimal_plain, by decide,
    decimal_plain, by decide, decimal_plain, by decide, decimal_plain, by decide, decimal_plain, ?_⟩
  exact ⟨by decide, List.forall_mem_nil _⟩

/-- What is read of a cursor that was made from a row. -/
theorem decode_written {row : ActivityRow} (versioned : Versioned row.transactionId) :
    decodeLedgerCursor (some (writeCursor row)) =
      if (scanMoment (iso row.occurredAt).toList).isSome then
        .ok (some { occurredAt := iso row.occurredAt, transactionId := idText row.transactionId })
      else .error (.refused invalidLedgerCursor) := by
  have read : decode (writeCursor row) = some (.object
      [("occurredAt", some (iso row.occurredAt)), ("transactionId", some (idText row.transactionId))]) := by
    apply decode_encode ("occurredAt", iso row.occurredAt) [("transactionId", idText row.transactionId)]
    simp only [List.forall_mem_cons]
    refine ⟨⟨?_, iso_plain _⟩, ⟨?_, id_plain _⟩, List.forall_mem_nil _⟩
    · simp only [Plain]
      exact List.all_eq_true.mp (by decide)
    · simp only [Plain]
      exact List.all_eq_true.mp (by decide)
  have some_ : writeCursor row ≠ "" := by
    intro empty
    rw [empty] at read
    cases read
  have times : member [("occurredAt", some (iso row.occurredAt)),
      ("transactionId", some (idText row.transactionId))] "occurredAt" =
        some (iso row.occurredAt) := rfl
  have ids : member [("occurredAt", some (iso row.occurredAt)),
      ("transactionId", some (idText row.transactionId))] "transactionId" =
        some (idText row.transactionId) := rfl
  rw [decodeLedgerCursor, if_neg some_, read, Option.bind_some, cursorSchema, field, field, times, ids]
  by_cases scanned : (scanMoment (iso row.occurredAt).toList).isSome
  · simp only [scanned, if_true, Option.filter_some, id_taken versioned, Option.bind_eq_bind,
      Option.bind_some]
    rfl
  · simp only [scanned, Option.filter_some, Option.bind_eq_bind]
    rfl

theorem scan_iso {time : Micros} (year : 0 ≤ (ofMicros time).day.year ∧ (ofMicros time).day.year ≤ 9999) :
    scanMoment (iso time).toList = some (ofMicros time).truncated := by
  rw [iso, String.toList_ofList, scan_millis (of_micros_regular year)]

/-- In the years 1 to 9999 the cursor is read as the position cut to the millisecond. -/
theorem cast_dated {row : ActivityRow} (versioned : Versioned row.transactionId)
    (dated : Dated row.occurredAt) : ∃ cursor,
      decodeLedgerCursor (some (writeCursor row)) = .ok (some cursor) ∧
        castCursor (some cursor) = .ok (some (OrderDual.ofDual (resumed row))) := by
  have scanned := scan_iso ⟨Int.le_trans (by decide) dated.1, dated.2⟩
  have year : (ofMicros row.occurredAt).truncated.day.year ≠ 0 := by
    have low := dated.1
    have same : (ofMicros row.occurredAt).truncated.day = (ofMicros row.occurredAt).day := rfl
    rw [same]
    omega
  refine ⟨{ occurredAt := iso row.occurredAt, transactionId := idText row.transactionId }, ?_, ?_⟩
  · rw [decode_written versioned, scanned]
    rfl
  · rw [castCursor, LedgerCursor.position, timestamptz, scanned, Option.bind_some, if_neg year,
      read_id versioned, truncated_micros]
    rfl

/-- In any other year it is not read. -/
theorem cast_undated {row : ActivityRow} (versioned : Versioned row.transactionId)
    (undated : ¬ Dated row.occurredAt) :
    (∃ error, decodeLedgerCursor (some (writeCursor row)) = .error error) ∨
      ∃ cursor error, decodeLedgerCursor (some (writeCursor row)) = .ok (some cursor) ∧
        castCursor (some cursor) = .error error := by
  rw [decode_written versioned]
  by_cases year : 0 ≤ (ofMicros row.occurredAt).day.year ∧ (ofMicros row.occurredAt).day.year ≤ 9999
  · -- The year 0 is a year to the schema but not to PostgreSQL.
    have zero : (ofMicros row.occurredAt).truncated.day.year = 0 := by
      have same : (ofMicros row.occurredAt).truncated.day = (ofMicros row.occurredAt).day := rfl
      rw [same]
      unfold Dated at undated
      omega
    refine .inr ⟨{ occurredAt := iso row.occurredAt, transactionId := idText row.transactionId },
      .databaseError, ?_, ?_⟩
    · rw [scan_iso year]
      rfl
    · rw [castCursor, LedgerCursor.position, timestamptz, scan_iso year, Option.bind_some, if_pos zero]
      rfl
  · have unread : scanMoment (iso row.occurredAt).toList = none := by
      rw [iso, String.toList_ofList]
      exact scan_millis_far year
    left
    rw [unread]
    exact ⟨_, rfl⟩

/-! ## One page -/

theorem marked_page {α κ : Type} [LinearOrder κ] {key : α → κ} {count : Nat} {after : Option κ}
    {rows : List α} :
    markedPage key count after rows =
      (((past key after rows).take (count + 1)).take count,
        if count < ((past key after rows).take (count + 1)).length then
          (((past key after rows).take (count + 1)).take count).getLast? else none) := rfl

theorem ledger_page {cursorValue : Option String} {cursor : Option LedgerCursor}
    {after : Option (Micros ×ₗ Uuid)} (wallet : userId ∈ ledger.wallets)
    (parsed : parseLimit limitValue = .ok limit)
    (decoded : decodeLedgerCursor cursorValue = .ok cursor) (cast : castCursor cursor = .ok after) :
    ledgerPage userId limitValue ledger cursorValue =
      if (markedPage newest limit.val (after.map OrderDual.toDual) (activity ledger userId)).1.all
          fun row => inDateRange row.occurredAt then
        .ok ((markedPage newest limit.val (after.map OrderDual.toDual)
            (activity ledger userId)).1.map ledgerItem,
          (markedPage newest limit.val (after.map OrderDual.toDual)
            (activity ledger userId)).2.map writeCursor)
      else .error .rangeError := by
  rw [ledgerPage, if_neg (not_not.mpr wallet), parsed]
  simp only [bind, Except.bind, decoded, listLedger, cast, select_past, marked_page]
  by_cases shown : (((past newest (after.map OrderDual.toDual) (activity ledger userId)).take
      (limit.val + 1)).take limit.val).all fun row => inDateRange row.occurredAt
  · simp only [shown, if_true, decide_eq_true_eq, List.getLast?_map]
    split
    · rw [Option.map_map]
      rfl
    · rfl
  · simp only [shown]
    rfl

theorem ledger_undated {row : ActivityRow} (wallet : userId ∈ ledger.wallets)
    (parsed : parseLimit limitValue = .ok limit) (versioned : Versioned row.transactionId)
    (undated : ¬ Dated row.occurredAt) :
    ∃ error, ledgerPage userId limitValue ledger (some (writeCursor row)) = .error error := by
  rw [ledgerPage, if_neg (not_not.mpr wallet), parsed]
  rcases cast_undated versioned undated with ⟨error, refused⟩ | ⟨cursor, error, decoded, refused⟩
  · refine ⟨error, ?_⟩
    simp only [bind, Except.bind, refused]
  · refine ⟨error, ?_⟩
    simp only [bind, Except.bind, decoded, listLedger, refused]

/-- Every item of a page is of a row whose time `Date` can show. -/
theorem page_in_range {cursorValue next : Option String} {items : List LedgerItem}
    (answer : ledgerPage userId limitValue ledger cursorValue = .ok (items, next)) :
    ∀ item ∈ items, ∃ row ∈ activity ledger userId,
      inDateRange row.occurredAt = true ∧ item.transactionId = row.transactionId := by
  by_cases wallet : userId ∈ ledger.wallets
  · cases parsed : parseLimit limitValue with
    | error error =>
        rw [ledgerPage, if_neg (not_not.mpr wallet), parsed] at answer
        cases answer
    | ok limit =>
        cases decoded : decodeLedgerCursor cursorValue with
        | error error =>
            rw [ledgerPage, if_neg (not_not.mpr wallet), parsed] at answer
            simp only [bind, Except.bind, decoded] at answer
            cases answer
        | ok cursor =>
            cases cast : castCursor cursor with
            | error error =>
                rw [ledgerPage, if_neg (not_not.mpr wallet), parsed] at answer
                simp only [bind, Except.bind, decoded, listLedger, cast] at answer
                cases answer
            | ok after =>
                rw [ledger_page wallet parsed decoded cast] at answer
                split at answer
                · next shown =>
                  cases answer
                  intro item member
                  obtain ⟨row, listed, rfl⟩ := List.mem_map.mp member
                  have there := List.mem_of_mem_take (List.mem_of_mem_take listed)
                  exact ⟨row, (mem_past.mp there).1, List.all_eq_true.mp shown row listed, rfl⟩
                · cases answer
  · rw [ledgerPage, if_pos wallet] at answer
    cases answer

/-! ## The whole walk -/

/-- Where a page ends, the cursor can be read, and its time, cut to the millisecond,
leaves the next row behind it. -/
def Resumable (ledger : Ledger) (userId : UserId) (limit : Nat) : Prop :=
  Resumes newest resumed limit (fun last => Dated last.occurredAt)
    (selectLedger ledger userId none)

theorem walk_resumable (wallet : userId ∈ ledger.wallets) (parsed : parseLimit limitValue = .ok limit)
    (shown : ∀ row ∈ activity ledger userId, inDateRange row.occurredAt = true) {count : Nat}
    (enough : (selectLedger ledger userId none).length < count) :
    walk (ledgerPage userId limitValue) none (List.replicate count ledger) =
        .ok ((selectLedger ledger userId none).map ledgerItem, true) ↔
      Resumable ledger userId limit.val := by
  have served : ∀ after cursorValue cursor, decodeLedgerCursor cursorValue = .ok cursor →
      castCursor cursor = .ok after → ledgerPage userId limitValue ledger cursorValue =
        .ok ((markedPage newest limit.val (after.map OrderDual.toDual)
            (activity ledger userId)).1.map ledgerItem,
          (markedPage newest limit.val (after.map OrderDual.toDual)
            (activity ledger userId)).2.map writeCursor) := by
    intro after cursorValue cursor decoded cast
    rw [ledger_page wallet parsed decoded cast, if_pos]
    rw [List.all_eq_true]
    intro row member
    exact shown row (mem_past.mp (List.mem_of_mem_take (List.mem_of_mem_take member))).1
  have selected := @select_past ledger userId none
  rw [Resumable, selected]
  rw [selected] at enough
  refine (walk_marked activity_distinct limit.property.1 ?_ ?_ ?_ none
    (served none none none rfl rfl) count enough).2
  · -- A position cut to the millisecond is not after the row's own.
    intro row member
    rw [resumed, newest, OrderDual.toDual_le_toDual, ActivityRow.position, Prod.Lex.toLex_le_toLex]
    have cut : row.occurredAt / 1000 * 1000 ≤ row.occurredAt := Int.ediv_mul_le _ (by decide)
    rcases Int.lt_or_eq_of_le cut with less | same
    · exact .inl less
    · exact .inr ⟨same, Nat.le_refl _⟩
  · intro row member dated
    obtain ⟨cursor, decoded, cast⟩ := cast_dated (activity_versioned row member) dated
    exact served (some (OrderDual.ofDual (resumed row))) _ _ decoded cast
  · intro row member undated
    exact ledger_undated wallet parsed (activity_versioned row member) undated

/-- With enough requests, the walk lists each transaction that touches the wallet once,
newest first, and ends: exactly when the times shown have a `Date` and every page that
ends can be resumed before its next row. -/
theorem ledger_paged (wallet : userId ∈ ledger.wallets) (parsed : parseLimit limitValue = .ok limit)
    {count : Nat} (enough : (selectLedger ledger userId none).length < count) :
    (selectLedger ledger userId none).Pairwise
        (fun first second => second.position < first.position) ∧
      (∀ transactionId,
        transactionId ∈ (selectLedger ledger userId none).map ActivityRow.transactionId ↔
          transactionId ∈ ledger.transactions.map StoredTransaction.transactionId ∧
            Touches ledger userId transactionId) ∧
      (walk (ledgerPage userId limitValue) none (List.replicate count ledger) =
          .ok ((selectLedger ledger userId none).map ledgerItem, true) ↔
        (∀ row ∈ activity ledger userId, inDateRange row.occurredAt = true) ∧
          Resumable ledger userId limit.val) := by
  refine ⟨?_, ?_, ?_⟩
  · rw [select_past none]
    exact past_sorted activity_distinct
  · intro transactionId
    rw [select_past none]
    constructor
    · intro member
      obtain ⟨row, listed, rfl⟩ := List.mem_map.mp member
      obtain ⟨transaction, stored, is⟩ := List.mem_filterMap.mp (mem_past.mp listed).1
      rw [(activity_row_id is).1]
      exact ⟨List.mem_map_of_mem stored, (activity_row_some transaction).mp ⟨row, is⟩⟩
    · rintro ⟨stored, touches⟩
      obtain ⟨transaction, there, rfl⟩ := List.mem_map.mp stored
      obtain ⟨row, is⟩ := (activity_row_some transaction).mpr touches
      have listed : row ∈ activity ledger userId := List.mem_filterMap.mpr ⟨transaction, there, is⟩
      rw [← (activity_row_id is).1]
      exact List.mem_map_of_mem (mem_past.mpr ⟨listed, nofun⟩)
  · constructor
    · intro walked
      have shown : ∀ row ∈ activity ledger userId, inDateRange row.occurredAt = true := by
        intro row member
        have listed : ledgerItem row ∈ (selectLedger ledger userId none).map ledgerItem := by
          rw [select_past none]
          exact List.mem_map_of_mem (mem_past.mpr ⟨member, nofun⟩)
        obtain ⟨other, there, shown, same⟩ := walk_all
          (fun state member cursor items next answer => page_in_range
            (List.eq_of_mem_replicate member ▸ answer)) walked _ listed
        have ids := (@activity_ids ledger userId).nodup ledger.identified
        have is : row = other := List.inj_on_of_nodup_map ids member there same
        exact is ▸ shown
      exact ⟨shown, (walk_resumable wallet parsed shown enough).mp walked⟩
    · rintro ⟨shown, resumable⟩
      exact (walk_resumable wallet parsed shown enough).mpr resumable

/-! Two reservations in one millisecond, the later one with the greater id. -/

def firstReserve : Uuid := 0x11111111111141118111111111111111

def secondReserve : Uuid := 0x22222222222242228222222222222222

def sameMillisecond : Ledger where
  wallets := ["u"]
  transactions :=
    [{ transactionId := firstReserve, transactionType := .reserve, amount := 1, orderId := some "o1",
       occurredAt := 1760000000000300 },
     { transactionId := secondReserve, transactionType := .reserve, amount := 1, orderId := some "o2",
       occurredAt := 1760000000000700 }]
  entries :=
    [{ transactionId := firstReserve, entryNo := 1, wallet := some ("u", ⟨9, 1⟩), direction := .debit,
       amount := 1 },
     { transactionId := firstReserve, entryNo := 2, wallet := some ("u", ⟨9, 1⟩), direction := .credit,
       amount := 1 },
     { transactionId := secondReserve, entryNo := 1, wallet := some ("u", ⟨8, 2⟩), direction := .debit,
       amount := 1 },
     { transactionId := secondReserve, entryNo := 2, wallet := some ("u", ⟨8, 2⟩), direction := .credit,
       amount := 1 }]
  identified := by decide
  versioned := by decide

theorem ledger_paged_two :
    walk (ledgerPage "u" none) none (List.replicate 3 sameMillisecond) =
      .ok ((selectLedger sameMillisecond "u" none).map ledgerItem, true) := by
  apply (ledger_paged (by decide) rfl (by decide +kernel)).2.2.mpr
  constructor
  · decide +kernel
  · exact resumes_short (by decide +kernel)

/-- With a page of one, the walk ends without the first of them. -/
theorem same_millisecond_lost :
    (walk (ledgerPage "u" (some (Double.ofInt 1))) none (List.replicate 3 sameMillisecond)).toOption.map
        (fun walked => (walked.1.map LedgerItem.transactionId, walked.2)) =
      some ([secondReserve], true) ∧
      (selectLedger sameMillisecond "u" none).map ActivityRow.transactionId =
        [secondReserve, firstReserve] := by
  decide +kernel

end Foc.Credit
