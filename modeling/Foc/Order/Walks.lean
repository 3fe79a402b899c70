import Foc.Order.Listing

/-!
Walks through the two lists, page after page, whatever is committed between the
requests. The cursors tell the microsecond, so a page starts exactly after the row the
one before it ended with.
-/
namespace Foc.Order
open Library Library.Calendar Library.UuidText Library.OpaqueText Library.JsonText Library.Keyset

/-! ## Cursors -/

/-- The times of an open errand's cursor lie in the years 1 to 9999. -/
def OpenDated (row : StoredOrder) : Prop :=
  Dated (row.acceptanceDeadlineAt.getD 0) ∧ Dated row.createdAt

theorem open_decoded {row : StoredOrder} (dated : OpenDated row) (versioned : Versioned row.orderId) :
    decodeCursor openCursorSchema (some (encodeCursor (openKeys row).entries)) =
      .ok (some (openKeys row)) := by
  apply decode_issued
  · simp only [List.forall_mem_cons]
    refine ⟨⟨?_, exact_plain dated.1⟩, ⟨?_, exact_plain dated.2⟩, ⟨?_, id_plain _⟩,
      List.forall_mem_nil _⟩ <;>
      · simp only [Plain]
        exact List.all_eq_true.mp (by decide)
  · simp only [List.map_cons, List.map_nil, List.sum_cons, List.sum_nil, openKeys,
      exact_length dated.1, exact_length dated.2, id_length]
    decide
  · simp only [openCursorSchema, strict, List.map_cons, List.map_nil, openKeys]
    rw [if_pos (by simp)]
    simp only [Option.bind_eq_bind, Option.bind_some, field, member]
    simp [exact_taken dated.1, exact_taken dated.2, id_taken versioned, Option.filter]

theorem mine_decoded {row : StoredOrder} (dated : Dated row.updatedAt)
    (versioned : Versioned row.orderId) :
    decodeCursor mineCursorSchema (some (encodeCursor (mineKeys row).entries)) =
      .ok (some (mineKeys row)) := by
  apply decode_issued
  · simp only [List.forall_mem_cons]
    refine ⟨⟨?_, exact_plain dated⟩, ⟨?_, id_plain _⟩, List.forall_mem_nil _⟩ <;>
      · simp only [Plain]
        exact List.all_eq_true.mp (by decide)
  · simp only [List.map_cons, List.map_nil, List.sum_cons, List.sum_nil, mineKeys,
      exact_length dated, id_length]
    decide
  · simp only [mineCursorSchema, strict, List.map_cons, List.map_nil, mineKeys]
    rw [if_pos (by simp)]
    simp only [Option.bind_eq_bind, Option.bind_some, field, member]
    simp [exact_taken dated, id_taken versioned, Option.filter]

theorem open_position {row : StoredOrder} (dated : OpenDated row) (versioned : Versioned row.orderId) :
    (openKeys row).position = some (openPosition row) := by
  simp only [OpenCursor.position, openKeys, read_exact dated.1, read_exact dated.2, read_id versioned,
    Option.bind_eq_bind, Option.bind_some]
  rfl

theorem mine_position {row : StoredOrder} (dated : Dated row.updatedAt)
    (versioned : Versioned row.orderId) :
    (mineKeys row).position = some (row.updatedAt, row.orderId) := by
  simp only [MineCursor.position, mineKeys, read_exact dated, read_id versioned,
    Option.bind_eq_bind, Option.bind_some]
  rfl

/-! ## What a walk lists -/

/-- A walk lists rows that matched when they were listed, each past the one before it.
Once it ends, every row that was there and matched all along has been listed once. -/
def WalksThrough {State Item κ : Type} [LT κ]
    (request : State → Option String → Except ListingError (List Item × Option String))
    (states : List State) (found : State → List StoredOrder) (item : State → StoredOrder → Item)
    (position : StoredOrder → κ) : Prop :=
  ∃ (listed : List (State × StoredOrder)) (finished : Bool),
    walk request none states = .ok (listed.map fun shown => item shown.1 shown.2, finished) ∧
    (listed.Pairwise fun first second => position first.2 < position second.2) ∧
    (∀ shown ∈ listed, shown.1 ∈ states ∧ shown.2 ∈ found shown.1) ∧
    (finished = true → ∀ row, (∀ state ∈ states, row ∈ found state) →
      (listed.countP fun shown => decide (shown.2.orderId = row.orderId)) = 1)

theorem walks_through {State Item κ : Type} [LinearOrder κ]
    {request : State → Option String → Except ListingError (List Item × Option String)}
    {states : List State} {found : State → List StoredOrder} {item : State → StoredOrder → Item}
    {position : StoredOrder → κ} {write : κ → String} {issued : κ → Prop} {limit : Nat}
    (positive : 0 < limit)
    (serves : ∀ state ∈ states, ∀ after : Option κ, (∀ last, after = some last → issued last) →
      request state (after.map write) =
        .ok ((page position limit after (found state)).1.map (item state),
          (page position limit after (found state)).2.map write))
    (issues : ∀ state ∈ states, ∀ row ∈ found state, issued (position row))
    (names : ∀ first second, position first = position second → first.orderId = second.orderId)
    (identified : ∀ state ∈ states, ((found state).map StoredOrder.orderId).Nodup) :
    WalksThrough request states found item position := by
  have distinct : ∀ state ∈ states,
      (((found state).map (Prod.mk state)).map fun shown => position shown.2).Nodup := by
    intro state member
    have apart := identified state member
    rw [List.map_map, List.nodup_iff_pairwise_ne, List.pairwise_map]
    rw [List.nodup_iff_pairwise_ne, List.pairwise_map] at apart
    exact apart.imp fun different same => different (names _ _ same)
  have snapshots : ∀ rows ∈ states.map fun state => (found state).map (Prod.mk state),
      (rows.map fun shown => position shown.2).Nodup := by
    intro rows member
    obtain ⟨state, there, rfl⟩ := List.mem_map.mp member
    exact distinct state there
  have walked : walk request ((none : Option κ).map write) states =
      .ok ((pages (fun shown => position shown.2) limit none
          (states.map fun state => (found state).map (Prod.mk state))).1.map
            fun shown => item shown.1 shown.2,
        (pages (fun shown => position shown.2) limit none
          (states.map fun state => (found state).map (Prod.mk state))).2) := by
    have issuing : ∀ state ∈ states, ∀ shown ∈ (found state).map (Prod.mk state),
        issued (position shown.2) := by
      intro state member shown there
      obtain ⟨row, matched, rfl⟩ := List.mem_map.mp there
      exact issues state member row matched
    refine walk_pages ?_ issuing distinct nofun
    · intro state member after past
      rw [serves state member after past, page_map, List.map_map]
      rfl
  refine ⟨_, _, walked, (pages_sorted snapshots).1, ?_, ?_⟩
  · intro shown member
    obtain ⟨rows, given, there⟩ := pages_mem member
    obtain ⟨state, is, rfl⟩ := List.mem_map.mp given
    obtain ⟨row, matched, rfl⟩ := List.mem_map.mp there
    exact ⟨is, matched⟩
  · intro finished row always
    apply pages_once snapshots positive finished (position row)
    · intro rows given
      obtain ⟨state, is, rfl⟩ := List.mem_map.mp given
      exact ⟨(state, row), List.mem_map_of_mem (always state is), rfl, decide_eq_true rfl⟩
    · intro rows given shown member same
      obtain ⟨state, is, rfl⟩ := List.mem_map.mp given
      obtain ⟨other, there, rfl⟩ := List.mem_map.mp member
      have equal : other = row := List.inj_on_of_nodup_map (identified state is) there
        (always state is) (of_decide_eq_true same)
      exact congrArg position equal
    · nofun

/-! ## The lists' pages -/

variable {lower : String → String} {callerId userId : UserId}

def writeOpen (place : Micros ×ₗ Micros ×ₗ Uuid) : String :=
  encodeCursor (OpenCursor.entries
    { deadline := exactTime (ofLex place).1
      createdAt := exactTime (ofLex (ofLex place).2).1
      orderId := idText (ofLex (ofLex place).2).2 })

/-- Last changed first, then by id. -/
def minePosition (row : StoredOrder) : Microsᵒᵈ ×ₗ Uuid :=
  toLex (OrderDual.toDual row.updatedAt, row.orderId)

def writeMine (place : Microsᵒᵈ ×ₗ Uuid) : String :=
  encodeCursor (MineCursor.entries
    { updatedAt := exactTime (OrderDual.ofDual (ofLex place).1), orderId := idText (ofLex place).2 })

theorem select_open (query : OpenOrdersQuery) (now : Millis) (table : OrderTable)
    (after : Option (Micros ×ₗ Micros ×ₗ Uuid)) :
    selectOpen lower callerId query now table after =
      past openPosition after (table.rows.filter (openMatches lower callerId query now)) := by
  rw [selectOpen, past, List.filter_filter]
  congr 1
  apply List.filter_congr
  intro row member
  rw [Bool.and_comm]

theorem open_served {query : OpenOrdersQuery} {moment : OpenMoment}
    {after : Option (Micros ×ₗ Micros ×ₗ Uuid)}
    (issued : ∀ last, after = some last →
      ∃ row, OpenDated row ∧ Versioned row.orderId ∧ openPosition row = last) :
    openPage lower callerId query moment (after.map writeOpen) =
      .ok ((page openPosition query.limit after
          (moment.table.rows.filter (openMatches lower callerId query moment.now))).1.map
            (openSummary moment.now),
        (page openPosition query.limit after
          (moment.table.rows.filter (openMatches lower callerId query moment.now))).2.map
            writeOpen) := by
  have cast : ∃ cursor, decoded openCursorSchema (after.map writeOpen) = .ok cursor ∧
      castAfter OpenCursor.position cursor = .ok after := by
    cases after with
    | none => exact ⟨none, rfl, rfl⟩
    | some last =>
        obtain ⟨row, dated, versioned, rfl⟩ := issued last rfl
        refine ⟨some (openKeys row), ?_, ?_⟩
        · have same : (some (openPosition row)).map writeOpen =
              some (encodeCursor (openKeys row).entries) := rfl
          rw [decoded, same, open_decoded dated versioned]
        · rw [castAfter, open_position dated versioned]
  obtain ⟨cursor, read, cast⟩ := cast
  have selected : selectOpen lower callerId { query with after := cursor } moment.now moment.table
      after = past openPosition after
        (moment.table.rows.filter (openMatches lower callerId query moment.now)) :=
    select_open ..
  simp only [openPage, listOpen, bind, Except.bind, read, cast, selected, page]
  by_cases more : query.limit < ((past openPosition after
      (moment.table.rows.filter (openMatches lower callerId query moment.now))).take
        (query.limit + 1)).length
  · simp only [if_pos more, Option.map_map]
    rfl
  · simp only [if_neg more, Option.map_none]

theorem select_mine (query : MyOrdersQuery) (table : OrderTable) (after : Option (Micros × Uuid)) :
    selectMine userId query table after =
      past minePosition (after.map fun last => toLex (OrderDual.toDual last.1, last.2))
        (table.rows.filter (mineMatches userId query)) := by
  have sorts : ∀ rows : List StoredOrder, rows.insertionSort mineBefore =
      rows.insertionSort fun first second => minePosition first ≤ minePosition second := by
    intro rows
    have same := List.map_insertionSort mineBefore
      (fun first second => minePosition first ≤ minePosition second) id rows
    rw [List.map_id, List.map_id] at same
    apply same
    intro first _ second _
    rw [mineBefore, minePosition, minePosition, id, id, Prod.Lex.toLex_le_toLex]
    simp
  rw [selectMine, past, List.filter_filter, sorts]
  congr 1
  apply List.filter_congr
  intro row member
  rw [Bool.and_comm]
  congr 1
  cases after with
  | none => rfl
  | some last =>
      rw [Option.map_some, Option.all_some, Option.all_some, minePosition, Bool.eq_iff_iff]
      simp only [Bool.or_eq_true, Bool.and_eq_true, decide_eq_true_eq, Prod.Lex.toLex_lt_toLex,
        OrderDual.toDual_lt_toDual, OrderDual.toDual_inj]
      constructor
      · rintro (less | ⟨same, less⟩)
        · exact .inl less
        · exact .inr ⟨same.symm, less⟩
      · rintro (less | ⟨same, less⟩)
        · exact .inl less
        · exact .inr ⟨same.symm, less⟩

theorem mine_served {query : MyOrdersQuery} {table : OrderTable} {after : Option (Microsᵒᵈ ×ₗ Uuid)}
    (issued : ∀ last, after = some last →
      ∃ row, Dated row.updatedAt ∧ Versioned row.orderId ∧ minePosition row = last) :
    minePage userId query table (after.map writeMine) =
      .ok ((page minePosition query.limit after
          (table.rows.filter (mineMatches userId query))).1.map mapOrder,
        (page minePosition query.limit after
          (table.rows.filter (mineMatches userId query))).2.map writeMine) := by
  have cast : ∃ cursor place, decoded mineCursorSchema (after.map writeMine) = .ok cursor ∧
      castAfter MineCursor.position cursor = .ok place ∧
        place.map (fun last => toLex (OrderDual.toDual last.1, last.2)) = after := by
    cases after with
    | none => exact ⟨none, none, rfl, rfl, rfl⟩
    | some last =>
        obtain ⟨row, dated, versioned, rfl⟩ := issued last rfl
        refine ⟨some (mineKeys row), some (row.updatedAt, row.orderId), ?_, ?_, rfl⟩
        · have same : (some (minePosition row)).map writeMine =
              some (encodeCursor (mineKeys row).entries) := rfl
          rw [decoded, same, mine_decoded dated versioned]
        · rw [castAfter, mine_position dated versioned]
  obtain ⟨cursor, place, read, cast, rfl⟩ := cast
  have selected : selectMine userId { query with after := cursor } table place =
      past minePosition (place.map fun last => toLex (OrderDual.toDual last.1, last.2))
        (table.rows.filter (mineMatches userId query)) := select_mine ..
  simp only [minePage, listMine, bind, Except.bind, read, cast, selected, page]
  by_cases more : query.limit < ((past minePosition
      (place.map fun last => toLex (OrderDual.toDual last.1, last.2))
        (table.rows.filter (mineMatches userId query))).take (query.limit + 1)).length
  · simp only [if_pos more, Option.map_map]
    rfl
  · simp only [if_neg more, Option.map_none]

/-! ## The walks -/

def farErrand (orderId : Uuid) (deadline : Micros) : StoredOrder :=
  { orderId, requesterId := "requester", courierId := none, referredAdminId := none
    supplierSnapshot := { supplierId := 1, name := "Deck", type := "CANTEEN", building := "COM2"
                          floor := "1", locationDescription := "By the stairs" }
    items := [{ name := "Kopi", quantity := 1, note := none }]
    deliveryZone := "UTown", deliveryInstructions := "Lobby", reward := 2, status := .opened
    releaseReason := none, rejectionReason := none, availableAtRejection := none, version := 2
    acceptanceDeadlineAt := some deadline, acceptedAt := none, pickedUpAt := none
    deliveredAt := none, nonDeliveryReportAt := none, autoConfirmAt := none
    requesterSuspendedAt := none, completionRequestedAt := none, completedAt := none
    releaseRequestedAt := none, releasedAt := none, creditTransactionId := none
    createdAt := 1760000000000300, updatedAt := 1760000000000300 }

/-- Two open errands of one requester, with one deadline. -/
def twoOpen (deadline : Micros) : OpenMoment where
  table :=
    { rows := [farErrand 0x11111111111141118111111111111111 deadline,
        farErrand 0x22222222222242228222222222222222 deadline]
      identified := by simp [farErrand]
      versioned := by
        intro row member
        simp only [List.mem_cons, List.not_mem_nil, or_false] at member
        rcases member with rfl | rfl
        · exact (by decide : Versioned 0x11111111111141118111111111111111)
        · exact (by decide : Versioned 0x22222222222242228222222222222222) }
  now := 1760000000000

def onePage : OpenOrdersQuery := { pickupBuilding := none, minReward := none, limit := 1, after := none }

def ownPage : MyOrdersQuery := { role := some .requester, active := none, limit := 1, after := none }

end Foc.Order
