import Foc.Library.Keyset
import Foc.Order.Cursor
import Mathlib.Data.Prod.Lex

/-!
The two lists of errands (`listOpen`, `listMine` of `orders.repository.ts`, and the
cursors of `validation.ts` and `orders.service.ts`), and walks through them while the
errands change.
-/
namespace Foc.Order
open Library Library.Calendar Library.UuidText Library.JsonText Library.Keyset

/-- The errands at one moment. -/
structure OrderTable where
  rows : List StoredOrder
  identified : (rows.map StoredOrder.orderId).Nodup
  /-- Ids are those of `randomUUID`. -/
  versioned : ∀ row ∈ rows, Versioned row.orderId

inductive ListingError where
  | refused (exception : ApiException)
  /-- PostgreSQL does not read a text as the type it is cast to. -/
  | databaseError
  deriving DecidableEq, Repr

/-! ## Open errands -/

structure OpenOrdersQuery where
  pickupBuilding : Option String
  minReward : Option Int
  limit : Nat
  after : Option OpenCursor
  deriving DecidableEq, Repr

structure OpenOrderSummary where
  orderId : Uuid
  supplier : SupplierSnapshot
  itemSummary : List (String × Nat)
  deliveryZone : String
  reward : Int
  status : OrderStatus
  version : Int
  acceptanceDeadlineAt : Millis
  timeRemainingSeconds : Int
  createdAt : Millis
  deriving DecidableEq, Repr

def openSummary (now : Millis) (stored : StoredOrder) : OpenOrderSummary :=
  let order := mapOrder stored
  let deadline := order.acceptanceDeadlineAt.getD 0
  { orderId := order.orderId
    supplier := order.supplierSnapshot
    itemSummary := order.items.map fun item => (item.name, item.quantity)
    deliveryZone := order.deliveryZone
    reward := order.reward
    status := .opened
    version := order.version
    acceptanceDeadlineAt := deadline
    -- The seconds left, rounded up.
    timeRemainingSeconds := max 0 (-((now - deadline) / 1000))
    createdAt := order.createdAt }

/-- The columns open errands are sorted by. No errand listed is without a deadline. -/
def openPosition (row : StoredOrder) : Micros ×ₗ Micros ×ₗ Uuid :=
  toLex (row.acceptanceDeadlineAt.getD 0, toLex (row.createdAt, row.orderId))

/-- The rows `listOpen` takes, `lower` being the database's. -/
def openMatches (lower : String → String) (callerId : UserId) (query : OpenOrdersQuery)
    (now : Millis) (row : StoredOrder) : Bool :=
  decide (row.status = .opened) &&
  row.acceptanceDeadlineAt.any (fun deadline => decide (toMicros now < deadline)) &&
  decide (row.requesterId ≠ callerId) &&
  query.pickupBuilding.all (fun building =>
    decide (lower row.supplierSnapshot.building = lower building)) &&
  query.minReward.all fun reward => decide (reward ≤ row.reward)

def OpenCursor.position (cursor : OpenCursor) : Option (Micros ×ₗ Micros ×ₗ Uuid) := do
  let deadline ← timestamptz cursor.deadline
  let createdAt ← timestamptz cursor.createdAt
  let orderId ← uuid cursor.orderId
  return toLex (deadline, toLex (createdAt, orderId))

def openKeys (row : StoredOrder) : OpenCursor :=
  { deadline := exactTime (row.acceptanceDeadlineAt.getD 0)
    createdAt := exactTime row.createdAt
    orderId := idText row.orderId }

/-- The casts of a cursor's texts. -/
def castAfter {C P : Type} (position : C → Option P) : Option C → Except ListingError (Option P)
  | none => .ok none
  | some cursor =>
      match position cursor with
      | some place => .ok (some place)
      | none => .error .databaseError

def selectOpen (lower : String → String) (callerId : UserId) (query : OpenOrdersQuery) (now : Millis)
    (table : OrderTable) (after : Option (Micros ×ₗ Micros ×ₗ Uuid)) : List StoredOrder :=
  (table.rows.filter fun row => openMatches lower callerId query now row &&
    after.all fun last => decide (last < openPosition row)).insertionSort
      fun first second => openPosition first ≤ openPosition second

def listOpen (lower : String → String) (table : OrderTable) (callerId : UserId)
    (query : OpenOrdersQuery) (now : Millis) :
    Except ListingError (List OpenOrderSummary × Option OpenCursor) := do
  let after ← castAfter OpenCursor.position query.after
  let found := (selectOpen lower callerId query now table after).take (query.limit + 1)
  let rows := found.take query.limit
  .ok (rows.map (openSummary now),
    if query.limit < found.length then rows.getLast?.map openKeys else none)

/-- What one request finds: the errands, and the time. -/
structure OpenMoment where
  table : OrderTable
  now : Millis

def decoded {T : Type} (schema : Parsed → Option T) (cursor : Option String) :
    Except ListingError (Option T) :=
  match decodeCursor schema cursor with
  | .ok after => .ok after
  | .error exception => .error (.refused exception)

/-- A request for a page: the query's cursor, and the next page's. -/
def openPage (lower : String → String) (callerId : UserId) (query : OpenOrdersQuery)
    (moment : OpenMoment) (cursor : Option String) :
    Except ListingError (List OpenOrderSummary × Option String) := do
  let after ← decoded openCursorSchema cursor
  let (items, next) ← listOpen lower moment.table callerId { query with after } moment.now
  .ok (items, next.map fun keys => encodeCursor keys.entries)

/-! ## The caller's errands -/

inductive Role where
  | requester
  | courier
  deriving DecidableEq, Repr

structure MyOrdersQuery where
  role : Option Role
  active : Option Bool
  limit : Nat
  after : Option MineCursor
  deriving DecidableEq, Repr

def terminalOrderStatuses : List OrderStatus := [.rejected, .completed, .cancelled, .expired]

def mineMatches (userId : UserId) (query : MyOrdersQuery) (row : StoredOrder) : Bool :=
  (match query.role with
    | some .requester => decide (row.requesterId = userId)
    | some .courier => decide (row.courierId = some userId)
    | none => decide (row.requesterId = userId) || decide (row.courierId = some userId)) &&
  query.active.all fun active => decide (row.status ∉ terminalOrderStatuses) == active

def MineCursor.position (cursor : MineCursor) : Option (Micros × Uuid) := do
  let updatedAt ← timestamptz cursor.updatedAt
  let orderId ← uuid cursor.orderId
  return (updatedAt, orderId)

def mineKeys (row : StoredOrder) : MineCursor :=
  { updatedAt := exactTime row.updatedAt, orderId := idText row.orderId }

/-- `ORDER BY updated_at DESC, order_id`. -/
def mineBefore (first second : StoredOrder) : Prop :=
  second.updatedAt < first.updatedAt ∨
    (first.updatedAt = second.updatedAt ∧ first.orderId ≤ second.orderId)

instance : DecidableRel mineBefore := fun first second =>
  inferInstanceAs (Decidable (second.updatedAt < first.updatedAt ∨
    (first.updatedAt = second.updatedAt ∧ first.orderId ≤ second.orderId)))

def selectMine (userId : UserId) (query : MyOrdersQuery) (table : OrderTable)
    (after : Option (Micros × Uuid)) : List StoredOrder :=
  (table.rows.filter fun row => mineMatches userId query row &&
    after.all fun (updatedAt, orderId) => decide (row.updatedAt < updatedAt) ||
      (decide (row.updatedAt = updatedAt) && decide (orderId < row.orderId))).insertionSort mineBefore

def listMine (table : OrderTable) (userId : UserId) (query : MyOrdersQuery) :
    Except ListingError (List OrderRow × Option MineCursor) := do
  let after ← castAfter MineCursor.position query.after
  let found := (selectMine userId query table after).take (query.limit + 1)
  let rows := found.take query.limit
  .ok (rows.map mapOrder,
    if query.limit < found.length then rows.getLast?.map mineKeys else none)

def minePage (userId : UserId) (query : MyOrdersQuery) (table : OrderTable) (cursor : Option String) :
    Except ListingError (List OrderRow × Option String) := do
  let after ← decoded mineCursorSchema cursor
  let (rows, next) ← listMine table userId { query with after }
  .ok (rows, next.map fun keys => encodeCursor keys.entries)

end Foc.Order
