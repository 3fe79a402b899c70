import Foc.Library.JsonLiteral
import Foc.Library.RequestBody
import Foc.Library.UuidText
import Foc.Order.Cursor
import Foc.Order.Repository

/-!
From a body to the rows of a new errand (`parseCreateOrder` and `parseIdempotencyKey` of
`orders/validation.ts`, the parameters of `createPending`). A request is JavaScript's
strings; the driver sends them as UTF-8, and the items as the text of their JSON. The
issues that zod lists of a refused body are left out.
-/
namespace Foc.Order
open Library Library.Utf16 Library.JsonLiteral Library.UuidText

structure NewItem where
  name : Units
  quantity : Int
  note : Option Units
  deriving DecidableEq

/-- A validated body. -/
structure NewOrder where
  supplierId : Uuid
  items : List NewItem
  deliveryZone : Units
  deliveryInstructions : Units
  reward : Int
  deriving DecidableEq

/-! ## Validation -/

/-- `z.string().trim().min(1).max(most)`. -/
def trimmedSchema (most : Nat) : Body → Option Units
  | .string units =>
      if 1 ≤ (Utf16.trim units).length ∧ (Utf16.trim units).length ≤ most then some (Utf16.trim units) else none
  | _ => none

/-- `z.number().int().min(least).max(most)`, within the safe integers. -/
def integerSchema (least most : Int) : Body → Option Int
  | .number value => value.whole.filter fun whole => decide (least ≤ whole ∧ whole ≤ most)
  | _ => none

def bodyUuidSchema : Body → Option Uuid
  | .string units => scanUuid (text units)
  | _ => none

/-- An optional field. -/
def optional {α : Type} (schema : Body → Option α) : Option Body → Option (Option α)
  | none => some none
  | some body => (schema body).map some

def itemSchema (body : Body) : Option NewItem :=
  if body.strict ["name", "quantity", "note"] then do
    let name ← (body.at? "name").bind (trimmedSchema 200)
    let quantity ← (body.at? "quantity").bind (integerSchema 1 100)
    let note ← optional (trimmedSchema 500) (body.at? "note")
    return { name, quantity, note }
  else none

def itemsSchema : Body → Option (List NewItem)
  | .array items => if 1 ≤ items.length ∧ items.length ≤ 50 then items.mapM itemSchema else none
  | _ => none

def createOrderSchema (body : Body) : Option NewOrder :=
  if body.strict ["supplierId", "items", "deliveryZone", "deliveryInstructions", "reward"] then do
    let supplierId ← (body.at? "supplierId").bind bodyUuidSchema
    let items ← (body.at? "items").bind itemsSchema
    let deliveryZone ← (body.at? "deliveryZone").bind (trimmedSchema 200)
    let deliveryInstructions ← (body.at? "deliveryInstructions").bind (trimmedSchema 1000)
    let reward ← (body.at? "reward").bind (integerSchema 1 5)
    return { supplierId, items, deliveryZone, deliveryInstructions, reward }
  else none

def invalidOrder : ApiException :=
  { status := 422, code := "VALIDATION_FAILED", message := "The order request is invalid." }

def parseCreateOrder (value : Body) : Except ApiException NewOrder :=
  match createOrderSchema value with
  | some input => .ok input
  | none => .error invalidOrder

def idempotencyKeyRequired : ApiException :=
  { status := 400, code := "IDEMPOTENCY_KEY_REQUIRED", message := "Idempotency-Key is required." }

def invalidIdempotencyKey : ApiException :=
  { status := 400, code := "INVALID_IDEMPOTENCY_KEY"
    message := "Idempotency-Key must contain 1 to 200 characters." }

def parseIdempotencyKey : Option Units → Except ApiException Units
  | none | some [] => .error idempotencyKeyRequired
  | some value =>
      if 200 < value.length ∨ (Utf16.trim value).length = 0 then .error invalidIdempotencyKey
      else .ok value

/-! ## Columns -/

/-- A text parameter: UTF-8 on the wire, which the server takes without U+0000. -/
def textColumn (units : Units) : Except Failure String :=
  if storable (String.ofList (text units)) then .ok (String.ofList (text units))
  else .error (.database .unstorableText)

/-- A string within a `jsonb` parameter. -/
def jsonbString (units : Units) : Except Failure String :=
  match lexString none (literal units) with
  | some (chars, []) => .ok (String.ofList chars)
  | _ => .error (.database .unstorableText)

def jsonbItem (item : NewItem) : Except Failure OrderItem := do
  let name ← jsonbString item.name
  let note ← item.note.mapM jsonbString
  return { name, quantity := item.quantity.toNat, note }

/-- The caller and the errand's supplier, whose texts the database can hold. -/
structure Surroundings where
  requesterId : UserId
  supplierSnapshot : SupplierSnapshot
  correlationId : String
  named : requesterId ≠ ""
  texts : ([requesterId, supplierSnapshot.name, supplierSnapshot.type, supplierSnapshot.building,
    supplierSnapshot.floor, supplierSnapshot.locationDescription].all storable) = true

/-- The parameters of the insert that come from a body. -/
def requestColumns (input : NewOrder) : Except Failure CreateOrderInput := do
  let items ← input.items.mapM jsonbItem
  let deliveryZone ← textColumn input.deliveryZone
  let deliveryInstructions ← textColumn input.deliveryInstructions
  return { supplierId := input.supplierId, items, deliveryZone, deliveryInstructions
           reward := input.reward }

/-- The key's lock, then the rows: the errand, its history, the key and the events. -/
def insertPending (around : Surroundings) (input : NewOrder) (idempotencyKey : Units)
    (orderId : Uuid) (now : Millis) : Except Failure (Applied × String) := do
  let _ ← textColumn (ofText around.requesterId.toList ++ keyName ":" ++ idempotencyKey)
  let request ← requestColumns input
  let change ← createPending
    { request, requesterId := around.requesterId, supplierSnapshot := around.supplierSnapshot
      correlationId := around.correlationId } orderId now
  let key ← textColumn idempotencyKey
  return (change, key)

/-! ## What the columns take -/

def storedText (units : Units) : String := String.ofList (text units)

/-- What a text column takes. -/
def Solid (units : Units) : Prop := (0 : UInt16) ∉ units

/-- What a string within a `jsonb` column may be. -/
def Clean (units : Units) : Prop := WellFormed units ∧ Solid units

instance (units : Units) : Decidable (Solid units) := inferInstanceAs (Decidable (_ ∉ _))

instance (units : Units) : Decidable (Clean units) := inferInstanceAs (Decidable (_ ∧ _))

theorem storable_text (units : Units) : storable (storedText units) = true ↔ Solid units := by
  rw [storable, storedText, String.toList_ofList, Bool.not_eq_true', List.contains_eq_mem,
    decide_eq_false_iff_not]
  exact not_congr (zero_mem_text units)

theorem text_column (units : Units) : textColumn units =
    if Solid units then .ok (storedText units) else .error (.database .unstorableText) := by
  have same := storable_text units
  rw [storedText] at same
  simp only [textColumn, same, storedText]

theorem jsonb_string (units : Units) : jsonbString units =
    if Clean units then .ok (storedText units) else .error (.database .unstorableText) := by
  have read := lex_literal units []
  rw [List.append_nil] at read
  rw [jsonbString, read]
  by_cases clean : Clean units
  · have taken : WellFormed units ∧ (0 : UInt16) ∉ units := clean
    rw [if_pos taken, if_pos clean]
    rfl
  · have refused : ¬ (WellFormed units ∧ (0 : UInt16) ∉ units) := clean
    rw [if_neg refused, if_neg clean]

def NewItem.Clean (item : NewItem) : Prop :=
  Order.Clean item.name ∧ ∀ note ∈ item.note, Order.Clean note

instance (item : NewItem) : Decidable item.Clean := inferInstanceAs (Decidable (_ ∧ _))

def NewItem.stored (item : NewItem) : OrderItem :=
  { name := storedText item.name, quantity := item.quantity.toNat, note := item.note.map storedText }

theorem jsonb_item (item : NewItem) : jsonbItem item =
    if item.Clean then .ok item.stored else .error (.database .unstorableText) := by
  obtain ⟨name, quantity, note⟩ := item
  by_cases named : Clean name
  · cases note with
    | none =>
        have clean : NewItem.Clean { name, quantity, note := none } := by
          simp [NewItem.Clean, named]
        rw [if_pos clean, jsonbItem, jsonb_string, if_pos named]
        rfl
    | some note =>
        by_cases noted : Clean note
        · have clean : NewItem.Clean { name, quantity, note := some note } := by
            simp [NewItem.Clean, named, noted]
          simp only [if_pos clean, jsonbItem, jsonb_string, if_pos named, Option.mapM_some,
            if_pos noted]
          rfl
        · have unclean : ¬ NewItem.Clean { name, quantity, note := some note } := by
            simp [NewItem.Clean, noted]
          simp only [if_neg unclean, jsonbItem, jsonb_string, if_pos named, Option.mapM_some,
            if_neg noted]
          rfl
  · have unclean : ¬ NewItem.Clean { name, quantity, note } := by
      simp [NewItem.Clean, named]
    rw [if_neg unclean, jsonbItem, jsonb_string, if_neg named]
    rfl

/-- A list of columns is taken when each of them is. -/
theorem mapM_columns {α β : Type} {column : α → Except Failure β} {taken : α → Prop}
    [DecidablePred taken] {stored : α → β} {failure : Failure}
    (each : ∀ value, column value = if taken value then .ok (stored value) else .error failure)
    (values : List α) : values.mapM column =
      if ∀ value ∈ values, taken value then .ok (values.map stored) else .error failure := by
  induction values with
  | nil => rfl
  | cons value rest ih =>
      rw [List.mapM_cons, each, ih]
      by_cases first : taken value
      · by_cases others : ∀ value ∈ rest, taken value
        · have all : ∀ other ∈ value :: rest, taken other := List.forall_mem_cons.mpr ⟨first, others⟩
          rw [if_pos first, if_pos others, if_pos all]
          rfl
        · have some : ¬ ∀ other ∈ value :: rest, taken other := fun all =>
            others (List.forall_mem_cons.mp all).2
          rw [if_pos first, if_neg others, if_neg some]
          rfl
      · have some : ¬ ∀ other ∈ value :: rest, taken other := fun all => first (all value (by simp))
        rw [if_neg first, if_neg some]
        rfl

structure NewOrder.Clean (input : NewOrder) : Prop where
  items : ∀ item ∈ input.items, item.Clean
  deliveryZone : Solid input.deliveryZone
  deliveryInstructions : Solid input.deliveryInstructions

def NewOrder.stored (input : NewOrder) : CreateOrderInput :=
  { supplierId := input.supplierId
    items := input.items.map NewItem.stored
    deliveryZone := storedText input.deliveryZone
    deliveryInstructions := storedText input.deliveryInstructions
    reward := input.reward }

theorem request_columns {input : NewOrder} (clean : input.Clean) :
    requestColumns input = .ok input.stored := by
  rw [requestColumns, mapM_columns jsonb_item, if_pos clean.items, text_column,
    if_pos clean.deliveryZone, text_column, if_pos clean.deliveryInstructions]
  rfl

theorem columns_clean {input : NewOrder} {request : CreateOrderInput}
    (taken : requestColumns input = .ok request) : input.Clean := by
  obtain ⟨items, read, taken⟩ := bind_ok taken
  obtain ⟨zone, zoned, taken⟩ := bind_ok taken
  obtain ⟨instructions, instructed, taken⟩ := bind_ok taken
  rw [mapM_columns jsonb_item] at read
  rw [text_column] at zoned instructed
  constructor
  · by_contra unclean
    rw [if_neg unclean] at read
    cases read
  · by_contra unclean
    rw [if_neg unclean] at zoned
    cases zoned
  · by_contra unclean
    rw [if_neg unclean] at instructed
    cases instructed

/-! ## What validation says of a body -/

/-- The bodies whose texts the database can hold. -/
structure StorableBody (body : Body) : Prop where
  items : ∀ list, body.at? "items" = some list → ∀ item ∈ list.items, ∀ name ∈ ["name", "note"],
    ∀ units, item.TextAt name units → Clean units
  deliveryZone : ∀ units, body.TextAt "deliveryZone" units → Solid units
  deliveryInstructions : ∀ units, body.TextAt "deliveryInstructions" units → Solid units

theorem solid_trim (units : Units) : Solid (Utf16.trim units) ↔ Solid units :=
  not_congr (mem_trim rfl units)

theorem clean_trim (units : Units) : Clean (Utf16.trim units) ↔ Clean units :=
  and_congr (well_formed_trim units) (solid_trim units)

theorem trimmed_some {most : Nat} {body : Body} {units : Units}
    (taken : trimmedSchema most body = some units) :
    ∃ raw, body = .string raw ∧ units = Utf16.trim raw ∧ 1 ≤ units.length ∧ units.length ≤ most := by
  cases body with
  | string raw =>
      rw [trimmedSchema] at taken
      split at taken
      · next within =>
        cases taken
        exact ⟨raw, rfl, rfl, within⟩
      · cases taken
  | null => cases taken
  | bool => cases taken
  | number => cases taken
  | array => cases taken
  | object => cases taken

/-- A required text: where it stands in the body, and its bounds. -/
theorem text_some {body : Body} {name : String} {most : Nat} {units : Units}
    (taken : (body.at? name).bind (trimmedSchema most) = some units) :
    ∃ raw, (∀ other, body.TextAt name other ↔ other = raw) ∧ units = Utf16.trim raw ∧
      1 ≤ units.length ∧ units.length ≤ most := by
  obtain ⟨field, at_, taken⟩ := Option.bind_eq_some_iff.mp taken
  obtain ⟨raw, rfl, trimmed, within⟩ := trimmed_some taken
  refine ⟨raw, ?_, trimmed, within⟩
  intro other
  simp only [Body.TextAt, at_, Option.bind_some, Body.text?, Option.some.injEq]
  exact eq_comm

theorem note_some {body : Body} {name : String} {most : Nat} {note : Option Units}
    (taken : optional (trimmedSchema most) (body.at? name) = some note) (fact : Units → Prop)
    (trims : ∀ units, fact (Utf16.trim units) ↔ fact units) :
    (∀ units ∈ note, fact units) ↔ ∀ units, body.TextAt name units → fact units := by
  cases at_ : body.at? name with
  | none =>
      rw [at_, optional] at taken
      cases taken
      simp [Body.TextAt, at_]
  | some field =>
      rw [at_, optional, Option.map_eq_some_iff] at taken
      obtain ⟨units, taken, rfl⟩ := taken
      obtain ⟨raw, rfl, rfl, -⟩ := trimmed_some taken
      simp [Body.TextAt, at_, Body.text?, trims]

theorem item_some {body : Body} {item : NewItem} (taken : itemSchema body = some item) :
    item.Clean ↔ ∀ name ∈ ["name", "note"], ∀ units, body.TextAt name units → Clean units := by
  rw [itemSchema] at taken
  split at taken
  · obtain ⟨name, named, taken⟩ := Option.bind_eq_some_iff.mp taken
    obtain ⟨quantity, -, taken⟩ := Option.bind_eq_some_iff.mp taken
    obtain ⟨note, noted, taken⟩ := Option.bind_eq_some_iff.mp taken
    cases taken
    obtain ⟨raw, at_, rfl, -⟩ := text_some named
    have notes := note_some noted Clean clean_trim
    simp only [NewItem.Clean, List.forall_mem_cons, List.not_mem_nil, false_implies, implies_true,
      and_true, notes, at_, forall_eq, clean_trim]
  · cases taken

theorem items_taken {bodies : List Body} {items : List NewItem}
    (taken : bodies.mapM itemSchema = some items) : items.length = bodies.length ∧
      ((∀ item ∈ items, item.Clean) ↔ ∀ body ∈ bodies, ∀ name ∈ ["name", "note"],
        ∀ units, body.TextAt name units → Clean units) := by
  induction bodies generalizing items with
  | nil =>
      cases taken
      simp
  | cons body rest ih =>
      rw [List.mapM_cons] at taken
      obtain ⟨item, first, taken⟩ := Option.bind_eq_some_iff.mp taken
      obtain ⟨others, later, taken⟩ := Option.bind_eq_some_iff.mp taken
      cases taken
      obtain ⟨length, clean⟩ := ih later
      refine ⟨by simp [length], ?_⟩
      rw [List.forall_mem_cons, List.forall_mem_cons, item_some first, clean]

/-- What validation promises of a body it accepts. -/
structure Accepted (body : Body) (input : NewOrder) : Prop where
  clean : input.Clean ↔ StorableBody body
  items : input.items ≠ []
  deliveryZone : 1 ≤ input.deliveryZone.length ∧ input.deliveryZone.length ≤ 200
  deliveryInstructions :
    1 ≤ input.deliveryInstructions.length ∧ input.deliveryInstructions.length ≤ 1000
  reward : 1 ≤ input.reward ∧ input.reward ≤ 5

theorem integer_some {least most : Int} {body : Body} {value : Int}
    (taken : integerSchema least most body = some value) : least ≤ value ∧ value ≤ most := by
  cases body with
  | number number =>
      have within := (Option.filter_eq_some_iff.mp taken).2
      simpa using within
  | null => cases taken
  | bool => cases taken
  | string => cases taken
  | array => cases taken
  | object => cases taken

theorem items_some {field : Body} {items : List NewItem} (taken : itemsSchema field = some items) :
    items ≠ [] ∧ ((∀ item ∈ items, item.Clean) ↔ ∀ item ∈ field.items, ∀ name ∈ ["name", "note"],
      ∀ units, item.TextAt name units → Clean units) := by
  cases field with
  | array bodies =>
      rw [itemsSchema] at taken
      split at taken
      · next within =>
        obtain ⟨length, clean⟩ := items_taken taken
        refine ⟨?_, clean⟩
        rintro rfl
        rw [← length] at within
        exact absurd within.1 (by decide)
      · cases taken
  | null => cases taken
  | bool => cases taken
  | number => cases taken
  | string => cases taken
  | object => cases taken

theorem accepted {body : Body} {input : NewOrder} (parsed : parseCreateOrder body = .ok input) :
    Accepted body input := by
  have taken : createOrderSchema body = some input := by
    rw [parseCreateOrder] at parsed
    split at parsed
    · next taken =>
      cases parsed
      exact taken
    · cases parsed
  rw [createOrderSchema] at taken
  split at taken
  · obtain ⟨supplierId, -, taken⟩ := Option.bind_eq_some_iff.mp taken
    obtain ⟨items, listed, taken⟩ := Option.bind_eq_some_iff.mp taken
    obtain ⟨zone, zoned, taken⟩ := Option.bind_eq_some_iff.mp taken
    obtain ⟨instructions, instructed, taken⟩ := Option.bind_eq_some_iff.mp taken
    obtain ⟨reward, rewarded, taken⟩ := Option.bind_eq_some_iff.mp taken
    cases taken
    obtain ⟨field, at_, listed⟩ := Option.bind_eq_some_iff.mp listed
    obtain ⟨some, cleanItems⟩ := items_some listed
    obtain ⟨rawZone, atZone, rfl, zoneBounds⟩ := text_some zoned
    obtain ⟨rawInstructions, atInstructions, rfl, instructionBounds⟩ := text_some instructed
    obtain ⟨rewardField, -, rewarded⟩ := Option.bind_eq_some_iff.mp rewarded
    refine ⟨⟨fun clean => ⟨?_, ?_, ?_⟩, fun storable => ⟨?_, ?_, ?_⟩⟩, some, zoneBounds,
      instructionBounds, integer_some rewarded⟩
    · intro list same
      rw [at_] at same
      cases same
      exact cleanItems.mp clean.items
    · intro units there
      rw [(atZone units).mp there]
      exact (solid_trim rawZone).mp clean.deliveryZone
    · intro units there
      rw [(atInstructions units).mp there]
      exact (solid_trim rawInstructions).mp clean.deliveryInstructions
    · exact cleanItems.mpr (storable.items field at_)
    · exact (solid_trim rawZone).mpr (storable.deliveryZone rawZone ((atZone rawZone).mpr rfl))
    · exact (solid_trim rawInstructions).mpr
        (storable.deliveryInstructions rawInstructions ((atInstructions rawInstructions).mpr rfl))
  · cases taken

/-! ## The rows -/

def pendingOf (around : Surroundings) (input : NewOrder) : CreatePendingInput :=
  { request := input.stored, requesterId := around.requesterId
    supplierSnapshot := around.supplierSnapshot, correlationId := around.correlationId }

theorem length_stored {units : Units} {most : Nat} (some : 1 ≤ units.length)
    (short : units.length ≤ most) : lengthBetween 1 most (storedText units) = true := by
  have counted : (storedText units).length = (text units).length := String.length_ofList
  have least : text units ≠ [] := by
    rw [Ne, text_eq_nil]
    rintro rfl
    exact absurd some (by decide)
  have positive := List.length_pos_iff.mpr least
  have most := length_text units
  simp only [lengthBetween, counted, Bool.and_eq_true, decide_eq_true_eq]
  omega

theorem texts_storable (around : Surroundings) {input : NewOrder} (clean : input.Clean) :
    (inputTexts (pendingOf around input)).all storable = true := by
  rw [inputTexts, List.all_append, Bool.and_eq_true]
  constructor
  · have given := around.texts
    have zone := (storable_text _).mpr clean.deliveryZone
    have instructions := (storable_text _).mpr clean.deliveryInstructions
    simp only [List.all_cons, List.all_nil, Bool.and_true, Bool.and_eq_true] at given ⊢
    simp [pendingOf, NewOrder.stored, given, zone, instructions]
  · rw [List.all_eq_true]
    intro stored listed
    obtain ⟨item, among, within⟩ := List.mem_flatMap.mp listed
    obtain ⟨new, given, rfl⟩ := List.mem_map.mp among
    have cleans := clean.items new given
    rcases List.mem_cons.mp within with rfl | note
    · exact (storable_text _).mpr cleans.1.2
    · obtain ⟨units, noted, rfl⟩ := Option.mem_map.mp (Option.mem_toList.mp note)
      exact (storable_text _).mpr (cleans.2 units noted).2

theorem pending_checked (around : Surroundings) {body : Body} {input : NewOrder}
    (holds : Accepted body input) (orderId : Uuid) (now : Millis) :
    storeOrder (pendingRow (pendingOf around input) orderId now) =
      .ok (pendingRow (pendingOf around input) orderId now) := by
  have zone := length_stored holds.deliveryZone.1 holds.deliveryZone.2
  have instructions := length_stored holds.deliveryInstructions.1 holds.deliveryInstructions.2
  have reward := holds.reward
  have fits : fitsInteger input.reward = true := by
    simp only [fitsInteger, Bool.and_eq_true, decide_eq_true_eq]
    omega
  have checks : (pendingRow (pendingOf around input) orderId now).checks = true := by
    simp [StoredOrder.checks, pendingRow, pendingOf, NewOrder.stored, zone, instructions, reward,
      holds.items, needsCourier, released]
  have version : fitsInteger 1 = true := by decide
  have fitting : (fitsInteger (pendingRow (pendingOf around input) orderId now).version &&
      fitsInteger (pendingRow (pendingOf around input) orderId now).reward &&
      (pendingRow (pendingOf around input) orderId now).availableAtRejection.all fitsInteger) =
        true := by
    simp [pendingRow, pendingOf, NewOrder.stored, fits, version]
  rw [storeOrder, fitting, if_pos checks]
  rfl

theorem pending_created (around : Surroundings) {body : Body} {input : NewOrder}
    (holds : Accepted body input) (clean : input.Clean) (orderId : Uuid) (now : Millis) :
    ∃ change, createPending (pendingOf around input) orderId now = .ok change := by
  have texts := texts_storable around clean
  have actor : historyRow (creationHistory (pendingOf around input) now) =
      .ok (creationHistory (pendingOf around input) now) := by
    have requester : storable around.requesterId = true := by
      have given := around.texts
      rw [List.all_cons, Bool.and_eq_true] at given
      exact given.1
    simp [historyRow, creationHistory, pendingOf, requester]
  have events : (creationEvents (pendingOf around input) orderId now).mapM outboxRow =
      .ok (creationEvents (pendingOf around input) orderId now) := by
    have reward := holds.reward
    have amount : positiveInt input.reward = true := by
      simp only [positiveInt, Bool.and_eq_true, decide_eq_true_eq]
      omega
    have version : positiveInt 1 = true := by decide
    simp [creationEvents, outboxRow, Payload.valid, pendingOf, NewOrder.stored, around.named, amount,
      version]
    rfl
  rw [createPending, texts, pending_checked around holds, actor, events]
  exact ⟨_, rfl⟩

theorem solid_append (first second : Units) :
    Solid (first ++ second) ↔ Solid first ∧ Solid second := by
  simp [Solid]

theorem lock_solid (around : Surroundings) (idempotencyKey : Units) :
    Solid (ofText around.requesterId.toList ++ keyName ":" ++ idempotencyKey) ↔
      Solid idempotencyKey := by
  have requester : Solid (ofText around.requesterId.toList) := by
    have given := around.texts
    rw [List.all_cons, Bool.and_eq_true] at given
    rw [← storable_text, storedText, text_of_text, String.ofList_toList]
    exact given.1
  have colon : Solid (keyName ":") := by decide
  simp [solid_append, requester, colon]

def surroundingsOne : Surroundings :=
  { requesterId := "u1"
    supplierSnapshot :=
      { supplierId := 0x11111111111141118111111111111111
        name := "Deck"
        type := "canteen"
        building := "AS8"
        floor := "1"
        locationDescription := "by the lift" }
    correlationId := "c1"
    named := by decide
    texts := by decide }

def bodyWith (item deliveryZone : Units) : Body :=
  .object
    [ (keyName "supplierId", .string (keyName "11111111-1111-4111-8111-111111111111")),
      (keyName "items", .array
        [.object [(keyName "name", .string item), (keyName "quantity", .number (.ofInt 1))]]),
      (keyName "deliveryZone", .string deliveryZone),
      (keyName "deliveryInstructions", .string (keyName "lobby")),
      (keyName "reward", .number (.ofInt 2)) ]

def inputWith (item deliveryZone : Units) : NewOrder :=
  { supplierId := 0x11111111111141118111111111111111
    items := [{ name := item, quantity := 1, note := none }]
    deliveryZone
    deliveryInstructions := keyName "lobby"
    reward := 2 }

theorem body_one_parsed : parseCreateOrder (bodyWith (keyName "kopi") (keyName "COM1")) =
    .ok (inputWith (keyName "kopi") (keyName "COM1")) := by
  decide +kernel

end Foc.Order
