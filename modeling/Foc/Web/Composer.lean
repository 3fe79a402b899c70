import Mathlib
import Foc.Order.Creation

/-!
The request composer (`lib/composer.ts`) before the Order Service's schema. The form checks
a draft as it is typed, the server the request made of it, trimmed and without empty notes:
two validators that have to agree.
-/
namespace Foc.Web.Composer
open Library Library.Utf16 Foc.Order

def REWARD_MIN : Int := 1

def REWARD_MAX : Int := 5

structure DraftItem where
  name : Units
  quantity : Double
  note : Units
  deriving DecidableEq

/-- What the form holds of an errand. -/
structure Draft where
  supplierId : Units
  items : List DraftItem
  deliveryZone : Units
  deliveryInstructions : Units
  reward : Double
  deriving DecidableEq

inductive ItemField where
  | name
  | quantity
  | note
  deriving DecidableEq, Repr

inductive DraftField where
  | supplierId
  | items
  | item (index : Nat) (field : ItemField)
  | deliveryZone
  | deliveryInstructions
  | reward
  deriving DecidableEq, Repr

/-- The fields that have an error, with its text. -/
abbrev DraftErrors := List (DraftField × String)

structure OrderItem where
  name : Units
  quantity : Double
  note : Option Units
  deriving DecidableEq

/-- The body of a request. -/
structure CreateOrder where
  supplierId : Units
  items : List OrderItem
  deliveryZone : Units
  deliveryInstructions : Units
  reward : Double
  deriving DecidableEq

def toOrderItem (item : DraftItem) : OrderItem :=
  { name := Utf16.trim item.name, quantity := item.quantity
    note := if Utf16.trim item.note = [] then none else some (Utf16.trim item.note) }

def toCreateOrder (draft : Draft) : CreateOrder :=
  { supplierId := draft.supplierId
    items := draft.items.map toOrderItem
    deliveryZone := Utf16.trim draft.deliveryZone
    deliveryInstructions := Utf16.trim draft.deliveryInstructions
    reward := draft.reward }

/-- A required text: what is said when nothing is left of it, and its bound. -/
def textErrors (field : DraftField) (missing : String) (most : Nat) (units : Units) : DraftErrors :=
  if Utf16.trim units = [] then [(field, missing)]
  else if most < (Utf16.trim units).length then [(field, s!"Use at most {most} characters.")]
  else []

/-- `!Number.isInteger(number) || number < least || number > most`. -/
def outside (least most : Int) (number : Double) : Bool :=
  match number.whole with
  | none => true
  | some value => decide (value < least ∨ most < value)

def itemErrors (entry : DraftItem × Nat) : DraftErrors :=
  let (item, index) := entry
  textErrors (.item index .name) "Enter what to get." 200 item.name ++
    (if outside 1 100 item.quantity then
      [(.item index .quantity, "Enter a quantity from 1 to 100.")] else []) ++
    if 500 < (Utf16.trim item.note).length then [(.item index .note, "Use at most 500 characters.")] else []

def validateDraft (draft : Draft) : DraftErrors :=
  (if draft.items.length = 0 then [(.items, "Add at least one item.")]
    else if 50 < draft.items.length then [(.items, "Add at most 50 items.")] else []) ++
  draft.items.zipIdx.flatMap itemErrors ++
  textErrors .deliveryZone "Enter where the errand should be delivered." 200 draft.deliveryZone ++
  textErrors .deliveryInstructions "Tell the courier how to hand the items over." 1000
    draft.deliveryInstructions ++
  if outside REWARD_MIN REWARD_MAX draft.reward then
    [(.reward, s!"Offer between {REWARD_MIN} and {REWARD_MAX} credits.")] else []

/-! ## The server's side -/

/-- The request as the value that is parsed. -/
def OrderItem.body (item : OrderItem) : Body :=
  .object ([(keyName "name", .string item.name), (keyName "quantity", .number item.quantity)] ++
    item.note.toList.map fun note => (keyName "note", .string note))

def CreateOrder.body (order : CreateOrder) : Body :=
  .object [(keyName "supplierId", .string order.supplierId),
    (keyName "items", .array (order.items.map OrderItem.body)),
    (keyName "deliveryZone", .string order.deliveryZone),
    (keyName "deliveryInstructions", .string order.deliveryInstructions),
    (keyName "reward", .number order.reward)]

def parsedItem (item : NewItem) : OrderItem :=
  { name := item.name, quantity := .ofInt item.quantity, note := item.note }

/-- `result.data`. zod gives the id back in the text it came in. -/
def parseCreateOrder (value : Body) : Except ApiException CreateOrder := do
  let input ← Order.parseCreateOrder value
  return { supplierId := ((value.at? "supplierId").bind Body.text?).getD []
           items := input.items.map parsedItem
           deliveryZone := input.deliveryZone
           deliveryInstructions := input.deliveryInstructions
           reward := .ofInt input.reward }

/-! ## One field -/

theorem trim_trim (units : Units) : Utf16.trim (Utf16.trim units) = Utf16.trim units := by
  have kept : (Utf16.trim units).dropWhile white = Utf16.trim units := by
    rw [List.dropWhile_eq_self_iff]
    intro some
    -- what is left begins as the text without its leading blanks does
    have begins : Utf16.trim units <+: units.dropWhile white := List.rdropWhile_prefix white _
    have longer := some.trans_le begins.length_le
    have first : (units.dropWhile white)[0] = (Utf16.trim units)[0] := (begins.getElem some).symm
    rw [← first]
    exact List.dropWhile_get_zero_not white units longer
  rw [Utf16.trim, kept]
  exact List.rdropWhile_idempotent white _

/-- Something is left, and no more than the bound. -/
def Fits (most : Nat) (units : Units) : Prop := Utf16.trim units ≠ [] ∧ (Utf16.trim units).length ≤ most

instance (most : Nat) (units : Units) : Decidable (Fits most units) :=
  inferInstanceAs (Decidable (_ ∧ _))

theorem text_errors (field : DraftField) (missing : String) (most : Nat) (units : Units) :
    textErrors field missing most units = [] ↔ Fits most units := by
  unfold textErrors Fits
  by_cases none_ : Utf16.trim units = []
  · simp [none_]
  · by_cases long : most < (Utf16.trim units).length
    · simp [none_, long]
    · simp [none_, long, Nat.le_of_not_lt long]

/-- The server trims what has been trimmed. -/
theorem trimmed_schema (most : Nat) (units : Units) :
    trimmedSchema most (.string (Utf16.trim units)) =
      if Fits most units then some (Utf16.trim units) else none := by
  have some : Utf16.trim units ≠ [] ↔ 1 ≤ (Utf16.trim units).length := by
    rw [Nat.one_le_iff_ne_zero, Ne, Ne, List.length_eq_zero_iff]
  simp only [trimmedSchema, trim_trim, Fits, some]

theorem integer_schema (least most : Int) (number : Double) :
    (integerSchema least most (.number number)).map Double.ofInt =
      if outside least most number = true then none else some number := by
  cases read : number.whole with
  | none => simp [integerSchema, outside, read]
  | some value =>
    rw [integerSchema, outside, read, Double.whole_some.mp read]
    by_cases within : least ≤ value ∧ value ≤ most
    · have inside : ¬ (value < least ∨ most < value) := by omega
      rw [Option.filter_some, if_pos (decide_eq_true within)]
      simp [inside]
    · have beyond : value < least ∨ most < value := by omega
      rw [Option.filter_some, if_neg (by simpa using within)]
      simp [beyond]

/-! ## One item -/

structure DraftItem.Fine (item : DraftItem) : Prop where
  name : Fits 200 item.name
  quantity : outside 1 100 item.quantity = false
  note : (Utf16.trim item.note).length ≤ 500

theorem item_errors (item : DraftItem) (index : Nat) : itemErrors (item, index) = [] ↔ item.Fine := by
  constructor
  · intro none_
    simp only [itemErrors, List.append_eq_nil_iff, text_errors] at none_
    obtain ⟨⟨name, quantity⟩, note⟩ := none_
    exact ⟨name, by simpa using quantity, by simpa using note⟩
  · intro fine
    simp only [itemErrors, List.append_eq_nil_iff, text_errors]
    exact ⟨⟨fine.name, by simp [fine.quantity]⟩, by simpa using fine.note⟩

/-- An empty note is not sent, so one of blanks is no error on either side. -/
theorem note_schema (item : DraftItem) :
    Order.optional (trimmedSchema 500) ((toOrderItem item).body.at? "note") =
      if (Utf16.trim item.note).length ≤ 500 then some (toOrderItem item).note else none := by
  by_cases none_ : Utf16.trim item.note = []
  · have absent : (toOrderItem item).body.at? "note" = none := by
      rw [toOrderItem, if_pos none_]
      rfl
    rw [absent, toOrderItem, if_pos none_]
    simp [none_, Order.optional]
  · have given : (toOrderItem item).body.at? "note" = some (.string (Utf16.trim item.note)) := by
      rw [toOrderItem, if_neg none_]
      rfl
    rw [given, Order.optional, trimmed_schema, toOrderItem, if_neg none_]
    by_cases short : (Utf16.trim item.note).length ≤ 500
    · simp [Fits, none_, short]
    · simp [Fits, short]

instance (item : DraftItem) : Decidable item.Fine :=
  decidable_of_iff (itemErrors (item, 0) = []) (item_errors item 0)

theorem item_strict (item : OrderItem) :
    item.body.strict ["name", "quantity", "note"] = true := by
  obtain ⟨name, quantity, note⟩ := item
  cases note with
  | none => rfl
  | some note => rfl

theorem item_schema (item : DraftItem) : (itemSchema (toOrderItem item).body).map parsedItem =
    if item.Fine then some (toOrderItem item) else none := by
  have named : ((toOrderItem item).body.at? "name").bind (trimmedSchema 200) =
      if Fits 200 item.name then some (Utf16.trim item.name) else none := trimmed_schema 200 item.name
  have counted : (toOrderItem item).body.at? "quantity" = some (.number item.quantity) := rfl
  have quantity := integer_schema 1 100 item.quantity
  rw [itemSchema, if_pos (item_strict _), named, counted, note_schema]
  by_cases fine : item.Fine
  · rw [fine.quantity, if_neg Bool.false_ne_true, Option.map_eq_some_iff] at quantity
    obtain ⟨value, taken, same⟩ := quantity
    rw [if_pos fine.name, if_pos fine.note, if_pos fine]
    simp [taken, parsedItem, same]
    rfl
  · rw [if_neg fine]
    by_cases name : Fits 200 item.name
    · cases count : outside 1 100 item.quantity with
      | true =>
        rw [count, if_pos rfl, Option.map_eq_none_iff] at quantity
        simp [quantity]
      | false =>
        have long : ¬ (Utf16.trim item.note).length ≤ 500 := fun note => fine ⟨name, count, note⟩
        simp [long]
    · simp [name]

theorem items_schema (items : List DraftItem) :
    ((items.map fun item => (toOrderItem item).body).mapM itemSchema).map (List.map parsedItem) =
      if ∀ item ∈ items, item.Fine then some (items.map toOrderItem) else none := by
  induction items with
  | nil => rfl
  | cons item rest ih =>
    have first := item_schema item
    rw [List.map_cons, List.mapM_cons]
    by_cases fine : item.Fine
    · rw [if_pos fine, Option.map_eq_some_iff] at first
      obtain ⟨one, taken, same⟩ := first
      rw [taken]
      by_cases others : ∀ other ∈ rest, other.Fine
      · rw [if_pos others, Option.map_eq_some_iff] at ih
        obtain ⟨some, read, listed⟩ := ih
        rw [if_pos (List.forall_mem_cons.mpr ⟨fine, others⟩)]
        simp [read, listed, same]
      · rw [if_neg others, Option.map_eq_none_iff] at ih
        rw [if_neg fun all => others (List.forall_mem_cons.mp all).2]
        simp [ih]
    · rw [if_neg fine, Option.map_eq_none_iff] at first
      rw [if_neg fun all => fine (List.forall_mem_cons.mp all).1]
      simp [first]

/-! ## The whole draft -/

structure Draft.Fine (draft : Draft) : Prop where
  some : 1 ≤ draft.items.length ∧ draft.items.length ≤ 50
  items : ∀ item ∈ draft.items, item.Fine
  deliveryZone : Fits 200 draft.deliveryZone
  deliveryInstructions : Fits 1000 draft.deliveryInstructions
  reward : outside REWARD_MIN REWARD_MAX draft.reward = false

theorem validate_draft (draft : Draft) : validateDraft draft = [] ↔ draft.Fine := by
  have count : (if draft.items.length = 0 then [(DraftField.items, "Add at least one item.")]
      else if 50 < draft.items.length then [(.items, "Add at most 50 items.")] else []) = [] ↔
        1 ≤ draft.items.length ∧ draft.items.length ≤ 50 := by
    split
    · simp; omega
    · split
      · simp; omega
      · simp; omega
  have each : draft.items.zipIdx.flatMap itemErrors = [] ↔ ∀ item ∈ draft.items, item.Fine := by
    rw [List.flatMap_eq_nil_iff]
    constructor
    · intro none_ item listed
      obtain ⟨index, at_, rfl⟩ := List.mem_iff_getElem.mp listed
      have entry : (draft.items[index], index) ∈ draft.items.zipIdx :=
        List.mk_mem_zipIdx_iff_getElem?.mpr (by simp)
      exact (item_errors _ index).mp (none_ _ entry)
    · rintro fine ⟨item, index⟩ listed
      exact (item_errors item index).mpr (fine item (List.fst_mem_of_mem_zipIdx listed))
  simp only [validateDraft, List.append_eq_nil_iff, count, each, text_errors]
  constructor
  · rintro ⟨⟨⟨⟨some, items⟩, zone⟩, instructions⟩, reward⟩
    exact ⟨some, items, zone, instructions, by simpa using reward⟩
  · intro fine
    exact ⟨⟨⟨⟨fine.some, fine.items⟩, fine.deliveryZone⟩, fine.deliveryInstructions⟩,
      by simp [fine.reward]⟩

section Request

variable (draft : Draft)

theorem request_strict : (toCreateOrder draft).body.strict
    ["supplierId", "items", "deliveryZone", "deliveryInstructions", "reward"] = true := rfl

/-- The fields of a request that its body gives the schema. -/
theorem request_fields :
    ((toCreateOrder draft).body.at? "supplierId").bind bodyUuidSchema =
        UuidText.scanUuid (text draft.supplierId) ∧
      ((toCreateOrder draft).body.at? "items").bind itemsSchema =
        (if 1 ≤ draft.items.length ∧ draft.items.length ≤ 50 then
          (draft.items.map fun item => (toOrderItem item).body).mapM itemSchema else none) ∧
      ((toCreateOrder draft).body.at? "deliveryZone").bind (trimmedSchema 200) =
        (if Fits 200 draft.deliveryZone then some (Utf16.trim draft.deliveryZone) else none) ∧
      ((toCreateOrder draft).body.at? "deliveryInstructions").bind (trimmedSchema 1000) =
        (if Fits 1000 draft.deliveryInstructions then some (Utf16.trim draft.deliveryInstructions)
          else none) ∧
      ((toCreateOrder draft).body.at? "reward").bind (integerSchema REWARD_MIN REWARD_MAX) =
        integerSchema REWARD_MIN REWARD_MAX (.number draft.reward) := by
  refine ⟨rfl, ?_, trimmed_schema _ _, trimmed_schema _ _, rfl⟩
  have listed : (toCreateOrder draft).body.at? "items" =
      some (.array ((draft.items.map toOrderItem).map OrderItem.body)) := rfl
  rw [listed, Option.bind_some, itemsSchema, List.length_map, List.length_map, List.map_map]
  rfl

/-- What the form has no error in is taken, and read as it was sent. -/
theorem fine_parsed (id : Uuid) (known : UuidText.scanUuid (text draft.supplierId) = some id)
    (fine : draft.Fine) :
    parseCreateOrder (toCreateOrder draft).body = .ok (toCreateOrder draft) := by
  obtain ⟨named, listed, zone, instructions, offered⟩ := request_fields draft
  have items := items_schema draft.items
  rw [if_pos fine.items, Option.map_eq_some_iff] at items
  obtain ⟨parsed, read, items⟩ := items
  have reward := integer_schema REWARD_MIN REWARD_MAX draft.reward
  rw [fine.reward, if_neg Bool.false_ne_true, Option.map_eq_some_iff] at reward
  obtain ⟨value, taken, reward⟩ := reward
  rw [if_pos fine.some, read] at listed
  rw [if_pos fine.deliveryZone] at zone
  rw [if_pos fine.deliveryInstructions] at instructions
  rw [taken] at offered
  have schema : createOrderSchema (toCreateOrder draft).body =
      some { supplierId := id, items := parsed, deliveryZone := Utf16.trim draft.deliveryZone
             deliveryInstructions := Utf16.trim draft.deliveryInstructions, reward := value } := by
    rw [createOrderSchema, if_pos (request_strict draft), named, known, listed, zone, instructions]
    exact congrArg (fun read => read.bind fun reward => some (NewOrder.mk id parsed
      (Utf16.trim draft.deliveryZone) (Utf16.trim draft.deliveryInstructions) reward)) offered
  rw [parseCreateOrder, Order.parseCreateOrder, schema]
  simp only [toCreateOrder, ← items, ← reward]
  rfl

theorem parsed_fine (input : CreateOrder)
    (parsed : parseCreateOrder (toCreateOrder draft).body = .ok input) : draft.Fine := by
  obtain ⟨-, listed, zone, instructions, offered⟩ := request_fields draft
  have items := items_schema draft.items
  have reward := integer_schema REWARD_MIN REWARD_MAX draft.reward
  cases schema : createOrderSchema (toCreateOrder draft).body with
  | none =>
    rw [parseCreateOrder, Order.parseCreateOrder, schema] at parsed
    cases parsed
  | some order =>
    rw [createOrderSchema, if_pos (request_strict draft)] at schema
    obtain ⟨id, -, schema⟩ := Option.bind_eq_some_iff.mp schema
    obtain ⟨list, given, schema⟩ := Option.bind_eq_some_iff.mp schema
    obtain ⟨toZone, zoned, schema⟩ := Option.bind_eq_some_iff.mp schema
    obtain ⟨told, instructed, schema⟩ := Option.bind_eq_some_iff.mp schema
    obtain ⟨amount, rewarded, -⟩ := Option.bind_eq_some_iff.mp schema
    rw [listed] at given
    rw [zone] at zoned
    rw [instructions] at instructed
    have some := (Option.ite_none_right_eq_some.mp given).1
    have read := (Option.ite_none_right_eq_some.mp given).2
    rw [read] at items
    rw [offered.symm.trans rewarded] at reward
    refine ⟨some, ?_, (Option.ite_none_right_eq_some.mp zoned).1,
      (Option.ite_none_right_eq_some.mp instructed).1, ?_⟩
    · by_contra bad
      rw [if_neg bad] at items
      cases items
    · cases out : outside REWARD_MIN REWARD_MAX draft.reward with
      | false => rfl
      | true =>
        rw [out] at reward
        cases reward

end Request

/-- A coffee, with blanks around its name and nothing else in its note. -/
def coffee : Draft :=
  { supplierId := ofText (UuidText.uuidText (4 * 2 ^ 76 + 8 * 2 ^ 60))
    items := [{ name := keyName " Coffee ", quantity := .finite 1, note := keyName "  " }]
    deliveryZone := keyName "PGP"
    deliveryInstructions := keyName "At the door"
    reward := .finite 2 }

end Foc.Web.Composer
