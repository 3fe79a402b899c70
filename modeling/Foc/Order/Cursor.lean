import Foc.Library.Calendar
import Foc.Library.OpaqueText
import Foc.Library.UuidText
import Foc.Order.Types

/-!
Page cursors of the two lists (`orders/cursor.ts`, the schemas of
`orders/validation.ts`, and `exactTime` of `orders.repository.ts`): the sort keys of
a page's last row, as PostgreSQL writes them. zod's `iso.datetime` and `uuid` take a
time in UTC with a four-digit year and a UUID of a known version.
-/
namespace Foc.Order
open Library Library.Calendar Library.UuidText Library.OpaqueText Library.JsonText

structure ApiException where
  status : Nat
  code : String
  message : String
  deriving DecidableEq, Repr

def invalidCursor : ApiException :=
  { status := 400, code := "INVALID_CURSOR", message := "The page cursor is invalid." }

structure OpenCursor where
  deadline : String
  createdAt : String
  orderId : String
  deriving DecidableEq, Repr

structure MineCursor where
  updatedAt : String
  orderId : String
  deriving DecidableEq, Repr

def OpenCursor.entries (cursor : OpenCursor) : List (String × String) :=
  [("deadline", cursor.deadline), ("createdAt", cursor.createdAt), ("orderId", cursor.orderId)]

def MineCursor.entries (cursor : MineCursor) : List (String × String) :=
  [("updatedAt", cursor.updatedAt), ("orderId", cursor.orderId)]

def encodeCursor (keys : List (String × String)) : String := encode keys

/-- The text of a timestamp, to the microsecond. -/
def exactTime (time : Micros) : String := String.ofList (isoMicros (ofMicros time))

def idText (id : Uuid) : String := String.ofList (uuidText id)

/-! ## Schemas -/

/-- The schema of a cursor's time: the format allows year 0000, which is refused here. -/
def exactTimeSchema (text : String) : Bool :=
  (scanMoment text.toList).isSome && !"0000-".toList.isPrefixOf text.toList

def uuidSchema (text : String) : Bool := (scanUuid text.toList).isSome

/-- A strict object has no member but the named ones. -/
def strict (names : List String) : Parsed → Option (List (String × Option String))
  | .object members =>
      if members.all fun entry => decide (entry.1 ∈ names) then some members else none
  | _ => none

/-- A member that its schema takes. -/
def field (members : List (String × Option String)) (name : String) (schema : String → Bool) :
    Option String :=
  (member members name).filter schema

def openCursorSchema (value : Parsed) : Option OpenCursor := do
  let members ← strict ["deadline", "createdAt", "orderId"] value
  let deadline ← field members "deadline" exactTimeSchema
  let createdAt ← field members "createdAt" exactTimeSchema
  let orderId ← field members "orderId" uuidSchema
  return { deadline, createdAt, orderId }

def mineCursorSchema (value : Parsed) : Option MineCursor := do
  let members ← strict ["updatedAt", "orderId"] value
  let updatedAt ← field members "updatedAt" exactTimeSchema
  let orderId ← field members "orderId" uuidSchema
  return { updatedAt, orderId }

/-- The length of a text in UTF-16 units. -/
def utf16Length (text : String) : Nat :=
  (text.toList.map fun char => if char.toNat < 65536 then 1 else 2).sum

def decodeCursor {T : Type} (schema : Parsed → Option T) :
    Option String → Except ApiException (Option T)
  | none => .ok none
  | some value =>
      if value = "" ∨ 500 < utf16Length value then .error invalidCursor
      else
        match (decode value).bind schema with
        | some cursor => .ok (some cursor)
        | none => .error invalidCursor

/-! ## What is read of an issued cursor -/

/-- A time in the years 1 to 9999. -/
def Dated (time : Micros) : Prop :=
  1 ≤ (ofMicros time).day.year ∧ (ofMicros time).day.year ≤ 9999

/-- What PostgreSQL reads in a text it casts to `timestamptz`. -/
def timestamptz (text : String) : Option Micros := (scanMoment text.toList).map Calendar.toMicros

/-- What it reads in a text it casts to `uuid`. -/
def uuid (text : String) : Option Uuid := scanUuid text.toList

theorem read_exact {time : Micros} (dated : Dated time) : timestamptz (exactTime time) = some time := by
  have regular := of_micros_regular ⟨Int.le_trans (by decide) dated.1, dated.2⟩
  rw [timestamptz, exactTime, String.toList_ofList, scan_micros regular dated.1, Option.map_some,
    to_micros_of_micros]

theorem read_id {id : Uuid} (versioned : Versioned id) : uuid (idText id) = some id := by
  rw [uuid, idText, String.toList_ofList, scan_uuid versioned]

/-! ## Texts of a cursor -/

theorem decimal_plain {width number : Nat} : ∀ char ∈ Digits.fixed 10 width number, plain char = true := by
  have digits : ∀ digit < 10, plain (Nat.digitChar digit) = true := by decide
  exact Digits.fixed_all (by decide) digits width number

theorem hex_plain {width number : Nat} : ∀ char ∈ Digits.fixed 16 width number, plain char = true := by
  have digits : ∀ digit < 16, plain (Nat.digitChar digit) = true := by decide
  exact Digits.fixed_all (by decide) digits width number

theorem exact_text {time : Micros} (dated : Dated time) : exactTime time = String.ofList
    (isoWith (Digits.fixed 10 4 (ofMicros time).day.year.toNat)
      (Digits.fixed 10 6 (ofMicros time).micro) (ofMicros time)) := by
  obtain ⟨low, high⟩ := dated
  rw [exactTime, isoMicros, Digits.padded, if_neg (by omega : ¬ (ofMicros time).day.year ≤ 0),
    if_pos (by omega)]

theorem exact_plain {time : Micros} (dated : Dated time) : Plain (exactTime time) := by
  rw [Plain, exact_text dated, String.toList_ofList]
  simp only [isoWith, List.forall_mem_append, List.forall_mem_cons]
  refine ⟨decimal_plain, by decide, decimal_plain, by decide, decimal_plain, by decide,
    decimal_plain, by decide, decimal_plain, by decide, decimal_plain, by decide, decimal_plain, ?_⟩
  exact ⟨by decide, List.forall_mem_nil _⟩

theorem exact_length {time : Micros} (dated : Dated time) : (exactTime time).length = 27 := by
  rw [exact_text dated, String.length_ofList]
  simp [isoWith, Digits.length_fixed]

theorem id_plain (id : Uuid) : Plain (idText id) := by
  rw [Plain, idText, String.toList_ofList, uuidText]
  simp only [List.forall_mem_append, List.forall_mem_cons]
  exact ⟨hex_plain, by decide, hex_plain, by decide, hex_plain, by decide, hex_plain, by decide,
    hex_plain⟩

theorem id_length (id : Uuid) : (idText id).length = 36 := by
  rw [idText, String.length_ofList]
  simp [uuidText, Digits.length_fixed]

theorem exact_taken {time : Micros} (dated : Dated time) : exactTimeSchema (exactTime time) = true := by
  have regular := of_micros_regular ⟨Int.le_trans (by decide) dated.1, dated.2⟩
  have scanned : scanMoment (exactTime time).toList = some (ofMicros time) := by
    rw [exactTime, String.toList_ofList, scan_micros regular dated.1]
  have later : "0000-".toList.isPrefixOf (exactTime time).toList = false := by
    rw [Bool.eq_false_iff]
    intro starts
    obtain ⟨rest, is⟩ := List.isPrefixOf_iff_prefix.mp starts
    rw [← is] at scanned
    have zero := scan_zero scanned
    have low := dated.1
    omega
  rw [exactTimeSchema, scanned, later]
  rfl

theorem id_taken {id : Uuid} (versioned : Versioned id) : uuidSchema (idText id) = true := by
  rw [uuidSchema, idText, String.toList_ofList, scan_uuid versioned]
  rfl

theorem utf16_ascii {chars : List Char} (ascii : ∀ char ∈ chars, char.toNat < 128) :
    (chars.map fun char => if char.toNat < 65536 then 1 else 2).sum = chars.length := by
  induction chars with
  | nil => rfl
  | cons char rest ih =>
      rw [List.forall_mem_cons] at ascii
      have narrow : char.toNat < 65536 := ascii.1.trans (by decide)
      simp only [List.map_cons, List.sum_cons, if_pos narrow, ih ascii.2, List.length_cons]
      omega

/-- What `decodeCursor` makes of what `encodeCursor` makes of keys. -/
theorem decode_issued {T : Type} {schema : Parsed → Option T} (entry : String × String)
    (entries : List (String × String)) (cursor : T)
    (plains : ∀ entry' ∈ entry :: entries, Plain entry'.1 ∧ Plain entry'.2)
    (short : ((entry :: entries).map fun entry => entry.1.length + entry.2.length + 6).sum ≤ 370)
    (takes : schema (.object ((entry :: entries).map fun entry => (entry.1, some entry.2))) =
      some cursor) :
    decodeCursor schema (some (encodeCursor (entry :: entries))) = .ok (some cursor) := by
  have ascii : ∀ char ∈ (encodeCursor (entry :: entries)).toList, char.toNat < 128 := by
    rw [encodeCursor, encode, String.toList_ofList]
    exact Base64.encode_ascii _
  have units : utf16Length (encodeCursor (entry :: entries)) =
      (encodeCursor (entry :: entries)).length := by
    rw [utf16Length, ← String.length_toList]
    exact utf16_ascii ascii
  have some_ : encodeCursor (entry :: entries) ≠ "" := by
    intro empty
    have read := decode_encode entry entries plains
    have is : encode (entry :: entries) = "" := empty
    rw [is] at read
    cases read
  have long := length_encode plains
  rw [decodeCursor, if_neg]
  · rw [encodeCursor, decode_encode entry entries plains, Option.bind_some, takes]
  · rw [not_or]
    refine ⟨some_, ?_⟩
    rw [units]
    have is : encodeCursor (entry :: entries) = encode (entry :: entries) := rfl
    rw [is]
    omega

end Foc.Order
