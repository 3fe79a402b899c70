import Foc.Library.Base64
import Foc.Library.JsonText

/-!
Objects of strings as opaque texts: the object as JSON, its UTF-8 bytes in base64url.
Reading one back, a byte beyond ASCII stands for U+FFFD, which no text here has.
-/
namespace Foc.Library.OpaqueText
open JsonText

def utf8 (text : List Char) : List UInt8 := text.flatMap String.utf8EncodeChar

def fromUtf8 (bytes : List UInt8) : List Char :=
  bytes.map fun byte => if byte.toNat < 128 then Char.ofNat byte.toNat else '\uFFFD'

def encode (entries : List (String × String)) : String :=
  String.ofList (Base64.encode (utf8 (Json.text (.object (written entries)))))

def decode (value : String) : Option Parsed :=
  parse (fromUtf8 (Base64.decode value.toList))

theorem utf8_ascii {char : Char} (ascii : char.toNat < 128) :
    String.utf8EncodeChar char = [char.val.toUInt8] := by
  apply String.utf8EncodeChar_eq_singleton
  rw [Char.utf8Size]
  apply if_pos
  rw [UInt32.le_iff_toNat_le]
  have small : char.val.toNat < 128 := ascii
  simp
  omega

theorem from_utf8 {text : List Char} (ascii : ∀ char ∈ text, char.toNat < 128) :
    fromUtf8 (utf8 text) = text := by
  induction text with
  | nil => rfl
  | cons char rest ih =>
      rw [List.forall_mem_cons] at ascii
      have bytes : utf8 (char :: rest) = char.val.toUInt8 :: utf8 rest := by
        rw [utf8, List.flatMap_cons, utf8_ascii ascii.1]
        rfl
      have value : char.val.toUInt8.toNat = char.toNat := by
        have small : char.val.toNat < 128 := ascii.1
        simp only [UInt32.toNat_toUInt8]
        exact Nat.mod_eq_of_lt (by omega)
      have back : fromUtf8 (char.val.toUInt8 :: utf8 rest) = char :: fromUtf8 (utf8 rest) := by
        simp only [fromUtf8, List.map_cons, value, if_pos ascii.1, Char.ofNat_toNat]
      rw [bytes, back, ih ascii.2]

theorem length_utf8 {text : List Char} (ascii : ∀ char ∈ text, char.toNat < 128) :
    (utf8 text).length = text.length := by
  have back := congrArg List.length (from_utf8 ascii)
  rwa [fromUtf8, List.length_map] at back

theorem plain_ascii {char : Char} (is : plain char = true) : char.toNat < 128 := by
  simp only [plain, Bool.and_eq_true, decide_eq_true_eq] at is
  exact is.1.1.2

theorem written_ascii (entries : List (String × String))
    (plains : ∀ entry ∈ entries, Plain entry.1 ∧ Plain entry.2) :
    ∀ char ∈ Json.text (written entries), char.toNat < 128 := by
  induction entries with
  | nil => simp [written, Json.ofEntries, Json.text]
  | cons entry entries ih =>
      rw [List.forall_mem_cons] at plains
      obtain ⟨⟨key, value⟩, later⟩ := plains
      have text : Json.text (written (entry :: entries)) = Json.quote entry.1 ++ (':' ::
          (Json.quote entry.2 ++ (Json.comma (written entries) ++ Json.text (written entries)))) := rfl
      have commas : ∀ char ∈ Json.comma (written entries), char.toNat < 128 := by
        cases entries <;> simp [written, Json.ofEntries, Json.comma]
      rw [text, quote_plain key, quote_plain value]
      intro char member
      simp only [List.mem_cons, List.mem_append] at member
      rcases member with rfl | inKey | rfl | rfl | rfl | inValue | rfl | inComma | rest
      · decide
      · exact plain_ascii (key char inKey)
      · decide
      · decide
      · decide
      · exact plain_ascii (value char inValue)
      · decide
      · exact commas char inComma
      · exact ih later char rest

theorem object_ascii {entries : List (String × String)}
    (plains : ∀ entry ∈ entries, Plain entry.1 ∧ Plain entry.2) :
    ∀ char ∈ Json.text (.object (written entries)), char.toNat < 128 := by
  intro char member
  rcases List.mem_cons.mp member with rfl | rest
  · decide
  · exact written_ascii entries plains char rest

/-- An object of plain strings is read back from its text. -/
theorem decode_encode (entry : String × String) (entries : List (String × String))
    (plains : ∀ entry' ∈ entry :: entries, Plain entry'.1 ∧ Plain entry'.2) :
    decode (encode (entry :: entries)) =
      some (.object ((entry :: entries).map fun entry => (entry.1, some entry.2))) := by
  rw [decode, encode, String.toList_ofList, Base64.decode_encode, from_utf8 (object_ascii plains),
    parse_written entry entries plains]

theorem length_object {entries : List (String × String)}
    (plains : ∀ entry ∈ entries, Plain entry.1 ∧ Plain entry.2) :
    (Json.text (.object (written entries))).length ≤
      (entries.map fun entry => entry.1.length + entry.2.length + 6).sum + 2 := by
  have inner : (Json.text (written entries)).length ≤
      (entries.map fun entry => entry.1.length + entry.2.length + 6).sum + 1 := by
    induction entries with
    | nil => simp [written, Json.ofEntries, Json.text]
    | cons entry entries ih =>
        rw [List.forall_mem_cons] at plains
        obtain ⟨⟨key, value⟩, later⟩ := plains
        have rest := ih later
        have comma : (Json.comma (written entries)).length ≤ 1 := by
          cases entries <;> simp [written, Json.ofEntries, Json.comma]
        have text : Json.text (written (entry :: entries)) = Json.quote entry.1 ++ (':' ::
            (Json.quote entry.2 ++ (Json.comma (written entries) ++ Json.text (written entries)))) := rfl
        rw [text, quote_plain key, quote_plain value]
        simp only [List.length_cons, List.length_append, List.map_cons, List.sum_cons,
          String.length_toList]
        omega
  have opened : (Json.text (.object (written entries))).length =
      (Json.text (written entries)).length + 1 := rfl
  omega

theorem length_encode {entries : List (String × String)}
    (plains : ∀ entry ∈ entries, Plain entry.1 ∧ Plain entry.2) :
    3 * (encode entries).length ≤
      4 * (entries.map fun entry => entry.1.length + entry.2.length + 6).sum + 10 := by
  have long := Base64.length_encode (utf8 (Json.text (.object (written entries))))
  have object := length_object plains
  rw [length_utf8 (object_ascii plains)] at long
  rw [encode, String.length_ofList]
  omega

end Foc.Library.OpaqueText
