import Foc.Library.Digits
import Foc.Library.Json

/-!
JSON texts read back, as far as a schema of strings can tell: a string, an object
with the strings among its members, or something else. An escaped half of a
surrogate pair is read as U+FFFD.
-/
namespace Foc.Library.JsonText
open Digits

inductive Parsed where
  | text (value : String)
  | object (members : List (String × Option String))
  | other
  deriving DecidableEq, Repr

def Parsed.text? : Parsed → Option String
  | .text value => some value
  | _ => none

def space (char : Char) : Bool :=
  char == ' ' || char == '\t' || char == '\n' || char == '\r'

def skipSpace (text : List Char) : List Char := text.dropWhile space

def unescaped : Char → Option Char
  | '"' => some '"'
  | '\\' => some '\\'
  | '/' => some '/'
  | 'b' => some (Char.ofNat 8)
  | 't' => some (Char.ofNat 9)
  | 'n' => some (Char.ofNat 10)
  | 'f' => some (Char.ofNat 12)
  | 'r' => some (Char.ofNat 13)
  | _ => none

def ofCode (code : Nat) : Char :=
  if 0xD800 ≤ code ∧ code ≤ 0xDFFF then '\uFFFD' else Char.ofNat code

/-- The rest of a string, after its opening quote. -/
def scanString : List Char → Option (List Char × List Char)
  | '"' :: rest => some ([], rest)
  | '\\' :: 'u' :: first :: second :: third :: fourth :: rest =>
      match scanNumber 16 4 0 [first, second, third, fourth] with
      | some (code, _) => (scanString rest).map fun read => (ofCode code :: read.1, read.2)
      | none => none
  | '\\' :: char :: rest =>
      match unescaped char with
      | some plain => (scanString rest).map fun read => (plain :: read.1, read.2)
      | none => none
  | char :: rest =>
      if char.toNat < 32 then none
      else (scanString rest).map fun read => (char :: read.1, read.2)
  | [] => none

def skipDigits (text : List Char) : Option (List Char) :=
  if text.takeWhile Char.isDigit = [] then none else some (text.dropWhile Char.isDigit)

def skipFraction : List Char → Option (List Char)
  | '.' :: rest => skipDigits rest
  | rest => some rest

def skipExponent : List Char → Option (List Char)
  | 'e' :: '+' :: rest | 'e' :: '-' :: rest | 'E' :: '+' :: rest | 'E' :: '-' :: rest =>
      skipDigits rest
  | 'e' :: rest | 'E' :: rest => skipDigits rest
  | rest => some rest

def skipUnsigned : List Char → Option (List Char)
  | '0' :: rest => some rest
  | rest => skipDigits rest

def skipNumber (text : List Char) : Option (List Char) :=
  (skipUnsigned (match text with
    | '-' :: rest => rest
    | rest => rest)).bind fun rest => (skipFraction rest).bind skipExponent

def skipWord (text : List Char) : Option (List Char) :=
  if "true".toList.isPrefixOf text then some (text.drop 4)
  else if "false".toList.isPrefixOf text then some (text.drop 5)
  else if "null".toList.isPrefixOf text then some (text.drop 4)
  else none

mutual

def scanValue : Nat → List Char → Option (Parsed × List Char)
  | 0, _ => none
  | _ + 1, '"' :: rest =>
      (scanString rest).map fun read => (.text (String.ofList read.1), read.2)
  | fuel + 1, '\x7b' :: rest =>
      match skipSpace rest with
      | '\x7d' :: rest => some (.object [], rest)
      | rest => (scanMembers fuel rest).map fun read => (.object read.1, read.2)
  | fuel + 1, '[' :: rest =>
      match skipSpace rest with
      | ']' :: rest => some (.other, rest)
      | rest => (skipItems fuel rest).map fun rest => (.other, rest)
  | _ + 1, text => ((skipWord text).or (skipNumber text)).map fun rest => (.other, rest)

def scanMembers : Nat → List Char → Option (List (String × Option String) × List Char)
  | 0, _ => none
  | fuel + 1, '"' :: text =>
      match scanString text with
      | none => none
      | some (key, rest) =>
          match skipSpace rest with
          | ':' :: rest =>
              match scanValue fuel (skipSpace rest) with
              | none => none
              | some (value, rest) =>
                  match skipSpace rest with
                  | ',' :: rest =>
                      (scanMembers fuel (skipSpace rest)).map fun read =>
                        ((String.ofList key, value.text?) :: read.1, read.2)
                  | '\x7d' :: rest => some ([(String.ofList key, value.text?)], rest)
                  | _ => none
          | _ => none
  | _ + 1, _ => none

def skipItems : Nat → List Char → Option (List Char)
  | 0, _ => none
  | fuel + 1, text =>
      match scanValue fuel text with
      | none => none
      | some (_, rest) =>
          match skipSpace rest with
          | ',' :: rest => skipItems fuel (skipSpace rest)
          | ']' :: rest => some rest
          | _ => none

end

/-- Every value takes a character, so the text's length is fuel enough. -/
def parse (text : List Char) : Option Parsed :=
  match scanValue (text.length + 1) (skipSpace text) with
  | some (value, rest) => if skipSpace rest = [] then some value else none
  | none => none

/-- The value of a member: the last one of its name. -/
def member (members : List (String × Option String)) (key : String) : Option String :=
  ((members.reverse.find? fun entry => entry.1 == key).map Prod.snd).join

/-! ## Plain strings -/

/-- A character that is written as itself. -/
def plain (char : Char) : Bool :=
  decide (32 ≤ char.toNat) && decide (char.toNat < 128) && char != '"' && char != '\\'

theorem plain_escape {char : Char} (is : plain char = true) : Json.escape char = [char] := by
  simp only [plain, Bool.and_eq_true, decide_eq_true_eq, bne_iff_ne, ne_eq] at is
  obtain ⟨⟨⟨printable, _⟩, unquoted⟩, unslashed⟩ := is
  unfold Json.escape
  rw [if_neg unquoted, if_neg unslashed]
  repeat rw [if_neg (by omega)]

theorem plain_quote {chars : List Char} (plains : ∀ char ∈ chars, plain char = true) :
    Json.quote (String.ofList chars) = '"' :: (chars ++ ['"']) := by
  have same : chars.flatMap Json.escape = chars := by
    induction chars with
    | nil => rfl
    | cons char rest ih =>
        rw [List.forall_mem_cons] at plains
        rw [List.flatMap_cons, plain_escape plains.1, ih plains.2]
        rfl
  rw [Json.quote, String.toList_ofList, same]

theorem scan_plain {chars rest : List Char} (plains : ∀ char ∈ chars, plain char = true) :
    scanString (chars ++ '"' :: rest) = some (chars, rest) := by
  induction chars with
  | nil => rfl
  | cons char chars ih =>
      rw [List.forall_mem_cons] at plains
      have is := plains.1
      simp only [plain, Bool.and_eq_true, decide_eq_true_eq, bne_iff_ne, ne_eq] at is
      obtain ⟨⟨⟨printable, _⟩, unquoted⟩, unslashed⟩ := is
      rw [List.cons_append]
      unfold scanString
      split
      · simp_all
      · simp_all
      · simp_all
      · rename_i other later same
        obtain ⟨rfl, rfl⟩ := List.cons.inj same
        rw [if_neg (by omega), ih plains.2]
        rfl
      · simp_all

/-! ## Objects of plain strings -/

def Plain (text : String) : Prop := ∀ char ∈ text.toList, plain char = true

def written (entries : List (String × String)) : Json.Tree .entries :=
  Json.ofEntries (entries.map fun entry => (entry.1, .string entry.2))

theorem quote_plain {text : String} (is : Plain text) (rest : List Char) :
    Json.quote text ++ rest = '"' :: (text.toList ++ '"' :: rest) := by
  have quoted := plain_quote is
  rw [String.ofList_toList] at quoted
  rw [quoted]
  simp

theorem skip_none {char : Char} (solid : space char = false) (rest : List Char) :
    skipSpace (char :: rest) = char :: rest := by
  simp [skipSpace, List.dropWhile, solid]

theorem scan_written (entry : String × String) (entries : List (String × String)) {fuel : Nat}
    (enough : entries.length + 2 ≤ fuel) (rest : List Char)
    (plains : ∀ entry' ∈ entry :: entries, Plain entry'.1 ∧ Plain entry'.2) :
    scanMembers fuel (Json.text (written (entry :: entries)) ++ rest) =
      some ((entry :: entries).map fun entry => (entry.1, some entry.2), rest) := by
  induction entries generalizing entry fuel with
  | nil =>
      obtain ⟨key, value⟩ := plains entry List.mem_cons_self
      obtain ⟨fuel, rfl⟩ : ∃ more, fuel = more + 1 + 1 := ⟨fuel - 2, by simp at enough; omega⟩
      simp only [written, List.map_cons, List.map_nil, Json.ofEntries, Json.text, Json.comma,
        List.append_assoc, List.cons_append, List.nil_append]
      rw [quote_plain key]
      simp only [scanMembers, scan_plain key, skip_none (show space ':' = false by decide)]
      rw [quote_plain value, skip_none (by decide)]
      simp only [scanValue, scan_plain value, Option.map_some,
        skip_none (show space '\x7d' = false by decide), Parsed.text?, String.ofList_toList]
  | cons next entries ih =>
      obtain ⟨key, value⟩ := plains entry List.mem_cons_self
      obtain ⟨fuel, rfl⟩ : ∃ more, fuel = more + 1 + 1 := ⟨fuel - 2, by simp at enough; omega⟩
      have enough : entries.length + 2 ≤ fuel + 1 := by
        rw [List.length_cons] at enough
        omega
      have later := ih next enough fun other member => plains other (List.mem_cons_of_mem _ member)
      have text : Json.text (written (entry :: next :: entries)) ++ rest =
          Json.quote entry.1 ++ (':' :: (Json.quote entry.2 ++
            (',' :: (Json.text (written (next :: entries)) ++ rest)))) := by
        simp [written, Json.ofEntries, Json.text, Json.comma]
      have starts : Json.text (written (next :: entries)) ++ rest =
          '"' :: (next.1.toList ++ '"' :: ':' :: (Json.text (.string next.2) ++
            (Json.comma (written entries) ++ (Json.text (written entries) ++ rest)))) := by
        have key := (plains next (by simp)).1
        rw [← quote_plain key]
        simp [written, Json.ofEntries, Json.text]
      rw [text, quote_plain key]
      simp only [scanMembers, scan_plain key, skip_none (show space ':' = false by decide)]
      rw [quote_plain value, skip_none (by decide)]
      simp only [scanValue, scan_plain value, Option.map_some,
        skip_none (show space ',' = false by decide), Parsed.text?, String.ofList_toList]
      rw [starts, skip_none (by decide), ← starts, later]
      rfl

theorem length_written (entries : List (String × String)) :
    entries.length + 1 ≤ (Json.text (written entries)).length := by
  induction entries with
  | nil => simp [written, Json.ofEntries, Json.text]
  | cons entry entries ih =>
      have text : Json.text (written (entry :: entries)) = Json.quote entry.1 ++ (':' ::
          (Json.text (.string entry.2) ++ (Json.comma (written entries) ++
            Json.text (written entries)))) := rfl
      rw [text]
      simp only [List.length_append, List.length_cons]
      omega

/-- What is written of plain strings under plain names is read back. -/
theorem parse_written (entry : String × String) (entries : List (String × String))
    (plains : ∀ entry' ∈ entry :: entries, Plain entry'.1 ∧ Plain entry'.2) :
    parse (Json.text (.object (written (entry :: entries)))) =
      some (.object ((entry :: entries).map fun entry => (entry.1, some entry.2))) := by
  have key := (plains entry List.mem_cons_self).1
  obtain ⟨rest, starts⟩ : ∃ rest, Json.text (written (entry :: entries)) = '"' :: rest :=
    ⟨_, quote_plain key _⟩
  have long := length_written (entry :: entries)
  rw [starts] at long
  have enough : entries.length + 2 ≤ rest.length + 2 := by
    simp only [List.length_cons] at long
    omega
  have scanned := scan_written entry entries enough [] plains
  rw [List.append_nil, starts] at scanned
  have braces : Json.text (.object (written (entry :: entries))) = '\x7b' :: '"' :: rest := by
    rw [← starts]
    rfl
  rw [braces, parse, skip_none (by decide)]
  simp only [List.length_cons, scanValue, skip_none (show space '"' = false by decide)]
  simp [scanned, skipSpace]

end Foc.Library.JsonText
