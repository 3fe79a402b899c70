import Mathlib.Data.String.Basic
import Mathlib.Tactic.Common
import Mathlib.Tactic.IntervalCases
import Mathlib.Order.Basic

/-!
JSON values and their text as `JSON.stringify` writes it, once the keys of every
object are sorted. Two values have one text exactly when they differ in nothing
but the order of their keys. Numbers are integers; the parts of arrays and
objects are trees of the same type, told apart by an index.
-/
namespace Foc.Library.Json

inductive Part where
  | value
  | items
  | entries

inductive Tree : Part → Type where
  | null : Tree .value
  | bool (value : Bool) : Tree .value
  | number (value : Int) : Tree .value
  | string (text : String) : Tree .value
  | array (items : Tree .items) : Tree .value
  | object (entries : Tree .entries) : Tree .value
  | nil : Tree .items
  | cons (item : Tree .value) (rest : Tree .items) : Tree .items
  | done : Tree .entries
  | entry (key : String) (value : Tree .value) (rest : Tree .entries) : Tree .entries

abbrev Value := Tree .value

def ofItems : List Value → Tree .items
  | [] => .nil
  | item :: rest => .cons item (ofItems rest)

def ofEntries : List (String × Value) → Tree .entries
  | [] => .done
  | (key, value) :: rest => .entry key value (ofEntries rest)

/-! ## Sorting keys -/

def insertEntry (key : String) (value : Value) : Tree .entries → Tree .entries
  | .done => .entry key value .done
  | .entry other held rest =>
      if key ≤ other then .entry key value (.entry other held rest)
      else .entry other held (insertEntry key value rest)

/-- Every object's keys in order, at every depth. -/
def sorted : {part : Part} → Tree part → Tree part
  | _, .null => .null
  | _, .bool value => .bool value
  | _, .number value => .number value
  | _, .string text => .string text
  | _, .array parts => .array (sorted parts)
  | _, .object parts => .object (sorted parts)
  | _, .nil => .nil
  | _, .cons item rest => .cons (sorted item) (sorted rest)
  | _, .done => .done
  | _, .entry key value rest => insertEntry key (sorted value) (sorted rest)

/-- Equal but for the order of keys, at every depth. -/
inductive Same : {part : Part} → Tree part → Tree part → Prop where
  | refl {part : Part} (value : Tree part) : Same value value
  | symm {part : Part} {first second : Tree part} (same : Same first second) : Same second first
  | trans {part : Part} {first second third : Tree part} (before : Same first second)
      (after : Same second third) : Same first third
  | array {first second : Tree .items} (same : Same first second) :
      Same (.array first) (.array second)
  | object {first second : Tree .entries} (same : Same first second) :
      Same (.object first) (.object second)
  | cons {item other : Value} {rest others : Tree .items} (head : Same item other)
      (tail : Same rest others) : Same (.cons item rest) (.cons other others)
  | entry (key : String) {value other : Value} {rest others : Tree .entries}
      (head : Same value other) (tail : Same rest others) :
      Same (.entry key value rest) (.entry key other others)
  | swap (key other : String) (value held : Value) (rest : Tree .entries)
      (different : key ≠ other) :
      Same (.entry key value (.entry other held rest)) (.entry other held (.entry key value rest))

theorem insert_same (key : String) (value : Value) :
    (rest : Tree .entries) → Same (.entry key value rest) (insertEntry key value rest)
  | .done => by
      simp only [insertEntry]
      exact .refl _
  | .entry other held rest => by
      unfold insertEntry
      split
      · exact .refl _
      · rename_i later
        have different : key ≠ other := by
          rintro rfl
          exact later (le_refl key)
        exact .trans (.swap key other value held rest different)
          (.entry other (.refl held) (insert_same key value rest))

theorem sorted_same {part : Part} (value : Tree part) : Same value (sorted value) := by
  induction value with
  | array parts ih => exact .array ih
  | object parts ih => exact .object ih
  | cons item rest head tail => exact .cons head tail
  | entry key value rest head tail =>
      exact .trans (.entry key head tail) (insert_same key (sorted value) (sorted rest))
  | _ => exact .refl _

/-- Two entries of different keys can be inserted in either order. -/
theorem insert_comm {key other : String} (before : key < other) (value held : Value) :
    (rest : Tree .entries) → insertEntry key value (insertEntry other held rest) =
      insertEntry other held (insertEntry key value rest)
  | .done => by
      simp [insertEntry, before.le, not_le.mpr before]
  | .entry third kept rest => by
      by_cases first : other ≤ third
      · simp [insertEntry, first, before.le, not_le.mpr before, before.le.trans first]
      · by_cases second : key ≤ third
        · simp [insertEntry, first, second, not_le.mpr before]
        · simp [insertEntry, first, second, insert_comm before value held rest]

theorem same_sorted {part : Part} {first second : Tree part} (same : Same first second) :
    sorted first = sorted second := by
  induction same with
  | refl => rfl
  | symm _ ih => exact ih.symm
  | trans _ _ before after => exact before.trans after
  | array _ ih => exact congrArg Tree.array ih
  | object _ ih => exact congrArg Tree.object ih
  | cons _ _ head tail => exact congrArg₂ Tree.cons head tail
  | entry key _ _ head tail => simp only [sorted, head, tail]
  | swap key other value held rest different =>
      rcases lt_or_gt_of_ne different with before | after
      · exact insert_comm before (sorted value) (sorted held) (sorted rest)
      · exact (insert_comm after (sorted held) (sorted value) (sorted rest)).symm

theorem sorted_iff {part : Part} {first second : Tree part} :
    sorted first = sorted second ↔ Same first second := by
  constructor
  · intro equal
    have middle := sorted_same first
    rw [equal] at middle
    exact .trans middle (.symm (sorted_same second))
  · exact same_sorted

/-! ## Strings -/

def hexDigit (value : Nat) : Char := Nat.digitChar value

/-- A character inside a JSON string. -/
def escape (char : Char) : List Char :=
  if char = '"' then ['\\', '"']
  else if char = '\\' then ['\\', '\\']
  else if char.toNat = 8 then ['\\', 'b']
  else if char.toNat = 9 then ['\\', 't']
  else if char.toNat = 10 then ['\\', 'n']
  else if char.toNat = 12 then ['\\', 'f']
  else if char.toNat = 13 then ['\\', 'r']
  else if char.toNat < 32 then
    ['\\', 'u', '0', '0', hexDigit (char.toNat / 16), hexDigit (char.toNat % 16)]
  else [char]

def quote (text : String) : List Char :=
  '"' :: (text.toList.flatMap escape ++ ['"'])

def hexValue (char : Char) : Nat :=
  if char.isDigit then char.toNat - 48 else char.toNat - 87

/-- The first character of a string's inside, and the rest. -/
def unescape : List Char → Option (Char × List Char)
  | '\\' :: 'b' :: rest => some (Char.ofNat 8, rest)
  | '\\' :: 't' :: rest => some (Char.ofNat 9, rest)
  | '\\' :: 'n' :: rest => some (Char.ofNat 10, rest)
  | '\\' :: 'f' :: rest => some (Char.ofNat 12, rest)
  | '\\' :: 'r' :: rest => some (Char.ofNat 13, rest)
  | '\\' :: 'u' :: _ :: _ :: high :: low :: rest =>
      some (Char.ofNat (hexValue high * 16 + hexValue low), rest)
  | '\\' :: char :: rest => some (char, rest)
  | char :: rest => some (char, rest)
  | [] => none

theorem unescape_control (code : Nat) (control : code < 32) (rest : List Char) :
    unescape (escape (Char.ofNat code) ++ rest) = some (Char.ofNat code, rest) := by
  interval_cases code <;> rfl

/-- What a character is written as can be read back, whatever follows it. -/
theorem unescape_escape (char : Char) (rest : List Char) :
    unescape (escape char ++ rest) = some (char, rest) := by
  by_cases control : char.toNat < 32
  · have read := unescape_control char.toNat control rest
    rwa [Char.ofNat_toNat] at read
  · by_cases quoted : char = '"'
    · subst quoted
      rfl
    · by_cases slash : char = '\\'
      · subst slash
        rfl
      · have plain : escape char = [char] := by
          unfold escape
          simp only [quoted, slash, if_false]
          repeat rw [if_neg (by omega)]
        rw [plain, List.singleton_append]
        unfold unescape
        split <;> simp_all

/-- A character is written as something, and never as a bare quote. -/
theorem escape_starts (char : Char) :
    ∃ first later, escape char = first :: later ∧ first ≠ '"' := by
  cases written : escape char with
  | nil =>
      have read := unescape_escape char []
      simp [written, unescape] at read
  | cons first later =>
      refine ⟨first, later, rfl, ?_⟩
      rintro rfl
      unfold escape at written
      split at written
      · simp at written
      · rename_i unquoted
        repeat' split at written
        all_goals simp_all

/-- A string's text ends where its closing quote is. -/
theorem body_inj {first second : List Char} {rest other : List Char}
    (same : first.flatMap escape ++ '"' :: rest = second.flatMap escape ++ '"' :: other) :
    first = second ∧ rest = other := by
  induction first generalizing second with
  | nil =>
      cases second with
      | nil => exact ⟨rfl, by simpa using same⟩
      | cons char chars =>
          obtain ⟨start, later, written, unquoted⟩ := escape_starts char
          rw [List.flatMap_cons, written] at same
          exact absurd (List.cons.inj same).1.symm unquoted
  | cons char chars ih =>
      cases second with
      | nil =>
          obtain ⟨start, later, written, unquoted⟩ := escape_starts char
          rw [List.flatMap_cons, written] at same
          exact absurd (List.cons.inj same).1 unquoted
      | cons char' chars' =>
          simp only [List.flatMap_cons, List.append_assoc] at same
          have read := congrArg unescape same
          rw [unescape_escape, unescape_escape, Option.some.injEq, Prod.mk.injEq] at read
          obtain ⟨rfl, tails⟩ := read
          obtain ⟨rfl, rest⟩ := ih tails
          exact ⟨rfl, rest⟩

theorem quote_inj {first second : String} {rest other : List Char}
    (same : quote first ++ rest = quote second ++ other) : first = second ∧ rest = other := by
  simp only [quote, List.cons_append, List.append_assoc, List.cons.injEq, true_and,
    List.nil_append] at same
  obtain ⟨chars, tails⟩ := body_inj same
  exact ⟨String.toList_inj.mp chars, tails⟩

/-! ## Numbers -/

/-- What may follow a number: no digit. -/
def Ends (rest : List Char) : Prop := ∀ char, rest.head? = some char → char.isDigit = false

theorem digits_inj {first second : Nat} {rest other : List Char} (ends : Ends rest)
    (ends' : Ends other)
    (same : Nat.toDigits 10 first ++ rest = Nat.toDigits 10 second ++ other) :
    first = second ∧ rest = other := by
  have stops : ∀ (number : Nat) (rest : List Char), Ends rest →
      (Nat.toDigits 10 number ++ rest).takeWhile Char.isDigit = Nat.toDigits 10 number := by
    intro number rest ends
    have digits : ∀ char ∈ Nat.toDigits 10 number, char.isDigit = true := fun char member =>
      Nat.isDigit_of_mem_toDigits (by omega) (by omega) member
    rw [List.takeWhile_append_of_pos digits]
    cases rest with
    | nil => simp
    | cons char chars => simp [ends char rfl]
  have equal : Nat.toDigits 10 first = Nat.toDigits 10 second := by
    rw [← stops first rest ends, ← stops second other ends', same]
  have value := congrArg (fun digits => Nat.ofDigitChars 10 digits 0) equal
  simp only [Nat.ofDigitChars_toDigits (by omega : 1 < 10) (by omega : 10 ≤ 10)] at value
  subst value
  exact ⟨rfl, List.append_cancel_left same⟩

def integer (value : Int) : List Char :=
  if value < 0 then '-' :: Nat.toDigits 10 value.natAbs else Nat.toDigits 10 value.natAbs

theorem digits_head (number : Nat) :
    ∃ char chars, Nat.toDigits 10 number = char :: chars ∧ char.isDigit = true := by
  cases written : Nat.toDigits 10 number with
  | nil => exact absurd written Nat.toDigits_ne_nil
  | cons char chars =>
      refine ⟨char, chars, rfl, ?_⟩
      exact Nat.isDigit_of_mem_toDigits (by omega) (by omega) (written ▸ List.mem_cons_self)

theorem integer_inj {first second : Int} {rest other : List Char} (ends : Ends rest)
    (ends' : Ends other) (same : integer first ++ rest = integer second ++ other) :
    first = second ∧ rest = other := by
  have sign : ∀ (number : Nat) (rest tail : List Char),
      Nat.toDigits 10 number ++ rest ≠ '-' :: tail := by
    intro number rest tail equal
    obtain ⟨char, chars, written, digit⟩ := digits_head number
    rw [written, List.cons_append, List.cons.injEq] at equal
    rw [equal.1] at digit
    simp at digit
  unfold integer at same
  split at same
  · split at same
    · simp only [List.cons_append, List.cons.injEq, true_and] at same
      obtain ⟨size, tails⟩ := digits_inj ends ends' same
      exact ⟨by omega, tails⟩
    · exact absurd same.symm (sign _ _ _)
  · split at same
    · exact absurd same (sign _ _ _)
    · obtain ⟨size, tails⟩ := digits_inj ends ends' same
      exact ⟨by omega, tails⟩

/-! ## Text -/

/-- The comma before more items or entries. -/
def comma : {part : Part} → Tree part → List Char
  | _, .cons _ _ => [',']
  | _, .entry _ _ _ => [',']
  | _, _ => []

def text : {part : Part} → Tree part → List Char
  | _, .null => "null".toList
  | _, .bool true => "true".toList
  | _, .bool false => "false".toList
  | _, .number value => integer value
  | _, .string value => quote value
  | _, .array parts => '[' :: text parts
  | _, .object parts => '\x7b' :: text parts
  | _, .nil => [']']
  | _, .cons item rest => text item ++ (comma rest ++ text rest)
  | _, .done => ['\x7d']
  | _, .entry key value rest => quote key ++ (':' :: (text value ++ (comma rest ++ text rest)))

/-- The first character tells what a tree is. -/
def starts : {part : Part} → Tree part → Char → Bool
  | _, .null, char => char == 'n'
  | _, .bool true, char => char == 't'
  | _, .bool false, char => char == 'f'
  | _, .number _, char => char.isDigit || char == '-'
  | _, .string _, char => char == '"'
  | _, .array _, char => char == '['
  | _, .object _, char => char == '\x7b'
  | _, .nil, char => char == ']'
  | _, .cons item _, char => starts item char
  | _, .done, char => char == '\x7d'
  | _, .entry _ _ _, char => char == '"'

theorem text_starts {part : Part} (tree : Tree part) :
    ∃ char chars, text tree = char :: chars ∧ starts tree char = true := by
  induction tree with
  | number value =>
      simp only [text, integer]
      split
      · exact ⟨'-', _, rfl, rfl⟩
      · obtain ⟨char, chars, written, digit⟩ := digits_head value.natAbs
        exact ⟨char, chars, written, by simp [starts, digit]⟩
  | bool value => cases value <;> exact ⟨_, _, rfl, rfl⟩
  | cons item rest head _ =>
      obtain ⟨char, chars, written, first⟩ := head
      exact ⟨char, chars ++ (comma rest ++ text rest), by simp [text, written], first⟩
  | string value => exact ⟨'"', _, rfl, rfl⟩
  | entry key value rest _ _ => exact ⟨'"', _, rfl, rfl⟩
  | _ => exact ⟨_, _, rfl, rfl⟩

/-- Two texts that begin alike are of trees that may. -/
theorem starts_alike {part : Part} {first second : Tree part} {rest other : List Char}
    (same : text first ++ rest = text second ++ other) :
    ∃ char, starts first char = true ∧ starts second char = true := by
  obtain ⟨char, chars, written, begins⟩ := text_starts first
  obtain ⟨char', chars', written', begins'⟩ := text_starts second
  rw [written, written', List.cons_append, List.cons_append, List.cons.injEq] at same
  exact ⟨char, begins, same.1 ▸ begins'⟩

theorem item_never_closes (item : Value) : starts item ']' = false := by
  cases item with
  | bool value => cases value <;> rfl
  | _ => rfl

theorem ends_after {part : Part} (tree : Tree part) (rest : List Char)
    (list : part ≠ .value) : Ends (comma tree ++ (text tree ++ rest)) := by
  intro char head
  cases tree with
  | cons item rest => cases head; rfl
  | entry key value rest => cases head; rfl
  | nil => cases head; rfl
  | done => cases head; rfl
  | _ => exact absurd rfl list

/-- The comma tells whether more follows. -/
theorem more_inj {part : Part} {first second : Tree part} {rest other : List Char}
    (list : part ≠ .value)
    (same : comma first ++ (text first ++ rest) = comma second ++ (text second ++ other)) :
    text first ++ rest = text second ++ other := by
  cases first <;> cases second <;>
    first
      | exact absurd rfl list
      | exact same
      | exact (List.cons.inj same).2
      | simp [comma, text] at same

/-- A text is of one tree, and ends where the tree does. -/
theorem text_inj {part : Part} {first second : Tree part} {rest other : List Char}
    (ends : Ends rest) (ends' : Ends other) (same : text first ++ rest = text second ++ other) :
    first = second ∧ rest = other := by
  induction first generalizing rest other with
  | null =>
      obtain ⟨char, begins, begins'⟩ := starts_alike same
      cases second with
      | null => exact ⟨rfl, List.append_cancel_left same⟩
      | bool value => cases value <;> simp_all [starts]
      | number | string | array | object => simp_all [starts]
  | bool value =>
      obtain ⟨char, begins, begins'⟩ := starts_alike same
      cases second with
      | bool value' =>
          cases value <;> cases value' <;>
            first
              | exact ⟨rfl, List.append_cancel_left same⟩
              | simp_all [starts]
      | null | number | string | array | object => cases value <;> simp_all [starts]
  | number value =>
      obtain ⟨char, begins, begins'⟩ := starts_alike same
      cases second with
      | number value' =>
          obtain ⟨rfl, tails⟩ := integer_inj ends ends' same
          exact ⟨rfl, tails⟩
      | bool value' => cases value' <;> simp_all [starts]
      | null | string | array | object => simp_all [starts]
  | string value =>
      obtain ⟨char, begins, begins'⟩ := starts_alike same
      cases second with
      | string value' =>
          obtain ⟨rfl, tails⟩ := quote_inj same
          exact ⟨rfl, tails⟩
      | bool value' => cases value' <;> simp_all [starts]
      | null | number | array | object => simp_all [starts]
  | array parts ih =>
      obtain ⟨char, begins, begins'⟩ := starts_alike same
      cases second with
      | array parts' =>
          obtain ⟨rfl, tails⟩ := ih ends ends' (List.cons.inj same).2
          exact ⟨rfl, tails⟩
      | bool value' => cases value' <;> simp_all [starts]
      | null | number | string | object => simp_all [starts]
  | object parts ih =>
      obtain ⟨char, begins, begins'⟩ := starts_alike same
      cases second with
      | object parts' =>
          obtain ⟨rfl, tails⟩ := ih ends ends' (List.cons.inj same).2
          exact ⟨rfl, tails⟩
      | bool value' => cases value' <;> simp_all [starts]
      | null | number | string | array => simp_all [starts]
  | nil =>
      cases second with
      | nil => exact ⟨rfl, List.append_cancel_left same⟩
      | cons item tail =>
          obtain ⟨char, begins, begins'⟩ := starts_alike same
          have closes := item_never_closes item
          simp_all [starts]
  | cons item tail head_ih tail_ih =>
      cases second with
      | nil =>
          obtain ⟨char, begins, begins'⟩ := starts_alike same
          have closes := item_never_closes item
          simp_all [starts]
      | cons item' tail' =>
          simp only [text, List.append_assoc] at same
          obtain ⟨rfl, more⟩ := head_ih (ends_after tail rest (by simp))
            (ends_after tail' other (by simp)) same
          obtain ⟨rfl, tails⟩ := tail_ih ends ends' (more_inj (by simp) more)
          exact ⟨rfl, tails⟩
  | done =>
      cases second with
      | done => exact ⟨rfl, List.append_cancel_left same⟩
      | entry key value tail =>
          obtain ⟨char, begins, begins'⟩ := starts_alike same
          simp_all [starts]
  | entry key value tail head_ih tail_ih =>
      cases second with
      | done =>
          obtain ⟨char, begins, begins'⟩ := starts_alike same
          simp_all [starts]
      | entry key' value' tail' =>
          simp only [text, List.append_assoc, List.cons_append] at same
          obtain ⟨rfl, after⟩ := quote_inj same
          obtain ⟨rfl, more⟩ := head_ih (ends_after tail rest (by simp))
            (ends_after tail' other (by simp)) (List.cons.inj after).2
          obtain ⟨rfl, tails⟩ := tail_ih ends ends' (more_inj (by simp) more)
          exact ⟨rfl, tails⟩

/-- `JSON.stringify`, once keys are sorted. -/
def stringify (value : Value) : String := String.ofList (text (sorted value))

/-- Two values have one text exactly when they differ in the order of keys only. -/
theorem stringify_iff {first second : Value} :
    stringify first = stringify second ↔ Same first second := by
  rw [← sorted_iff]
  constructor
  · intro equal
    have chars := String.ofList_inj.mp equal
    have nothing : Ends [] := by simp [Ends]
    exact (text_inj nothing nothing (by simpa using chars)).1
  · intro equal
    rw [stringify, stringify, equal]

end Foc.Library.Json
