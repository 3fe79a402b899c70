import Mathlib.Data.List.DropRight
import Mathlib.Data.String.Basic
import Mathlib.Tactic.Common

/-!
JavaScript strings, lists of UTF-16 code units, and their text. A string is read as
code points, a surrogate without its other half being one of its own. UTF-8 has no
such half, so its encoder writes U+FFFD for it; a string that holds none is read
back as it was written.
-/
namespace Foc.Library.Utf16

abbrev Units := List UInt16

def high (unit : UInt16) : Bool := 0xD800 ≤ unit.toNat && unit.toNat ≤ 0xDBFF

def low (unit : UInt16) : Bool := 0xDC00 ≤ unit.toNat && unit.toNat ≤ 0xDFFF

def joined (first second : UInt16) : Nat :=
  (first.toNat - 0xD800) * 0x400 + (second.toNat - 0xDC00) + 0x10000

/-- The code points that iterating a string gives. -/
def points : Units → List Nat
  | [] => []
  | [unit] => [unit.toNat]
  | first :: second :: rest =>
      if high first && low second then joined first second :: points rest
      else first.toNat :: points (second :: rest)

/-- What UTF-8 holds of a code point. -/
def character (point : Nat) : Char :=
  if point.isValidChar then Char.ofNat point else '\uFFFD'

/-- A string as UTF-8 carries it. -/
def text (units : Units) : List Char := (points units).map character

def unitsOf (char : Char) : Units :=
  if char.toNat < 0x10000 then [UInt16.ofNat char.toNat]
  else [UInt16.ofNat ((char.toNat - 0x10000) / 0x400 + 0xD800),
    UInt16.ofNat ((char.toNat - 0x10000) % 0x400 + 0xDC00)]

def ofText (chars : List Char) : Units := chars.flatMap unitsOf

/-- No surrogate without its other half. -/
def WellFormed (units : Units) : Prop := ∀ point ∈ points units, point.isValidChar

instance (units : Units) : Decidable (WellFormed units) := by
  unfold WellFormed
  infer_instance

/-! ## Reading and writing -/

theorem valid_iff (point : Nat) :
    point.isValidChar ↔ point < 0xD800 ∨ 0xDFFF < point ∧ point < 0x110000 := Iff.rfl

theorem character_toNat (char : Char) : character char.toNat = char := by
  have valid : char.toNat.isValidChar := char.valid
  rw [character, if_pos valid, Char.ofNat_toNat]

theorem toNat_character {point : Nat} (valid : point.isValidChar) :
    (character point).toNat = point := by
  rw [character, if_pos valid, Char.ofNat, dif_pos valid]
  rfl

theorem points_cons {first : UInt16} (single : high first = false) (rest : Units) :
    points (first :: rest) = first.toNat :: points rest := by
  cases rest with
  | nil => rfl
  | cons second rest => simp [points, single]

theorem points_pair {first second : UInt16} (pair : high first && low second) (rest : Units) :
    points (first :: second :: rest) = joined first second :: points rest := by
  simp [points, pair]

theorem points_alone {first second : UInt16} (alone : (high first && low second) = false)
    (rest : Units) : points (first :: second :: rest) = first.toNat :: points (second :: rest) := by
  simp [points, alone]

theorem points_char (char : Char) (rest : Units) :
    points (unitsOf char ++ rest) = char.toNat :: points rest := by
  have valid : char.toNat < 0xD800 ∨ 0xDFFF < char.toNat ∧ char.toNat < 0x110000 := char.valid
  by_cases small : char.toNat < 0x10000
  · have unit : (UInt16.ofNat char.toNat).toNat = char.toNat := by
      rw [UInt16.toNat_ofNat']
      omega
    have single : high (UInt16.ofNat char.toNat) = false := by
      simp only [high, unit, Bool.and_eq_false_iff, decide_eq_false_iff_not]
      omega
    rw [unitsOf, if_pos small, List.singleton_append, points_cons single, unit]
  · have first : (UInt16.ofNat ((char.toNat - 0x10000) / 0x400 + 0xD800)).toNat =
        (char.toNat - 0x10000) / 0x400 + 0xD800 := by
      rw [UInt16.toNat_ofNat']
      omega
    have second : (UInt16.ofNat ((char.toNat - 0x10000) % 0x400 + 0xDC00)).toNat =
        (char.toNat - 0x10000) % 0x400 + 0xDC00 := by
      rw [UInt16.toNat_ofNat']
      omega
    have pair : high (UInt16.ofNat ((char.toNat - 0x10000) / 0x400 + 0xD800)) &&
        low (UInt16.ofNat ((char.toNat - 0x10000) % 0x400 + 0xDC00)) := by
      simp only [high, low, first, second, Bool.and_eq_true, decide_eq_true_eq]
      omega
    have whole : joined (UInt16.ofNat ((char.toNat - 0x10000) / 0x400 + 0xD800))
        (UInt16.ofNat ((char.toNat - 0x10000) % 0x400 + 0xDC00)) = char.toNat := by
      simp only [joined, first, second]
      omega
    rw [unitsOf, if_neg small, List.cons_append, List.singleton_append, points_pair pair, whole]

theorem points_of_text (chars : List Char) : points (ofText chars) = chars.map Char.toNat := by
  induction chars with
  | nil => rfl
  | cons char rest ih =>
      have split : ofText (char :: rest) = unitsOf char ++ ofText rest := List.flatMap_cons
      rw [split, points_char, ih, List.map_cons]

theorem text_of_text (chars : List Char) : text (ofText chars) = chars := by
  rw [text, points_of_text, List.map_map]
  have same : character ∘ Char.toNat = id := funext character_toNat
  rw [same, List.map_id]

theorem well_formed_of_text (chars : List Char) : WellFormed (ofText chars) := by
  intro point listed
  rw [points_of_text] at listed
  obtain ⟨char, -, rfl⟩ := List.mem_map.mp listed
  exact char.valid

theorem units_single {unit : UInt16} (valid : unit.toNat.isValidChar) :
    unitsOf (character unit.toNat) = [unit] := by
  have small : unit.toNat < 0x10000 := unit.toNat_lt
  rw [unitsOf, toNat_character valid, if_pos small, UInt16.ofNat_toNat]

theorem units_joined {first second : UInt16} (pair : high first && low second) :
    unitsOf (character (joined first second)) = [first, second] := by
  simp only [high, low, Bool.and_eq_true, decide_eq_true_eq] at pair
  have valid : (joined first second).isValidChar := by
    simp only [valid_iff, joined]
    omega
  have large : ¬ joined first second < 0x10000 := by
    simp only [joined]
    omega
  have upper : (joined first second - 0x10000) / 0x400 + 0xD800 = first.toNat := by
    simp only [joined]
    omega
  have lower : (joined first second - 0x10000) % 0x400 + 0xDC00 = second.toNat := by
    simp only [joined]
    omega
  rw [unitsOf, toNat_character valid, if_neg large, upper, lower, UInt16.ofNat_toNat,
    UInt16.ofNat_toNat]

/-- What UTF-8 carries is the string itself exactly when it is well formed. -/
theorem of_text_text (units : Units) : ofText (text units) = units ↔ WellFormed units := by
  constructor
  · intro same
    rw [← same]
    exact well_formed_of_text _
  · intro formed
    unfold text ofText
    induction units using points.induct with
    | case1 => rfl
    | case2 unit => simp [points, units_single (formed unit.toNat (by simp [points]))]
    | case3 first second rest pair ih =>
        rw [WellFormed, points_pair pair, List.forall_mem_cons] at formed
        rw [points_pair pair, List.map_cons, List.flatMap_cons, ih formed.2, units_joined pair]
        rfl
    | case4 first second rest alone ih =>
        have alone : (high first && low second) = false := by simpa using alone
        rw [WellFormed, points_alone alone, List.forall_mem_cons] at formed
        rw [points_alone alone, List.map_cons, List.flatMap_cons, ih formed.2,
          units_single formed.1]
        rfl

theorem text_inj {first second : Units} (formed : WellFormed first) (other : WellFormed second) :
    text first = text second ↔ first = second := by
  constructor
  · intro same
    rw [← (of_text_text first).mpr formed, same, (of_text_text second).mpr other]
  · intro same
    rw [same]

/-! ## Counting -/

theorem length_points (units : Units) : (points units).length ≤ units.length := by
  induction units using points.induct with
  | case1 => exact Nat.le_refl 0
  | case2 unit => exact Nat.le_refl 1
  | case3 first second rest pair ih =>
      rw [points_pair pair, List.length_cons, List.length_cons, List.length_cons]
      omega
  | case4 first second rest alone ih =>
      have alone : (high first && low second) = false := by simpa using alone
      rw [points_alone alone, List.length_cons, List.length_cons]
      omega

theorem length_text (units : Units) : (text units).length ≤ units.length := by
  rw [text, List.length_map]
  exact length_points units

theorem text_eq_nil (units : Units) : text units = [] ↔ units = [] := by
  match units with
  | [] => simp [text, points]
  | [unit] => simp [text, points]
  | first :: second :: rest =>
      rw [text, points]
      split <;> simp

theorem mem_points_single {unit : UInt16} (plain : high unit = false ∧ low unit = false)
    (units : Units) : unit.toNat ∈ points units ↔ unit ∈ units := by
  have small : unit.toNat < 0x10000 := unit.toNat_lt
  have named : ∀ other : UInt16, unit.toNat = other.toNat ↔ unit = other := fun other =>
    UInt16.toNat_inj
  induction units using points.induct with
  | case1 => simp [points]
  | case2 other => simp [points, named]
  | case3 first second rest pair ih =>
      have apart : unit.toNat ≠ joined first second := by
        simp only [joined]
        omega
      have left : unit ≠ first := by
        rintro rfl
        simp [plain.1] at pair
      have right : unit ≠ second := by
        rintro rfl
        simp [plain.2] at pair
      simp [points_pair pair, apart, left, right, ih]
  | case4 first second rest alone ih =>
      have alone : (high first && low second) = false := by simpa using alone
      simp [points_alone alone, named, ih]

/-- U+0000 is in the text exactly when its unit is in the string. -/
theorem zero_mem_text (units : Units) : '\x00' ∈ text units ↔ (0 : UInt16) ∈ units := by
  rw [← mem_points_single ⟨rfl, rfl⟩ units, text, List.mem_map]
  constructor
  · rintro ⟨point, listed, zero⟩
    by_cases valid : point.isValidChar
    · have nothing : point = 0 := by rw [← toNat_character valid, zero]; rfl
      rw [nothing] at listed
      exact listed
    · rw [character, if_neg valid] at zero
      exact absurd zero (by decide)
  · intro listed
    exact ⟨0, listed, rfl⟩

/-! ## Trimming -/

/-- `WhiteSpace` and `LineTerminator`, all of one unit. -/
def white (unit : UInt16) : Bool :=
  [0x09, 0x0A, 0x0B, 0x0C, 0x0D, 0x20, 0xA0, 0x1680, 0x2028, 0x2029, 0x202F, 0x205F, 0x3000,
    0xFEFF].contains unit.toNat || 0x2000 ≤ unit.toNat && unit.toNat ≤ 0x200A

def trim (units : Units) : Units := (units.dropWhile white).rdropWhile white

theorem white_plain {unit : UInt16} (blank : white unit = true) :
    high unit = false ∧ low unit = false := by
  simp only [white, Bool.or_eq_true, List.contains_eq_mem, decide_eq_true_eq, List.mem_cons,
    List.not_mem_nil, or_false, Bool.and_eq_true] at blank
  simp only [high, low, Bool.and_eq_false_iff, decide_eq_false_iff_not]
  omega

theorem points_snoc {last : UInt16} (plain : low last = false) (units : Units) :
    points (units ++ [last]) = points units ++ [last.toNat] := by
  induction units using points.induct with
  | case1 => rfl
  | case2 unit =>
      have alone : (high unit && low last) = false := by rw [plain, Bool.and_false]
      exact points_alone alone []
  | case3 first second rest pair ih =>
      rw [List.cons_append, List.cons_append, points_pair pair, points_pair pair, ih,
        List.cons_append]
  | case4 first second rest alone ih =>
      have alone : (high first && low second) = false := by simpa using alone
      rw [List.cons_append] at ih
      rw [List.cons_append, List.cons_append, points_alone alone, points_alone alone, ih,
        List.cons_append]

theorem white_valid {unit : UInt16} (blank : white unit = true) : unit.toNat.isValidChar := by
  have plain := white_plain blank
  simp only [high, low, Bool.and_eq_false_iff, decide_eq_false_iff_not] at plain
  have small : unit.toNat < 0x10000 := unit.toNat_lt
  rw [valid_iff]
  omega

theorem well_formed_drop (units : Units) :
    WellFormed (units.dropWhile white) ↔ WellFormed units := by
  induction units with
  | nil => rfl
  | cons unit rest ih =>
      by_cases blank : white unit = true
      · rw [List.dropWhile_cons_of_pos blank, ih, WellFormed, WellFormed,
          points_cons (white_plain blank).1, List.forall_mem_cons]
        simp [white_valid blank]
      · rw [List.dropWhile_cons_of_neg blank]

theorem well_formed_rdrop (units : Units) :
    WellFormed (units.rdropWhile white) ↔ WellFormed units := by
  induction units using List.reverseRecOn with
  | nil => rfl
  | append_singleton units last ih =>
      by_cases blank : white last = true
      · rw [List.rdropWhile_concat_pos _ _ _ blank, ih, WellFormed, WellFormed,
          points_snoc (white_plain blank).2, List.forall_mem_append]
        simp [white_valid blank]
      · rw [List.rdropWhile_concat_neg _ _ _ blank]

theorem well_formed_trim (units : Units) : WellFormed (trim units) ↔ WellFormed units := by
  rw [trim, well_formed_rdrop, well_formed_drop]

theorem mem_trim {unit : UInt16} (solid : white unit = false) (units : Units) :
    unit ∈ trim units ↔ unit ∈ units := by
  have front : ∀ units : Units, unit ∈ units.dropWhile white ↔ unit ∈ units := by
    intro units
    induction units with
    | nil => rfl
    | cons first rest ih =>
        by_cases blank : white first = true
        · have apart : unit ≠ first := by
            rintro rfl
            simp [solid] at blank
          rw [List.dropWhile_cons_of_pos blank, ih, List.mem_cons, or_iff_right apart]
        · rw [List.dropWhile_cons_of_neg blank]
  rw [trim, List.rdropWhile, List.mem_reverse, front, List.mem_reverse, front]

end Foc.Library.Utf16
