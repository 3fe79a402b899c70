import Foc.Library.Digits
import Foc.Library.Utf16
import Mathlib.Data.List.Chain

/-!
String literals of JSON between a JavaScript writer and a reader of text without
surrogates or U+0000, as PostgreSQL's `jsonb` is. `JSON.stringify` escapes a
surrogate without its other half, and the reader refuses that escape and the one of
U+0000; it takes every other literal that is written and reads the string's text.
-/
namespace Foc.Library.JsonLiteral
open Digits Utf16

/-! ## The writer -/

/-- The letter of an escape with no code. -/
def shortEscape (point : Nat) : Option Char :=
  if point = 0x08 then some 'b'
  else if point = 0x09 then some 't'
  else if point = 0x0A then some 'n'
  else if point = 0x0C then some 'f'
  else if point = 0x0D then some 'r'
  else if point = 0x22 then some '"'
  else if point = 0x5C then some '\\'
  else none

def quoted (point : Nat) : List Char :=
  match shortEscape point with
  | some letter => ['\\', letter]
  | none =>
      if point < 0x20 ∨ ¬ point.isValidChar then '\\' :: 'u' :: fixed 16 4 point
      else [Char.ofNat point]

/-- `JSON.stringify` of a string, after its opening quote. -/
def literal (units : Units) : List Char := (points units).flatMap quoted ++ ['"']

/-! ## The reader -/

def highCode (code : Nat) : Bool := 0xD800 ≤ code && code ≤ 0xDBFF

def lowCode (code : Nat) : Bool := 0xDC00 ≤ code && code ≤ 0xDFFF

def hexCode (first second third fourth : Char) : Option Nat :=
  (scanNumber 16 4 0 [first, second, third, fourth]).map Prod.fst

def escapeLetter (letter : Char) : Option Char :=
  if letter = '"' ∨ letter = '\\' ∨ letter = '/' then some letter
  else if letter = 'b' then some '\x08'
  else if letter = 'f' then some '\x0C'
  else if letter = 'n' then some '\n'
  else if letter = 'r' then some '\x0D'
  else if letter = 't' then some '\t'
  else none

/-- A `\u` escape: a high surrogate waits for its other half. -/
def unescape (pending : Option Nat) (code : Nat) : Option (Option Nat × List Char) :=
  match pending with
  | none =>
      if highCode code then some (some code, [])
      else if lowCode code || code == 0 then none
      else some (none, [Char.ofNat code])
  | some first =>
      if lowCode code then
        some (none, [Char.ofNat ((first - 0xD800) * 0x400 + (code - 0xDC00) + 0x10000)])
      else none

/-- Reads a literal after its opening quote, and leaves what follows it. -/
def lexString (pending : Option Nat) : List Char → Option (List Char × List Char)
  | '"' :: rest => if pending.isSome then none else some ([], rest)
  | '\\' :: 'u' :: first :: second :: third :: fourth :: rest =>
      match (hexCode first second third fourth).bind (unescape pending) with
      | some (waiting, chars) =>
          (lexString waiting rest).map fun read => (chars ++ read.1, read.2)
      | none => none
  | '\\' :: letter :: rest =>
      match escapeLetter letter with
      | some char =>
          if pending.isSome then none
          else (lexString none rest).map fun read => (char :: read.1, read.2)
      | none => none
  | char :: rest =>
      if char.toNat < 0x20 ∨ char = '\\' ∨ pending.isSome then none
      else (lexString none rest).map fun read => (char :: read.1, read.2)
  | [] => none

/-! ## One code point -/

theorem hex_code {code : Nat} (small : code < 0x10000) {first second third fourth : Char}
    (digits : fixed 16 4 code = [first, second, third, fourth]) :
    hexCode first second third fourth = some code := by
  have read := scan_hex 4 code 0 []
  rw [List.append_nil, digits] at read
  rw [hexCode, read, Option.map_some]
  congr 1
  omega

theorem lex_unicode (pending : Option Nat) {code : Nat} (small : code < 0x10000) (rest : List Char) :
    lexString pending ('\\' :: 'u' :: fixed 16 4 code ++ rest) =
      match unescape pending code with
      | some (waiting, chars) =>
          (lexString waiting rest).map fun read => (chars ++ read.1, read.2)
      | none => none := by
  have digits : ∃ first second third fourth, fixed 16 4 code = [first, second, third, fourth] :=
    ⟨_, _, _, _, rfl⟩
  obtain ⟨first, second, third, fourth, digits⟩ := digits
  rw [digits]
  simp only [List.cons_append, List.nil_append, lexString, hex_code small digits, Option.bind_some]

/-- A character of its own: neither quote, backslash nor control. -/
def Bare (char : Char) : Prop := 0x20 ≤ char.toNat ∧ char ≠ '"' ∧ char ≠ '\\'

theorem lex_bare (pending : Option Nat) {char : Char} (bare : Bare char) (rest : List Char) :
    lexString pending (char :: rest) =
      if pending.isSome then none
      else (lexString none rest).map fun read => (char :: read.1, read.2) := by
  obtain ⟨printed, unquoted, plain⟩ := bare
  have low : ¬ char.toNat < 0x20 := by omega
  rw [lexString]
  · simp [low, plain]
  · exact unquoted
  · rintro _ _ _ _ _ rfl
    exact absurd rfl plain
  · rintro _ _ rfl
    exact absurd rfl plain

/-- How the writer puts one code point. -/
inductive Written (point : Nat) : List Char → Prop where
  | short (letter char : Char) (named : escapeLetter letter = some char) (apart : letter ≠ 'u')
      (code : char = character point) (valid : point.isValidChar) (solid : point ≠ 0) :
      Written point ['\\', letter]
  | unicode (small : point < 0x20 ∨ ¬ point.isValidChar) :
      Written point ('\\' :: 'u' :: fixed 16 4 point)
  | bare (plain : Bare (character point)) (valid : point.isValidChar) (solid : point ≠ 0) :
      Written point [character point]

theorem written (point : Nat) : Written point (quoted point) := by
  by_cases short : point ∈ [0x08, 0x09, 0x0A, 0x0C, 0x0D, 0x22, 0x5C]
  · simp only [List.mem_cons, List.not_mem_nil, or_false] at short
    have shorts : ∀ letter char, shortEscape point = some letter → escapeLetter letter = some char →
        letter ≠ 'u' → char = character point → point.isValidChar → point ≠ 0 →
        Written point (quoted point) := by
      intro letter char escape named apart code valid solid
      simp only [quoted, escape]
      exact .short letter char named apart code valid solid
    rcases short with rfl | rfl | rfl | rfl | rfl | rfl | rfl
    · exact shorts 'b' '\x08' rfl rfl (by decide) rfl (by decide) (by decide)
    · exact shorts 't' '\t' rfl rfl (by decide) rfl (by decide) (by decide)
    · exact shorts 'n' '\n' rfl rfl (by decide) rfl (by decide) (by decide)
    · exact shorts 'f' '\x0C' rfl rfl (by decide) rfl (by decide) (by decide)
    · exact shorts 'r' '\x0D' rfl rfl (by decide) rfl (by decide) (by decide)
    · exact shorts '"' '"' rfl rfl (by decide) rfl (by decide) (by decide)
    · exact shorts '\\' '\\' rfl rfl (by decide) rfl (by decide) (by decide)
  · simp only [List.mem_cons, List.not_mem_nil, or_false, not_or] at short
    have none : shortEscape point = none := by simp [shortEscape, short]
    by_cases small : point < 0x20 ∨ ¬ point.isValidChar
    · simp only [quoted, none, if_pos small]
      exact .unicode small
    · simp only [quoted, none, if_neg small]
      rw [not_or, not_not, Nat.not_lt] at small
      have is : character point = Char.ofNat point := by rw [character, if_pos small.2]
      have code : (character point).toNat = point := toNat_character small.2
      rw [← is]
      refine .bare ⟨by omega, ?_, ?_⟩ small.2 (by omega)
      · intro same
        rw [same] at code
        exact short.2.2.2.2.2.1 code.symm
      · intro same
        rw [same] at code
        exact short.2.2.2.2.2.2 code.symm

/-! ## Whole literals -/

/-- No low surrogate right after a high one: they would be one code point. -/
def Separate (points : List Nat) : Prop :=
  points.IsChain fun first second => ¬ (highCode first ∧ lowCode second)

/-- A high surrogate that waits is given up, unless a low one comes next. -/
theorem lex_waiting {first : Nat} {points : List Nat} (separate : Separate (first :: points))
    (high : highCode first) (bounded : ∀ point ∈ points, point < 0x110000) (rest : List Char) :
    lexString (some first) (points.flatMap quoted ++ '"' :: rest) = none := by
  cases points with
  | nil => rfl
  | cons point points =>
      have apart : lowCode point = false := by
        have pair := (List.isChain_cons_cons.mp separate).1
        simpa [high] using pair
      rw [List.flatMap_cons, List.append_assoc]
      have put := written point
      generalize quoted point = piece at put ⊢
      cases put with
      | short letter char named other code valid solid =>
          rw [List.cons_append, List.singleton_append, lexString]
          · simp [named]
          · rintro _ _ _ _ _ rfl
            exact absurd rfl other
      | unicode small =>
          have inside : point < 0x10000 := by
            have below := bounded point (by simp)
            rw [valid_iff] at small
            omega
          rw [lex_unicode _ inside]
          simp [unescape, apart]
      | bare plain valid solid =>
          rw [List.singleton_append, lex_bare _ plain]
          rfl

theorem lex_points {points : List Nat} (separate : Separate points)
    (bounded : ∀ point ∈ points, point < 0x110000) (rest : List Char) :
    lexString none (points.flatMap quoted ++ '"' :: rest) =
      if ∀ point ∈ points, point.isValidChar ∧ point ≠ 0 then some (points.map character, rest)
      else none := by
  induction points with
  | nil => rfl
  | cons point points ih =>
      have later := ih separate.tail fun other listed => bounded other (by simp [listed])
      have push : ∀ char, char = character point → point.isValidChar → point ≠ 0 →
          ((lexString none (points.flatMap quoted ++ '"' :: rest)).map fun read =>
            (char :: read.1, read.2)) =
          if ∀ other ∈ point :: points, other.isValidChar ∧ other ≠ 0 then
            some ((point :: points).map character, rest) else none := by
        intro char code valid solid
        rw [later, code]
        simp only [List.forall_mem_cons, valid, ne_eq, solid, not_false_eq_true, and_true, true_and]
        split <;> rfl
      have refused : ¬ (point.isValidChar ∧ point ≠ 0) →
          (if ∀ other ∈ point :: points, other.isValidChar ∧ other ≠ 0 then
            some ((point :: points).map character, rest) else none) = none := by
        intro bad
        rw [if_neg fun all => bad (all point (by simp))]
      rw [List.flatMap_cons, List.append_assoc]
      have put := written point
      generalize quoted point = piece at put ⊢
      cases put with
      | short letter char named other code valid solid =>
          rw [List.cons_append, List.singleton_append, lexString]
          · simp only [named]
            exact push char code valid solid
          · rintro _ _ _ _ _ rfl
            exact absurd rfl other
      | bare plain valid solid =>
          rw [List.singleton_append, lex_bare _ plain]
          exact push _ rfl valid solid
      | unicode small =>
          have inside : point < 0x10000 := by
            have below := bounded point (by simp)
            rw [valid_iff] at small
            omega
          rw [lex_unicode _ inside]
          by_cases high : highCode point
          · have invalid : ¬ point.isValidChar := by
              simp only [highCode, Bool.and_eq_true, decide_eq_true_eq] at high
              rw [valid_iff]
              omega
            simp only [unescape, high, if_true, List.nil_append]
            rw [lex_waiting separate high (fun other listed => bounded other (by simp [listed])),
              refused fun good => invalid good.1]
            rfl
          · by_cases bad : lowCode point || point == 0
            · have invalid : ¬ (point.isValidChar ∧ point ≠ 0) := by
                simp only [lowCode, Bool.or_eq_true, Bool.and_eq_true, decide_eq_true_eq,
                  beq_iff_eq] at bad
                rw [valid_iff]
                omega
              rw [refused invalid]
              simp only [unescape, high, bad]
              rfl
            · have good : point.isValidChar ∧ point ≠ 0 := by
                simp only [highCode, lowCode, Bool.or_eq_true, Bool.and_eq_true, decide_eq_true_eq,
                  beq_iff_eq, not_or, not_and] at high bad
                rw [valid_iff]
                omega
              have is : Char.ofNat point = character point := by rw [character, if_pos good.1]
              simp only [unescape, high, bad]
              exact push _ is good.1 good.2

theorem highCode_toNat (unit : UInt16) : highCode unit.toNat = high unit := rfl

theorem lowCode_toNat (unit : UInt16) : lowCode unit.toNat = low unit := rfl

theorem joined_apart (first second : UInt16) :
    highCode (joined first second) = false ∧ lowCode (joined first second) = false := by
  have large : 0x10000 ≤ joined first second := by
    simp only [joined]
    omega
  simp only [highCode, lowCode, Bool.and_eq_false_iff, decide_eq_false_iff_not]
  omega

/-- What comes first of a string's points is its first unit or not low. -/
theorem head_points (unit : UInt16) (rest : Units) :
    ∃ point later, points (unit :: rest) = point :: later ∧ (lowCode point → point = unit.toNat) := by
  cases rest with
  | nil => exact ⟨unit.toNat, [], rfl, fun _ => rfl⟩
  | cons second rest =>
      by_cases pair : high unit && low second
      · refine ⟨_, _, points_pair pair rest, ?_⟩
        intro low
        simp [(joined_apart unit second).2] at low
      · exact ⟨_, _, points_alone (by simpa using pair) rest, fun _ => rfl⟩

theorem separate_points (units : Units) : Separate (points units) := by
  induction units using points.induct with
  | case1 => exact .nil
  | case2 unit => exact .singleton _
  | case3 first second rest pair ih =>
      rw [points_pair pair]
      cases later : points rest with
      | nil => exact .singleton _
      | cons point others =>
          rw [Separate, List.isChain_cons_cons, ← later]
          refine ⟨?_, ih⟩
          simp [(joined_apart first second).1]
  | case4 first second rest alone ih =>
      have alone : (high first && low second) = false := by simpa using alone
      rw [points_alone alone]
      obtain ⟨point, later, is, head⟩ := head_points second rest
      rw [is] at ih ⊢
      rw [Separate, List.isChain_cons_cons]
      refine ⟨?_, ih⟩
      rintro ⟨upper, lower⟩
      rw [head lower, lowCode_toNat] at lower
      rw [highCode_toNat] at upper
      simp [upper, lower] at alone

theorem points_bounded (units : Units) : ∀ point ∈ points units, point < 0x110000 := by
  have single : ∀ unit : UInt16, unit.toNat < 0x110000 := fun unit => by
    have small := unit.toNat_lt
    omega
  induction units using points.induct with
  | case1 => exact List.forall_mem_nil _
  | case2 unit => exact List.forall_mem_singleton.mpr (single unit)
  | case3 first second rest pair ih =>
      rw [points_pair pair, List.forall_mem_cons]
      refine ⟨?_, ih⟩
      simp only [high, low, Bool.and_eq_true, decide_eq_true_eq] at pair
      simp only [joined]
      omega
  | case4 first second rest alone ih =>
      rw [points_alone (by simpa using alone), List.forall_mem_cons]
      exact ⟨single first, ih⟩

/-- The reader takes what the writer makes of a string exactly when the string is well
formed and without U+0000. It reads the string's own text then. -/
theorem lex_literal (units : Units) (rest : List Char) :
    lexString none (literal units ++ rest) =
      if WellFormed units ∧ (0 : UInt16) ∉ units then some (text units, rest) else none := by
  have clean : (∀ point ∈ points units, point.isValidChar ∧ point ≠ 0) ↔
      WellFormed units ∧ (0 : UInt16) ∉ units := by
    rw [← mem_points_single ⟨rfl, rfl⟩ units, WellFormed]
    constructor
    · intro all
      exact ⟨fun point listed => (all point listed).1, fun listed => (all _ listed).2 rfl⟩
    · rintro ⟨formed, solid⟩ point listed
      refine ⟨formed point listed, ?_⟩
      rintro rfl
      exact solid listed
  rw [literal, List.append_assoc, List.singleton_append,
    lex_points (separate_points units) (points_bounded units)]
  simp only [clean]
  rfl

end Foc.Library.JsonLiteral
