import Mathlib.Data.String.Basic
import Mathlib.Tactic.Common
import Mathlib.Tactic.IntervalCases
import Mathlib.Tactic.Ring

/-! Numbers written with a fixed count of digits, in any base up to sixteen, and read
back: a scanner takes so many digits and leaves the rest. -/
namespace Foc.Library.Digits

/-- The last digits of a number, with zeros before it. -/
def fixed (base : Nat) : Nat → Nat → List Char
  | 0, _ => []
  | width + 1, number => Nat.digitChar (number / base ^ width % base) :: fixed base width number

/-- A number with zeros before it, up to a width. -/
def padded (base width number : Nat) : List Char :=
  if number < base ^ width then fixed base width number else Nat.toDigits base number

def digitValue (char : Char) : Option Nat :=
  if char.isDigit then some (char.toNat - 48)
  else if 'a' ≤ char ∧ char ≤ 'f' then some (char.toNat - 87)
  else if 'A' ≤ char ∧ char ≤ 'F' then some (char.toNat - 55)
  else none

/-- The number that so many digits write, and what follows them. -/
def scanNumber (base : Nat) : Nat → Nat → List Char → Option (Nat × List Char)
  | 0, number, rest => some (number, rest)
  | width + 1, number, char :: rest =>
      match digitValue char with
      | some digit =>
          if digit < base then scanNumber base width (number * base + digit) rest else none
      | none => none
  | _ + 1, _, [] => none

theorem digit_value {digit : Nat} (small : digit < 16) :
    digitValue (Nat.digitChar digit) = some digit := by
  interval_cases digit <;> decide

theorem scan_fixed {base : Nat} (positive : 0 < base) (known : base ≤ 16) (width number before : Nat)
    (rest : List Char) :
    scanNumber base width before (fixed base width number ++ rest) =
      some (before * base ^ width + number % base ^ width, rest) := by
  induction width generalizing before with
  | zero => simp [scanNumber, fixed, Nat.mod_one]
  | succ width ih =>
      have small : number / base ^ width % base < base := Nat.mod_lt _ positive
      simp only [fixed, List.cons_append, scanNumber, digit_value (small.trans_le known), small,
        if_true, ih]
      rw [Nat.pow_succ, Nat.mod_mul]
      congr 2
      ring

theorem scan_decimal (width number before : Nat) (rest : List Char) :
    scanNumber 10 width before (fixed 10 width number ++ rest) =
      some (before * 10 ^ width + number % 10 ^ width, rest) :=
  scan_fixed (by decide) (by decide) width number before rest

theorem scan_hex (width number before : Nat) (rest : List Char) :
    scanNumber 16 width before (fixed 16 width number ++ rest) =
      some (before * 16 ^ width + number % 16 ^ width, rest) :=
  scan_fixed (by decide) (by decide) width number before rest

theorem length_fixed (base width number : Nat) : (fixed base width number).length = width := by
  induction width with
  | zero => rfl
  | succ width ih => simp [fixed, ih]

/-- Whatever holds of every digit holds of every character written. -/
theorem fixed_all {base : Nat} (positive : 0 < base) {fact : Char → Prop}
    (holds : ∀ digit < base, fact (Nat.digitChar digit)) (width number : Nat) :
    ∀ char ∈ fixed base width number, fact char := by
  induction width with
  | zero => simp [fixed]
  | succ width ih =>
      simp only [fixed, List.forall_mem_cons]
      exact ⟨holds _ (Nat.mod_lt _ positive), ih⟩

theorem fixed_decimal (width number : Nat) :
    ∀ char ∈ fixed 10 width number, char.isDigit = true := by
  have digits : ∀ digit < 10, (Nat.digitChar digit).isDigit = true := by decide
  exact fixed_all (by decide) digits width number

end Foc.Library.Digits
