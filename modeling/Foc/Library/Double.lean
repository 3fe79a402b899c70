import Mathlib.Data.Rat.Defs
import Mathlib.Algebra.Order.Ring.Rat
import Mathlib.Tactic.Common

/-! The numbers of JavaScript, but for the sign of zero. Nothing compares with NaN, and
an infinity is past every finite number. -/
namespace Foc.Library

inductive Double where
  | nan
  | infinite (negative : Bool)
  | finite (value : Rat)
  deriving DecidableEq, Repr

namespace Double

/-- `bound <= number`. -/
def atLeast (bound : Int) : Double → Bool
  | nan => false
  | infinite negative => !negative
  | finite value => decide ((bound : Rat) ≤ value)

/-- `Number.isInteger`, with the integer. -/
def whole : Double → Option Int
  | finite value => if value.den = 1 then some value.num else none
  | _ => none

def ofInt (value : Int) : Double := finite value

theorem whole_some {number : Double} {value : Int} :
    number.whole = some value ↔ number = ofInt value := by
  cases number with
  | nan => simp [whole, ofInt]
  | infinite negative => simp [whole, ofInt]
  | finite rational =>
      simp only [whole, ofInt, finite.injEq]
      constructor
      · intro is
        split at is
        · next one =>
          cases is
          exact (Rat.coe_int_num_of_den_eq_one one).symm
        · cases is
      · rintro rfl
        rfl

end Double

end Foc.Library
