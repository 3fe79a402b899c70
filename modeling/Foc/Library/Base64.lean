import Mathlib.Data.List.Basic
import Mathlib.Tactic.Common
import Mathlib.Tactic.IntervalCases

/-!
Bytes as text, six bits a character, in the alphabet for URLs and without padding.
A reader passes over what is outside the alphabet and takes the other alphabet's two
characters too; it reads back what is written.
-/
namespace Foc.Library.Base64

def sextetChar (sextet : Nat) : Char :=
  if sextet < 26 then Char.ofNat (65 + sextet)
  else if sextet < 52 then Char.ofNat (71 + sextet)
  else if sextet < 62 then Char.ofNat (sextet - 4)
  else if sextet = 62 then '-'
  else '_'

def sextetValue (char : Char) : Option Nat :=
  if char.isUpper then some (char.toNat - 65)
  else if char.isLower then some (char.toNat - 71)
  else if char.isDigit then some (char.toNat + 4)
  else if char = '-' ∨ char = '+' then some 62
  else if char = '_' ∨ char = '/' then some 63
  else none

def sextets : List UInt8 → List Nat
  | first :: second :: third :: rest =>
      let group := first.toNat * 65536 + second.toNat * 256 + third.toNat
      group / 262144 :: group / 4096 % 64 :: group / 64 % 64 :: group % 64 :: sextets rest
  | [first, second] =>
      let group := first.toNat * 1024 + second.toNat * 4
      [group / 4096, group / 64 % 64, group % 64]
  | [first] => [first.toNat / 4, first.toNat % 4 * 16]
  | [] => []

def octets : List Nat → List UInt8
  | first :: second :: third :: fourth :: rest =>
      let group := first * 262144 + second * 4096 + third * 64 + fourth
      UInt8.ofNat (group / 65536) :: UInt8.ofNat (group / 256) :: UInt8.ofNat group :: octets rest
  | [first, second, third] =>
      let group := first * 4096 + second * 64 + third
      [UInt8.ofNat (group / 1024), UInt8.ofNat (group / 4)]
  | [first, second] => [UInt8.ofNat (first * 4 + second / 16)]
  | [_] => []
  | [] => []

def encode (bytes : List UInt8) : List Char := (sextets bytes).map sextetChar

def decode (text : List Char) : List UInt8 := octets (text.filterMap sextetValue)

theorem sextet_value {sextet : Nat} (small : sextet < 64) :
    sextetValue (sextetChar sextet) = some sextet := by
  interval_cases sextet <;> decide

theorem sextets_small (bytes : List UInt8) : ∀ sextet ∈ sextets bytes, sextet < 64 := by
  fun_induction sextets bytes with
  | case1 first second third rest group ih =>
      have bounds := And.intro first.toNat_lt (And.intro second.toNat_lt third.toNat_lt)
      simp only [List.forall_mem_cons]
      refine ⟨?_, ?_, ?_, ?_, ih⟩ <;> omega
  | case2 first second group =>
      have bounds := And.intro first.toNat_lt second.toNat_lt
      simp only [List.forall_mem_cons]
      refine ⟨?_, ?_, ?_, by simp⟩ <;> omega
  | case3 first =>
      have bound := first.toNat_lt
      simp only [List.forall_mem_cons]
      refine ⟨?_, ?_, by simp⟩ <;> omega
  | case4 => simp

theorem byte_of_nat (byte : UInt8) {number : Nat} (is : number % 256 = byte.toNat) :
    UInt8.ofNat number = byte :=
  UInt8.toNat_inj.mp is

theorem octets_sextets (bytes : List UInt8) : octets (sextets bytes) = bytes := by
  fun_induction sextets bytes with
  | case1 first second third rest group ih =>
      have bounds := And.intro first.toNat_lt (And.intro second.toNat_lt third.toNat_lt)
      simp only [octets, ih]
      rw [byte_of_nat first (by omega), byte_of_nat second (by omega),
        byte_of_nat third (by omega)]
  | case2 first second group =>
      have bounds := And.intro first.toNat_lt second.toNat_lt
      simp only [octets]
      rw [byte_of_nat first (by omega), byte_of_nat second (by omega)]
  | case3 first =>
      have bound := first.toNat_lt
      simp only [octets]
      rw [byte_of_nat first (by omega)]
  | case4 => rfl

theorem values_chars {numbers : List Nat} (small : ∀ sextet ∈ numbers, sextet < 64) :
    (numbers.map sextetChar).filterMap sextetValue = numbers := by
  induction numbers with
  | nil => rfl
  | cons sextet rest ih =>
      rw [List.forall_mem_cons] at small
      rw [List.map_cons, List.filterMap_cons, sextet_value small.1, ih small.2]

theorem decode_encode (bytes : List UInt8) : decode (encode bytes) = bytes := by
  rw [decode, encode, values_chars (sextets_small bytes), octets_sextets]

theorem sextet_ascii (sextet : Nat) (small : sextet < 64) : (sextetChar sextet).toNat < 128 := by
  interval_cases sextet <;> decide

theorem encode_ascii (bytes : List UInt8) : ∀ char ∈ encode bytes, char.toNat < 128 := by
  intro char member
  obtain ⟨sextet, present, rfl⟩ := List.mem_map.mp member
  exact sextet_ascii sextet (sextets_small bytes sextet present)

theorem length_encode (bytes : List UInt8) : 3 * (encode bytes).length ≤ 4 * bytes.length + 2 := by
  rw [encode, List.length_map]
  fun_induction sextets bytes with
  | case1 first second third rest group ih =>
      simp only [List.length_cons]
      omega
  | case2 => simp
  | case3 => simp
  | case4 => simp

end Foc.Library.Base64
