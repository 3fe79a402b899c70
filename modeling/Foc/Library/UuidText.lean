import Foc.Library.Digits

/-! UUIDs as numbers and their text in five groups of hexadecimal digits. A reader
takes those of the known versions, the least and the greatest. -/
namespace Foc.Library.UuidText
open Digits

def uuidText (id : Nat) : List Char :=
  fixed 16 8 (id / 2 ^ 96) ++ '-' :: (fixed 16 4 (id / 2 ^ 80) ++ '-' :: (fixed 16 4 (id / 2 ^ 64) ++
    '-' :: (fixed 16 4 (id / 2 ^ 48) ++ '-' :: fixed 16 12 id)))

def scanGroup (width : Nat) (text : List Char) : Option (Nat × List Char) :=
  match scanNumber 16 width 0 text with
  | some (number, '-' :: rest) => some (number, rest)
  | _ => none

def version (id : Nat) : Nat := id / 2 ^ 76 % 16

def variant (id : Nat) : Nat := id / 2 ^ 60 % 16

/-- A UUID of one of the versions 1 to 8. -/
def Versioned (id : Nat) : Prop :=
  id < 2 ^ 128 ∧ (1 ≤ version id ∧ version id ≤ 8) ∧ 8 ≤ variant id ∧ variant id ≤ 11

instance (id : Nat) : Decidable (Versioned id) := by
  unfold Versioned
  infer_instance

/-- What the reader takes: a versioned UUID, the least or the greatest. -/
def taken (text : List Char) (id : Nat) : Bool :=
  decide (Versioned id) || text == uuidText 0 || text == uuidText (2 ^ 128 - 1)

structure Groups where
  first : Nat
  second : Nat
  third : Nat
  fourth : Nat
  fifth : Nat

def Groups.id (groups : Groups) : Nat :=
  groups.first * 2 ^ 96 + groups.second * 2 ^ 80 + groups.third * 2 ^ 64 + groups.fourth * 2 ^ 48 +
    groups.fifth

def scanGroups (text : List Char) : Option Groups := do
  let (first, rest) ← scanGroup 8 text
  let (second, rest) ← scanGroup 4 rest
  let (third, rest) ← scanGroup 4 rest
  let (fourth, rest) ← scanGroup 4 rest
  let (fifth, rest) ← scanNumber 16 12 0 rest
  if rest = [] then some { first, second, third, fourth, fifth } else none

def scanUuid (text : List Char) : Option Nat :=
  (scanGroups text).bind fun groups => if taken text groups.id then some groups.id else none

theorem scan_group (width number : Nat) (rest : List Char) :
    scanGroup width (fixed 16 width number ++ '-' :: rest) = some (number % 16 ^ width, rest) := by
  simp only [scanGroup, scan_hex, Nat.zero_mul, Nat.zero_add]

def groupsOf (id : Nat) : Groups :=
  { first := id / 2 ^ 96 % 16 ^ 8, second := id / 2 ^ 80 % 16 ^ 4, third := id / 2 ^ 64 % 16 ^ 4,
    fourth := id / 2 ^ 48 % 16 ^ 4, fifth := id % 16 ^ 12 }

theorem groups_id {id : Nat} (small : id < 2 ^ 128) : (groupsOf id).id = id := by
  simp only [Groups.id, groupsOf]
  omega

theorem scan_groups (id : Nat) : scanGroups (uuidText id) = some (groupsOf id) := by
  have last : scanNumber 16 12 0 (fixed 16 12 id) = some (id % 16 ^ 12, []) := by
    have read := scan_hex 12 id 0 []
    rwa [List.append_nil, Nat.zero_mul, Nat.zero_add] at read
  simp only [scanGroups, uuidText, scan_group, last, Option.bind_eq_bind, Option.bind_some, if_true]
  rfl

theorem scan_uuid {id : Nat} (versioned : Versioned id) : scanUuid (uuidText id) = some id := by
  have takes : taken (uuidText id) id = true := by
    simp [taken, versioned]
  rw [scanUuid, scan_groups, Option.bind_some, groups_id versioned.1, if_pos takes]

end Foc.Library.UuidText
