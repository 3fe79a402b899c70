import Mathlib

/-! A map that is walked in the order in which its keys were inserted, as JavaScript's `Map` is:
setting a key that is there keeps its place. What an order of the values becomes. -/
namespace Foc.Library

structure OrderedMap (Key Value : Type) where
  entries : List (Key × Value)
  once : (entries.map Prod.fst).Nodup

namespace OrderedMap

variable {Key Value : Type}

def empty : OrderedMap Key Value where
  entries := []
  once := List.nodup_nil

def size (map : OrderedMap Key Value) : Nat := map.entries.length

variable [DecidableEq Key]

def get? (map : OrderedMap Key Value) (key : Key) : Option Value :=
  (map.entries.find? (·.1 = key)).map Prod.snd

def delete (map : OrderedMap Key Value) (key : Key) : OrderedMap Key Value where
  entries := map.entries.filter (·.1 ≠ key)
  once := map.once.sublist (List.filter_sublist.map Prod.fst)

/-- A key that is there keeps its place. -/
def replaced (entries : List (Key × Value)) (key : Key) (value : Value) : List (Key × Value) :=
  entries.map fun entry => if entry.1 = key then (key, value) else entry

theorem replaced_keys (entries : List (Key × Value)) (key : Key) (value : Value) :
    (replaced entries key value).map Prod.fst = entries.map Prod.fst := by
  rw [replaced, List.map_map]
  apply List.map_congr_left
  intro entry _
  simp only [Function.comp_apply]
  split
  · rename_i same
    exact same.symm
  · rfl

def set (map : OrderedMap Key Value) (key : Key) (value : Value) : OrderedMap Key Value :=
  if held : key ∈ map.entries.map Prod.fst then
    { entries := replaced map.entries key value
      once := by
        rw [replaced_keys]
        exact map.once }
  else
    { entries := map.entries ++ [(key, value)]
      once := by
        rw [List.map_append, List.nodup_append]
        refine ⟨map.once, List.nodup_singleton _, ?_⟩
        rintro other before last member rfl
        rw [List.map_singleton, List.mem_singleton] at member
        have same : other = key := member
        rw [same] at before
        exact held before }

variable {map : OrderedMap Key Value} {key : Key} {value : Value}

theorem get_none (absent : map.get? key = none) : key ∉ map.entries.map Prod.fst := by
  intro member
  obtain ⟨entry, there, is⟩ := List.mem_map.mp member
  have missing := List.find?_eq_none.mp (Option.map_eq_none_iff.mp absent) entry there
  exact missing (decide_eq_true is)

theorem get_some (found : map.get? key = some value) : (key, value) ∈ map.entries := by
  obtain ⟨entry, first, rfl⟩ := Option.map_eq_some_iff.mp found
  have there := List.mem_of_find?_eq_some first
  have is := List.find?_some first
  rw [decide_eq_true_eq] at is
  rw [← is]
  exact there

theorem get_of_mem (there : (key, value) ∈ map.entries) : map.get? key = some value := by
  cases found : map.get? key with
  | none => exact absurd (List.mem_map_of_mem there) (get_none found)
  | some other =>
    have same := List.inj_on_of_nodup_map map.once (get_some found) there rfl
    have equal : other = value := congrArg Prod.snd same
    rw [equal]

theorem set_new (absent : key ∉ map.entries.map Prod.fst) :
    (map.set key value).entries = map.entries ++ [(key, value)] := by
  unfold set
  rw [dif_neg absent]

theorem set_held (held : key ∈ map.entries.map Prod.fst) :
    (map.set key value).entries = replaced map.entries key value := by
  unfold set
  rw [dif_pos held]

theorem mem_set {entry : Key × Value} (member : entry ∈ (map.set key value).entries) :
    entry ∈ map.entries ∨ entry = (key, value) := by
  by_cases held : key ∈ map.entries.map Prod.fst
  · rw [set_held held, replaced, List.mem_map] at member
    obtain ⟨old, there, rfl⟩ := member
    split
    · exact .inr rfl
    · exact .inl there
  · rw [set_new held, List.mem_append, List.mem_singleton] at member
    exact member

/-! ## Age -/

section Age

variable {older : Value → Value → Prop}

/-- The values in the order of their keys, each older than those after it. -/
def Aged (older : Value → Value → Prop) (map : OrderedMap Key Value) : Prop :=
  map.entries.Pairwise fun earlier later => older earlier.2 later.2

theorem Aged.delete (aged : Aged older map) : Aged older (map.delete key) := aged.filter _

theorem Aged.set_new (aged : Aged older map) (absent : key ∉ map.entries.map Prod.fst)
    (newest : ∀ entry ∈ map.entries, older entry.2 value) : Aged older (map.set key value) := by
  unfold Aged
  rw [OrderedMap.set_new absent, List.pairwise_append]
  refine ⟨aged, List.pairwise_singleton _ _, ?_⟩
  intro entry member last there
  rw [List.mem_singleton.mp there]
  exact newest entry member

theorem replaced_absent {entries : List (Key × Value)} (absent : key ∉ entries.map Prod.fst) :
    replaced entries key value = entries := by
  conv_rhs => rw [← List.map_id entries]
  apply List.map_congr_left
  intro entry member
  refine if_neg ?_
  rintro rfl
  exact absent (List.mem_map_of_mem member)

theorem set_split {before later : List (Key × Value)} {old : Value}
    (is : map.entries = before ++ (key, old) :: later) :
    (map.set key value).entries = before ++ (key, value) :: later := by
  have once := map.once
  rw [is, List.map_append, List.map_cons] at once
  obtain ⟨-, rest, apart⟩ := List.nodup_append.mp once
  have early : key ∉ before.map Prod.fst := fun member =>
    apart key member key List.mem_cons_self rfl
  have late : key ∉ later.map Prod.fst := (List.nodup_cons.mp rest).1
  have held : key ∈ map.entries.map Prod.fst := by
    rw [is]
    simp
  have split : replaced (before ++ (key, old) :: later) key value =
      replaced before key value ++ (key, value) :: replaced later key value := by
    simp [replaced]
  rw [set_held held, is, split, replaced_absent early, replaced_absent late]

/-- A value set in the place of an old one keeps the order exactly where its key is the last. -/
theorem aged_set_held (aged : Aged older map) (held : key ∈ map.entries.map Prod.fst)
    (newest : ∀ entry ∈ map.entries, older entry.2 value)
    (strict : ∀ entry ∈ map.entries, ¬ older value entry.2) :
    Aged older (map.set key value) ↔ map.entries.getLast?.map Prod.fst = some key := by
  obtain ⟨⟨_, old⟩, member, rfl⟩ := List.mem_map.mp held
  obtain ⟨before, later, is⟩ := List.append_of_mem member
  have ordered := aged
  unfold Aged at ordered ⊢
  dsimp only
  rw [set_split is, is]
  rw [is] at ordered newest strict
  obtain ⟨early, rest, across⟩ := List.pairwise_append.mp ordered
  rw [List.pairwise_append]
  cases later with
  | nil =>
    constructor
    · intro _
      simp
    · intro _
      refine ⟨early, List.pairwise_singleton _ _, ?_⟩
      intro entry member last there
      rw [List.mem_singleton.mp there]
      exact newest entry (List.mem_append_left _ member)
  | cons next more =>
    constructor
    · rintro ⟨-, held, -⟩
      have first := (List.pairwise_cons.mp held).1 next List.mem_cons_self
      exact absurd first (strict next (by simp))
    · intro last
      -- The last key is another's, for no key is there twice.
      have once := map.once
      rw [is, List.map_append, List.map_cons] at once
      obtain ⟨-, keys, -⟩ := List.nodup_append.mp once
      have apart := (List.nodup_cons.mp keys).1
      obtain ⟨entry, ends, same⟩ := Option.map_eq_some_iff.mp last
      rw [List.getLast?_append_cons, List.getLast?_cons_cons] at ends
      have there : entry.1 ∈ (next :: more).map Prod.fst :=
        List.mem_map_of_mem (List.mem_of_getLast? ends)
      rw [same] at there
      exact absurd there apart

end Age

end OrderedMap

end Foc.Library
