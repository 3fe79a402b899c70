import Mathlib.Data.List.AList
import Mathlib.Tactic.Common

/-! The rows in which one keyed table differs from another, and a third table with those
rows put in it. -/
namespace Foc.Library.Difference

variable {Key Row : Type} [DecidableEq Key] [DecidableEq Row]

abbrev Table (Key Row : Type) := AList fun _ : Key => Row

def difference (old new : Table Key Row) : List (Key × Row) :=
  (new.entries.filter fun entry => decide (old.lookup entry.1 ≠ some entry.2)).map fun entry =>
    (entry.1, entry.2)

omit [DecidableEq Row] in
def patch (table : Table Key Row) (rows : List (Key × Row)) : Table Key Row :=
  rows.foldr (fun row table => table.insert row.1 row.2) table

variable {old new table : Table Key Row} {key : Key} {row : Row} {rows : List (Key × Row)}

theorem difference_self : difference table table = [] := by
  rw [difference, List.map_eq_nil_iff, List.filter_eq_nil_iff]
  intro entry member
  have found : table.lookup entry.1 = some entry.2 := AList.mem_lookup_iff.mpr member
  simp [found]

omit [DecidableEq Row] in
theorem kerase_filter {entries : List (Sigma fun _ : Key => Row)} (distinct : entries.NodupKeys) :
    entries.kerase key = entries.filter fun entry => decide (entry.1 ≠ key) := by
  induction entries with
  | nil => rfl
  | cons entry rest ih =>
      obtain ⟨absent, distinct⟩ := List.nodupKeys_cons.mp distinct
      by_cases same : key = entry.1
      · subst same
        rw [List.kerase_cons_eq rfl, List.filter_cons_of_neg (by simp)]
        symm
        rw [List.filter_eq_self]
        intro other member
        rw [decide_eq_true_eq]
        intro again
        exact absent (again ▸ List.mem_map_of_mem member)
      · have kept : decide (entry.1 ≠ key) = true := decide_eq_true (Ne.symm same)
        rw [List.kerase_cons_ne same, ih distinct, List.filter_cons, if_pos kept]

theorem difference_insert (changed : old.lookup key ≠ some row) :
    difference old (new.insert key row) =
      (key, row) :: (difference old new).filter fun entry => decide (entry.1 ≠ key) := by
  have differs : decide (old.lookup key ≠ some row) = true := decide_eq_true changed
  rw [difference, AList.entries_insert, List.filter_cons, if_pos differs, List.map_cons,
    kerase_filter new.nodupKeys, difference, List.filter_map, List.filter_filter,
    List.filter_filter]
  congr 2
  apply List.filter_congr
  intro entry _
  exact Bool.and_comm _ _

omit [DecidableEq Row] in
theorem patch_lookup (free : ∀ row, (key, row) ∉ rows) :
    (patch table rows).lookup key = table.lookup key := by
  induction rows with
  | nil => rfl
  | cons first rest ih =>
      have differs : key ≠ first.1 := by
        rintro rfl
        exact free first.2 List.mem_cons_self
      change ((patch table rest).insert first.1 first.2).lookup key = _
      rw [AList.lookup_insert_ne differs]
      exact ih fun row member => free row (List.mem_cons_of_mem _ member)

theorem difference_found (member : (key, row) ∈ difference old new) : new.lookup key = some row := by
  obtain ⟨entry, kept, same⟩ := List.mem_map.mp member
  cases same
  exact AList.mem_lookup_iff.mpr (List.mem_filter.mp kept).1

omit [DecidableEq Row] in
theorem patch_found (found : (patch table rows).lookup key = some row) :
    (key, row) ∈ rows ∨ table.lookup key = some row := by
  induction rows with
  | nil => exact .inr found
  | cons first rest ih =>
      change ((patch table rest).insert first.1 first.2).lookup key = some row at found
      by_cases same : key = first.1
      · subst same
        rw [AList.lookup_insert, Option.some.injEq] at found
        subst found
        exact .inl List.mem_cons_self
      · rw [AList.lookup_insert_ne same] at found
        rcases ih found with later | there
        · exact .inl (List.mem_cons_of_mem _ later)
        · exact .inr there

end Foc.Library.Difference
