import Mathlib

/-! Totals over a keyed table: what inserting a row, replacing one or changing
the summed value does to a sum over all rows. Laws only for the functional
table; no order of rows is observed. -/
namespace Foc.Library.Keyed

variable {Key : Type} {Row : Key → Type} [DecidableEq Key]

def total (value : (key : Key) → Row key → Int) (table : AList Row) : Int :=
  (table.entries.map fun entry => value entry.1 entry.2).sum

variable (value : (key : Key) → Row key → Int) (table : AList Row)

theorem mem_entries_iff (key : Key) (row : Row key) :
    (⟨key, row⟩ : Sigma Row) ∈ table.entries ↔ table.lookup key = some row :=
  AList.mem_lookup_iff.symm

theorem total_insert (key : Key) (row : Row key) :
    total value (table.insert key row) = value key row + total value (table.erase key) := by
  simp [total, AList.entries_insert, AList.erase]

theorem total_insert_absent (key : Key) (row : Row key) (absent : table.lookup key = none) :
    total value (table.insert key row) = value key row + total value table := by
  have fresh : key ∉ table := AList.lookup_eq_none.mp absent
  simp only [total, AList.entries_insert_of_notMem fresh, List.map_cons, List.sum_cons]

theorem total_split (key : Key) (row : Row key) (found : table.lookup key = some row) :
    total value table = value key row + total value (table.erase key) := by
  have member : key ∈ table.entries.keys := by
    rw [← AList.keys, ← AList.mem_keys, ← AList.lookup_isSome, found]
    rfl
  obtain ⟨stored, before, after, _, entries, erased⟩ := List.exists_of_kerase member
  have same : stored = row := by
    have present : (⟨key, stored⟩ : Sigma Row) ∈ table.entries := by simp [entries]
    rw [mem_entries_iff, found] at present
    exact (Option.some.inj present).symm
  have rest : (table.erase key).entries = before ++ after := erased
  unfold total
  rw [rest, entries, same]
  simp only [List.map_append, List.map_cons, List.sum_append, List.sum_cons]
  omega

theorem total_replace (key : Key) (old new : Row key) (found : table.lookup key = some old) :
    total value (table.insert key new) =
      total value table - value key old + value key new := by
  have split := total_split value table key old found
  have inserted := total_insert value table key new
  omega

variable {value table}

theorem total_congr {other : (key : Key) → Row key → Int}
    (same : ∀ key row, table.lookup key = some row → value key row = other key row) :
    total value table = total other table := by
  unfold total
  congr 1
  apply List.map_congr_left
  intro entry member
  exact same entry.1 entry.2 ((mem_entries_iff table entry.1 entry.2).mp member)

theorem total_nonneg
    (nonneg : ∀ key row, table.lookup key = some row → 0 ≤ value key row) :
    0 ≤ total value table := by
  apply List.sum_nonneg
  intro amount member
  obtain ⟨entry, present, rfl⟩ := List.mem_map.mp member
  exact nonneg entry.1 entry.2 ((mem_entries_iff table entry.1 entry.2).mp present)

theorem total_le_of_found (value : (key : Key) → Row key → Int) {key : Key} {row : Row key}
    (found : table.lookup key = some row)
    (nonneg : ∀ key row, table.lookup key = some row → 0 ≤ value key row) :
    value key row ≤ total value table := by
  have split := total_split value table key row found
  have rest : 0 ≤ total value (table.erase key) := by
    apply total_nonneg
    intro other row present
    by_cases same : other = key
    · subst same; simp at present
    · exact nonneg other row (by rwa [AList.lookup_erase_ne same] at present)
  omega

end Foc.Library.Keyed
