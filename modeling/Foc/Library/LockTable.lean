import Mathlib.Data.List.Basic
import Mathlib.Tactic.Common

/-! Holders of locks in a list, each known by its place: what changes a holder or adds
one keeps the locks exclusive. -/
namespace Foc.Library.LockTable

variable {Holder Lock : Type}

/-- No two of them hold the same lock. -/
def Exclusive (held : Holder → Option Lock) (holders : List Holder) : Prop :=
  ∀ (first second : Nat) (one other : Holder), holders[first]? = some one → holders[second]? = some other →
    held one = held other → held one ≠ none → first = second

variable {held : Holder → Option Lock} {holders : List Holder}

theorem get_set {index other : Nat} {holder old new : Holder}
    (found : holders[index]? = some old) :
    (holders.set index new)[other]? = some holder ↔
      index = other ∧ holder = new ∨ index ≠ other ∧ holders[other]? = some holder := by
  have inside : index < holders.length := (List.getElem?_eq_some_iff.mp found).1
  rw [List.getElem?_set]
  by_cases same : index = other
  · simp [same, same ▸ inside, eq_comm]
  · simp [same]

theorem exclusive_set {index : Nat} {old new : Holder} (exclusive : Exclusive held holders)
    (found : holders[index]? = some old)
    (free : held new = none ∨ held new = held old ∨
      ∀ (other : Nat) holder, holders[other]? = some holder → held holder ≠ held new) :
    Exclusive held (holders.set index new) := by
  have apart : ∀ (other : Nat) holder, index ≠ other → holders[other]? = some holder →
      held holder = held new → held new ≠ none → False := by
    intro other holder differs there same takes
    rcases free with none | kept | free
    · exact takes none
    · exact differs (exclusive other index holder old there found (same.trans kept)
        (same ▸ takes)).symm
    · exact free other holder there same
  intro first second one other at_ there same takes
  rw [get_set found] at at_ there
  rcases at_ with ⟨rfl, rfl⟩ | ⟨differs, at_⟩
  · rcases there with ⟨rfl, -⟩ | ⟨differs, there⟩
    · rfl
    · exact (apart second other differs there same.symm takes).elim
  · rcases there with ⟨rfl, rfl⟩ | ⟨-, there⟩
    · exact (apart first one differs at_ same (same ▸ takes)).elim
    · exact exclusive first second one other at_ there same takes

theorem get_append {index : Nat} {holder new : Holder}
    (found : (holders ++ [new])[index]? = some holder) :
    holders[index]? = some holder ∨ index = holders.length ∧ holder = new := by
  rw [List.getElem?_append] at found
  split at found
  · exact .inl found
  · next past =>
    rw [List.getElem?_singleton] at found
    split at found
    · cases found
      exact .inr ⟨by omega, rfl⟩
    · cases found

theorem exclusive_append {new : Holder} (exclusive : Exclusive held holders)
    (free : held new = none) : Exclusive held (holders ++ [new]) := by
  intro first second one other at_ there same takes
  rcases get_append at_ with at_ | ⟨-, rfl⟩
  · rcases get_append there with there | ⟨-, rfl⟩
    · exact exclusive first second one other at_ there same takes
    · exact absurd (same.trans free) takes
  · exact absurd free takes

/-! ## Holders of several locks -/
section Several

variable {locks : Holder → List Lock}

/-- No lock is held twice. -/
def Apart (locks : Holder → List Lock) (holders : List Holder) : Prop :=
  ∀ (first second : Nat) (one other : Holder) (lock : Lock), holders[first]? = some one →
    holders[second]? = some other → lock ∈ locks one → lock ∈ locks other → first = second

theorem apart_set {index : Nat} {old new : Holder} (apart : Apart locks holders)
    (found : holders[index]? = some old)
    (free : ∀ lock ∈ locks new, lock ∈ locks old ∨
      ∀ (other : Nat) holder, index ≠ other → holders[other]? = some holder → lock ∉ locks holder) :
    Apart locks (holders.set index new) := by
  have alone : ∀ (other : Nat) holder lock, index ≠ other → holders[other]? = some holder →
      lock ∈ locks new → lock ∉ locks holder := by
    intro other holder lock differs there takes holds
    rcases free lock takes with kept | free
    · exact differs (apart index other old holder lock found there kept holds)
    · exact free other holder differs there holds
  intro first second one other lock at_ there takes holds
  rw [get_set found] at at_ there
  rcases at_ with ⟨rfl, rfl⟩ | ⟨differs, at_⟩
  · rcases there with ⟨rfl, -⟩ | ⟨differs, there⟩
    · rfl
    · exact absurd holds (alone second other lock differs there takes)
  · rcases there with ⟨rfl, rfl⟩ | ⟨-, there⟩
    · exact absurd takes (alone first one lock differs at_ holds)
    · exact apart first second one other lock at_ there takes holds

theorem apart_append {new : Holder} (apart : Apart locks holders) (free : locks new = []) :
    Apart locks (holders ++ [new]) := by
  intro first second one other lock at_ there takes holds
  rcases get_append at_ with at_ | ⟨-, rfl⟩
  · rcases get_append there with there | ⟨-, rfl⟩
    · exact apart first second one other lock at_ there takes holds
    · rw [free] at holds
      cases holds
  · rw [free] at takes
    cases takes

/-- Whether another holder than the one at an index has a lock. -/
def taken [DecidableEq Lock] (locks : Holder → List Lock) (holders : List Holder) (index : Nat)
    (lock : Lock) : Bool :=
  (holders.eraseIdx index).any fun holder => decide (lock ∈ locks holder)

theorem taken_free [DecidableEq Lock] {index other : Nat} {holder : Holder} {lock : Lock}
    (free : taken locks holders index lock = false) (differs : index ≠ other)
    (there : holders[other]? = some holder) : lock ∉ locks holder := by
  intro holds
  have held : taken locks holders index lock = true := by
    rw [taken, List.any_eq_true]
    exact ⟨holder, List.mem_eraseIdx_iff_getElem?.mpr ⟨other, differs.symm, there⟩,
      decide_eq_true holds⟩
  rw [free] at held
  cases held

end Several

end Foc.Library.LockTable
