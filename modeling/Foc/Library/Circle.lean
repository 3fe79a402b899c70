import Mathlib

/-! Half-open arcs of a circle: an arc that passes the point where the circle begins is two
intervals of one turn, and two arcs meet exactly when two of their intervals do. -/
namespace Foc.Library.Circle

variable {𝕜 : Type} [AddCommGroup 𝕜] [LinearOrder 𝕜] [IsOrderedAddMonoid 𝕜] {turn : 𝕜}

/-- The points from `first` on and before `last`. -/
def arc (turn first last : 𝕜) : Set (AddCircle turn) :=
  (fun point : 𝕜 => (point : AddCircle turn)) '' Set.Ico first last

/-- Two intervals of a line, each its ends, that have a point in common. -/
def Meets (first second : 𝕜 × 𝕜) : Prop := second.1 < first.2 ∧ first.1 < second.2

/-- What is past the turn is at its beginning again. -/
theorem arc_past (first last : 𝕜) : arc turn (first + turn) (last + turn) = arc turn first last := by
  ext point
  constructor
  · rintro ⟨at_, ⟨from_, before⟩, rfl⟩
    refine ⟨at_ - turn, ⟨le_sub_iff_add_le.mpr from_, sub_lt_iff_lt_add.mpr before⟩, ?_⟩
    have same := AddCircle.coe_add_period turn (at_ - turn)
    rw [sub_add_cancel] at same
    exact same.symm
  · rintro ⟨at_, ⟨from_, before⟩, rfl⟩
    exact ⟨at_ + turn, ⟨by gcongr, by gcongr⟩, AddCircle.coe_add_period turn at_⟩

theorem arc_split {first last : 𝕜} (from_ : first ≤ turn) (past : turn ≤ last) :
    arc turn first last = arc turn first turn ∪ arc turn 0 (last - turn) := by
  have again : arc turn (0 + turn) (last - turn + turn) = arc turn 0 (last - turn) :=
    arc_past 0 (last - turn)
  rw [zero_add, sub_add_cancel] at again
  rw [← again, arc, arc, arc, ← Set.image_union, Set.Ico_union_Ico_eq_Ico from_ past]

/-- Arcs given as the spans they have within one turn. -/
def spanned (turn : 𝕜) (spans : List (𝕜 × 𝕜)) : Set (AddCircle turn) :=
  {point | ∃ span ∈ spans, point ∈ arc turn span.1 span.2}

omit [IsOrderedAddMonoid 𝕜] in
theorem spanned_one (span : 𝕜 × 𝕜) : spanned turn [span] = arc turn span.1 span.2 := by
  simp [spanned]

omit [IsOrderedAddMonoid 𝕜] in
theorem spanned_two (span other : 𝕜 × 𝕜) :
    spanned turn [span, other] = arc turn span.1 span.2 ∪ arc turn other.1 other.2 := by
  ext point
  simp [spanned]

section Turn

variable [Archimedean 𝕜] [Fact (0 < turn)]

theorem arcs_disjoint {first second : 𝕜 × 𝕜} (one : 0 ≤ first.1 ∧ first.2 ≤ turn)
    (two : 0 ≤ second.1 ∧ second.2 ≤ turn) (some : first.1 < first.2) (other : second.1 < second.2) :
    Disjoint (arc turn first.1 first.2) (arc turn second.1 second.2) ↔ ¬ Meets first second := by
  have within : ∀ span : 𝕜 × 𝕜, 0 ≤ span.1 ∧ span.2 ≤ turn →
      Set.Ico span.1 span.2 ⊆ Set.Ico 0 (0 + turn) := by
    intro span bounds
    rw [zero_add]
    exact Set.Ico_subset_Ico bounds.1 bounds.2
  have apart : Disjoint (arc turn first.1 first.2) (arc turn second.1 second.2) ↔
      Disjoint (Set.Ico first.1 first.2) (Set.Ico second.1 second.2) := by
    rw [Set.disjoint_left, Set.disjoint_left]
    constructor
    · intro apart point inside outside
      exact apart ⟨point, inside, rfl⟩ ⟨point, outside, rfl⟩
    · rintro apart _ ⟨here, inside, rfl⟩ ⟨there, outside, same⟩
      have same := (AddCircle.coe_eq_coe_iff_of_mem_Ico (within second two outside)
        (within first one inside)).mp same
      exact apart inside (same ▸ outside)
  rw [apart, Set.Ico_disjoint_Ico, Meets, ← not_lt, not_iff_not, max_lt_iff, lt_min_iff, lt_min_iff]
  constructor
  · rintro ⟨⟨-, met⟩, crossed, -⟩
    exact ⟨crossed, met⟩
  · rintro ⟨crossed, met⟩
    exact ⟨⟨some, met⟩, crossed, other⟩

theorem spanned_disjoint {first second : List (𝕜 × 𝕜)}
    (one : ∀ span ∈ first, 0 ≤ span.1 ∧ span.1 < span.2 ∧ span.2 ≤ turn)
    (two : ∀ span ∈ second, 0 ≤ span.1 ∧ span.1 < span.2 ∧ span.2 ≤ turn) :
    Disjoint (spanned turn first) (spanned turn second) ↔
      ∀ span ∈ first, ∀ other ∈ second, ¬ Meets span other := by
  have each : Disjoint (spanned turn first) (spanned turn second) ↔ ∀ span ∈ first,
      ∀ other ∈ second, Disjoint (arc turn span.1 span.2) (arc turn other.1 other.2) := by
    simp only [Set.disjoint_left, spanned, Set.mem_ofPred_eq]
    constructor
    · intro apart span listed other there point inside outside
      exact apart ⟨span, listed, inside⟩ ⟨other, there, outside⟩
    · rintro apart point ⟨span, listed, inside⟩ ⟨other, there, outside⟩
      exact apart span listed other there inside outside
  rw [each]
  refine forall₂_congr fun span listed => forall₂_congr fun other there => ?_
  obtain ⟨from_, some, until_⟩ := one span listed
  obtain ⟨begins, more, ends⟩ := two other there
  exact arcs_disjoint ⟨from_, until_⟩ ⟨begins, ends⟩ some more

end Turn

end Foc.Library.Circle
