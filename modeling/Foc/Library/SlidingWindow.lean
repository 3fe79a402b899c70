import Mathlib

/-! Limits over a sliding window. Stamps may be recorded in any order: what counts the stamps of
the last span, at its own stamp, and finds fewer than the limit, may record its stamp. -/
namespace Foc.Library.SlidingWindow

variable {Time : Type} [AddCommGroup Time] [LinearOrder Time] [IsOrderedAddMonoid Time]
  {span start now stamp : Time} {limit : Nat} {stamps : List Time}

/-- A half-open window. -/
def inWindow (span start stamp : Time) : Bool :=
  decide (start ≤ stamp) && decide (stamp < start + span)

/-- Less than the span before a moment, or after it. -/
def recent (span now stamp : Time) : Bool := decide (now - span < stamp)

/-- No window of the span holds more stamps than the limit. -/
def Limited (span : Time) (limit : Nat) (stamps : List Time) : Prop :=
  ∀ start, stamps.countP (inWindow span start) ≤ limit

omit [IsOrderedAddMonoid Time] in
theorem limited_nil : Limited span limit [] := fun _ => Nat.zero_le limit

/-- Two stamps of one window are recent to each other. -/
theorem window_recent (here : inWindow span start now = true)
    (there : inWindow span start stamp = true) : recent span now stamp = true := by
  simp only [inWindow, Bool.and_eq_true, decide_eq_true_eq] at here there
  refine decide_eq_true ?_
  calc now - span < start := sub_lt_iff_lt_add.mpr here.2
    _ ≤ stamp := there.1

/-- A stamp that found room among the recent ones keeps every window within the limit. -/
theorem limited_append (limited : Limited span limit stamps)
    (room : stamps.countP (recent span now) < limit) : Limited span limit (stamps ++ [now]) := by
  intro start
  rw [List.countP_append, List.countP_singleton]
  split
  · rename_i within
    -- Every other stamp of the window was counted.
    have counted : stamps.countP (inWindow span start) ≤ stamps.countP (recent span now) :=
      List.countP_mono_left fun stamp _ there => window_recent within there
    omega
  · exact limited start

end Foc.Library.SlidingWindow
