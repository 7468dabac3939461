import Mathlib.Algebra.Order.Floor.Ring
import Mathlib.Algebra.Order.Archimedean.Real.Basic

/-! Step functions, which keep the value of one point until the next, and their values in a window. -/

universe u

namespace Reproof.Library

variable {β : Type u} {points : List (Int × β)} {p : Int × β} {low high n : Int} {t : ℝ}

/-- The point is the last one until then. -/
def LastUntil (points : List (Int × β)) (t : ℝ) (p : Int × β) : Prop :=
  p ∈ points ∧ (p.1 : ℝ) ≤ t ∧ ∀ q ∈ points, (q.1 : ℝ) ≤ t → q.1 ≤ p.1

/-- The value of the step function at a time. -/
def StepAt (points : List (Int × β)) (t : ℝ) (b : β) : Prop := ∃ p, LastUntil points t p ∧ p.2 = b

/-- Points in the order of their times. -/
def InOrder (points : List (Int × β)) : Prop := points.Pairwise fun p q => p.1 < q.1

instance (points : List (Int × β)) : Decidable (InOrder points) :=
  inferInstanceAs (Decidable (List.Pairwise _ _))

/-- The points whose values a step function takes in a window. -/
def windowPoints (low high : Int) (points : List (Int × β)) : List (Int × β) :=
  (points.filter (·.1 ≤ low)).getLast?.toList ++ points.filter fun p => low < p.1 ∧ p.1 ≤ high

theorem le_of_getLast? (ordered : InOrder points) (last : points.getLast? = some p) :
    ∀ q ∈ points, q.1 ≤ p.1 := by
  obtain ⟨front, rfl⟩ := List.getLast?_eq_some_iff.mp last
  intro q mem
  rcases List.mem_append.mp mem with before | same
  · exact ((List.pairwise_append.mp ordered).2.2 q before p List.mem_cons_self).le
  · rw [List.mem_singleton.mp same]

theorem lastUntil_getLast? (ordered : InOrder points)
    (last : (points.filter (·.1 ≤ n)).getLast? = some p) : LastUntil points (n : ℝ) p := by
  have mem := List.mem_filter.mp (List.mem_of_getLast? last)
  refine ⟨mem.1, Int.cast_le.mpr (of_decide_eq_true mem.2), fun q there early => ?_⟩
  exact le_of_getLast? (List.Pairwise.filter _ ordered) last q
    (List.mem_filter.mpr ⟨there, decide_eq_true (Int.cast_le.mp early)⟩)

theorem lastUntil_floor : LastUntil points (⌊t⌋ : ℝ) p ↔ LastUntil points t p := by
  simp only [LastUntil, Int.cast_le, Int.le_floor]

/-- Each value that the step function takes in the window is that of a point looked at. -/
theorem exists_windowPoint (ordered : InOrder points) (begun : ∃ p ∈ points, p.1 ≤ low)
    (after : (low : ℝ) ≤ t) (before : t ≤ (high : ℝ)) :
    ∃ p ∈ windowPoints low high points, StepAt points t p.2 := by
  have floor : low ≤ ⌊t⌋ := Int.le_floor.mpr after
  cases last : (points.filter (·.1 ≤ ⌊t⌋)).getLast? with
  | none =>
    obtain ⟨p, mem, early⟩ := begun
    rw [List.getLast?_eq_none_iff, List.filter_eq_nil_iff] at last
    exact absurd (decide_eq_true (le_trans early floor)) (last p mem)
  | some p =>
    have step := lastUntil_getLast? ordered last
    refine ⟨p, ?_, p, lastUntil_floor.mp step, rfl⟩
    by_cases early : p.1 ≤ low
    · have same : points.filter (·.1 ≤ low) = points.filter (·.1 ≤ ⌊t⌋) := by
        apply List.filter_congr
        intro q mem
        refine decide_eq_decide.mpr ⟨fun le => le_trans le floor, fun le => ?_⟩
        exact le_trans (step.2.2 q mem (Int.cast_le.mpr le)) early
      rw [windowPoints, same, last]
      exact List.mem_append_left _ (List.mem_singleton_self p)
    · have within : p.1 ≤ high := Int.cast_le.mp (le_trans (le_trans step.2.1 (Int.floor_le t)) before)
      exact List.mem_append_right _ (List.mem_filter.mpr ⟨step.1, decide_eq_true ⟨not_le.mp early, within⟩⟩)

/-- The step function takes the value of each point looked at somewhere in the window. -/
theorem stepAt_windowPoint (ordered : InOrder points) (window : low ≤ high)
    (mem : p ∈ windowPoints low high points) :
    ∃ t : ℝ, (low : ℝ) ≤ t ∧ t ≤ (high : ℝ) ∧ StepAt points t p.2 := by
  rcases List.mem_append.mp mem with before | inside
  · have last : (points.filter (·.1 ≤ low)).getLast? = some p := by simpa using before
    exact ⟨low, le_refl _, Int.cast_le.mpr window, p, lastUntil_getLast? ordered last, rfl⟩
  · obtain ⟨there, within⟩ := List.mem_filter.mp inside
    obtain ⟨after, early⟩ := of_decide_eq_true within
    exact ⟨p.1, Int.cast_le.mpr after.le, Int.cast_le.mpr early, p,
      ⟨there, le_refl _, fun q _ early => Int.cast_le.mp early⟩, rfl⟩

end Reproof.Library
