import Mathlib.Data.Real.Basic
import Mathlib.Order.Monotone.Basic
import Mathlib.Tactic.Linarith
import Mathlib.Tactic.Ring

/-! Real clocks that are read against each other. -/

namespace Reproof.Library

/-- From `start` on the clock `f` runs at least at the rate `r`. -/
def RunsAtLeast (r start : ℝ) (f : ℝ → ℝ) : Prop :=
  ∀ x y, start ≤ x → x ≤ y → r * (y - x) ≤ f y - f x

/-- The clock `f` gains or loses at most `d` of what passes. -/
def Drifts (d : ℝ) (f : ℝ → ℝ) : Prop :=
  ∀ x y, |(f x - x) - (f y - y)| ≤ d * |x - y|

section Drifts

variable {d : ℝ} {f : ℝ → ℝ}

theorem Drifts.le (h : Drifts d f) (x y : ℝ) : f y ≤ f x + (y - x) + d * |y - x| := by
  have bound := (abs_le.mp (h y x)).2
  linarith

theorem Drifts.ge (h : Drifts d f) (x y : ℝ) : f x + (y - x) - d * |y - x| ≤ f y := by
  have bound := (abs_le.mp (h y x)).1
  linarith

/-- The fastest clock that shows `a` at the time `p`. -/
def fastest (d a p : ℝ) : ℝ → ℝ := fun x => a + (1 + d) * (x - p)

@[simp] theorem fastest_self {a p : ℝ} : fastest d a p p = a := by
  simp [fastest]

theorem fastest_drifts {a p : ℝ} (nonneg : 0 ≤ d) : Drifts d (fastest d a p) := by
  intro x y
  have gained : (fastest d a p x - x) - (fastest d a p y - y) = d * (x - y) := by
    unfold fastest
    ring
  rw [gained, abs_mul, abs_of_nonneg nonneg]

variable {s r u a b v : ℝ}

/-- A clock that showed at most `a` about the time `s` is not ahead of the fastest one later. -/
theorem Drifts.le_of_read (h : Drifts d f) (nonneg : 0 ≤ d) (later : s ≤ v) {x : ℝ}
    (about : |x - s| ≤ u) (read : f x ≤ a) : f v ≤ fastest d a (s - u) v := by
  have latest := h.le x v
  obtain ⟨before, after⟩ := abs_le.mp about
  unfold fastest
  rcases le_total x v with past | future
  · rw [abs_of_nonneg (sub_nonneg.mpr past)] at latest
    nlinarith
  · rw [abs_of_nonpos (sub_nonpos.mpr future)] at latest
    nlinarith

/-- A clock that showed at least `b` about the time `r` is not far behind it later. -/
theorem Drifts.ge_of_read (h : Drifts d f) (nonneg : 0 ≤ d) (ordered : s ≤ r) (later : r ≤ v) {x : ℝ}
    (about : |x - r| ≤ u) (read : b ≤ f x) : b + (v - (r + u)) - d * (v - s + u) ≤ f v := by
  have earliest := h.ge x v
  obtain ⟨before, after⟩ := abs_le.mp about
  rcases le_total x v with past | future
  · rw [abs_of_nonneg (sub_nonneg.mpr past)] at earliest
    nlinarith
  · rw [abs_of_nonpos (sub_nonpos.mpr future)] at earliest
    nlinarith

end Drifts

end Reproof.Library
