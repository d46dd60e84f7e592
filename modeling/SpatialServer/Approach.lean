import Mathlib.Order.Interval.Set.UnorderedInterval
import Mathlib.Tactic

/-!
# Moving toward a target

A point on a line moves toward a target by a given distance and stops there. As
long as distances are not negative, moves add up, what is left of the way shrinks
by what was moved, and the point never leaves the stretch between where it was and
the target.
-/
namespace SpatialServer.Approach

variable {K : Type*} [Field K] [LinearOrder K]

def approach (x t d : K) : K := if |t - x| ≤ d then t else if x < t then x + d else x - d

variable [IsStrictOrderedRing K] {x t d e : K}

/-- The point arrives, or it is still on its side of the target. -/
theorem approach_cases (x t d : K) :
    |t - x| ≤ d ∧ approach x t d = t ∨
    (x + d < t ∧ |t - x| = t - x ∧ approach x t d = x + d) ∨
    t < x - d ∧ |t - x| = x - t ∧ approach x t d = x - d := by
  unfold approach
  by_cases hle : |t - x| ≤ d
  · exact .inl ⟨hle, if_pos hle⟩
  rw [if_neg hle]
  rcases lt_or_ge x t with hx | hx
  · have habs : |t - x| = t - x := abs_of_pos (by linarith)
    exact .inr (.inl ⟨by linarith, habs, if_pos hx⟩)
  · have habs : |t - x| = x - t := by rw [abs_sub_comm]; exact abs_of_nonneg (by linarith)
    exact .inr (.inr ⟨by linarith, habs, if_neg (not_lt.mpr hx)⟩)

@[simp] theorem approach_self (hd : 0 ≤ d) (x : K) : approach x x d = x := by
  rw [approach, sub_self, abs_zero, if_pos hd]

@[simp] theorem approach_zero (x t : K) : approach x t 0 = x := by
  obtain ⟨hle, harrive⟩ | ⟨-, -, hmove⟩ | ⟨-, -, hmove⟩ := approach_cases x t 0
  · rw [harrive, ← sub_eq_zero]
    exact abs_nonpos_iff.mp hle
  · rw [hmove, add_zero]
  · rw [hmove, sub_zero]

theorem approach_eq_target_iff (x t d : K) : approach x t d = t ↔ |t - x| ≤ d := by
  obtain ⟨hle, harrive⟩ | ⟨hlt, habs, hmove⟩ | ⟨hlt, habs, hmove⟩ := approach_cases x t d
  · exact iff_of_true harrive hle
  · exact iff_of_false (by rw [hmove]; exact hlt.ne) (by rw [habs]; linarith)
  · exact iff_of_false (by rw [hmove]; exact hlt.ne') (by rw [habs]; linarith)

/-- No step is longer than it may be. -/
theorem abs_approach_sub_le (hd : 0 ≤ d) (x t : K) : |approach x t d - x| ≤ d := by
  obtain ⟨hle, harrive⟩ | ⟨-, -, hmove⟩ | ⟨-, -, hmove⟩ := approach_cases x t d
  · rwa [harrive]
  · rw [hmove, add_sub_cancel_left, abs_of_nonneg hd]
  · rw [hmove, sub_sub_cancel_left, abs_neg, abs_of_nonneg hd]

/-- What is left of the way. -/
theorem abs_sub_approach (x t d : K) :
    |t - approach x t d| = max (|t - x| - d) 0 := by
  obtain ⟨hle, harrive⟩ | ⟨hlt, habs, hmove⟩ | ⟨hlt, habs, hmove⟩ := approach_cases x t d
  · rw [harrive, sub_self, abs_zero, max_eq_right (by linarith)]
  · rw [hmove, habs, abs_of_pos (by linarith), max_eq_left (by linarith)]
    ring
  · rw [hmove, habs, abs_of_neg (by linarith), max_eq_left (by linarith)]
    ring

theorem approach_approach (hd : 0 ≤ d) (he : 0 ≤ e) (x t : K) :
    approach (approach x t d) t e = approach x t (d + e) := by
  obtain ⟨hle, harrive⟩ | ⟨hlt, habs, hmove⟩ | ⟨hlt, habs, hmove⟩ := approach_cases x t d
  · rw [harrive, approach_self he, (approach_eq_target_iff x t _).mpr (by linarith)]
  · have hleft : |t - (x + d)| = t - (x + d) := abs_of_pos (by linarith)
    rw [hmove, approach, approach, hleft, habs, if_pos hlt, if_pos (by linarith : x < t)]
    split_ifs <;> linarith
  · have hleft : |t - (x - d)| = x - d - t := by rw [abs_of_neg (by linarith)]; ring
    rw [hmove, approach, approach, hleft, habs, if_neg (not_lt.mpr hlt.le),
      if_neg (by linarith : ¬x < t)]
    split_ifs <;> linarith

/-- The point goes neither past the target nor away from it. -/
theorem approach_mem_uIcc (hd : 0 ≤ d) (x t : K) : approach x t d ∈ Set.uIcc x t := by
  rw [Set.mem_uIcc]
  obtain ⟨-, harrive⟩ | ⟨hlt, -, hmove⟩ | ⟨hlt, -, hmove⟩ := approach_cases x t d
  · rw [harrive]
    rcases le_total x t with h | h
    · exact .inl ⟨h, le_rfl⟩
    · exact .inr ⟨le_rfl, h⟩
  · exact .inl ⟨by linarith, by linarith⟩
  · exact .inr ⟨by linarith, by linarith⟩

/-- Only a point at its target stands still. -/
theorem approach_ne_of_pos (hd : 0 < d) (h : x ≠ t) : approach x t d ≠ x := by
  obtain ⟨-, harrive⟩ | ⟨-, -, hmove⟩ | ⟨-, -, hmove⟩ := approach_cases x t d
  · rw [harrive]
    exact h.symm
  · rw [hmove]
    intro heq
    linarith
  · rw [hmove]
    intro heq
    linarith

end SpatialServer.Approach
