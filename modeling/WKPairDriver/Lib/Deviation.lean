import Mathlib

/-!
# Squared deviations

* `sqDev_eq` — the squared deviations from any point are those from the mean and those of the mean.
* `sqDev_snoc` — Welford's recurrence for one more value, `sqDev_cons` for one in front.
-/

set_option autoImplicit false

namespace Lib.Deviation

noncomputable def mean (xs : List ℝ) : ℝ := xs.sum / xs.length

/-- The sum of the squared deviations from `c`. -/
noncomputable def sqDev (xs : List ℝ) (c : ℝ) : ℝ := (xs.map fun x => (x - c) ^ 2).sum

theorem sqDev_nonneg (xs : List ℝ) (c : ℝ) : 0 ≤ sqDev xs c :=
  List.sum_nonneg fun y hy => by
    obtain ⟨x, -, rfl⟩ := List.mem_map.1 hy
    exact sq_nonneg _

theorem length_mul_mean {xs : List ℝ} (h : xs ≠ []) : xs.length * mean xs = xs.sum := by
  have hlen : (xs.length : ℝ) ≠ 0 := by
    rw [Nat.cast_ne_zero, ne_eq, List.length_eq_zero_iff]
    exact h
  rw [mean]
  field_simp

theorem sqDev_shift (xs : List ℝ) (c m : ℝ) :
    sqDev xs c = sqDev xs m + 2 * (m - c) * (xs.sum - xs.length * m) + xs.length * (c - m) ^ 2 := by
  induction xs with
  | nil => simp [sqDev]
  | cons x xs ih =>
    simp only [sqDev, List.map_cons, List.sum_cons, List.length_cons, Nat.cast_add,
      Nat.cast_one] at ih ⊢
    linear_combination ih

/-- **Deviations from the mean are least.** -/
theorem sqDev_eq {xs : List ℝ} (h : xs ≠ []) (c : ℝ) :
    sqDev xs c = sqDev xs (mean xs) + xs.length * (c - mean xs) ^ 2 := by
  rw [sqDev_shift xs c (mean xs), length_mul_mean h, sub_self, mul_zero, add_zero]

@[simp] theorem mean_singleton (x : ℝ) : mean [x] = x := by
  simp [mean]

@[simp] theorem sqDev_singleton (x : ℝ) : sqDev [x] x = 0 := by
  simp [sqDev]

/-- The mean with one more value. -/
theorem mean_snoc {xs : List ℝ} (h : xs ≠ []) (x : ℝ) :
    mean (xs ++ [x]) = mean xs + (x - mean xs) / (xs.length + 1) := by
  have hsum := length_mul_mean h
  have hpos : (0 : ℝ) < xs.length + 1 := by positivity
  rw [mean, List.sum_append, List.sum_singleton, List.length_append, List.length_singleton,
    ← hsum, Nat.cast_add, Nat.cast_one]
  field_simp
  ring

/-- **Welford's recurrence.** -/
theorem sqDev_snoc {xs : List ℝ} (h : xs ≠ []) (x : ℝ) :
    sqDev (xs ++ [x]) (mean (xs ++ [x])) =
      sqDev xs (mean xs) + (x - mean xs) * (x - mean (xs ++ [x])) := by
  have hpos : (0 : ℝ) < xs.length + 1 := by positivity
  have hsplit : sqDev (xs ++ [x]) (mean (xs ++ [x])) =
      sqDev xs (mean (xs ++ [x])) + (x - mean (xs ++ [x])) ^ 2 := by
    rw [sqDev, List.map_append, List.sum_append, List.map_singleton, List.sum_singleton, sqDev]
  rw [hsplit, sqDev_eq h, mean_snoc h]
  field_simp
  ring

/-- One more value in front. -/
theorem sqDev_cons {xs : List ℝ} (h : xs ≠ []) (x : ℝ) :
    sqDev (x :: xs) (mean (x :: xs)) =
      sqDev xs (mean xs) + xs.length / (xs.length + 1) * (x - mean xs) ^ 2 := by
  have hpos : (0 : ℝ) < xs.length + 1 := by positivity
  have hmean : mean (x :: xs) = mean xs + (x - mean xs) / (xs.length + 1) := by
    rw [mean, List.sum_cons, List.length_cons, ← length_mul_mean h, Nat.cast_add, Nat.cast_one]
    field_simp
    ring
  have hsplit : sqDev (x :: xs) (mean (x :: xs)) =
      (x - mean (x :: xs)) ^ 2 + sqDev xs (mean (x :: xs)) := by
    rw [sqDev, List.map_cons, List.sum_cons, sqDev]
  rw [hsplit, sqDev_eq h, hmean]
  field_simp
  ring

end Lib.Deviation
