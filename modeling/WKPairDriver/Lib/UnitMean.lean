import Mathlib
import WKPairDriver.Lib.Deviation

/-!
# The mean direction of unit vectors

* `le_abs_dot_direction_iff` — how near a vector is to the direction of another.
* `le_abs_dot_mean_iff` — how near it is to the direction of the mean, in inner products.
* `dot_of_near` — two unit vectors that are near a third one are near each other.
* `le_dot_mean_of_aligned` — the mean of vectors of which no two are far apart is near each of them.
* `mean_of_least` — the mean is the one point with the least squared distances.
-/

set_option autoImplicit false

namespace Lib.UnitMean

open Matrix Deviation

universe u
variable {ι : Type u} [Fintype ι]

theorem dot_self_nonneg (v : ι → ℝ) : 0 ≤ v ⬝ᵥ v :=
  Finset.sum_nonneg fun _ _ => mul_self_nonneg _

/-- The vector of length one; a zero vector stays. -/
noncomputable def direction (v : ι → ℝ) : ι → ℝ :=
  if v ⬝ᵥ v > 0 then (√(v ⬝ᵥ v))⁻¹ • v else v

theorem le_abs_dot_direction_iff {τ : ℝ} (hτ : 0 < τ) (w v : ι → ℝ) :
    τ ≤ |w ⬝ᵥ direction v| ↔ 0 < v ⬝ᵥ v ∧ τ ^ 2 * (v ⬝ᵥ v) ≤ (w ⬝ᵥ v) ^ 2 := by
  rw [direction]
  split
  · rename_i hpos
    have hroot : 0 < √(v ⬝ᵥ v) := Real.sqrt_pos.2 hpos
    rw [dotProduct_smul, smul_eq_mul, abs_mul, abs_of_pos (inv_pos.2 hroot), ← div_eq_inv_mul,
      le_div_iff₀ hroot, and_iff_right hpos, ← abs_of_pos (mul_pos hτ hroot), ← sq_le_sq, mul_pow,
      Real.sq_sqrt hpos.le]
  · rename_i hzero
    have hv : v ⬝ᵥ v = 0 := le_antisymm (not_lt.1 hzero) (dot_self_nonneg v)
    rw [dotProduct_self_eq_zero.1 hv, dotProduct_zero, abs_zero, dotProduct_zero]
    exact ⟨fun h => absurd h (not_le.2 hτ), fun h => absurd h.1 (lt_irrefl 0)⟩

/-! ## The mean -/

noncomputable def meanVector (vs : List (ι → ℝ)) : ι → ℝ := (vs.length : ℝ)⁻¹ • vs.sum

theorem dot_sum (w : ι → ℝ) (vs : List (ι → ℝ)) :
    w ⬝ᵥ vs.sum = (vs.map fun v => w ⬝ᵥ v).sum := by
  induction vs with
  | nil => simp
  | cons v vs ih => rw [List.sum_cons, dotProduct_add, ih, List.map_cons, List.sum_cons]

/-- All inner products of two vectors of the list. -/
noncomputable def innerSum (vs : List (ι → ℝ)) : ℝ :=
  (vs.map fun v => (vs.map fun w => v ⬝ᵥ w).sum).sum

theorem innerSum_eq (vs : List (ι → ℝ)) : innerSum vs = vs.sum ⬝ᵥ vs.sum := by
  rw [dot_sum, innerSum]
  congr 1
  apply List.map_congr_left
  intro v _
  rw [dotProduct_comm, dot_sum]

/-- **How near a vector is to the mean direction.** -/
theorem le_abs_dot_mean_iff {τ : ℝ} (hτ : 0 < τ) (w : ι → ℝ) {vs : List (ι → ℝ)} (h : vs ≠ []) :
    τ ≤ |w ⬝ᵥ direction (meanVector vs)| ↔
      0 < innerSum vs ∧ τ ^ 2 * innerSum vs ≤ (vs.map fun v => w ⬝ᵥ v).sum ^ 2 := by
  have hlen : (0 : ℝ) < (vs.length : ℝ)⁻¹ := inv_pos.2 (Nat.cast_pos.2 (List.length_pos_iff.2 h))
  rw [le_abs_dot_direction_iff hτ, meanVector, smul_dotProduct, dotProduct_smul, dotProduct_smul,
    ← dot_sum, ← innerSum_eq]
  simp only [smul_eq_mul]
  set a := (vs.length : ℝ)⁻¹
  have ha : 0 < a * a := mul_pos hlen hlen
  refine and_congr ?_ ?_
  · rw [← mul_assoc, mul_pos_iff_of_pos_left ha]
  · rw [mul_pow, sq a, ← mul_assoc a, mul_left_comm, mul_le_mul_iff_right₀ ha]

/-! ## Vectors near one another -/

/-- Cauchy and Schwarz for a unit vector. -/
theorem sq_dot_le {c : ι → ℝ} (hc : c ⬝ᵥ c = 1) (v : ι → ℝ) : (v ⬝ᵥ c) ^ 2 ≤ v ⬝ᵥ v := by
  have h := dot_self_nonneg (v - (v ⬝ᵥ c) • c)
  rw [sub_dotProduct, dotProduct_sub, dotProduct_sub, smul_dotProduct, smul_dotProduct,
    dotProduct_smul, dotProduct_smul, hc, dotProduct_comm c v] at h
  simp only [smul_eq_mul, mul_one] at h
  linarith

/-- Two unit vectors on one side of `c` and near it. -/
theorem dot_of_near {a b c : ι → ℝ} {t : ℝ} (ha : a ⬝ᵥ a = 1) (hb : b ⬝ᵥ b = 1)
    (hc : c ⬝ᵥ c = 1) (ht : 0 ≤ t) (hac : t ≤ a ⬝ᵥ c) (hbc : t ≤ b ⬝ᵥ c) :
    2 * t ^ 2 - 1 ≤ a ⬝ᵥ b := by
  have h := sq_dot_le hc (a + b)
  rw [add_dotProduct, add_dotProduct, dotProduct_add, dotProduct_add, ha, hb,
    dotProduct_comm b a] at h
  nlinarith

theorem sum_map_ge {α : Type u} {xs : List α} {f : α → ℝ} {t : ℝ} (h : ∀ x ∈ xs, t ≤ f x) :
    xs.length * t ≤ (xs.map f).sum := by
  have hle := List.card_nsmul_le_sum (xs.map f) t fun y hy => by
    obtain ⟨x, hx, rfl⟩ := List.mem_map.1 hy
    exact h x hx
  rwa [List.length_map, nsmul_eq_mul] at hle

theorem sum_map_le {α : Type u} {xs : List α} {f : α → ℝ} {t : ℝ} (h : ∀ x ∈ xs, f x ≤ t) :
    (xs.map f).sum ≤ xs.length * t := by
  have hle := List.sum_le_card_nsmul (xs.map f) t fun y hy => by
    obtain ⟨x, hx, rfl⟩ := List.mem_map.1 hy
    exact h x hx
  rwa [List.length_map, nsmul_eq_mul] at hle

theorem dot_le_one {a b : ι → ℝ} (ha : a ⬝ᵥ a = 1) (hb : b ⬝ᵥ b = 1) : a ⬝ᵥ b ≤ 1 := by
  have h := sq_dot_le hb a
  nlinarith

/-- **The mean of vectors near one another is near each of them.** -/
theorem le_dot_mean_of_aligned {τ t : ℝ} (hτ : 0 < τ) (hτt : τ ≤ t) {vs : List (ι → ℝ)}
    (hunit : ∀ v ∈ vs, v ⬝ᵥ v = 1) (hnear : ∀ v ∈ vs, ∀ w ∈ vs, t ≤ v ⬝ᵥ w) {w : ι → ℝ}
    (hw : w ∈ vs) : τ ≤ |w ⬝ᵥ direction (meanVector vs)| := by
  have hlen : (0 : ℝ) < vs.length := Nat.cast_pos.2 (List.length_pos_of_mem hw)
  have ht : 0 < t := hτ.trans_le hτt
  have hrow : ∀ v ∈ vs, vs.length * t ≤ (vs.map fun u => v ⬝ᵥ u).sum := fun v hv =>
    sum_map_ge (hnear v hv)
  have hall : vs.length * (vs.length * t) ≤ innerSum vs := sum_map_ge hrow
  have hmost : innerSum vs ≤ vs.length * (vs.length * 1) :=
    sum_map_le fun v hv => sum_map_le fun u hu => dot_le_one (hunit v hv) (hunit u hu)
  have hpos : 0 < (vs.length : ℝ) * t := mul_pos hlen ht
  rw [le_abs_dot_mean_iff hτ w (List.ne_nil_of_mem hw)]
  constructor
  · exact (mul_pos hlen hpos).trans_le hall
  · have hsq : τ ^ 2 ≤ t ^ 2 := pow_le_pow_left₀ hτ.le hτt 2
    calc τ ^ 2 * innerSum vs ≤ τ ^ 2 * (vs.length * (vs.length * 1)) :=
          mul_le_mul_of_nonneg_left hmost (sq_nonneg τ)
      _ ≤ t ^ 2 * (vs.length * (vs.length * 1)) :=
          mul_le_mul_of_nonneg_right hsq (by positivity)
      _ = (vs.length * t) ^ 2 := by ring
      _ ≤ (vs.map fun v => w ⬝ᵥ v).sum ^ 2 := pow_le_pow_left₀ hpos.le (hrow w hw) 2

/-! ## Least squares -/

/-- The sum of the squared distances from `x`. -/
noncomputable def distances (vs : List (ι → ℝ)) (x : ι → ℝ) : ℝ :=
  (vs.map fun v => (v - x) ⬝ᵥ (v - x)).sum

omit [Fintype ι] in
theorem list_sum_apply (vs : List (ι → ℝ)) (k : ι) : vs.sum k = (vs.map fun v => v k).sum := by
  induction vs with
  | nil => rfl
  | cons v vs ih => rw [List.sum_cons, Pi.add_apply, ih, List.map_cons, List.sum_cons]

omit [Fintype ι] in
theorem meanVector_apply (vs : List (ι → ℝ)) (k : ι) :
    meanVector vs k = mean (vs.map fun v => v k) := by
  rw [meanVector, Pi.smul_apply, smul_eq_mul, list_sum_apply, mean, List.length_map,
    div_eq_inv_mul]

theorem distances_eq (vs : List (ι → ℝ)) (x : ι → ℝ) :
    distances vs x = ∑ k, sqDev (vs.map fun v => v k) (x k) := by
  induction vs with
  | nil => simp [distances, sqDev]
  | cons v vs ih =>
    have hone : (v - x) ⬝ᵥ (v - x) = ∑ k, (v k - x k) ^ 2 := by
      rw [dotProduct]
      exact Finset.sum_congr rfl fun k _ => (sq _).symm
    rw [distances, List.map_cons, List.sum_cons, ← distances, ih, hone, ← Finset.sum_add_distrib]
    exact Finset.sum_congr rfl fun k _ => rfl

/-- The distances from any point are those from the mean and those of the mean. -/
theorem distances_mean {vs : List (ι → ℝ)} (h : vs ≠ []) (x : ι → ℝ) :
    distances vs x = distances vs (meanVector vs) +
      vs.length * ((x - meanVector vs) ⬝ᵥ (x - meanVector vs)) := by
  rw [distances_eq, distances_eq, dotProduct, Finset.mul_sum, ← Finset.sum_add_distrib]
  refine Finset.sum_congr rfl fun k _ => ?_
  have hne : (vs.map fun v => v k) ≠ [] := by simpa using h
  rw [sqDev_eq hne (x k), meanVector_apply, List.length_map, Pi.sub_apply, meanVector_apply, sq]

/-- **The mean is the one point with the least squared distances.** -/
theorem mean_of_least {vs : List (ι → ℝ)} (h : vs ≠ []) {x : ι → ℝ}
    (hleast : ∀ y, distances vs x ≤ distances vs y) : x = meanVector vs := by
  have hlen : (0 : ℝ) < vs.length := Nat.cast_pos.2 (List.length_pos_iff.2 h)
  have hle := hleast (meanVector vs)
  rw [distances_mean h x] at hle
  have hzero : (x - meanVector vs) ⬝ᵥ (x - meanVector vs) = 0 := by
    have hnonneg := dot_self_nonneg (x - meanVector vs)
    nlinarith
  exact sub_eq_zero.1 (dotProduct_self_eq_zero.1 hzero)

theorem mean_least {vs : List (ι → ℝ)} (h : vs ≠ []) (y : ι → ℝ) :
    distances vs (meanVector vs) ≤ distances vs y := by
  rw [distances_mean h y]
  have := mul_nonneg (Nat.cast_nonneg vs.length : (0 : ℝ) ≤ vs.length) (dot_self_nonneg (y - meanVector vs))
  linarith

end Lib.UnitMean
