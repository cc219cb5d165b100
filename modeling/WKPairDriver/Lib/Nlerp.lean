import Mathlib

/-!
# Normalised interpolation on the circle

Two unit vectors an angle `φ ≤ π/2` apart are interpolated linearly with the weight `α`, and the
result is scaled back to the circle.

* `nlerp_angles` — the angles to the two vectors are `nlerpAngle α φ` and what is left of `φ`.
* `le_nlerpAngle` — the interpolation covers at least the share `2α/π` of the way.
-/

set_option autoImplicit false

namespace Lib

open Real

/-- The length of the interpolated vector, before it is scaled. -/
noncomputable def nlerpLength (α φ : ℝ) : ℝ := √((1 - α + α * cos φ) ^ 2 + (α * sin φ) ^ 2)

variable {α φ : ℝ}

theorem nlerpLength_sq_eq (α φ : ℝ) :
    nlerpLength α φ ^ 2 = (1 - α + α * cos φ) ^ 2 + (α * sin φ) ^ 2 :=
  sq_sqrt (by positivity)

theorem nlerpLength_sq (α φ : ℝ) :
    nlerpLength α φ ^ 2 = 1 - 2 * (α * (1 - α) * (1 - cos φ)) := by
  rw [nlerpLength_sq_eq]
  linear_combination α ^ 2 * sin_sq_add_cos_sq φ

theorem nlerpLength_le_one (h0 : 0 ≤ α) (h1 : α ≤ 1) : nlerpLength α φ ≤ 1 := by
  have hnonneg : 0 ≤ α * (1 - α) * (1 - cos φ) :=
    mul_nonneg (mul_nonneg h0 (sub_nonneg.2 h1)) (sub_nonneg.2 (cos_le_one φ))
  have hsq := nlerpLength_sq α φ
  exact abs_le_one_iff_mul_self_le_one.2 (by nlinarith) |>.trans' (le_abs_self _)

theorem half_le_nlerpLength_sq (h0 : 0 ≤ α) (h1 : α ≤ 1) (hcos : 0 ≤ cos φ) :
    1 / 2 ≤ nlerpLength α φ ^ 2 := by
  have hsq := nlerpLength_sq α φ
  have hprod : α * (1 - α) * (1 - cos φ) ≤ 1 / 4 := by
    have hquarter : α * (1 - α) ≤ 1 / 4 := by nlinarith [sq_nonneg (2 * α - 1)]
    have hα : 0 ≤ α * (1 - α) := mul_nonneg h0 (sub_nonneg.2 h1)
    calc α * (1 - α) * (1 - cos φ) ≤ α * (1 - α) * 1 :=
          mul_le_mul_of_nonneg_left (by linarith) hα
      _ ≤ 1 / 4 := by linarith
  linarith

theorem nlerpLength_pos (h0 : 0 ≤ α) (h1 : α ≤ 1) (hcos : 0 ≤ cos φ) : 0 < nlerpLength α φ := by
  have hhalf := half_le_nlerpLength_sq h0 h1 hcos
  exact (sqrt_nonneg _).lt_of_ne fun h => by
    rw [nlerpLength, ← h] at hhalf
    norm_num at hhalf

/-- The angle that the interpolation covers. -/
noncomputable def nlerpAngle (α φ : ℝ) : ℝ := arcsin (α * sin φ / nlerpLength α φ)

theorem cos_nonneg_of_quarter (hφ : 0 ≤ φ) (hφ' : φ ≤ π / 2) : 0 ≤ cos φ :=
  cos_nonneg_of_mem_Icc ⟨by linarith [pi_pos], hφ'⟩

theorem sin_nonneg_of_quarter (hφ : 0 ≤ φ) (hφ' : φ ≤ π / 2) : 0 ≤ sin φ :=
  sin_nonneg_of_mem_Icc ⟨hφ, by linarith [pi_pos]⟩

/-- The scaled vector is on the circle. -/
theorem nlerp_on_circle (hpos : 0 < nlerpLength α φ) :
    ((1 - α + α * cos φ) / nlerpLength α φ) ^ 2 + (α * sin φ / nlerpLength α φ) ^ 2 = 1 := by
  rw [div_pow, div_pow, ← add_div, ← nlerpLength_sq_eq, div_self (pow_pos hpos 2).ne']

section Quarter

variable (hφ : 0 ≤ φ) (hφ' : φ ≤ π / 2) (h0 : 0 ≤ α) (h1 : α ≤ 1)
include hφ hφ' h0 h1

omit h1 in
theorem nlerpAngle_nonneg : 0 ≤ nlerpAngle α φ :=
  arcsin_nonneg.2 (div_nonneg (mul_nonneg h0 (sin_nonneg_of_quarter hφ hφ')) (sqrt_nonneg _))

theorem sin_nlerpAngle : sin (nlerpAngle α φ) = α * sin φ / nlerpLength α φ := by
  have hpos := nlerpLength_pos h0 h1 (cos_nonneg_of_quarter hφ hφ')
  have hS0 : 0 ≤ α * sin φ / nlerpLength α φ :=
    div_nonneg (mul_nonneg h0 (sin_nonneg_of_quarter hφ hφ')) hpos.le
  have hS1 : α * sin φ / nlerpLength α φ ≤ 1 := by
    have := nlerp_on_circle (α := α) (φ := φ) hpos
    nlinarith [sq_nonneg ((1 - α + α * cos φ) / nlerpLength α φ)]
  exact sin_arcsin (by linarith) hS1

theorem cos_nlerpAngle : cos (nlerpAngle α φ) = (1 - α + α * cos φ) / nlerpLength α φ := by
  have hcos := cos_nonneg_of_quarter hφ hφ'
  have hpos := nlerpLength_pos h0 h1 hcos
  have hC : 0 ≤ (1 - α + α * cos φ) / nlerpLength α φ :=
    div_nonneg (add_nonneg (sub_nonneg.2 h1) (mul_nonneg h0 hcos)) hpos.le
  have hcircle := nlerp_on_circle (α := α) (φ := φ) hpos
  rw [nlerpAngle, cos_arcsin, ← sqrt_sq hC]
  congr 1
  linarith

theorem cos_sub_nlerpAngle :
    cos (φ - nlerpAngle α φ) = ((1 - α) * cos φ + α) / nlerpLength α φ := by
  have hpos := nlerpLength_pos h0 h1 (cos_nonneg_of_quarter hφ hφ')
  rw [cos_sub, sin_nlerpAngle hφ hφ' h0 h1, cos_nlerpAngle hφ hφ' h0 h1]
  field_simp
  linear_combination α * sin_sq_add_cos_sq φ

/-- The interpolation does not pass the second vector. -/
theorem nlerpAngle_le : nlerpAngle α φ ≤ φ := by
  have hpos := nlerpLength_pos h0 h1 (cos_nonneg_of_quarter hφ hφ')
  have hsin : sin (φ - nlerpAngle α φ) = (1 - α) * sin φ / nlerpLength α φ := by
    rw [sin_sub, sin_nlerpAngle hφ hφ' h0 h1, cos_nlerpAngle hφ hφ' h0 h1]
    field_simp
    ring
  have hnonneg : 0 ≤ sin (φ - nlerpAngle α φ) := by
    rw [hsin]
    exact div_nonneg (mul_nonneg (sub_nonneg.2 h1) (sin_nonneg_of_quarter hφ hφ')) hpos.le
  have hle : nlerpAngle α φ ≤ π / 2 := arcsin_le_pi_div_two _
  by_contra hneg
  have := sin_neg_of_neg_of_neg_pi_lt (x := φ - nlerpAngle α φ) (by linarith)
    (by linarith [pi_pos])
  linarith

/-- It covers at least the share `2α/π` of the way. -/
theorem le_nlerpAngle : 2 / π * α * φ ≤ nlerpAngle α φ := by
  have hcos := cos_nonneg_of_quarter hφ hφ'
  have hsin := sin_nonneg_of_quarter hφ hφ'
  calc 2 / π * α * φ = α * (2 / π * φ) := by ring
    _ ≤ α * sin φ := mul_le_mul_of_nonneg_left (mul_le_sin hφ hφ') h0
    _ ≤ α * sin φ / nlerpLength α φ :=
      le_div_self (mul_nonneg h0 hsin) (nlerpLength_pos h0 h1 hcos) (nlerpLength_le_one h0 h1)
    _ = sin (nlerpAngle α φ) := (sin_nlerpAngle hφ hφ' h0 h1).symm
    _ ≤ nlerpAngle α φ := sin_le (nlerpAngle_nonneg hφ hφ' h0)

/-- **The angles to the two vectors after the interpolation.** -/
theorem nlerp_angles :
    arccos ((1 - α + α * cos φ) / nlerpLength α φ) = nlerpAngle α φ ∧
      arccos (((1 - α) * cos φ + α) / nlerpLength α φ) = φ - nlerpAngle α φ := by
  have hnonneg := nlerpAngle_nonneg hφ hφ' h0
  have hle := nlerpAngle_le hφ hφ' h0 h1
  constructor
  · rw [← cos_nlerpAngle hφ hφ' h0 h1]
    exact arccos_cos hnonneg (by linarith [pi_pos])
  · rw [← cos_sub_nlerpAngle hφ hφ' h0 h1]
    exact arccos_cos (sub_nonneg.2 hle) (by linarith [pi_pos])

end Quarter

end Lib
