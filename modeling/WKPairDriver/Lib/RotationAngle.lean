import Mathlib

/-!
# The angle between two rotations

Two unit quaternions are the same rotation up to their sign, and the angle between their rotations
is twice the angle between their lines.

* `rotationAngle_neg_left`, `rotationAngle_comm` — it does not depend on signs or order.
* `rotationAngle_triangle` — the triangle inequality.
-/

set_option autoImplicit false

namespace Lib

open Quaternion InnerProductGeometry
open scoped RealInnerProductSpace

/-- The angle of the rotation that takes one to the other. -/
noncomputable def rotationAngle (p q : ℍ[ℝ]) : ℝ := 2.0 * Real.arccos |⟪p, q⟫|

theorem rotationAngle_eq (p q : ℍ[ℝ]) : rotationAngle p q = 2 * Real.arccos |⟪p, q⟫| := by
  rw [rotationAngle]
  norm_num

theorem rotationAngle_comm (p q : ℍ[ℝ]) : rotationAngle p q = rotationAngle q p := by
  rw [rotationAngle, rotationAngle, real_inner_comm]

@[simp] theorem rotationAngle_neg_left (p q : ℍ[ℝ]) : rotationAngle (-p) q = rotationAngle p q := by
  rw [rotationAngle, rotationAngle, inner_neg_left, abs_neg]

@[simp] theorem rotationAngle_neg_right (p q : ℍ[ℝ]) :
    rotationAngle p (-q) = rotationAngle p q := by
  rw [rotationAngle, rotationAngle, inner_neg_right, abs_neg]

theorem rotationAngle_nonneg (p q : ℍ[ℝ]) : 0 ≤ rotationAngle p q :=
  mul_nonneg (by norm_num) (Real.arccos_nonneg _)

theorem norm_eq_one_of_unit {q : ℍ[ℝ]} (h : normSq q = 1) : ‖q‖ = 1 := by
  rw [Quaternion.normSq_eq_norm_mul_self] at h
  nlinarith [norm_nonneg q]

theorem rotationAngle_self {q : ℍ[ℝ]} (h : normSq q = 1) : rotationAngle q q = 0 := by
  rw [rotationAngle, Quaternion.inner_self, h, abs_one, Real.arccos_one, mul_zero]

/-! ## The triangle inequality -/

variable {p q r : ℍ[ℝ]}

theorem angle_eq_of_unit (hp : normSq p = 1) (hq : normSq q = 1) :
    angle p q = Real.arccos ⟪p, q⟫ := by
  rw [angle, norm_eq_one_of_unit hp, norm_eq_one_of_unit hq, mul_one, div_one]

/-- The angle between the lines is at most that between the directions. -/
theorem rotationAngle_le (hp : normSq p = 1) (hq : normSq q = 1) :
    rotationAngle p q ≤ 2 * angle p q := by
  rw [rotationAngle_eq, angle_eq_of_unit hp hq]
  have := Real.arccos_le_arccos (le_abs_self ⟪p, q⟫)
  linarith

/-- One of the two directions of `q` is that close. -/
theorem exists_rotationAngle_eq (hp : normSq p = 1) (hq : normSq q = 1) :
    ∃ q', (q' = q ∨ q' = -q) ∧ normSq q' = 1 ∧ rotationAngle p q = 2 * angle p q' := by
  have hneg : normSq (-q) = 1 := by rw [normSq_neg, hq]
  rcases abs_choice ⟪p, q⟫ with h | h
  · exact ⟨q, .inl rfl, hq, by rw [rotationAngle_eq, angle_eq_of_unit hp hq, h]⟩
  · exact ⟨-q, .inr rfl, hneg, by rw [rotationAngle_eq, angle_eq_of_unit hp hneg, inner_neg_right, h]⟩

/-- **Triangle inequality.** -/
theorem rotationAngle_triangle (hp : normSq p = 1) (hq : normSq q = 1) (hr : normSq r = 1) :
    rotationAngle p r ≤ rotationAngle p q + rotationAngle q r := by
  obtain ⟨q', hq', hunit, hpq⟩ := exists_rotationAngle_eq hp hq
  have hqr : rotationAngle q r = rotationAngle q' r := by
    rcases hq' with rfl | rfl
    · rfl
    · rw [rotationAngle_neg_left]
  obtain ⟨r', hr', hunit', hqr'⟩ := exists_rotationAngle_eq hunit hr
  have hpr : rotationAngle p r = rotationAngle p r' := by
    rcases hr' with rfl | rfl
    · rfl
    · rw [rotationAngle_neg_right]
  have htriangle := angle_le_angle_add_angle p q' r'
  have hle := rotationAngle_le hp hunit'
  rw [hpr, hpq, hqr, hqr']
  linarith

/-! ## The angle of a product -/

/-- The angle of `p * star q`, from the lengths of its parts. -/
theorem rotationAngle_eq_arg (hp : normSq p = 1) (hq : normSq q = 1) :
    2 * Complex.arg ⟨|(p * star q).re|, √((p * star q).imI * (p * star q).imI +
      (p * star q).imJ * (p * star q).imJ + (p * star q).imK * (p * star q).imK)⟩ =
      rotationAngle p q := by
  have hunit : normSq (p * star q) = 1 := by rw [map_mul, normSq_star, hp, hq, one_mul]
  have hinner : ⟪p, q⟫ = (p * star q).re := Quaternion.inner_def p q
  rw [rotationAngle_eq, hinner]
  generalize p * star q = d at hunit
  rw [Quaternion.normSq_def'] at hunit
  have hnorm : ‖(⟨|d.re|, √(d.imI * d.imI + d.imJ * d.imJ + d.imK * d.imK)⟩ : ℂ)‖ = 1 := by
    have hvec : 0 ≤ d.imI * d.imI + d.imJ * d.imJ + d.imK * d.imK :=
      add_nonneg (add_nonneg (mul_self_nonneg _) (mul_self_nonneg _)) (mul_self_nonneg _)
    rw [Complex.norm_eq_sqrt_sq_add_sq, Real.sqrt_eq_one, sq_abs, Real.sq_sqrt hvec]
    linarith
  have hsqrt : √(d.imI * d.imI + d.imJ * d.imJ + d.imK * d.imK) = √(1 - |d.re| ^ 2) := by
    congr 1
    rw [sq_abs]
    linarith
  rw [Complex.arg_of_re_nonneg (abs_nonneg _), hnorm, div_one, Real.arccos_eq_arcsin (abs_nonneg _),
    hsqrt]

end Lib
