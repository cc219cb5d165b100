import Mathlib
import WKPairDriver.Lib.RotationAngle

/-!
# Spherical interpolation

Two unit quaternions are interpolated along the arc between their lines.

* `sin_sq_add_sin_sq` — the identity that puts the interpolation on the sphere.
* `slerp_unit` — the interpolation of unit quaternions is one.
* `rotationAngle_slerp` — the angle that is left is the share of it that was not covered.
-/

set_option autoImplicit false

namespace Lib

open Quaternion
open scoped RealInnerProductSpace

/-! ## Two shares of an angle -/

theorem sin_sq_add_sin_sq (α β : ℝ) :
    Real.sin α ^ 2 + Real.sin β ^ 2 + 2 * (Real.sin α * Real.sin β * Real.cos (α + β)) =
      Real.sin (α + β) ^ 2 := by
  rw [Real.cos_add, Real.sin_add]
  linear_combination -Real.sin α ^ 2 * Real.sin_sq_add_cos_sq β -
    Real.sin β ^ 2 * Real.sin_sq_add_cos_sq α

theorem sin_mul_cos_add_sin (α β : ℝ) :
    Real.sin α * Real.cos (α + β) + Real.sin β = Real.sin (α + β) * Real.cos α := by
  rw [Real.cos_add, Real.sin_add]
  linear_combination -Real.sin β * Real.sin_sq_add_cos_sq α

/-! ## The interpolation -/

/-- `b` where it is nearer to `a` than `-b` is, and else `-b`. -/
noncomputable def nearer (a b : ℍ[ℝ]) : ℍ[ℝ] := if ⟪a, b⟫ < 0 then -b else b

/-- The interpolation from `a` to `b` with the weight `t`. -/
noncomputable def slerp (a b : ℍ[ℝ]) (t : ℝ) : ℍ[ℝ] :=
  if |⟪a, b⟫| ≥ 1 then (1 - t) • a + t • nearer a b
  else
    let θ := Real.arccos |⟪a, b⟫|
    (Real.sin ((1 - t) * θ) / Real.sin θ) • a + (Real.sin (t * θ) / Real.sin θ) • nearer a b

variable {a b : ℍ[ℝ]}

theorem nearer_cases (a b : ℍ[ℝ]) : nearer a b = b ∨ nearer a b = -b := by
  unfold nearer
  split
  · exact .inr rfl
  · exact .inl rfl

theorem inner_nearer (a b : ℍ[ℝ]) : ⟪a, nearer a b⟫ = |⟪a, b⟫| := by
  unfold nearer
  split
  next h => rw [inner_neg_right, abs_of_neg h]
  next h => rw [abs_of_nonneg (not_lt.1 h)]

theorem rotationAngle_nearer (c a b : ℍ[ℝ]) : rotationAngle c (nearer a b) = rotationAngle c b := by
  rcases nearer_cases a b with h | h
  · rw [h]
  · rw [h, rotationAngle_neg_right]

theorem nearer_unit (hb : normSq b = 1) : normSq (nearer a b) = 1 := by
  rcases nearer_cases a b with h | h
  · rw [h, hb]
  · rw [h, normSq_neg, hb]

theorem abs_inner_le_one (ha : normSq a = 1) (hb : normSq b = 1) : |⟪a, b⟫| ≤ 1 := by
  have h := abs_real_inner_le_norm a b
  rwa [norm_eq_one_of_unit ha, norm_eq_one_of_unit hb, mul_one] at h

/-- Parallel unit quaternions are one rotation. -/
theorem nearer_eq_of_parallel (ha : normSq a = 1) (hb : normSq b = 1) (h : 1 ≤ |⟪a, b⟫|) :
    nearer a b = a := by
  have hinner : ⟪a, nearer a b⟫ = 1 := by
    rw [inner_nearer]
    exact le_antisymm (abs_inner_le_one ha hb) h
  exact ((inner_eq_one_iff_of_norm_eq_one (norm_eq_one_of_unit ha)
    (norm_eq_one_of_unit (nearer_unit hb))).1 hinner).symm

/-- Where the interpolation is not to itself, the angle has a sine. -/
theorem sin_arccos_pos {c : ℝ} (h0 : 0 ≤ c) (h1 : c < 1) : 0 < Real.sin (Real.arccos c) := by
  rw [Real.sin_arccos]
  exact Real.sqrt_pos.2 (by nlinarith)

/-- The length of a combination of two unit quaternions. -/
theorem normSq_combination {c d : ℍ[ℝ]} (hc : normSq c = 1) (hd : normSq d = 1) (x y : ℝ) :
    normSq (x • c + y • d) = x ^ 2 + y ^ 2 + 2 * (x * y * ⟪c, d⟫) := by
  rw [← Quaternion.inner_self, inner_add_add_self, real_inner_smul_left, real_inner_smul_right,
    real_inner_smul_left, real_inner_smul_right, real_inner_smul_left, real_inner_smul_right,
    real_inner_smul_left, real_inner_smul_right, Quaternion.inner_self, Quaternion.inner_self, hc,
    hd, real_inner_comm c d]
  ring

/-- **The interpolation stays on the sphere.** -/
theorem slerp_unit (ha : normSq a = 1) (hb : normSq b = 1) (t : ℝ) : normSq (slerp a b t) = 1 := by
  unfold slerp
  split
  next h =>
    rw [nearer_eq_of_parallel ha hb h, ← add_smul, sub_add_cancel, one_smul, ha]
  next h =>
    dsimp only
    set θ := Real.arccos |⟪a, b⟫| with hθ
    have hsin : 0 < Real.sin θ := sin_arccos_pos (abs_nonneg _) (not_le.1 h)
    have hcos : Real.cos θ = |⟪a, b⟫| :=
      Real.cos_arccos (by linarith [abs_nonneg ⟪a, b⟫]) (not_le.1 h).le
    have hsum := sin_sq_add_sin_sq ((1 - t) * θ) (t * θ)
    have hθsum : (1 - t) * θ + t * θ = θ := by ring
    rw [hθsum] at hsum
    rw [normSq_combination ha (nearer_unit hb), inner_nearer, ← hcos]
    field_simp
    linear_combination hsum

/-- **The angle that is left is the share that was not covered.** -/
theorem rotationAngle_slerp (ha : normSq a = 1) (hb : normSq b = 1) {t : ℝ} (h0 : 0 ≤ t)
    (h1 : t ≤ 1) : rotationAngle (slerp a b t) b = (1 - t) * rotationAngle a b := by
  rw [← rotationAngle_nearer _ a b]
  unfold slerp
  split
  next h =>
    have hself := nearer_eq_of_parallel ha hb h
    have hzero : rotationAngle a b = 0 := by
      rw [← rotationAngle_nearer a a b, hself, rotationAngle_self ha]
    rw [hself, ← add_smul, sub_add_cancel, one_smul, rotationAngle_self ha, hzero, mul_zero]
  next h =>
    dsimp only
    set θ := Real.arccos |⟪a, b⟫| with hθ
    have hsin : 0 < Real.sin θ := sin_arccos_pos (abs_nonneg _) (not_le.1 h)
    have hcos : Real.cos θ = |⟪a, b⟫| :=
      Real.cos_arccos (by linarith [abs_nonneg ⟪a, b⟫]) (not_le.1 h).le
    have hθsum : (1 - t) * θ + t * θ = θ := by ring
    have hinner : ⟪(Real.sin ((1 - t) * θ) / Real.sin θ) • a +
        (Real.sin (t * θ) / Real.sin θ) • nearer a b, nearer a b⟫ = Real.cos ((1 - t) * θ) := by
      have hsum := sin_mul_cos_add_sin ((1 - t) * θ) (t * θ)
      rw [hθsum] at hsum
      rw [inner_add_left, real_inner_smul_left, real_inner_smul_left, inner_nearer,
        Quaternion.inner_self, nearer_unit hb, ← hcos]
      field_simp
      linear_combination hsum
    -- the angle that is left is at most a right one
    have hθ0 : 0 ≤ θ := Real.arccos_nonneg _
    have hθ1 : θ ≤ Real.pi / 2 := Real.arccos_le_pi_div_two.2 (abs_nonneg _)
    have hleft0 : 0 ≤ (1 - t) * θ := mul_nonneg (by linarith) hθ0
    have hleft1 : (1 - t) * θ ≤ θ := mul_le_of_le_one_left hθ0 (by linarith)
    have hcos0 : 0 ≤ Real.cos ((1 - t) * θ) :=
      Real.cos_nonneg_of_mem_Icc ⟨by linarith [Real.pi_pos], by linarith⟩
    rw [rotationAngle_eq, rotationAngle_eq, hinner, abs_of_nonneg hcos0,
      Real.arccos_cos hleft0 (by linarith [Real.pi_pos])]
    ring

end Lib
