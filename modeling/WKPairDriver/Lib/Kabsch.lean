import Mathlib
import WKPairDriver.Lib.Axes

/-!
# The best rotation of the plane

For pairs of points with the cross-covariance `m` the sum of the inner products of the second points
with the rotated first ones is `gain m θ`.  A singular value decomposition `m = u * s * vᵀ` offers
the orthogonal matrix `v * uᵀ`, a rotation or a reflection.

* `gain_sum_vecMulVec` — the gain of a cross-covariance.
* `isBest_of_rotation` — when `v * uᵀ` is a rotation, it is a best one.
* `isBest_of_reflection_iff` — when it is a reflection, its angle is the best one exactly when
  `m * mᵀ` has its larger eigenvalue on the first axis.
* `isBest_all_iff` — the angle is the best one for every decomposition of `m`.
-/

set_option autoImplicit false

namespace Lib.Kabsch

open Matrix Real

/-! ## Decompositions -/

structure IsSvd {n : ℕ} (m u v : Matrix (Fin n) (Fin n) ℝ) (s : Fin n → ℝ) : Prop where
  left : uᵀ * u = 1
  right : vᵀ * v = 1
  nonneg : ∀ i, 0 ≤ s i
  eq : m = u * diagonal s * vᵀ

/-! ## Rotations of the plane -/

noncomputable def planeRotation (θ : ℝ) : Matrix (Fin 2) (Fin 2) ℝ :=
  !![cos θ, -sin θ; sin θ, cos θ]

noncomputable def gain (m : Matrix (Fin 2) (Fin 2) ℝ) (θ : ℝ) : ℝ := trace (planeRotation θ * m)

/-- No angle gains more. -/
def IsBest (m : Matrix (Fin 2) (Fin 2) ℝ) (θ : ℝ) : Prop := ∀ φ, gain m φ ≤ gain m θ

/-- `atan2(r(1, 0), r(0, 0))` -/
noncomputable def angleOf (r : Matrix (Fin 2) (Fin 2) ℝ) : ℝ :=
  Complex.arg ⟨r planeX planeX, r planeY planeX⟩

variable {m r p u v : Matrix (Fin 2) (Fin 2) ℝ} {s : Fin 2 → ℝ} {c d θ : ℝ}

theorem gain_eq (m : Matrix (Fin 2) (Fin 2) ℝ) (θ : ℝ) :
    gain m θ = cos θ * (m 0 0 + m 1 1) + sin θ * (m 0 1 - m 1 0) := by
  simp only [gain, planeRotation, trace_fin_two, mul_apply, Fin.sum_univ_two, of_apply, cons_val',
    cons_val_zero, cons_val_one, cons_val_fin_one]
  ring

/-- The gain of a cross-covariance. -/
theorem gain_sum_vecMulVec (pairs : List ((Fin 2 → ℝ) × (Fin 2 → ℝ))) (θ : ℝ) :
    gain (pairs.map fun q => vecMulVec q.1 q.2).sum θ =
      (pairs.map fun q => (planeRotation θ *ᵥ q.1) ⬝ᵥ q.2).sum := by
  induction pairs with
  | nil => simp [gain]
  | cons q pairs ih =>
    have hone : trace (planeRotation θ * vecMulVec q.1 q.2) = (planeRotation θ *ᵥ q.1) ⬝ᵥ q.2 := by
      rw [mul_vecMulVec, trace_vecMulVec]
    rw [List.map_cons, List.sum_cons, List.map_cons, List.sum_cons, ← ih, ← hone, gain,
      Matrix.mul_add, trace_add, gain]

/-- The gain past `θ` in terms of its value and its slope at `θ`. -/
theorem gain_add (m : Matrix (Fin 2) (Fin 2) ℝ) (θ t : ℝ) :
    gain m (θ + t) = cos t * gain m θ +
      sin t * (cos θ * (m 0 1 - m 1 0) - sin θ * (m 0 0 + m 1 1)) := by
  rw [gain_eq, gain_eq, cos_add, sin_add]
  ring

/-- **The best angles** are those where the slope vanishes and the gain is not negative. -/
theorem isBest_iff (m : Matrix (Fin 2) (Fin 2) ℝ) (θ : ℝ) :
    IsBest m θ ↔ cos θ * (m 0 1 - m 1 0) - sin θ * (m 0 0 + m 1 1) = 0 ∧ 0 ≤ gain m θ := by
  set g := gain m θ with hg
  set h := cos θ * (m 0 1 - m 1 0) - sin θ * (m 0 0 + m 1 1) with hh
  constructor
  · intro hbest
    have hall : ∀ t, cos t * g + sin t * h ≤ g := by
      intro t
      have := hbest (θ + t)
      rwa [gain_add] at this
    have hnonneg : 0 ≤ g := by
      have := hall π
      rw [cos_pi, sin_pi] at this
      linarith
    refine ⟨?_, hnonneg⟩
    by_contra hne
    -- the angle of the vector `(g, h)` gains its length
    have hz : (⟨g, h⟩ : ℂ) ≠ 0 := fun h0 => hne (congrArg Complex.im h0)
    have hlen := norm_pos_iff.2 hz
    have hbound := hall (Complex.arg ⟨g, h⟩)
    rw [Complex.cos_arg hz, Complex.sin_arg, div_mul_eq_mul_div, div_mul_eq_mul_div,
      ← add_div, div_le_iff₀ hlen] at hbound
    have hsq := Complex.sq_norm (⟨g, h⟩ : ℂ)
    rw [Complex.normSq_mk] at hsq
    have hpos : 0 < h * h := mul_self_pos.2 hne
    simp only at hbound
    nlinarith
  · rintro ⟨hzero, hnonneg⟩ φ
    have hφ := gain_add m θ (φ - θ)
    rw [add_sub_cancel, ← hh, hzero, mul_zero, add_zero] at hφ
    rw [hφ]
    exact mul_le_of_le_one_left hnonneg (cos_le_one _)

/-! ## Orthogonal matrices of the plane -/

theorem angleOf_cos_sin (h : r 0 0 ^ 2 + r 1 0 ^ 2 = 1) :
    cos (angleOf r) = r 0 0 ∧ sin (angleOf r) = r 1 0 := by
  have hnorm : ‖(⟨r 0 0, r 1 0⟩ : ℂ)‖ = 1 := by
    have hsq := Complex.sq_norm (⟨r 0 0, r 1 0⟩ : ℂ)
    rw [Complex.normSq_mk, ← sq, ← sq, h] at hsq
    exact (pow_eq_one_iff_of_nonneg (norm_nonneg _) two_ne_zero).1 hsq
  have hz : (⟨r 0 0, r 1 0⟩ : ℂ) ≠ 0 := norm_ne_zero_iff.1 (by rw [hnorm]; exact one_ne_zero)
  rw [angleOf]
  simp only [planeX_eq, planeY_eq]
  rw [Complex.cos_arg hz, Complex.sin_arg, hnorm, div_one, div_one]
  exact ⟨rfl, rfl⟩

/-- An orthogonal matrix of the plane is a rotation or a reflection. -/
theorem orthogonal_cases (h : rᵀ * r = 1) :
    r 0 0 ^ 2 + r 1 0 ^ 2 = 1 ∧
      (r.det = 1 ∧ r 0 1 = -r 1 0 ∧ r 1 1 = r 0 0 ∨
        r.det = -1 ∧ r 0 1 = r 1 0 ∧ r 1 1 = -r 0 0) := by
  have hentry : ∀ i j, (rᵀ * r) i j = (1 : Matrix (Fin 2) (Fin 2) ℝ) i j := fun i j => by rw [h]
  simp only [mul_apply, transpose_apply, Fin.sum_univ_two] at hentry
  have h00 : r 0 0 * r 0 0 + r 1 0 * r 1 0 = 1 := hentry 0 0
  have h01 : r 0 0 * r 0 1 + r 1 0 * r 1 1 = 0 := hentry 0 1
  have h11 : r 0 1 * r 0 1 + r 1 1 * r 1 1 = 1 := hentry 1 1
  have hdet : r.det = r 0 0 * r 1 1 - r 0 1 * r 1 0 := det_fin_two r
  have hright : r 0 1 = -(r.det * r 1 0) := by
    rw [hdet]
    linear_combination -r 0 1 * h00 + r 0 0 * h01
  have hleft : r 1 1 = r.det * r 0 0 := by
    rw [hdet]
    linear_combination -r 1 1 * h00 + r 1 0 * h01
  have hsq : r.det * r.det = 1 := by
    rw [hdet]
    linear_combination (r 0 1 * r 0 1 + r 1 1 * r 1 1) * h00 + h11 -
      (r 0 0 * r 0 1 + r 1 0 * r 1 1) * h01
  refine ⟨by linarith, ?_⟩
  rcases mul_self_eq_one_iff.1 hsq with hone | hone
  · exact .inl ⟨hone, by rw [hright, hone]; ring, by rw [hleft, hone]; ring⟩
  · exact .inr ⟨hone, by rw [hright, hone]; ring, by rw [hleft, hone]; ring⟩

/-! ## The polar factor -/

/-- `v * s * vᵀ` is symmetric, and neither its trace nor its determinant is negative. -/
theorem IsSvd.polar (h : IsSvd m u v s) :
    ((v * uᵀ) * m)ᵀ = (v * uᵀ) * m ∧ 0 ≤ ((v * uᵀ) * m).trace ∧ 0 ≤ ((v * uᵀ) * m).det := by
  have hpolar : (v * uᵀ) * m = v * diagonal s * vᵀ := by
    rw [h.eq, Matrix.mul_assoc v, ← Matrix.mul_assoc uᵀ, ← Matrix.mul_assoc uᵀ, h.left,
      Matrix.one_mul, Matrix.mul_assoc]
  rw [hpolar]
  refine ⟨?_, ?_, ?_⟩
  · rw [transpose_mul, transpose_mul, transpose_transpose, diagonal_transpose, Matrix.mul_assoc]
  · rw [Matrix.mul_assoc, trace_mul_comm, Matrix.mul_assoc, h.right, Matrix.mul_one, trace_diagonal]
    exact Finset.sum_nonneg fun i _ => h.nonneg i
  · have hsq : vᵀ.det * v.det = 1 := by rw [← det_mul, h.right, det_one]
    rw [det_mul, det_mul, det_diagonal, mul_right_comm, mul_comm v.det, hsq, one_mul]
    exact Finset.prod_nonneg fun i _ => h.nonneg i

/-- The factor is orthogonal. -/
theorem IsSvd.orthogonal (h : IsSvd m u v s) : (v * uᵀ)ᵀ * (v * uᵀ) = 1 := by
  have hu : u * uᵀ = 1 := mul_eq_one_comm.1 h.left
  rw [transpose_mul, transpose_transpose, Matrix.mul_assoc, ← Matrix.mul_assoc vᵀ, h.right,
    Matrix.one_mul, hu]

theorem eq_transpose_mul (h : rᵀ * r = 1) : m = rᵀ * (r * m) := by
  rw [← Matrix.mul_assoc, h, Matrix.one_mul]

/-- **A rotation is a best one.** -/
theorem isBest_of_rotation (hr : rᵀ * r = 1) (hdet : r.det = 1) (hsymm : (r * m)ᵀ = r * m)
    (htrace : 0 ≤ (r * m).trace) : IsBest m (angleOf r) := by
  obtain ⟨hunit, ⟨-, h01, h11⟩ | ⟨hneg, -⟩⟩ := orthogonal_cases hr
  · obtain ⟨hcos, hsin⟩ := angleOf_cos_sin hunit
    have hoff : (r * m) 1 0 = (r * m) 0 1 := congrFun (congrFun hsymm 0) 1
    rw [trace_fin_two] at htrace
    simp only [mul_apply, Fin.sum_univ_two, h01, h11] at hoff htrace
    rw [isBest_iff, gain_eq, hcos, hsin]
    constructor <;> linarith
  · rw [hdet] at hneg
    norm_num at hneg

/-- What the slope and the gain at the angle of a reflection tell of `m * mᵀ`. -/
theorem reflection_slope_gain (hr : rᵀ * r = 1) (hdet : r.det = -1) (hsymm : (r * m)ᵀ = r * m) :
    2 * (m * mᵀ) 0 1 = -((r * m).trace *
        (cos (angleOf r) * (m 0 1 - m 1 0) - sin (angleOf r) * (m 0 0 + m 1 1))) ∧
      (m * mᵀ) 0 0 - (m * mᵀ) 1 1 = (r * m).trace * gain m (angleOf r) := by
  obtain ⟨hunit, ⟨hpos, -⟩ | ⟨-, h01, h11⟩⟩ := orthogonal_cases hr
  · rw [hdet] at hpos
    norm_num at hpos
  · obtain ⟨hcos, hsin⟩ := angleOf_cos_sin hunit
    have hoff : (r * m) 1 0 = (r * m) 0 1 := congrFun (congrFun hsymm 0) 1
    set p := r * m with hp
    have hm : m = rᵀ * p := eq_transpose_mul hr
    have hm00 : m 0 0 = r 0 0 * p 0 0 + r 1 0 * p 0 1 := by
      rw [hm, mul_apply, Fin.sum_univ_two, transpose_apply, transpose_apply, hoff]
    have hm01 : m 0 1 = r 0 0 * p 0 1 + r 1 0 * p 1 1 := by
      rw [hm, mul_apply, Fin.sum_univ_two, transpose_apply, transpose_apply]
    have hm10 : m 1 0 = r 1 0 * p 0 0 - r 0 0 * p 0 1 := by
      rw [hm, mul_apply, Fin.sum_univ_two, transpose_apply, transpose_apply, hoff, h01, h11]
      ring
    have hm11 : m 1 1 = r 1 0 * p 0 1 - r 0 0 * p 1 1 := by
      rw [hm, mul_apply, Fin.sum_univ_two, transpose_apply, transpose_apply, h01, h11]
      ring
    rw [gain_eq, hcos, hsin, trace_fin_two, mul_apply, mul_apply, mul_apply, Fin.sum_univ_two,
      Fin.sum_univ_two, Fin.sum_univ_two]
    simp only [transpose_apply, hm00, hm01, hm10, hm11]
    constructor
    · ring
    · ring

/-- A symmetric matrix without a negative trace or determinant vanishes with its trace. -/
theorem eq_zero_of_trace (hsymm : pᵀ = p) (htrace : p.trace = 0) (hdet : 0 ≤ p.det) : p = 0 := by
  have hoff : p 1 0 = p 0 1 := congrFun (congrFun hsymm 0) 1
  rw [trace_fin_two] at htrace
  rw [det_fin_two, hoff] at hdet
  have h00 : p 0 0 = 0 := by nlinarith
  have h01 : p 0 1 = 0 := by nlinarith
  have h11 : p 1 1 = 0 := by linarith
  ext i j
  fin_cases i <;> fin_cases j <;> simp [h00, h01, h11, hoff]

/-- **A reflection is a best one exactly** when the larger eigenvalue of `m * mᵀ` lies on the first
    axis. -/
theorem isBest_of_reflection_iff (hr : rᵀ * r = 1) (hdet : r.det = -1)
    (hsymm : (r * m)ᵀ = r * m) (htrace : 0 ≤ (r * m).trace) (hdet' : 0 ≤ (r * m).det) :
    IsBest m (angleOf r) ↔ (m * mᵀ) 0 1 = 0 ∧ (m * mᵀ) 1 1 ≤ (m * mᵀ) 0 0 := by
  obtain ⟨hslope, hgain⟩ := reflection_slope_gain hr hdet hsymm
  rw [isBest_iff]
  rcases htrace.eq_or_lt with hzero | hpos
  · have hm : m = 0 := by
      rw [eq_transpose_mul (m := m) hr, eq_zero_of_trace hsymm hzero.symm hdet', Matrix.mul_zero]
    rw [gain_eq, hm]
    simp
  · constructor
    · rintro ⟨hflat, hnonneg⟩
      rw [hflat, mul_zero, neg_zero] at hslope
      have := mul_nonneg hpos.le hnonneg
      constructor <;> linarith
    · rintro ⟨hoff, hle⟩
      rw [hoff, mul_zero] at hslope
      constructor
      · exact (mul_eq_zero.1 (neg_eq_zero.1 hslope.symm)).resolve_left hpos.ne'
      · exact nonneg_of_mul_nonneg_right (by linarith) hpos

/-! ## Decompositions exist -/

theorem planeRotation_orthogonal (θ : ℝ) : (planeRotation θ)ᵀ * planeRotation θ = 1 := by
  have hunit := sin_sq_add_cos_sq θ
  ext i j
  fin_cases i <;> fin_cases j <;>
    simp only [planeRotation, mul_apply, transpose_apply, Fin.sum_univ_two, of_apply, cons_val',
      cons_val_zero, cons_val_one, cons_val_fin_one, Fin.zero_eta, Fin.mk_one, one_apply,
      Fin.isValue, if_true, zero_ne_one, one_ne_zero, if_false] <;>
    linarith

/-- The principal axes of a symmetric matrix that has no negative eigenvalue. -/
theorem exists_principal (hsymm : pᵀ = p) (htrace : 0 ≤ p.trace) (hdet : 0 ≤ p.det) :
    ∃ (v : Matrix (Fin 2) (Fin 2) ℝ) (s : Fin 2 → ℝ),
      vᵀ * v = 1 ∧ (∀ i, 0 ≤ s i) ∧ p = v * diagonal s * vᵀ := by
  have hoff : p 1 0 = p 0 1 := congrFun (congrFun hsymm 0) 1
  rw [trace_fin_two] at htrace
  rw [det_fin_two, hoff] at hdet
  set z : ℂ := ⟨p 0 0 - p 1 1, 2 * p 0 1⟩ with hz
  have hsq : ‖z‖ ^ 2 = (p 0 0 - p 1 1) ^ 2 + (2 * p 0 1) ^ 2 := by
    rw [Complex.sq_norm, hz, Complex.normSq_mk]
    ring
  have hle : ‖z‖ ≤ p 0 0 + p 1 1 := abs_le_of_sq_le_sq' (by rw [hsq]; nlinarith) htrace |>.2
  -- half the angle of `z` is that of the first principal axis
  set ψ := Complex.arg z / 2 with hψ
  have hre : ‖z‖ * cos (2 * ψ) = p 0 0 - p 1 1 := by
    rw [hψ, mul_div_cancel₀ _ two_ne_zero, Complex.norm_mul_cos_arg]
  have him : ‖z‖ * sin (2 * ψ) = 2 * p 0 1 := by
    rw [hψ, mul_div_cancel₀ _ two_ne_zero, Complex.norm_mul_sin_arg]
  rw [cos_two_mul] at hre
  rw [sin_two_mul] at him
  have hunit := sin_sq_add_cos_sq ψ
  refine ⟨planeRotation ψ, ![(p 0 0 + p 1 1 + ‖z‖) / 2, (p 0 0 + p 1 1 - ‖z‖) / 2],
    planeRotation_orthogonal ψ, ?_, ?_⟩
  · intro i
    have := norm_nonneg z
    fin_cases i <;> simp only [Fin.zero_eta, Fin.mk_one, cons_val_zero, cons_val_one] <;> linarith
  · have hentry : ∀ i j, (planeRotation ψ *
        diagonal ![(p 0 0 + p 1 1 + ‖z‖) / 2, (p 0 0 + p 1 1 - ‖z‖) / 2] *
          (planeRotation ψ)ᵀ) i j =
        planeRotation ψ i 0 * ((p 0 0 + p 1 1 + ‖z‖) / 2) * planeRotation ψ j 0 +
          planeRotation ψ i 1 * ((p 0 0 + p 1 1 - ‖z‖) / 2) * planeRotation ψ j 1 := by
      intro i j
      rw [mul_apply, Fin.sum_univ_two, mul_diagonal, mul_diagonal]
      rfl
    have h00 : planeRotation ψ 0 0 = cos ψ := rfl
    have h01 : planeRotation ψ 0 1 = -sin ψ := rfl
    have h10 : planeRotation ψ 1 0 = sin ψ := rfl
    have h11 : planeRotation ψ 1 1 = cos ψ := rfl
    ext i j
    rw [hentry]
    fin_cases i <;> fin_cases j <;>
      simp only [Fin.zero_eta, Fin.mk_one, h00, h01, h10, h11, hoff]
    · linear_combination (-(p 0 0 + p 1 1) / 2 + ‖z‖ / 2) * hunit - 1 / 2 * hre
    · linear_combination -(1 / 2) * him
    · linear_combination -(1 / 2) * him
    · linear_combination (-(p 0 0 + p 1 1) / 2 - ‖z‖ / 2) * hunit + 1 / 2 * hre

/-- The reflection that makes `m` symmetric, with no negative trace. -/
theorem exists_reflection (m : Matrix (Fin 2) (Fin 2) ℝ) :
    ∃ r : Matrix (Fin 2) (Fin 2) ℝ, rᵀ * r = 1 ∧ r.det = -1 ∧ (r * m)ᵀ = r * m ∧
      0 ≤ (r * m).trace := by
  set ψ := Complex.arg ⟨m 0 0 - m 1 1, m 0 1 + m 1 0⟩ with hψ
  have hre : ‖(⟨m 0 0 - m 1 1, m 0 1 + m 1 0⟩ : ℂ)‖ * cos ψ = m 0 0 - m 1 1 :=
    Complex.norm_mul_cos_arg _
  have him : ‖(⟨m 0 0 - m 1 1, m 0 1 + m 1 0⟩ : ℂ)‖ * sin ψ = m 0 1 + m 1 0 :=
    Complex.norm_mul_sin_arg _
  set ρ := ‖(⟨m 0 0 - m 1 1, m 0 1 + m 1 0⟩ : ℂ)‖ with hρ
  have hρ0 : 0 ≤ ρ := norm_nonneg _
  have hunit := sin_sq_add_cos_sq ψ
  set r : Matrix (Fin 2) (Fin 2) ℝ := !![cos ψ, sin ψ; sin ψ, -cos ψ] with hr
  have hentry : ∀ i j, (r * m) i j = r i 0 * m 0 j + r i 1 * m 1 j := by
    intro i j
    rw [mul_apply, Fin.sum_univ_two]
  have h00 : r 0 0 = cos ψ := rfl
  have h01 : r 0 1 = sin ψ := rfl
  have h10 : r 1 0 = sin ψ := rfl
  have h11 : r 1 1 = -cos ψ := rfl
  refine ⟨r, ?_, ?_, ?_, ?_⟩
  · ext i j
    rw [mul_apply, Fin.sum_univ_two]
    fin_cases i <;> fin_cases j <;>
      simp only [transpose_apply, Fin.zero_eta, Fin.mk_one, h00, h01, h10, h11, one_apply,
        if_true, zero_ne_one, one_ne_zero, if_false] <;>
      linarith
  · rw [det_fin_two, h00, h01, h10, h11]
    linarith
  · have hoff : (r * m) 1 0 = (r * m) 0 1 := by
      rw [hentry, hentry, h00, h01, h10, h11]
      linear_combination cos ψ * him - sin ψ * hre
    ext i j
    fin_cases i <;> fin_cases j <;> simp only [transpose_apply, Fin.zero_eta, Fin.mk_one, hoff]
  · rw [trace_fin_two, hentry, hentry, h00, h01, h10, h11]
    have hvalue : cos ψ * m 0 0 + sin ψ * m 1 0 + (sin ψ * m 0 1 + -cos ψ * m 1 1) = ρ := by
      linear_combination -cos ψ * hre - sin ψ * him + ρ * hunit
    rw [hvalue]
    exact hρ0

/-- Unless the determinant is positive, some decomposition offers a reflection. -/
theorem exists_isSvd_reflection (hdet : m.det ≤ 0) :
    ∃ u v s, IsSvd m u v s ∧ (v * uᵀ).det = -1 := by
  obtain ⟨r, horth, hrdet, hsymm, htrace⟩ := exists_reflection m
  have hpdet : 0 ≤ (r * m).det := by
    rw [det_mul, hrdet]
    linarith
  obtain ⟨v, s, hv, hs, hp⟩ := exists_principal hsymm htrace hpdet
  have hv' : v * vᵀ = 1 := mul_eq_one_comm.1 hv
  have hr' : r * rᵀ = 1 := mul_eq_one_comm.1 horth
  refine ⟨rᵀ * v, v, s, ⟨?_, hv, hs, ?_⟩, ?_⟩
  · rw [transpose_mul, transpose_transpose, Matrix.mul_assoc, ← Matrix.mul_assoc r, hr',
      Matrix.one_mul, hv]
  · rw [Matrix.mul_assoc rᵀ, Matrix.mul_assoc rᵀ, ← hp]
    exact eq_transpose_mul horth
  · rw [transpose_mul, transpose_transpose, ← Matrix.mul_assoc, hv', Matrix.one_mul, hrdet]

/-- **The angle is a best one for every decomposition** exactly when the determinant is positive, or
    the larger eigenvalue of `m * mᵀ` lies on the first axis. -/
theorem isBest_all_iff (m : Matrix (Fin 2) (Fin 2) ℝ) :
    (∀ u v s, IsSvd m u v s → IsBest m (angleOf (v * uᵀ))) ↔
      0 < m.det ∨ (m * mᵀ) 0 1 = 0 ∧ (m * mᵀ) 1 1 ≤ (m * mᵀ) 0 0 := by
  constructor
  · intro hall
    rcases lt_or_ge 0 m.det with hpos | hneg
    · exact .inl hpos
    · obtain ⟨u, v, s, hsvd, hdet⟩ := exists_isSvd_reflection hneg
      obtain ⟨hsymm, htrace, hdet'⟩ := hsvd.polar
      exact .inr ((isBest_of_reflection_iff hsvd.orthogonal hdet hsymm htrace hdet').1
        (hall u v s hsvd))
  · intro hm u v s hsvd
    obtain ⟨hsymm, htrace, hdet'⟩ := hsvd.polar
    obtain ⟨-, ⟨hone, -⟩ | ⟨hneg, -⟩⟩ := orthogonal_cases hsvd.orthogonal
    · exact isBest_of_rotation hsvd.orthogonal hone hsymm htrace
    · rw [isBest_of_reflection_iff hsvd.orthogonal hneg hsymm htrace hdet']
      refine hm.resolve_left fun hpos => ?_
      rw [det_mul, hneg] at hdet'
      linarith

end Lib.Kabsch
