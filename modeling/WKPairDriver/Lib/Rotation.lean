import Mathlib

/-!
# Rotations by quaternions

The rotation of a vector by a quaternion, in the form that needs no product of quaternions, and
the matrix of it.  A unit quaternion rotates; the other ones are not of interest.

* `toMatrix_mul`, `rotate_rotate` — the product of unit quaternions composes their rotations.
* `toMatrix_eq_iff` — two unit quaternions have one rotation exactly when they agree up to sign.
* `toMatrix_mul_transpose`, `det_toMatrix` — the matrix of a unit quaternion is a rotation matrix.
* `motion` — a rotation followed by a translation.
-/

set_option autoImplicit false

namespace Lib

open Quaternion Matrix

universe u
variable {R : Type u} [CommRing R]

/-! ## The rotation of a vector -/

/-- The vector part. -/
def vec (q : ℍ[R]) : Fin 3 → R := ![q.imI, q.imJ, q.imK]

/-- `v` rotated by `q`. -/
def rotate (q : ℍ[R]) (v : Fin 3 → R) : Fin 3 → R :=
  let t := 2 • (vec q ⨯₃ v)
  v + q.re • t + vec q ⨯₃ t

/-- The matrix of the rotation by `q`. -/
def toMatrix (q : ℍ[R]) : Matrix (Fin 3) (Fin 3) R :=
  let tx := 2 • q.imI
  let ty := 2 • q.imJ
  let tz := 2 • q.imK
  !![1 - (ty * q.imJ + tz * q.imK), ty * q.imI - tz * q.re, tz * q.imI + ty * q.re;
    ty * q.imI + tz * q.re, 1 - (tx * q.imI + tz * q.imK), tz * q.imJ - tx * q.re;
    tz * q.imI - ty * q.re, tz * q.imJ + tx * q.re, 1 - (tx * q.imI + ty * q.imJ)]

theorem toMatrix_mulVec (q : ℍ[R]) (v : Fin 3 → R) : toMatrix q *ᵥ v = rotate q v := by
  funext i
  fin_cases i <;>
  · simp [toMatrix, rotate, vec, cross_apply, Matrix.mulVec, dotProduct, Fin.sum_univ_three,
      vecHead, vecTail]
    ring

theorem rotate_add (q : ℍ[R]) (v w : Fin 3 → R) : rotate q (v + w) = rotate q v + rotate q w := by
  simp only [← toMatrix_mulVec, Matrix.mulVec_add]

theorem rotate_smul (q : ℍ[R]) (c : R) (v : Fin 3 → R) : rotate q (c • v) = c • rotate q v := by
  simp only [← toMatrix_mulVec, Matrix.mulVec_smul]

@[simp] theorem rotate_zero (q : ℍ[R]) : rotate q 0 = 0 := by
  rw [← toMatrix_mulVec, Matrix.mulVec_zero]

@[simp] theorem toMatrix_neg (q : ℍ[R]) : toMatrix (-q) = toMatrix q := by
  simp only [toMatrix, re_neg, imI_neg, imJ_neg, imK_neg, smul_neg, mul_neg, neg_mul, neg_neg]

@[simp] theorem rotate_neg (q : ℍ[R]) (v : Fin 3 → R) : rotate (-q) v = rotate q v := by
  rw [← toMatrix_mulVec, toMatrix_neg, toMatrix_mulVec]

@[simp] theorem toMatrix_one : toMatrix (1 : ℍ[R]) = 1 := by
  ext i j
  fin_cases i <;> fin_cases j <;> simp [toMatrix]

@[simp] theorem rotate_one (v : Fin 3 → R) : rotate 1 v = v := by
  rw [← toMatrix_mulVec, toMatrix_one, Matrix.one_mulVec]

/-! ## Products -/

/-- The matrix of `v ↦ q * v * star q`. -/
def conjMatrix (q : ℍ[R]) : Matrix (Fin 3) (Fin 3) R := toMatrix q + (normSq q - 1) • 1

theorem conjMatrix_of_unit {q : ℍ[R]} (h : normSq q = 1) : conjMatrix q = toMatrix q := by
  rw [conjMatrix, h, sub_self, zero_smul, add_zero]

theorem conjMatrix_mul (p q : ℍ[R]) : conjMatrix (p * q) = conjMatrix p * conjMatrix q := by
  ext i j
  fin_cases i <;> fin_cases j <;>
  · simp [conjMatrix, toMatrix, Matrix.mul_apply, Fin.sum_univ_three, normSq_def']
    ring

/-- **The product of two unit quaternions composes their rotations.** -/
theorem toMatrix_mul {p q : ℍ[R]} (hp : normSq p = 1) (hq : normSq q = 1) :
    toMatrix (p * q) = toMatrix p * toMatrix q := by
  have hpq : normSq (p * q) = 1 := by rw [map_mul, hp, hq, one_mul]
  rw [← conjMatrix_of_unit hpq, conjMatrix_mul, conjMatrix_of_unit hp, conjMatrix_of_unit hq]

theorem rotate_rotate {p q : ℍ[R]} (hp : normSq p = 1) (hq : normSq q = 1) (v : Fin 3 → R) :
    rotate p (rotate q v) = rotate (p * q) v := by
  simp only [← toMatrix_mulVec, Matrix.mulVec_mulVec, toMatrix_mul hp hq]

theorem toMatrix_star (q : ℍ[R]) : toMatrix (star q) = (toMatrix q)ᵀ := by
  ext i j
  fin_cases i <;> fin_cases j <;>
  · simp [toMatrix]
    try ring

/-- The matrix of a unit quaternion is a rotation matrix. -/
theorem toMatrix_mul_transpose {q : ℍ[R]} (h : normSq q = 1) :
    toMatrix q * (toMatrix q)ᵀ = 1 := by
  have hstar : normSq (star q) = 1 := by rw [normSq_star, h]
  rw [← toMatrix_star, ← toMatrix_mul h hstar, self_mul_star, h, coe_one, toMatrix_one]

theorem det_toMatrix {q : ℍ[R]} (h : normSq q = 1) : (toMatrix q).det = 1 := by
  rw [normSq_def'] at h
  have hdet : (toMatrix q).det = 1 + 4 * (q.re ^ 2 + q.imI ^ 2 + q.imJ ^ 2 + q.imK ^ 2 - 1) *
      (q.imI ^ 2 + q.imJ ^ 2 + q.imK ^ 2) := by
    simp [Matrix.det_fin_three, toMatrix]
    ring
  rw [hdet, h]
  ring

/-! ## The sign of a quaternion -/

section Sign

variable {K : Type u} [Field K] [LinearOrder K] [IsStrictOrderedRing K]

/-- Only the two units on the real axis rotate nothing. -/
theorem eq_one_or_neg_one {q : ℍ[K]} (h : normSq q = 1) (hone : toMatrix q = 1) :
    q = 1 ∨ q = -1 := by
  have h0 := congrFun (congrFun hone 0) 0
  have h1 := congrFun (congrFun hone 1) 1
  simp only [toMatrix, Matrix.of_apply, Matrix.cons_val, Matrix.one_apply_eq, two_nsmul] at h0 h1
  have hI : q.imI = 0 := by nlinarith [sq_nonneg q.imI, sq_nonneg q.imJ, sq_nonneg q.imK]
  have hJ : q.imJ = 0 := by nlinarith [sq_nonneg q.imI, sq_nonneg q.imJ, sq_nonneg q.imK]
  have hK : q.imK = 0 := by nlinarith [sq_nonneg q.imI, sq_nonneg q.imJ, sq_nonneg q.imK]
  have hre : q.re * q.re = 1 := by simpa [normSq_def', hI, hJ, hK, sq] using h
  rcases mul_self_eq_one_iff.1 hre with hre | hre
  · exact .inl (by ext <;> simp [hre, hI, hJ, hK])
  · exact .inr (by ext <;> simp [hre, hI, hJ, hK])

/-- **Two unit quaternions have one rotation exactly when they agree up to sign.** -/
theorem toMatrix_eq_iff {p q : ℍ[K]} (hp : normSq p = 1) (hq : normSq q = 1) :
    toMatrix p = toMatrix q ↔ p = q ∨ p = -q := by
  constructor
  · intro h
    have hstar : normSq (star q) = 1 := by rw [normSq_star, hq]
    have hunit : normSq (star q * p) = 1 := by rw [map_mul, hstar, hp, one_mul]
    have hone : toMatrix (star q * p) = 1 := by
      rw [toMatrix_mul hstar hp, h, ← toMatrix_mul hstar hq, star_mul_self, hq, coe_one,
        toMatrix_one]
    have hback : q * (star q * p) = p := by rw [← mul_assoc, self_mul_star, hq, coe_one, one_mul]
    rcases eq_one_or_neg_one hunit hone with h1 | h1
    · exact .inl (by rw [← hback, h1, mul_one])
    · exact .inr (by rw [← hback, h1, mul_neg, mul_one])
  · rintro (rfl | rfl)
    · rfl
    · exact toMatrix_neg q

end Sign

/-! ## Normalizing -/

/-- The quaternion of length one in the direction of `q`. -/
noncomputable def normalized (q : ℍ[ℝ]) : ℍ[ℝ] :=
  if normSq q > 0 then (√(normSq q))⁻¹ • q else q

theorem normalized_of_unit {q : ℍ[ℝ]} (h : normSq q = 1) : normalized q = q := by
  rw [normalized, h, if_pos one_pos, Real.sqrt_one, inv_one, one_smul]

/-! ## Motions -/

/-- A rotation followed by a translation. -/
def motion (q : ℍ[R]) (t v : Fin 3 → R) : Fin 3 → R := t + rotate q v

@[simp] theorem motion_zero (q : ℍ[R]) (t : Fin 3 → R) : motion q t 0 = t := by
  rw [motion, rotate_zero, add_zero]

@[simp] theorem motion_neg (q : ℍ[R]) (t v : Fin 3 → R) : motion (-q) t v = motion q t v := by
  rw [motion, rotate_neg, motion]

end Lib
