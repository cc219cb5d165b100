import Mathlib
import WKPairDriver.Lib.RigidMotion

/-!
# The quaternion of a rotation matrix

The products of the components of a unit quaternion are linear in the entries of its matrix.  Back
from the matrix, one component is the root of its square and the others are quotients by it; which
of the four is taken does not matter, as long as it is not zero.

* `IsRotation` — an orthogonal matrix of determinant one; `Entries`, how its entries are related.
* `Recovers` — the products of the components are the ones the matrix says; `Recovers.toMatrix_eq`,
  `Recovers.normSq_eq`.
* `Recovers.of_re`, `of_imI`, `of_imJ`, `of_imK` — from each of the components.
-/

set_option autoImplicit false

namespace Lib

open Quaternion Matrix

universe u
variable {K : Type u} [Field K]

/-- A rotation matrix. -/
structure IsRotation (r : Matrix (Fin 3) (Fin 3) K) : Prop where
  orthogonal : r * rᵀ = 1
  det : r.det = 1

theorem isRotation_toMatrix {q : ℍ[K]} (h : normSq q = 1) : IsRotation (toMatrix q) :=
  ⟨toMatrix_mul_transpose h, det_toMatrix h⟩

/-- The rows are orthonormal, the columns are, and each entry is its own cofactor. -/
structure Entries (r : Matrix (Fin 3) (Fin 3) K) : Prop where
  row00 : r 0 0 * r 0 0 + r 0 1 * r 0 1 + r 0 2 * r 0 2 = 1
  row01 : r 0 0 * r 1 0 + r 0 1 * r 1 1 + r 0 2 * r 1 2 = 0
  row02 : r 0 0 * r 2 0 + r 0 1 * r 2 1 + r 0 2 * r 2 2 = 0
  row11 : r 1 0 * r 1 0 + r 1 1 * r 1 1 + r 1 2 * r 1 2 = 1
  row12 : r 1 0 * r 2 0 + r 1 1 * r 2 1 + r 1 2 * r 2 2 = 0
  row22 : r 2 0 * r 2 0 + r 2 1 * r 2 1 + r 2 2 * r 2 2 = 1
  col00 : r 0 0 * r 0 0 + r 1 0 * r 1 0 + r 2 0 * r 2 0 = 1
  col01 : r 0 0 * r 0 1 + r 1 0 * r 1 1 + r 2 0 * r 2 1 = 0
  col02 : r 0 0 * r 0 2 + r 1 0 * r 1 2 + r 2 0 * r 2 2 = 0
  col11 : r 0 1 * r 0 1 + r 1 1 * r 1 1 + r 2 1 * r 2 1 = 1
  col12 : r 0 1 * r 0 2 + r 1 1 * r 1 2 + r 2 1 * r 2 2 = 0
  col22 : r 0 2 * r 0 2 + r 1 2 * r 1 2 + r 2 2 * r 2 2 = 1
  cof00 : r 1 1 * r 2 2 - r 1 2 * r 2 1 = r 0 0
  cof01 : r 1 2 * r 2 0 - r 1 0 * r 2 2 = r 0 1
  cof02 : r 1 0 * r 2 1 - r 1 1 * r 2 0 = r 0 2
  cof10 : r 2 1 * r 0 2 - r 2 2 * r 0 1 = r 1 0
  cof11 : r 2 2 * r 0 0 - r 2 0 * r 0 2 = r 1 1
  cof12 : r 2 0 * r 0 1 - r 2 1 * r 0 0 = r 1 2
  cof20 : r 0 1 * r 1 2 - r 0 2 * r 1 1 = r 2 0
  cof21 : r 0 2 * r 1 0 - r 0 0 * r 1 2 = r 2 1
  cof22 : r 0 0 * r 1 1 - r 0 1 * r 1 0 = r 2 2

theorem IsRotation.entries {r : Matrix (Fin 3) (Fin 3) K} (h : IsRotation r) : Entries r := by
  have hback : rᵀ * r = 1 := mul_eq_one_comm.1 h.orthogonal
  have hcof : r.adjugate = rᵀ := by
    have hinv : r * r.adjugate = 1 := by rw [Matrix.mul_adjugate, h.det, one_smul]
    calc r.adjugate = rᵀ * r * r.adjugate := by rw [hback, one_mul]
      _ = rᵀ := by rw [mul_assoc, hinv, mul_one]
  have hrow : ∀ i j, r i 0 * r j 0 + r i 1 * r j 1 + r i 2 * r j 2 =
      (1 : Matrix (Fin 3) (Fin 3) K) i j := by
    intro i j
    rw [← h.orthogonal, Matrix.mul_apply, Fin.sum_univ_three]
    rfl
  have hcol : ∀ i j, r 0 i * r 0 j + r 1 i * r 1 j + r 2 i * r 2 j =
      (1 : Matrix (Fin 3) (Fin 3) K) i j := by
    intro i j
    rw [← hback, Matrix.mul_apply, Fin.sum_univ_three]
    rfl
  have hentry : ∀ i j, r.adjugate i j = r j i := fun i j => congrFun (congrFun hcof i) j
  simp only [Matrix.adjugate_fin_three, Fin.forall_fin_succ, Fin.isValue, Fin.succ_zero_eq_one,
    Fin.succ_one_eq_two, IsEmpty.forall_iff, and_true, Matrix.of_apply, Matrix.cons_val] at hentry
  obtain ⟨⟨h00, h01, h02⟩, ⟨h10, h11, h12⟩, h20, h21, h22⟩ := hentry
  constructor
  case row00 | row11 | row22 => exact hrow _ _
  case row01 | row02 | row12 => exact hrow _ _
  case col00 | col11 | col22 => exact hcol _ _
  case col01 | col02 | col12 => exact hcol _ _
  case cof00 => linear_combination h00
  case cof01 => linear_combination h10
  case cof02 => linear_combination h20
  case cof10 => linear_combination h01
  case cof11 => linear_combination h11
  case cof12 => linear_combination h21
  case cof20 => linear_combination h02
  case cof21 => linear_combination h12
  case cof22 => linear_combination h22

/-- The products of the components of `q` are those of the quaternion of `r`. -/
structure Recovers (q : ℍ[K]) (r : Matrix (Fin 3) (Fin 3) K) : Prop where
  re_re : 4 * (q.re * q.re) = 1 + r 0 0 + r 1 1 + r 2 2
  re_imI : 4 * (q.re * q.imI) = r 2 1 - r 1 2
  re_imJ : 4 * (q.re * q.imJ) = r 0 2 - r 2 0
  re_imK : 4 * (q.re * q.imK) = r 1 0 - r 0 1
  imI_imI : 4 * (q.imI * q.imI) = 1 + r 0 0 - r 1 1 - r 2 2
  imI_imJ : 4 * (q.imI * q.imJ) = r 0 1 + r 1 0
  imI_imK : 4 * (q.imI * q.imK) = r 0 2 + r 2 0
  imJ_imJ : 4 * (q.imJ * q.imJ) = 1 + r 1 1 - r 0 0 - r 2 2
  imJ_imK : 4 * (q.imJ * q.imK) = r 1 2 + r 2 1
  imK_imK : 4 * (q.imK * q.imK) = 1 + r 2 2 - r 0 0 - r 1 1

section Recovers

variable [CharZero K] {q : ℍ[K]} {r : Matrix (Fin 3) (Fin 3) K}

theorem Recovers.normSq_eq (h : Recovers q r) : normSq q = 1 := by
  rw [normSq_def']
  linear_combination (h.re_re + h.imI_imI + h.imJ_imJ + h.imK_imK) / 4

/-- **The quaternion has the matrix it was recovered from.** -/
theorem Recovers.toMatrix_eq (h : Recovers q r) : toMatrix q = r := by
  ext i j
  fin_cases i <;> fin_cases j <;> simp only [toMatrix, Matrix.of_apply, Matrix.cons_val, two_nsmul,
    Fin.zero_eta, Fin.mk_one, Fin.reduceFinMk]
  · linear_combination -(h.imJ_imJ + h.imK_imK) / 2
  · linear_combination (h.imI_imJ - h.re_imK) / 2
  · linear_combination (h.imI_imK + h.re_imJ) / 2
  · linear_combination (h.imI_imJ + h.re_imK) / 2
  · linear_combination -(h.imI_imI + h.imK_imK) / 2
  · linear_combination (h.imJ_imK - h.re_imI) / 2
  · linear_combination (h.imI_imK - h.re_imJ) / 2
  · linear_combination (h.imJ_imK + h.re_imI) / 2
  · linear_combination -(h.imI_imI + h.imJ_imJ) / 2

variable {s k a b c : K}

/-- The square of the component that is taken. -/
theorem four_mul_quarter (hs : s * s = 4 * k) : 4 * (0.25 * s * (0.25 * s)) = k := by
  norm_num
  linear_combination hs / 4

theorem four_mul_quotient (h0 : s ≠ 0) (a : K) : 4 * (0.25 * s * (a / s)) = a := by
  norm_num
  field_simp

theorem four_mul_quotient' (h0 : s ≠ 0) (a : K) : 4 * (a / s * (0.25 * s)) = a := by
  rw [mul_comm (a / s), four_mul_quotient h0]

omit [CharZero K] in
/-- The products of the other components. -/
theorem four_mul_quotients (h0 : s ≠ 0) (hs : s * s = 4 * k) (h : a * b = k * c) :
    4 * (a / s * (b / s)) = c := by
  field_simp
  linear_combination 4 * h - c * hs

theorem Recovers.of_re (e : Entries r) (h0 : s ≠ 0)
    (hs : s * s = 4 * (1 + r 0 0 + r 1 1 + r 2 2)) :
    Recovers ⟨0.25 * s, (r 2 1 - r 1 2) / s, (r 0 2 - r 2 0) / s, (r 1 0 - r 0 1) / s⟩ r where
  re_re := four_mul_quarter hs
  re_imI := four_mul_quotient h0 _
  re_imJ := four_mul_quotient h0 _
  re_imK := four_mul_quotient h0 _
  imI_imI := four_mul_quotients h0 hs (by
    linear_combination e.row11 + e.row22 + 2 * e.cof00 - e.col00)
  imI_imJ := four_mul_quotients h0 hs (by
    linear_combination e.cof01 + e.cof10 - e.row01 - e.col01)
  imI_imK := four_mul_quotients h0 hs (by
    linear_combination e.cof02 + e.cof20 - e.row02 - e.col02)
  imJ_imJ := four_mul_quotients h0 hs (by
    linear_combination e.col00 + e.col22 + 2 * e.cof11 - e.row11)
  imJ_imK := four_mul_quotients h0 hs (by
    linear_combination e.cof12 + e.cof21 - e.row12 - e.col12)
  imK_imK := four_mul_quotients h0 hs (by
    linear_combination e.row00 + e.row11 + 2 * e.cof22 - e.col22)

theorem Recovers.of_imI (e : Entries r) (h0 : s ≠ 0)
    (hs : s * s = 4 * (1 + r 0 0 - r 1 1 - r 2 2)) :
    Recovers ⟨(r 2 1 - r 1 2) / s, 0.25 * s, (r 0 1 + r 1 0) / s, (r 0 2 + r 2 0) / s⟩ r where
  re_re := four_mul_quotients h0 hs (by
    linear_combination e.row11 + e.row22 + 2 * e.cof00 - e.col00)
  re_imI := four_mul_quotient' h0 _
  re_imJ := four_mul_quotients h0 hs (by
    linear_combination e.row02 + e.cof02 - e.col02 - e.cof20)
  re_imK := four_mul_quotients h0 hs (by
    linear_combination e.col01 + e.cof10 - e.row01 - e.cof01)
  imI_imI := four_mul_quarter hs
  imI_imJ := four_mul_quotient h0 _
  imI_imK := four_mul_quotient h0 _
  imJ_imJ := four_mul_quotients h0 hs (by
    linear_combination e.row00 + e.row11 - e.col22 - 2 * e.cof22)
  imJ_imK := four_mul_quotients h0 hs (by
    linear_combination e.row12 + e.col12 + e.cof12 + e.cof21)
  imK_imK := four_mul_quotients h0 hs (by
    linear_combination e.col00 + e.col22 - e.row11 - 2 * e.cof11)

theorem Recovers.of_imJ (e : Entries r) (h0 : s ≠ 0)
    (hs : s * s = 4 * (1 + r 1 1 - r 0 0 - r 2 2)) :
    Recovers ⟨(r 0 2 - r 2 0) / s, (r 0 1 + r 1 0) / s, 0.25 * s, (r 1 2 + r 2 1) / s⟩ r where
  re_re := four_mul_quotients h0 hs (by
    linear_combination e.col00 + e.col22 + 2 * e.cof11 - e.row11)
  re_imI := four_mul_quotients h0 hs (by
    linear_combination e.col12 + e.cof21 - e.row12 - e.cof12)
  re_imJ := four_mul_quotient' h0 _
  re_imK := four_mul_quotients h0 hs (by
    linear_combination e.row01 + e.cof10 - e.col01 - e.cof01)
  imI_imI := four_mul_quotients h0 hs (by
    linear_combination e.row00 + e.row11 - e.col22 - 2 * e.cof22)
  imI_imJ := four_mul_quotient' h0 _
  imI_imK := four_mul_quotients h0 hs (by
    linear_combination e.row02 + e.col02 + e.cof02 + e.cof20)
  imJ_imJ := four_mul_quarter hs
  imJ_imK := four_mul_quotient h0 _
  imK_imK := four_mul_quotients h0 hs (by
    linear_combination e.row11 + e.row22 - e.col00 - 2 * e.cof00)

theorem Recovers.of_imK (e : Entries r) (h0 : s ≠ 0)
    (hs : s * s = 4 * (1 + r 2 2 - r 0 0 - r 1 1)) :
    Recovers ⟨(r 1 0 - r 0 1) / s, (r 0 2 + r 2 0) / s, (r 1 2 + r 2 1) / s, 0.25 * s⟩ r where
  re_re := four_mul_quotients h0 hs (by
    linear_combination e.row00 + e.row11 + 2 * e.cof22 - e.col22)
  re_imI := four_mul_quotients h0 hs (by
    linear_combination e.row12 + e.cof21 - e.col12 - e.cof12)
  re_imJ := four_mul_quotients h0 hs (by
    linear_combination e.col02 + e.cof02 - e.row02 - e.cof20)
  re_imK := four_mul_quotient' h0 _
  imI_imI := four_mul_quotients h0 hs (by
    linear_combination e.col00 + e.col22 - e.row11 - 2 * e.cof11)
  imI_imJ := four_mul_quotients h0 hs (by
    linear_combination e.row01 + e.col01 + e.cof01 + e.cof10)
  imI_imK := four_mul_quotient' h0 _
  imJ_imJ := four_mul_quotients h0 hs (by
    linear_combination e.row11 + e.row22 - e.col00 - 2 * e.cof00)
  imJ_imK := four_mul_quotient' h0 _
  imK_imK := four_mul_quarter hs

end Recovers

end Lib
