import Mathlib
import WKPairDriver.Calibration.HeadFromTrackerSolve

/-!
# Functions that behave as Eigen's

What the solver assumes of Eigen can be met: every matrix of a unit quaternion has a quaternion, and
every symmetric matrix a largest eigenvalue.

* `exists_isTop` — the largest eigenvalue and a unit eigenvector for it.
* `standardEigen_meets` — the functions chosen here meet the solver's assumptions.
* `angleAxis` — the rotation vector of a quaternion; `rotVecDeg_quarterTurn` is that of a quarter
  turn.
-/

set_option autoImplicit false

namespace WKPairDriver.Calibration.OffsetSolver

open Lib Quaternion Matrix

noncomputable section

/-- `aa.axis() * aa.angle()` of `AngleAxisd aa(q)`, for a unit quaternion. -/
def angleAxis (q : ℍ[ℝ]) : Axes :=
  let n := √(q.imI * q.imI + q.imJ * q.imJ + q.imK * q.imK)
  if n = 0 then ⟨0, 0, 0⟩
  else
    let angle := 2.0 * Real.arccos |q.re|
    let s := if q.re < 0 then -n else n
    ⟨q.imI / s * angle, q.imJ / s * angle, q.imK / s * angle⟩

open Classical in
def standardQuaternion (r : Matrix (Fin 3) (Fin 3) ℝ) : ℍ[ℝ] :=
  if h : ∃ q : ℍ[ℝ], normSq q = 1 ∧ toMatrix q = r then h.choose else 1

open Classical in
def standardEigenvector (m : Matrix (Fin 4) (Fin 4) ℝ) : Fin 4 → ℝ :=
  if h : ∃ v lambda, IsTop m v lambda then h.choose else 0

def standardEigen : Eigen where
  rotation m := m.linear
  quaternion := standardQuaternion
  lastEigenvector := standardEigenvector
  rotationVector r := angleAxis (standardQuaternion r)

theorem standardQuaternion_spec {q : ℍ[ℝ]} (h : normSq q = 1) :
    normSq (standardQuaternion (toMatrix q)) = 1 ∧
      toMatrix (standardQuaternion (toMatrix q)) = toMatrix q := by
  have hex : ∃ p : ℍ[ℝ], normSq p = 1 ∧ toMatrix p = toMatrix q := ⟨q, h, rfl⟩
  rw [standardQuaternion, dif_pos hex]
  exact hex.choose_spec

/-- A symmetric matrix has a largest eigenvalue. -/
theorem exists_isTop {m : Matrix (Fin 4) (Fin 4) ℝ} (h : mᵀ = m) :
    ∃ v lambda, IsTop m v lambda := by
  have hm : m.IsHermitian := by
    rw [Matrix.IsHermitian, conjTranspose_eq_transpose_of_trivial, h]
  obtain ⟨i, hi⟩ := Finite.exists_max hm.eigenvalues
  refine ⟨⇑(hm.eigenvectorBasis i), hm.eigenvalues i, ?_, hm.mulVec_eigenvectorBasis i, ?_⟩
  · have hnorm := hm.eigenvectorBasis.orthonormal.1 i
    rw [EuclideanSpace.norm_eq, Real.sqrt_eq_one] at hnorm
    rw [dotProduct, ← hnorm]
    simp [sq]
  · intro w mu hw heigen
    have hspec : mu ∈ spectrum ℝ m := by
      rw [spectrum.mem_iff]
      intro hunit
      apply hw
      apply Matrix.mulVec_injective_of_isUnit hunit
      rw [sub_mulVec, heigen, Algebra.algebraMap_eq_smul_one, smul_mulVec, one_mulVec, sub_self,
        mulVec_zero]
    rw [hm.spectrum_real_eq_range_eigenvalues] at hspec
    obtain ⟨j, rfl⟩ := hspec
    exact hi j

theorem standardEigen_meets : standardEigen.Meets where
  rotation _ := rfl
  quaternion _ h := standardQuaternion_spec h
  lastEigenvector m h := by
    have hex := exists_isTop h
    show ∃ lambda, IsTop m (standardEigenvector m) lambda
    rw [standardEigenvector, dif_pos hex]
    exact hex.choose_spec

/-! ## Quarter turns -/

theorem angleAxis_one {q : ℍ[ℝ]} (h : q = 1 ∨ q = -1) : angleAxis q = ⟨0, 0, 0⟩ := by
  rcases h with rfl | rfl <;> simp [angleAxis]

/-- The two quaternions of a rotation by less than half a turn have one rotation vector. -/
theorem angleAxis_neg {q : ℍ[ℝ]} (h : 0 < q.re) : angleAxis (-q) = angleAxis q := by
  have hneg : -q.re < 0 := neg_lt_zero.2 h
  simp only [angleAxis, re_neg, imI_neg, imJ_neg, imK_neg, neg_mul_neg, abs_neg, if_pos hneg,
    if_neg h.not_gt, neg_div_neg_eq]

/-- A quarter turn about the axis `x`, `y`, `z`. -/
def quarterTurn (x y z : ℝ) : ℍ[ℝ] := ⟨√0.5, √0.5 * x, √0.5 * y, √0.5 * z⟩

theorem half_sqrt_two_sq : √2 / 2 * (√2 / 2) = (1 / 2 : ℝ) := by
  have h : √2 * √2 = (2 : ℝ) := Real.mul_self_sqrt (by norm_num)
  linarith

theorem quarterTurn_eq (x y z : ℝ) :
    quarterTurn x y z = ⟨√2 / 2, √2 / 2 * x, √2 / 2 * y, √2 / 2 * z⟩ := by
  have hpos : 0 < √2 / 2 := by positivity
  have hhalf : √0.5 = √2 / 2 := by
    rw [Real.sqrt_eq_iff_mul_self_eq_of_pos hpos, half_sqrt_two_sq]
    norm_num
  rw [quarterTurn, hhalf]

theorem quarterTurn_unit {x y z : ℝ} (h : x * x + y * y + z * z = 1) :
    normSq (quarterTurn x y z) = 1 := by
  have hhalf := half_sqrt_two_sq
  rw [normSq_def', quarterTurn_eq]
  linear_combination (1 + x * x + y * y + z * z) * hhalf + 1 / 2 * h

theorem angleAxis_quarterTurn {x y z : ℝ} (haxis : x * x + y * y + z * z = 1) {q : ℍ[ℝ]}
    (h : q = quarterTurn x y z ∨ q = -quarterTurn x y z) :
    angleAxis q = ⟨x * (Real.pi / 2), y * (Real.pi / 2), z * (Real.pi / 2)⟩ := by
  have hpos : 0 < √2 / 2 := by positivity
  have hhalf := half_sqrt_two_sq
  have hangle : 2.0 * Real.arccos (√2 / 2) = Real.pi / 2 := by
    rw [← Real.cos_pi_div_four, Real.arccos_cos (by positivity) (by linarith [Real.pi_pos])]
    norm_num
    ring
  have hn : √(√2 / 2 * x * (√2 / 2 * x) + √2 / 2 * y * (√2 / 2 * y) +
      √2 / 2 * z * (√2 / 2 * z)) = √2 / 2 := by
    rw [Real.sqrt_eq_iff_mul_self_eq_of_pos hpos]
    linear_combination (1 - (x * x + y * y + z * z)) * hhalf - 1 / 2 * haxis
  have hcancel : ∀ t : ℝ, √2 / 2 * t / (√2 / 2) = t := fun t => mul_div_cancel_left₀ t hpos.ne'
  have hturn : angleAxis (quarterTurn x y z) =
      ⟨x * (Real.pi / 2), y * (Real.pi / 2), z * (Real.pi / 2)⟩ := by
    simp only [angleAxis, quarterTurn_eq, hn, abs_of_pos hpos, hangle, if_neg hpos.ne',
      if_neg hpos.not_gt, hcancel]
  rcases h with rfl | rfl
  · exact hturn
  · have hre : 0 < (quarterTurn x y z).re := by rwa [quarterTurn_eq]
    exact (angleAxis_neg hre).trans hturn

/-- The rotation vector the solver computes for a quarter turn, in degrees. -/
theorem rotVecDeg_quarterTurn {x y z : ℝ} (haxis : x * x + y * y + z * z = 1) :
    (standardEigen.rotationVector (toMatrix (quarterTurn x y z))).map
      (fun r => r * (180 / Real.pi)) = ⟨x * 90, y * 90, z * 90⟩ := by
  have hunit := quarterTurn_unit haxis
  obtain ⟨hstandard, hmatrix⟩ := standardQuaternion_spec hunit
  have hpi := Real.pi_ne_zero
  have hdeg : ∀ t : ℝ, t * (Real.pi / 2) * (180 / Real.pi) = t * 90 := by
    intro t
    field_simp
    ring
  show (angleAxis (standardQuaternion _)).map _ = _
  rw [angleAxis_quarterTurn haxis ((toMatrix_eq_iff hstandard hunit).1 hmatrix)]
  simp only [Axes.map, hdeg]

theorem rotVecDeg_one :
    (standardEigen.rotationVector 1).map (fun r => r * (180 / Real.pi)) = ⟨0, 0, 0⟩ := by
  have hone : normSq (1 : ℍ[ℝ]) = 1 := map_one _
  obtain ⟨hstandard, hmatrix⟩ := standardQuaternion_spec hone
  have hsame := (toMatrix_eq_iff hstandard hone).1 hmatrix
  rw [toMatrix_one] at hsame
  show (angleAxis (standardQuaternion 1)).map _ = _
  rw [angleAxis_one hsame]
  simp only [Axes.map, zero_mul]

end

end WKPairDriver.Calibration.OffsetSolver
