import Mathlib
import WKPairDriver.Calibration.IncrementalSolve
import WKPairDriver.Lib.Deviation

/-!
# The error of a validation

`ComputeRefToTargetOffset` averages the positions of the calibrated target in the frame of the
reference, `RetargetingErrorRMS` measures them in the world.  Over exact reals the average has the
least error, and the error tells whether the position is fixed in the reference's frame; it does not
look at the rotation of the target.

* `residual_eq` — a residual in the world is one in the frame of the reference.
* `RetargetingErrorRMS_eq`, `ComputeRefToTargetOffset_eq` — both by the positions in that frame.
* `validation_least` — the error of a validation is the least one, and when it is zero.
* `turningTarget_unnoticed` — a target that turns in its place has no error.
-/

set_option autoImplicit false

namespace WKPairDriver.Calibration.Incremental

open Lib.Deviation Matrix

noncomputable section

/-! ## Exact arithmetic -/

/-- Doubles as reals. -/
def exactReals (infinity : ℝ) : DoubleArith ℝ where
  add x y := x + y
  sub x y := x - y
  mul x y := x * y
  div x y := x / y
  sqrt x := √x
  abs x := |x|
  lt x y := decide (x < y)
  le x y := decide (x ≤ y)
  isFinite _ := true
  infinity := infinity
  lit q := q

/-- The solvers, with the inverse of a matrix. -/
def exactInverse (solve : Solvers ℝ) : Solvers ℝ :=
  { solve with inverse := fun m => ((Matrix.of m)⁻¹ : Matrix (Fin 3) (Fin 3) ℝ) }

/-! ## The frame of the reference -/

variable (infinity : ℝ) (solve : Solvers ℝ)

/-- The rotation of the reference is a rotation, or a reflection. -/
def Orthonormal (s : Sample ℝ) : Prop := (Matrix.of s.ref.rot)ᵀ * Matrix.of s.ref.rot = 1

/-- The calibrated position of the target. -/
def calibrated (calibration : AffineCompact3d ℝ) (s : Sample ℝ) : Fin 3 → ℝ :=
  Matrix.of calibration.linear *ᵥ s.target.trans + calibration.translation

/-- It in the frame of the reference. -/
def headPosition (calibration : AffineCompact3d ℝ) (s : Sample ℝ) : Fin 3 → ℝ :=
  (Matrix.of s.ref.rot)⁻¹ *ᵥ (calibrated calibration s - s.ref.trans)

/-- The coordinates of these positions along an axis. -/
def headCoordinates (samples : List (Sample ℝ)) (calibration : AffineCompact3d ℝ) (axis : Fin 3) :
    List ℝ :=
  (samples.filter (·.valid)).map fun s => headPosition calibration s axis

theorem mulVec_eq (m : Matrix3d ℝ) (v : Fin 3 → ℝ) :
    (exactReals infinity).mulVec m v = Matrix.of m *ᵥ v := by
  funext i
  rw [mulVec, dotProduct, Fin.sum_univ_three]
  rfl

theorem transformed_eq (s : Sample ℝ) (calibration : AffineCompact3d ℝ) :
    (exactReals infinity).transformed s.target calibration = calibrated calibration s := by
  rw [DoubleArith.transformed, mulVec_eq]
  rfl

theorem squaredNorm_eq (v : Fin 3 → ℝ) : (exactReals infinity).squaredNorm v = v ⬝ᵥ v := by
  rw [dotProduct, Fin.sum_univ_three]
  rfl

/-- A rotation does not change lengths. -/
theorem dotProduct_mulVec_self {m : Matrix (Fin 3) (Fin 3) ℝ} (h : mᵀ * m = 1) (v : Fin 3 → ℝ) :
    (m *ᵥ v) ⬝ᵥ (m *ᵥ v) = v ⬝ᵥ v := by
  rw [dotProduct_mulVec, ← mulVec_transpose, mulVec_mulVec, h, one_mulVec]

variable {infinity solve} {samples : List (Sample ℝ)} {calibration : AffineCompact3d ℝ}

/-- The position in the world, from the one in the frame. -/
theorem calibrated_eq {s : Sample ℝ} (h : Orthonormal s) :
    calibrated calibration s = Matrix.of s.ref.rot *ᵥ headPosition calibration s + s.ref.trans := by
  have hunit : Matrix.of s.ref.rot * (Matrix.of s.ref.rot)⁻¹ = 1 := by
    rw [Matrix.inv_eq_left_inv h]
    exact mul_eq_one_comm.1 h
  rw [headPosition, mulVec_mulVec, hunit, one_mulVec, sub_add_cancel]

/-- **A residual in the world** is one in the frame of the reference. -/
theorem residual_eq {s : Sample ℝ} (h : Orthonormal s) (offset : Fin 3 → ℝ) :
    (calibrated calibration s - (Matrix.of s.ref.rot *ᵥ offset + s.ref.trans)) ⬝ᵥ
        (calibrated calibration s - (Matrix.of s.ref.rot *ᵥ offset + s.ref.trans)) =
      (headPosition calibration s - offset) ⬝ᵥ (headPosition calibration s - offset) := by
  rw [calibrated_eq h, add_sub_add_right_eq_sub, ← mulVec_sub, dotProduct_mulVec_self h]

/-! ## The two loops -/

/-- A loop that adds up and counts. -/
theorem foldl_sum {α β : Type} [AddCommMonoid β] (f : α → β) (l : List α) (a : β) (n : ℕ) :
    l.foldl (fun acc s => (acc.1 + f s, acc.2 + 1)) (a, n) = (a + (l.map f).sum, n + l.length) := by
  induction l generalizing a n with
  | nil => simp
  | cons x l ih =>
    rw [List.foldl_cons, ih, List.map_cons, List.sum_cons, List.length_cons, add_assoc]
    congr 1
    omega

theorem sum_apply {α : Type} (l : List α) (f : α → Fin 3 → ℝ) (axis : Fin 3) :
    (l.map f).sum axis = (l.map fun s => f s axis).sum := by
  induction l with
  | nil => rfl
  | cons x l ih => rw [List.map_cons, List.sum_cons, List.map_cons, List.sum_cons, Pi.add_apply, ih]

variable (infinity solve)

/-- The sum of the squared residuals of an offset. -/
def sqResiduals (samples : List (Sample ℝ)) (calibration : AffineCompact3d ℝ)
    (offset : Fin 3 → ℝ) : ℝ :=
  ((samples.filter (·.valid)).map fun s =>
    (headPosition calibration s - offset) ⬝ᵥ (headPosition calibration s - offset)).sum

/-- The squared residual of a sample, as the loop has it. -/
def sqResidual (calibration : AffineCompact3d ℝ) (offset : Fin 3 → ℝ) (s : Sample ℝ) : ℝ :=
  (exactReals infinity).squaredNorm ((exactReals infinity).vsub
    ((exactReals infinity).transformed s.target calibration)
    ((exactReals infinity).vadd ((exactReals infinity).mulVec s.ref.rot offset) s.ref.trans))

theorem sqResidual_eq {s : Sample ℝ} (h : Orthonormal s) (offset : Fin 3 → ℝ) :
    sqResidual infinity calibration offset s =
      (headPosition calibration s - offset) ⬝ᵥ (headPosition calibration s - offset) := by
  rw [sqResidual, squaredNorm_eq, transformed_eq, mulVec_eq, ← residual_eq h]
  rfl

theorem RetargetingErrorRMS_eq (horth : ∀ s ∈ samples, s.valid = true → Orthonormal s)
    (hvalid : samples.filter (·.valid) ≠ []) (offset : Fin 3 → ℝ) :
    RetargetingErrorRMS (exactReals infinity) samples offset calibration =
      √(sqResiduals samples calibration offset / (samples.filter (·.valid)).length) := by
  have hlen : 0 + (samples.filter (·.valid)).length ≠ 0 := by
    simpa using hvalid
  have hresiduals : ((samples.filter (·.valid)).map (sqResidual infinity calibration offset)).sum =
      sqResiduals samples calibration offset := by
    rw [sqResiduals]
    congr 1
    refine List.map_congr_left fun s hs => ?_
    obtain ⟨hmem, hs⟩ := List.mem_filter.1 hs
    exact sqResidual_eq infinity (horth s hmem hs) offset
  have hloop : RetargetingErrorRMS (exactReals infinity) samples offset calibration =
      (fun r : ℝ × ℕ => if r.2 = 0 then infinity else √(r.1 / ((r.2 : ℚ) : ℝ)))
        ((samples.filter (·.valid)).foldl (fun acc s =>
          (acc.1 + sqResidual infinity calibration offset s, acc.2 + 1)) (((0 : ℚ) : ℝ), 0)) := rfl
  rw [hloop, foldl_sum, hresiduals]
  dsimp only
  rw [if_neg hlen]
  push_cast
  rw [zero_add, zero_add]

theorem ComputeRefToTargetOffset_eq (hvalid : samples.filter (·.valid) ≠ []) (axis : Fin 3) :
    ComputeRefToTargetOffset (exactReals infinity) (exactInverse solve) samples calibration axis =
      mean (headCoordinates samples calibration axis) := by
  have hlen : 0 + (samples.filter (·.valid)).length ≠ 0 := by
    simpa using hvalid
  have hhead : ∀ s : Sample ℝ, (exactReals infinity).mulVec ((exactInverse solve).inverse s.ref.rot)
      ((exactReals infinity).vsub ((exactReals infinity).transformed s.target calibration)
        s.ref.trans) = headPosition calibration s := by
    intro s
    have hinverse : Matrix.of ((exactInverse solve).inverse s.ref.rot) =
        (Matrix.of s.ref.rot)⁻¹ := rfl
    rw [mulVec_eq, transformed_eq, hinverse]
    rfl
  have hloop : ComputeRefToTargetOffset (exactReals infinity) (exactInverse solve) samples
      calibration = (fun r : (Fin 3 → ℝ) × ℕ => if r.2 = 0 then (exactReals infinity).vzero
        else (exactReals infinity).vdiv r.1 ((r.2 : ℚ) : ℝ))
        ((samples.filter (·.valid)).foldl (fun acc s =>
          (acc.1 + (exactReals infinity).mulVec ((exactInverse solve).inverse s.ref.rot)
            ((exactReals infinity).vsub ((exactReals infinity).transformed s.target calibration)
              s.ref.trans), acc.2 + 1)) ((exactReals infinity).vzero, 0)) := rfl
  rw [hloop, foldl_sum]
  dsimp only
  rw [if_neg hlen]
  simp only [hhead]
  have hzero : (exactReals infinity).vzero = 0 := by
    funext i
    show ((0 : ℚ) : ℝ) = 0
    exact Rat.cast_zero
  rw [hzero, zero_add, zero_add, mean, headCoordinates, List.length_map, ← sum_apply]
  show _ / (((samples.filter (·.valid)).length : ℚ) : ℝ) = _
  rw [Rat.cast_natCast]

/-! ## The least error -/

theorem headCoordinates_ne_nil (hvalid : samples.filter (·.valid) ≠ []) (axis : Fin 3) :
    headCoordinates samples calibration axis ≠ [] := by
  simpa [headCoordinates] using hvalid

/-- The squared residuals, axis by axis. -/
theorem sqResiduals_eq (offset : Fin 3 → ℝ) :
    sqResiduals samples calibration offset =
      ∑ axis, sqDev (headCoordinates samples calibration axis) (offset axis) := by
  simp only [sqResiduals, headCoordinates, sqDev]
  induction samples.filter (·.valid) with
  | nil => simp
  | cons s l ih =>
    simp only [List.map_cons, List.sum_cons, ih, Finset.sum_add_distrib]
    congr 1
    rw [dotProduct]
    exact Finset.sum_congr rfl fun axis _ => (sq _).symm

/-- The mean position in the frame of the reference. -/
def meanPosition (samples : List (Sample ℝ)) (calibration : AffineCompact3d ℝ) : Fin 3 → ℝ :=
  fun axis => mean (headCoordinates samples calibration axis)

theorem sqResiduals_mean_le (hvalid : samples.filter (·.valid) ≠ []) (offset : Fin 3 → ℝ) :
    sqResiduals samples calibration (meanPosition samples calibration) ≤
      sqResiduals samples calibration offset := by
  rw [sqResiduals_eq, sqResiduals_eq]
  refine Finset.sum_le_sum fun axis _ => ?_
  have hne : headCoordinates samples calibration axis ≠ [] := headCoordinates_ne_nil hvalid axis
  have hsq := sqDev_eq hne (offset axis)
  have hnonneg : 0 ≤ ((headCoordinates samples calibration axis).length : ℝ) *
      (offset axis - mean (headCoordinates samples calibration axis)) ^ 2 := by positivity
  rw [meanPosition]
  linarith

theorem dotProduct_self_nonneg (v : Fin 3 → ℝ) : 0 ≤ v ⬝ᵥ v :=
  Finset.sum_nonneg fun _ _ => mul_self_nonneg _

theorem sqResiduals_nonneg (offset : Fin 3 → ℝ) : 0 ≤ sqResiduals samples calibration offset := by
  apply List.sum_nonneg
  simp only [List.mem_map]
  rintro _ ⟨s, -, rfl⟩
  exact dotProduct_self_nonneg _

theorem sum_map_eq_zero_iff {α : Type} {f : α → ℝ} (hf : ∀ a, 0 ≤ f a) (l : List α) :
    (l.map f).sum = 0 ↔ ∀ a ∈ l, f a = 0 := by
  induction l with
  | nil => simp
  | cons x l ih =>
    have hrest : 0 ≤ (l.map f).sum := List.sum_nonneg (by simpa using fun a _ => hf a)
    rw [List.map_cons, List.sum_cons, add_eq_zero_iff_of_nonneg (hf x) hrest, ih,
      List.forall_mem_cons]

theorem sqResiduals_eq_zero_iff (offset : Fin 3 → ℝ) :
    sqResiduals samples calibration offset = 0 ↔
      ∀ s ∈ samples, s.valid = true → headPosition calibration s = offset := by
  rw [sqResiduals, sum_map_eq_zero_iff fun s => dotProduct_self_nonneg _]
  simp only [List.mem_filter, and_imp, dotProduct_self_eq_zero, sub_eq_zero]

/-- The position of the calibrated target is at one offset in the frame of the reference. -/
def PositionAttached (samples : List (Sample ℝ)) (calibration : AffineCompact3d ℝ) : Prop :=
  ∃ offset : Fin 3 → ℝ, ∀ s ∈ samples, s.valid = true →
    calibrated calibration s = Matrix.of s.ref.rot *ᵥ offset + s.ref.trans

/-- The calibrated target is rigidly attached to the reference: its rotation too is the same in the
    frame of the reference.  For a calibration that is a rigid motion. -/
def RigidlyAttached (samples : List (Sample ℝ)) (calibration : AffineCompact3d ℝ) : Prop :=
  ∃ (rotation : Matrix (Fin 3) (Fin 3) ℝ) (offset : Fin 3 → ℝ), ∀ s ∈ samples, s.valid = true →
    Matrix.of calibration.linear * Matrix.of s.target.rot = Matrix.of s.ref.rot * rotation ∧
      calibrated calibration s = Matrix.of s.ref.rot *ᵥ offset + s.ref.trans

theorem calibrated_eq_iff {s : Sample ℝ} (h : Orthonormal s) (offset : Fin 3 → ℝ) :
    calibrated calibration s = Matrix.of s.ref.rot *ᵥ offset + s.ref.trans ↔
      headPosition calibration s = offset := by
  constructor
  · intro heq
    have hself := @residual_eq calibration s h offset
    rw [heq, sub_self, zero_dotProduct, eq_comm, dotProduct_self_eq_zero, sub_eq_zero] at hself
    exact hself
  · rintro rfl
    exact calibrated_eq h

/-- An error of zero at the mean. -/
theorem positionAttached_iff (horth : ∀ s ∈ samples, s.valid = true → Orthonormal s)
    (hvalid : samples.filter (·.valid) ≠ []) :
    sqResiduals samples calibration (meanPosition samples calibration) = 0 ↔
      PositionAttached samples calibration := by
  constructor
  · intro hzero
    refine ⟨meanPosition samples calibration, fun s hs hv => ?_⟩
    rw [calibrated_eq_iff (horth s hs hv)]
    exact (sqResiduals_eq_zero_iff _).1 hzero s hs hv
  · rintro ⟨offset, hoffset⟩
    have hzero : sqResiduals samples calibration offset = 0 := by
      rw [sqResiduals_eq_zero_iff]
      exact fun s hs hv => (calibrated_eq_iff (horth s hs hv) offset).1 (hoffset s hs hv)
    apply le_antisymm
    · rw [← hzero]
      exact sqResiduals_mean_le hvalid offset
    · exact sqResiduals_nonneg _

theorem filter_ne_nil (hvalid : ∃ s ∈ samples, s.valid = true) :
    samples.filter (·.valid) ≠ [] := by
  obtain ⟨s, hs, hv⟩ := hvalid
  exact List.ne_nil_of_mem (List.mem_filter.2 ⟨hs, hv⟩)

variable (samples calibration)

/-- The error is that of the mean position. -/
theorem validation_error_eq (horth : ∀ s ∈ samples, s.valid = true → Orthonormal s)
    (hvalid : ∃ s ∈ samples, s.valid = true) :
    (ValidateCalibration (exactReals infinity) (exactInverse solve) samples calibration).error =
      √(sqResiduals samples calibration (meanPosition samples calibration) /
        (samples.filter (·.valid)).length) := by
  have hne := filter_ne_nil hvalid
  have hoffset : ComputeRefToTargetOffset (exactReals infinity) (exactInverse solve) samples
      calibration = meanPosition samples calibration :=
    funext fun axis => ComputeRefToTargetOffset_eq infinity solve hne axis
  rw [← hoffset]
  exact RetargetingErrorRMS_eq infinity horth hne _

theorem validation_error_eq_zero_iff (horth : ∀ s ∈ samples, s.valid = true → Orthonormal s)
    (hvalid : ∃ s ∈ samples, s.valid = true) :
    (ValidateCalibration (exactReals infinity) (exactInverse solve) samples calibration).error =
        0 ↔ PositionAttached samples calibration := by
  have hne := filter_ne_nil hvalid
  have hlen : (0 : ℝ) < (samples.filter (·.valid)).length := by
    exact_mod_cast List.length_pos_of_ne_nil hne
  rw [validation_error_eq infinity solve samples calibration horth hvalid,
    Real.sqrt_eq_zero (div_nonneg (sqResiduals_nonneg _) hlen.le), div_eq_zero_iff,
    or_iff_left hlen.ne', positionAttached_iff horth hne]

/-- **The error of a validation** is that of the offset it computes, which is the least one of all
    offsets, and zero exactly when the target's position is attached. -/
theorem validation_least (horth : ∀ s ∈ samples, s.valid = true → Orthonormal s)
    (hvalid : ∃ s ∈ samples, s.valid = true) :
    let v := ValidateCalibration (exactReals infinity) (exactInverse solve) samples calibration
    v.posOffset =
        ComputeRefToTargetOffset (exactReals infinity) (exactInverse solve) samples calibration ∧
      v.error = RetargetingErrorRMS (exactReals infinity) samples v.posOffset calibration ∧
      (∀ offset, v.error ≤ RetargetingErrorRMS (exactReals infinity) samples offset calibration) ∧
      (v.error = 0 ↔ PositionAttached samples calibration) := by
  intro v
  have hne := filter_ne_nil hvalid
  refine ⟨rfl, rfl, fun offset => ?_,
    validation_error_eq_zero_iff infinity solve samples calibration horth hvalid⟩
  rw [validation_error_eq infinity solve samples calibration horth hvalid,
    RetargetingErrorRMS_eq infinity horth hne]
  apply Real.sqrt_le_sqrt
  exact div_le_div_of_nonneg_right (sqResiduals_mean_le hne offset) (Nat.cast_nonneg _)

/-! ## A target that turns in its place -/

/-- The identity. -/
def atRest : AffineCompact3d ℝ where
  linear := (1 : Matrix (Fin 3) (Fin 3) ℝ)
  translation := 0

/-- Solvers that find nothing; a validation only inverts matrices. -/
def idleSolvers : Solvers ℝ where
  inverse m := m
  CalibrateByRelPose _ relPose := (false, relPose)
  ComputeCalibration _ _ := atRest
  axisVariance _ _ := 0
  EstimateRefToTargetPose _ relPose := relPose
  uninitialized := atRest

/-- Both devices at the origin, the target turned. -/
def atOrigin (rotation : Matrix (Fin 3) (Fin 3) ℝ) : Sample ℝ where
  ref := ⟨(1 : Matrix (Fin 3) (Fin 3) ℝ), 0⟩
  target := ⟨rotation, 0⟩
  valid := true

/-- Half a turn about the first axis. -/
def halfTurn : Matrix (Fin 3) (Fin 3) ℝ :=
  Matrix.diagonal fun axis => if axis = ix then 1 else -1

/-- The target turns half a turn between two samples. -/
def turningTarget : List (Sample ℝ) := [atOrigin 1, atOrigin halfTurn]

theorem turningTarget_orthonormal :
    ∀ s ∈ turningTarget, s.valid = true → Orthonormal s := by
  intro s hs _
  have href : Matrix.of s.ref.rot = 1 := by
    rcases List.mem_pair.1 hs with rfl | rfl <;> rfl
  rw [Orthonormal, href, transpose_one, one_mul]

theorem turningTarget_valid : ∃ s ∈ turningTarget, s.valid = true :=
  ⟨atOrigin 1, List.mem_cons_self, rfl⟩

theorem turningTarget_positionAttached : PositionAttached turningTarget atRest := by
  refine ⟨0, fun s hs _ => ?_⟩
  have hpositions : s.ref.trans = 0 ∧ s.target.trans = 0 := by
    rcases List.mem_pair.1 hs with rfl | rfl <;> exact ⟨rfl, rfl⟩
  rw [calibrated, hpositions.1, hpositions.2, mulVec_zero, mulVec_zero]
  rfl

theorem turningTarget_not_rigidlyAttached :
    ¬RigidlyAttached turningTarget atRest := by
  rintro ⟨rotation, offset, hrigid⟩
  have hfirst : (1 : Matrix (Fin 3) (Fin 3) ℝ) * 1 = 1 * rotation :=
    (hrigid (atOrigin 1) List.mem_cons_self rfl).1
  have hsecond : (1 : Matrix (Fin 3) (Fin 3) ℝ) * halfTurn = 1 * rotation :=
    (hrigid (atOrigin halfTurn) (List.mem_cons_of_mem _ List.mem_cons_self) rfl).1
  have hsame : (1 : Matrix (Fin 3) (Fin 3) ℝ) iy iy = halfTurn iy iy := by
    rw [one_mul] at hfirst hsecond
    rw [hfirst, hsecond]
  have hne : iy ≠ ix := by decide
  rw [halfTurn, Matrix.diagonal_apply_eq, Matrix.one_apply_eq, if_neg hne] at hsame
  norm_num at hsame

theorem turningTarget_least :
    (ValidateCalibration (exactReals 0) (exactInverse idleSolvers) turningTarget
      atRest).error = 0 ↔ PositionAttached turningTarget atRest :=
  (validation_least 0 idleSolvers turningTarget atRest turningTarget_orthonormal
    turningTarget_valid).2.2.2

/-- The target is not attached, and its validation has no error. -/
theorem turningTarget_unnoticed :
    (∀ s ∈ turningTarget, s.valid = true → Orthonormal s) ∧
      (∃ s ∈ turningTarget, s.valid = true) ∧
      (ValidateCalibration (exactReals 0) (exactInverse idleSolvers) turningTarget
        atRest).error = 0 ∧
      ¬RigidlyAttached turningTarget atRest := by
  refine ⟨turningTarget_orthonormal, turningTarget_valid, ?_, turningTarget_not_rigidlyAttached⟩
  rw [validation_error_eq_zero_iff 0 idleSolvers turningTarget atRest
    turningTarget_orthonormal turningTarget_valid]
  exact turningTarget_positionAttached

end

end WKPairDriver.Calibration.Incremental
