import Mathlib
import WKPairDriver.Calibration.RotationSolve

/-!
# The yaw and the best rotation

`CalibrateRotation` takes the yaw from `V * Uᵀ` of a singular value decomposition, without the guard
against reflections that `DetectOutliers` has.

* `alignment_eq_gain` — what the yaw should maximise, in terms of the cross-covariance.
* `yaw_best_iff` — the yaw is a best one for every decomposition exactly when the determinant of the
  cross-covariance is positive or its larger left singular vector is the first axis.
* `mirrored_yaw` — three samples whose yaw is not a best one.
-/

set_option autoImplicit false

namespace WKPairDriver.Calibration.RotationSolve

open Lib Lib.Kabsch Matrix

/-- The sum of the inner products of the centred target axes with the centred reference axes
    rotated by `θ`. -/
noncomputable def alignment (points : List ((Fin 2 → ℝ) × (Fin 2 → ℝ))) (θ : ℝ) : ℝ :=
  ((centredPairs points).map fun p => (planeRotation θ *ᵥ p.1) ⬝ᵥ p.2).sum

/-- The yaw in radians. -/
noncomputable def yawOf (eigen : Eigen) (ignoreOutliers : Bool) (samples : List Sample) : ℝ :=
  CalibrateRotation eigen ignoreOutliers samples axisY * Real.pi / 180.0

/-- No angle aligns the axes better than the yaw. -/
def YawBest (eigen : Eigen) (ignoreOutliers : Bool) (samples : List Sample) : Prop :=
  ∀ θ, alignment (horizontal (rotationDeltas eigen ignoreOutliers samples)) θ ≤
    alignment (horizontal (rotationDeltas eigen ignoreOutliers samples))
      (yawOf eigen ignoreOutliers samples)

theorem alignment_eq_gain (points : List ((Fin 2 → ℝ) × (Fin 2 → ℝ))) (θ : ℝ) :
    alignment points θ = gain (crossCV points) θ :=
  (gain_sum_vecMulVec (centredPairs points) θ).symm

theorem crossCV_nil {n : ℕ} : crossCV ([] : List ((Fin n → ℝ) × (Fin n → ℝ))) = 0 := by
  simp [crossCV, centredPairs, centred]

variable {eigen : Eigen} {ignoreOutliers : Bool} {samples : List Sample}

/-- The cross-covariance of the horizontal axes. -/
noncomputable def axesCV (eigen : Eigen) (ignoreOutliers : Bool) (samples : List Sample) :
    Matrix (Fin 2) (Fin 2) ℝ :=
  crossCV (horizontal (rotationDeltas eigen ignoreOutliers samples))

/-- What `CalibrateRotation` returns for the deltas it collects. -/
theorem yawOf_eq (h : rotationDeltas eigen ignoreOutliers samples ≠ []) :
    yawOf eigen ignoreOutliers samples =
      angleOf ((eigen.jacobiSvd (axesCV eigen ignoreOutliers samples)).matrixV *
        (eigen.jacobiSvd (axesCV eigen ignoreOutliers samples)).matrixUᵀ) := by
  have hne : ¬ (rotationDeltas eigen ignoreOutliers samples).isEmpty = true := by
    rwa [List.isEmpty_iff]
  have hpi := Real.pi_ne_zero
  rw [yawOf, CalibrateRotation, ← axesCV]
  simp only [if_neg hne, axisY_eq, cons_val_one, cons_val_zero, Matrix.mul_one]
  field_simp

theorem DetectOutliers_jacobiSvd (svd : Matrix (Fin 2) (Fin 2) ℝ → Svd 2) :
    DetectOutliers { eigen with jacobiSvd := svd } samples = DetectOutliers eigen samples := by
  simp only [DetectOutliers, roughRotation, meanExtrinsic]
  rfl

/-- The decomposition of the cross-covariance is a parameter of the yaw alone. -/
theorem rotationDeltas_jacobiSvd (svd : Matrix (Fin 2) (Fin 2) ℝ → Svd 2) :
    rotationDeltas { eigen with jacobiSvd := svd } ignoreOutliers samples =
      rotationDeltas eigen ignoreOutliers samples := by
  simp only [rotationDeltas, DetectOutliers_jacobiSvd]

theorem axesCV_jacobiSvd (svd : Matrix (Fin 2) (Fin 2) ℝ → Svd 2) :
    axesCV { eigen with jacobiSvd := svd } ignoreOutliers samples =
      axesCV eigen ignoreOutliers samples := by
  rw [axesCV, axesCV, rotationDeltas_jacobiSvd]

/-- The yaw of a decomposition of the cross-covariance. -/
theorem yawBest_iff_isBest {svd : Matrix (Fin 2) (Fin 2) ℝ → Svd 2}
    (h : rotationDeltas eigen ignoreOutliers samples ≠ []) :
    YawBest { eigen with jacobiSvd := svd } ignoreOutliers samples ↔
      IsBest (axesCV eigen ignoreOutliers samples)
        (angleOf ((svd (axesCV eigen ignoreOutliers samples)).matrixV *
          (svd (axesCV eigen ignoreOutliers samples)).matrixUᵀ)) := by
  have hyaw := @yawOf_eq { eigen with jacobiSvd := svd } ignoreOutliers samples h
  rw [axesCV_jacobiSvd] at hyaw
  rw [YawBest, hyaw, rotationDeltas_jacobiSvd, IsBest]
  simp only [alignment_eq_gain, axesCV]

/-- The yaw is a best one for every decomposition of the cross-covariance. -/
def AlwaysBest (eigen : Eigen) (ignoreOutliers : Bool) (samples : List Sample) : Prop :=
  ∀ svd : Matrix (Fin 2) (Fin 2) ℝ → Svd 2,
    (∃ s, IsSvd (axesCV eigen ignoreOutliers samples)
      (svd (axesCV eigen ignoreOutliers samples)).matrixU
      (svd (axesCV eigen ignoreOutliers samples)).matrixV s) →
    YawBest { eigen with jacobiSvd := svd } ignoreOutliers samples

theorem alwaysBest_iff (h : rotationDeltas eigen ignoreOutliers samples ≠ []) :
    AlwaysBest eigen ignoreOutliers samples ↔
      ∀ u v s, IsSvd (axesCV eigen ignoreOutliers samples) u v s →
        IsBest (axesCV eigen ignoreOutliers samples) (angleOf (v * uᵀ)) := by
  constructor
  · intro hall u v s hsvd
    have hbest := hall (fun _ => ⟨u, v⟩) ⟨s, hsvd⟩
    rw [yawBest_iff_isBest h] at hbest
    exact hbest
  · rintro hall svd ⟨s, hsvd⟩
    rw [yawBest_iff_isBest h]
    exact hall _ _ s hsvd

/-- Without a delta every angle is a best one. -/
theorem alwaysBest_of_nil (h : rotationDeltas eigen ignoreOutliers samples = []) :
    AlwaysBest eigen ignoreOutliers samples := by
  intro svd _ θ
  rw [rotationDeltas_jacobiSvd, h, alignment_eq_gain, alignment_eq_gain, horizontal, List.map_nil,
    crossCV_nil, gain_eq, gain_eq]
  simp

theorem axesCV_of_nil (h : rotationDeltas eigen ignoreOutliers samples = []) :
    axesCV eigen ignoreOutliers samples = 0 := by
  rw [axesCV, h, horizontal, List.map_nil, crossCV_nil]

/-- **When the yaw is a best one**, whatever decomposition of the cross-covariance is found. -/
theorem yaw_best_iff (eigen : Eigen) (ignoreOutliers : Bool) (samples : List Sample) :
    AlwaysBest eigen ignoreOutliers samples ↔
      0 < (axesCV eigen ignoreOutliers samples).det ∨
      (axesCV eigen ignoreOutliers samples * (axesCV eigen ignoreOutliers samples)ᵀ)
          planeX planeY = 0 ∧
        (axesCV eigen ignoreOutliers samples * (axesCV eigen ignoreOutliers samples)ᵀ)
            planeY planeY ≤
          (axesCV eigen ignoreOutliers samples * (axesCV eigen ignoreOutliers samples)ᵀ)
            planeX planeX := by
  by_cases h : rotationDeltas eigen ignoreOutliers samples = []
  · rw [axesCV_of_nil h]
    exact ⟨fun _ => .inr (by simp), fun _ => alwaysBest_of_nil h⟩
  · rw [alwaysBest_iff h, planeX_eq, planeY_eq]
    exact isBest_all_iff _

/-! ## Three samples without a best yaw -/

theorem norm_eq_of {v : Fin 3 → ℝ} {l : ℝ} (hl : 0 ≤ l) (h : v ⬝ᵥ v = l * l) : norm v = l := by
  rw [norm, h, Real.sqrt_mul_self hl]

/-- A turn by at least a right angle is large enough. -/
theorem AngleFromRotationMatrix3_large {rot : Matrix (Fin 3) (Fin 3) ℝ}
    (h : rot 0 0 + rot 1 1 + rot 2 2 ≤ 1) : AngleFromRotationMatrix3 rot > 0.4 := by
  have hneg : min 1.0 (max (-1.0) ((rot 0 0 + rot 1 1 + rot 2 2 - 1.0) * 0.5)) ≤ (0 : ℝ) := by
    apply min_le_of_right_le
    apply max_le
    · norm_num
    · norm_num
      linarith
  have hright := not_lt.1 fun h => absurd (Real.arccos_lt_pi_div_two.1 h) (not_lt.2 hneg)
  have hpi := Real.pi_gt_three
  show 0.4 < Real.arccos _
  simp only [axisX_eq, axisY_eq, axisZ_eq]
  linarith

/-- A pair of samples that turn about axes of the lengths `l` and `l'`. -/
theorem DeltaRotationSamples_of {s1 s2 : Sample} {ref target : Fin 3 → ℝ} {l l' : ℝ}
    {dref dtarget : Matrix (Fin 3) (Fin 3) ℝ}
    (hdref : s1.ref.rot * s2.ref.rotᵀ = dref) (hdtarget : s1.target.rot * s2.target.rotᵀ = dtarget)
    (href : AxisFromRotationMatrix3 dref = ref) (htarget : AxisFromRotationMatrix3 dtarget = target)
    (hangle : dref 0 0 + dref 1 1 + dref 2 2 ≤ 1)
    (hangle' : dtarget 0 0 + dtarget 1 1 + dtarget 2 2 ≤ 1)
    (hl : 1 ≤ l) (hl' : 1 ≤ l') (hlen : ref ⬝ᵥ ref = l * l) (hlen' : target ⬝ᵥ target = l' * l') :
    DeltaRotationSamples s1 s2 = ⟨true, l⁻¹ • ref, l'⁻¹ • target⟩ := by
  have hnorm : norm ref = l := norm_eq_of (by linarith) hlen
  have hnorm' : norm target = l' := norm_eq_of (by linarith) hlen'
  rw [DeltaRotationSamples]
  simp only [hdref, hdtarget, href, htarget, hnorm, hnorm']
  rw [if_pos]
  refine ⟨AngleFromRotationMatrix3_large hangle, AngleFromRotationMatrix3_large hangle', ?_, ?_⟩
  · norm_num
    linarith
  · norm_num
    linarith

def still : Matrix (Fin 3) (Fin 3) ℝ := 1

/-- A quarter turn about the axis x. -/
def quarterX : Matrix (Fin 3) (Fin 3) ℝ := !![1, 0, 0; 0, 0, -1; 0, 1, 0]

/-- A quarter turn about the axis z. -/
def quarterZ : Matrix (Fin 3) (Fin 3) ℝ := !![0, -1, 0; 1, 0, 0; 0, 0, 1]

/-- A sample of the two rotations. -/
def turned (ref target : Matrix (Fin 3) (Fin 3) ℝ) : Sample := ⟨⟨ref, 0⟩, ⟨target, 0⟩, true⟩

/-- The target turns as the reference about x, and against it about z. -/
def mirrored : List Sample :=
  [turned still still, turned quarterX quarterX, turned quarterZ quarterZᵀ]

/-- The axes of a sample behind the resting one, when both devices made the quarter turn about x. -/
theorem delta_x {target target' : Matrix (Fin 3) (Fin 3) ℝ} (h : target' * targetᵀ = quarterX) :
    DeltaRotationSamples (turned quarterX target') (turned still target) =
      ⟨true, (2 : ℝ)⁻¹ • ![2, 0, 0], (2 : ℝ)⁻¹ • ![2, 0, 0]⟩ := by
  have haxis : AxisFromRotationMatrix3 quarterX = ![2, 0, 0] := by
    simp [AxisFromRotationMatrix3, quarterX, one_add_one_eq_two]
  have hdref : quarterX * stillᵀ = quarterX := by
    rw [still, transpose_one, Matrix.mul_one]
  refine DeltaRotationSamples_of hdref h haxis haxis ?_ ?_ one_le_two one_le_two ?_ ?_
  all_goals simp [quarterX, dotProduct, Fin.sum_univ_three]

/-- The axes of the third and the first sample. -/
theorem delta_z : DeltaRotationSamples (turned quarterZ quarterZᵀ) (turned still still) =
    ⟨true, (2 : ℝ)⁻¹ • ![0, 0, 2], (2 : ℝ)⁻¹ • ![0, 0, -2]⟩ := by
  have haxis : AxisFromRotationMatrix3 quarterZ = ![0, 0, 2] := by
    simp [AxisFromRotationMatrix3, quarterZ, one_add_one_eq_two]
  have haxis' : AxisFromRotationMatrix3 quarterZᵀ = ![0, 0, -2] := by
    simp [AxisFromRotationMatrix3, quarterZ]
    norm_num
  have hdref : quarterZ * stillᵀ = quarterZ := by
    rw [still, transpose_one, Matrix.mul_one]
  have hdtarget : quarterZᵀ * stillᵀ = quarterZᵀ := by
    rw [still, transpose_one, Matrix.mul_one]
  refine DeltaRotationSamples_of hdref hdtarget haxis haxis' ?_ ?_ one_le_two one_le_two ?_ ?_
  all_goals simp [quarterZ, dotProduct, Fin.sum_univ_three]

/-- The axes of the third and the second sample. -/
theorem delta_xz : DeltaRotationSamples (turned quarterZ quarterZᵀ) (turned quarterX quarterX) =
    ⟨true, (√3)⁻¹ • ![-1, -1, 1], (√3)⁻¹ • ![-1, 1, -1]⟩ := by
  have hdref : quarterZ * quarterXᵀ = !![0, 0, -1; 1, 0, 0; 0, -1, 0] := by
    ext i j
    fin_cases i <;> fin_cases j <;> simp [quarterZ, quarterX, mul_apply, Fin.sum_univ_three]
  have hdtarget : quarterZᵀ * quarterXᵀ = !![0, 0, 1; -1, 0, 0; 0, -1, 0] := by
    ext i j
    fin_cases i <;> fin_cases j <;> simp [quarterZ, quarterX, mul_apply, Fin.sum_univ_three]
  have hone : 1 ≤ √3 := Real.one_le_sqrt.2 (by norm_num)
  have hsq : √3 * √3 = 3 := Real.mul_self_sqrt (by norm_num)
  refine DeltaRotationSamples_of hdref hdtarget ?_ ?_ ?_ ?_ hone hone ?_ ?_
  · simp [AxisFromRotationMatrix3]
  · simp [AxisFromRotationMatrix3]
  · simp
  · simp
  all_goals
    rw [hsq]
    simp [dotProduct, Fin.sum_univ_three]
    norm_num

/-- The horizontal axes of the three pairs. -/
theorem mirrored_horizontal (eigen : Eigen) :
    horizontal (rotationDeltas eigen false mirrored) =
      [(![1, 0], ![1, 0]), (![0, 1], ![0, -1]),
        (![-(√3)⁻¹, (√3)⁻¹], ![-(√3)⁻¹, -(√3)⁻¹])] := by
  have hdeltas : rotationDeltas eigen false mirrored =
      [⟨true, (2 : ℝ)⁻¹ • ![2, 0, 0], (2 : ℝ)⁻¹ • ![2, 0, 0]⟩,
        ⟨true, (2 : ℝ)⁻¹ • ![0, 0, 2], (2 : ℝ)⁻¹ • ![0, 0, -2]⟩,
        ⟨true, (√3)⁻¹ • ![-1, -1, 1], (√3)⁻¹ • ![-1, 1, -1]⟩] := by
    have hsame : quarterX * stillᵀ = quarterX := by
      rw [still, transpose_one, Matrix.mul_one]
    simp [rotationDeltas, mirrored, validDelta, List.range_succ, delta_x hsame, delta_z, delta_xz]
  rw [hdeltas]
  simp [horizontal]

theorem inv_sqrt_three_sq : (√3)⁻¹ * (√3)⁻¹ = 1 / 3 := by
  rw [← mul_inv, Real.mul_self_sqrt (by norm_num)]
  norm_num

/-- The cross-covariance of the three pairs. -/
theorem mirrored_axesCV (eigen : Eigen) :
    axesCV eigen false mirrored =
      !![8 / 9 + 2 / 3 * (√3)⁻¹, 5 / 9; -(5 / 9), -(8 / 9 - 2 / 3 * (√3)⁻¹)] := by
  have hsq := inv_sqrt_three_sq
  rw [axesCV, mirrored_horizontal]
  set k := (√3)⁻¹ with hk
  ext i j
  fin_cases i <;> fin_cases j <;>
    simp [crossCV, centredPairs, centred]
  · linear_combination 2 / 3 * hsq
  · linear_combination 2 / 3 * hsq
  · linear_combination -(2 / 3) * hsq
  · linear_combination -(2 / 3) * hsq

theorem mirrored_deltas (eigen : Eigen) : rotationDeltas eigen false mirrored ≠ [] := by
  intro h
  have := mirrored_horizontal eigen
  rw [h] at this
  cases this

/-- **The yaw of the three samples is not a best one**: the axes are mirrored, so the decomposition
    offers a reflection. -/
theorem mirrored_yaw : ¬ ∃ eigen : Eigen, AlwaysBest eigen false mirrored := by
  rintro ⟨eigen, hbest⟩
  have hsq := inv_sqrt_three_sq
  rw [alwaysBest_iff (mirrored_deltas eigen), isBest_all_iff, mirrored_axesCV] at hbest
  rcases hbest with hpos | ⟨hoff, -⟩
  · have hdet : det !![8 / 9 + 2 / 3 * (√3)⁻¹, 5 / 9; -(5 / 9), -(8 / 9 - 2 / 3 * (√3)⁻¹)] =
        -(1 / 3) := by
      rw [det_fin_two_of]
      linear_combination 4 / 9 * hsq
    rw [hdet] at hpos
    norm_num at hpos
  · rw [mul_apply, Fin.sum_univ_two] at hoff
    simp only [transpose_apply, of_apply, cons_val', cons_val_zero, cons_val_one,
      cons_val_fin_one] at hoff
    ring_nf at hoff
    norm_num at hoff

end WKPairDriver.Calibration.RotationSolve
