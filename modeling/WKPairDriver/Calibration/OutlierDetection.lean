import Mathlib
import WKPairDriver.Calibration.EigenModel
import WKPairDriver.Calibration.YawSolve
import WKPairDriver.Lib.UnitMean

/-!
# Outliers and the sign of a quaternion

`DetectOutliers` averages the quaternions of the extrinsics as they come from the conversion, and
compares each with the average up to sign.

* `quatExt_eq` — the least-squares solution is the mean of the quaternions.
* `accepts_iff` — which buffers it accepts: the inner products of the quaternions decide, signs
  included.
* `accepts_of_oneSided` — quaternions on one side are accepted.
* `branch_rejected` — six samples on both sides of the branch of the conversion, all rejected.
-/

set_option autoImplicit false

namespace WKPairDriver.Calibration.RotationSolve

open Lib Lib.Kabsch Lib.UnitMean Quaternion Matrix
open OffsetSolver (standardQuaternion standardQuaternion_spec)

noncomputable section

/-! ## Eigen -/

/-- The squared residuals of a system. -/
def residuals (rows : List ((Fin 4 → ℝ) × ℝ)) (x : Fin 4 → ℝ) : ℝ :=
  (rows.map fun r => (r.2 - r.1 ⬝ᵥ x) ^ 2).sum

def IsLeastSquares (rows : List ((Fin 4 → ℝ) × ℝ)) (x : Fin 4 → ℝ) : Prop :=
  ∀ y, residuals rows x ≤ residuals rows y

/-- The documented behaviour. -/
structure Eigen.Meets (eigen : Eigen) : Prop where
  quaternion : ∀ q : ℍ[ℝ], normSq q = 1 →
    normSq (eigen.quaternion (toMatrix q)) = 1 ∧
      toMatrix (eigen.quaternion (toMatrix q)) = toMatrix q
  solve : ∀ rows, (∃ x, IsLeastSquares rows x) → IsLeastSquares rows (eigen.solve rows)

/-! ## Coordinates -/

theorem coords_eq (q : ℍ[ℝ]) : coords q = ![q.re, q.imI, q.imJ, q.imK] := rfl

theorem coords_dot_self (q : ℍ[ℝ]) : coords q ⬝ᵥ coords q = normSq q := by
  rw [normSq_def', coords_eq]
  simp only [dotProduct, Fin.sum_univ_four, cons_val]
  ring

theorem coords_neg (q : ℍ[ℝ]) : coords (-q) = -coords q := by
  funext k
  fin_cases k <;> rfl

theorem coords_symm (v : Fin 4 → ℝ) : coords ((equivTuple ℝ).symm v) = v :=
  (equivTuple ℝ).apply_symm_apply v

theorem coords_normalized (q : ℍ[ℝ]) : coords (normalized q) = direction (coords q) := by
  rw [normalized, direction, coords_dot_self]
  split
  · funext k
    fin_cases k <;> simp [coords_eq]
  · rfl

/-! ## The average -/

/-- The rows of a sample measure the distance to its quaternion. -/
theorem residuals_identityRows (q : ℍ[ℝ]) (x : Fin 4 → ℝ) :
    residuals (identityRows q) x = (coords q - x) ⬝ᵥ (coords q - x) := by
  rw [residuals, identityRows, List.map_map, ← Fin.sum_univ_def, dotProduct]
  refine Finset.sum_congr rfl fun k _ => ?_
  simp only [Function.comp_apply, single_one_dotProduct, Pi.sub_apply]
  exact sq _

theorem residuals_flatMap (qs : List ℍ[ℝ]) (x : Fin 4 → ℝ) :
    residuals (qs.flatMap identityRows) x = distances (qs.map coords) x := by
  induction qs with
  | nil => rfl
  | cons q qs ih =>
    have happend : residuals (identityRows q ++ qs.flatMap identityRows) x =
        residuals (identityRows q) x + residuals (qs.flatMap identityRows) x := by
      rw [residuals, List.map_append, List.sum_append, residuals, residuals]
    rw [List.flatMap_cons, happend, residuals_identityRows, ih, List.map_cons, distances,
      distances, List.map_cons, List.sum_cons]

/-- **The least-squares solution** is the mean of the quaternions. -/
theorem solve_eq_mean {eigen : Eigen} (he : eigen.Meets) {qs : List ℍ[ℝ]} (h : qs ≠ []) :
    eigen.solve (qs.flatMap identityRows) = meanVector (qs.map coords) := by
  have hne : qs.map coords ≠ [] := by simpa using h
  apply mean_of_least hne
  have hleast := he.solve (qs.flatMap identityRows)
    ⟨meanVector (qs.map coords), fun y => by
      rw [residuals_flatMap, residuals_flatMap]
      exact mean_least hne y⟩
  intro y
  have := hleast y
  rwa [residuals_flatMap, residuals_flatMap] at this

/-! ## The extrinsics of a buffer -/

/-- The rotation that the samples' extrinsics are computed with. -/
def solvedRotation (eigen : Eigen) (samples : List Sample) : Matrix (Fin 3) (Fin 3) ℝ :=
  roughRotation eigen (roughDeltas samples)

/-- The quaternions that the conversion yields for the extrinsics. -/
def conversions (eigen : Eigen) (samples : List Sample) : List ℍ[ℝ] :=
  samples.map fun sample => eigen.quaternion (extrinsic (solvedRotation eigen samples) sample)

/-- Every extrinsic is a rotation near the one of the unit quaternion `c`. -/
structure Near (eigen : Eigen) (samples : List Sample) (c : ℍ[ℝ]) : Prop where
  unit : normSq c = 1
  near : ∀ sample ∈ samples, ∃ q : ℍ[ℝ], normSq q = 1 ∧
    toMatrix q = extrinsic (solvedRotation eigen samples) sample ∧
      0.999 ≤ |coords q ⬝ᵥ coords c|

/-- Every sample is accepted. -/
def AcceptsAll (eigen : Eigen) (samples : List Sample) : Prop :=
  ∀ valid ∈ DetectOutliers eigen samples, valid = true

/-- The quaternions are near the direction of their sum, told by their inner products. -/
def Concentrated (qs : List ℍ[ℝ]) : Prop :=
  0 < innerSum (qs.map coords) ∧
    ∀ q ∈ qs, 0.99 ^ 2 * innerSum (qs.map coords) ≤
      ((qs.map coords).map fun v => coords q ⬝ᵥ v).sum ^ 2

/-- The quaternions are on one side of `c`. -/
def OneSided (qs : List ℍ[ℝ]) (c : ℍ[ℝ]) : Prop :=
  (∀ q ∈ qs, 0 ≤ coords q ⬝ᵥ coords c) ∨ ∀ q ∈ qs, coords q ⬝ᵥ coords c ≤ 0

variable {eigen : Eigen} {samples : List Sample} {c : ℍ[ℝ]}

/-- The conversion yields a unit quaternion near `c`, up to sign. -/
theorem conversions_near (he : eigen.Meets) (h : Near eigen samples c) {q : ℍ[ℝ]}
    (hq : q ∈ conversions eigen samples) : normSq q = 1 ∧ 0.999 ≤ |coords q ⬝ᵥ coords c| := by
  obtain ⟨sample, hsample, rfl⟩ := List.mem_map.1 hq
  obtain ⟨p, hp, hmatrix, hnear⟩ := h.near sample hsample
  obtain ⟨hunit, hsame⟩ := he.quaternion p hp
  rw [hmatrix] at hunit hsame
  refine ⟨hunit, ?_⟩
  rcases (toMatrix_eq_iff hunit hp).1 (hsame.trans hmatrix.symm) with heq | heq
  · rwa [heq]
  · rwa [heq, coords_neg, neg_dotProduct, abs_neg]

/-- `quatExt` is the direction of the mean. -/
theorem quatExt_eq (he : eigen.Meets) (h : Near eigen samples c) (hne : samples ≠ []) :
    coords (meanExtrinsic eigen (solvedRotation eigen samples) samples) =
      direction (meanVector ((conversions eigen samples).map coords)) := by
  have hnormalized : (samples.flatMap fun sample =>
      identityRows (normalized (eigen.quaternion
        (extrinsic (solvedRotation eigen samples) sample)))) =
      (conversions eigen samples).flatMap identityRows := by
    rw [conversions, List.flatMap_map]
    refine List.flatMap_congr fun sample hsample => ?_
    rw [normalized_of_unit (conversions_near he h (List.mem_map_of_mem hsample)).1]
  have hqs : conversions eigen samples ≠ [] := by simpa [conversions] using hne
  rw [meanExtrinsic, coords_normalized, coords_symm, hnormalized, solve_eq_mean he hqs]

theorem acceptsAll_of_nil (h : roughDeltas samples = []) : AcceptsAll eigen samples := by
  intro valid hvalid
  rw [DetectOutliers, h] at hvalid
  obtain ⟨-, -, rfl⟩ := List.mem_map.1 hvalid
  rfl

/-- The test on a buffer with a rough rotation. -/
theorem acceptsAll_iff_dot (h : roughDeltas samples ≠ []) :
    AcceptsAll eigen samples ↔ ∀ q ∈ conversions eigen samples,
      0.99 ≤ |coords q ⬝ᵥ
        coords (meanExtrinsic eigen (solvedRotation eigen samples) samples)| := by
  have hne : ¬ (roughDeltas samples).isEmpty = true := by
    rwa [List.isEmpty_iff]
  rw [AcceptsAll, DetectOutliers]
  simp only [if_neg hne, conversions, List.mem_map, forall_exists_index, and_imp,
    forall_apply_eq_imp_iff₂, decide_eq_true_eq, ge_iff_le]
  rfl

theorem samples_ne_nil (h : roughDeltas samples ≠ []) : samples ≠ [] := by
  rintro rfl
  exact h rfl

/-- **Which buffers are accepted.** -/
theorem acceptsAll_iff (he : eigen.Meets) (h : Near eigen samples c) :
    AcceptsAll eigen samples ↔
      roughDeltas samples = [] ∨ Concentrated (conversions eigen samples) := by
  by_cases hdeltas : roughDeltas samples = []
  · exact ⟨fun _ => .inl hdeltas, fun _ => acceptsAll_of_nil hdeltas⟩
  · have hsamples := samples_ne_nil hdeltas
    have hqs : (conversions eigen samples).map coords ≠ [] := by
      simpa [conversions] using hsamples
    rw [or_iff_right hdeltas, acceptsAll_iff_dot hdeltas, quatExt_eq he h hsamples, Concentrated]
    have hone : ∀ q : ℍ[ℝ], 0.99 ≤ |coords q ⬝ᵥ
        direction (meanVector ((conversions eigen samples).map coords))| ↔
        0 < innerSum ((conversions eigen samples).map coords) ∧
          0.99 ^ 2 * innerSum ((conversions eigen samples).map coords) ≤
            (((conversions eigen samples).map coords).map fun v => coords q ⬝ᵥ v).sum ^ 2 :=
      fun q => le_abs_dot_mean_iff (by norm_num) (coords q) hqs
    simp only [hone]
    obtain ⟨q, hq⟩ := List.exists_mem_of_ne_nil _ hqs
    obtain ⟨p, hp, -⟩ := List.mem_map.1 hq
    constructor
    · intro hall
      exact ⟨(hall p hp).1, fun q hq => (hall q hq).2⟩
    · rintro ⟨hpos, hall⟩ q hq
      exact ⟨hpos, hall q hq⟩

/-- Quaternions on one side of the common rotation are accepted. -/
theorem acceptsAll_of_oneSided (he : eigen.Meets) (h : Near eigen samples c)
    (hside : OneSided (conversions eigen samples) c) : AcceptsAll eigen samples := by
  by_cases hdeltas : roughDeltas samples = []
  · exact acceptsAll_of_nil hdeltas
  · rw [acceptsAll_iff_dot hdeltas, quatExt_eq he h (samples_ne_nil hdeltas)]
    intro q hq
    have hc : coords c ⬝ᵥ coords c = 1 := by rw [coords_dot_self, h.unit]
    have hunit : ∀ v ∈ (conversions eigen samples).map coords, v ⬝ᵥ v = 1 := by
      intro v hv
      obtain ⟨p, hp, rfl⟩ := List.mem_map.1 hv
      rw [coords_dot_self, (conversions_near he h hp).1]
    refine le_dot_mean_of_aligned (by norm_num) (by norm_num : (0.99 : ℝ) ≤ 2 * 0.999 ^ 2 - 1)
      hunit ?_ (List.mem_map_of_mem hq)
    -- two of them are near each other, as both are near `c` or near `-c`
    intro v hv w hw
    have hv1 := hunit v hv
    have hw1 := hunit w hw
    obtain ⟨p, hp, rfl⟩ := List.mem_map.1 hv
    obtain ⟨r, hr, rfl⟩ := List.mem_map.1 hw
    have hpc := (conversions_near he h hp).2
    have hrc := (conversions_near he h hr).2
    rcases hside with hside | hside
    · rw [abs_of_nonneg (hside p hp)] at hpc
      rw [abs_of_nonneg (hside r hr)] at hrc
      exact dot_of_near hv1 hw1 hc (by norm_num) hpc hrc
    · rw [abs_of_nonpos (hside p hp), ← dotProduct_neg] at hpc
      rw [abs_of_nonpos (hside r hr), ← dotProduct_neg] at hrc
      exact dot_of_near hv1 hw1 (by rw [neg_dotProduct_neg, hc]) (by norm_num) hpc hrc

/-- **What the signs of the conversion do.** The inner products of the quaternions decide whether
    every sample is accepted, and quaternions on one side of the common rotation are. -/
theorem outliers_sign (he : eigen.Meets) (h : Near eigen samples c) :
    (AcceptsAll eigen samples ↔
      roughDeltas samples = [] ∨ Concentrated (conversions eigen samples)) ∧
    (OneSided (conversions eigen samples) c → AcceptsAll eigen samples) :=
  ⟨acceptsAll_iff he h, acceptsAll_of_oneSided he h⟩

/-! ## The branch of the conversion -/

/-- A turn about the axis -z, by less than 120 degrees. -/
def beforeBranch : ℍ[ℝ] := ⟨33.0 / 65.0, 0, 0, -(56.0 / 65.0)⟩

/-- A turn by more than 120 degrees: the trace of its matrix is negative, and the conversion makes
    the largest component positive instead of the scalar one. -/
def behindBranch : ℍ[ℝ] := ⟨-(8.0 / 17.0), 0, 0, 15.0 / 17.0⟩

open Classical in
def branchQuaternion (r : Matrix (Fin 3) (Fin 3) ℝ) : ℍ[ℝ] :=
  if r = toMatrix beforeBranch then beforeBranch
  else if r = toMatrix behindBranch then behindBranch
  else standardQuaternion r

open Classical in
def standardSolve (rows : List ((Fin 4 → ℝ) × ℝ)) : Fin 4 → ℝ :=
  if h : ∃ x, IsLeastSquares rows x then h.choose else 0

def branchEigen : Eigen where
  bdcSvd _ := ⟨1, 1⟩
  jacobiSvd _ := ⟨1, 1⟩
  quaternion := branchQuaternion
  solve := standardSolve

theorem beforeBranch_unit : normSq beforeBranch = 1 := by
  rw [normSq_def']
  norm_num [beforeBranch]

theorem behindBranch_unit : normSq behindBranch = 1 := by
  rw [normSq_def']
  norm_num [behindBranch]

theorem branchQuaternion_before : branchQuaternion (toMatrix beforeBranch) = beforeBranch :=
  if_pos rfl

theorem branchQuaternion_behind : branchQuaternion (toMatrix behindBranch) = behindBranch := by
  have hne : toMatrix behindBranch ≠ toMatrix beforeBranch := by
    intro h
    rcases (toMatrix_eq_iff behindBranch_unit beforeBranch_unit).1 h with heq | heq
    · have hre : behindBranch.re = beforeBranch.re := by rw [heq]
      norm_num [behindBranch, beforeBranch] at hre
    · have hre : behindBranch.re = -beforeBranch.re := by rw [heq, re_neg]
      norm_num [behindBranch, beforeBranch] at hre
  rw [branchQuaternion, if_neg hne, if_pos rfl]

theorem branchEigen_meets : branchEigen.Meets where
  quaternion := by
    intro q hq
    show normSq (branchQuaternion (toMatrix q)) = 1 ∧
      toMatrix (branchQuaternion (toMatrix q)) = toMatrix q
    by_cases hbefore : toMatrix q = toMatrix beforeBranch
    · rw [hbefore, branchQuaternion_before]
      exact ⟨beforeBranch_unit, rfl⟩
    · by_cases hbehind : toMatrix q = toMatrix behindBranch
      · rw [hbehind, branchQuaternion_behind]
        exact ⟨behindBranch_unit, rfl⟩
      · rw [branchQuaternion, if_neg hbefore, if_neg hbehind]
        exact standardQuaternion_spec hq
  solve := by
    intro rows h
    show IsLeastSquares rows (standardSolve rows)
    rw [standardSolve, dif_pos h]
    exact h.choose_spec

/-- Samples with these extrinsics; both devices turn together before the last one. -/
def attached (qs : List ℍ[ℝ]) (last : ℍ[ℝ]) : List Sample :=
  qs.map (fun q => turned still (toMatrix q)) ++ [turned quarterX (quarterX * toMatrix last)]

theorem solvedRotation_branch (samples : List Sample) : solvedRotation branchEigen samples = 1 := by
  simp [solvedRotation, roughRotation, branchEigen]

theorem quarterX_orthogonal : quarterXᵀ * quarterX = 1 := by
  ext i j
  fin_cases i <;> fin_cases j <;> simp [quarterX, mul_apply, Fin.sum_univ_three]

theorem extrinsic_still (q : ℍ[ℝ]) : extrinsic 1 (turned still (toMatrix q)) = toMatrix q := by
  simp [extrinsic, turned, still]

theorem extrinsic_turned (q : ℍ[ℝ]) :
    extrinsic 1 (turned quarterX (quarterX * toMatrix q)) = toMatrix q := by
  rw [extrinsic, Matrix.mul_one]
  show quarterXᵀ * (quarterX * toMatrix q) = toMatrix q
  rw [← Matrix.mul_assoc, quarterX_orthogonal, Matrix.one_mul]

theorem conversions_attached (qs : List ℍ[ℝ]) (last : ℍ[ℝ]) :
    conversions branchEigen (attached qs last) =
      (qs ++ [last]).map fun q => branchQuaternion (toMatrix q) := by
  rw [conversions, solvedRotation_branch, attached, List.map_append, List.map_append,
    List.map_map, List.map_singleton, List.map_singleton, extrinsic_turned]
  congr 1
  refine List.map_congr_left fun q _ => ?_
  show branchQuaternion (extrinsic 1 (turned still (toMatrix q))) = _
  rw [extrinsic_still]

/-- Extrinsics near that of `c` are rotations near it. -/
theorem near_attached {qs : List ℍ[ℝ]} {last c : ℍ[ℝ]} (hc : normSq c = 1)
    (h : ∀ q ∈ qs ++ [last], normSq q = 1 ∧ 0.999 ≤ |coords q ⬝ᵥ coords c|) :
    Near branchEigen (attached qs last) c where
  unit := hc
  near := by
    intro sample hsample
    rw [solvedRotation_branch]
    rcases List.mem_append.1 hsample with hmem | hmem
    · obtain ⟨q, hq, rfl⟩ := List.mem_map.1 hmem
      obtain ⟨hunit, hnear⟩ := h q (List.mem_append_left _ hq)
      exact ⟨q, hunit, (extrinsic_still q).symm, hnear⟩
    · obtain ⟨hunit, hnear⟩ := h last (by simp)
      rw [List.mem_singleton.1 hmem]
      exact ⟨last, hunit, (extrinsic_turned last).symm, hnear⟩

theorem before_dot_before : coords beforeBranch ⬝ᵥ coords beforeBranch = 1 := by
  rw [coords_dot_self, beforeBranch_unit]

theorem behind_dot_behind : coords behindBranch ⬝ᵥ coords behindBranch = 1 := by
  rw [coords_dot_self, behindBranch_unit]

theorem before_dot_behind : coords beforeBranch ⬝ᵥ coords behindBranch = -(1104 / 1105) := by
  rw [coords_eq, coords_eq, dotProduct, Fin.sum_univ_four]
  simp only [beforeBranch, behindBranch, cons_val]
  norm_num

/-- Six samples with one extrinsic are accepted. -/
theorem attached_accepted :
    AcceptsAll branchEigen (attached (List.replicate 5 beforeBranch) beforeBranch) := by
  refine (outliers_sign (c := beforeBranch) branchEigen_meets (near_attached beforeBranch_unit ?_)).2
    (.inl ?_)
  · intro q hq
    obtain rfl : q = beforeBranch := by simpa using hq
    rw [before_dot_before]
    exact ⟨beforeBranch_unit, by norm_num⟩
  · intro q hq
    rw [conversions_attached] at hq
    obtain ⟨p, hp, rfl⟩ := List.mem_map.1 hq
    obtain rfl : p = beforeBranch := by simpa using hp
    rw [branchQuaternion_before, before_dot_before]
    exact zero_le_one

/-- Three samples on each side of the branch. -/
def branchSamples : List Sample :=
  attached [beforeBranch, behindBranch, behindBranch, behindBranch, beforeBranch] beforeBranch

theorem branch_near : Near branchEigen branchSamples beforeBranch := by
  refine near_attached beforeBranch_unit ?_
  intro q hq
  obtain rfl | rfl | rfl : q = beforeBranch ∨ q = behindBranch ∨ q = beforeBranch := by
    simpa using hq
  · rw [before_dot_before]
    exact ⟨beforeBranch_unit, by norm_num⟩
  · rw [dotProduct_comm, before_dot_behind]
    exact ⟨behindBranch_unit, by norm_num⟩
  · rw [before_dot_before]
    exact ⟨beforeBranch_unit, by norm_num⟩

/-- The first and the last sample tell a rough rotation. -/
theorem branch_deltas : roughDeltas branchSamples ≠ [] := by
  have hturn : quarterX * toMatrix beforeBranch * (toMatrix beforeBranch)ᵀ = quarterX := by
    rw [Matrix.mul_assoc, toMatrix_mul_transpose beforeBranch_unit, Matrix.mul_one]
  have hvalid : validDelta branchSamples 5 0 =
      some ⟨true, (2 : ℝ)⁻¹ • ![2, 0, 0], (2 : ℝ)⁻¹ • ![2, 0, 0]⟩ := by
    simp [validDelta, branchSamples, attached, delta_x hturn]
  intro hnil
  have hmem : (⟨true, (2 : ℝ)⁻¹ • ![2, 0, 0], (2 : ℝ)⁻¹ • ![2, 0, 0]⟩ : DSample) ∈
      roughDeltas branchSamples := by
    refine List.mem_flatMap.2 ⟨5, ?_, List.mem_filterMap.2 ⟨0, ?_, hvalid⟩⟩
    · simp [steps, branchSamples, attached]
    · simp [steps]
  rw [hnil] at hmem
  cases hmem

/-- **Samples on both sides of the branch are all rejected**, though their extrinsics are five
    degrees apart. -/
theorem branch_rejected :
    branchEigen.Meets ∧ Near branchEigen branchSamples beforeBranch ∧
      ¬ AcceptsAll branchEigen branchSamples := by
  refine ⟨branchEigen_meets, branch_near, ?_⟩
  rw [acceptsAll_iff branchEigen_meets branch_near, or_iff_right branch_deltas]
  rintro ⟨-, hall⟩
  have hqs : conversions branchEigen branchSamples =
      [beforeBranch, behindBranch, behindBranch, behindBranch, beforeBranch, beforeBranch] := by
    rw [branchSamples, conversions_attached]
    simp [branchQuaternion_before, branchQuaternion_behind]
  have hfirst := hall beforeBranch (by rw [hqs]; simp)
  rw [hqs] at hfirst
  have hflip : coords behindBranch ⬝ᵥ coords beforeBranch = -(1104 / 1105) := by
    rw [dotProduct_comm, before_dot_behind]
  simp only [innerSum, List.map_cons, List.map_nil, List.sum_cons, List.sum_nil,
    before_dot_before, behind_dot_behind, before_dot_behind, hflip] at hfirst
  norm_num at hfirst

end

end WKPairDriver.Calibration.RotationSolve
