import Mathlib
import WKPairDriver.Calibration.AutoLock
import WKPairDriver.Calibration.EigenModel
import WKPairDriver.Lib.Axes
import WKPairDriver.Lib.Median
import WKPairDriver.Lib.RigidMotion
import WKPairDriver.Lib.RotationAngle

/-!
# The robust deviations: `RobustTranslDeviation` and `RobustRotDeviation`

Both take the middle of the distances to a middle of the window.  The translation's middle is that
of each axis; the rotation's is the sample that stands in the middle of the window, whatever it is.

* `RobustTranslDeviation_le` — a majority bounds the translation deviation.
* `rotRobust_iff` — the rotation deviation is robust exactly when the middle sample is typical.
* `middleOutlier_panics` — one outlier in the middle of three samples.

Over the reals.
-/

set_option autoImplicit false

namespace WKPairDriver.Calibration.AutoLock

open Lib Lib.Median Quaternion Matrix
open OffsetSolver (standardQuaternion standardQuaternion_spec)

noncomputable section

/-! ## The functions of Eigen -/

def angularDistance (a b : ℍ[ℝ]) : ℝ :=
  let d := a * star b
  2.0 * Complex.arg ⟨|d.re|, √(d.imI * d.imI + d.imJ * d.imJ + d.imK * d.imK)⟩

/-- Relative poses; `quaternion` is `Quaterniond(R)`. -/
def poseGeometry (quaternion : Matrix (Fin 3) (Fin 3) ℝ → ℍ[ℝ]) :
    Geometry ℝ (RigidMotion ℝ) where
  relative refWorld targetWorld := refWorld⁻¹ * targetWorld
  translation a := (a.translation axisX, a.translation axisY, a.translation axisZ)
  norm v := √(v.1 * v.1 + v.2.1 * v.2.1 + v.2.2 * v.2.2)
  angularDistance a b :=
    angularDistance (quaternion (toMatrix a.rotation)) (quaternion (toMatrix b.rotation))

/-- The documented behaviour: a unit quaternion of the rotation, with either sign. -/
def Converts (quaternion : Matrix (Fin 3) (Fin 3) ℝ → ℍ[ℝ]) : Prop :=
  ∀ q : ℍ[ℝ], normSq q = 1 → normSq (quaternion (toMatrix q)) = 1 ∧
    toMatrix (quaternion (toMatrix q)) = toMatrix q

/-- The distance of two points. -/
def pointDistance (u v : Fin 3 → ℝ) : ℝ :=
  dist ((EuclideanSpace.equiv (Fin 3) ℝ).symm u) ((EuclideanSpace.equiv (Fin 3) ℝ).symm v)

theorem pointDistance_toLp (u v : Fin 3 → ℝ) : pointDistance u v =
    dist (WithLp.toLp 2 u : EuclideanSpace ℝ (Fin 3)) (WithLp.toLp 2 v) := rfl

variable {quaternion : Matrix (Fin 3) (Fin 3) ℝ → ℍ[ℝ]}

theorem angularDistance_eq (h : Converts quaternion) (a b : RigidMotion ℝ) :
    (poseGeometry quaternion).angularDistance a b = rotationAngle a.rotation b.rotation := by
  obtain ⟨ha, hmat⟩ := h a.rotation a.unit
  obtain ⟨hb, hmat'⟩ := h b.rotation b.unit
  have hsign : ∀ {p q : ℍ[ℝ]} (r : ℍ[ℝ]), p = q ∨ p = -q →
      rotationAngle p r = rotationAngle q r := by
    rintro p q r (rfl | rfl)
    · rfl
    · exact rotationAngle_neg_left q r
  have heq := rotationAngle_eq_arg ha hb
  rw [hsign _ ((toMatrix_eq_iff ha a.unit).1 hmat), rotationAngle_comm,
    hsign _ ((toMatrix_eq_iff hb b.unit).1 hmat'), rotationAngle_comm] at heq
  rw [← heq]
  simp only [poseGeometry, angularDistance]
  norm_num

/-! ## The middle -/

theorem medianOf_eq (v : List ℝ) : medianOf v = (middle? v).getD 0 := rfl

theorem medianOf_le_iff {v : List ℝ} (h : v ≠ []) (c : ℝ) :
    medianOf v ≤ c ↔ Majority (· ≤ c) v := by
  obtain ⟨hlt, hmiddle⟩ := exists_middle h
  rw [medianOf_eq, hmiddle]
  exact middle_le_iff hmiddle

theorem le_medianOf {v : List ℝ} (h : v ≠ []) {c : ℝ} (hmaj : Majority (c ≤ ·) v) :
    c ≤ medianOf v := by
  obtain ⟨hlt, hmiddle⟩ := exists_middle h
  rw [medianOf_eq, hmiddle]
  exact le_middle_of_majority hmiddle hmaj

theorem Majority.ne_nil {α : Type} {p : α → Prop} [DecidablePred p] {l : List α}
    (h : Majority p l) : l ≠ [] := by
  rintro rfl
  exact absurd h (by simp [Majority])

/-- A majority near `c` keeps the middle near it. -/
theorem abs_medianOf_sub_le {α : Type} {l : List α} (f : α → ℝ) {c r : ℝ}
    (h : Majority (fun a => |f a - c| ≤ r) l) : |medianOf (l.map f) - c| ≤ r := by
  have hne : l.map f ≠ [] := by simpa using Majority.ne_nil h
  rw [abs_sub_le_iff]
  constructor
  · have := (medianOf_le_iff hne (c + r)).2
      (majority_map.2 (h.mono fun a _ ha => by linarith [(abs_sub_le_iff.1 ha).1]))
    linarith
  · have := le_medianOf hne (c := c - r)
      (majority_map.2 (h.mono fun a _ ha => by linarith [(abs_sub_le_iff.1 ha).2]))
    linarith

/-! ## Translations -/

theorem pointDistance_eq (u v : Fin 3 → ℝ) :
    pointDistance u v = √((u axisX - v axisX) * (u axisX - v axisX) +
      (u axisY - v axisY) * (u axisY - v axisY) + (u axisZ - v axisZ) * (u axisZ - v axisZ)) := by
  rw [pointDistance_toLp, EuclideanSpace.dist_eq, Fin.sum_univ_three]
  simp only [Real.dist_eq, sq_abs]
  simp only [sq, axisX_eq, axisY_eq, axisZ_eq]

theorem abs_sub_le_pointDistance (u v : Fin 3 → ℝ) (axis : Fin 3) :
    |u axis - v axis| ≤ pointDistance u v := by
  have := PiLp.norm_apply_le
    ((WithLp.toLp 2 u : EuclideanSpace ℝ (Fin 3)) - WithLp.toLp 2 v) axis
  rwa [← dist_eq_norm, ← pointDistance_toLp] at this

theorem pointDistance_le_of_abs {u v : Fin 3 → ℝ} {r : ℝ} (h : ∀ axis, |u axis - v axis| ≤ r) :
    pointDistance u v ≤ √3 * r := by
  have hr : 0 ≤ r := (abs_nonneg _).trans (h axisX)
  have hsq : ∀ axis, (u axis - v axis) * (u axis - v axis) ≤ r * r := fun axis =>
    abs_le_iff_mul_self_le.1 ((h axis).trans (le_abs_self r))
  have hsqrt : √3 * r = √(3 * (r * r)) := by
    rw [Real.sqrt_mul (by norm_num), Real.sqrt_mul_self hr]
  rw [pointDistance_eq, hsqrt]
  apply Real.sqrt_le_sqrt
  linarith [hsq axisX, hsq axisY, hsq axisZ]

/-- The medians of the three axes. -/
def medianPoint (history : List (RigidMotion ℝ)) : Fin 3 → ℝ := fun axis =>
  medianOf (history.map fun a => a.translation axis)

theorem RobustTranslDeviation_eq {history : List (RigidMotion ℝ)} (h : history ≠ []) :
    RobustTranslDeviation (poseGeometry quaternion) history =
      medianOf (history.map fun a => pointDistance a.translation (medianPoint history)) *
        1.4826 := by
  have hempty : history.isEmpty = false := by simpa using h
  rw [RobustTranslDeviation, hempty, if_neg Bool.false_ne_true]
  simp only [pointDistance_eq]
  rfl

/-- **Translations.**  A majority within `r` of a point bounds the deviation. -/
theorem RobustTranslDeviation_le (quaternion : Matrix (Fin 3) (Fin 3) ℝ → ℍ[ℝ])
    (history : List (RigidMotion ℝ)) (c : Fin 3 → ℝ) (r : ℝ)
    (h : Majority (fun a => pointDistance a.translation c ≤ r) history) :
    RobustTranslDeviation (poseGeometry quaternion) history ≤ 1.4826 * (1 + √3) * r := by
  have hne : history ≠ [] := Majority.ne_nil h
  -- the median is near the point on every axis
  have hmedian : pointDistance (medianPoint history) c ≤ √3 * r := by
    apply pointDistance_le_of_abs
    intro axis
    exact abs_medianOf_sub_le _ (h.mono fun a _ ha => (abs_sub_le_pointDistance _ _ axis).trans ha)
  -- so the majority is near the median
  have hnear : Majority (fun a => pointDistance a.translation (medianPoint history) ≤ (1 + √3) * r)
      history := by
    refine h.mono fun a _ ha => ?_
    calc pointDistance a.translation (medianPoint history)
        ≤ pointDistance a.translation c + pointDistance (medianPoint history) c :=
          dist_triangle_right _ _ _
      _ ≤ (1 + √3) * r := by linarith
  have hne' : (history.map fun a => pointDistance a.translation (medianPoint history)) ≠ [] := by
    simpa using hne
  have hle := (medianOf_le_iff hne' _).2 (majority_map.2 hnear)
  rw [RobustTranslDeviation_eq hne]
  linarith

/-! ## Rotations -/

/-- More than half of the rotations are within `r` of the rotation `c`. -/
def Clustered (history : List (RigidMotion ℝ)) (r : ℝ) (c : ℍ[ℝ]) : Prop :=
  normSq c = 1 ∧ Majority (fun a => rotationAngle a.rotation c ≤ r) history

/-- A majority within `r` of a common rotation keeps the deviation small. -/
def RotRobust (quaternion : Matrix (Fin 3) (Fin 3) ℝ → ℍ[ℝ]) (history : List (RigidMotion ℝ))
    (r : ℝ) : Prop :=
  (∃ c, Clustered history r c) →
    RobustRotDeviation (poseGeometry quaternion) history ≤ 2.0 * 1.4826 * r

/-- If there is such a majority, one is within twice the angle of the middle sample. -/
def MiddleTypical (history : List (RigidMotion ℝ)) (r : ℝ) : Prop :=
  (∃ c, Clustered history r c) → ∀ mid, history[history.length / 2]? = some mid →
    Majority (fun a => rotationAngle a.rotation mid.rotation ≤ 2.0 * r) history

theorem exists_middle_sample {history : List (RigidMotion ℝ)} (h : history ≠ []) :
    ∃ mid, history[history.length / 2]? = some mid := by
  have hpos := List.length_pos_of_ne_nil h
  exact ⟨_, List.getElem?_eq_getElem (show history.length / 2 < history.length by omega)⟩

theorem RobustRotDeviation_eq (hq : Converts quaternion) {history : List (RigidMotion ℝ)}
    {mid : RigidMotion ℝ} (hmid : history[history.length / 2]? = some mid) :
    RobustRotDeviation (poseGeometry quaternion) history =
      medianOf (history.map fun a => rotationAngle a.rotation mid.rotation) * 1.4826 := by
  rw [RobustRotDeviation, hmid]
  simp only [angularDistance_eq hq, rotationAngle_comm mid.rotation]

/-- The deviation is a bound exactly when the majority around the middle sample is. -/
theorem RobustRotDeviation_le_iff (hq : Converts quaternion) {history : List (RigidMotion ℝ)}
    {mid : RigidMotion ℝ} (hmid : history[history.length / 2]? = some mid) (r : ℝ) :
    RobustRotDeviation (poseGeometry quaternion) history ≤ 2.0 * 1.4826 * r ↔
      Majority (fun a => rotationAngle a.rotation mid.rotation ≤ 2.0 * r) history := by
  have hne : (history.map fun a => rotationAngle a.rotation mid.rotation) ≠ [] := by
    rintro hnil
    rw [List.map_eq_nil_iff.1 hnil] at hmid
    cases hmid
  have hle := medianOf_le_iff hne (2.0 * r)
  rw [majority_map] at hle
  rw [RobustRotDeviation_eq hq hmid, ← hle]
  constructor <;> intro h <;> linarith

/-- **Rotations.**  The deviation is robust exactly when the middle sample of the window is typical
    of it; a middle sample within `r` of the common rotation is. -/
theorem rotRobust_iff (hq : Converts quaternion) (history : List (RigidMotion ℝ)) (r : ℝ) :
    (RotRobust quaternion history r ↔ MiddleTypical history r) ∧
      ∀ c mid, Clustered history r c → history[history.length / 2]? = some mid →
        rotationAngle mid.rotation c ≤ r → MiddleTypical history r := by
  constructor
  · rw [RotRobust, MiddleTypical]
    refine forall_congr' fun hcluster => ?_
    obtain ⟨c, -, hmaj⟩ := hcluster
    obtain ⟨mid, hmid⟩ := exists_middle_sample (Majority.ne_nil hmaj)
    rw [RobustRotDeviation_le_iff hq hmid]
    constructor
    · rintro h mid' hmid'
      cases hmid.symm.trans hmid'
      exact h
    · intro h
      exact h mid hmid
  · rintro c mid ⟨hunit, hmaj⟩ hmid hnear - mid' hmid'
    cases hmid.symm.trans hmid'
    refine hmaj.mono fun a _ ha => ?_
    have htriangle := rotationAngle_triangle a.unit hunit mid.unit
    rw [rotationAngle_comm c] at htriangle
    linarith

/-! ## One outlier -/

def still : RigidMotion ℝ := 1

/-- About a hundred degrees about the axis x. -/
def outlierRotation : ℍ[ℝ] := ⟨0.6, 0.8, 0, 0⟩

theorem outlierRotation_unit : normSq outlierRotation = 1 := by
  rw [normSq_def', outlierRotation]
  norm_num

def outlier : RigidMotion ℝ := ⟨outlierRotation, 0, outlierRotation_unit⟩

theorem rotationAngle_still : rotationAngle still.rotation 1 = 0 :=
  rotationAngle_self (map_one _)

theorem rotationAngle_still_outlier : 0.2 ≤ rotationAngle still.rotation outlier.rotation := by
  have hinner : inner ℝ still.rotation outlier.rotation = 0.6 := by
    show inner ℝ (1 : ℍ[ℝ]) outlier.rotation = 0.6
    rw [Quaternion.inner_def, one_mul, re_star]
    rfl
  have hcos : (0.6 : ℝ) ≤ Real.cos 0.1 := by
    have := Real.one_sub_sq_div_two_le_cos (x := 0.1)
    norm_num at this ⊢
    linarith
  have hangle : (0.1 : ℝ) ≤ Real.arccos 0.6 := by
    have hpi := Real.pi_gt_three
    rw [← Real.arccos_cos (x := 0.1) (by norm_num) (by linarith)]
    exact Real.arccos_le_arccos hcos
  have habs : |(0.6 : ℝ)| = 0.6 := abs_of_nonneg (by norm_num)
  rw [rotationAngle_eq, hinner, habs]
  linarith

/-- Two of three are a majority. -/
theorem majority_of_two {α : Type} {p : α → Prop} [DecidablePred p] {l : List α}
    (hlen : l.length = 3) {a b : α} (h : [a, b].Sublist l) (ha : p a) (hb : p b) :
    Majority p l := by
  have hcount : 2 ≤ l.countP p := by
    calc 2 = [a, b].countP p := by simp [ha, hb]
      _ ≤ l.countP p := h.countP_le
  unfold Majority
  omega

theorem still_clustered : Clustered [still, outlier, still] 0 1 := by
  have hsub : [still, still].Sublist [still, outlier, still] := by simp
  exact ⟨map_one _, majority_of_two rfl hsub rotationAngle_still.le rotationAngle_still.le⟩

theorem standardQuaternion_converts : Converts standardQuaternion := fun _ h =>
  standardQuaternion_spec h

theorem rotRobust_still :
    RotRobust standardQuaternion [still, still, outlier] 0 ∧
      Clustered [still, still, outlier] 0 1 := by
  have hcluster : Clustered [still, still, outlier] 0 1 := by
    have hsub : [still, still].Sublist [still, still, outlier] := by simp
    exact ⟨map_one _, majority_of_two rfl hsub rotationAngle_still.le rotationAngle_still.le⟩
  exact ⟨(rotRobust_iff standardQuaternion_converts _ 0).1.2
    ((rotRobust_iff standardQuaternion_converts _ 0).2 1 still hcluster rfl
      rotationAngle_still.le), hcluster⟩

/-- A device `x` meters aside. -/
def aside (x : ℝ) : RigidMotion ℝ := { (1 : RigidMotion ℝ) with translation := ![x, 0, 0] }

theorem pointDistance_aside (x : ℝ) : pointDistance (aside x).translation 0 = |x| := by
  rw [pointDistance_eq, ← Real.sqrt_mul_self_eq_abs]
  simp [aside]

/-- Five meters in the middle of a window do not count. -/
theorem RobustTranslDeviation_aside :
    RobustTranslDeviation (poseGeometry standardQuaternion) [aside 0.1, aside 5, aside (-0.1)] ≤
      1.4826 * (1 + √3) * 0.1 := by
  have hnear : pointDistance (aside 0.1).translation 0 ≤ 0.1 ∧
      pointDistance (aside (-0.1)).translation 0 ≤ 0.1 := by
    rw [pointDistance_aside, pointDistance_aside]
    norm_num
  have hsub : [aside 0.1, aside (-0.1)].Sublist [aside 0.1, aside 5, aside (-0.1)] := by simp
  exact RobustTranslDeviation_le standardQuaternion _ 0 0.1
    (majority_of_two rfl hsub hnear.1 hnear.2)

/-- **One outlier in the middle** of a window of three equal rotations moves the deviation to the
    panic level. -/
theorem middleOutlier_panics : ∃ quaternion, Converts quaternion ∧
    ∃ history : List (RigidMotion ℝ), 3 ≤ history.length ∧ ¬RotRobust quaternion history 0 ∧
      IsPanicLevelDeviation 0 (RobustRotDeviation (poseGeometry quaternion) history) = true := by
  have hdev : 0.2 * 1.4826 ≤
      RobustRotDeviation (poseGeometry standardQuaternion) [still, outlier, still] := by
    have hmid : [still, outlier, still][[still, outlier, still].length / 2]? = some outlier := rfl
    rw [RobustRotDeviation_eq standardQuaternion_converts hmid]
    have hle : (0.2 : ℝ) ≤ medianOf ([still, outlier, still].map fun a =>
        rotationAngle a.rotation outlier.rotation) := by
      apply le_medianOf (by simp)
      have hsub : [still, still].Sublist [still, outlier, still] := by simp
      exact majority_map.2
        (majority_of_two rfl hsub rotationAngle_still_outlier rotationAngle_still_outlier)
    linarith
  refine ⟨standardQuaternion, standardQuaternion_converts, [still, outlier, still], le_rfl, ?_, ?_⟩
  · intro hrobust
    have := hrobust ⟨1, still_clustered⟩
    norm_num at this hdev
    linarith
  · have hpanic : (kPanicRotRad : ℝ) ≤ 0.2 * 1.4826 := by
      rw [kPanicRotRad, EIGEN_PI]
      norm_num
    simp [IsPanicLevelDeviation, hpanic.trans hdev]

end

end WKPairDriver.Calibration.AutoLock
