import Mathlib
import WKPairDriver.Driver.ReportedPose
import WKPairDriver.Phantom.Inference

/-!
# Handing a device over between two poses

The dropout bridge blends between a tracker's own pose and one synthesized from the headset's, and
keeps the frames of the first.  The source blend of the head pose interpolates the frames too.

* `Lerp` — `BlendController::Lerp`; `IkFallback.Solve` builds the synthesized pose.
* `handover_onSegment` — where a blend starts and ends, and when it stays on the segment between.
* `handover_leaves_segment` — it need not, and a bridge between two frames does not reach its end.
-/

set_option autoImplicit false

namespace WKPairDriver.Phantom

open Lib Driver SourceBlend Inference Quaternion

/-! ## The dropout bridge -/

/-- `SmoothBlendWeight` -/
noncomputable def SmoothBlendWeight (t : ℝ) : ℝ := smoothstep t

noncomputable def Lerp (a b : DriverPose_t) (alpha : ℝ) : DriverPose_t :=
  let s := SmoothBlendWeight (clamp01 alpha)
  { a with
    vecPosition := mixVec a.vecPosition b.vecPosition s
    vecVelocity := mixVec a.vecVelocity b.vecVelocity s
    vecAcceleration := mixVec a.vecAcceleration b.vecAcceleration s
    vecAngularVelocity := mixVec a.vecAngularVelocity b.vecAngularVelocity s
    vecAngularAcceleration := mixVec a.vecAngularAcceleration b.vecAngularAcceleration s
    qRotation := Slerp a.qRotation b.qRotation s
    poseTimeOffset := mix a.poseTimeOffset b.poseTimeOffset s }

/-- A tracker's offset from the headset, as captured in a T-pose. -/
structure TrackerOffset where
  rel_position : Fin 3 → ℝ
  rel_rotation : HmdQuaternion
  calibrated : Bool

abbrev IkFallback := BodyRole → TrackerOffset

namespace IkFallback

noncomputable def SetOffset (offsets : IkFallback) (role : BodyRole) (rel_pos : Fin 3 → ℝ)
    (rel_rot : HmdQuaternion) : IkFallback :=
  Function.update offsets role ⟨rel_pos, NormalizeQuat rel_rot, true⟩

/-- The pose of the tracker, from the headset's; it keeps the headset's frames. -/
noncomputable def Solve (offsets : IkFallback) (role : BodyRole) (hmd_pose : DriverPose_t) :
    Option DriverPose_t :=
  let o := offsets role
  if !o.calibrated then none
  else some
    { hmd_pose with
      vecPosition := hmd_pose.vecPosition + rotate hmd_pose.qRotation o.rel_position
      qRotation := NormalizeQuat (hmd_pose.qRotation * o.rel_rotation)
      poseTimeOffset := 0
      poseIsValid := true
      deviceIsConnected := true
      result := kRunningOk }

end IkFallback

/-- The two poses are in the same frames, up to the sign of a quaternion. -/
structure SameFrames (a b : DriverPose_t) : Prop where
  rotation : SameRotation a.qWorldFromDriverRotation b.qWorldFromDriverRotation
  translation : a.vecWorldFromDriverTranslation = b.vecWorldFromDriverTranslation
  head : a.vecDriverFromHeadTranslation = b.vecDriverFromHeadTranslation

section Lerp

variable {a b : DriverPose_t}

theorem Lerp_reported (a b : DriverPose_t) (alpha : ℝ) :
    let s := smoothstep (clamp01 alpha)
    reportedPosition (Lerp a b alpha) =
      motion a.qWorldFromDriverRotation a.vecWorldFromDriverTranslation
        (motion (Slerp a.qRotation b.qRotation s) (mixVec a.vecPosition b.vecPosition s)
          a.vecDriverFromHeadTranslation) :=
  reportedPosition_eq _

theorem Lerp_zero (ha : Rigid a) (hb : Rigid b) :
    reportedPosition (Lerp a b 0) = reportedPosition a := by
  rw [Lerp_reported, clamp01_of_nonpos le_rfl, smoothstep_zero,
    Slerp_interpolates.zero ha.device hb.device, mixVec_zero, reportedPosition_eq]

theorem Lerp_one (ha : Rigid a) (hb : Rigid b) (h : SameFrames a b) :
    reportedPosition (Lerp a b 1) = reportedPosition b := by
  rw [Lerp_reported, clamp01_of_one_le le_rfl, smoothstep_of_one_le le_rfl,
    (Slerp_interpolates.one ha.device hb.device).motion, mixVec_one, h.translation, h.head,
    h.rotation.motion, reportedPosition_eq]

theorem Lerp_mix (ha : Rigid a) (h : SameFrames a b) (haligned : Aligned a b) (alpha : ℝ) :
    reportedPosition (Lerp a b alpha) =
      mixVec (reportedPosition a) (reportedPosition b) (smoothstep (clamp01 alpha)) := by
  have hdevice := haligned.device_mix Slerp_interpolates ha (smoothstep (clamp01 alpha))
  rw [← h.head, mixVec_self] at hdevice
  rw [Lerp_reported, hdevice, reportedPosition_eq a, reportedPosition_eq b,
    ← motion_mixVec haligned.world, ← h.translation, mixVec_self, h.head]

theorem Lerp_onSegment (ha : Rigid a) (h : SameFrames a b) (haligned : Aligned a b) (alpha : ℝ) :
    OnSegment (reportedPosition a) (reportedPosition b) (reportedPosition (Lerp a b alpha)) :=
  ⟨_, weight_smoothstep _, Lerp_mix ha h haligned alpha⟩

end Lerp

/-- **Where a blend between two rigid poses starts and ends, and when it is straight.**  The source
    blend starts and ends where its two poses are, whatever their frames.  The bridge starts at its
    first pose, and ends at its second if the two are in the same frames.  Both stay on the segment
    if no rotation under a translation changes. -/
theorem handover_onSegment {a b : DriverPose_t} (ha : Rigid a) (hb : Rigid b) :
    (reportedPosition (blendPose SlerpQuat a b 0) = reportedPosition a ∧
      reportedPosition (blendPose SlerpQuat a b 1) = reportedPosition b ∧
      (Aligned a b → ∀ alpha, OnSegment (reportedPosition a) (reportedPosition b)
        (reportedPosition (blendPose SlerpQuat a b alpha)))) ∧
    reportedPosition (Lerp a b 0) = reportedPosition a ∧
      (SameFrames a b → reportedPosition (Lerp a b 1) = reportedPosition b ∧
        (Aligned a b → ∀ alpha, OnSegment (reportedPosition a) (reportedPosition b)
          (reportedPosition (Lerp a b alpha)))) := by
  refine ⟨⟨blendPose_zero ha hb, blendPose_one ha hb, fun h => blendPose_onSegment ha h⟩,
    Lerp_zero ha hb, fun hframes => ?_⟩
  exact ⟨Lerp_one ha hb hframes, fun h => Lerp_onSegment ha hframes h⟩

/-! ## Two blends off the segment -/

/-- A shoulder tracker captured where the headset is. -/
noncomputable def capturedOffsets : IkFallback :=
  IkFallback.SetOffset (fun _ => ⟨0, 1, false⟩) (Fin.last 13) 0 1

/-- The tracker's own frame is a meter away from the headset's. -/
noncomputable def calibratedPose : DriverPose_t :=
  { restingPose with vecWorldFromDriverTranslation := ![1, 0, 0] }

noncomputable def aheadPose : DriverPose_t := { restingPose with vecPosition := ![1, 0, 0] }

theorem aheadPose_rigid : Rigid aheadPose := ⟨map_one _, map_one _, map_one _⟩

/-- A pose in a frame half a turn and a meter away. -/
noncomputable def seenFromBehind (p : DriverPose_t) : DriverPose_t :=
  { p with
    qWorldFromDriverRotation := quat 0 0 0 1
    vecWorldFromDriverTranslation := ![1, 0, 0] }

theorem seenFromBehind_rigid {p : DriverPose_t} (h : Rigid p) : Rigid (seenFromBehind p) where
  world := by simp [seenFromBehind, normSq_def']
  device := h.device
  head := h.head

/-- The source blend ends in another frame, and the bridge is straight in one that is turned. -/
theorem handover_onSegment_behind :
    reportedPosition (blendPose SlerpQuat aheadPose (seenFromBehind restingPose) 1) =
      reportedPosition (seenFromBehind restingPose) ∧
    reportedPosition (Lerp (seenFromBehind aheadPose) (seenFromBehind restingPose) 1) =
      reportedPosition (seenFromBehind restingPose) ∧
    ∀ alpha, OnSegment (reportedPosition (seenFromBehind aheadPose))
      (reportedPosition (seenFromBehind restingPose))
      (reportedPosition (Lerp (seenFromBehind aheadPose) (seenFromBehind restingPose) alpha)) := by
  have hrest := seenFromBehind_rigid restingPose_rigid
  obtain ⟨⟨-, hend, -⟩, -⟩ := handover_onSegment aheadPose_rigid hrest
  obtain ⟨-, -, hbridge⟩ := handover_onSegment (seenFromBehind_rigid aheadPose_rigid) hrest
  obtain ⟨hreached, hstraight⟩ := hbridge ⟨.inl rfl, rfl, rfl⟩
  exact ⟨hend, hreached, hstraight ⟨.inl rfl, .inr ⟨rfl, rfl⟩⟩⟩

/-- A frame turned by half a turn. -/
noncomputable def turnedPose : DriverPose_t :=
  { aheadPose with qWorldFromDriverRotation := quat 0 0 0 1 }

theorem NormalizeQuat_one : NormalizeQuat 1 = 1 := NormalizeQuat_of_unit (map_one _)

theorem capturedOffsets_solve : capturedOffsets.Solve (Fin.last 13) restingPose = some restingPose := by
  have hzero : (0 : Fin 3 → ℝ) + 0 = 0 := add_zero 0
  simp only [capturedOffsets, IkFallback.SetOffset, IkFallback.Solve, Function.update_self,
    NormalizeQuat_one, restingPose, rotate_zero, hzero, one_mul, Bool.not_true, Bool.false_eq_true,
    if_false]

/-- A turn about the third axis. -/
theorem rotate_aside (w z : ℝ) :
    rotate (quat w 0 0 z) ![1, 0, 0] = ![1 - 2 * z * z, 2 * w * z, 0] := by
  rw [← toMatrix_mulVec]
  funext i
  fin_cases i <;> simp [toMatrix]
  ring

theorem turned_halfway : SlerpQuat 1 (quat 0 0 0 1) (1 / 2) = quat (√2 / 2) 0 0 (√2 / 2) := by
  have hhalf : clamp01 (1 / 2 : ℝ) = 1 / 2 := by norm_num [clamp01]
  have hdot : shorter 1 (quat 0 0 0 1) = (quat 0 0 0 1, 0) := by simp [shorter, QuatDot]
  have hclamp : clampDot 0 = 0 := by norm_num [clampDot]
  have hquarter : (1 / 2 : ℝ) * (Real.pi / 2) = Real.pi / 4 := by ring
  have hrest : (1 - 1 / 2 : ℝ) = 1 / 2 := by norm_num
  have hunit : normSq (quat (√2 / 2) 0 0 (√2 / 2)) = 1 := by
    rw [normSq_def']
    norm_num [div_pow]
  have hmix : (√2 / 2) • (1 : HmdQuaternion) + (√2 / 2) • (quat 0 0 0 1) =
      quat (√2 / 2) 0 0 (√2 / 2) := by
    ext <;> simp
  rw [SlerpQuat, hhalf, hdot, hclamp, slerpOn, if_neg (by norm_num), Real.arccos_zero, hrest,
    hquarter, Real.sin_pi_div_four, Real.sin_pi_div_two]
  simp only [div_one, hmix, NormalizeQuat_of_unit hunit]

theorem turnedPose_rigid : Rigid turnedPose where
  world := by simp [turnedPose, normSq_def']
  device := map_one _
  head := map_one _

/-- Halfway, the blend is a quarter of a turn to the side. -/
theorem turned_aside :
    reportedPosition (blendPose SlerpQuat aheadPose turnedPose (1 / 2)) 1 = 1 := by
  have hhalf : smoothstep (1 / 2 : ℝ) = 1 / 2 := by norm_num [smoothstep, clamp01]
  have hsq : √2 * √2 = (2 : ℝ) := Real.mul_self_sqrt (by norm_num)
  have hself : SlerpQuat 1 1 (1 / 2) = 1 :=
    SlerpQuat_interpolates.self (map_one _) (.inl rfl) _
  rw [blendPose_reported, hhalf]
  simp only [turnedPose, aheadPose, restingPose, turned_halfway, hself, mixVec_self,
    motion, rotate_zero, add_zero, zero_add, rotate_aside, Matrix.cons_val]
  linarith

/-- A synthesized pose in the headset's frame is not handed over to the tracker's own, and a blend
    between two frames half a turn apart goes around. -/
theorem handover_leaves_segment :
    (capturedOffsets.Solve (Fin.last 13) restingPose = some restingPose ∧ Rigid restingPose ∧
      Rigid calibratedPose ∧
      reportedPosition (Lerp restingPose calibratedPose 1) ≠ reportedPosition calibratedPose) ∧
    Rigid aheadPose ∧ Rigid turnedPose ∧
      ¬ OnSegment (reportedPosition aheadPose) (reportedPosition turnedPose)
        (reportedPosition (blendPose SlerpQuat aheadPose turnedPose (1 / 2))) := by
  refine ⟨⟨capturedOffsets_solve, restingPose_rigid, ⟨map_one _, map_one _, map_one _⟩, ?_⟩,
    aheadPose_rigid, turnedPose_rigid, ?_⟩
  · intro h
    have hx := congrFun h 0
    rw [Lerp_reported, reportedPosition_eq] at hx
    simp [restingPose, calibratedPose, mixVec_self, motion] at hx
  · rintro ⟨w, -, hw⟩
    have hy := congrFun hw 1
    rw [turned_aside, reportedPosition_eq, reportedPosition_eq] at hy
    simp [turnedPose, aheadPose, restingPose, motion, rotate_aside, mixVec, mix] at hy

end WKPairDriver.Phantom
