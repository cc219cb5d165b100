import Mathlib
import WKPairDriver.Lib.RigidMotion
import WKPairDriver.Lib.Slerp
import WKPairDriver.Driver.DeviceTransforms
import WKPairDriver.Driver.ReportedPose

/-!
# The blend of a device's transform to its target

Each pose update of an enabled transform measures how far the transform is from its target at the
device, picks a speed by that, and blends: the rotation by a `slerp`, and where the device is
linearly.

* `isoMath` — the arithmetic of a pose update, over the reals.
* `blended_position`, `blended_rotation` — what one blend does to the two errors.
* `Run` — pose updates of the device, and whatever leaves its entry alone in between.
* `blend_exact` — every pose update is an exact blend by the clamped product of time and speed, and
  along a run the errors do not grow and the speed does not drop before both are small.
-/

set_option autoImplicit false

namespace WKPairDriver.Driver

open Lib SourceBlend Quaternion

/-! ## Isometries -/

/-- `IsoTransform`, over the reals. -/
abbrev Iso := IsoTransform (Fin 3 → ℝ) HmdQuaternion

namespace IsoTransform

/-- `operator*` of two transforms; `normalized` is Eigen's. -/
noncomputable def mul (a b : Iso) : Iso where
  rotation := normalized (a.rotation * b.rotation)
  translation := a.translation + rotate a.rotation b.translation

/-- `operator*` of a transform and a point. -/
def apply (a : Iso) (p : Fin 3 → ℝ) : Fin 3 → ℝ := a.translation + rotate a.rotation p

/-- `interpolateAround`; `slerp` is Eigen's. -/
noncomputable def interpolateAround (s : Iso) (lerp : ℝ) (target : Iso) (localPoint : Fin 3 → ℝ) :
    Iso :=
  let initialPos := s.apply localPoint
  let finalPos := (1 - lerp) • initialPos + lerp • target.apply localPoint
  let newRotation := normalized (slerp s.rotation target.rotation lerp)
  { rotation := newRotation
    translation := finalPos - rotate newRotation localPoint }

/-- The rotation is one. -/
def Unit (a : Iso) : Prop := normSq a.rotation = 1

end IsoTransform

/-- `.norm()` -/
noncomputable def vecNorm (v : Fin 3 → ℝ) : ℝ := √(v ⬝ᵥ v)

/-- `toIsoWorldTransform` -/
def toIsoWorldTransform (pose : DriverPose_t) : Iso where
  rotation := pose.qWorldFromDriverRotation
  translation := pose.vecWorldFromDriverTranslation

/-- `toIsoPose` -/
noncomputable def toIsoPose (pose : DriverPose_t) : Iso :=
  (toIsoWorldTransform pose).mul ⟨pose.vecPosition, pose.qRotation⟩

/-! ## The speed -/

namespace DeltaSize

/-- The value of the enumerator. -/
def rank : DeltaSize → ℕ
  | .TINY => 0
  | .SMALL => 1
  | .LARGE => 2

theorem rank_injective : Function.Injective rank := by
  intro a b h
  cases a <;> cases b <;> first | rfl | cases h

instance : LinearOrder DeltaSize := LinearOrder.lift' rank rank_injective

end DeltaSize

/-- `AlignmentSpeedParams`, as far as a blend reads them. -/
structure AlignmentSpeedParams where
  thr_rot_small : ℝ
  thr_rot_large : ℝ
  thr_trans_small : ℝ
  thr_trans_large : ℝ
  align_speed_tiny : ℝ
  align_speed_small : ℝ
  align_speed_large : ℝ

/-- The level of one of the two errors. -/
noncomputable def deltaLevel (delta small large : ℝ) : DeltaSize :=
  if delta > large then .LARGE else if delta > small then .SMALL else .TINY

namespace AlignmentSpeedParams

variable (params : AlignmentSpeedParams)

/-- `GetTransformDeltaSize`; the angle is `angularDistance`. -/
noncomputable def GetTransformDeltaSize (prior_delta : DeltaSize)
    (deviceWorldPose src target : Iso) : DeltaSize :=
  let src_pose := src.mul deviceWorldPose
  let target_pose := target.mul deviceWorldPose
  let trans_delta := vecNorm (src_pose.translation - target_pose.translation)
  let rot_delta := rotationAngle src_pose.rotation target_pose.rotation
  let trans_level := deltaLevel trans_delta params.thr_trans_small params.thr_trans_large
  let rot_level := deltaLevel rot_delta params.thr_rot_small params.thr_rot_large
  if trans_level = .TINY ∧ rot_level = .TINY then .TINY
  else max prior_delta (max trans_level rot_level)

def GetTransformRate : DeltaSize → ℝ
  | .TINY => params.align_speed_tiny
  | .SMALL => params.align_speed_small
  | .LARGE => params.align_speed_large

/-- The weight of a blend, from the ticks since the last one.  Over a frequency of zero the time is
    an infinity, or NaN. -/
noncomputable def lerp (ticks qpcFreq : ℤ) (rate : ℝ) : ℝ :=
  if qpcFreq = 0 then if (ticks : ℝ) * rate > 0 then 1 else 0
  else
    let lerp := (ticks : ℝ) / qpcFreq * rate
    let lerp := if lerp > 1 then 1 else lerp
    if lerp < 0 then 0 else lerp

end AlignmentSpeedParams

/-! ## A pose update -/

/-- `ApplyTransform` -/
noncomputable def ApplyIso (transform : Iso) (devicePose : DriverPose_t) : DriverPose_t :=
  let deviceWorldTransform := transform.mul (toIsoWorldTransform devicePose)
  { devicePose with
    vecWorldFromDriverTranslation := deviceWorldTransform.translation
    qWorldFromDriverRotation := deviceWorldTransform.rotation }

/-- `kQuashOffsetX`, `kQuashOffsetY`, `kQuashOffsetZ` -/
noncomputable def kQuashOffset : Fin 3 → ℝ := ![10000.0, 0, 10000.0]

/-- The arithmetic of a pose update. -/
noncomputable def isoMath (params : AlignmentSpeedParams) (qpcFreq : ℤ) :
    PoseMath (Fin 3 → ℝ) HmdQuaternion ℝ DriverPose_t where
  identity := ⟨0, 1⟩
  one := 1
  scalePosition scale pose := { pose with vecPosition := scale • pose.vecPosition }
  deltaSize prior pose src target := params.GetTransformDeltaSize prior (toIsoPose pose) src target
  blend timestamp lastPoll rate pose transform target :=
    transform.interpolateAround
      (AlignmentSpeedParams.lerp (timestamp - lastPoll) qpcFreq (params.GetTransformRate rate))
      target (toIsoPose pose).translation
  applyTransform := ApplyIso
  applyQuashToPose pose := { pose with vecPosition := pose.vecPosition + kQuashOffset }

/-! ## The weight -/

namespace AlignmentSpeedParams

theorem lerp_nonneg (ticks qpcFreq : ℤ) (rate : ℝ) : 0 ≤ lerp ticks qpcFreq rate := by
  unfold lerp
  dsimp only
  split_ifs <;> linarith

theorem lerp_le_one (ticks qpcFreq : ℤ) (rate : ℝ) : lerp ticks qpcFreq rate ≤ 1 := by
  unfold lerp
  dsimp only
  split_ifs <;> linarith

/-- The weight is the clamped product of the time and the rate. -/
theorem lerp_eq_clamp {ticks qpcFreq : ℤ} (hfreq : qpcFreq ≠ 0) (rate : ℝ) :
    lerp ticks qpcFreq rate = max 0 (min 1 ((ticks : ℝ) / qpcFreq * rate)) := by
  unfold lerp
  rw [if_neg hfreq]
  dsimp only
  split_ifs with h1 h0 h0
  · linarith
  · rw [min_eq_left h1.le, max_eq_right zero_le_one]
  · rw [min_eq_right (not_lt.1 h1), max_eq_left h0.le]
  · rw [min_eq_right (not_lt.1 h1), max_eq_right (not_lt.1 h0)]

/-- On a clock without a frequency the weight is all or nothing. -/
theorem lerp_zero_freq (ticks : ℤ) (rate : ℝ) :
    lerp ticks 0 rate = if 0 < (ticks : ℝ) * rate then 1 else 0 := if_pos rfl

end AlignmentSpeedParams

/-! ## One blend -/

section Blend

variable {a b c : Iso}

theorem IsoTransform.mul_eq (ha : a.Unit) (hb : b.Unit) :
    a.mul b = ⟨a.translation + rotate a.rotation b.translation, a.rotation * b.rotation⟩ := by
  have hunit : normSq (a.rotation * b.rotation) = 1 := by rw [map_mul, ha, hb, one_mul]
  rw [IsoTransform.mul, normalized_of_unit hunit]

theorem IsoTransform.Unit.mul (ha : a.Unit) (hb : b.Unit) : (a.mul b).Unit := by
  rw [IsoTransform.mul_eq ha hb, IsoTransform.Unit, map_mul, ha, hb, one_mul]

theorem IsoTransform.mul_apply (ha : a.Unit) (hb : b.Unit) (p : Fin 3 → ℝ) :
    (a.mul b).apply p = a.apply (b.apply p) := by
  rw [IsoTransform.mul_eq ha hb]
  simp only [IsoTransform.apply, rotate_add, rotate_rotate ha hb, add_assoc]

/-- The device does not change the angle between two transforms. -/
theorem rotationAngle_mul (ha : a.Unit) (hb : b.Unit) (hc : c.Unit) :
    rotationAngle (a.mul c).rotation (b.mul c).rotation =
      rotationAngle a.rotation b.rotation := by
  have hinner : ∀ p q r : HmdQuaternion, normSq r = 1 → inner ℝ (p * r) (q * r) = inner ℝ p q := by
    intro p q r hr
    rw [Quaternion.inner_def, Quaternion.inner_def, star_mul, ← mul_assoc, mul_assoc p,
      self_mul_star, hr, coe_one, mul_one]
  rw [IsoTransform.mul_eq ha hc, IsoTransform.mul_eq hb hc, rotationAngle, rotationAngle,
    hinner _ _ _ hc]

variable {lerp : ℝ} {x : Fin 3 → ℝ}

theorem IsoTransform.Unit.interpolateAround (ha : a.Unit) (hb : b.Unit) :
    (a.interpolateAround lerp b x).Unit := by
  have hunit := slerp_unit ha hb lerp
  rw [IsoTransform.Unit, IsoTransform.interpolateAround, normalized_of_unit hunit, hunit]

/-- **Where a blend puts the point it is about.** -/
theorem interpolateAround_apply (a b : Iso) (lerp : ℝ) (x : Fin 3 → ℝ) :
    (a.interpolateAround lerp b x).apply x = (1 - lerp) • a.apply x + lerp • b.apply x :=
  sub_add_cancel _ _

/-- **The angle that a blend leaves.** -/
theorem interpolateAround_angle (ha : a.Unit) (hb : b.Unit) (h0 : 0 ≤ lerp) (h1 : lerp ≤ 1) :
    rotationAngle (a.interpolateAround lerp b x).rotation b.rotation =
      (1 - lerp) * rotationAngle a.rotation b.rotation := by
  rw [IsoTransform.interpolateAround, normalized_of_unit (slerp_unit ha hb lerp),
    rotationAngle_slerp ha hb h0 h1]

theorem vecNorm_smul {l : ℝ} (h : 0 ≤ l) (v : Fin 3 → ℝ) : vecNorm (l • v) = l * vecNorm v := by
  rw [vecNorm, smul_dotProduct, dotProduct_smul, smul_eq_mul, smul_eq_mul, ← mul_assoc,
    Real.sqrt_mul (mul_self_nonneg l), Real.sqrt_mul_self h, vecNorm]

theorem vecNorm_nonneg (v : Fin 3 → ℝ) : 0 ≤ vecNorm v := Real.sqrt_nonneg _

end Blend

/-! ## A pose update of an enabled transform -/

abbrev IsoEntry := DeviceTransform (Fin 3 → ℝ) HmdQuaternion ℝ

abbrev IsoProvider := Provider (Fin 3 → ℝ) HmdQuaternion ℝ

/-- The entry is enabled and shown, and its rotations are ones. -/
structure Blending (tf : IsoEntry) : Prop where
  enabled : tf.enabled = true
  shown : tf.quash = false
  transform : tf.transform.Unit
  target : tf.targetTransform.Unit

/-- The rotations of a pose are ones. -/
structure UnitPose (pose : DriverPose_t) : Prop where
  world : normSq pose.qWorldFromDriverRotation = 1
  device : normSq pose.qRotation = 1

/-- The pose that is blended about, its position scaled. -/
noncomputable def scaledPose (tf : IsoEntry) (pose : DriverPose_t) : DriverPose_t :=
  { pose with vecPosition := tf.scale • pose.vecPosition }

/-- Where the device is before the transform. -/
noncomputable def devicePoint (tf : IsoEntry) (pose : DriverPose_t) : Fin 3 → ℝ :=
  (toIsoPose (scaledPose tf pose)).translation

/-- How far from each other the transform and its target put the device. -/
noncomputable def positionError (tf : IsoEntry) (pose : DriverPose_t) : ℝ :=
  vecNorm (tf.transform.apply (devicePoint tf pose) -
    tf.targetTransform.apply (devicePoint tf pose))

/-- The angle from the transform to its target. -/
noncomputable def rotationError (tf : IsoEntry) : ℝ :=
  rotationAngle tf.transform.rotation tf.targetTransform.rotation

/-- Both errors are inside the small thresholds. -/
def Small (params : AlignmentSpeedParams) (tf : IsoEntry) (pose : DriverPose_t) : Prop :=
  positionError tf pose ≤ params.thr_trans_small ∧ rotationError tf ≤ params.thr_rot_small

theorem UnitPose.scaled {pose : DriverPose_t} (h : UnitPose pose) (tf : IsoEntry) :
    UnitPose (scaledPose tf pose) := ⟨h.world, h.device⟩

section PoseUpdate

variable {params : AlignmentSpeedParams} {qpcFreq : ℤ} {tf : IsoEntry} {pose : DriverPose_t}

theorem toIsoPose_unit (hpose : UnitPose pose) : (toIsoPose pose).Unit :=
  IsoTransform.Unit.mul (a := toIsoWorldTransform pose) (b := ⟨pose.vecPosition, pose.qRotation⟩)
    hpose.world hpose.device

theorem deltaLevel_eq_tiny {delta small large : ℝ} (h : deltaLevel delta small large = .TINY) :
    delta ≤ small := by
  unfold deltaLevel at h
  split_ifs at h with hlarge hsmall
  exact not_lt.1 hsmall

/-- The speed drops only where both errors are small. -/
theorem small_of_drop (h : Blending tf) (hpose : UnitPose pose)
    (hdrop : params.GetTransformDeltaSize tf.currentRate
        (toIsoPose (scaledPose tf pose)) tf.transform tf.targetTransform < tf.currentRate) :
    Small params tf pose := by
  have hunit : (toIsoPose (scaledPose tf pose)).Unit := toIsoPose_unit (hpose.scaled tf)
  unfold AlignmentSpeedParams.GetTransformDeltaSize at hdrop
  dsimp only at hdrop
  split at hdrop
  next htiny =>
    obtain ⟨htrans, hrot⟩ := htiny
    refine ⟨deltaLevel_eq_tiny htrans, ?_⟩
    have hle := deltaLevel_eq_tiny hrot
    rwa [rotationAngle_mul h.transform h.target hunit] at hle
  next => exact absurd hdrop (not_lt.2 (le_max_left _ _))

/-- The entry behind one blend. -/
structure Blended (tf tf' : IsoEntry) (l : ℝ) (pose : DriverPose_t) : Prop where
  blending : Blending tf'
  target : tf'.targetTransform = tf.targetTransform
  scale : tf'.scale = tf.scale
  position : tf'.transform.apply (devicePoint tf pose) =
    (1 - l) • tf.transform.apply (devicePoint tf pose) +
      l • tf.targetTransform.apply (devicePoint tf pose)
  rotation : rotationError tf' = (1 - l) * rotationError tf

theorem Blended.devicePoint_eq {tf' : IsoEntry} {l : ℝ} (h : Blended tf tf' l pose) :
    devicePoint tf' pose = devicePoint tf pose := by
  rw [devicePoint, scaledPose, h.scale, devicePoint, scaledPose]

/-- The errors shrink by the same share. -/
theorem Blended.errors {tf' : IsoEntry} {l : ℝ} (h : Blended tf tf' l pose) (h1 : l ≤ 1) :
    positionError tf' pose = (1 - l) * positionError tf pose := by
  rw [positionError, h.devicePoint_eq, h.position, h.target, positionError,
    ← vecNorm_smul (sub_nonneg.2 h1), smul_sub]
  congr 1
  module

/-- The weight of the blend. -/
noncomputable def blendWeight (params : AlignmentSpeedParams) (qpcFreq : ℤ) (tf tf' : IsoEntry)
    (poll : ℤ) : ℝ :=
  AlignmentSpeedParams.lerp (poll - tf.lastPoll) qpcFreq (params.GetTransformRate tf'.currentRate)

theorem blend_blended (params : AlignmentSpeedParams) (qpcFreq : ℤ) (pose : DriverPose_t)
    (h : Blending tf) (poll : ℤ) :
    let tf' := tf.blend (isoMath params qpcFreq) (scaledPose tf pose) poll
    Blended tf tf' (blendWeight params qpcFreq tf tf' poll) pose := by
  intro tf'
  have h0 := AlignmentSpeedParams.lerp_nonneg (poll - tf.lastPoll) qpcFreq
    (params.GetTransformRate tf'.currentRate)
  have h1 := AlignmentSpeedParams.lerp_le_one (poll - tf.lastPoll) qpcFreq
    (params.GetTransformRate tf'.currentRate)
  exact
    { blending :=
        ⟨h.enabled, h.shown, IsoTransform.Unit.interpolateAround h.transform h.target, h.target⟩
      target := rfl
      scale := rfl
      position := interpolateAround_apply ..
      rotation := interpolateAround_angle h.transform h.target h0 h1 }

/-- Where a pose is published, behind the transform. -/
theorem ApplyIso_position {transform : Iso} (h : transform.Unit) (hpose : UnitPose pose) :
    (toIsoPose (ApplyIso transform pose)).translation =
      transform.apply (toIsoPose pose).translation :=
  IsoTransform.mul_apply (b := toIsoWorldTransform pose) h hpose.world _

theorem setTransform_setTransform (p : IsoProvider) (id : Fin k_unMaxTrackedDeviceCount)
    (tf tf' : IsoEntry) : (p.setTransform id tf).setTransform id tf' = p.setTransform id tf' := by
  simp only [Provider.setTransform, Function.update_idem]

/-- A pose update of an enabled transform blends its entry and publishes behind it. -/
theorem poseUpdate_eq (params : AlignmentSpeedParams) (pose : DriverPose_t) {p : IsoProvider}
    {id : Fin k_unMaxTrackedDeviceCount} (h : Blending (p.transforms id)) (synthSlot : Bool)
    (now poll : ℤ) :
    ∃ tf', p.handleDevicePoseUpdated (isoMath params p.qpcFreq) id pose synthSlot now poll =
        (p.setTransform id tf',
          some (ApplyIso tf'.transform (scaledPose (p.transforms id) pose))) ∧
      tf'.lastPoll = poll ∧
      tf'.currentRate = params.GetTransformDeltaSize (p.transforms id).currentRate
        (toIsoPose (scaledPose (p.transforms id) pose)) (p.transforms id).transform
        (p.transforms id).targetTransform ∧
      Blended (p.transforms id) tf' (blendWeight params p.qpcFreq (p.transforms id) tf' poll)
        pose := by
  let tf : IsoEntry := { p.transforms id with prevQuash := (p.transforms id).quash }
  have hblending : Blending tf := ⟨h.enabled, h.shown, h.transform, h.target⟩
  have hblended := blend_blended params p.qpcFreq pose hblending poll
  refine ⟨tf.blend (isoMath params p.qpcFreq) (scaledPose (p.transforms id) pose) poll, ?_, rfl,
    rfl, hblended.blending, hblended.target, hblended.scale, hblended.position, hblended.rotation⟩
  have hquash : ¬ (p.transforms id).quash = true := by simp [h.shown]
  unfold Provider.handleDevicePoseUpdated
  dsimp only
  rw [if_neg hquash, if_pos h.enabled, setTransform_setTransform]
  rfl

end PoseUpdate

/-! ## Runs -/

/-- A pose update of the device with the fixed pose, or a step that leaves its entry alone. -/
def Step (params : AlignmentSpeedParams) (id : Fin k_unMaxTrackedDeviceCount) (pose : DriverPose_t)
    (p p' : IsoProvider) : Prop :=
  (∃ synthSlot now poll, p' =
      (p.handleDevicePoseUpdated (isoMath params p.qpcFreq) id pose synthSlot now poll).1) ∨
    p'.transforms id = p.transforms id

abbrev Run (params : AlignmentSpeedParams) (id : Fin k_unMaxTrackedDeviceCount)
    (pose : DriverPose_t) : IsoProvider → IsoProvider → Prop :=
  Relation.ReflTransGen (Step params id pose)

/-- Where a run may take an entry. -/
structure Nearer (params : AlignmentSpeedParams) (pose : DriverPose_t) (tf tf' : IsoEntry) :
    Prop where
  blending : Blending tf'
  position : positionError tf' pose ≤ positionError tf pose
  rotation : rotationError tf' ≤ rotationError tf
  speed : tf'.currentRate < tf.currentRate → Small params tf' pose

section Runs

variable {params : AlignmentSpeedParams} {pose : DriverPose_t} {p p' : IsoProvider}
  {id : Fin k_unMaxTrackedDeviceCount}

theorem Small.mono {tf tf' : IsoEntry} (h : Small params tf pose)
    (hposition : positionError tf' pose ≤ positionError tf pose)
    (hrotation : rotationError tf' ≤ rotationError tf) : Small params tf' pose :=
  ⟨hposition.trans h.1, hrotation.trans h.2⟩

theorem Nearer.trans {tf tf' tf'' : IsoEntry} (h : Nearer params pose tf tf')
    (h' : Nearer params pose tf' tf'') : Nearer params pose tf tf'' where
  blending := h'.blending
  position := h'.position.trans h.position
  rotation := h'.rotation.trans h.rotation
  speed hdrop := by
    rcases lt_or_ge tf''.currentRate tf'.currentRate with hlt | hge
    · exact h'.speed hlt
    · exact (h.speed (hge.trans_lt hdrop)).mono h'.position h'.rotation

theorem step_nearer (h : Blending (p.transforms id)) (hpose : UnitPose pose)
    (hstep : Step params id pose p p') :
    Nearer params pose (p.transforms id) (p'.transforms id) := by
  rcases hstep with ⟨synthSlot, now, poll, rfl⟩ | hsame
  · obtain ⟨tf', heq, -, hrate, hblended⟩ := poseUpdate_eq params pose h synthSlot now poll
    have hentry : (p.handleDevicePoseUpdated (isoMath params p.qpcFreq) id pose synthSlot now
        poll).1.transforms id = tf' := by
      rw [heq]
      exact Function.update_self ..
    have h0 := AlignmentSpeedParams.lerp_nonneg (poll - (p.transforms id).lastPoll) p.qpcFreq
      (params.GetTransformRate tf'.currentRate)
    have h1 := AlignmentSpeedParams.lerp_le_one (poll - (p.transforms id).lastPoll) p.qpcFreq
      (params.GetTransformRate tf'.currentRate)
    have hposition : positionError tf' pose ≤ positionError (p.transforms id) pose := by
      rw [hblended.errors h1]
      exact mul_le_of_le_one_left (vecNorm_nonneg _) (sub_le_self _ h0)
    have hrotation : rotationError tf' ≤ rotationError (p.transforms id) := by
      rw [hblended.rotation]
      exact mul_le_of_le_one_left (rotationAngle_nonneg _ _) (sub_le_self _ h0)
    rw [hentry]
    refine ⟨hblended.blending, hposition, hrotation, fun hdrop => ?_⟩
    rw [hrate] at hdrop
    exact (small_of_drop h hpose hdrop).mono hposition hrotation
  · rw [hsame]
    exact ⟨h, le_rfl, le_rfl, fun hlt => absurd hlt (lt_irrefl _)⟩

theorem run_nearer (h : Blending (p.transforms id)) (hpose : UnitPose pose)
    (hrun : Run params id pose p p') :
    Nearer params pose (p.transforms id) (p'.transforms id) := by
  induction hrun with
  | refl => exact ⟨h, le_rfl, le_rfl, fun hlt => absurd hlt (lt_irrefl _)⟩
  | tail _ hstep ih => exact ih.trans (step_nearer ih.blending hpose hstep)

/-- **A blend neither jumps nor overshoots.**  Every pose update of an enabled transform publishes
    the device at the share `l` of the way from where the old transform puts it to where the target
    does, and leaves the share `1 - l` of the angle.  `l` is the product of the time since the last
    update and the speed of the new class, clamped to the unit interval; on a clock without a
    frequency it is one where the product is an infinity, and zero elsewhere.  Along a run neither
    error grows, and the speed does not drop before both are small. -/
theorem blend_exact (h : Blending (p.transforms id)) (hpose : UnitPose pose) :
    (∀ synthSlot now poll, ∃ p' out l,
      p.handleDevicePoseUpdated (isoMath params p.qpcFreq) id pose synthSlot now poll =
          (p', some out) ∧
        (p'.transforms id).lastPoll = poll ∧
        (p'.transforms id).currentRate = params.GetTransformDeltaSize (p.transforms id).currentRate
          (toIsoPose (scaledPose (p.transforms id) pose)) (p.transforms id).transform
          (p.transforms id).targetTransform ∧
        (p.qpcFreq ≠ 0 → l = max 0 (min 1 (((poll - (p.transforms id).lastPoll : ℤ) : ℝ) /
          p.qpcFreq * params.GetTransformRate (p'.transforms id).currentRate))) ∧
        (p.qpcFreq = 0 → l = if 0 < ((poll - (p.transforms id).lastPoll : ℤ) : ℝ) *
          params.GetTransformRate (p'.transforms id).currentRate then 1 else 0) ∧
        0 ≤ l ∧ l ≤ 1 ∧
        (toIsoPose out).translation =
          (1 - l) • (p.transforms id).transform.apply (devicePoint (p.transforms id) pose) +
            l • (p.transforms id).targetTransform.apply (devicePoint (p.transforms id) pose) ∧
        rotationError (p'.transforms id) = (1 - l) * rotationError (p.transforms id)) ∧
    ∀ p', Run params id pose p p' → Nearer params pose (p.transforms id) (p'.transforms id) := by
  refine ⟨fun synthSlot now poll => ?_, fun p' hrun => run_nearer h hpose hrun⟩
  obtain ⟨tf', heq, hpoll, hrate, hblended⟩ := poseUpdate_eq params pose h synthSlot now poll
  have hentry : (p.setTransform id tf').transforms id = tf' := Function.update_self ..
  refine ⟨_, _, blendWeight params p.qpcFreq (p.transforms id) tf' poll, heq, ?_, ?_, ?_, ?_,
    AlignmentSpeedParams.lerp_nonneg .., AlignmentSpeedParams.lerp_le_one .., ?_, ?_⟩
  · rw [hentry, hpoll]
  · rw [hentry, hrate]
  · intro hfreq
    rw [hentry, blendWeight, AlignmentSpeedParams.lerp_eq_clamp hfreq]
  · intro hfreq
    rw [hentry, blendWeight, hfreq, AlignmentSpeedParams.lerp_zero_freq]
  · rw [ApplyIso_position hblended.blending.transform (hpose.scaled _),
      ← hblended.position]
    rfl
  · rw [hentry]
    exact hblended.rotation

end Runs

/-! ## Halfway -/

/-- All speeds are one. -/
noncomputable def unitSpeeds : AlignmentSpeedParams := ⟨0, 0, 0, 0, 1, 1, 1⟩

/-- A device whose target is a meter away. -/
noncomputable def meterAway : IsoEntry where
  enabled := true
  quash := false
  prevQuash := false
  transform := ⟨0, 1⟩
  targetTransform := ⟨![1, 0, 0], 1⟩
  scale := 1
  lastPoll := 0
  currentRate := .TINY
  fallbackActive := false
  recalibrateOnMovement := false
  blendMotionInitialized := false

/-- A clock of ten ticks a second. -/
noncomputable def meterAwayProvider : IsoProvider where
  transforms _ := meterAway
  deviceSystem _ := []
  lookupState _ := .NotTried
  lastLookupAttempt _ := 0
  systemFallbacks _ := ⟨fun _ => 0, ⟨false, ⟨0, 1⟩, 1, false⟩, false⟩
  qpcFreq := 10

theorem meterAway_blending : Blending meterAway := ⟨rfl, rfl, map_one _, map_one _⟩

theorem restingPose_unit : UnitPose restingPose := ⟨map_one _, map_one _⟩

theorem unitSpeeds_rate (rate : DeltaSize) : unitSpeeds.GetTransformRate rate = 1 := by
  cases rate <;> rfl

/-- Half a second later the device is half a meter on its way. -/
theorem blend_exact_halfway :
    ∃ p' out, meterAwayProvider.handleDevicePoseUpdated (isoMath unitSpeeds 10) 0 restingPose false
        5 5 = (p', some out) ∧
      (toIsoPose out).translation = ![1 / 2, 0, 0] ∧ rotationError (p'.transforms 0) = 0 := by
  obtain ⟨hupdate, -⟩ := @blend_exact unitSpeeds restingPose meterAwayProvider 0
    meterAway_blending restingPose_unit
  obtain ⟨p', out, l, heq, -, -, hl, -, -, -, hposition, hrotation⟩ := hupdate false 5 5
  have hhalf : l = 1 / 2 := by
    have hclamp := hl (by decide)
    rw [unitSpeeds_rate] at hclamp
    rw [hclamp]
    norm_num [meterAwayProvider, meterAway]
  have hpoint : devicePoint meterAway restingPose = 0 := by
    simp [devicePoint, scaledPose, toIsoPose, toIsoWorldTransform, IsoTransform.mul, restingPose]
  refine ⟨p', out, heq, ?_, ?_⟩
  · rw [hposition, hhalf]
    show (1 - 1 / 2 : ℝ) • meterAway.transform.apply (devicePoint meterAway restingPose) +
      (1 / 2 : ℝ) • meterAway.targetTransform.apply (devicePoint meterAway restingPose) = _
    rw [hpoint]
    simp [IsoTransform.apply, meterAway]
  · rw [hrotation]
    show (1 - l) * rotationAngle 1 1 = 0
    rw [rotationAngle_self (map_one _), mul_zero]

end WKPairDriver.Driver
