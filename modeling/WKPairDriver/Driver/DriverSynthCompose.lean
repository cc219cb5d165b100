import Mathlib
import WKPairDriver.Lib.RigidMotion
import WKPairDriver.Driver.ReportedPose

/-!
# Composing a head pose from a tracker pose

`Compose` takes a tracker pose that is already calibrated and replaces its driver-from-head
transform by the offset of the head from the tracker.

* `ApplyTransform` — the calibration of a pose; `devicePose_ApplyTransform`.
* `Compose_isSome_iff` — the gates; `reportedPose_Compose` is the pose behind them.
-/

set_option autoImplicit false

namespace WKPairDriver.Driver

open Lib SourceBlend HeadMount Quaternion

/-- `double[4]` in the order the headset's offset is sent in. -/
structure Xyzw where
  x : ℝ
  y : ℝ
  z : ℝ
  w : ℝ

structure SynthState where
  mode : ℤ
  deviceId : ℤ
  headFromTrackerTrans : Fin 3 → ℝ
  headFromTrackerRot : Xyzw
  offsetCalibrated : Bool

/-- `capturedAt` is in nanoseconds. -/
structure TrackerSnapshot where
  pose : DriverPose_t
  capturedAt : ℤ
  capturedForDeviceId : ℤ
  valid : Bool

/-- `HeadMountMode::DriverSynth` -/
def kDriverSynth : ℤ := 3

def IsTrackerFresh (snap : TrackerSnapshot) (now staleLimitMs : ℤ) : Bool :=
  if !snap.valid then false
  else if !snap.pose.poseIsValid then false
  else decide ((now - snap.capturedAt).tdiv (10 ^ 6) ≤ staleLimitMs)

def Compose (state : SynthState) (trackerSnap : TrackerSnapshot) (now : ℤ)
    (config : DriverSynthTimingConfig) : Option DriverPose_t :=
  if state.mode ≠ kDriverSynth then none
  else if state.deviceId < 0 then none
  else if !state.offsetCalibrated then none
  else
    let timing := clampDriverSynthTimingConfig config
    if !IsTrackerFresh trackerSnap now timing.staleLimitMs then none
    else if trackerSnap.capturedForDeviceId ≠ state.deviceId then none
    else
      let r := state.headFromTrackerRot
      some
        { trackerSnap.pose with
          qDriverFromHeadRotation := quat r.w r.x r.y r.z
          vecDriverFromHeadTranslation := state.headFromTrackerTrans }

/-- The calibration of a pose, by the transform of its device. -/
noncomputable def ApplyTransform (transform : RigidMotion ℝ) (devicePose : DriverPose_t) :
    DriverPose_t :=
  { devicePose with
    qWorldFromDriverRotation :=
      normalized (transform.rotation * devicePose.qWorldFromDriverRotation)
    vecWorldFromDriverTranslation := transform.translation +
      rotate transform.rotation devicePose.vecWorldFromDriverTranslation }

/-- The pose of the device itself, before driver-from-head. -/
def devicePose (p : DriverPose_t) (v : Fin 3 → ℝ) : Fin 3 → ℝ :=
  motion p.qWorldFromDriverRotation p.vecWorldFromDriverTranslation
    (motion p.qRotation p.vecPosition v)

theorem devicePose_ApplyTransform (c : RigidMotion ℝ) {p : DriverPose_t} (h : Rigid p)
    (v : Fin 3 → ℝ) : devicePose (ApplyTransform c p) v = c.affine.apply (devicePose p v) := by
  have hunit : normSq (c.rotation * p.qWorldFromDriverRotation) = 1 := by
    rw [map_mul, c.unit, h.world, one_mul]
  simp only [devicePose, ApplyTransform, RigidMotion.apply_affine, motion,
    normalized_of_unit hunit, rotate_add, ← rotate_rotate c.unit h.world]
  abel

/-- A tracker that may drive the head is there. -/
structure Ready (state : SynthState) (trackerSnap : TrackerSnapshot) (now : ℤ)
    (config : DriverSynthTimingConfig) : Prop where
  mode : state.mode = kDriverSynth
  device : 0 ≤ state.deviceId
  offset : state.offsetCalibrated = true
  fresh : IsTrackerFresh trackerSnap now (clampDriverSynthTimingConfig config).staleLimitMs = true
  captured : trackerSnap.capturedForDeviceId = state.deviceId

variable {state : SynthState} {trackerSnap : TrackerSnapshot} {now : ℤ}
  {config : DriverSynthTimingConfig}

theorem Compose_isSome_iff :
    (Compose state trackerSnap now config).isSome ↔ Ready state trackerSnap now config := by
  constructor
  · intro h
    constructor <;> by_contra hgate
    case mode => simp [Compose, hgate] at h
    case device => simp [Compose, not_le.1 hgate] at h
    case offset => simp [Compose, Bool.eq_false_iff.2 hgate] at h
    case fresh => simp [Compose, Bool.eq_false_iff.2 hgate] at h
    case captured => simp [Compose, hgate] at h
  · intro h
    simp only [Compose, h.mode, ne_eq, not_true, if_false, not_lt.2 h.device, h.offset, h.fresh,
      h.captured, Bool.not_true, Bool.false_eq_true, Option.isSome_some]

/-- The composed pose is the device's own, carried on by the offset. -/
theorem reportedPose_Compose {out : DriverPose_t}
    (h : Compose state trackerSnap now config = some out) (v : Fin 3 → ℝ) :
    reportedPose out v =
      devicePose trackerSnap.pose
        (motion (quat state.headFromTrackerRot.w state.headFromTrackerRot.x
          state.headFromTrackerRot.y state.headFromTrackerRot.z) state.headFromTrackerTrans v) := by
  simp only [Compose] at h
  split_ifs at h
  cases h
  rfl

end WKPairDriver.Driver
