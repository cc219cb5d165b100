import Mathlib
import WKPairDriver.Lib.Json
import WKPairDriver.Calibration.Context

/-!
# Writing a profile

`WriteProfile` and its helpers.  Calibration data is always written, a setting only when it differs
from its default, a section only when it is active.

* `profileObject` — the object of a valid profile.
* `writeProfile` — its text; nothing for an invalid one.
* `hexToBytes_bytesToHex` — the bytes behind their hexadecimal digits.
-/

set_option autoImplicit false

namespace WKPairDriver.Calibration

open Lib.Json HeadMount

/-- picojson: the text of a value, the value of a text, and a short text for error messages. -/
structure Picojson where
  serialize : Value → String
  parse : String → Except String Value
  to_str : Value → String

def kProfileSchemaVersion : ℤ := 5

/-! ## Arrays, devices and sections -/

def floatArray {n : ℕ} (buf : Fin n → F32) : Value :=
  .array (List.ofFn fun i => .number (buf i).val)

/-- The floats of all quads, one after the other. -/
def geometryArray (geometry : List HmdQuad_t) : Value :=
  .array (geometry.flatMap fun quad => List.ofFn fun i => .number (quad i).val)

def writeStandby (device : StandbyDevice) : Value :=
  .object (Object.empty
    |>.set "tracking_system" (.string device.trackingSystem)
    |>.set "model" (.string device.model)
    |>.set "serial" (.string device.serial))

/-- The key of a field is its name. -/
def AlignmentParam.key : AlignmentParam → String
  | .align_speed_tiny => "align_speed_tiny"
  | .align_speed_small => "align_speed_small"
  | .align_speed_large => "align_speed_large"
  | .thr_trans_tiny => "thr_trans_tiny"
  | .thr_trans_small => "thr_trans_small"
  | .thr_trans_large => "thr_trans_large"
  | .thr_rot_tiny => "thr_rot_tiny"
  | .thr_rot_small => "thr_rot_small"
  | .thr_rot_large => "thr_rot_large"
  | .slew_stationary_pos_rate => "slew_stationary_pos_rate"
  | .slew_stationary_rot_rate => "slew_stationary_rot_rate"
  | .slew_moving_pos_rate => "slew_moving_pos_rate"
  | .slew_moving_rot_rate => "slew_moving_rot_rate"

/-- The order in which `VisitAlignmentParams` takes them. -/
def AlignmentParam.all : List AlignmentParam :=
  [.align_speed_tiny, .align_speed_small, .align_speed_large, .thr_trans_tiny, .thr_trans_small,
    .thr_trans_large, .thr_rot_tiny, .thr_rot_small, .thr_rot_large, .slew_stationary_pos_rate,
    .slew_stationary_rot_rate, .slew_moving_pos_rate, .slew_moving_rot_rate]

def saveAlignmentParams (ctx : CalibrationContext) : Object :=
  (AlignmentParam.all.foldl (fun o p => o.set p.key (.number (ctx.alignmentSpeedParams p)))
      Object.empty).set
    "continuousCalibrationThreshold" (.number ctx.continuousCalibrationThreshold.val)

/-! ## Hexadecimal digits -/

def hexDigit (n : ℕ) : Char := "0123456789abcdef".toList.getD n '0'

def bytesToHex (bytes : List UInt8) : String :=
  String.ofList (bytes.flatMap fun b => [hexDigit (b.toNat / 16), hexDigit (b.toNat % 16)])

def hval (c : Char) : Option ℕ :=
  if '0' ≤ c ∧ c ≤ '9' then some (c.toNat - '0'.toNat)
  else if 'a' ≤ c ∧ c ≤ 'f' then some (c.toNat - 'a'.toNat + 10)
  else if 'A' ≤ c ∧ c ≤ 'F' then some (c.toNat - 'A'.toNat + 10)
  else none

/-- Two characters at a time; a pair with a character that is not a digit is skipped. -/
def hexPairs : List Char → List UInt8
  | c :: d :: cs =>
    match hval c, hval d with
    | some hi, some lo => UInt8.ofNat (hi * 16 + lo) :: hexPairs cs
    | _, _ => hexPairs cs
  | _ => []

def hexToBytes (hex : String) : List UInt8 := hexPairs hex.toList

theorem hval_hexDigit : ∀ n < 16, hval (hexDigit n) = some n := by
  decide

theorem hexToBytes_bytesToHex (bytes : List UInt8) : hexToBytes (bytesToHex bytes) = bytes := by
  rw [hexToBytes, bytesToHex, String.toList_ofList]
  induction bytes with
  | nil => rfl
  | cons b bytes ih =>
    have hlt : b.toNat < 256 := b.toNat_lt
    have hhi := hval_hexDigit (b.toNat / 16) (by omega)
    have hlo := hval_hexDigit (b.toNat % 16) (by omega)
    have hb : b.toNat / 16 * 16 + b.toNat % 16 = b.toNat := by omega
    simp only [List.flatMap_cons, List.cons_append, List.nil_append, hexPairs, hhi, hlo, hb, ih,
      UInt8.ofNat_toNat]

/-! ## Sections -/

def transformObject (q : Quaterniond) (t : Vector3d) : Value :=
  .object (Object.empty
    |>.set "translation" (.array [.number t.x, .number t.y, .number t.z])
    |>.set "rotation" (.array [.number q.x, .number q.y, .number q.z, .number q.w]))

def saveHeadMount (e : Eigen) (hm : HeadMountConfig) : Object :=
  let timing := clampDriverSynthTimingConfig hm.driverSynthTiming
  Object.empty
    |>.set "mode" (.number hm.mode.toInt)
    |>.set "tracker_serial" (.string hm.trackerSerial)
    |>.set "tracker_model" (.string hm.trackerModel)
    |>.set "tracker_tracking_system" (.string hm.trackerTrackingSystem)
    |>.set "hide_tracker" (.bool hm.hideTracker)
    |>.set "offset_calibrated" (.bool hm.offsetCalibrated)
    |>.set "auto_correct_offset" (.bool hm.autoCorrectOffset)
    |>.set "driver_synth_stale_limit_ms" (.number timing.staleLimitMs)
    |>.set "driver_synth_grace_hold_ms" (.number timing.graceHoldMs)
    |>.set "driver_synth_blend_to_fallback_ms" (.number timing.blendToFallbackMs)
    |>.set "driver_synth_stable_before_synth_ms" (.number timing.stableBeforeSynthMs)
    |>.set "driver_synth_blend_to_synth_ms" (.number timing.blendToSynthMs)
    |>.set "head_from_tracker"
      (transformObject (e.storedRotation hm.headFromTracker) hm.headFromTracker.translation)

def vertexValue (bv : BoundaryVertex) : Value :=
  .object (Object.empty
    |>.set "x" (.number bv.x)
    |>.set "y" (.number bv.y)
    |>.set "z" (.number bv.z))

def saveBoundary (bc : BoundaryConfig) : Object :=
  Object.empty
    |>.set "enabled" (.bool bc.enabled)
    |>.set "floor_y" (.number bc.floorY)
    |>.set "ceiling_y" (.number bc.ceilingY)
    |>.set "standing_space" (.bool bc.standingSpace)
    |>.set "prior_chaperone_captured" (.bool bc.priorChaperoneCaptured)
    |>.set "prior_chaperone" (.string (bytesToHex bc.priorChaperone))
    |>.set "vertices" (.array (bc.vertices.map vertexValue))

def saveChaperone (c : Chaperone) : Object :=
  Object.empty
    |>.set "auto_apply" (.bool c.autoApply)
    |>.set "play_space_size" (floatArray c.playSpaceSize)
    |>.set "standing_center" (floatArray c.standingCenter)
    |>.set "geometry" (geometryArray c.geometry)

def relativeTransformObject (q : Quaterniond) (t : Vector3d) : Object :=
  Object.empty
    |>.set "x" (.number t.x)
    |>.set "y" (.number t.y)
    |>.set "z" (.number t.z)
    |>.set "quat_w" (.number q.w)
    |>.set "quat_x" (.number q.x)
    |>.set "quat_y" (.number q.y)
    |>.set "quat_z" (.number q.z)

def extraValue (extra : AdditionalCalibration) : Value :=
  .object (Object.empty
    |>.set "target_tracking_system" (.string extra.targetTrackingSystem)
    |>.set "target_device" (writeStandby extra.targetStandby)
    |>.set "roll" (.number extra.calibratedRotation.x)
    |>.set "yaw" (.number extra.calibratedRotation.y)
    |>.set "pitch" (.number extra.calibratedRotation.z)
    |>.set "x" (.number extra.calibratedTranslation.x)
    |>.set "y" (.number extra.calibratedTranslation.y)
    |>.set "z" (.number extra.calibratedTranslation.z)
    |>.set "scale" (.number extra.calibratedScale)
    |>.set "lock_mode" (.number extra.lockMode)
    |>.set "valid" (.bool extra.valid)
    |>.set "enabled" (.bool extra.enabled))

/-! ## The profile -/

def writeCalibrationData (ctx : CalibrationContext) (profile : Object) : Object :=
  profile
    |>.set "alignment_params" (.object (saveAlignmentParams ctx))
    |>.set "reference_tracking_system" (.string ctx.referenceTrackingSystem)
    |>.set "target_tracking_system" (.string ctx.targetTrackingSystem)
    |>.set "roll" (.number ctx.calibratedRotation.x)
    |>.set "yaw" (.number ctx.calibratedRotation.y)
    |>.set "pitch" (.number ctx.calibratedRotation.z)
    |>.set "x" (.number ctx.calibratedTranslation.x)
    |>.set "y" (.number ctx.calibratedTranslation.y)
    |>.set "z" (.number ctx.calibratedTranslation.z)
    |>.set "scale" (.number ctx.calibratedScale)
    |>.setIf (ctx.floorOffsetMetersY ≠ 0) "floor_offset_meters_y" (.number ctx.floorOffsetMetersY)
    |>.setIf (ctx.floorOffsetMetersY ≠ 0) "floor_enabled" (.bool ctx.floorEnabled)
    |>.set "reference_device" (writeStandby ctx.referenceStandby)
    |>.set "target_device" (writeStandby ctx.targetStandby)
    |>.set "continuous_calibration_target_offset_x" (.number ctx.continuousCalibrationOffset.x)
    |>.set "continuous_calibration_target_offset_y" (.number ctx.continuousCalibrationOffset.y)
    |>.set "continuous_calibration_target_offset_z" (.number ctx.continuousCalibrationOffset.z)

def isInContinuousCalibrationMode (ctx : CalibrationContext) : Bool :=
  ctx.state = .Continuous || ctx.state = .ContinuousStandby

/-- Settings: a field is written when it is not the one of a new context. -/
def writeSettings (ctx : CalibrationContext) (profile : Object) : Object :=
  let defaults := CalibrationContext.new
  profile
    |>.setIf (isInContinuousCalibrationMode ctx) "autostart_continuous_calibration" (.bool true)
    |>.setIf (ctx.quashTargetInContinuous ≠ defaults.quashTargetInContinuous)
      "quash_target_in_continuous" (.bool ctx.quashTargetInContinuous)
    |>.setIf (ctx.requireTriggerPressToApply ≠ defaults.requireTriggerPressToApply)
      "require_trigger_press_to_apply" (.bool ctx.requireTriggerPressToApply)
    |>.setIf (ctx.ignoreOutliers ≠ defaults.ignoreOutliers)
      "ignore_outliers" (.bool ctx.ignoreOutliers)
    |>.setIf (ctx.enableStaticRecalibration ≠ defaults.enableStaticRecalibration)
      "static_calibration" (.bool ctx.enableStaticRecalibration)
    |>.setIf (ctx.jitterThreshold ≠ defaults.jitterThreshold)
      "jitter_threshold" (.number ctx.jitterThreshold.val)
    |>.setIf (ctx.maxRelativeErrorThreshold ≠ defaults.maxRelativeErrorThreshold)
      "max_relative_error_threshold" (.number ctx.maxRelativeErrorThreshold.val)
    |>.setIf (ctx.recalibrateOnMovement ≠ defaults.recalibrateOnMovement)
      "recalibrate_on_movement" (.bool ctx.recalibrateOnMovement)
    |>.setIf (ctx.baseStationDriftCorrectionEnabled ≠ defaults.baseStationDriftCorrectionEnabled)
      "base_station_drift_correction" (.bool ctx.baseStationDriftCorrectionEnabled)
    |>.setIf (ctx.oneShotCalibrationSpeed ≠ defaults.oneShotCalibrationSpeed)
      "one_shot_calibration_speed" (.number ctx.oneShotCalibrationSpeed.toInt)
    |>.setIf (ctx.continuousCalibrationSpeed ≠ defaults.continuousCalibrationSpeed)
      "continuous_calibration_speed" (.number ctx.continuousCalibrationSpeed.toInt)

/-- The head-mounted tracker is written. -/
def headMountActive (hm : HeadMountConfig) : Bool :=
  hm.mode ≠ .Off || hm.trackerSerial ≠ "" || hm.offsetCalibrated || !hm.autoCorrectOffset ||
    !driverSynthTimingIsDefault hm.driverSynthTiming

/-- The boundary is written. -/
def boundaryActive (bc : BoundaryConfig) : Bool :=
  bc.enabled || bc.priorChaperoneCaptured || bc.vertices ≠ []

def writeSections (e : Eigen) (ctx : CalibrationContext) (profile : Object) : Object :=
  let defaults := CalibrationContext.new
  profile
    |>.setIf ctx.chaperone.valid "chaperone" (.object (saveChaperone ctx.chaperone))
    |>.set "relative_pos_calibrated" (.bool ctx.relativePosCalibrated)
    |>.setIf (ctx.lockRelativePositionMode ≠ defaults.lockRelativePositionMode)
      "lock_relative_position_mode" (.number ctx.lockRelativePositionMode.toInt)
    |>.set "relative_transform" (.object (relativeTransformObject
      (e.storedRotation ctx.refToTargetPose) ctx.refToTargetPose.translation))
    |>.setIf (ctx.additionalCalibrations ≠ []) "additional_calibrations"
      (.array (ctx.additionalCalibrations.map extraValue))
    |>.setIf ctx.wizardCompleted "wizard_completed" (.bool true)
    |>.setIf (headMountActive ctx.headMount) "head_mount" (.object (saveHeadMount e ctx.headMount))
    |>.setIf (boundaryActive ctx.boundary) "boundary" (.object (saveBoundary ctx.boundary))

def profileObject (e : Eigen) (ctx : CalibrationContext) : Object :=
  Object.empty
    |>.set "schema_version" (.number kProfileSchemaVersion)
    |> writeCalibrationData ctx
    |> writeSettings ctx
    |> writeSections e ctx

def profileValue (e : Eigen) (ctx : CalibrationContext) : Value :=
  .array [.object (profileObject e ctx)]

/-- `WriteProfile`; an invalid profile leaves the stream empty. -/
def writeProfile (json : Picojson) (e : Eigen) (ctx : CalibrationContext) : String :=
  if ctx.validProfile then json.serialize (profileValue e ctx) else ""

end WKPairDriver.Calibration
