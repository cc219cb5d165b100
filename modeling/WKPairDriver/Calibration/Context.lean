import Mathlib
import WKPairDriver.Lib.BinaryFloat
import WKPairDriver.Driver.SynthTiming

/-!
# What a calibration profile is about: `CalibrationContext`

The fields of the context that a profile stores, and the operations that reset some of them.
Doubles are rationals; a `float` is a number of `binary32`.

* `CalibrationContext.resetConfig` — the defaults that a load starts from.
* `clear`, `clearRuntimeCalibrationForRecovery` — both leave an invalid profile.
-/

set_option autoImplicit false

namespace WKPairDriver.Calibration

open Lib.BinaryFloat HeadMount

/-- A `float`. -/
abbrev F32 := binary32.Number

/-- A literal or a cast. -/
def toFloat (x : ℚ) : F32 := binary32.narrow x

/-- A cast of a double to an `int`. -/
def toInt (x : ℚ) : ℤ := x.num.tdiv x.den

@[simp] theorem toInt_intCast (n : ℤ) : toInt (n : ℚ) = n := by
  simp [toInt]

/-! ## Geometry -/

structure Vector3d where
  x : ℚ
  y : ℚ
  z : ℚ
deriving DecidableEq

def Vector3d.Zero : Vector3d := ⟨0, 0, 0⟩

structure Quaterniond where
  w : ℚ
  x : ℚ
  y : ℚ
  z : ℚ
deriving DecidableEq

abbrev Matrix3d := Matrix (Fin 3) (Fin 3) ℚ

structure AffineCompact3d where
  linear : Matrix3d
  translation : Vector3d
deriving DecidableEq

def AffineCompact3d.Identity : AffineCompact3d := ⟨1, .Zero⟩

/-- The functions of Eigen: the quaternion of the rotation part of a transform, the normalized
    quaternion and its matrix, and the product of three rotations about the axes. -/
structure Eigen where
  rotation : AffineCompact3d → Quaterniond
  normalize : Quaterniond → Quaterniond
  toRotationMatrix : Quaterniond → Matrix3d
  angleAxisXYZ : Vector3d → Matrix3d

/-- A transform as it is stored. -/
def Eigen.storedRotation (e : Eigen) (T : AffineCompact3d) : Quaterniond := e.normalize (e.rotation T)

/-- The transform with this rotation, which a load normalizes once more. -/
def Eigen.loadedTransform (e : Eigen) (q : Quaterniond) (t : Vector3d) : AffineCompact3d :=
  ⟨e.toRotationMatrix (e.normalize q), t⟩

/-- A transform up to the normalization of its quaternion. -/
def Eigen.normalized (e : Eigen) (T : AffineCompact3d) : AffineCompact3d :=
  e.loadedTransform (e.storedRotation T) T.translation

/-- The constant of Eigen's macro, in any field. -/
def EIGEN_PI {K : Type} [Field K] : K := 3.14159265358979323846

/-! ## The parts of the context -/

inductive CalibrationState where
  | None
  | Begin
  | Rotation
  | Translation
  | Editing
  | Continuous
  | ContinuousStandby
deriving DecidableEq

structure StandbyDevice where
  trackingSystem : String
  model : String
  serial : String
deriving DecidableEq

def StandbyDevice.new : StandbyDevice := ⟨"", "", ""⟩

/-- What a profile keeps of an additional calibration. -/
structure AdditionalCalibration where
  targetTrackingSystem : String
  targetStandby : StandbyDevice
  calibratedRotation : Vector3d
  calibratedTranslation : Vector3d
  calibratedScale : ℚ
  lockMode : ℤ
  valid : Bool
  enabled : Bool
deriving DecidableEq

def AdditionalCalibration.new : AdditionalCalibration where
  targetTrackingSystem := ""
  targetStandby := .new
  calibratedRotation := .Zero
  calibratedTranslation := .Zero
  calibratedScale := 1
  lockMode := 2
  valid := false
  enabled := true

inductive HeadMountMode where
  | Off
  | AutoPaired
  | Corroborate
  | DriverSynth
deriving DecidableEq

def HeadMountMode.toInt : HeadMountMode → ℤ
  | .Off => 0
  | .AutoPaired => 1
  | .Corroborate => 2
  | .DriverSynth => 3

def HeadMountMode.ofInt? : ℤ → Option HeadMountMode
  | 0 => some .Off
  | 1 => some .AutoPaired
  | 2 => some .Corroborate
  | 3 => some .DriverSynth
  | _ => none

@[simp] theorem HeadMountMode.ofInt?_toInt (m : HeadMountMode) : ofInt? m.toInt = some m := by
  cases m <;> rfl

structure HeadMountConfig where
  mode : HeadMountMode
  trackerSerial : String
  trackerModel : String
  trackerTrackingSystem : String
  headFromTracker : AffineCompact3d
  hideTracker : Bool
  offsetCalibrated : Bool
  autoCorrectOffset : Bool
  driverSynthTiming : DriverSynthTimingConfig
deriving DecidableEq

def HeadMountConfig.new : HeadMountConfig where
  mode := .Off
  trackerSerial := ""
  trackerModel := ""
  trackerTrackingSystem := ""
  headFromTracker := .Identity
  hideTracker := true
  offsetCalibrated := false
  autoCorrectOffset := true
  driverSynthTiming := {}

structure BoundaryVertex where
  x : ℚ
  y : ℚ
  z : ℚ
deriving DecidableEq

def BoundaryVertex.new : BoundaryVertex := ⟨0, 0, 0⟩

structure BoundaryConfig where
  enabled : Bool
  vertices : List BoundaryVertex
  floorY : ℚ
  ceilingY : ℚ
  standingSpace : Bool
  priorChaperone : List UInt8
  priorChaperoneCaptured : Bool
deriving DecidableEq

def BoundaryConfig.new : BoundaryConfig where
  enabled := false
  vertices := []
  floorY := 0
  ceilingY := 2.5
  standingSpace := true
  priorChaperone := []
  priorChaperoneCaptured := false

/-- Four corners of three floats. -/
abbrev HmdQuad_t := Fin 12 → F32

structure Chaperone where
  valid : Bool
  autoApply : Bool
  geometry : List HmdQuad_t
  /-- Three rows of four floats. -/
  standingCenter : Fin 12 → F32
  playSpaceSize : Fin 2 → F32
deriving DecidableEq

def Chaperone.new : Chaperone where
  valid := false
  autoApply := true
  geometry := []
  standingCenter := fun i => if i = 0 ∨ i = 5 ∨ i = 10 then toFloat 1 else toFloat 0
  playSpaceSize := fun _ => toFloat 0

inductive LockMode where
  | OFF
  | ON
  | AUTO
deriving DecidableEq

def LockMode.toInt : LockMode → ℤ
  | .OFF => 0
  | .ON => 1
  | .AUTO => 2

def LockMode.ofInt? : ℤ → Option LockMode
  | 0 => some .OFF
  | 1 => some .ON
  | 2 => some .AUTO
  | _ => none

@[simp] theorem LockMode.ofInt?_toInt (m : LockMode) : ofInt? m.toInt = some m := by
  cases m <;> rfl

inductive Speed where
  | FAST
  | SLOW
  | VERY_SLOW
  | AUTO
deriving DecidableEq

def Speed.toInt : Speed → ℤ
  | .FAST => 0
  | .SLOW => 1
  | .VERY_SLOW => 2
  | .AUTO => 3

def Speed.ofInt? : ℤ → Option Speed
  | 0 => some .FAST
  | 1 => some .SLOW
  | 2 => some .VERY_SLOW
  | 3 => some .AUTO
  | _ => none

@[simp] theorem Speed.ofInt?_toInt (s : Speed) : ofInt? s.toInt = some s := by
  cases s <;> rfl

/-- The fields of `protocol::AlignmentSpeedParams`. -/
inductive AlignmentParam where
  | align_speed_tiny
  | align_speed_small
  | align_speed_large
  | thr_trans_tiny
  | thr_trans_small
  | thr_trans_large
  | thr_rot_tiny
  | thr_rot_small
  | thr_rot_large
  | slew_stationary_pos_rate
  | slew_stationary_rot_rate
  | slew_moving_pos_rate
  | slew_moving_rot_rate
deriving DecidableEq

abbrev AlignmentSpeedParams := AlignmentParam → ℚ

/-- Degrees to radians: `EIGEN_PI / 180.0f`. -/
def radPerDeg : ℚ := binary64.round (binary64.round 3.141592653589793238462643383279502884 / 180.0)

/-- The defaults, floats times or over doubles. -/
def AlignmentSpeedParams.default : AlignmentSpeedParams
  | .thr_rot_tiny => binary64.round ((toFloat 0.49).val * radPerDeg)
  | .thr_rot_small => binary64.round ((toFloat 0.5).val * radPerDeg)
  | .thr_rot_large => binary64.round ((toFloat 5).val * radPerDeg)
  | .thr_trans_tiny => binary64.round ((toFloat 0.98).val / 1000.0)
  | .thr_trans_small => binary64.round ((toFloat 1).val / 1000.0)
  | .thr_trans_large => binary64.round ((toFloat 20).val / 1000.0)
  | .align_speed_tiny => 1
  | .align_speed_small => 1
  | .align_speed_large => 2.0
  | .slew_stationary_pos_rate => binary64.round 0.0005
  | .slew_stationary_rot_rate => binary64.round 0.000873
  | .slew_moving_pos_rate => binary64.round 0.010
  | .slew_moving_rot_rate => binary64.round 0.01745

/-! ## The context -/

structure CalibrationContext where
  state : CalibrationState
  validProfile : Bool
  referenceTrackingSystem : String
  targetTrackingSystem : String
  referenceStandby : StandbyDevice
  targetStandby : StandbyDevice
  calibratedRotation : Vector3d
  calibratedTranslation : Vector3d
  calibratedScale : ℚ
  floorOffsetMetersY : ℚ
  floorEnabled : Bool
  continuousCalibrationOffset : Vector3d
  alignmentSpeedParams : AlignmentSpeedParams
  continuousCalibrationThreshold : F32
  maxRelativeErrorThreshold : F32
  jitterThreshold : F32
  quashTargetInContinuous : Bool
  requireTriggerPressToApply : Bool
  ignoreOutliers : Bool
  enableStaticRecalibration : Bool
  recalibrateOnMovement : Bool
  baseStationDriftCorrectionEnabled : Bool
  oneShotCalibrationSpeed : Speed
  continuousCalibrationSpeed : Speed
  lockRelativePositionMode : LockMode
  relativePosCalibrated : Bool
  refToTargetPose : AffineCompact3d
  chaperone : Chaperone
  additionalCalibrations : List AdditionalCalibration
  wizardCompleted : Bool
  headMount : HeadMountConfig
  boundary : BoundaryConfig

namespace CalibrationContext

/-- A new context; its rotation and translation are not initialized. -/
def new : CalibrationContext where
  state := .None
  validProfile := false
  referenceTrackingSystem := ""
  targetTrackingSystem := ""
  referenceStandby := .new
  targetStandby := .new
  calibratedRotation := .Zero
  calibratedTranslation := .Zero
  calibratedScale := 1
  floorOffsetMetersY := 0
  floorEnabled := false
  continuousCalibrationOffset := .Zero
  alignmentSpeedParams := .default
  continuousCalibrationThreshold := toFloat 1.5
  maxRelativeErrorThreshold := toFloat 0.005
  jitterThreshold := toFloat 3
  quashTargetInContinuous := true
  requireTriggerPressToApply := false
  ignoreOutliers := true
  enableStaticRecalibration := true
  recalibrateOnMovement := true
  baseStationDriftCorrectionEnabled := true
  oneShotCalibrationSpeed := .FAST
  continuousCalibrationSpeed := .AUTO
  lockRelativePositionMode := .AUTO
  relativePosCalibrated := false
  refToTargetPose := .Identity
  chaperone := .new
  additionalCalibrations := []
  wizardCompleted := false
  headMount := .new
  boundary := .new

variable (ctx : CalibrationContext)

def resetConfig : CalibrationContext :=
  { ctx with
    alignmentSpeedParams := .default
    continuousCalibrationThreshold := toFloat 1.5
    maxRelativeErrorThreshold := toFloat 0.005
    jitterThreshold := toFloat 3
    continuousCalibrationOffset := .Zero
    enableStaticRecalibration := true
    baseStationDriftCorrectionEnabled := true }

/-- `Clear`; it leaves what was on the stack in the rotation and the translation. -/
def clear (rotation translation : Vector3d) : CalibrationContext :=
  { ctx with
    chaperone :=
      { ctx.chaperone with
        geometry := []
        standingCenter := fun _ => toFloat 0
        playSpaceSize := fun _ => toFloat 0
        valid := false }
    calibratedRotation := rotation
    calibratedTranslation := translation
    calibratedScale := 1
    referenceTrackingSystem := ""
    targetTrackingSystem := ""
    validProfile := false
    refToTargetPose := .Identity
    recalibrateOnMovement := true
    relativePosCalibrated := false
    continuousCalibrationOffset := .Zero }

def clearRuntimeCalibrationForRecovery : CalibrationContext :=
  { ctx with
    validProfile := false
    refToTargetPose := .Identity
    relativePosCalibrated := false
    calibratedTranslation := .Zero
    calibratedRotation := .Zero }

end CalibrationContext

end WKPairDriver.Calibration
