import Mathlib
import WKPairDriver.Lib.Json
import WKPairDriver.Calibration.Context
import WKPairDriver.Calibration.WriteProfile

/-!
# Parsing a profile

`ParseProfile` and its helpers, as a list of statements on the context: each takes effect before
the next, and the first that throws ends the list.

* `Statement.run` — what a list of statements does.
* `parseStatements` — the statements behind the check of the schema version.
* `parseProfile` — all of it, on the text of a profile.
-/

set_option autoImplicit false

namespace WKPairDriver.Calibration

open Lib.Json HeadMount

/-! ## Statements -/

/-- A statement throws, or not, and leaves a context in either case. -/
abbrev Statement := CalibrationContext → Except String Unit × CalibrationContext

namespace Statement

/-- A statement that cannot throw. -/
def update (f : CalibrationContext → CalibrationContext) : Statement := fun ctx => (.ok (), f ctx)

/-- An assignment of something that may throw. -/
def assign {α : Type} (v : Except String α) (f : α → CalibrationContext → CalibrationContext) :
    Statement := fun ctx =>
  match v with
  | .ok a => (.ok (), f a ctx)
  | .error e => (.error e, ctx)

def run : List Statement → Statement
  | [], ctx => (.ok (), ctx)
  | s :: ss, ctx =>
    match s ctx with
    | (.ok (), ctx) => run ss ctx
    | (.error e, ctx) => (.error e, ctx)

variable (ss ts : List Statement) (ctx : CalibrationContext)

@[simp] theorem run_nil : run [] ctx = (.ok (), ctx) := rfl

@[simp] theorem run_update (f : CalibrationContext → CalibrationContext) :
    run (update f :: ss) ctx = run ss (f ctx) :=
  rfl

@[simp] theorem run_assign_ok {α : Type} (a : α)
    (f : α → CalibrationContext → CalibrationContext) :
    run (assign (.ok a) f :: ss) ctx = run ss (f a ctx) :=
  rfl

theorem run_append : run (ss ++ ts) ctx =
    match run ss ctx with
    | (.ok (), ctx) => run ts ctx
    | (.error e, ctx) => (.error e, ctx) := by
  induction ss generalizing ctx with
  | nil => rfl
  | cons s ss ih =>
    simp only [List.cons_append, run]
    rcases s ctx with ⟨_ | _, ctx'⟩
    · rfl
    · exact ih ctx'

theorem run_append_of_ok {ctx' : CalibrationContext} (h : run ss ctx = (.ok (), ctx')) :
    run (ss ++ ts) ctx = run ts ctx' := by
  rw [run_append, h]

end Statement

/-- What picojson throws at an access to a value of another type. -/
def typeMismatch (type : String) : String :=
  "\"type mismatch! call is<type>() before get<type>()\" && is<" ++ type ++ ">()"

def getDouble (v : Value) : Except String ℚ := Value.get (typeMismatch "double") v.number?

def getString (v : Value) : Except String String := Value.get (typeMismatch "std::string") v.string?

def getBool (v : Value) : Except String Bool := Value.get (typeMismatch "bool") v.bool?

def getArray (v : Value) : Except String (List Value) := Value.get (typeMismatch "array") v.array?

def getObject (v : Value) : Except String Object := Value.get (typeMismatch "object") v.object?

/-! ## Migration -/

def migrateSlow (profile : Object) : Object :=
  match (profile.find? "calibration_speed").bind Value.number? with
  | some x => if toInt x = 1 then profile.set "calibration_speed" (.number 3.0) else profile
  | none => profile

/-- `MigrateProfile`, `2 -> 5`: one speed becomes two. -/
def splitSpeed (profile : Object) : Object :=
  match (profile.find? "calibration_speed").bind Value.number? with
  | some x =>
    let raw := toInt x
    let valid : Bool := 0 ≤ raw ∧ raw ≤ 3
    let oneShot : ℤ := if !valid ∨ raw = 3 then 0 else raw
    let continuous : ℤ := if valid ∧ (raw = 1 ∨ raw = 2) then raw else 3
    let profile := profile.setIf (profile.find? "one_shot_calibration_speed").isNone
      "one_shot_calibration_speed" (.number oneShot)
    profile.setIf (profile.find? "continuous_calibration_speed").isNone
      "continuous_calibration_speed" (.number continuous)
  | none => profile

def migrateProfile (from_version : ℤ) (profile : Object) : Object :=
  let profile :=
    if from_version < 2 then (migrateSlow profile).erase "auto_suppress_on_external_tool"
    else profile
  if from_version < 5 then splitSpeed profile else profile

/-! ## Devices and sections -/

def loadStandby (device : StandbyDevice) (value : Value) : StandbyDevice :=
  match value.object? with
  | none => device
  | some obj =>
    { trackingSystem := (obj.item "tracking_system").string?.getD device.trackingSystem
      model := (obj.item "model").string?.getD device.model
      serial := (obj.item "serial").string?.getD device.serial }

def loadAlignmentParams (value : Value) (ctx : CalibrationContext) : CalibrationContext :=
  let ctx := ctx.resetConfig
  match value.object? with
  | none => ctx
  | some obj =>
    { ctx with
      alignmentSpeedParams := fun p =>
        match (obj.item p.key).number? with
        | some x => (toFloat x).val
        | none => ctx.alignmentSpeedParams p
      continuousCalibrationThreshold :=
        match (obj.item "continuousCalibrationThreshold").number? with
        | some x => toFloat x
        | none => ctx.continuousCalibrationThreshold }

def vector3? (v : Value) : Option Vector3d :=
  match v.array? with
  | some [a, b, c] => do
    let x ← a.number?
    let y ← b.number?
    let z ← c.number?
    some ⟨x, y, z⟩
  | _ => none

def quaternion? (v : Value) : Option Quaterniond :=
  match v.array? with
  | some [a, b, c, d] => do
    let x ← a.number?
    let y ← b.number?
    let z ← c.number?
    let w ← d.number?
    some ⟨w, x, y, z⟩
  | _ => none

/-- `head_from_tracker`; a rotation that is not there is the identity. -/
def loadTransform (e : Eigen) (xf : Object) : AffineCompact3d :=
  let trans := (vector3? (xf.item "translation")).getD .Zero
  match quaternion? (xf.item "rotation") with
  | some q => e.loadedTransform q trans
  | none => ⟨e.toRotationMatrix ⟨1, 0, 0, 0⟩, trans⟩

def loadHeadMount (e : Eigen) (hm : HeadMountConfig) (value : Value) : HeadMountConfig :=
  match value.object? with
  | none => hm
  | some obj =>
    let ms (key : String) (old : ℤ) : ℤ := ((obj.item key).number?.map toInt).getD old
    let timing := hm.driverSynthTiming
    { mode := ((obj.item "mode").number?.bind fun x => HeadMountMode.ofInt? (toInt x)).getD hm.mode
      trackerSerial := (obj.item "tracker_serial").string?.getD hm.trackerSerial
      trackerModel := (obj.item "tracker_model").string?.getD hm.trackerModel
      trackerTrackingSystem :=
        (obj.item "tracker_tracking_system").string?.getD hm.trackerTrackingSystem
      hideTracker := (obj.item "hide_tracker").bool?.getD hm.hideTracker
      offsetCalibrated := (obj.item "offset_calibrated").bool?.getD hm.offsetCalibrated
      autoCorrectOffset := (obj.item "auto_correct_offset").bool?.getD hm.autoCorrectOffset
      driverSynthTiming := clampDriverSynthTimingConfig
        { staleLimitMs := ms "driver_synth_stale_limit_ms" timing.staleLimitMs
          graceHoldMs := ms "driver_synth_grace_hold_ms" timing.graceHoldMs
          blendToFallbackMs := ms "driver_synth_blend_to_fallback_ms" timing.blendToFallbackMs
          stableBeforeSynthMs := ms "driver_synth_stable_before_synth_ms" timing.stableBeforeSynthMs
          blendToSynthMs := ms "driver_synth_blend_to_synth_ms" timing.blendToSynthMs }
      headFromTracker :=
        match (obj.item "head_from_tracker").object? with
        | some xf => loadTransform e xf
        | none => hm.headFromTracker }

/-- A vertex that is not an object is skipped. -/
def loadVertex (v : Value) : Option BoundaryVertex :=
  v.object?.map fun vo =>
    { x := (vo.item "x").number?.getD BoundaryVertex.new.x
      y := (vo.item "y").number?.getD BoundaryVertex.new.y
      z := (vo.item "z").number?.getD BoundaryVertex.new.z }

def loadBoundary (bc : BoundaryConfig) (value : Value) : BoundaryConfig :=
  match value.object? with
  | none => bc
  | some obj =>
    { enabled := (obj.item "enabled").bool?.getD bc.enabled
      floorY := (obj.item "floor_y").number?.getD bc.floorY
      ceilingY := (obj.item "ceiling_y").number?.getD bc.ceilingY
      standingSpace := (obj.item "standing_space").bool?.getD bc.standingSpace
      priorChaperoneCaptured :=
        (obj.item "prior_chaperone_captured").bool?.getD bc.priorChaperoneCaptured
      priorChaperone :=
        ((obj.item "prior_chaperone").string?.map hexToBytes).getD bc.priorChaperone
      vertices := ((obj.item "vertices").array?.getD []).filterMap loadVertex }

/-- An entry of `additional_calibrations`; one that is not an object is skipped. -/
def loadExtra (v : Value) : Option AdditionalCalibration :=
  v.object?.map fun obj =>
    let extra := AdditionalCalibration.new
    let double (key : String) (old : ℚ) : ℚ := (obj.item key).number?.getD old
    { targetTrackingSystem :=
        (obj.item "target_tracking_system").string?.getD extra.targetTrackingSystem
      targetStandby := loadStandby extra.targetStandby (obj.item "target_device")
      calibratedRotation :=
        { x := double "roll" extra.calibratedRotation.x
          y := double "yaw" extra.calibratedRotation.y
          z := double "pitch" extra.calibratedRotation.z }
      calibratedTranslation :=
        { x := double "x" extra.calibratedTranslation.x
          y := double "y" extra.calibratedTranslation.y
          z := double "z" extra.calibratedTranslation.z }
      calibratedScale := double "scale" extra.calibratedScale
      lockMode :=
        match (obj.item "lock_mode").number? with
        | some x => if toInt x < 0 ∨ toInt x > 2 then 2 else toInt x
        | none => extra.lockMode
      valid := (obj.item "valid").bool?.getD extra.valid
      enabled := (obj.item "enabled").bool?.getD extra.enabled }

/-! ## Settings -/

def readSpeed (v : Value) (fallback : Speed) (allowAuto : Bool) : Speed :=
  match v.number? with
  | none => fallback
  | some x =>
    match Speed.ofInt? (toInt x) with
    | none => fallback
    | some s => if !allowAuto ∧ s = .AUTO then fallback else s

def loadDevices (obj : Object) (ctx : CalibrationContext) : CalibrationContext :=
  { ctx with
    referenceStandby := loadStandby ctx.referenceStandby (obj.item "reference_device")
    targetStandby := loadStandby ctx.targetStandby (obj.item "target_device")
    state :=
      if (obj.item "autostart_continuous_calibration").evaluate_as_boolean then .ContinuousStandby
      else ctx.state
    quashTargetInContinuous :=
      (obj.item "quash_target_in_continuous").bool?.getD ctx.quashTargetInContinuous
    requireTriggerPressToApply :=
      (obj.item "require_trigger_press_to_apply").bool?.getD ctx.requireTriggerPressToApply
    ignoreOutliers := (obj.item "ignore_outliers").bool?.getD ctx.ignoreOutliers }

/-- A setting that is not there keeps what `ResetConfig` made of it, or becomes its default. -/
def loadSettings (obj : Object) (ctx : CalibrationContext) : CalibrationContext :=
  { ctx with
    enableStaticRecalibration :=
      (obj.item "static_calibration").bool?.getD ctx.enableStaticRecalibration
    jitterThreshold := ((obj.item "jitter_threshold").number?.map toFloat).getD ctx.jitterThreshold
    maxRelativeErrorThreshold :=
      ((obj.item "max_relative_error_threshold").number?.map toFloat).getD
        ctx.maxRelativeErrorThreshold
    recalibrateOnMovement := (obj.item "recalibrate_on_movement").bool?.getD true
    baseStationDriftCorrectionEnabled :=
      (obj.item "base_station_drift_correction").bool?.getD true
    calibratedScale := (obj.item "scale").number?.getD 1 }

/-- A floor offset that is not there is 0; whether it is applied stays as it is. -/
def loadFloor (obj : Object) (ctx : CalibrationContext) : CalibrationContext :=
  match (obj.item "floor_offset_meters_y").number? with
  | some y =>
    { ctx with
      floorOffsetMetersY := y
      floorEnabled :=
        (obj.item "floor_enabled").bool?.getD
          (|y| > Lib.BinaryFloat.binary64.round 0.000000001) }
  | none => { ctx with floorOffsetMetersY := 0 }

def loadSpeeds (obj : Object) (ctx : CalibrationContext) : CalibrationContext :=
  let one_shot := obj.item "one_shot_calibration_speed"
  let continuous := obj.item "continuous_calibration_speed"
  let legacy := obj.item "calibration_speed"
  if one_shot.number?.isNone ∧ continuous.number?.isNone ∧ legacy.number?.isSome then
    let legacy := readSpeed legacy .AUTO true
    { ctx with
      oneShotCalibrationSpeed := if legacy = .AUTO then .FAST else legacy
      continuousCalibrationSpeed :=
        if legacy = .SLOW ∨ legacy = .VERY_SLOW then legacy else .AUTO }
  else
    { ctx with
      oneShotCalibrationSpeed := readSpeed one_shot .FAST false
      continuousCalibrationSpeed := readSpeed continuous .AUTO true }

def loadLockMode (obj : Object) (ctx : CalibrationContext) : CalibrationContext :=
  { ctx with
    relativePosCalibrated := (obj.item "relative_pos_calibrated").bool?.getD ctx.relativePosCalibrated
    lockRelativePositionMode :=
      match (obj.item "lock_relative_position_mode").number? with
      | some x => (LockMode.ofInt? (toInt x)).getD ctx.lockRelativePositionMode
      | none =>
        match (obj.item "lock_relative_position").bool? with
        | some b => if b then .ON else .AUTO
        | none => ctx.lockRelativePositionMode }

/-- The last statements: a section that is not there is not touched. -/
def loadSections (e : Eigen) (obj : Object) (ctx : CalibrationContext) : CalibrationContext :=
  { ctx with
    additionalCalibrations :=
      ((obj.item "additional_calibrations").array?.getD []).filterMap loadExtra
    wizardCompleted := (obj.item "wizard_completed").bool?.getD ctx.wizardCompleted
    headMount := loadHeadMount e ctx.headMount (obj.item "head_mount")
    boundary := loadBoundary ctx.boundary (obj.item "boundary")
    validProfile := true }

/-! ## The chaperone -/

/-- Element `i` of a buffer after `LoadFloatArray`, which stops at the first value that is not a
    number. -/
def loadedFloat (arr : List Value) (i : ℕ) (old : F32) : F32 :=
  match ((arr.take (i + 1)).mapM Value.number?).bind fun xs => xs[i]? with
  | some x => toFloat x
  | none => old

def loadFloatArray (json : Picojson) (obj : Value) (numFloats : ℕ)
    (store : (ℕ → F32 → F32) → CalibrationContext → CalibrationContext) : Statement := fun ctx =>
  match obj.array? with
  | none => (.error ("expected array, got " ++ json.to_str obj), ctx)
  | some arr =>
    if arr.length ≠ numFloats then (.error "wrong buffer size", ctx)
    else
      (if arr.all fun v => v.number?.isSome then .ok () else .error (typeMismatch "double"),
        store (loadedFloat arr) ctx)

def setAutoApply (b : Bool) (ctx : CalibrationContext) : CalibrationContext :=
  { ctx with chaperone.autoApply := b }

def setPlaySpaceSize (g : ℕ → F32 → F32) (ctx : CalibrationContext) : CalibrationContext :=
  { ctx with chaperone.playSpaceSize := fun i => g i (ctx.chaperone.playSpaceSize i) }

def setStandingCenter (g : ℕ → F32 → F32) (ctx : CalibrationContext) : CalibrationContext :=
  { ctx with chaperone.standingCenter := fun i => g i (ctx.chaperone.standingCenter i) }

/-- The vector resized to `n` quads, and its floats replaced. -/
def setGeometry (n : ℕ) (g : ℕ → F32 → F32) (ctx : CalibrationContext) : CalibrationContext :=
  let old (q : ℕ) : HmdQuad_t := (ctx.chaperone.geometry[q]?).getD fun _ => toFloat 0
  { ctx with
    chaperone.geometry := (List.range n).map fun q i => g (12 * q + i) (old q i) }

def setChaperoneValid (ctx : CalibrationContext) : CalibrationContext :=
  { ctx with chaperone.valid := true }

def loadGeometry (json : Picojson) (geometry : Value) : List Statement :=
  match geometry.array? with
  | none => [.assign (.error "chaperone geometry is not an array") fun (_ : Unit) ctx => ctx]
  | some arr =>
    if arr.length > 0 ∧ arr.length % 12 ≠ 0 then []
    else if arr.length > 0 then
      [loadFloatArray json geometry arr.length (setGeometry (arr.length / 12)),
        .update setChaperoneValid]
    else []

def loadChaperone (json : Picojson) (obj : Object) : List Statement :=
  match (obj.item "chaperone").object? with
  | none => []
  | some chaperone =>
    [.assign (getBool (chaperone.item "auto_apply")) setAutoApply,
      loadFloatArray json (chaperone.item "play_space_size") 2 setPlaySpaceSize,
      loadFloatArray json (chaperone.item "standing_center") 12 setStandingCenter] ++
    loadGeometry json (chaperone.item "geometry")

/-! ## The relative transform -/

def relativeRotation (e : Eigen) (t : Object) : Option Matrix3d := do
  let w ← (t.item "quat_w").number?
  let x ← (t.item "quat_x").number?
  let y ← (t.item "quat_y").number?
  let z ← (t.item "quat_z").number?
  some (e.toRotationMatrix (e.normalize ⟨w, x, y, z⟩))

/-- The form of older profiles. -/
def legacyRotation (e : Eigen) (t : Object) : Option Matrix3d := do
  let roll ← (t.item "roll").number?
  let yaw ← (t.item "yaw").number?
  let pitch ← (t.item "pitch").number?
  some (e.angleAxisXYZ ⟨roll, yaw, pitch⟩)

def relativeTransform (e : Eigen) (t : Object) : Except String AffineCompact3d := do
  let x ← getDouble (t.item "x")
  let y ← getDouble (t.item "y")
  let z ← getDouble (t.item "z")
  let rotationMatrix := (relativeRotation e t).getD ((legacyRotation e t).getD 1)
  return ⟨rotationMatrix, ⟨x, y, z⟩⟩

def setRefToTargetPose (T : AffineCompact3d) (ctx : CalibrationContext) : CalibrationContext :=
  { ctx with refToTargetPose := T }

def loadRelativeTransform (e : Eigen) (obj : Object) : List Statement :=
  match (obj.item "relative_transform").object? with
  | none => []
  | some t => [.assign (relativeTransform e t) setRefToTargetPose]

/-! ## `ParseProfile` -/

def loadCalibrationData (obj : Object) : List Statement :=
  [.update (loadAlignmentParams (obj.item "alignment_params")),
    .assign (getString (obj.item "reference_tracking_system")) fun s ctx =>
      { ctx with referenceTrackingSystem := s },
    .assign (getString (obj.item "target_tracking_system")) fun s ctx =>
      { ctx with targetTrackingSystem := s },
    .assign (getDouble (obj.item "roll")) fun v ctx => { ctx with calibratedRotation.x := v },
    .assign (getDouble (obj.item "yaw")) fun v ctx => { ctx with calibratedRotation.y := v },
    .assign (getDouble (obj.item "pitch")) fun v ctx => { ctx with calibratedRotation.z := v },
    .assign (getDouble (obj.item "x")) fun v ctx => { ctx with calibratedTranslation.x := v },
    .assign (getDouble (obj.item "y")) fun v ctx => { ctx with calibratedTranslation.y := v },
    .assign (getDouble (obj.item "z")) fun v ctx => { ctx with calibratedTranslation.z := v },
    .update (loadDevices obj),
    .assign (getDouble (obj.item "continuous_calibration_target_offset_x")) fun v ctx =>
      { ctx with continuousCalibrationOffset.x := v },
    .assign (getDouble (obj.item "continuous_calibration_target_offset_y")) fun v ctx =>
      { ctx with continuousCalibrationOffset.y := v },
    .assign (getDouble (obj.item "continuous_calibration_target_offset_z")) fun v ctx =>
      { ctx with continuousCalibrationOffset.z := v },
    .update (loadSettings obj),
    .update (loadFloor obj),
    .update (loadSpeeds obj)]

/-- What is done with a profile of a version that this build supports. -/
def parseStatements (json : Picojson) (e : Eigen) (obj : Object) : List Statement :=
  loadCalibrationData obj ++ loadChaperone json obj ++ [.update (loadLockMode obj)] ++
    loadRelativeTransform e obj ++ [.update (loadSections e obj)]

def profileVersion (obj : Object) : ℤ := ((obj.item "schema_version").number?.map toInt).getD 0

/-- A profile from a newer overlay is refused. -/
def parseObject (json : Picojson) (e : Eigen) (obj : Object) : Statement := fun ctx =>
  if profileVersion obj > kProfileSchemaVersion then (.ok (), { ctx with validProfile := false })
  else
    let obj :=
      if profileVersion obj < kProfileSchemaVersion then migrateProfile (profileVersion obj) obj
      else obj
    Statement.run (parseStatements json e obj) ctx

/-- The first profile of the file. -/
def firstProfile (json : Picojson) (text : String) : Except String Object := do
  let v ← json.parse text
  let arr ← getArray v
  match arr with
  | [] => throw "no profiles in file"
  | profile :: _ => getObject profile

def parseProfile (json : Picojson) (e : Eigen) (text : String) : Statement := fun ctx =>
  match firstProfile json text with
  | .ok obj => parseObject json e obj ctx
  | .error err => (.error err, ctx)

end WKPairDriver.Calibration
