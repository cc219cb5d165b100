import Mathlib
import WKPairDriver.Lib.BinaryFloat
import WKPairDriver.Lib.Json
import WKPairDriver.Calibration.Context
import WKPairDriver.Calibration.WriteProfile
import WKPairDriver.Calibration.ParseProfile

/-!
# Parsing a profile that was written

* `parseProfile_writeProfile` — the context that a load leaves, field by field.
* `profile_roundTrips` — what is always written, or always reset, is restored; the rest is where it
  was written, or where the context agreed before.
* `profile_not_restored` — what the guards of the loader change, and what skipping leaves behind.
-/

set_option autoImplicit false

namespace WKPairDriver.Calibration

open Lib.Json HeadMount

variable (json : Picojson) (e : Eigen) (ctx ctx0 : CalibrationContext)

@[simp] theorem getDouble_number (x : ℚ) : getDouble (.number x) = .ok x := rfl

@[simp] theorem getString_string (s : String) : getString (.string s) = .ok s := rfl

@[simp] theorem getBool_bool (b : Bool) : getBool (.bool b) = .ok b := rfl

@[simp] theorem toFloat_val (a : F32) : toFloat a.val = a :=
  Lib.BinaryFloat.Format.narrow_val a

/-! ## Devices and sections -/

@[simp] theorem loadStandby_writeStandby (old device : StandbyDevice) :
    loadStandby old (writeStandby device) = device := by
  simp [loadStandby, writeStandby]

theorem item_saveAlignmentParams (p : AlignmentParam) :
    (saveAlignmentParams ctx).item p.key = .number (ctx.alignmentSpeedParams p) := by
  cases p <;> simp [saveAlignmentParams, AlignmentParam.all, AlignmentParam.key]

/-- The speeds and thresholds, narrowed to floats. -/
theorem loadAlignmentParams_saveAlignmentParams :
    loadAlignmentParams (.object (saveAlignmentParams ctx)) ctx0 =
      { ctx0.resetConfig with
        alignmentSpeedParams := fun p => (toFloat (ctx.alignmentSpeedParams p)).val
        continuousCalibrationThreshold := ctx.continuousCalibrationThreshold } := by
  have hthreshold : (saveAlignmentParams ctx).item "continuousCalibrationThreshold" =
      .number ctx.continuousCalibrationThreshold.val := by
    simp [saveAlignmentParams]
  simp only [loadAlignmentParams, Value.object?_object, item_saveAlignmentParams,
    Value.number?_number, hthreshold, toFloat_val]

/-- What a load makes of the head-mounted tracker: its timings are clamped, the quaternion of its
    offset is normalized. -/
def HeadMountConfig.stored (hm : HeadMountConfig) : HeadMountConfig :=
  { hm with
    driverSynthTiming := clampDriverSynthTimingConfig hm.driverSynthTiming
    headFromTracker := e.normalized hm.headFromTracker }

theorem loadTransform_transformObject (q : Quaterniond) (t : Vector3d) :
    ∃ xf, (transformObject q t).object? = some xf ∧ loadTransform e xf = e.loadedTransform q t := by
  refine ⟨_, rfl, ?_⟩
  simp [loadTransform, vector3?, quaternion?]

theorem loadHeadMount_saveHeadMount (old hm : HeadMountConfig) :
    loadHeadMount e old (.object (saveHeadMount e hm)) = hm.stored e := by
  obtain ⟨xf, hxf, hload⟩ := loadTransform_transformObject e (e.storedRotation hm.headFromTracker)
    hm.headFromTracker.translation
  simp only [loadHeadMount, saveHeadMount, Value.object?_object, Object.item_set, String.reduceEq,
    if_true, if_false, Value.number?_number, Value.string?_string, Value.bool?_bool, Option.map_some,
    Option.bind_some, Option.getD_some, toInt_intCast, HeadMountMode.ofInt?_toInt, hxf, hload]
  show { hm with
      driverSynthTiming :=
        clampDriverSynthTimingConfig (clampDriverSynthTimingConfig hm.driverSynthTiming)
      headFromTracker := e.normalized hm.headFromTracker } = hm.stored e
  rw [clampDriverSynthTimingConfig_idem]
  rfl

theorem loadBoundary_saveBoundary (old bc : BoundaryConfig) :
    loadBoundary old (.object (saveBoundary bc)) = bc := by
  have hvertices : (bc.vertices.map vertexValue).filterMap loadVertex = bc.vertices := by
    rw [List.filterMap_map]
    have hsome : loadVertex ∘ vertexValue = some := by
      funext bv
      simp [loadVertex, vertexValue]
    rw [hsome, List.filterMap_some]
  simp [loadBoundary, saveBoundary, hexToBytes_bytesToHex, hvertices]

/-- What a load makes of an additional calibration: a lock mode that does not exist becomes
    `AUTO`. -/
def AdditionalCalibration.stored (extra : AdditionalCalibration) : AdditionalCalibration :=
  { extra with
    lockMode := if extra.lockMode < 0 ∨ extra.lockMode > 2 then 2 else extra.lockMode }

theorem loadExtra_extraValue (extra : AdditionalCalibration) :
    loadExtra (extraValue extra) = some extra.stored := by
  simp [loadExtra, extraValue, AdditionalCalibration.stored]

theorem loadExtra_extraValues (extras : List AdditionalCalibration) :
    (extras.map extraValue).filterMap loadExtra = extras.map AdditionalCalibration.stored := by
  rw [List.filterMap_map]
  have hsome : loadExtra ∘ extraValue = some ∘ AdditionalCalibration.stored := by
    funext extra
    exact loadExtra_extraValue extra
  rw [hsome, List.filterMap_eq_map]

/-! ## Arrays of floats -/

theorem mapM_number (xs : List ℚ) : (xs.map Value.number).mapM Value.number? = some xs := by
  induction xs with
  | nil => rfl
  | cons x xs ih => simp [ih]

theorem loadedFloat_numbers (xs : List ℚ) {i : ℕ} {x : ℚ} (hi : xs[i]? = some x) (old : F32) :
    loadedFloat (xs.map .number) i old = toFloat x := by
  rw [loadedFloat, ← List.map_take, mapM_number]
  have htake : (xs.take (i + 1))[i]? = some x := by
    rw [List.getElem?_take_of_lt (by omega), hi]
  simp [htake]

/-- An array of numbers of the right size is loaded. -/
theorem run_loadFloatArray {xs : List ℚ} {n : ℕ} (hn : xs.length = n)
    (store : (ℕ → F32 → F32) → CalibrationContext → CalibrationContext) (ss : List Statement)
    (c : CalibrationContext) :
    Statement.run (loadFloatArray json (.array (xs.map .number)) n store :: ss) c =
      Statement.run ss (store (loadedFloat (xs.map .number)) c) := by
  have hall : ((xs.map Value.number).all fun v => v.number?.isSome) = true := by
    simp
  simp only [Statement.run, loadFloatArray, Value.array?_array, List.length_map, hn, ne_eq,
    not_true, if_false, hall, if_true]

theorem floatArray_eq {n : ℕ} (buf : Fin n → F32) :
    floatArray buf = .array ((List.ofFn fun i => (buf i).val).map .number) := by
  rw [floatArray, List.map_ofFn]
  rfl

theorem loadedFloat_floatArray {n : ℕ} (buf : Fin n → F32) (i : Fin n) (old : F32) :
    loadedFloat ((List.ofFn fun i => (buf i).val).map .number) i old = buf i := by
  rw [loadedFloat_numbers _ (x := (buf i).val) (by simp), toFloat_val]

/-- The numbers of all quads. -/
def quadNumbers (geometry : List HmdQuad_t) : List ℚ :=
  geometry.flatMap fun quad => List.ofFn fun i => (quad i).val

theorem geometryArray_eq (geometry : List HmdQuad_t) :
    geometryArray geometry = .array ((quadNumbers geometry).map .number) := by
  rw [geometryArray, quadNumbers, List.map_flatMap]
  simp only [List.map_ofFn, Function.comp_def]

theorem quadNumbers_length (geometry : List HmdQuad_t) :
    (quadNumbers geometry).length = 12 * geometry.length := by
  induction geometry with
  | nil => rfl
  | cons quad geometry ih =>
    simp only [quadNumbers, List.flatMap_cons, List.length_append, List.length_ofFn,
      List.length_cons] at ih ⊢
    omega

theorem quadNumbers_getElem? {geometry : List HmdQuad_t} {q : ℕ} {quad : HmdQuad_t}
    (hq : geometry[q]? = some quad) (i : Fin 12) :
    (quadNumbers geometry)[12 * q + i]? = some (quad i).val := by
  induction geometry generalizing q with
  | nil => simp at hq
  | cons first geometry ih =>
    have hi := i.isLt
    cases q with
    | zero =>
      cases hq
      rw [quadNumbers, List.flatMap_cons, List.getElem?_append_left (by simp), Nat.mul_zero,
        Nat.zero_add, List.getElem?_ofFn, dif_pos hi]
    | succ q =>
      rw [quadNumbers, List.flatMap_cons, List.getElem?_append_right (by simp; omega)]
      have hsub : 12 * (q + 1) + (i : ℕ) - (List.ofFn fun i => (first i).val).length =
          12 * q + i := by
        rw [List.length_ofFn]
        omega
      rw [hsub]
      exact ih hq

/-- The geometry that was written. -/
theorem setGeometry_quadNumbers (geometry : List HmdQuad_t) (c : CalibrationContext) :
    setGeometry geometry.length (loadedFloat ((quadNumbers geometry).map .number)) c =
      { c with chaperone.geometry := geometry } := by
  have hquads : ∀ old : ℕ → HmdQuad_t, ((List.range geometry.length).map fun q (i : Fin 12) =>
      loadedFloat ((quadNumbers geometry).map .number) (12 * q + i) (old q i) : List HmdQuad_t) =
        geometry := by
    intro old
    apply List.ext_getElem (by simp)
    intro q hq hq'
    simp only [List.getElem_map, List.getElem_range]
    funext i
    rw [loadedFloat_numbers _ (quadNumbers_getElem? (List.getElem?_eq_getElem hq') i), toFloat_val]
  simp only [setGeometry, hquads]

/-! ## The stages of a load -/

/-- What a load makes of the chaperone: a geometry without quads is not loaded. -/
def restoredChaperone (old c : Chaperone) : Chaperone :=
  if c.valid = false then old
  else if c.geometry = [] then
    { c with
      geometry := old.geometry
      valid := old.valid }
  else c

/-- A field that is written when it is not its default, and not reset by a load. -/
def restoredField {α : Type} [DecidableEq α] (field : CalibrationContext → α) : α :=
  if field ctx ≠ field CalibrationContext.new then field ctx else field ctx0

/-- A one-shot calibration has no `AUTO`. -/
def restoredSpeed (s : Speed) : Speed := if s = .AUTO then .FAST else s

/-- The context that a load leaves, from the one that was saved and the one that was there. -/
def restored : CalibrationContext where
  state := if isInContinuousCalibrationMode ctx then .ContinuousStandby else ctx0.state
  validProfile := true
  referenceTrackingSystem := ctx.referenceTrackingSystem
  targetTrackingSystem := ctx.targetTrackingSystem
  referenceStandby := ctx.referenceStandby
  targetStandby := ctx.targetStandby
  calibratedRotation := ctx.calibratedRotation
  calibratedTranslation := ctx.calibratedTranslation
  calibratedScale := ctx.calibratedScale
  floorOffsetMetersY := ctx.floorOffsetMetersY
  floorEnabled := if ctx.floorOffsetMetersY ≠ 0 then ctx.floorEnabled else ctx0.floorEnabled
  continuousCalibrationOffset := ctx.continuousCalibrationOffset
  alignmentSpeedParams := fun p => (toFloat (ctx.alignmentSpeedParams p)).val
  continuousCalibrationThreshold := ctx.continuousCalibrationThreshold
  maxRelativeErrorThreshold := ctx.maxRelativeErrorThreshold
  jitterThreshold := ctx.jitterThreshold
  quashTargetInContinuous := restoredField ctx ctx0 (·.quashTargetInContinuous)
  requireTriggerPressToApply := restoredField ctx ctx0 (·.requireTriggerPressToApply)
  ignoreOutliers := restoredField ctx ctx0 (·.ignoreOutliers)
  enableStaticRecalibration := ctx.enableStaticRecalibration
  recalibrateOnMovement := ctx.recalibrateOnMovement
  baseStationDriftCorrectionEnabled := ctx.baseStationDriftCorrectionEnabled
  oneShotCalibrationSpeed := restoredSpeed ctx.oneShotCalibrationSpeed
  continuousCalibrationSpeed := ctx.continuousCalibrationSpeed
  lockRelativePositionMode := restoredField ctx ctx0 (·.lockRelativePositionMode)
  relativePosCalibrated := ctx.relativePosCalibrated
  refToTargetPose := e.normalized ctx.refToTargetPose
  chaperone := restoredChaperone ctx0.chaperone ctx.chaperone
  additionalCalibrations := ctx.additionalCalibrations.map AdditionalCalibration.stored
  wizardCompleted := restoredField ctx ctx0 (·.wizardCompleted)
  headMount := if headMountActive ctx.headMount then ctx.headMount.stored e else ctx0.headMount
  boundary := if boundaryActive ctx.boundary then ctx.boundary else ctx0.boundary

/-- The same before the sections are loaded. -/
def restoredData : CalibrationContext :=
  { restored e ctx ctx0 with
    validProfile := ctx0.validProfile
    lockRelativePositionMode := ctx0.lockRelativePositionMode
    relativePosCalibrated := ctx0.relativePosCalibrated
    refToTargetPose := ctx0.refToTargetPose
    chaperone := ctx0.chaperone
    additionalCalibrations := ctx0.additionalCalibrations
    wizardCompleted := ctx0.wizardCompleted
    headMount := ctx0.headMount
    boundary := ctx0.boundary }

section Skipped

/-! What a load finds behind a key that is skipped under a condition. -/

variable {p : Prop} [Decidable p]

theorem bool?_skipped (b old : Bool) :
    (if p then Value.null else .bool b).bool?.getD old = if p then old else b := by
  split <;> rfl

theorem map_number?_skipped {α : Type} (f : ℚ → α) (x : ℚ) (old : α) :
    ((if p then Value.null else .number x).number?.map f).getD old = if p then old else f x := by
  split <;> rfl

theorem evaluate_skipped :
    (if p then Value.bool true else .null).evaluate_as_boolean = decide p := by
  by_cases hp : p <;> simp [hp, Value.evaluate_as_boolean]

theorem readSpeed_skipped (s fallback : Speed) (allowAuto : Bool) :
    readSpeed (if p then .null else .number s.toInt) fallback allowAuto =
      if p then fallback else if !allowAuto ∧ s = .AUTO then fallback else s := by
  by_cases hp : p <;> simp [hp, readSpeed]

end Skipped

theorem loadDevices_profile :
    loadDevices (profileObject e ctx) ctx0 =
      { ctx0 with
        referenceStandby := ctx.referenceStandby
        targetStandby := ctx.targetStandby
        state := if isInContinuousCalibrationMode ctx then .ContinuousStandby else ctx0.state
        quashTargetInContinuous := restoredField ctx ctx0 (·.quashTargetInContinuous)
        requireTriggerPressToApply := restoredField ctx ctx0 (·.requireTriggerPressToApply)
        ignoreOutliers := restoredField ctx ctx0 (·.ignoreOutliers) } := by
  simp [loadDevices, profileObject, writeCalibrationData, writeSettings, writeSections,
    bool?_skipped, evaluate_skipped, restoredField]

/-- The settings, where `ResetConfig` has come before. -/
theorem loadSettings_profile (hstatic : ctx0.enableStaticRecalibration = true)
    (hjitter : ctx0.jitterThreshold = CalibrationContext.new.jitterThreshold)
    (herror :
      ctx0.maxRelativeErrorThreshold = CalibrationContext.new.maxRelativeErrorThreshold) :
    loadSettings (profileObject e ctx) ctx0 =
      { ctx0 with
        enableStaticRecalibration := ctx.enableStaticRecalibration
        jitterThreshold := ctx.jitterThreshold
        maxRelativeErrorThreshold := ctx.maxRelativeErrorThreshold
        recalibrateOnMovement := ctx.recalibrateOnMovement
        baseStationDriftCorrectionEnabled := ctx.baseStationDriftCorrectionEnabled
        calibratedScale := ctx.calibratedScale } := by
  simp only [loadSettings, profileObject, writeCalibrationData, writeSettings, writeSections,
    Object.item_set, Object.item_setIf, String.reduceEq, false_and, true_and, if_false, if_true,
    Object.item_empty, decide_eq_true_eq, ne_eq, ite_not, bool?_skipped, map_number?_skipped,
    Value.number?_number, Option.getD_some, toFloat_val, hstatic, hjitter, herror]
  -- what is skipped is the default
  congr 1 <;> split <;> simp_all [CalibrationContext.new]

theorem loadFloor_profile :
    loadFloor (profileObject e ctx) ctx0 =
      { ctx0 with
        floorOffsetMetersY := ctx.floorOffsetMetersY
        floorEnabled :=
          if ctx.floorOffsetMetersY ≠ 0 then ctx.floorEnabled else ctx0.floorEnabled } := by
  by_cases hfloor : ctx.floorOffsetMetersY = 0 <;>
    simp [loadFloor, profileObject, writeCalibrationData, writeSettings, writeSections, hfloor]

theorem loadSpeeds_profile :
    loadSpeeds (profileObject e ctx) ctx0 =
      { ctx0 with
        oneShotCalibrationSpeed := restoredSpeed ctx.oneShotCalibrationSpeed
        continuousCalibrationSpeed := ctx.continuousCalibrationSpeed } := by
  have hone : ∀ s : Speed, (if s = CalibrationContext.new.oneShotCalibrationSpeed then Speed.FAST
      else if s = .AUTO then .FAST else s) = restoredSpeed s := by
    intro s
    cases s <;> rfl
  have hcontinuous : ∀ s : Speed, (if s = CalibrationContext.new.continuousCalibrationSpeed
      then Speed.AUTO else s) = s := by
    intro s
    cases s <;> rfl
  simp [loadSpeeds, profileObject, writeCalibrationData, writeSettings, writeSections,
    readSpeed_skipped, hone, hcontinuous]

/-- The calibration data of a profile that was written. -/
theorem calibrationData_items :
    let profile := profileObject e ctx
    profile.item "alignment_params" = .object (saveAlignmentParams ctx) ∧
      profile.item "reference_tracking_system" = .string ctx.referenceTrackingSystem ∧
      profile.item "target_tracking_system" = .string ctx.targetTrackingSystem ∧
      profile.item "roll" = .number ctx.calibratedRotation.x ∧
      profile.item "yaw" = .number ctx.calibratedRotation.y ∧
      profile.item "pitch" = .number ctx.calibratedRotation.z ∧
      profile.item "x" = .number ctx.calibratedTranslation.x ∧
      profile.item "y" = .number ctx.calibratedTranslation.y ∧
      profile.item "z" = .number ctx.calibratedTranslation.z ∧
      profile.item "continuous_calibration_target_offset_x" =
        .number ctx.continuousCalibrationOffset.x ∧
      profile.item "continuous_calibration_target_offset_y" =
        .number ctx.continuousCalibrationOffset.y ∧
      profile.item "continuous_calibration_target_offset_z" =
        .number ctx.continuousCalibrationOffset.z := by
  simp [profileObject, writeCalibrationData, writeSettings, writeSections]

theorem run_loadCalibrationData :
    Statement.run (loadCalibrationData (profileObject e ctx)) ctx0 =
      (.ok (), restoredData e ctx ctx0) := by
  obtain ⟨hparams, hreference, htarget, hroll, hyaw, hpitch, hx, hy, hz, hox, hoy, hoz⟩ :=
    calibrationData_items e ctx
  simp only [loadCalibrationData, hparams, hreference, htarget, hroll, hyaw, hpitch, hx, hy, hz,
    hox, hoy, hoz, getDouble_number, getString_string, Statement.run_update,
    Statement.run_assign_ok, Statement.run_nil, loadAlignmentParams_saveAlignmentParams,
    loadDevices_profile, loadFloor_profile, loadSpeeds_profile]
  rw [loadSettings_profile e ctx _ ?_ ?_ ?_]
  all_goals rfl

/-- The geometry, as long as there is one. -/
theorem run_loadGeometry (geometry : List HmdQuad_t) (c : CalibrationContext) :
    Statement.run (loadGeometry json (geometryArray geometry)) c =
      (.ok (), if geometry = [] then c else
        { c with
          chaperone.geometry := geometry
          chaperone.valid := true }) := by
  have hlength := quadNumbers_length geometry
  rw [geometryArray_eq]
  simp only [loadGeometry, Value.array?_array, List.length_map, hlength]
  by_cases hempty : geometry = []
  · simp [hempty]
  · have hpos : 0 < geometry.length := List.length_pos_iff.2 hempty
    rw [if_neg (by omega), if_pos (by omega), run_loadFloatArray json hlength,
      show 12 * geometry.length / 12 = geometry.length by omega, setGeometry_quadNumbers,
      if_neg hempty]
    rfl

theorem run_loadChaperone (c : CalibrationContext) :
    Statement.run (loadChaperone json (profileObject e ctx)) c =
      (.ok (), { c with chaperone := restoredChaperone c.chaperone ctx.chaperone }) := by
  have hitem : (profileObject e ctx).item "chaperone" =
      if ctx.chaperone.valid then .object (saveChaperone ctx.chaperone) else .null := by
    simp [profileObject, writeCalibrationData, writeSettings, writeSections]
  cases hvalid : ctx.chaperone.valid with
  | false => simp [loadChaperone, hitem, hvalid, restoredChaperone]
  | true =>
    obtain ⟨hauto, hplay, hcenter, hgeometry⟩ :
        (saveChaperone ctx.chaperone).item "auto_apply" = .bool ctx.chaperone.autoApply ∧
          (saveChaperone ctx.chaperone).item "play_space_size" =
            floatArray ctx.chaperone.playSpaceSize ∧
          (saveChaperone ctx.chaperone).item "standing_center" =
            floatArray ctx.chaperone.standingCenter ∧
          (saveChaperone ctx.chaperone).item "geometry" =
            geometryArray ctx.chaperone.geometry := by
      simp [saveChaperone]
    simp only [loadChaperone, hitem, hvalid, if_true, Value.object?_object, hauto, hplay, hcenter,
      hgeometry, getBool_bool, List.cons_append, List.nil_append, Statement.run_assign_ok,
      floatArray_eq]
    rw [run_loadFloatArray json (List.length_ofFn ..), run_loadFloatArray json (List.length_ofFn ..),
      run_loadGeometry]
    simp only [setAutoApply, setPlaySpaceSize, setStandingCenter, loadedFloat_floatArray,
      restoredChaperone, hvalid, Bool.true_eq_false, if_false]
    have heta : { ctx.chaperone with valid := true } = ctx.chaperone := by
      rw [← hvalid]
    split
    · rfl
    · exact congrArg (fun chaperone => (Except.ok (), { c with chaperone := chaperone })) heta

theorem loadLockMode_profile :
    loadLockMode (profileObject e ctx) ctx0 =
      { ctx0 with
        relativePosCalibrated := ctx.relativePosCalibrated
        lockRelativePositionMode := restoredField ctx ctx0 (·.lockRelativePositionMode) } := by
  by_cases hmode : ctx.lockRelativePositionMode = CalibrationContext.new.lockRelativePositionMode <;>
    simp [loadLockMode, profileObject, writeCalibrationData, writeSettings, writeSections,
      restoredField, hmode]

theorem run_loadRelativeTransform (c : CalibrationContext) :
    Statement.run (loadRelativeTransform e (profileObject e ctx)) c =
      (.ok (), { c with refToTargetPose := e.normalized ctx.refToTargetPose }) := by
  have hitem : (profileObject e ctx).item "relative_transform" =
      .object (relativeTransformObject (e.storedRotation ctx.refToTargetPose)
        ctx.refToTargetPose.translation) := by
    simp [profileObject, writeCalibrationData, writeSettings, writeSections]
  have htransform : relativeTransform e (relativeTransformObject
      (e.storedRotation ctx.refToTargetPose) ctx.refToTargetPose.translation) =
        .ok (e.normalized ctx.refToTargetPose) := by
    simp [relativeTransform, relativeTransformObject, relativeRotation]
    rfl
  simp only [loadRelativeTransform, hitem, Value.object?_object, htransform,
    Statement.run_assign_ok, Statement.run_nil, setRefToTargetPose]

theorem loadSections_profile :
    loadSections e (profileObject e ctx) ctx0 =
      { ctx0 with
        additionalCalibrations := ctx.additionalCalibrations.map AdditionalCalibration.stored
        wizardCompleted := restoredField ctx ctx0 (·.wizardCompleted)
        headMount := if headMountActive ctx.headMount then ctx.headMount.stored e else ctx0.headMount
        boundary := if boundaryActive ctx.boundary then ctx.boundary else ctx0.boundary
        validProfile := true } := by
  obtain ⟨hextras, hwizard, hmount, hboundary⟩ :
      (profileObject e ctx).item "additional_calibrations" =
          (if ctx.additionalCalibrations ≠ [] then
            .array (ctx.additionalCalibrations.map extraValue) else .null) ∧
        (profileObject e ctx).item "wizard_completed" =
          (if ctx.wizardCompleted then .bool true else .null) ∧
        (profileObject e ctx).item "head_mount" =
          (if headMountActive ctx.headMount then .object (saveHeadMount e ctx.headMount)
            else .null) ∧
        (profileObject e ctx).item "boundary" =
          (if boundaryActive ctx.boundary then .object (saveBoundary ctx.boundary) else .null) := by
    simp [profileObject, writeCalibrationData, writeSettings, writeSections]
  have hextras' : (((profileObject e ctx).item "additional_calibrations").array?.getD []).filterMap
      loadExtra = ctx.additionalCalibrations.map AdditionalCalibration.stored := by
    rw [hextras]
    by_cases hempty : ctx.additionalCalibrations = []
    · simp [hempty]
    · rw [if_pos hempty]
      exact loadExtra_extraValues ctx.additionalCalibrations
  have hwizard' : ((profileObject e ctx).item "wizard_completed").bool?.getD ctx0.wizardCompleted =
      restoredField ctx ctx0 (·.wizardCompleted) := by
    rw [hwizard]
    cases hc : ctx.wizardCompleted <;> simp [restoredField, hc, CalibrationContext.new]
  have hmount' : loadHeadMount e ctx0.headMount ((profileObject e ctx).item "head_mount") =
      if headMountActive ctx.headMount then ctx.headMount.stored e else ctx0.headMount := by
    rw [hmount]
    split
    · exact loadHeadMount_saveHeadMount e ctx0.headMount ctx.headMount
    · rfl
  have hboundary' : loadBoundary ctx0.boundary ((profileObject e ctx).item "boundary") =
      if boundaryActive ctx.boundary then ctx.boundary else ctx0.boundary := by
    rw [hboundary]
    split
    · exact loadBoundary_saveBoundary ctx0.boundary ctx.boundary
    · rfl
  simp only [loadSections, hextras', hwizard', hmount', hboundary']

/-- A load of what was saved. -/
theorem run_parseStatements :
    Statement.run (parseStatements json e (profileObject e ctx)) ctx0 =
      (.ok (), restored e ctx ctx0) := by
  simp only [parseStatements, List.append_assoc]
  rw [Statement.run_append_of_ok _ _ _ (run_loadCalibrationData e ctx ctx0),
    Statement.run_append_of_ok _ _ _ (run_loadChaperone json e ctx _), List.singleton_append,
    Statement.run_update, loadLockMode_profile,
    Statement.run_append_of_ok _ _ _ (run_loadRelativeTransform e ctx _), Statement.run_update,
    loadSections_profile]
  rfl

theorem parseObject_profileObject :
    parseObject json e (profileObject e ctx) ctx0 = (.ok (), restored e ctx ctx0) := by
  have hversion : profileVersion (profileObject e ctx) = kProfileSchemaVersion := by
    simp [profileVersion, profileObject, writeCalibrationData, writeSettings, writeSections]
  simp only [parseObject, hversion, gt_iff_lt, lt_irrefl, if_false]
  exact run_parseStatements json e ctx ctx0

/-- The context that a load leaves. -/
theorem parseProfile_writeProfile (hvalid : ctx.validProfile = true)
    (hjson : json.parse (json.serialize (profileValue e ctx)) = .ok (profileValue e ctx)) :
    parseProfile json e (writeProfile json e ctx) ctx0 = (.ok (), restored e ctx ctx0) := by
  have hfirst : firstProfile json (json.serialize (profileValue e ctx)) =
      .ok (profileObject e ctx) := by
    rw [firstProfile, hjson]
    rfl
  rw [writeProfile, if_pos hvalid, parseProfile, hfirst]
  exact parseObject_profileObject json e ctx ctx0

/-! ## What is promised -/

/-- A field that comes back as `stored` where it was written, or where it was there before. -/
def ComesBack {α : Type} (written : Prop) (old stored out : α) : Prop :=
  written ∨ old = stored → out = stored

/-- What a load restores of the context that was saved. -/
structure RoundTrips (out : CalibrationContext) : Prop where
  validProfile : out.validProfile = true
  referenceTrackingSystem : out.referenceTrackingSystem = ctx.referenceTrackingSystem
  targetTrackingSystem : out.targetTrackingSystem = ctx.targetTrackingSystem
  referenceStandby : out.referenceStandby = ctx.referenceStandby
  targetStandby : out.targetStandby = ctx.targetStandby
  calibratedRotation : out.calibratedRotation = ctx.calibratedRotation
  calibratedTranslation : out.calibratedTranslation = ctx.calibratedTranslation
  calibratedScale : out.calibratedScale = ctx.calibratedScale
  floorOffsetMetersY : out.floorOffsetMetersY = ctx.floorOffsetMetersY
  continuousCalibrationOffset : out.continuousCalibrationOffset = ctx.continuousCalibrationOffset
  /-- The only doubles that are loaded through a `float`. -/
  alignmentSpeedParams : ∀ p, out.alignmentSpeedParams p = (toFloat (ctx.alignmentSpeedParams p)).val
  continuousCalibrationThreshold :
    out.continuousCalibrationThreshold = ctx.continuousCalibrationThreshold
  maxRelativeErrorThreshold : out.maxRelativeErrorThreshold = ctx.maxRelativeErrorThreshold
  jitterThreshold : out.jitterThreshold = ctx.jitterThreshold
  enableStaticRecalibration : out.enableStaticRecalibration = ctx.enableStaticRecalibration
  recalibrateOnMovement : out.recalibrateOnMovement = ctx.recalibrateOnMovement
  baseStationDriftCorrectionEnabled :
    out.baseStationDriftCorrectionEnabled = ctx.baseStationDriftCorrectionEnabled
  oneShotCalibrationSpeed :
    out.oneShotCalibrationSpeed = restoredSpeed ctx.oneShotCalibrationSpeed
  continuousCalibrationSpeed : out.continuousCalibrationSpeed = ctx.continuousCalibrationSpeed
  relativePosCalibrated : out.relativePosCalibrated = ctx.relativePosCalibrated
  refToTargetPose : out.refToTargetPose = e.normalized ctx.refToTargetPose
  additionalCalibrations :
    out.additionalCalibrations = ctx.additionalCalibrations.map AdditionalCalibration.stored
  /-- Both continuous states come back as the one that waits for devices. -/
  state : isInContinuousCalibrationMode ctx = true → out.state = .ContinuousStandby
  floorEnabled :
    ComesBack (ctx.floorOffsetMetersY ≠ 0) ctx0.floorEnabled ctx.floorEnabled out.floorEnabled
  quashTargetInContinuous :
    ComesBack (ctx.quashTargetInContinuous ≠ CalibrationContext.new.quashTargetInContinuous)
      ctx0.quashTargetInContinuous ctx.quashTargetInContinuous out.quashTargetInContinuous
  requireTriggerPressToApply :
    ComesBack (ctx.requireTriggerPressToApply ≠ CalibrationContext.new.requireTriggerPressToApply)
      ctx0.requireTriggerPressToApply ctx.requireTriggerPressToApply
      out.requireTriggerPressToApply
  ignoreOutliers :
    ComesBack (ctx.ignoreOutliers ≠ CalibrationContext.new.ignoreOutliers)
      ctx0.ignoreOutliers ctx.ignoreOutliers out.ignoreOutliers
  lockRelativePositionMode :
    ComesBack (ctx.lockRelativePositionMode ≠ CalibrationContext.new.lockRelativePositionMode)
      ctx0.lockRelativePositionMode ctx.lockRelativePositionMode out.lockRelativePositionMode
  wizardCompleted :
    ComesBack (ctx.wizardCompleted ≠ CalibrationContext.new.wizardCompleted)
      ctx0.wizardCompleted ctx.wizardCompleted out.wizardCompleted
  headMount :
    ComesBack (headMountActive ctx.headMount = true)
      ctx0.headMount (ctx.headMount.stored e) out.headMount
  boundary : ComesBack (boundaryActive ctx.boundary = true) ctx0.boundary ctx.boundary out.boundary
  chaperone :
    ComesBack (ctx.chaperone.valid = true ∧ ctx.chaperone.geometry ≠ [])
      ctx0.chaperone ctx.chaperone out.chaperone
  /-- All of a chaperone but its geometry comes back when there is no geometry. -/
  chaperoneData : ctx.chaperone.valid = true →
    out.chaperone.autoApply = ctx.chaperone.autoApply ∧
      out.chaperone.playSpaceSize = ctx.chaperone.playSpaceSize ∧
      out.chaperone.standingCenter = ctx.chaperone.standingCenter

theorem comesBack_ite {α : Type} (p : Prop) [Decidable p] (old stored : α) :
    ComesBack p old stored (if p then stored else old) := by
  intro h
  by_cases hp : p
  · exact if_pos hp
  · rw [if_neg hp]
    exact h.resolve_left hp

theorem comesBack_restoredField {α : Type} [DecidableEq α] (field : CalibrationContext → α) :
    ComesBack (field ctx ≠ field CalibrationContext.new) (field ctx0) (field ctx)
      (restoredField ctx ctx0 field) :=
  comesBack_ite _ _ _

theorem comesBack_restoredChaperone (old c : Chaperone) :
    ComesBack (c.valid = true ∧ c.geometry ≠ []) old c (restoredChaperone old c) := by
  rintro (⟨hvalid, hgeometry⟩ | rfl)
  · rw [restoredChaperone, if_neg (by simp [hvalid]), if_neg hgeometry]
  · unfold restoredChaperone
    split
    · rfl
    · split <;> rfl

theorem restored_roundTrips : RoundTrips e ctx ctx0 (restored e ctx ctx0) where
  validProfile := rfl
  referenceTrackingSystem := rfl
  targetTrackingSystem := rfl
  referenceStandby := rfl
  targetStandby := rfl
  calibratedRotation := rfl
  calibratedTranslation := rfl
  calibratedScale := rfl
  floorOffsetMetersY := rfl
  continuousCalibrationOffset := rfl
  alignmentSpeedParams _ := rfl
  continuousCalibrationThreshold := rfl
  maxRelativeErrorThreshold := rfl
  jitterThreshold := rfl
  enableStaticRecalibration := rfl
  recalibrateOnMovement := rfl
  baseStationDriftCorrectionEnabled := rfl
  oneShotCalibrationSpeed := rfl
  continuousCalibrationSpeed := rfl
  relativePosCalibrated := rfl
  refToTargetPose := rfl
  additionalCalibrations := rfl
  state h := if_pos h
  floorEnabled := comesBack_ite _ _ _
  quashTargetInContinuous := comesBack_restoredField ctx ctx0 _
  requireTriggerPressToApply := comesBack_restoredField ctx ctx0 _
  ignoreOutliers := comesBack_restoredField ctx ctx0 _
  lockRelativePositionMode := comesBack_restoredField ctx ctx0 _
  wizardCompleted := comesBack_restoredField ctx ctx0 _
  headMount := comesBack_ite _ _ _
  boundary := comesBack_ite _ _ _
  chaperone := comesBack_restoredChaperone ctx0.chaperone ctx.chaperone
  chaperoneData h := by
    show (restoredChaperone _ _).autoApply = _ ∧ _
    have hvalid : ctx.chaperone.valid ≠ false := by simp [h]
    simp only [restored, restoredChaperone, if_neg hvalid]
    split <;> exact ⟨rfl, rfl, rfl⟩

/-- **Round trip.**  A load of what was saved succeeds and restores it, into any context. -/
theorem profile_roundTrips (hvalid : ctx.validProfile = true)
    (hjson : json.parse (json.serialize (profileValue e ctx)) = .ok (profileValue e ctx)) :
    ∃ out, parseProfile json e (writeProfile json e ctx) ctx0 = (.ok (), out) ∧
      RoundTrips e ctx ctx0 out :=
  ⟨restored e ctx ctx0, parseProfile_writeProfile json e ctx ctx0 hvalid hjson,
    restored_roundTrips e ctx ctx0⟩

/-! ## A profile -/

/-- Eigen on the identity. -/
def eigenAtIdentity : Eigen where
  rotation _ := ⟨1, 0, 0, 0⟩
  normalize q := q
  toRotationMatrix _ := 1
  angleAxisXYZ _ := 1

/-- A context with settings that a profile does not bring back. -/
def saved : CalibrationContext :=
  { CalibrationContext.new with
    validProfile := true
    alignmentSpeedParams := fun _ => 1
    oneShotCalibrationSpeed := .AUTO
    headMount.hideTracker := false }

/-- The text of its profile. -/
def savedText : String :=
  "\n".intercalate [
    "[",
    "  \x7b",
    "    \"alignment_params\": \x7b",
    "      \"align_speed_large\": 1,",
    "      \"align_speed_small\": 1,",
    "      \"align_speed_tiny\": 1,",
    "      \"continuousCalibrationThreshold\": 1.5,",
    "      \"slew_moving_pos_rate\": 1,",
    "      \"slew_moving_rot_rate\": 1,",
    "      \"slew_stationary_pos_rate\": 1,",
    "      \"slew_stationary_rot_rate\": 1,",
    "      \"thr_rot_large\": 1,",
    "      \"thr_rot_small\": 1,",
    "      \"thr_rot_tiny\": 1,",
    "      \"thr_trans_large\": 1,",
    "      \"thr_trans_small\": 1,",
    "      \"thr_trans_tiny\": 1",
    "    \x7d,",
    "    \"continuous_calibration_target_offset_x\": 0,",
    "    \"continuous_calibration_target_offset_y\": 0,",
    "    \"continuous_calibration_target_offset_z\": 0,",
    "    \"one_shot_calibration_speed\": 3,",
    "    \"pitch\": 0,",
    "    \"reference_device\": \x7b",
    "      \"model\": \"\",",
    "      \"serial\": \"\",",
    "      \"tracking_system\": \"\"",
    "    \x7d,",
    "    \"reference_tracking_system\": \"\",",
    "    \"relative_pos_calibrated\": false,",
    "    \"relative_transform\": \x7b",
    "      \"quat_w\": 1,",
    "      \"quat_x\": 0,",
    "      \"quat_y\": 0,",
    "      \"quat_z\": 0,",
    "      \"x\": 0,",
    "      \"y\": 0,",
    "      \"z\": 0",
    "    \x7d,",
    "    \"roll\": 0,",
    "    \"scale\": 1,",
    "    \"schema_version\": 5,",
    "    \"target_device\": \x7b",
    "      \"model\": \"\",",
    "      \"serial\": \"\",",
    "      \"tracking_system\": \"\"",
    "    \x7d,",
    "    \"target_tracking_system\": \"\",",
    "    \"x\": 0,",
    "    \"y\": 0,",
    "    \"yaw\": 0,",
    "    \"z\": 0",
    "  \x7d",
    "]",
    ""]

def savedJson : Picojson where
  serialize _ := savedText
  parse _ := .ok (profileValue eigenAtIdentity saved)
  to_str _ := "array"

theorem saved_roundTrips :
    ∃ out, parseProfile savedJson eigenAtIdentity (writeProfile savedJson eigenAtIdentity saved)
        CalibrationContext.new = (.ok (), out) ∧
      RoundTrips eigenAtIdentity saved CalibrationContext.new out :=
  profile_roundTrips savedJson eigenAtIdentity saved CalibrationContext.new rfl rfl

/-- A context in which the settings were changed. -/
def used : CalibrationContext :=
  { CalibrationContext.new with
    ignoreOutliers := false
    lockRelativePositionMode := .ON
    wizardCompleted := true }

/-- The speed is not restored, the tracker is hidden again, and what is skipped keeps what was
    there before. -/
theorem profile_not_restored :
    let load := parseProfile savedJson eigenAtIdentity
      (writeProfile savedJson eigenAtIdentity saved)
    (load used).1 = .ok () ∧ (load CalibrationContext.new).1 = .ok () ∧
      (load CalibrationContext.new).2.oneShotCalibrationSpeed ≠ saved.oneShotCalibrationSpeed ∧
      (load CalibrationContext.new).2.headMount.hideTracker ≠ saved.headMount.hideTracker ∧
      (load used).2.ignoreOutliers ≠ saved.ignoreOutliers ∧
      (load used).2.lockRelativePositionMode ≠ saved.lockRelativePositionMode ∧
      (load used).2.wizardCompleted ≠ saved.wizardCompleted ∧
      (load used).2.ignoreOutliers ≠ (load CalibrationContext.new).2.ignoreOutliers := by
  intro load
  have hload : ∀ ctx0, load ctx0 = (.ok (), restored eigenAtIdentity saved ctx0) := fun ctx0 =>
    parseProfile_writeProfile savedJson eigenAtIdentity saved ctx0 rfl rfl
  have hoff : headMountActive saved.headMount = false := by decide
  rw [hload, hload]
  refine ⟨rfl, rfl, by decide, ?_, by decide, by decide, by decide, by decide⟩
  show (if headMountActive saved.headMount then saved.headMount.stored eigenAtIdentity
    else CalibrationContext.new.headMount).hideTracker ≠ _
  rw [hoff]
  decide

end WKPairDriver.Calibration
