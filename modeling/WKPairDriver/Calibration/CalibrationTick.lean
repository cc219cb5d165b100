import Mathlib
import WKPairDriver.Lib.EarlyReturn
import WKPairDriver.Calibration.Context

/-!
# The calibration tick

`CalibrationTick` from its first gate to its end, with every early return, and the operations the
user has between two ticks.  What a tick learns from SteamVR, from the poses and from the solver is
its input.

* `tick` — the blocks of the tick in their order; `.ok` is a tick that came to its end.
* `StartContinuousCalibration`, `EndContinuousCalibration` — the two profile snapshots of a session.
* `geometryShiftWatchdog` — the watchdog on the error series, which runs in every state.
* `TickBoundaryRePush` — the start-up push of the boundary, from the end of the tick.
-/

set_option autoImplicit false

namespace WKPairDriver.Calibration.Tick

open Lib

/-! ## The session -/

/-- Who assigned the state. -/
inductive Cause where
  | user
  | tick
  | watchdog
deriving DecidableEq

/-- The rotation and the translation of a calibration. -/
abbrev Transform := Vector3d × Vector3d

/-- What a reader of the log sees. -/
inductive Event where
  | state (cause : Cause) (before after : CalibrationState)
  | restarted
  | sourceReset
  | accepted (calibration : Transform)
  | pushed (calibration : Transform)
deriving DecidableEq

structure CalibrationProfileSnapshot where
  validProfile : Bool
  referenceTrackingSystem : String
  targetTrackingSystem : String
  referenceStandby : StandbyDevice
  targetStandby : StandbyDevice
  calibratedRotation : Vector3d
  calibratedTranslation : Vector3d
  calibratedScale : ℚ
  refToTargetPose : AffineCompact3d
  relativePosCalibrated : Bool

def CaptureProfileSnapshot (ctx : CalibrationContext) : CalibrationProfileSnapshot where
  validProfile := ctx.validProfile
  referenceTrackingSystem := ctx.referenceTrackingSystem
  targetTrackingSystem := ctx.targetTrackingSystem
  referenceStandby := ctx.referenceStandby
  targetStandby := ctx.targetStandby
  calibratedRotation := ctx.calibratedRotation
  calibratedTranslation := ctx.calibratedTranslation
  calibratedScale := ctx.calibratedScale
  refToTargetPose := ctx.refToTargetPose
  relativePosCalibrated := ctx.relativePosCalibrated

def RestoreProfileSnapshot (ctx : CalibrationContext) (snap : CalibrationProfileSnapshot) :
    CalibrationContext :=
  { ctx with
    validProfile := snap.validProfile
    referenceTrackingSystem := snap.referenceTrackingSystem
    targetTrackingSystem := snap.targetTrackingSystem
    referenceStandby := snap.referenceStandby
    targetStandby := snap.targetStandby
    calibratedRotation := snap.calibratedRotation
    calibratedTranslation := snap.calibratedTranslation
    calibratedScale := snap.calibratedScale
    refToTargetPose := snap.refToTargetPose
    relativePosCalibrated := snap.relativePosCalibrated }

/-- What the tick reads of `calibration`: whether it has a transform, and its live samples. -/
structure CalibrationCalc where
  isValid : Bool
  SampleCount : ℕ

def CalibrationCalc.Clear : CalibrationCalc := ⟨false, 0⟩

/-- The statics of the boundary re-push. -/
structure RePush where
  g_firstPush : Bool
  g_startupPushPending : ℕ
  g_prevPushable : Bool
deriving DecidableEq

/-- The context, its runtime fields and the statics of the tick.  A missing snapshot is one that was
    not captured; `savedProfile` is the context of the last save. -/
structure Session where
  ctx : CalibrationContext
  hasAppliedCalibrationResult : Bool
  continuousStartSnapshot : Option CalibrationProfileSnapshot
  lastAcceptedContinuousSnapshot : Option CalibrationProfileSnapshot
  timeLastTick : ℚ
  geometryShiftGraceUntil : ℚ
  geometryShiftCooldownUntil : ℚ
  prev : Vector3d
  calibration : CalibrationCalc
  error_currentCal : List (ℚ × ℚ)
  s_lastErrorTs : ℚ
  g_geomShiftConsecutiveBadTicks : ℕ
  rePush : RePush
  savedProfile : CalibrationContext
  trace : List Event

namespace Session

variable (s : Session)

def state : CalibrationState := s.ctx.state

def transform : Transform := (s.ctx.calibratedRotation, s.ctx.calibratedTranslation)

def note (e : Event) : Session := { s with trace := e :: s.trace }

/-- An assignment to `CalCtx.state`. -/
def setState (cause : Cause) (state : CalibrationState) : Session :=
  { s with
    ctx := { s.ctx with state := state }
    trace := .state cause s.ctx.state state :: s.trace }

def SaveProfile : Session := { s with savedProfile := s.ctx }

end Session

def InContinuousFamily (state : CalibrationState) : Bool :=
  state = .Continuous || state = .ContinuousStandby

/-- The buffer size of a resolved speed. -/
def SampleCount : Speed → ℕ
  | .FAST => 30
  | .SLOW => 100
  | .VERY_SLOW => 200
  | .AUTO => 30

/-! ## Starting, cancelling and ending -/

def kGeometryShiftGraceSeconds : ℚ := 3.0

variable (cause : Cause) (now : ℚ) (s : Session)

def StartCalibration : Session :=
  { s.setState cause .Begin with
    hasAppliedCalibrationResult := false
    calibration := .Clear
    error_currentCal := []
    geometryShiftGraceUntil := now + kGeometryShiftGraceSeconds }

/-- `SeedEstimatedTransformation` with the transform of a valid profile. -/
def seedProfile : Session :=
  if s.ctx.validProfile then { s with calibration := { s.calibration with isValid := true } } else s

def StartContinuousCalibration : Session :=
  seedProfile ((StartCalibration cause now
    ({ s with
      continuousStartSnapshot := some (CaptureProfileSnapshot s.ctx)
      lastAcceptedContinuousSnapshot := none }.note .restarted)).setState cause .Continuous)

def CancelCalibration : Session :=
  if s.state ≠ .Begin ∧ s.state ≠ .Rotation ∧ s.state ≠ .Translation then s
  else { s.setState cause .None with calibration := .Clear }

/-- What is restored at the end: the last accepted snapshot, else the one of the start. -/
def selectedSnapshot : Option CalibrationProfileSnapshot :=
  s.lastAcceptedContinuousSnapshot <|> s.continuousStartSnapshot

def restoreSelected : Session :=
  match selectedSnapshot s with
  | none => s
  | some snap =>
    let s := { s with ctx := RestoreProfileSnapshot s.ctx snap }
    if s.ctx.validProfile then s.SaveProfile else s

def EndContinuousCalibration : Session :=
  { restoreSelected (s.setState cause .None) with
    continuousStartSnapshot := none
    lastAcceptedContinuousSnapshot := none }

def RecoverFromWedgedCalibration : Session :=
  StartContinuousCalibration cause now
    { s with
      ctx := s.ctx.clearRuntimeCalibrationForRecovery
      hasAppliedCalibrationResult := false
      lastAcceptedContinuousSnapshot := none
      calibration := .Clear }

/-! ## What a tick reads -/

/-- A solve: whether it produced a candidate, and the candidate. -/
structure SolveResult where
  produced : Bool
  rotation : Vector3d
  translation : Vector3d
  refToTargetPose : AffineCompact3d
  relativePosCalibrated : Bool

structure TickInput where
  time : ℚ
  /-- `glfwGetTime()` in a restart. -/
  glfwTime : ℚ
  vrSystem : Bool
  idsInRange : Bool
  /-- A re-localization of the headset with every gate of the recovery but the state. -/
  relocalized : Bool
  /-- The additional calibrations show the same spike. -/
  coherent : Bool
  motionQualityReject : Bool
  hmdPos : Vector3d
  AssignTargets : Bool
  /-- What the base station drift check makes of the transform. -/
  driftCorrection : Option Transform
  referencePresent : Bool
  targetPresent : Bool
  beginReady : Bool
  lockRelativePosition : Bool
  anchorOffline : Bool
  anchorReturned : Bool
  sourceReset : Bool
  shadowOffset : Option AffineCompact3d
  posesTracking : Bool
  /-- `PushSample` keeps the sample. -/
  sampleKept : Bool
  /-- The resolved speed at the fill check, at the trim and at the end; it may change in between. -/
  fillSpeed : Speed
  trimSpeed : Speed
  dropSpeed : Speed
  rotationDiverse : Bool
  translationDiverse : Bool
  triggerReleased : Bool
  calibrationPaused : Bool
  /-- The errors that the solves of the primary and of the additional calibrations push, each with
      the time of its push. -/
  errors : List (ℚ × ℚ)
  extraErrors : List (ℚ × ℚ)
  solve : SolveResult
  warmRestartFails : Bool
  chaperoneSnapshot : List UInt8
  /-- `PushToChaperone` succeeds. -/
  chaperoneWritten : Bool

variable (t : TickInput)

/-! ## The gates and the watchdog -/

def gates : Except Session Session :=
  if t.vrSystem = false then .error s
  else if t.time - s.timeLastTick < 0.05 then .error s
  else returnIf (!t.idsInRange) s

/-- The recovery of the re-localization detector, in its two states only. -/
def TickHmdRelocalizationDetector : Session :=
  if t.relocalized && InContinuousFamily s.state then
    RecoverFromWedgedCalibration .tick t.glfwTime s
  else s

def kSpikeRatio : ℚ := 5.0
def kMedianFloor : ℚ := 1e-9
def kMinSustainedSpikes : ℕ := 3
def kPostFireCooldownSeconds : ℚ := 30.0

def IsCurrentErrorSpike (currentError rollingMedian : ℚ) : Bool :=
  decide (kMedianFloor < rollingMedian) && decide (kSpikeRatio * rollingMedian < currentError)

def ShouldFireGeometryShiftRecovery (sustainedSpikes : ℕ) : Bool :=
  decide (kMinSustainedSpikes ≤ sustainedSpikes)

def ShouldSuppressForCooldown (now cooldownUntil : ℚ) : Bool := decide (now < cooldownUntil)

/-- Of the last 30 errors. -/
def rollingMedian (errors : List (ℚ × ℚ)) : ℚ :=
  let tail := ((errors.drop (errors.length - 30)).map Prod.snd).insertionSort (· ≤ ·)
  tail.getD (tail.length / 2) 0

def inGeometryShiftGrace (time : ℚ) : Bool :=
  decide (0 < s.geometryShiftGraceUntil) && decide (time < s.geometryShiftGraceUntil)

/-- The error sample that was pushed last, if the watchdog has not counted it. -/
def freshError? : Option (ℚ × ℚ) :=
  s.error_currentCal.getLast?.filter fun p => decide (s.s_lastErrorTs < p.1)

/-- The spike run with a new error sample. -/
def countSpike (current : ℚ) : ℕ :=
  if IsCurrentErrorSpike current (rollingMedian s.error_currentCal) then
    s.g_geomShiftConsecutiveBadTicks + 1
  else 0

/-- A spike run of full length is dropped without a restart. -/
def suppressed (current : ℚ) : Bool :=
  t.coherent || ShouldSuppressForCooldown t.time s.geometryShiftCooldownUntil ||
    (s.state = .Continuous && s.lastAcceptedContinuousSnapshot.isNone && t.motionQualityReject &&
      !IsCurrentErrorSpike current (rollingMedian s.error_currentCal))

/-- The geometry shift is taken as one: a fresh calibration is due. -/
def demote : Session :=
  { s.setState .watchdog .ContinuousStandby with
    calibration := .Clear
    geometryShiftCooldownUntil := t.time + kPostFireCooldownSeconds
    g_geomShiftConsecutiveBadTicks := 0 }

def countError (p : ℚ × ℚ) : Session :=
  let count := countSpike s p.2
  let s' := { s with s_lastErrorTs := p.1, g_geomShiftConsecutiveBadTicks := count }
  if !ShouldFireGeometryShiftRecovery count then s'
  else if suppressed s t p.2 then { s' with g_geomShiftConsecutiveBadTicks := 0 }
  else demote s' t

def geometryShiftWatchdog : Session :=
  if inGeometryShiftGrace s t.time then { s with g_geomShiftConsecutiveBadTicks := 0 }
  else if 5 ≤ s.error_currentCal.length ∧ s.calibration.isValid = true then
    match freshError? s with
    | none => s
    | some p => countError s t p
  else { s with g_geomShiftConsecutiveBadTicks := 0 }

/-! ## From the headset check to the sample -/

def narrow (p : Vector3d) : Vector3d := ⟨(toFloat p.x).val, (toFloat p.y).val, (toFloat p.z).val⟩

/-- A headset position that did not change ends the tick. -/
def hmdStall : Except Session Session :=
  if t.hmdPos = .Zero ∨ s.prev = t.hmdPos then .error s else .ok { s with prev := narrow t.hmdPos }

def standby : Except Session Session :=
  if s.state = .ContinuousStandby then
    if t.AssignTargets then .ok (StartContinuousCalibration .tick t.glfwTime s) else .error s
  else .ok s

/-- `TickBaseStationDrift`. -/
def correctDrift : Session :=
  match t.driftCorrection with
  | none => s
  | some (rotation, translation) =>
    { s with ctx := { s.ctx with
      calibratedRotation := rotation
      calibratedTranslation := translation } }

def idle : Except Session Session :=
  if s.state = .None then .error (correctDrift s t) else returnIf (s.state = .Editing) s

/-- The checks of the devices; the first tick of a one-shot calibration ends here. -/
def checkDevices : Except Session Session :=
  let ok := t.referencePresent && t.targetPresent && (s.state ≠ .Begin || t.beginReady)
  if s.state = .Begin ∧ ok then .error (s.setState .tick .Rotation)
  else if ok then .ok s
  else if s.state ≠ .Continuous then .error (s.setState .tick .None)
  else .error s

def liveness : Except Session Session :=
  if s.state ≠ .Continuous then .ok s
  else if t.anchorOffline then .error s
  else if t.anchorReturned && !(t.lockRelativePosition && s.ctx.relativePosCalibrated) then
    .error (StartContinuousCalibration .tick t.glfwTime s)
  else .ok s

def ClearHeadMountContinuousSourceState : Session :=
  seedProfile
    ({ s with
      ctx := { s.ctx with refToTargetPose := .Identity, relativePosCalibrated := false }
      calibration := .Clear
      lastAcceptedContinuousSnapshot := none }.note .sourceReset)

def TickHeadMountSourceTransitionGuard : Session :=
  if t.sourceReset && InContinuousFamily s.state then ClearHeadMountContinuousSourceState s else s

/-- A shadow offset is applied with a valid profile only, and saved. -/
def TickHeadMountShadowOffsetEstimator : Session :=
  match t.shadowOffset with
  | none => s
  | some candidate =>
    if s.state = .Continuous ∧ s.ctx.validProfile = true then
      ClearHeadMountContinuousSourceState
        { s with ctx := { s.ctx with headMount :=
          { s.ctx.headMount with headFromTracker := candidate, offsetCalibrated := true } }
        }.SaveProfile
    else s

def CollectSample : Except Session Session :=
  if t.posesTracking then
    .ok { s with calibration :=
      { s.calibration with SampleCount := s.calibration.SampleCount + t.sampleKept.toNat } }
  else if s.state ≠ .Continuous then .error (s.setState .tick .None)
  else .error s

/-! ## The solve and its candidate -/

def fillBuffer : Except Session Session :=
  if s.calibration.SampleCount < SampleCount t.fillSpeed then .error s
  else .ok { s with calibration :=
    { s.calibration with
      SampleCount := min s.calibration.SampleCount (SampleCount t.trimSpeed) } }

def ShiftSample (count : ℕ) : Session :=
  { s with calibration := { s.calibration with SampleCount := s.calibration.SampleCount - count } }

/-- The two phases of a one-shot calibration. -/
def phases : Except Session Session :=
  match s.state with
  | .Rotation =>
    if t.rotationDiverse then
      .error ({ s with calibration := { s.calibration with SampleCount := 0 } }.setState
        .tick .Translation)
    else .error (ShiftSample s 1)
  | .Translation => if t.translationDiverse then .ok s else .error (ShiftSample s 1)
  | _ => .ok s

def triggerWait : Except Session Session :=
  returnIf (s.state = .Continuous && s.ctx.requireTriggerPressToApply &&
    s.hasAppliedCalibrationResult && t.triggerReleased) s

def TimeSpan : ℚ := 30
def kMaxPoints : ℕ := 4096

/-- The points a time series drops from its front. -/
def trim (cutoff : ℚ) : List (ℚ × ℚ) → List (ℚ × ℚ)
  | [] => []
  | p :: rest =>
    if p.1 < cutoff ∨ kMaxPoints < (p :: rest).length then trim cutoff rest else p :: rest

def pushErrors (errors : List (ℚ × ℚ)) : Session :=
  { s with error_currentCal :=
    errors.foldl (fun series p => trim (p.1 - TimeSpan) (series ++ [p])) s.error_currentCal }

/-- A candidate makes the calculation valid. -/
def solved : Session :=
  { s with calibration :=
    { s.calibration with isValid := s.calibration.isValid || t.solve.produced } }

/-- `ComputeIncremental` unless the user paused it, or `ComputeOneshot`. -/
def solve : Session :=
  if s.state = .Continuous then
    if t.calibrationPaused then s
    else
      let s := solved (pushErrors s t.errors) t
      let s := if t.warmRestartFails then RecoverFromWedgedCalibration .tick t.glfwTime s else s
      pushErrors s t.extraErrors
  else solved s t

/-- A candidate was produced, and nothing cleared the calculation since. -/
def hasPublishableCandidate : Bool :=
  (s.state ≠ .Continuous || !t.calibrationPaused) && t.solve.produced && s.calibration.isValid

/-- The candidate is put in place and saved. -/
def applyCandidate : Session :=
  ({ s with
    hasAppliedCalibrationResult := true
    ctx := { s.ctx with
      calibratedRotation := t.solve.rotation
      calibratedTranslation := t.solve.translation
      refToTargetPose := t.solve.refToTargetPose
      relativePosCalibrated := t.solve.relativePosCalibrated
      validProfile := true } }.SaveProfile).note (.accepted (t.solve.rotation, t.solve.translation))

def accept : Session :=
  let s' := applyCandidate s t
  if s.state = .Continuous then
    { s' with lastAcceptedContinuousSnapshot := some (CaptureProfileSnapshot s'.ctx) }
  else s'

def publish : Session := if hasPublishableCandidate s t then accept s t else s

/-! ## The boundary -/

def kStartupGraceTicks : ℕ := 30

/-- The count that is left, and whether the push fires. -/
def StepStartupCountdown (pushable : Bool) (pending : ℕ) : ℕ × Bool :=
  if pending = 0 then (0, false)
  else if pushable = false then (pending, false)
  else (pending - 1, decide (pending - 1 = 0))

def pushable : Bool :=
  s.ctx.boundary.enabled && !s.ctx.boundary.vertices.isEmpty && s.ctx.validProfile

def captureChaperone : BoundaryConfig :=
  if s.ctx.boundary.priorChaperoneCaptured = false ∧ t.chaperoneSnapshot ≠ [] then
    { s.ctx.boundary with
      priorChaperone := t.chaperoneSnapshot
      priorChaperoneCaptured := true }
  else s.ctx.boundary

def DoPush : Session :=
  if s.ctx.boundary.vertices = [] then s
  else
    let s := { s with ctx := { s.ctx with boundary := captureChaperone s t } }
    if t.chaperoneWritten then
      { s with rePush := { s.rePush with g_firstPush := false } }.note (.pushed s.transform)
    else s

def RePush.schedule (r : RePush) : RePush :=
  { r with g_startupPushPending := kStartupGraceTicks, g_firstPush := true }

def ScheduleBoundaryStartupPush : Session := { s with rePush := s.rePush.schedule }

/-- A boundary that has become pushable is scheduled again. -/
def rearmed : RePush :=
  if pushable s && !s.rePush.g_prevPushable then s.rePush.schedule else s.rePush

/-- `TickBoundaryRePush`.  Once pushed, the boundary stays fixed: dynamic pushes are disabled. -/
def TickBoundaryRePush : Session :=
  let sc := StepStartupCountdown (pushable s) (rearmed s).g_startupPushPending
  let s' := { s with rePush := ⟨(rearmed s).g_firstPush, sc.1, pushable s⟩ }
  if sc.2 then DoPush s' t
  else if pushable s = false ∨ 0 < sc.1 then s'
  else if s'.rePush.g_firstPush then DoPush s' t
  else s'

/-! ## The tick -/

/-- A one-shot calibration is over; a continuous one makes room for new samples. -/
def lastBlock : Session :=
  if s.state ≠ .Continuous then { s.setState .tick .None with calibration := .Clear }
  else ShiftSample s (SampleCount t.dropSpeed / 10)

/-- What is left when no block returned. -/
def atEnd (s : Session) : Session :=
  lastBlock (TickBoundaryRePush (publish (solve s t) t) t) t

/-- The blocks behind the watchdog. -/
def afterWatchdog (s : Session) : Except Session Session := do
  let s ← hmdStall { s with timeLastTick := t.time } t
  let s ← standby s t
  let s ← idle s t
  let s ← checkDevices s t
  let s ← liveness s t
  let s := TickHeadMountShadowOffsetEstimator (TickHeadMountSourceTransitionGuard s t) t
  let s ← CollectSample s t
  let s ← fillBuffer s t
  let s ← phases s t
  let s ← triggerWait s t
  .ok (atEnd t s)

def tick (s : Session) : Except Session Session := do
  let s ← gates s t
  afterWatchdog t (geometryShiftWatchdog (TickHmdRelocalizationDetector s t) t)

def CalibrationTick : Session := finish (tick t s)

end WKPairDriver.Calibration.Tick
