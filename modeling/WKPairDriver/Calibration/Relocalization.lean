import Mathlib
import WKPairDriver.Calibration.BaseStationDrift
import WKPairDriver.Lib.Run

/-!
# HMD relocalization: `TickHmdRelocalizationDetectorImpl`

The detector fires when the HMD jumps while base stations and body devices of other tracking systems
keep still, and clears the calibration when the jump is large.  The base stations are compared with
the cache of the base-station detector, which is written in state None only, and devices without a
cached pose are passed over: both maxima start at zero.

* `triggers_of_fires` — what the detector looks at when it fires.
* `relocalization_corroborated` — in runs in which it has something to compare at every jump, it
  fires on corroborated evidence only.
* `headMotion_fires` — with the trackers off and no cached station it fires on head motion.
-/

set_option autoImplicit false

namespace WKPairDriver.Calibration.Recovery

open Lib

variable {G V K : Type} [Group G] [AddGroup V] [Field K] [LinearOrder K]

/-! ## The detector -/

def kRelocHmdJumpM : K := 0.05
def kRelocBodyMaxDeltaM : K := 0.05
def kRelocBaseStableM : K := 0.001
def kRelocThrottleSec : K := 5.0
def kRelocMinBaseStations : Nat := 2
def kRelocAutoRecoverThresholdM : K := 0.30
def kRelocAutoRecoverStartupSec : K := 30.0
def kRelocAutoRecoverThrottleSec : K := 30.0
def kRelocAutoRecoverPostStallSec : K := 10.0
def kSnapHmdJumpM : K := 0.30
def kSnapTrackerMaxDispM : K := 0.02

def k_unTrackedDeviceIndex_Hmd : Fin k_unMaxTrackedDeviceCount := ⟨0, by decide⟩

def corroborates (mode : HeadMountMode) : Bool := decide (2 ≤ mode.toInt)

/-- A jump without head-mount motion is a snap of the HMD's own tracking. -/
def IsJumpClassifiedAsSnap (mode : HeadMountMode) (hmdDeltaM trackerDeltaM : K) : Bool :=
  corroborates mode && !decide (trackerDeltaM < 0) &&
    decide (kSnapHmdJumpM ≤ hmdDeltaM) && decide (trackerDeltaM < kSnapTrackerMaxDispM)

structure RelocalizationDetectorState (G V K : Type) where
  havePrevHmd : Bool
  prevHmd : G
  hmdTrackingSystem : String
  prevBodyTrans : Fin k_unMaxTrackedDeviceCount → Option V
  lastFireTime : K
  havePrevHeadTracker : Bool
  prevHeadTrackerTrans : V
  lastFireDelta : V
  lastHmdInvalidTime : K
  lastAutoRecoverTime : K

variable (geo : RigidGeometry G V K)

def RigidGeometry.dist (p q : G) : K := geo.norm (geo.translation p - geo.translation q)

/-- How far a station is from its cached pose, if it has one. -/
def stationDelta? (cache : BaseStationCache G) (d : TrackedDevice G V) : Option K :=
  if d.isStation then
    (d.serialNumber.bind cache).map fun e => geo.dist d.pose e.pose
  else none

/-- A usable tracker or controller of a tracking system other than the HMD's. -/
def TrackedDevice.isBody (hmdTrackingSystem : String) (d : TrackedDevice G V) : Bool :=
  (decide (d.deviceClass = .GenericTracker) || decide (d.deviceClass = .Controller)) && d.tracks &&
    match d.trackingSystemName with
    | none => false
    | some system => system != hmdTrackingSystem

/-- How far a body device is from where it was, if that is known. -/
def bodyDelta? (hmdTrackingSystem : String) (prev : Option V) (d : TrackedDevice G V) : Option K :=
  if d.isBody hmdTrackingSystem then prev.map fun v => geo.norm (geo.translation d.pose - v)
  else none

/-- The running maximum of the scans: it starts at zero. -/
def maxDelta (deltas : List K) : K := deltas.foldl (fun m d => if m < d then d else m) 0

def bsMaxDelta (cache : BaseStationCache G) (devicePoses : DevicePoses G V) : K :=
  maxDelta ((List.finRange k_unMaxTrackedDeviceCount).filterMap fun id =>
    stationDelta? geo cache (devicePoses id))

def bsCount (devicePoses : DevicePoses G V) : Nat :=
  (List.finRange k_unMaxTrackedDeviceCount).countP fun id => (devicePoses id).isStation

def bodyMaxDelta (hmdTrackingSystem : String)
    (prevBodyTrans : Fin k_unMaxTrackedDeviceCount → Option V) (devicePoses : DevicePoses G V) :
    K :=
  maxDelta ((List.finRange k_unMaxTrackedDeviceCount).filterMap fun id =>
    bodyDelta? geo hmdTrackingSystem (prevBodyTrans id) (devicePoses id))

structure HeadMount where
  mode : HeadMountMode
  deviceID : ℤ

/-- The device that corroborates, if it is in range. -/
def HeadMount.device? (hm : HeadMount) (devicePoses : DevicePoses G V) :
    Option (TrackedDevice G V) :=
  if corroborates hm.mode = true ∧ 0 ≤ hm.deviceID then
    if h : hm.deviceID.toNat < k_unMaxTrackedDeviceCount then
      some (devicePoses ⟨hm.deviceID.toNat, h⟩)
    else none
  else none

/-- The displacement of the head tracker, -1 without a reading, and the state that keeps it. -/
def headTrackerStep (hm : HeadMount) (devicePoses : DevicePoses G V)
    (s : RelocalizationDetectorState G V K) : K × RelocalizationDetectorState G V K :=
  match hm.device? devicePoses with
  | none => (-1, { s with havePrevHeadTracker := false })
  | some tp =>
    if tp.tracks then
      (if s.havePrevHeadTracker then geo.norm (tp.vecPosition - s.prevHeadTrackerTrans) else -1,
       { s with prevHeadTrackerTrans := tp.vecPosition, havePrevHeadTracker := true })
    else (-1, { s with havePrevHeadTracker := false })

/-- What a tick of the detector decided. -/
structure RelocOutcome where
  fired : Bool
  /-- The calibration was cleared: a recovery that is not a snap. -/
  cleared : Bool

/-- The part of a tick behind its early returns. -/
def evaluateTrigger (state : CalibrationState) (headMount : HeadMount)
    (devicePoses : DevicePoses G V) (cache : BaseStationCache G) (now : K)
    (s : RelocalizationDetectorState G V K) : RelocalizationDetectorState G V K × RelocOutcome :=
  let hmdPose := (devicePoses k_unTrackedDeviceIndex_Hmd).pose
  let bodyMax := bodyMaxDelta geo s.hmdTrackingSystem s.prevBodyTrans devicePoses
  let (headTrackerDelta, s) := headTrackerStep geo headMount devicePoses s
  let hmdDelta := geo.dist hmdPose s.prevHmd
  let fired := s.havePrevHmd && decide (kRelocMinBaseStations ≤ bsCount devicePoses) &&
    !decide (now - s.lastFireTime < kRelocThrottleSec) && decide (kRelocHmdJumpM < hmdDelta) &&
    decide (bodyMax < kRelocBodyMaxDeltaM) &&
    decide (bsMaxDelta geo cache devicePoses < kRelocBaseStableM)
  let s :=
    if fired then
      { s with
        lastFireTime := now
        lastFireDelta := geo.translation hmdPose - geo.translation s.prevHmd }
    else s
  let currentHmdDelta := if s.havePrevHmd then hmdDelta else 0
  let recovers := fired && decide (kRelocAutoRecoverThresholdM ≤ currentHmdDelta) &&
    (decide (state = .Continuous) || decide (state = .ContinuousStandby)) &&
    decide (kRelocAutoRecoverStartupSec ≤ now) &&
    decide (kRelocAutoRecoverThrottleSec ≤ now - s.lastAutoRecoverTime) &&
    !decide (now - s.lastHmdInvalidTime < kRelocAutoRecoverPostStallSec)
  let s := if recovers then { s with lastAutoRecoverTime := now } else s
  ({ s with
     prevHmd := hmdPose
     havePrevHmd := true
     prevBodyTrans := fun id =>
       if (devicePoses id).isBody s.hmdTrackingSystem then
         some (geo.translation (devicePoses id).pose)
       else none },
   ⟨fired, recovers && !IsJumpClassifiedAsSnap headMount.mode currentHmdDelta headTrackerDelta⟩)

/-- The cached poses are given up. -/
def RelocalizationDetectorState.dropped (s : RelocalizationDetectorState G V K) :
    RelocalizationDetectorState G V K :=
  { s with havePrevHmd := false, prevBodyTrans := fun _ => none, havePrevHeadTracker := false }

/-- The tracking system of the HMD, read once. -/
def hmdSystem? (hmdRaw : TrackedDevice G V) (s : RelocalizationDetectorState G V K) :
    Option String :=
  if s.hmdTrackingSystem.isEmpty then hmdRaw.trackingSystemName else some s.hmdTrackingSystem

def TickHmdRelocalizationDetectorImpl (state : CalibrationState) (headMount : HeadMount)
    (devicePoses : DevicePoses G V) (cache : BaseStationCache G) (now : K)
    (s : RelocalizationDetectorState G V K) : RelocalizationDetectorState G V K × RelocOutcome :=
  if state = .Begin ∨ state = .Rotation ∨ state = .Translation then (s.dropped, ⟨false, false⟩)
  else
    let hmdRaw := devicePoses k_unTrackedDeviceIndex_Hmd
    if hmdRaw.tracks = false then ({ s.dropped with lastHmdInvalidTime := now }, ⟨false, false⟩)
    else
      match hmdSystem? hmdRaw s with
      | none => (s, ⟨false, false⟩)
      | some system =>
        evaluateTrigger geo state headMount devicePoses cache now
          { s with hmdTrackingSystem := system }

/-! ## When it fires -/

omit [Field K] in
theorem le_foldl_max (deltas : List K) (m : K) :
    m ≤ deltas.foldl (fun m d => if m < d then d else m) m ∧
      ∀ d ∈ deltas, d ≤ deltas.foldl (fun m d => if m < d then d else m) m := by
  induction deltas generalizing m with
  | nil => exact ⟨le_rfl, by simp⟩
  | cons d ds ih =>
    rw [List.foldl_cons]
    obtain ⟨hm, hds⟩ := ih (if m < d then d else m)
    have hboth : m ≤ (if m < d then d else m) ∧ d ≤ if m < d then d else m := by
      split_ifs with h
      · exact ⟨h.le, le_rfl⟩
      · exact ⟨le_rfl, not_lt.1 h⟩
    refine ⟨hboth.1.trans hm, fun e he => ?_⟩
    rcases List.mem_cons.1 he with rfl | he
    · exact hboth.2.trans hm
    · exact hds e he

/-- What lies below the maximum's bound lies below it delta by delta. -/
theorem lt_of_maxDelta_lt {deltas : List K} {bound d : K} (h : maxDelta deltas < bound)
    (hd : d ∈ deltas) : d < bound :=
  ((le_foldl_max deltas 0).2 d hd).trans_lt h

section Fires

variable {state : CalibrationState} {headMount : HeadMount} {devicePoses : DevicePoses G V}
  {cache : BaseStationCache G} {now : K} {s : RelocalizationDetectorState G V K}

omit [LinearOrder K] in
theorem headTrackerStep_eq (hm : HeadMount) (devicePoses : DevicePoses G V)
    (s : RelocalizationDetectorState G V K) : ∃ delta valid trans,
      headTrackerStep geo hm devicePoses s =
        (delta, { s with havePrevHeadTracker := valid, prevHeadTrackerTrans := trans }) := by
  unfold headTrackerStep
  split
  · exact ⟨_, _, _, rfl⟩
  · split_ifs <;> exact ⟨_, _, _, rfl⟩

/-- What the trigger looks at. -/
structure Triggers (devicePoses : DevicePoses G V) (cache : BaseStationCache G) (now : K)
    (s : RelocalizationDetectorState G V K) : Prop where
  known : s.havePrevHmd = true
  stations : kRelocMinBaseStations ≤ bsCount devicePoses
  unthrottled : ¬now - s.lastFireTime < kRelocThrottleSec
  jumped : kRelocHmdJumpM < geo.dist (devicePoses k_unTrackedDeviceIndex_Hmd).pose s.prevHmd
  bodies : bodyMaxDelta geo s.hmdTrackingSystem s.prevBodyTrans devicePoses < kRelocBodyMaxDeltaM
  bases : bsMaxDelta geo cache devicePoses < kRelocBaseStableM

theorem evaluateTrigger_fired :
    (evaluateTrigger geo state headMount devicePoses cache now s).2.fired = true ↔
      Triggers geo devicePoses cache now s := by
  obtain ⟨delta, valid, trans, hstep⟩ := headTrackerStep_eq geo headMount devicePoses s
  simp only [evaluateTrigger, hstep, Bool.and_eq_true, Bool.not_eq_true', decide_eq_true_eq,
    decide_eq_false_iff_not]
  constructor
  · rintro ⟨⟨⟨⟨⟨h1, h2⟩, h3⟩, h4⟩, h5⟩, h6⟩
    exact ⟨h1, h2, h3, h4, h5, h6⟩
  · rintro ⟨h1, h2, h3, h4, h5, h6⟩
    exact ⟨⟨⟨⟨⟨h1, h2⟩, h3⟩, h4⟩, h5⟩, h6⟩

/-- A tick that clears the calibration fires. -/
theorem evaluateTrigger_cleared
    (h : (evaluateTrigger geo state headMount devicePoses cache now s).2.cleared = true) :
    (evaluateTrigger geo state headMount devicePoses cache now s).2.fired = true := by
  obtain ⟨delta, valid, trans, hstep⟩ := headTrackerStep_eq geo headMount devicePoses s
  simp only [evaluateTrigger, hstep, Bool.and_eq_true] at h ⊢
  exact h.1.1.1.1.1.1

theorem evaluateTrigger_prevBodyTrans :
    (evaluateTrigger geo state headMount devicePoses cache now s).1.prevBodyTrans = fun id =>
      if (devicePoses id).isBody s.hmdTrackingSystem then
        some (geo.translation (devicePoses id).pose)
      else none := by
  obtain ⟨delta, valid, trans, hstep⟩ := headTrackerStep_eq geo headMount devicePoses s
  simp only [evaluateTrigger, hstep]
  funext id
  split_ifs <;> rfl

/-- The trigger is not looked at: in one-shot calibration, or without a usable HMD. -/
def Skips (state : CalibrationState) (devicePoses : DevicePoses G V) : Prop :=
  (state = .Begin ∨ state = .Rotation ∨ state = .Translation) ∨
    (devicePoses k_unTrackedDeviceIndex_Hmd).tracks = false

variable (state headMount devicePoses cache now s) in
/-- The three ways a tick of the detector ends. -/
theorem TickHmdRelocalizationDetectorImpl_cases :
    (∃ time, TickHmdRelocalizationDetectorImpl geo state headMount devicePoses cache now s =
        ({ s.dropped with lastHmdInvalidTime := time }, ⟨false, false⟩)) ∨
    (hmdSystem? (devicePoses k_unTrackedDeviceIndex_Hmd) s = none ∧
      TickHmdRelocalizationDetectorImpl geo state headMount devicePoses cache now s =
        (s, ⟨false, false⟩)) ∨
    (¬Skips state devicePoses ∧
      ∃ system, hmdSystem? (devicePoses k_unTrackedDeviceIndex_Hmd) s = some system ∧
        TickHmdRelocalizationDetectorImpl geo state headMount devicePoses cache now s =
          evaluateTrigger geo state headMount devicePoses cache now
            { s with hmdTrackingSystem := system }) := by
  unfold TickHmdRelocalizationDetectorImpl
  by_cases hstate : state = .Begin ∨ state = .Rotation ∨ state = .Translation
  · exact .inl ⟨s.lastHmdInvalidTime, by rw [if_pos hstate]; rfl⟩
  rw [if_neg hstate]
  by_cases htracks : (devicePoses k_unTrackedDeviceIndex_Hmd).tracks = false
  · exact .inl ⟨now, if_pos htracks⟩
  simp only [if_neg htracks]
  cases hsys : hmdSystem? (devicePoses k_unTrackedDeviceIndex_Hmd) s with
  | none => exact .inr (.inl ⟨rfl, rfl⟩)
  | some system => exact .inr (.inr ⟨fun hskip => hskip.elim hstate htracks, system, rfl, rfl⟩)

/-- **When the detector fires or clears.** -/
theorem triggers_of_fires {s' : RelocalizationDetectorState G V K} {outcome : RelocOutcome}
    (h : TickHmdRelocalizationDetectorImpl geo state headMount devicePoses cache now s =
      (s', outcome)) (hfires : outcome.fired = true ∨ outcome.cleared = true) :
    ¬Skips state devicePoses ∧
      ∃ system, hmdSystem? (devicePoses k_unTrackedDeviceIndex_Hmd) s = some system ∧
        Triggers geo devicePoses cache now { s with hmdTrackingSystem := system } := by
  rcases TickHmdRelocalizationDetectorImpl_cases geo state headMount devicePoses cache now s with
    ⟨_, heq⟩ | ⟨_, heq⟩ | ⟨hskips, system, hsys, heq⟩ <;> rw [heq] at h
  · cases h
    simp at hfires
  · cases h
    simp at hfires
  · obtain rfl : _ = outcome := congrArg Prod.snd h
    exact ⟨hskips, system, hsys,
      (evaluateTrigger_fired geo).1 (hfires.elim id (evaluateTrigger_cleared geo))⟩

end Fires

/-! ## Runs -/

/-- A tick that reaches the detectors. -/
structure RecoveryTick (G V K : Type) where
  time : K
  state : CalibrationState
  devicePoses : DevicePoses G V
  headMount : HeadMount
  cfg : DriftConfig
  /-- The position of the HMD is the one of the tick before. -/
  hmdStalled : Bool

/-- Both detectors with the stored calibrations, and the tick before: what it saw, and whether it
    wrote the base-station cache and the body positions. -/
structure RecoverySystem (G V K : Type) where
  drift : DriftState G K
  reloc : RelocalizationDetectorState G V K
  calibrations : Calibrations G
  previous : Option (DevicePoses G V)
  cacheWritten : Bool
  bodiesWritten : Bool

/-- The base-station detector runs in state None, and not while the HMD stalls. -/
def RecoveryTick.runsDrift (t : RecoveryTick G V K) : Bool :=
  decide (t.state = .None) && !t.hmdStalled

/-- The tick writes the base-station cache. -/
def RecoveryTick.refreshes (t : RecoveryTick G V K) : Bool := t.runsDrift && t.cfg.active

/-- The relocalization detector comes first, so that the cache it shares holds what the tick before
    saw. -/
def CalibrationTick (m : RecoverySystem G V K) (t : RecoveryTick G V K) :
    RecoverySystem G V K × RelocOutcome × List (String × G) :=
  let (reloc, outcome) := TickHmdRelocalizationDetectorImpl geo t.state t.headMount t.devicePoses
    m.drift.baseStationCache t.time m.reloc
  let calibrations :=
    if outcome.cleared then { m.calibrations with calibrated := 1 } else m.calibrations
  let (drift, calibrations, shifts) :=
    if t.runsDrift then
      TickBaseStationDriftImpl geo t.cfg t.devicePoses t.time m.drift calibrations
    else (m.drift, calibrations, [])
  ({ drift := drift
     reloc := reloc
     calibrations := calibrations
     previous := some t.devicePoses
     cacheWritten := t.refreshes
     bodiesWritten := (hmdSystem? (t.devicePoses k_unTrackedDeviceIndex_Hmd) m.reloc).isSome },
   outcome, shifts)

inductive RecoveryEvent (G V K : Type) where
  | tick (t : RecoveryTick G V K)
  /-- A solve, a loaded profile or an edit rewrites the stored calibrations. -/
  | store (calibrations : Calibrations G)

def recoveryStep (m : RecoverySystem G V K) : RecoveryEvent G V K → Option (RecoverySystem G V K)
  | .tick t => some (CalibrationTick geo m t).1
  | .store calibrations => some { m with calibrations := calibrations }

/-- Both detectors as they start. -/
def recoveryStart (calibrations : Calibrations G) : RecoverySystem G V K where
  drift := { baseStationCache := .empty, lastBaseStationShiftAcceptedTime := -1000000000.0 }
  reloc :=
    { havePrevHmd := false
      prevHmd := 1
      hmdTrackingSystem := ""
      prevBodyTrans := fun _ => none
      lastFireTime := -1000000000.0
      havePrevHeadTracker := false
      prevHeadTrackerTrans := 0
      lastFireDelta := 0
      lastHmdInvalidTime := -1000000000.0
      lastAutoRecoverTime := -1000000000.0 }
  calibrations := calibrations
  previous := none
  cacheWritten := false
  bodiesWritten := false

/-! ## Corroboration -/

/-- A station with a usable pose at both ticks that moved less than a millimetre. -/
def SteadyStation (prev now : DevicePoses G V) (id : Fin k_unMaxTrackedDeviceCount) : Prop :=
  (now id).isStation = true ∧ ∃ id', (prev id').isStation = true ∧
    (now id).serialNumber.isSome = true ∧ (prev id').serialNumber = (now id).serialNumber ∧
    geo.dist (now id).pose (prev id').pose < kRelocBaseStableM

/-- A body device with a usable pose at both ticks that moved less than five centimetres. -/
def SteadyBody (hmdTrackingSystem : String) (prev now : DevicePoses G V)
    (id : Fin k_unMaxTrackedDeviceCount) : Prop :=
  (now id).isBody hmdTrackingSystem = true ∧ (prev id).tracks = true ∧
    geo.dist (now id).pose (prev id).pose < kRelocBodyMaxDeltaM

/-- A body device and two base stations bear the relocalization out. -/
def Corroborated (m : RecoverySystem G V K) (t : RecoveryTick G V K) : Prop :=
  ∃ prev ∈ m.previous, ∃ system ∈ hmdSystem? (t.devicePoses k_unTrackedDeviceIndex_Hmd) m.reloc,
    (∃ id, SteadyBody geo system prev t.devicePoses id) ∧
    ∃ id id', id ≠ id' ∧ SteadyStation geo prev t.devicePoses id ∧
      SteadyStation geo prev t.devicePoses id'

/-- The detector fires, or clears the calibration, on corroborated evidence only. -/
def FiresCorroborated (m : RecoverySystem G V K) : RecoveryEvent G V K → Prop
  | .tick t =>
    (CalibrationTick geo m t).2.1.fired = true ∨ (CalibrationTick geo m t).2.1.cleared = true →
      Corroborated geo m t
  | .store _ => True

/-! ## Something to compare -/

/-- The HMD jumped, at a tick that looks at it. -/
def Jumped (m : RecoverySystem G V K) (t : RecoveryTick G V K) : Prop :=
  ¬Skips t.state t.devicePoses ∧ m.reloc.havePrevHmd = true ∧
    kRelocMinBaseStations ≤ bsCount t.devicePoses ∧
    ¬t.time - m.reloc.lastFireTime < kRelocThrottleSec ∧
    kRelocHmdJumpM < geo.dist (t.devicePoses k_unTrackedDeviceIndex_Hmd).pose m.reloc.prevHmd

/-- The delta of a body device at this tick, if the detector compares it. -/
def comparedBody? (m : RecoverySystem G V K) (t : RecoveryTick G V K)
    (id : Fin k_unMaxTrackedDeviceCount) : Option K :=
  (hmdSystem? (t.devicePoses k_unTrackedDeviceIndex_Hmd) m.reloc).bind fun system =>
    bodyDelta? geo system (m.reloc.prevBodyTrans id) (t.devicePoses id)

def comparedStation? (m : RecoverySystem G V K) (t : RecoveryTick G V K)
    (id : Fin k_unMaxTrackedDeviceCount) : Option K :=
  stationDelta? geo m.drift.baseStationCache (t.devicePoses id)

/-- A device that is compared moved too far. -/
def SomethingMoved (m : RecoverySystem G V K) (t : RecoveryTick G V K) : Prop :=
  (∃ id, ∃ d ∈ comparedBody? geo m t id, kRelocBodyMaxDeltaM ≤ d) ∨
    ∃ id, ∃ d ∈ comparedStation? geo m t id, kRelocBaseStableM ≤ d

/-- There is a body device to compare, and there are two stations, with positions that the tick
    before wrote. -/
def Comparable (m : RecoverySystem G V K) (t : RecoveryTick G V K) : Prop :=
  m.cacheWritten = true ∧ m.bodiesWritten = true ∧
    (∃ id, (comparedBody? geo m t id).isSome = true) ∧
    ∃ id id', id ≠ id' ∧ (comparedStation? geo m t id).isSome = true ∧
      (comparedStation? geo m t id').isSome = true

/-- When the HMD jumps, the detector sees something move or has enough to compare. -/
def Grounded (m : RecoverySystem G V K) : RecoveryEvent G V K → Prop
  | .tick t => Jumped geo m t → SomethingMoved geo m t ∨ Comparable geo m t
  | .store _ => True

/-- What the tick before wrote is what it saw. -/
structure Written (m : RecoverySystem G V K) : Prop where
  cache : m.cacheWritten = true → ∃ prev, m.previous = some prev ∧
    m.drift.baseStationCache = refreshed (observations prev)
  bodies : m.bodiesWritten = true → ∀ id v, m.reloc.prevBodyTrans id = some v →
    ∃ prev, m.previous = some prev ∧ (prev id).tracks = true ∧ v = geo.translation (prev id).pose

omit [LinearOrder K] in
theorem Written.start (calibrations : Calibrations G) :
    Written geo (recoveryStart calibrations : RecoverySystem G V K) where
  cache h := by cases h
  bodies h := by cases h

variable {geo} {m : RecoverySystem G V K} {t : RecoveryTick G V K}

omit [Group G] [AddGroup V] [Field K] [LinearOrder K] in
theorem TrackedDevice.tracks_of_isBody {d : TrackedDevice G V} {hmdTrackingSystem : String}
    (h : d.isBody hmdTrackingSystem = true) : d.tracks = true := by
  simp only [TrackedDevice.isBody, Bool.and_eq_true] at h
  exact h.1.2

theorem CalibrationTick_cache : (CalibrationTick geo m t).1.drift.baseStationCache =
    if t.refreshes then refreshed (observations t.devicePoses) else m.drift.baseStationCache := by
  unfold CalibrationTick RecoveryTick.refreshes
  cases hruns : t.runsDrift with
  | false => rfl
  | true =>
    cases hactive : t.cfg.active with
    | false =>
      simp only [if_true, TickBaseStationDriftImpl_inactive geo hactive]
      rfl
    | true => exact TickBaseStationDriftImpl_active geo hactive

theorem Written.tick : Written geo (CalibrationTick geo m t).1 where
  cache h := ⟨t.devicePoses, rfl, CalibrationTick_cache.trans (if_pos h)⟩
  bodies h id v hv := by
    refine ⟨t.devicePoses, rfl, ?_⟩
    have hreloc : (CalibrationTick geo m t).1.reloc = (TickHmdRelocalizationDetectorImpl geo t.state
        t.headMount t.devicePoses m.drift.baseStationCache t.time m.reloc).1 := rfl
    rw [hreloc] at hv
    rcases TickHmdRelocalizationDetectorImpl_cases geo t.state t.headMount t.devicePoses
      m.drift.baseStationCache t.time m.reloc with
      ⟨_, heq⟩ | ⟨hnone, _⟩ | ⟨_, system, _, heq⟩
    · rw [heq] at hv
      cases hv
    · have hsome :
          (hmdSystem? (t.devicePoses k_unTrackedDeviceIndex_Hmd) m.reloc).isSome = true := h
      rw [hnone] at hsome
      cases hsome
    · rw [heq, evaluateTrigger_prevBodyTrans] at hv
      dsimp only at hv
      split_ifs at hv with hbody
      cases hv
      exact ⟨TrackedDevice.tracks_of_isBody hbody, rfl⟩

theorem Written.step {m' : RecoverySystem G V K} {e : RecoveryEvent G V K} (h : Written geo m)
    (hs : recoveryStep geo m e = some m') : Written geo m' := by
  cases e with
  | tick t =>
    cases hs
    exact .tick
  | store calibrations =>
    cases hs
    exact ⟨h.cache, h.bodies⟩

/-! ## Evidence -/

/-- A trigger sees nothing move. -/
theorem Triggers.not_moved {system : String}
    (hsys : hmdSystem? (t.devicePoses k_unTrackedDeviceIndex_Hmd) m.reloc = some system)
    (h : Triggers geo t.devicePoses m.drift.baseStationCache t.time
      { m.reloc with hmdTrackingSystem := system }) : ¬SomethingMoved geo m t := by
  rintro (⟨id, d, hd, hle⟩ | ⟨id, d, hd, hle⟩)
  · have hbody : bodyDelta? geo system (m.reloc.prevBodyTrans id) (t.devicePoses id) = some d := by
      simpa [comparedBody?, hsys] using hd
    have hlt := lt_of_maxDelta_lt h.bodies (List.mem_filterMap.2 ⟨id, List.mem_finRange id, hbody⟩)
    exact absurd hle (not_le.2 hlt)
  · have hlt := lt_of_maxDelta_lt h.bases (List.mem_filterMap.2 ⟨id, List.mem_finRange id, hd⟩)
    exact absurd hle (not_le.2 hlt)

/-- A station that is compared with what the tick before wrote, and has not moved, is steady. -/
theorem SteadyStation.of_compared {prev : DevicePoses G V} {id : Fin k_unMaxTrackedDeviceCount}
    (hcache : m.drift.baseStationCache = refreshed (observations prev))
    (hstill : ¬SomethingMoved geo m t) (hsome : (comparedStation? geo m t id).isSome = true) :
    SteadyStation geo prev t.devicePoses id := by
  obtain ⟨d, hd⟩ := Option.isSome_iff_exists.1 hsome
  have hlt : d < kRelocBaseStableM := not_le.1 fun hle => hstill (.inr ⟨id, d, hd, hle⟩)
  unfold comparedStation? stationDelta? at hd
  split_ifs at hd with hstation
  obtain ⟨e, he, rfl⟩ := Option.map_eq_some_iff.1 hd
  obtain ⟨serial, hserial, hentry⟩ := Option.bind_eq_some_iff.1 he
  rw [hcache] at hentry
  obtain ⟨obs, hobs, rfl, _, hpose⟩ := refreshed_eq_some hentry
  obtain ⟨id', _, hid'⟩ := List.mem_filterMap.1 hobs
  obtain ⟨hstation', hserial', hpose'⟩ := TrackedDevice.observation?_eq_some hid'
  refine ⟨hstation, id', hstation', by rw [hserial]; rfl, hserial'.trans hserial.symm, ?_⟩
  rw [← hpose', hpose]
  exact hlt

/-- So is a body device. -/
theorem SteadyBody.of_compared {prev : DevicePoses G V} {system : String}
    {id : Fin k_unMaxTrackedDeviceCount} (hw : Written geo m) (hprev : m.previous = some prev)
    (hwritten : m.bodiesWritten = true)
    (hsys : hmdSystem? (t.devicePoses k_unTrackedDeviceIndex_Hmd) m.reloc = some system)
    (hstill : ¬SomethingMoved geo m t) (hsome : (comparedBody? geo m t id).isSome = true) :
    SteadyBody geo system prev t.devicePoses id := by
  obtain ⟨d, hd⟩ := Option.isSome_iff_exists.1 hsome
  have hlt : d < kRelocBodyMaxDeltaM := not_le.1 fun hle => hstill (.inl ⟨id, d, hd, hle⟩)
  simp only [comparedBody?, hsys, Option.bind_some, bodyDelta?] at hd
  split_ifs at hd with hbody
  obtain ⟨v, hv, rfl⟩ := Option.map_eq_some_iff.1 hd
  obtain ⟨prev', hprev', htracks, rfl⟩ := hw.bodies hwritten id v hv
  obtain rfl : prev = prev' := by simpa [hprev] using hprev'
  exact ⟨hbody, htracks, hlt⟩

theorem FiresCorroborated.of_grounded {e : RecoveryEvent G V K} (hw : Written geo m)
    (hg : Grounded geo m e) : FiresCorroborated geo m e := by
  cases e with
  | store calibrations => trivial
  | tick t =>
    intro hfires
    obtain ⟨hskips, system, hsys, htrig⟩ := triggers_of_fires geo (by rfl) hfires
    have hstill := htrig.not_moved hsys
    have hcompare := (hg ⟨hskips, htrig.known, htrig.stations, htrig.unthrottled,
      htrig.jumped⟩).resolve_left hstill
    obtain ⟨hcw, hbw, ⟨b, hb⟩, id, id', hne, hid, hid'⟩ := hcompare
    obtain ⟨prev, hprev, hcache⟩ := hw.cache hcw
    exact ⟨prev, hprev, system, hsys, ⟨b, .of_compared hw hprev hbw hsys hstill hb⟩, id, id', hne,
      .of_compared hcache hstill hid, .of_compared hcache hstill hid'⟩

variable (geo) in
/-- **Relocalization fires on corroborated evidence** in every run in which the detector sees
    something move, or has enough to compare, whenever the HMD jumps. -/
theorem relocalization_corroborated (calibrations : Calibrations G)
    (es : List (RecoveryEvent G V K))
    (h : AllSteps (recoveryStep geo) (Grounded geo) (recoveryStart calibrations) es) :
    AllSteps (recoveryStep geo) (FiresCorroborated geo) (recoveryStart calibrations) es :=
  AllSteps.of_inv (fun _ _ _ hw _ hs => Written.step hw hs)
    (fun _ _ _ hw hg _ => FiresCorroborated.of_grounded hw hg) (Written.start geo calibrations) h

/-! ## Runs on a line -/

/-- Positions on a line. -/
def line : RigidGeometry (Multiplicative ℚ) ℚ ℚ where
  translation g := g.toAdd
  norm x := |x|
  angleRad _ := 0
  translation_one := rfl
  norm_zero := abs_zero
  angleRad_one := rfl

def deviceOn (deviceClass : TrackedDeviceClass) (serial system : String) (x : ℚ) :
    TrackedDevice (Multiplicative ℚ) ℚ where
  deviceClass := deviceClass
  poseIsValid := true
  deviceIsConnected := true
  runningOk := true
  serialNumber := some serial
  trackingSystemName := some system
  pose := .ofAdd x
  vecPosition := x

/-- The headset at `x`, two base stations, and a tracker if there is one. -/
def room (x : ℚ) (tracker : Bool) : DevicePoses (Multiplicative ℚ) ℚ := fun id =>
  match id.val with
  | 0 => deviceOn .HMD "quest" "oculus" x
  | 1 => deviceOn .TrackingReference "LHB-1" "lighthouse" 0
  | 2 => deviceOn .TrackingReference "LHB-2" "lighthouse" 1
  | 3 =>
    if tracker then deviceOn .GenericTracker "LHR-1" "lighthouse" 0
    else { deviceOn .GenericTracker "LHR-1" "lighthouse" 0 with deviceIsConnected := false }
  | _ => { deviceOn .Invalid "" "" 0 with deviceIsConnected := false }

def tickIn (time : ℚ) (state : CalibrationState) (x : ℚ) (tracker : Bool) :
    RecoveryTick (Multiplicative ℚ) ℚ ℚ where
  time := time
  state := state
  devicePoses := room x tracker
  headMount := ⟨.Off, -1⟩
  cfg := ⟨true, true, true⟩
  hmdStalled := false

def stored : Calibrations (Multiplicative ℚ) := ⟨"oculus", "lighthouse", 1, []⟩

/-- A relocalization in state None, with a tracker that keeps still. -/
theorem relocalization_corroborated_idle :
    AllSteps (recoveryStep line) (FiresCorroborated line) (recoveryStart stored)
      [.tick (tickIn 31.0 .None 0 true), .tick (tickIn 32.0 .None 0.35 true)] := by
  refine relocalization_corroborated line stored _ fun m hm => ⟨fun hj => ?_, fun m' hm' => ?_⟩
  · exact absurd hj.2.1 (by decide)
  · cases hm
    refine ⟨fun _ => .inr ⟨by decide +kernel, by decide +kernel, ⟨⟨3, by decide⟩, ?_⟩,
      ⟨1, by decide⟩, ⟨2, by decide⟩, by decide, ?_, ?_⟩, trivial⟩ <;> decide +kernel

/-- Without the tracker there is no body device in the room. -/
theorem room_isBody (x : ℚ) (system : String) (id : Fin k_unMaxTrackedDeviceCount) :
    (room x false id).isBody system = false := by
  unfold room
  split <;> simp [TrackedDevice.isBody, TrackedDevice.tracks, deviceOn]

/-- The trackers are off, continuous calibration waits for them, and the user walks. -/
theorem headMotion_fires : ¬AllSteps (recoveryStep line) (FiresCorroborated line)
    (recoveryStart stored)
    [.tick (tickIn 31.0 .ContinuousStandby 0 false),
     .tick (tickIn 31.5 .ContinuousStandby 0.35 false)] := by
  intro h
  obtain ⟨m, hm⟩ : ∃ m, m = (CalibrationTick line (recoveryStart stored)
    (tickIn 31.0 .ContinuousStandby 0 false)).1 := ⟨_, rfl⟩
  have hcleared : (CalibrationTick line m
      (tickIn 31.5 .ContinuousStandby 0.35 false)).2.1.cleared = true := by
    rw [hm]
    decide +kernel
  have hsecond : FiresCorroborated line m (.tick (tickIn 31.5 .ContinuousStandby 0.35 false)) :=
    ((h m (congrArg some hm.symm)).2 _ rfl).1
  obtain ⟨_, _, system, _, ⟨id, hbody, _⟩, _⟩ := hsecond (.inr hcleared)
  have hnone := room_isBody 0.35 system id
  exact absurd (hnone.symm.trans hbody) (by decide)

end WKPairDriver.Calibration.Recovery
