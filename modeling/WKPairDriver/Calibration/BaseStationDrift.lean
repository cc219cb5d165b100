import Mathlib
import WKPairDriver.Calibration.Context

/-!
# Base station drift: `TickBaseStationDriftImpl`

Base stations do not move: when all stations of a tracking system report poses that differ by one
rigid motion from the cached ones, the system was re-origined, and the motion is applied to the
stored calibrations of that system.  Poses are elements of a group of rigid motions; a calibration
is the motion that its translation and its Euler angles stand for.

* `TickBaseStationDriftImpl_inactive`, `TickBaseStationDriftImpl_active` — the two ways a tick ends.
* `refreshed_eq_some` — what the cache holds behind a tick that refreshes it.
-/

set_option autoImplicit false

namespace WKPairDriver.Calibration.Recovery

variable {G V K : Type}

/-! ## Devices -/

def k_unMaxTrackedDeviceCount : Nat := 64

inductive TrackedDeviceClass where
  | Invalid
  | HMD
  | Controller
  | GenericTracker
  | TrackingReference
  | DisplayRedirect
deriving DecidableEq

/-- What a tick reads of a device. -/
structure TrackedDevice (G V : Type) where
  deviceClass : TrackedDeviceClass
  poseIsValid : Bool
  deviceIsConnected : Bool
  /-- The result is `TrackingResult_Running_OK`. -/
  runningOk : Bool
  /-- None when the property cannot be read. -/
  serialNumber : Option String
  trackingSystemName : Option String
  /-- `ConvertPose` of the reading. -/
  pose : G
  /-- The position before the conversion. -/
  vecPosition : V

abbrev DevicePoses (G V : Type) := Fin k_unMaxTrackedDeviceCount → TrackedDevice G V

def TrackedDevice.tracks (d : TrackedDevice G V) : Bool :=
  d.poseIsValid && d.deviceIsConnected && d.runningOk

/-- A base station whose pose is usable. -/
def TrackedDevice.isStation (d : TrackedDevice G V) : Bool :=
  decide (d.deviceClass = .TrackingReference) && d.tracks

/-- The measures of rigid motions the detectors use. -/
structure RigidGeometry (G V K : Type) [Group G] [AddGroup V] [Zero K] where
  translation : G → V
  norm : V → K
  angleRad : G → K
  translation_one : translation 1 = 0
  norm_zero : norm 0 = 0
  angleRad_one : angleRad 1 = 0

/-! ## Observations and the cache -/

structure Observation (G : Type) where
  serial : String
  system : String
  pose : G

def TrackedDevice.observation? (d : TrackedDevice G V) : Option (Observation G) :=
  if d.isStation then
    match d.serialNumber, d.trackingSystemName with
    | some serial, some system => some ⟨serial, system, d.pose⟩
    | _, _ => none
  else none

theorem TrackedDevice.observation?_eq_some {d : TrackedDevice G V} {obs : Observation G}
    (h : d.observation? = some obs) :
    d.isStation = true ∧ d.serialNumber = some obs.serial ∧ obs.pose = d.pose := by
  unfold observation? at h
  split_ifs at h with hstation
  split at h
  · cases h
    exact ⟨hstation, ‹_›, rfl⟩
  · cases h

/-- The stations a tick sees, in the order of their ids. -/
def observations (devicePoses : DevicePoses G V) : List (Observation G) :=
  (List.finRange k_unMaxTrackedDeviceCount).filterMap fun id => (devicePoses id).observation?

structure BaseStationCacheEntry (G : Type) where
  trackingSystem : String
  pose : G

/-- By serial. -/
abbrev BaseStationCache (G : Type) := String → Option (BaseStationCacheEntry G)

def BaseStationCache.empty : BaseStationCache G := fun _ => none

/-- The cache that holds the observations of one tick. -/
def refreshed (current : List (Observation G)) : BaseStationCache G :=
  current.foldl
    (fun cache obs serial =>
      if serial = obs.serial then some ⟨obs.system, obs.pose⟩ else cache serial)
    BaseStationCache.empty

/-- What the cache holds was observed. -/
theorem refreshed_eq_some {current : List (Observation G)} {serial : String}
    {e : BaseStationCacheEntry G} (h : refreshed current serial = some e) :
    ∃ obs ∈ current, obs.serial = serial ∧ obs.system = e.trackingSystem ∧ obs.pose = e.pose := by
  induction current using List.reverseRecOn with
  | nil => cases h
  | append_singleton current obs ih =>
    rw [refreshed, List.foldl_append, List.foldl_cons, List.foldl_nil] at h
    split_ifs at h with heq
    · cases h
      exact ⟨obs, by simp, heq.symm, rfl, rfl⟩
    · obtain ⟨o, ho, hrest⟩ := ih h
      exact ⟨o, List.mem_append_left _ ho, hrest⟩

/-! ## Calibrations -/

structure AdditionalCalibration (G : Type) where
  valid : Bool
  targetTrackingSystem : String
  calibrated : G

/-- The stored calibrations with the tracking systems they join. -/
structure Calibrations (G : Type) where
  referenceTrackingSystem : String
  targetTrackingSystem : String
  calibrated : G
  additionalCalibrations : List (AdditionalCalibration G)

/-- The shift of one calibration. -/
def applyDelta [Group G] (D cal : G) (refSide : Bool) : G :=
  if refSide then D * cal else cal * D⁻¹

def ApplyUniverseShiftToCalibrations [Group G] (D : G) (system : String) (c : Calibrations G) :
    Calibrations G :=
  let primaryRefShift := system == c.referenceTrackingSystem
  let primaryTargetShift := system == c.targetTrackingSystem
  { c with
    calibrated :=
      if primaryRefShift then applyDelta D c.calibrated true
      else if primaryTargetShift then applyDelta D c.calibrated false
      else c.calibrated
    additionalCalibrations := c.additionalCalibrations.map fun extra =>
      if extra.valid = false then extra
      else if primaryRefShift then
        { extra with calibrated := applyDelta D extra.calibrated true }
      else if extra.targetTrackingSystem == system then
        { extra with calibrated := applyDelta D extra.calibrated false }
      else extra }

/-- A system that takes part in a calibration. -/
def Calibrations.involves (c : Calibrations G) (system : String) : Bool :=
  system == c.referenceTrackingSystem || system == c.targetTrackingSystem ||
    c.additionalCalibrations.any fun extra => extra.valid && extra.targetTrackingSystem == system

/-! ## Deltas -/

section Deltas

variable [Group G] [AddGroup V] [Field K] [LinearOrder K] (geo : RigidGeometry G V K)

def kBsDeltaSignificanceTransM : K := 0.001
def kBsDeltaSignificanceRotRad : K := 0.05 * EIGEN_PI / 180.0
def kBsConsensusTransM : K := 0.005
def kBsConsensusRotRad : K := 0.5 * EIGEN_PI / 180.0
def kBsSingleTransM : K := 0.10
def kBsSingleRotRad : K := 5.0 * EIGEN_PI / 180.0
def kBsThrottleSec : K := 5.0

def exceeds (d : G) (transM rotRad : K) : Bool :=
  decide (transM < geo.norm (geo.translation d)) || decide (rotRad < geo.angleRad d)

def anySignificant (deltas : List G) : Bool :=
  deltas.any fun d => exceeds geo d kBsDeltaSignificanceTransM kBsDeltaSignificanceRotRad

/-- All deltas are about the same; a single one has to be substantial. -/
def consensus : List G → Bool
  | [] => true
  | [only] =>
    !(decide (geo.norm (geo.translation only) < kBsSingleTransM) &&
      decide (geo.angleRad only < kBsSingleRotRad))
  | ref :: rest => rest.all fun d => !exceeds geo (d * ref⁻¹) kBsConsensusTransM kBsConsensusRotRad

/-- The shift the deltas of a system agree on. -/
def acceptedDelta (deltas : List G) : Option G :=
  if anySignificant geo deltas && consensus geo deltas then deltas.head? else none

/-- How far the stations of a system are from their cached poses. -/
def systemDeltas (cache : BaseStationCache G) (current : List (Observation G)) (system : String) :
    List G :=
  (current.filter fun obs => obs.system == system).filterMap fun obs =>
    match cache obs.serial with
    | none => none
    | some e => if e.trackingSystem = system then some (obs.pose * e.pose⁻¹) else none

/-- The tracking systems that are seen, in the order of the map. -/
def systemsOf (current : List (Observation G)) : List String :=
  ((current.map fun obs => obs.system).dedup).insertionSort (· ≤ ·)

structure DriftState (G K : Type) where
  baseStationCache : BaseStationCache G
  lastBaseStationShiftAcceptedTime : K

structure DriftConfig where
  baseStationDriftCorrectionEnabled : Bool
  validProfile : Bool
  enabled : Bool

def DriftConfig.active (cfg : DriftConfig) : Bool :=
  cfg.baseStationDriftCorrectionEnabled && cfg.validProfile && cfg.enabled

/-- The shifts that one tick accepts. -/
def acceptedShifts (s : DriftState G K) (c : Calibrations G) (current : List (Observation G))
    (now : K) : List (String × G) :=
  let throttled := decide (now - s.lastBaseStationShiftAcceptedTime < kBsThrottleSec)
  (systemsOf current).filterMap fun system =>
    if c.involves system && !throttled then
      (acceptedDelta geo (systemDeltas s.baseStationCache current system)).map fun D => (system, D)
    else none

/-- One tick: the state and the calibrations behind it, and the shifts it applied. -/
def TickBaseStationDriftImpl (cfg : DriftConfig) (devicePoses : DevicePoses G V) (now : K)
    (s : DriftState G K) (c : Calibrations G) :
    DriftState G K × Calibrations G × List (String × G) :=
  if cfg.active = false then (s, c, [])
  else
    let current := observations devicePoses
    if current.isEmpty then ({ s with baseStationCache := .empty }, c, [])
    else
      let shifts := acceptedShifts geo s c current now
      ({ baseStationCache := refreshed current
         lastBaseStationShiftAcceptedTime :=
           if shifts.isEmpty then s.lastBaseStationShiftAcceptedTime else now },
       shifts.foldl (fun c shift => ApplyUniverseShiftToCalibrations shift.2 shift.1 c) c,
       shifts)

variable {cfg : DriftConfig} {devicePoses : DevicePoses G V} {now : K} {s : DriftState G K}
  {c : Calibrations G}

theorem TickBaseStationDriftImpl_inactive (h : cfg.active = false) :
    TickBaseStationDriftImpl geo cfg devicePoses now s c = (s, c, []) := if_pos h

/-- An active tick leaves in the cache what it saw. -/
theorem TickBaseStationDriftImpl_active (h : cfg.active = true) :
    (TickBaseStationDriftImpl geo cfg devicePoses now s c).1.baseStationCache =
      refreshed (observations devicePoses) := by
  rw [TickBaseStationDriftImpl, if_neg (by rw [h]; decide)]
  cases hobs : observations devicePoses with
  | nil => rfl
  | cons o os => rfl

/-- What an active tick applies is what it accepts. -/
theorem TickBaseStationDriftImpl_shifts (h : cfg.active = true) :
    (TickBaseStationDriftImpl geo cfg devicePoses now s c).2.2 =
      acceptedShifts geo s c (observations devicePoses) now := by
  rw [TickBaseStationDriftImpl, if_neg (by rw [h]; decide)]
  cases hobs : observations devicePoses with
  | nil => rfl
  | cons o os => rfl

end Deltas

end WKPairDriver.Calibration.Recovery
