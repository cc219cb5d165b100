import Mathlib
import WKPairDriver.Driver.TransformBlend
import WKPairDriver.Phantom.DeadReckoner
import WKPairDriver.Phantom.PhantomRequests

/-!
# The pose that is published for a device: `MaybeOverridePose`

The ladder says in which state the device is, and each state has its own source: the pose itself,
a blend out of it, the fallback behind the headset or the dead reckoner, and a blend back into it
from what was published last.

* `OnRealPoseObserved`, `MaybeOverridePose` — of one opted-in device, without a sidecar.
* `AtRest` — the poses of a device that does not move.
* `MaybeOverridePose_rest` — where such a device is published, by the state of its ladder.
-/

set_option autoImplicit false

namespace WKPairDriver.Phantom

open Lib Driver SourceBlend Inference

/-! ## Results -/

/-- `vr::ETrackingResult` of its value. -/
def TrackingResult.ofValue (v : ℤ) : TrackingResult :=
  if v = 100 then .Calibrating_InProgress
  else if v = 101 then .Calibrating_OutOfRange
  else if v = kRunningOk then .Running_OK
  else if v = 201 then .Running_OutOfRange
  else if v = 300 then .Fallback_RotationOnly
  else .Uninitialized

def TrackingResult.value : TrackingResult → ℤ
  | .Uninitialized => 1
  | .Calibrating_InProgress => 100
  | .Calibrating_OutOfRange => 101
  | .Running_OK => kRunningOk
  | .Running_OutOfRange => 201
  | .Fallback_RotationOnly => 300

/-- What the ladder looks at. -/
def ladderPose (pose : DriverPose_t) : DriverPose :=
  ⟨.ofValue pose.result, pose.poseIsValid, pose.deviceIsConnected⟩

/-- `blend_alpha` -/
noncomputable def DropoutState.blend_alpha (s : DropoutState) (qpc_ns qpc_freq : ℤ) : ℝ :=
  if s.state = .BLEND_OUT ∧ s.dropout_start_qpc_ns ≥ 0 then
    clamp01 ((qpcMs (qpc_ns - s.dropout_start_qpc_ns) qpc_freq : ℝ) /
      (max 1 s.timings.blend_out_ms : ℕ))
  else if s.state = .BLEND_IN ∧ s.blend_in_start_qpc_ns ≥ 0 then
    clamp01 ((qpcMs (qpc_ns - s.blend_in_start_qpc_ns) qpc_freq : ℝ) /
      (max 1 s.timings.blend_in_ms : ℕ))
  else 0

/-! ## One device -/

/-- What does not change while the device runs: the settings, the calibration of its role and the
    last pose of the headset. -/
structure Bridge where
  config : PhantomConfig
  qpc_freq : ℤ
  qpc_freq_pos : 0 < qpc_freq
  ik_fallback : IkFallback
  role : BodyRole
  last_hmd_pose : Option DriverPose_t

/-- What a slot keeps of its device. -/
structure BridgeSlot where
  ladder : DropoutState
  history : PoseHistory
  last_published : Option DriverPose_t

namespace BridgeSlot

noncomputable def new : BridgeSlot := ⟨.new, .new, none⟩

end BridgeSlot

namespace Bridge

variable (b : Bridge)

def timings : LadderTimings := b.config.timings

/-- The pose `Solve` builds, if there is one. -/
noncomputable def ikPose : Option DriverPose_t :=
  if b.role = noRole then none else b.last_hmd_pose.bind (b.ik_fallback.Solve b.role)

noncomputable def OnRealPoseObserved (s : BridgeSlot) (qpc_ns : ℤ) (pose : DriverPose_t) :
    BridgeSlot :=
  let ladder := s.ladder.setTimings b.timings
  let ladder := ladder.setIkAvailable (b.role ≠ noRole && b.ik_fallback.HasOffset b.role)
  { s with
    history := s.history.Push qpc_ns pose
    ladder := ladder.onRealPoseObserved qpc_ns (ladderPose pose) }

/-- The pose of a device without one of its own. -/
noncomputable def synthPose (history : PoseHistory) (override : TrackingResult) (qpc_ns : ℤ)
    (pose : DriverPose_t) : DriverPose_t :=
  match b.ikPose with
  | some synth => { synth with result := override.value }
  | none =>
    match DeadReckoner.Project history b.qpc_freq qpc_ns with
    | some synth => { synth with result := override.value }
    | none => { pose with result := override.value }

/-- The pose that goes out, if one does; `ladder` is the one after its tick. -/
noncomputable def overriddenPose (s : BridgeSlot) (ladder : DropoutState) (qpc_ns : ℤ)
    (pose : DriverPose_t) : Option DriverPose_t :=
  let alpha := ladder.blend_alpha qpc_ns b.qpc_freq
  match ladder.state with
  | .REAL => some pose
  | .BLEND_OUT =>
    match DeadReckoner.Project s.history b.qpc_freq qpc_ns with
    | some synth =>
      some { Lerp pose synth alpha with result := ladder.tracking_result_override.value }
    | none => some pose
  | .SYNTH_RECKON | .SYNTH_IK | .SYNTH_ML | .OUT_OF_RANGE =>
    some (b.synthPose s.history ladder.tracking_result_override qpc_ns pose)
  | .BLEND_IN =>
    match s.last_published with
    | some last => some (Lerp last pose alpha)
    | none => some pose
  | .LOST => none

/-- `MaybeOverridePose`, with what goes out. -/
noncomputable def MaybeOverridePose (s : BridgeSlot) (qpc_ns : ℤ) (pose : DriverPose_t) :
    BridgeSlot × Option DriverPose_t :=
  let ladder := s.ladder.tick qpc_ns b.qpc_freq
  let out := b.overriddenPose s ladder qpc_ns pose
  ({ s with ladder := ladder, last_published := out <|> s.last_published }, out)

/-! ## A device that does not move -/

/-- Where a state takes the pose from. -/
inductive Source where
  | own
  | synth
  | blend
  | nothing
deriving DecidableEq

end Bridge

/-- The blend out of a pose at rest shows the pose. -/
def TrackerState.source : TrackerState → Bridge.Source
  | .REAL | .BLEND_OUT => .own
  | .SYNTH_RECKON | .SYNTH_IK | .SYNTH_ML | .OUT_OF_RANGE => .synth
  | .BLEND_IN => .blend
  | .LOST => .nothing

namespace Bridge

variable (b : Bridge)

/-- Where the device is synthesized: where the fallback puts it, or where it was. -/
noncomputable def synthPosition (R : Fin 3 → ℝ) : Fin 3 → ℝ :=
  (b.ikPose.map fun synth => synth.vecPosition).getD R

/-- The weight of a blend. -/
noncomputable def weight (ladder : DropoutState) (qpc_ns : ℤ) : ℝ :=
  SmoothBlendWeight (clamp01 (ladder.blend_alpha qpc_ns b.qpc_freq))

/-- Where a device that stays at `R` is published. -/
noncomputable def restPosition (R : Fin 3 → ℝ) (s : BridgeSlot) (ladder : DropoutState)
    (qpc_ns : ℤ) : Option (Fin 3 → ℝ) :=
  match ladder.state.source with
  | .own => some R
  | .synth => some (b.synthPosition R)
  | .blend =>
    match s.last_published with
    | some last => some (mixVec last.vecPosition R (b.weight ladder qpc_ns))
    | none => some R
  | .nothing => none

end Bridge

/-- The poses of a device at `R` that reports no velocity. -/
structure AtRest (R : Fin 3 → ℝ) (pose : DriverPose_t) : Prop where
  position : pose.vecPosition = R
  velocity : pose.vecVelocity = 0

/-- The reckoner goes by such a pose, and by no acceleration. -/
def RestHistory (R : Fin 3 → ℝ) (history : PoseHistory) : Prop :=
  ∀ sample ∈ history.GetNewest 0, AtRest R sample.pose ∧ sample.pose.vecAcceleration = 0

theorem RestHistory.push {R : Fin 3 → ℝ} {history : PoseHistory} {pose : DriverPose_t}
    (h : AtRest R pose) (hacc : pose.vecAcceleration = 0) (qpc_ns : ℤ) :
    RestHistory R (history.Push qpc_ns pose) := by
  intro sample hsample
  rw [PoseHistory.GetNewest_Push, Option.mem_def, Option.some.injEq] at hsample
  subst hsample
  exact ⟨h, hacc⟩

/-- The reckoner leaves a device at rest where it is. -/
theorem RestHistory.project {R : Fin 3 → ℝ} {history : PoseHistory} (h : RestHistory R history)
    {qpc_freq qpc_ns : ℤ} {synth : DriverPose_t}
    (hsynth : DeadReckoner.Project history qpc_freq qpc_ns = some synth) :
    synth.vecPosition = R := by
  unfold DeadReckoner.Project at hsynth
  split at hsynth
  next => cases hsynth
  next newest hnewest =>
    split at hsynth
    next => cases hsynth
    next =>
      cases hsynth
      obtain ⟨hrest, hacc⟩ := h newest hnewest
      funext i
      simp [DeadReckoner.projected, hrest.position, hrest.velocity, hacc]

theorem Lerp_vecPosition (a b : DriverPose_t) (alpha : ℝ) :
    (Lerp a b alpha).vecPosition =
      mixVec a.vecPosition b.vecPosition (SmoothBlendWeight (clamp01 alpha)) := rfl

/-- **Where a device at rest is published, by the state of its ladder.** -/
theorem MaybeOverridePose_rest {R : Fin 3 → ℝ} (b : Bridge) {s : BridgeSlot}
    (hhistory : RestHistory R s.history) {pose : DriverPose_t} (hpose : pose.vecPosition = R)
    (qpc_ns : ℤ) :
    (b.MaybeOverridePose s qpc_ns pose).2.map (fun out => out.vecPosition) =
      b.restPosition R s (s.ladder.tick qpc_ns b.qpc_freq) qpc_ns := by
  show (b.overriddenPose s (s.ladder.tick qpc_ns b.qpc_freq) qpc_ns pose).map _ = _
  generalize s.ladder.tick qpc_ns b.qpc_freq = ladder
  have hsynth : (b.synthPose s.history ladder.tracking_result_override qpc_ns pose).vecPosition =
      b.synthPosition R := by
    unfold Bridge.synthPose Bridge.synthPosition
    cases b.ikPose with
    | some synth => rfl
    | none =>
      dsimp only
      split
      next synth hproject =>
        show synth.vecPosition = R
        exact hhistory.project hproject
      next => exact hpose
  unfold Bridge.overriddenPose Bridge.restPosition
  dsimp only
  cases hstate : ladder.state with
  | REAL => exact congrArg some hpose
  | BLEND_OUT =>
    dsimp only
    split
    next synth hproject =>
      show some (Lerp pose synth _).vecPosition = some R
      rw [Lerp_vecPosition, hpose, hhistory.project hproject, mixVec_self]
    next => exact congrArg some hpose
  | SYNTH_RECKON | SYNTH_IK | SYNTH_ML | OUT_OF_RANGE => exact congrArg some hsynth
  | BLEND_IN =>
    dsimp only
    split
    next last _ =>
      show some (Lerp last pose _).vecPosition = _
      rw [Lerp_vecPosition, hpose]
      rfl
    next => exact congrArg some hpose
  | LOST => rfl

end WKPairDriver.Phantom
