import Mathlib
import WKPairDriver.Lib.Smoothstep
import WKPairDriver.Driver.SynthTiming

/-!
# Blending between the headset's own pose and the synthesized one

`StepSourceBlend` is called once for each pose of the headset.  It publishes the synthesized pose
while there is one, holds it over a short dropout, blends to the fallback over a longer one, and
blends back once the synthesized pose has been there for a while.

* `blendPose` — `BlendPose`, over any ordered field; `slerpQuat` is its parameter.
* `stepSourceBlend` — `StepSourceBlend`, over any type of poses.
* `run`, `published` — the states and the poses of a run of calls.

Times are in nanoseconds.
-/

set_option autoImplicit false

namespace WKPairDriver.Driver.SourceBlend

open Lib HeadMount

universe u v
variable {K : Type u} [Field K] [LinearOrder K] {P : Type v}

/-! ## Timing -/

/-- A time in milliseconds. -/
def toMs (ns : ℤ) : K := (ns : K) / 10 ^ 6

def durationAlpha (start now durationMs : ℤ) : K :=
  if durationMs ≤ 0 then 1 else clamp01 (toMs (now - start) / durationMs)

/-! ## Poses -/

/-- `vr::DriverPose_t`; `Q` is the type of quaternions. -/
structure DriverPose (K : Type u) (Q : Type v) where
  poseTimeOffset : K
  qWorldFromDriverRotation : Q
  vecWorldFromDriverTranslation : Fin 3 → K
  qDriverFromHeadRotation : Q
  vecDriverFromHeadTranslation : Fin 3 → K
  vecPosition : Fin 3 → K
  vecVelocity : Fin 3 → K
  vecAcceleration : Fin 3 → K
  qRotation : Q
  vecAngularVelocity : Fin 3 → K
  vecAngularAcceleration : Fin 3 → K
  result : ℤ
  poseIsValid : Bool
  willDriftInYaw : Bool
  shouldApplyHeadModel : Bool
  deviceIsConnected : Bool

/-- A component between two, at the weight `s`. -/
def mix (a b s : K) : K := a * (1 - s) + b * s

def mixVec (a b : Fin 3 → K) (s : K) : Fin 3 → K := fun i => mix (a i) (b i) s

variable {Q : Type v}

def blendPose (slerpQuat : Q → Q → K → Q) (a b : DriverPose K Q) (alpha : K) : DriverPose K Q :=
  let s := smoothstep alpha
  let out := if s ≥ 0.5 then b else a
  { out with
    vecPosition := mixVec a.vecPosition b.vecPosition s
    vecVelocity := mixVec a.vecVelocity b.vecVelocity s
    vecAcceleration := mixVec a.vecAcceleration b.vecAcceleration s
    vecAngularVelocity := mixVec a.vecAngularVelocity b.vecAngularVelocity s
    vecAngularAcceleration := mixVec a.vecAngularAcceleration b.vecAngularAcceleration s
    vecWorldFromDriverTranslation :=
      mixVec a.vecWorldFromDriverTranslation b.vecWorldFromDriverTranslation s
    vecDriverFromHeadTranslation :=
      mixVec a.vecDriverFromHeadTranslation b.vecDriverFromHeadTranslation s
    qRotation := slerpQuat a.qRotation b.qRotation s
    qWorldFromDriverRotation := slerpQuat a.qWorldFromDriverRotation b.qWorldFromDriverRotation s
    qDriverFromHeadRotation := slerpQuat a.qDriverFromHeadRotation b.qDriverFromHeadRotation s
    poseTimeOffset := mix a.poseTimeOffset b.poseTimeOffset s
    poseIsValid := a.poseIsValid || b.poseIsValid
    deviceIsConnected := a.deviceIsConnected || b.deviceIsConnected }

/-! ## The state machine -/

inductive SourceBlendPhase where
  | Uninitialized
  | SynthStable
  | GraceHold
  | BlendingToFallback
  | FallbackStable
  | WaitingForStableSynth
  | BlendingToSynth
deriving DecidableEq

structure SourceBlendState (P : Type v) where
  phase : SourceBlendPhase
  currentPose : P
  lastGoodSynthPose : P
  blendStartPose : P
  phaseStartedAt : ℤ
  stableSynthSince : ℤ
  hasCurrentPose : Bool
  hasLastGoodSynthPose : Bool
  hasStableSynthSince : Bool

/-- `SourceBlendState{}`, where `zero` is the zeroed pose. -/
def SourceBlendState.new (zero : P) : SourceBlendState P where
  phase := .Uninitialized
  currentPose := zero
  lastGoodSynthPose := zero
  blendStartPose := zero
  phaseStartedAt := 0
  stableSynthSince := 0
  hasCurrentPose := false
  hasLastGoodSynthPose := false
  hasStableSynthSince := false

structure SourceBlendResult (K : Type u) where
  previousPhase : SourceBlendPhase
  phase : SourceBlendPhase
  alpha : K
  phaseChanged : Bool

namespace SourceBlendState

variable (state : SourceBlendState P)

def setPhase (phase : SourceBlendPhase) (now : ℤ) : SourceBlendState P :=
  { state with
    phase := phase
    phaseStartedAt := if state.phase ≠ phase then now else state.phaseStartedAt }

/-- A blend starts from `pose`. -/
def startFrom (pose : P) : SourceBlendState P := { state with blendStartPose := pose }

def noteSynth (synth : P) : SourceBlendState P :=
  { state with lastGoodSynthPose := synth, hasLastGoodSynthPose := true }

def stableFrom (now : ℤ) : SourceBlendState P :=
  { state with hasStableSynthSince := true, stableSynthSince := now }

def notStable : SourceBlendState P := { state with hasStableSynthSince := false }

/-- A stretch with a synthesized pose starts now, or goes on. -/
def stamp (now : ℤ) : SourceBlendState P :=
  { state with
    stableSynthSince := if !state.hasStableSynthSince then now else state.stableSynthSince
    hasStableSynthSince := true }

@[simp] theorem setPhase_phase (phase : SourceBlendPhase) (now : ℤ) :
    (state.setPhase phase now).phase = phase := rfl

@[simp] theorem startFrom_phase (pose : P) : (state.startFrom pose).phase = state.phase := rfl

@[simp] theorem notStable_phase : state.notStable.phase = state.phase := rfl

@[simp] theorem noteSynth_phase (synth : P) : (state.noteSynth synth).phase = state.phase := rfl

@[simp] theorem stamp_phase (now : ℤ) : (state.stamp now).phase = state.phase := rfl

theorem setPhase_phaseStartedAt {phase : SourceBlendPhase} (h : state.phase ≠ phase) (now : ℤ) :
    (state.setPhase phase now).phaseStartedAt = now := if_pos h

/-- The pose published is kept. -/
def finish (out : P) : SourceBlendState P :=
  { state with currentPose := out, hasCurrentPose := true }

/-- Each branch below returns the state, `out` and the `alpha` it calls `finish` with. -/
def first (fallbackPose : P) (synthPose : Option P) (now : ℤ) : SourceBlendState P × P × K :=
  match synthPose with
  | some synth => (((state.noteSynth synth).stableFrom now).setPhase .SynthStable now, synth, 1)
  | none => (state.notStable.setPhase .FallbackStable now, fallbackPose, 0)

/-- A tick of the blend to the fallback. -/
def blendToFallback (blend : P → P → K → P) (timing : DriverSynthTimingConfig) (fallbackPose : P)
    (now : ℤ) : SourceBlendState P × P × K :=
  let alpha : K := durationAlpha state.phaseStartedAt now timing.blendToFallbackMs
  if alpha ≥ 1 then (state.setPhase .FallbackStable now, fallbackPose, 1)
  else (state, blend state.blendStartPose fallbackPose alpha, alpha)

/-- A tick of the blend to the synthesized pose. -/
def blendToSynth (blend : P → P → K → P) (timing : DriverSynthTimingConfig) (synthPose : P)
    (now : ℤ) : SourceBlendState P × P × K :=
  let alpha : K := durationAlpha state.phaseStartedAt now timing.blendToSynthMs
  if alpha ≥ 1 then (state.setPhase .SynthStable now, synthPose, 1)
  else (state, blend state.blendStartPose synthPose alpha, alpha)

/-- A call with a synthesized pose. -/
def available (blend : P → P → K → P) (timing : DriverSynthTimingConfig)
    (fallbackPose synthPose : P) (now : ℤ) : SourceBlendState P × P × K :=
  let state := state.noteSynth synthPose
  if state.phase = .SynthStable ∨ state.phase = .GraceHold then
    ((state.stableFrom now).setPhase .SynthStable now, synthPose, 1)
  else
    let state := state.stamp now
    let stableAlpha : K := durationAlpha state.stableSynthSince now timing.stableBeforeSynthMs
    if stableAlpha < 1 ∧ state.phase ≠ .BlendingToSynth then
      if state.phase = .BlendingToFallback then
        state.blendToFallback blend timing fallbackPose now
      else (state.setPhase .WaitingForStableSynth now, fallbackPose, stableAlpha)
    else if state.phase ≠ .BlendingToSynth then
      let start := if state.hasCurrentPose then state.currentPose else fallbackPose
      ((state.startFrom start).setPhase .BlendingToSynth now).blendToSynth blend timing synthPose now
    else state.blendToSynth blend timing synthPose now

/-- A call without one, from where the grace hold is over or was not entered. -/
def afterGrace (blend : P → P → K → P) (timing : DriverSynthTimingConfig) (fallbackPose : P)
    (now : ℤ) : SourceBlendState P × P × K :=
  if state.phase = .BlendingToFallback then state.blendToFallback blend timing fallbackPose now
  else (state.setPhase .FallbackStable now, fallbackPose, 1)

/-- A dropout starts the grace hold. -/
def enterGrace (now : ℤ) : SourceBlendState P :=
  if state.phase = .SynthStable then
    let start := if state.hasLastGoodSynthPose then state.lastGoodSynthPose else state.currentPose
    (state.startFrom start).setPhase .GraceHold now
  else state

/-- A call without a synthesized pose. -/
def unavailable (blend : P → P → K → P) (timing : DriverSynthTimingConfig) (fallbackPose : P)
    (now : ℤ) : SourceBlendState P × P × K :=
  let state := state.notStable.enterGrace now
  if state.phase = .GraceHold then
    let alpha : K := durationAlpha state.phaseStartedAt now timing.graceHoldMs
    if alpha < 1 then (state, state.blendStartPose, alpha)
    else (state.setPhase .BlendingToFallback now).afterGrace blend timing fallbackPose now
  else if state.phase = .BlendingToSynth ∨ state.phase = .WaitingForStableSynth then
    ((state.startFrom state.currentPose).setPhase .BlendingToFallback now).afterGrace blend timing
      fallbackPose now
  else state.afterGrace blend timing fallbackPose now

end SourceBlendState

/-- The arguments of a call; `synthPose` is `none` where the pointer is null. -/
structure Tick (P : Type v) where
  fallbackPose : P
  synthPose : Option P
  synthAvailable : Bool
  now : ℤ

/-- The synthesized pose a call can use. -/
def Tick.synth (tick : Tick P) : Option P := if tick.synthAvailable then tick.synthPose else none

/-- `StepSourceBlend`: the state after the call, `out` and the result. -/
def stepSourceBlend (blend : P → P → K → P) (config : DriverSynthTimingConfig)
    (state : SourceBlendState P) (tick : Tick P) : SourceBlendState P × P × SourceBlendResult K :=
  let timing := clampDriverSynthTimingConfig config
  let r : SourceBlendState P × P × K :=
    if !state.hasCurrentPose then state.first tick.fallbackPose tick.synth tick.now
    else
      match tick.synth with
      | some synth => state.available blend timing tick.fallbackPose synth tick.now
      | none => state.unavailable blend timing tick.fallbackPose tick.now
  (r.1.finish r.2.1, r.2.1, ⟨state.phase, r.1.phase, r.2.2, decide (state.phase ≠ r.1.phase)⟩)

section Step

variable (blend : P → P → K → P) (config : DriverSynthTimingConfig) {state : SourceBlendState P}
  {tick : Tick P}

/-- A call after the first with a synthesized pose. -/
theorem stepSourceBlend_available (hcurrent : state.hasCurrentPose = true) {synth : P}
    (hsynth : tick.synth = some synth) :
    let r := state.available blend (clampDriverSynthTimingConfig config) tick.fallbackPose synth
      tick.now
    (stepSourceBlend blend config state tick).1 = r.1.finish r.2.1 ∧
      (stepSourceBlend blend config state tick).2.1 = r.2.1 := by
  simp [stepSourceBlend, hcurrent, hsynth]

/-- A call after the first without one. -/
theorem stepSourceBlend_unavailable (hcurrent : state.hasCurrentPose = true)
    (hsynth : tick.synth = none) :
    let r := state.unavailable blend (clampDriverSynthTimingConfig config) tick.fallbackPose tick.now
    (stepSourceBlend blend config state tick).1 = r.1.finish r.2.1 ∧
      (stepSourceBlend blend config state tick).2.1 = r.2.1 := by
  simp [stepSourceBlend, hcurrent, hsynth]

end Step

/-! ## Runs -/

variable (blend : P → P → K → P) (config : DriverSynthTimingConfig) (zero : P) (ticks : ℕ → Tick P)

/-- The state before call `n` of a run. -/
def run : ℕ → SourceBlendState P
  | 0 => .new zero
  | n + 1 => (stepSourceBlend blend config (run n) (ticks n)).1

/-- What call `n` does. -/
def call (n : ℕ) : SourceBlendState P × P × SourceBlendResult K :=
  stepSourceBlend blend config (run blend config zero ticks n) (ticks n)

/-- The pose that call `n` publishes. -/
def published (n : ℕ) : P := (call blend config zero ticks n).2.1

@[simp] theorem run_zero : run blend config zero ticks 0 = .new zero := rfl

theorem run_succ (n : ℕ) :
    run blend config zero ticks (n + 1) = (call blend config zero ticks n).1 := rfl

theorem run_hasCurrentPose {n : ℕ} (h0 : 0 < n) :
    (run blend config zero ticks n).hasCurrentPose = true := by
  obtain ⟨m, rfl⟩ := Nat.exists_eq_succ_of_ne_zero h0.ne'
  rfl

/-- A first call without a synthesized pose. -/
theorem run_one_of_unavailable (h : (ticks 0).synth = none) :
    (run blend config zero ticks 1).phase = .FallbackStable ∧
      published blend config zero ticks 0 = (ticks 0).fallbackPose := by
  simp [run, published, call, stepSourceBlend, SourceBlendState.new, SourceBlendState.first,
    SourceBlendState.finish, h]

/-! ## Small facts -/

theorem SourceBlendState.enterGrace_phase (state : SourceBlendState P) (now : ℤ) :
    (state.enterGrace now).phase ≠ .SynthStable := by
  unfold enterGrace
  split
  · rw [setPhase_phase]
    intro h
    cases h
  · assumption

section Field

variable [IsStrictOrderedRing K]

theorem toMs_mono {a b : ℤ} (h : a ≤ b) : (toMs a : K) ≤ toMs b := by
  unfold toMs
  gcongr

theorem durationAlpha_eq_ramp (start now durationMs : ℤ) :
    (durationAlpha start now durationMs : K) = ramp (toMs (now - start)) (durationMs : K) := by
  simp only [durationAlpha, ramp, Int.cast_nonpos]

/-- A ramp is over once its duration has passed. -/
theorem one_le_durationAlpha_iff {start now durationMs : ℤ} :
    (1 : K) ≤ durationAlpha start now durationMs ↔
      durationMs ≤ 0 ∨ durationMs * 10 ^ 6 ≤ now - start := by
  rw [durationAlpha_eq_ramp, one_le_ramp_iff, Int.cast_nonpos, toMs, le_div_iff₀ (by positivity)]
  norm_cast

end Field

end WKPairDriver.Driver.SourceBlend
