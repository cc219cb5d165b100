import Mathlib
import WKPairDriver.Lib.Lerp

/-!
# The speed-adaptive filter: `SmartSmoothingShadowMath`

A low-pass filter of position and rotation whose cutoff rises with the speed, as the live smoothing
and the development shadow use it.  Quaternions are stored wxyz.

* `BuildParams` — the parameters of a strength.
* `FilterStep` — one sample: `reseed` where the filter restarts, `filtered` where it filters.

Over the reals; a double is finite.
-/

set_option autoImplicit false

namespace WKPairDriver.SmartShadow

open Matrix Lib

/-! ## Scalars -/

noncomputable def Clamp (value lo hi : ℝ) : ℝ := min hi (max lo value)

noncomputable def Saturate (value : ℝ) : ℝ := Clamp value 0 1

noncomputable def Lerp (a b t : ℝ) : ℝ := a + (b - a) * Saturate t

noncomputable def SmoothStep (edge0 edge1 x : ℝ) : ℝ :=
  if ¬ edge1 > edge0 then if x ≥ edge1 then 1 else 0
  else
    let t := Saturate ((x - edge0) / (edge1 - edge0))
    t * t * (3.0 - 2.0 * t)

noncomputable def kPi : ℝ := 3.1415926535897932384626433832795

noncomputable def AlphaFromCutoffHz (cutoffHz dtSeconds : ℝ) : ℝ :=
  let cutoffHz := Clamp cutoffHz 0.001 120.0
  let dtSeconds := Clamp dtSeconds 0.001 0.050
  let tau := 1 / (2.0 * kPi * cutoffHz)
  dtSeconds / (dtSeconds + tau)

noncomputable def AlphaFromTau (tauSeconds dtSeconds : ℝ) : ℝ :=
  let tauSeconds := max 0.0005 tauSeconds
  let dtSeconds := Clamp dtSeconds 0.001 0.050
  dtSeconds / (dtSeconds + tauSeconds)

noncomputable def UpdateEnvelope (current target dtSeconds attackTauSeconds releaseTauSeconds : ℝ) :
    ℝ :=
  let target := Saturate target
  let tau := if target > current then attackTauSeconds else releaseTauSeconds
  let alpha := AlphaFromTau tau dtSeconds
  Saturate (current + alpha * (target - current))

/-! ## Parameters -/

structure Params where
  posMinCutoffHz : ℝ
  rotMinCutoffHz : ℝ
  posBetaHzPerMps : ℝ
  rotBetaHzPerRadps : ℝ
  derivCutoffHz : ℝ
  maxCutoffHz : ℝ
  basePredictionFactor : ℝ
  linDerivedDeadband : ℝ
  linReportedDeadband : ℝ
  angDerivedDeadband : ℝ
  angReportedDeadband : ℝ
  linStillSpeed : ℝ
  linMovingSpeed : ℝ
  angStillSpeed : ℝ
  angMovingSpeed : ℝ
  innovationTauSeconds : ℝ
  linInnovationDeadband : ℝ
  angInnovationDeadband : ℝ
  posErrStillM : ℝ
  posErrMovingM : ℝ
  rotErrStillRad : ℝ
  rotErrMovingRad : ℝ
  gateAttackTauSeconds : ℝ
  gateReleaseTauSeconds : ℝ
  positionJumpM : ℝ
  rotationJumpRad : ℝ
  resetGapSeconds : ℝ

/-- `Params p;` -/
noncomputable def defaultParams : Params where
  posMinCutoffHz := 12.0
  rotMinCutoffHz := 16.0
  posBetaHzPerMps := 6.0
  rotBetaHzPerRadps := 1.5
  derivCutoffHz := 4.0
  maxCutoffHz := 90.0
  basePredictionFactor := 1.0
  linDerivedDeadband := 0.03
  linReportedDeadband := 0.06
  angDerivedDeadband := 0.08
  angReportedDeadband := 0.15
  linStillSpeed := 0.03
  linMovingSpeed := 0.35
  angStillSpeed := 0.10
  angMovingSpeed := 1.20
  innovationTauSeconds := 0.08
  linInnovationDeadband := 0.0
  angInnovationDeadband := 0.0
  posErrStillM := 0.012
  posErrMovingM := 0.060
  rotErrStillRad := 0.01308996938995747
  rotErrMovingRad := 0.10471975511965977
  gateAttackTauSeconds := 0.006
  gateReleaseTauSeconds := 0.045
  positionJumpM := 0.50
  rotationJumpRad := 1.0471975511965976
  resetGapSeconds := 0.25

/-- `prediction::SmoothnessToFactor` -/
noncomputable def SmoothnessToFactor (smoothness : UInt8) : ℝ :=
  let s := (smoothness.toNat : ℝ)
  let s := if s > 100.0 then 100.0 else s
  let t := 1.0 - s / 100.0
  t * t

/-- `1 - smoothness / 100`, clamped. -/
noncomputable def inverse01 (smoothness : UInt8) : ℝ :=
  1.0 - Clamp ((smoothness.toNat : ℝ) / 100.0) 0.0 1.0

noncomputable def BuildParams (smoothness : UInt8) : Params :=
  let s01 := Clamp ((smoothness.toNat : ℝ) / 100.0) 0.0 1.0
  { defaultParams with
    posMinCutoffHz := 0.45 + 16.0 * inverse01 smoothness ^ (1.8 : ℝ)
    rotMinCutoffHz := 0.75 + 18.0 * inverse01 smoothness ^ (1.6 : ℝ)
    posBetaHzPerMps := Lerp 6.0 24.0 s01
    rotBetaHzPerRadps := Lerp 1.5 4.5 s01
    basePredictionFactor := SmoothnessToFactor smoothness }

/-! ## Vectors and quaternions -/

abbrev Vec3 := Fin 3 → ℝ

abbrev Quat := Fin 4 → ℝ

noncomputable def Distance3 (a b : Vec3) : ℝ := √((a - b) ⬝ᵥ (a - b))

noncomputable def QuatDot (a b : Quat) : ℝ := a ⬝ᵥ b

/-- The result and what is written: the identity for a degenerate input. -/
noncomputable def QuatNormalize (q : Quat) : Bool × Quat :=
  let n2 := QuatDot q q
  if ¬ n2 > 1e-18 then (false, ![1, 0, 0, 0])
  else
    let inv := 1 / √n2
    (true, inv • q)

noncomputable def QuatSameHemisphere (reference q : Quat) : Quat :=
  let s : ℝ := if QuatDot reference q < 0 then -1 else 1
  s • q

noncomputable def QuatAngleRad (a b : Quat) : ℝ :=
  let na := QuatNormalize a
  let nb := QuatNormalize b
  if !na.1 ∨ !nb.1 then 0
  else
    let d := Clamp |QuatDot na.2 nb.2| 0 1
    2.0 * Real.arccos d

noncomputable def QuatNlerpShortest (q r : Quat) (alpha : ℝ) : Quat :=
  let nf := QuatNormalize q
  let nt := QuatNormalize r
  if !nf.1 then nt.2
  else if !nt.1 then nf.2
  else
    let hemi := QuatSameHemisphere nf.2 nt.2
    let alpha := Saturate alpha
    (QuatNormalize (nf.2 + alpha • (hemi - nf.2))).2

/-! ## The filter -/

structure FilterState where
  initialized : Bool
  prevRawPos : Vec3
  prevRawRot : Quat
  filteredPos : Vec3
  filteredRot : Quat
  linearSpeedHat : ℝ
  angularSpeedHat : ℝ
  posRelease : ℝ
  rotRelease : ℝ

noncomputable def FilterState.new : FilterState where
  initialized := false
  prevRawPos := 0
  prevRawRot := ![1, 0, 0, 0]
  filteredPos := 0
  filteredRot := ![1, 0, 0, 0]
  linearSpeedHat := 0
  angularSpeedHat := 0
  posRelease := 1
  rotRelease := 1

inductive ReseedReason where
  | None | Init | Gap | Jump
  deriving DecidableEq

structure StepResult where
  posAlpha : ℝ
  rotAlpha : ℝ
  posRelease : ℝ
  rotRelease : ℝ
  posCutoffHz : ℝ
  rotCutoffHz : ℝ
  reseeded : Bool
  reseedReason : ReseedReason

/-- `StepResult out;` -/
noncomputable def StepResult.new : StepResult := ⟨1, 1, 1, 1, 0, 0, false, .None⟩

noncomputable def SeedFilter (s : FilterState) (rawPos : Vec3) (rawRot : Quat) : FilterState :=
  let n := (QuatNormalize rawRot).2
  { s with
    prevRawPos := rawPos
    filteredPos := rawPos
    prevRawRot := n
    filteredRot := n
    linearSpeedHat := 0
    angularSpeedHat := 0
    posRelease := 1
    rotRelease := 1
    initialized := true }

/-- The arguments of a step but for the state and the parameters. -/
structure Sample where
  rawPos : Vec3
  rawRot : Quat
  reportedLinearSpeed : ℝ
  reportedAngularSpeed : ℝ
  rawDtSeconds : ℝ

/-- The step where the filter restarts at the sample. -/
noncomputable def reseed (s : FilterState) (rawPos : Vec3) (rawRot : Quat) (reason : ReseedReason) :
    FilterState × StepResult :=
  let s := SeedFilter s rawPos rawRot
  (s, { StepResult.new with
    reseeded := true
    reseedReason := reason
    posRelease := s.posRelease
    rotRelease := s.rotRelease })

/-- The step that filters: `rawRot` is on the hemisphere of the previous one. -/
noncomputable def filtered (s : FilterState) (p : Params) (x : Sample) (rawRot : Quat) (dt : ℝ)
    (posInnovation rotInnovation : ℝ) : FilterState × StepResult :=
  let rawStepM := Distance3 x.rawPos s.prevRawPos
  let derivedLinearSpeed := min (rawStepM / dt) 15.0
  let rawRotStepRad := QuatAngleRad rawRot s.prevRawRot
  let derivedAngularSpeed := min (rawRotStepRad / dt) 80.0
  let linInstant := max (max (max 0 (derivedLinearSpeed - p.linDerivedDeadband))
    (max 0 (x.reportedLinearSpeed - p.linReportedDeadband)))
    (max 0 (posInnovation / p.innovationTauSeconds - p.linInnovationDeadband))
  let angInstant := max (max (max 0 (derivedAngularSpeed - p.angDerivedDeadband))
    (max 0 (x.reportedAngularSpeed - p.angReportedDeadband)))
    (max 0 (rotInnovation / p.innovationTauSeconds - p.angInnovationDeadband))
  let derivAlpha := AlphaFromCutoffHz p.derivCutoffHz dt
  let linearSpeedHat := s.linearSpeedHat + derivAlpha * (linInstant - s.linearSpeedHat)
  let angularSpeedHat := s.angularSpeedHat + derivAlpha * (angInstant - s.angularSpeedHat)
  let posTarget := max (SmoothStep p.linStillSpeed p.linMovingSpeed linearSpeedHat)
    (SmoothStep p.posErrStillM p.posErrMovingM posInnovation)
  let rotTarget := max (SmoothStep p.angStillSpeed p.angMovingSpeed angularSpeedHat)
    (SmoothStep p.rotErrStillRad p.rotErrMovingRad rotInnovation)
  let posRelease :=
    UpdateEnvelope s.posRelease posTarget dt p.gateAttackTauSeconds p.gateReleaseTauSeconds
  let rotRelease :=
    UpdateEnvelope s.rotRelease rotTarget dt p.gateAttackTauSeconds p.gateReleaseTauSeconds
  let posErrSpeed := min (max 0 (posInnovation - p.posErrStillM) / dt) 3.0
  let rotErrSpeed := min (max 0 (rotInnovation - p.rotErrStillRad) / dt) 20.0
  let posSpeedForCutoff := max linearSpeedHat posErrSpeed
  let rotSpeedForCutoff := max angularSpeedHat rotErrSpeed
  let posCutoff := Clamp (p.posMinCutoffHz + p.posBetaHzPerMps * posSpeedForCutoff)
    p.posMinCutoffHz p.maxCutoffHz
  let rotCutoff := Clamp (p.rotMinCutoffHz + p.rotBetaHzPerRadps * rotSpeedForCutoff)
    p.rotMinCutoffHz p.maxCutoffHz
  let posCutoff := max posCutoff (Lerp p.posMinCutoffHz p.maxCutoffHz posRelease)
  let rotCutoff := max rotCutoff (Lerp p.rotMinCutoffHz p.maxCutoffHz rotRelease)
  let posAlpha := AlphaFromCutoffHz posCutoff dt
  let rotAlpha := AlphaFromCutoffHz rotCutoff dt
  let posAlpha := posAlpha + (1 - posAlpha) * posRelease
  let rotAlpha := rotAlpha + (1 - rotAlpha) * rotRelease
  ({ s with
      linearSpeedHat := linearSpeedHat
      angularSpeedHat := angularSpeedHat
      posRelease := posRelease
      rotRelease := rotRelease
      filteredPos := fun axis => lerp (s.filteredPos axis) (x.rawPos axis) posAlpha
      filteredRot := QuatNlerpShortest s.filteredRot rawRot rotAlpha
      prevRawPos := x.rawPos
      prevRawRot := rawRot },
    { StepResult.new with
      posAlpha := posAlpha
      rotAlpha := rotAlpha
      posRelease := posRelease
      rotRelease := rotRelease
      posCutoffHz := posCutoff
      rotCutoffHz := rotCutoff })

noncomputable def FilterStep (s : FilterState) (p : Params) (x : Sample) :
    FilterState × StepResult :=
  let normalized := QuatNormalize x.rawRot
  let rawRot := normalized.2
  if !normalized.1 then
    -- degenerate input: a reseed on the next good sample
    ({ s with initialized := false },
      { StepResult.new with reseeded := true, reseedReason := .Init })
  else if !s.initialized then reseed s x.rawPos rawRot .Init
  else if ¬ x.rawDtSeconds > 0 ∨ x.rawDtSeconds > p.resetGapSeconds then
    reseed s x.rawPos rawRot .Gap
  else
    let dt := Clamp x.rawDtSeconds 0.001 0.050
    let rawRot := QuatSameHemisphere s.prevRawRot rawRot
    let posInnovation := Distance3 x.rawPos s.filteredPos
    let rotInnovation := QuatAngleRad rawRot s.filteredRot
    if posInnovation > p.positionJumpM ∨ rotInnovation > p.rotationJumpRad then
      reseed s x.rawPos rawRot .Jump
    else filtered s p x rawRot dt posInnovation rotInnovation

end WKPairDriver.SmartShadow
