import Mathlib

/-!
# The incremental solve: `CalibrationCalc::ComputeIncremental`

The decision which candidate transform is installed: the relative-pose candidate of the locked mode,
the relative-pose candidate, the full solve behind the variance gate, and the late "rapid correct"
fallback.  The arithmetic of doubles is a parameter without laws, so that rounding and NaN are
included; the solvers behind the candidates are parameters too.

* `ComputeIncremental_eq` — the five ways the function ends.
* `ComputeIncremental_false` — a call that returns false leaves the calibration unchanged.
* `gated_iff` — what is installed passed its gates, but for a fallback that was not looked at again.
* `not_gated_of_fallsBack` — with a limit below 10 mm that is every fallback.
-/

set_option autoImplicit false

namespace WKPairDriver.Calibration.Incremental

/-! ## Doubles and their vectors -/

/-- The operations of `double` the code uses, with no laws. -/
structure DoubleArith (D : Type) where
  add : D → D → D
  sub : D → D → D
  mul : D → D → D
  div : D → D → D
  sqrt : D → D
  abs : D → D
  lt : D → D → Bool
  le : D → D → Bool
  isFinite : D → Bool
  infinity : D
  /-- A literal, or the conversion of an `int`. -/
  lit : ℚ → D

abbrev Vector3d (D : Type) := Fin 3 → D
abbrev Matrix3d (D : Type) := Fin 3 → Fin 3 → D

structure AffineCompact3d (D : Type) where
  linear : Matrix3d D
  translation : Vector3d D

structure Pose (D : Type) where
  rot : Matrix3d D
  trans : Vector3d D

/-- The fields of a sample that the validation reads. -/
structure Sample (D : Type) where
  ref : Pose D
  target : Pose D
  valid : Bool

theorem ix_lt : 0 < 3 := by decide

theorem iy_lt : 1 < 3 := by decide

theorem iz_lt : 2 < 3 := by decide

def ix : Fin 3 := ⟨0, ix_lt⟩
def iy : Fin 3 := ⟨1, iy_lt⟩
def iz : Fin 3 := ⟨2, iz_lt⟩

namespace DoubleArith

variable {D : Type} (d : DoubleArith D)

def vadd (u v : Vector3d D) : Vector3d D := fun i => d.add (u i) (v i)

def vsub (u v : Vector3d D) : Vector3d D := fun i => d.sub (u i) (v i)

def vdiv (u : Vector3d D) (x : D) : Vector3d D := fun i => d.div (u i) x

def vzero : Vector3d D := fun _ => d.lit 0

def mulVec (m : Matrix3d D) (v : Vector3d D) : Vector3d D := fun i =>
  d.add (d.add (d.mul (m i ix) (v ix)) (d.mul (m i iy) (v iy))) (d.mul (m i iz) (v iz))

def squaredNorm (v : Vector3d D) : D :=
  d.add (d.add (d.mul (v ix) (v ix)) (d.mul (v iy) (v iy))) (d.mul (v iz) (v iz))

/-- The position a transform takes a pose to: the `trans` of `ApplyTransform`. -/
def transformed (p : Pose D) (t : AffineCompact3d D) : Vector3d D :=
  d.vadd (d.mulVec t.linear p.trans) t.translation

def finite (v : Vector3d D) : Bool := d.isFinite (v ix) && d.isFinite (v iy) && d.isFinite (v iz)

/-- `cwiseAbs().maxCoeff() > 5.0`. -/
def oversize (v : Vector3d D) : Bool :=
  d.lt (d.lit 5.0) (d.abs (v ix)) || d.lt (d.lit 5.0) (d.abs (v iy)) ||
    d.lt (d.lit 5.0) (d.abs (v iz))

end DoubleArith

/-! ## The state and the solvers -/

structure CalibrationCalc (D : Type) where
  enableStaticRecalibration : Bool
  lockRelativePosition : Bool
  m_isValid : Bool
  m_estimatedTransformation : AffineCompact3d D
  m_refToTargetPose : AffineCompact3d D
  m_relativePosCalibrated : Bool
  m_lastComputeUsedRelPose : Bool
  m_axisVariance : D
  m_posOffset : Vector3d D
  m_lastPriorRetargetingErrorM : D
  m_lastCandidateRetargetingErrorM : D
  m_samples : List (Sample D)

/-! ### How a state comes about -/

section

variable {D : Type} (d : DoubleArith D)

def identityTransform : AffineCompact3d D where
  linear i j := d.lit (if i = j then 1 else 0)
  translation := d.vzero

/-- `Clear`, which is also how an instance starts up to fields that it reads only later. -/
def CalibrationCalc.Clear (s : CalibrationCalc D) : CalibrationCalc D :=
  { s with
    m_estimatedTransformation := identityTransform d
    m_isValid := false
    m_lastComputeUsedRelPose := false
    m_samples := []
    m_axisVariance := d.lit 0
    m_refToTargetPose := identityTransform d
    m_relativePosCalibrated := false
    m_lastPriorRetargetingErrorM := d.infinity
    m_lastCandidateRetargetingErrorM := d.infinity }

def CalibrationCalc.PushSample (s : CalibrationCalc D) (sample : Sample D) : CalibrationCalc D :=
  if !d.finite sample.ref.trans || !d.finite sample.target.trans ||
      d.oversize sample.ref.trans || d.oversize sample.target.trans then s
  else { s with m_samples := s.m_samples ++ [sample] }

def CalibrationCalc.SeedEstimatedTransformation (s : CalibrationCalc D)
    (transform : AffineCompact3d D) : CalibrationCalc D :=
  if !(d.finite (transform.linear ix) && d.finite (transform.linear iy) &&
      d.finite (transform.linear iz) && d.finite transform.translation) then s
  else { s with
    m_estimatedTransformation := transform
    m_isValid := true
    m_lastComputeUsedRelPose := false
    m_lastPriorRetargetingErrorM := d.infinity
    m_lastCandidateRetargetingErrorM := d.infinity }

def CalibrationCalc.setRelativeTransformation (s : CalibrationCalc D)
    (transform : AffineCompact3d D) (calibrated : Bool) : CalibrationCalc D :=
  { s with m_refToTargetPose := transform, m_relativePosCalibrated := calibrated }

end

/-- The candidate solvers and Eigen's matrix inverse.  `CalibrateByRelPose` returns whether it
    succeeded and its out parameter; `uninitialized` is what an unassigned transform holds. -/
structure Solvers (D : Type) where
  inverse : Matrix3d D → Matrix3d D
  CalibrateByRelPose : List (Sample D) → AffineCompact3d D → Bool × AffineCompact3d D
  ComputeCalibration : List (Sample D) → Bool → AffineCompact3d D
  /-- The second smallest eigenvalue of `ComputeAxisVariance`. -/
  axisVariance : List (Sample D) → AffineCompact3d D → D
  EstimateRefToTargetPose : List (Sample D) → AffineCompact3d D → AffineCompact3d D
  uninitialized : AffineCompact3d D

section

variable {D : Type} (d : DoubleArith D) (solve : Solvers D)

/-! ## Validation -/

def ComputeRefToTargetOffset (samples : List (Sample D)) (calibration : AffineCompact3d D) :
    Vector3d D :=
  let r := (samples.filter (·.valid)).foldl (fun (acc : Vector3d D × ℕ) sample =>
    let hmdOriginPos := d.vsub (d.transformed sample.target calibration) sample.ref.trans
    let hmdSpace := d.mulVec (solve.inverse sample.ref.rot) hmdOriginPos
    (d.vadd acc.1 hmdSpace, acc.2 + 1)) (d.vzero, 0)
  if r.2 = 0 then d.vzero else d.vdiv r.1 (d.lit r.2)

def RetargetingErrorRMS (samples : List (Sample D)) (hmdToTargetPos : Vector3d D)
    (calibration : AffineCompact3d D) : D :=
  let r := (samples.filter (·.valid)).foldl (fun (acc : D × ℕ) sample =>
    let hmdPoseSpace := d.vadd (d.mulVec sample.ref.rot hmdToTargetPos) sample.ref.trans
    let error := d.squaredNorm (d.vsub (d.transformed sample.target calibration) hmdPoseSpace)
    (d.add acc.1 error, acc.2 + 1)) (d.lit 0, 0)
  if r.2 = 0 then d.infinity else d.sqrt (d.div r.1 (d.lit r.2))

structure Validation (D : Type) where
  ok : Bool
  error : D
  posOffset : Vector3d D

def ValidateCalibration (samples : List (Sample D)) (calibration : AffineCompact3d D) :
    Validation D :=
  let posOffset := ComputeRefToTargetOffset d solve samples calibration
  let rmsError := RetargetingErrorRMS d samples posOffset calibration
  { ok := !d.lt (d.lit 0.1) rmsError
    error := rmsError
    posOffset := posOffset }

/-! ## The stages of the solve -/

def AxisVarianceThreshold : D := d.lit 0.001

/-- The candidate the locked mode accepts, with its error. -/
def lockedCandidate (s : CalibrationCalc D) : Option (AffineCompact3d D × D) :=
  if s.lockRelativePosition then
    let byRelPose := solve.CalibrateByRelPose s.m_samples s.m_refToTargetPose
    let v := ValidateCalibration d solve s.m_samples byRelPose.2
    if byRelPose.1 && v.ok then some (byRelPose.2, v.error) else none
  else none

/-- The error of the prior calibration, also of one that fails the validation. -/
def priorCalibrationError (s : CalibrationCalc D) : D :=
  if s.m_isValid then
    (ValidateCalibration d solve s.m_samples s.m_estimatedTransformation).error
  else d.infinity

/-- The error that is noted: that of a prior calibration that validates. -/
def lastPriorRetargetingErrorM (s : CalibrationCalc D) : D :=
  let v := ValidateCalibration d solve s.m_samples s.m_estimatedTransformation
  if s.m_isValid && v.ok then v.error else s.m_lastPriorRetargetingErrorM

/-- The relative-pose candidate, its error (infinite if it was not validated), and whether the
    validation passed. -/
structure RelPose (D : Type) where
  byRelPose : AffineCompact3d D
  relPoseError : D
  passed : Bool

def relPose (s : CalibrationCalc D) : RelPose D :=
  if s.enableStaticRecalibration then
    let byRelPose := solve.CalibrateByRelPose s.m_samples s.m_refToTargetPose
    if byRelPose.1 then
      let v := ValidateCalibration d solve s.m_samples byRelPose.2
      ⟨byRelPose.2, v.error, v.ok⟩
    else ⟨byRelPose.2, d.infinity, false⟩
  else ⟨solve.uninitialized, d.infinity, false⟩

inductive RelPoseVerdict where
  | rejected
  | accepted
  | notUsed
deriving DecidableEq

/-- A relative-pose candidate with a small error is taken, or makes the function return. -/
def relPoseVerdict (s : CalibrationCalc D) (threshold relPoseMaxError : D) : RelPoseVerdict :=
  let r := relPose d solve s
  if r.passed && (d.lt r.relPoseError (d.lit 0.010) ||
      s.m_relativePosCalibrated && d.lt r.relPoseError (d.lit 0.025)) then
    if d.le (priorCalibrationError d solve s) (d.mul r.relPoseError threshold) then .rejected
    else if d.lt relPoseMaxError r.relPoseError then .rejected
    else .accepted
  else .notUsed

/-- The full solve: its transform, its variance, whether the variance gate stops it, and its
    validation. -/
structure FullSolve (D : Type) where
  calibration : AffineCompact3d D
  newVariance : D
  gated : Bool
  validation : Validation D

def fullSolve (s : CalibrationCalc D) (ignoreOutliers : Bool) : FullSolve D :=
  let calibration := solve.ComputeCalibration s.m_samples ignoreOutliers
  let newVariance := solve.axisVariance s.m_samples calibration
  { calibration := calibration
    newVariance := newVariance
    gated := d.lt newVariance (AxisVarianceThreshold d) && d.lt newVariance s.m_axisVariance
    validation := ValidateCalibration d solve s.m_samples calibration }

/-- The error the full solve is compared with: infinite if the variance gate stopped it. -/
def FullSolve.newError (f : FullSolve D) : D := if f.gated then d.infinity else f.validation.error

/-- The prior calibration is better than the full solve. -/
def priorIsBetter (s : CalibrationCalc D) (threshold : D) (f : FullSolve D) : Bool :=
  s.m_isValid && d.lt (priorCalibrationError d solve s) (d.mul (f.newError d) threshold)

/-- The "rapid correct" fallback: the present relative pose explains the samples worse than the
    relative-pose candidate's error. -/
def rapidCorrects (s : CalibrationCalc D) (threshold : D) : Bool :=
  d.lt (d.mul (relPose d solve s).relPoseError threshold)
    (RetargetingErrorRMS d s.m_samples s.m_refToTargetPose.translation s.m_estimatedTransformation)

/-- The end of a call that returns true. -/
def install (s : CalibrationCalc D) (calibration : AffineCompact3d D) (newError newVariance : D)
    (usingRelPose : Bool) : Bool × Bool × CalibrationCalc D :=
  (true, s.m_isValid, { s with
    m_relativePosCalibrated := s.m_relativePosCalibrated || d.lt newError (d.lit 0.005)
    m_isValid := true
    m_lastComputeUsedRelPose := usingRelPose
    m_estimatedTransformation := calibration
    m_axisVariance := newVariance
    m_refToTargetPose :=
      if usingRelPose then s.m_refToTargetPose
      else solve.EstimateRefToTargetPose s.m_samples calibration
    m_lastCandidateRetargetingErrorM := newError })

/-- The result, the value of `lerp` behind the call, and the state. -/
def ComputeIncremental (s : CalibrationCalc D) (lerp : Bool) (threshold relPoseMaxError : D)
    (ignoreOutliers : Bool) : Bool × Bool × CalibrationCalc D :=
  let s := { s with m_lastComputeUsedRelPose := false }
  match lockedCandidate d solve s with
  | some (byRelPose, relPoseError) =>
    (true, lerp, { s with
      m_isValid := true
      m_lastComputeUsedRelPose := true
      m_estimatedTransformation := byRelPose
      m_lastCandidateRetargetingErrorM := relPoseError })
  | none =>
    let noted := { s with m_lastPriorRetargetingErrorM := lastPriorRetargetingErrorM d solve s }
    let r := relPose d solve s
    match relPoseVerdict d solve s threshold relPoseMaxError with
    | .rejected => (false, lerp, noted)
    | .accepted => install d solve noted r.byRelPose r.relPoseError (d.lit 0) true
    | .notUsed =>
      let f := fullSolve d solve s ignoreOutliers
      let solved :=
        if f.gated then noted else { noted with m_posOffset := f.validation.posOffset }
      let better := priorIsBetter d solve s threshold f
      if !f.gated && !better && f.validation.ok then
        install d solve solved f.calibration (f.newError d) f.newVariance false
      else if !f.gated && !better && rapidCorrects d solve s threshold then
        install d solve solved r.byRelPose r.relPoseError f.newVariance true
      else (false, lerp, solved)

/-! ## What each stage has checked -/

variable {d solve} {s : CalibrationCalc D} {threshold relPoseMaxError : D}

theorem lockedCandidate_checked {t : AffineCompact3d D} {e : D}
    (h : lockedCandidate d solve s = some (t, e)) :
    s.lockRelativePosition = true ∧ (ValidateCalibration d solve s.m_samples t).ok = true := by
  simp only [lockedCandidate] at h
  split_ifs at h with hlock hok
  cases h
  exact ⟨hlock, (Bool.and_eq_true_iff.1 hok).2⟩

theorem relPose_checked (h : (relPose d solve s).passed = true) :
    (ValidateCalibration d solve s.m_samples (relPose d solve s).byRelPose).ok = true ∧
      (ValidateCalibration d solve s.m_samples (relPose d solve s).byRelPose).error =
        (relPose d solve s).relPoseError := by
  simp only [relPose] at h ⊢
  split_ifs at h ⊢
  exact ⟨h, rfl⟩

theorem relPoseVerdict_accepted
    (h : relPoseVerdict d solve s threshold relPoseMaxError = .accepted) :
    (relPose d solve s).passed = true ∧
      d.lt relPoseMaxError (relPose d solve s).relPoseError = false := by
  simp only [relPoseVerdict] at h
  split_ifs at h with hsmall hworse hlarge
  exact ⟨(Bool.and_eq_true_iff.1 hsmall).1, Bool.eq_false_iff.2 hlarge⟩

/-! ## The gates -/

variable (d solve s threshold relPoseMaxError)

/-- The five fields that make up the calibration. -/
structure SameCalibration (s t : CalibrationCalc D) : Prop where
  estimatedTransformation : t.m_estimatedTransformation = s.m_estimatedTransformation
  isValid : t.m_isValid = s.m_isValid
  refToTargetPose : t.m_refToTargetPose = s.m_refToTargetPose
  relativePosCalibrated : t.m_relativePosCalibrated = s.m_relativePosCalibrated
  axisVariance : t.m_axisVariance = s.m_axisVariance

/-- What a call has to leave: a transform that passes the validation, within the error bound if it
    is a relative-pose candidate outside of the locked mode, or the calibration as it was. -/
structure Gated (r : Bool × Bool × CalibrationCalc D) : Prop where
  validated : r.1 = true →
    (ValidateCalibration d solve s.m_samples r.2.2.m_estimatedTransformation).ok = true
  bounded : r.1 = true → r.2.2.m_lastComputeUsedRelPose = true → s.lockRelativePosition = false →
    d.lt relPoseMaxError
      (ValidateCalibration d solve s.m_samples r.2.2.m_estimatedTransformation).error = false
  unchanged : r.1 = false → SameCalibration s r.2.2

/-- The call comes to the "rapid correct" fallback and takes it: neither the locked mode nor the
    relative-pose candidate decides, the variance gate is open, the full solve does not validate,
    the prior calibration is no better, and the present relative pose is worse. -/
structure FallsBack (ignoreOutliers : Bool) : Prop where
  locked : lockedCandidate d solve s = none
  verdict : relPoseVerdict d solve s threshold relPoseMaxError = .notUsed
  open_ : (fullSolve d solve s ignoreOutliers).gated = false
  failed : (fullSolve d solve s ignoreOutliers).validation.ok = false
  prior : priorIsBetter d solve s threshold (fullSolve d solve s ignoreOutliers) = false
  corrects : rapidCorrects d solve s threshold = true

/-- How far the samples are from what the relative pose says. -/
def relPoseDistance : D :=
  (ValidateCalibration d solve s.m_samples (relPose d solve s).byRelPose).error

/-- There is a relative-pose candidate to fall back to. -/
def RelPoseComputed : Prop :=
  s.enableStaticRecalibration = true ∧
    (solve.CalibrateByRelPose s.m_samples s.m_refToTargetPose).1 = true

/-- The samples are as close to the relative pose as the limits ask (the locked mode has one limit),
    and not so close that the code takes it before it comes to the fallback. -/
structure BetweenLimits : Prop where
  rms : d.lt (d.lit 0.1) (relPoseDistance d solve s) = false
  relPose : s.lockRelativePosition = false →
    d.lt relPoseMaxError (relPoseDistance d solve s) = false
  notTaken : RelPoseComputed solve s → s.lockRelativePosition = false ∧
    d.lt (relPoseDistance d solve s) (d.lit 0.010) = false ∧
    (s.m_relativePosCalibrated = true → d.lt (relPoseDistance d solve s) (d.lit 0.025) = false)

/-- **A call that returns false** leaves the calibration as it was. -/
theorem ComputeIncremental_false (lerp ignoreOutliers : Bool)
    (h : (ComputeIncremental d solve s lerp threshold relPoseMaxError ignoreOutliers).1 = false) :
    SameCalibration s
      (ComputeIncremental d solve s lerp threshold relPoseMaxError ignoreOutliers).2.2 := by
  simp only [ComputeIncremental, install] at h ⊢
  split at h
  · cases h
  · split at h
    · exact ⟨rfl, rfl, rfl, rfl, rfl⟩
    · cases h
    · split_ifs at h ⊢ <;> exact ⟨rfl, rfl, rfl, rfl, rfl⟩

/-- No stage reads the field that the call clears first. -/
theorem ComputeIncremental_eq (lerp ignoreOutliers : Bool) :
    ComputeIncremental d solve s lerp threshold relPoseMaxError ignoreOutliers =
      match lockedCandidate d solve s with
      | some (byRelPose, relPoseError) =>
        (true, lerp, { s with
          m_isValid := true
          m_lastComputeUsedRelPose := true
          m_estimatedTransformation := byRelPose
          m_lastCandidateRetargetingErrorM := relPoseError })
      | none =>
        let noted := { s with
          m_lastComputeUsedRelPose := false
          m_lastPriorRetargetingErrorM := lastPriorRetargetingErrorM d solve s }
        let r := relPose d solve s
        match relPoseVerdict d solve s threshold relPoseMaxError with
        | .rejected => (false, lerp, noted)
        | .accepted => install d solve noted r.byRelPose r.relPoseError (d.lit 0) true
        | .notUsed =>
          let f := fullSolve d solve s ignoreOutliers
          let solved :=
            if f.gated then noted else { noted with m_posOffset := f.validation.posOffset }
          let better := priorIsBetter d solve s threshold f
          if !f.gated && !better && f.validation.ok then
            install d solve solved f.calibration (f.newError d) f.newVariance false
          else if !f.gated && !better && rapidCorrects d solve s threshold then
            install d solve solved r.byRelPose r.relPoseError f.newVariance true
          else (false, lerp, solved) := rfl

/-- What a call that falls back has settled about a relative pose within the validation's limit. -/
theorem FallsBack.notTaken {ignoreOutliers : Bool}
    (h : FallsBack d solve s threshold relPoseMaxError ignoreOutliers)
    (hcomputed : RelPoseComputed solve s)
    (hrms : d.lt (d.lit 0.1) (relPoseDistance d solve s) = false) :
    s.lockRelativePosition = false ∧
      d.lt (relPoseDistance d solve s) (d.lit 0.010) = false ∧
      (s.m_relativePosCalibrated = true →
        d.lt (relPoseDistance d solve s) (d.lit 0.025) = false) := by
  obtain ⟨hstatic, hsolved⟩ := hcomputed
  have hrelPose : relPose d solve s =
      ⟨(solve.CalibrateByRelPose s.m_samples s.m_refToTargetPose).2,
        (ValidateCalibration d solve s.m_samples
          (solve.CalibrateByRelPose s.m_samples s.m_refToTargetPose).2).error,
        (ValidateCalibration d solve s.m_samples
          (solve.CalibrateByRelPose s.m_samples s.m_refToTargetPose).2).ok⟩ := by
    simp only [relPose, hstatic, hsolved, if_true]
  have hok : (ValidateCalibration d solve s.m_samples
      (solve.CalibrateByRelPose s.m_samples s.m_refToTargetPose).2).ok = true := by
    simp only [relPoseDistance, hrelPose] at hrms
    simp only [ValidateCalibration] at hrms ⊢
    rw [hrms, Bool.not_false]
  have hlocked := h.locked
  have hverdict := h.verdict
  simp only [lockedCandidate, hsolved, hok, Bool.and_self, if_true] at hlocked
  simp only [relPoseVerdict, hrelPose, hok, Bool.true_and] at hverdict
  simp only [relPoseDistance, hrelPose]
  refine ⟨?_, ?_⟩
  · by_contra hlock
    rw [if_pos (Bool.eq_true_of_not_eq_false hlock)] at hlocked
    cases hlocked
  · by_contra hsmall
    rw [not_and_or, Bool.not_eq_false, Classical.not_imp, Bool.not_eq_false] at hsmall
    rw [if_pos] at hverdict
    · split_ifs at hverdict
    · rw [Bool.or_eq_true, Bool.and_eq_true]
      exact hsmall

/-- A call that falls back installs the relative pose. -/
theorem FallsBack.installs {ignoreOutliers : Bool}
    (h : FallsBack d solve s threshold relPoseMaxError ignoreOutliers) (lerp : Bool) :
    ∃ solved : CalibrationCalc D,
      ComputeIncremental d solve s lerp threshold relPoseMaxError ignoreOutliers =
        install d solve solved (relPose d solve s).byRelPose (relPose d solve s).relPoseError
          (fullSolve d solve s ignoreOutliers).newVariance true := by
  rw [ComputeIncremental_eq]
  simp only [h.locked, h.verdict, h.open_, h.prior, h.failed, h.corrects, Bool.not_false,
    Bool.and_true, Bool.and_false, Bool.false_eq_true, if_true, if_false]
  exact ⟨_, rfl⟩

/-- The gates of a call that falls back. -/
theorem FallsBack.gated_iff_limits {ignoreOutliers : Bool}
    (h : FallsBack d solve s threshold relPoseMaxError ignoreOutliers) (lerp : Bool) :
    Gated d solve s relPoseMaxError
        (ComputeIncremental d solve s lerp threshold relPoseMaxError ignoreOutliers) ↔
      d.lt (d.lit 0.1) (relPoseDistance d solve s) = false ∧
        (s.lockRelativePosition = false →
          d.lt relPoseMaxError (relPoseDistance d solve s) = false) := by
  obtain ⟨solved, hinstalls⟩ := h.installs d solve s threshold relPoseMaxError lerp
  have hok : (ValidateCalibration d solve s.m_samples (relPose d solve s).byRelPose).ok = true ↔
      d.lt (d.lit 0.1) (relPoseDistance d solve s) = false := by
    simp only [ValidateCalibration, relPoseDistance, Bool.not_eq_true']
  rw [hinstalls, ← hok]
  constructor
  · intro hgated
    exact ⟨hgated.validated rfl, hgated.bounded rfl rfl⟩
  · rintro ⟨hvalidated, hbounded⟩
    exact ⟨fun _ => hvalidated, fun _ _ hlock => hbounded hlock, fun hfalse => (by cases hfalse)⟩

/-- A call that does not fall back passes its gates. -/
theorem gated_of_not_fallsBack (lerp ignoreOutliers : Bool)
    (h : ¬FallsBack d solve s threshold relPoseMaxError ignoreOutliers) :
    Gated d solve s relPoseMaxError
      (ComputeIncremental d solve s lerp threshold relPoseMaxError ignoreOutliers) := by
  have hfalse := ComputeIncremental_false d solve s threshold relPoseMaxError lerp ignoreOutliers
  rw [ComputeIncremental_eq] at hfalse ⊢
  cases hlocked : lockedCandidate d solve s with
  | some c =>
    obtain ⟨hlock, hok⟩ := lockedCandidate_checked hlocked
    refine ⟨fun _ => hok, fun _ _ hno => ?_, fun h => (by cases h)⟩
    rw [hlock] at hno
    cases hno
  | none =>
    rw [hlocked] at hfalse
    cases hverdict : relPoseVerdict d solve s threshold relPoseMaxError with
    | rejected =>
      rw [hverdict] at hfalse
      exact ⟨fun h => (by cases h), fun h => (by cases h), hfalse⟩
    | accepted =>
      obtain ⟨hpassed, hbound⟩ := relPoseVerdict_accepted hverdict
      obtain ⟨hok, herror⟩ := relPose_checked hpassed
      refine ⟨fun _ => hok, fun _ _ _ => ?_, fun h => (by cases h)⟩
      rw [← herror] at hbound
      exact hbound
    | notUsed =>
      rw [hverdict] at hfalse
      -- The full solve: installed, or the call returns false.
      simp only at hfalse ⊢
      by_cases hfull : (!(fullSolve d solve s ignoreOutliers).gated &&
          !priorIsBetter d solve s threshold (fullSolve d solve s ignoreOutliers) &&
          (fullSolve d solve s ignoreOutliers).validation.ok) = true
      · rw [if_pos hfull]
        simp only [Bool.and_eq_true] at hfull
        exact ⟨fun _ => hfull.2, fun _ h => (by cases h), fun h => (by cases h)⟩
      rw [if_neg hfull] at hfalse ⊢
      have hback : ¬(!(fullSolve d solve s ignoreOutliers).gated &&
          !priorIsBetter d solve s threshold (fullSolve d solve s ignoreOutliers) &&
          rapidCorrects d solve s threshold) = true := by
        intro hback
        simp only [Bool.and_eq_true, Bool.not_eq_true'] at hfull hback
        obtain ⟨⟨hopen, hprior⟩, hcorrects⟩ := hback
        exact h ⟨hlocked, hverdict, hopen, by simpa [hopen, hprior] using hfull, hprior, hcorrects⟩
      rw [if_neg hback] at hfalse ⊢
      exact ⟨fun h => (by cases h), fun h => (by cases h), hfalse⟩

/-- **Gates.**  A call leaves a validated transform within its error bound, or the calibration as it
    was, exactly when it does not fall back to a relative pose that is outside of the limits. -/
theorem gated_iff (lerp ignoreOutliers : Bool) :
    Gated d solve s relPoseMaxError
        (ComputeIncremental d solve s lerp threshold relPoseMaxError ignoreOutliers) ↔
      (FallsBack d solve s threshold relPoseMaxError ignoreOutliers →
        BetweenLimits d solve s relPoseMaxError) := by
  by_cases hback : FallsBack d solve s threshold relPoseMaxError ignoreOutliers
  · rw [hback.gated_iff_limits, imp_iff_right hback]
    constructor
    · rintro ⟨hrms, hbound⟩
      exact ⟨hrms, hbound, fun hcomputed => hback.notTaken d solve s threshold relPoseMaxError
        hcomputed hrms⟩
    · exact fun h => ⟨h.rms, h.relPose⟩
  · exact iff_of_true (gated_of_not_fallsBack d solve s threshold relPoseMaxError lerp
      ignoreOutliers hback) fun h => absurd h hback

/-- **With a limit below 10 mm every fallback is wrong**: what the limit lets pass the code has
    taken before. -/
theorem not_gated_of_fallsBack {ignoreOutliers : Bool}
    (h : FallsBack d solve s threshold relPoseMaxError ignoreOutliers)
    (hcomputed : RelPoseComputed solve s)
    (hlimit : d.lt relPoseMaxError (relPoseDistance d solve s) = false →
      d.lt (relPoseDistance d solve s) (d.lit 0.010) = true) (lerp : Bool) :
    ¬Gated d solve s relPoseMaxError
      (ComputeIncremental d solve s lerp threshold relPoseMaxError ignoreOutliers) := by
  rw [h.gated_iff_limits]
  rintro ⟨hrms, hbound⟩
  obtain ⟨hlock, hlarge, -⟩ := h.notTaken d solve s threshold relPoseMaxError hcomputed hrms
  rw [hlimit (hbound hlock)] at hlarge
  cases hlarge

end

/-! ## A fallback that installs a rejected candidate -/

section

/-- Doubles without rounding; `none` is infinity. -/
def exactDoubles : DoubleArith (Option ℚ) where
  add x y := x.bind fun a => y.map (a + ·)
  sub x y := x.bind fun a => y.map (a - ·)
  mul x y := x.bind fun a => y.map (a * ·)
  div x y := x.bind fun a => y.map (a / ·)
  sqrt := Option.map Rat.sqrt
  abs := Option.map abs
  lt x y := x.elim false fun a => y.elim true fun b => decide (a < b)
  le x y := y.elim true fun b => x.elim false fun a => decide (a ≤ b)
  isFinite := Option.isSome
  infinity := none
  lit := some

def shiftX (x : ℚ) : AffineCompact3d (Option ℚ) :=
  { identityTransform exactDoubles with
    translation := fun i => some (if i = ix then x else 0) }

/-- A tracker at `x` while the headset stays at the origin; neither is turned. -/
def levelSample (x : ℚ) : Sample (Option ℚ) where
  ref := ⟨(shiftX 0).linear, (shiftX 0).translation⟩
  target := ⟨(shiftX 0).linear, (shiftX x).translation⟩
  valid := true

/-- The same with the headset at `x`. -/
def walkedSample (x y : ℚ) : Sample (Option ℚ) :=
  { levelSample y with ref := ⟨(shiftX 0).linear, (shiftX x).translation⟩ }

/-- A half-turn about the vertical, and a move. -/
def turnedRound (x : ℚ) : AffineCompact3d (Option ℚ) where
  linear i j := some (if i = j then (if i = iy then 1 else -1) else 0)
  translation := (shiftX x).translation

/-- What the solvers give for the two samples below. -/
def levelSolvers : Solvers (Option ℚ) where
  inverse m := m
  CalibrateByRelPose _ S :=
    (true, ⟨S.linear, fun i =>
      exactDoubles.sub (S.translation i) (some (if i = ix then 0.2 else 0))⟩)
  ComputeCalibration _ _ := shiftX 0
  axisVariance _ _ := some 0
  EstimateRefToTargetPose _ _ := shiftX 0.2
  uninitialized := shiftX 0

/-- A calibration from a profile of before the room was turned round, its relative pose, and two
    samples between which the headset has gone 60 cm and the tracker 1 m. -/
def seededState : CalibrationCalc (Option ℚ) :=
  let fresh : CalibrationCalc (Option ℚ) := {
    enableStaticRecalibration := true
    lockRelativePosition := false
    m_isValid := false
    m_estimatedTransformation := shiftX 0
    m_refToTargetPose := shiftX 0
    m_relativePosCalibrated := false
    m_lastComputeUsedRelPose := false
    m_axisVariance := some 0
    m_posOffset := fun _ => some 0
    m_lastPriorRetargetingErrorM := none
    m_lastCandidateRetargetingErrorM := none
    m_samples := [] }
  ((((fresh.Clear exactDoubles).SeedEstimatedTransformation exactDoubles
    (turnedRound 0.8)).setRelativeTransformation (shiftX 0) true).PushSample exactDoubles
      (levelSample 0)).PushSample exactDoubles (walkedSample 0.6 1)

/-- The call returns true with a transform 20 cm off, where 10 cm is the limit. -/
theorem rapidCorrect_ungated :
    ¬Gated exactDoubles levelSolvers seededState (some 0.005)
      (ComputeIncremental exactDoubles levelSolvers seededState false (some 1.5)
        (some 0.005) false) := by
  intro h
  have hok := h.validated (by decide +kernel)
  have hbad : (ValidateCalibration exactDoubles levelSolvers seededState.m_samples
      (ComputeIncremental exactDoubles levelSolvers seededState false (some 1.5)
        (some 0.005) false).2.2.m_estimatedTransformation).ok = false := by
    decide +kernel
  rw [hbad] at hok
  cases hok

end

end WKPairDriver.Calibration.Incremental
