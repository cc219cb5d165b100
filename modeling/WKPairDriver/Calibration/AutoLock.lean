import Mathlib
import WKPairDriver.Calibration.Context

/-!
# AUTO Lock: the rigidity detector and the gate its flips wait behind

The detector keeps a window of relative poses and asks for a flip of the effective lock when its
verdict differs from it; the commit step of continuous calibration carries the flip out once the
user holds still, or, for an unlock, once it has been asked for long enough.

* `UpdateAutoLockDetector_cases` — the four things one evaluation can do.
* `Commit_cases` — the three things one commit step can do.
-/

set_option autoImplicit false

namespace WKPairDriver.Calibration.AutoLock

variable {K : Type} [Field K] [LinearOrder K] {A : Type}

/-! ## Thresholds -/

/-- Window size of the relative-pose history. -/
def kHistoryMax : Nat := 20
def kSamplesNeeded : Nat := 20

def kEnterTranslM : K := 0.003
def kLeaveTranslM : K := 0.015
def kEnterRotRad : K := 0.7 * EIGEN_PI / 180.0
def kLeaveRotRad : K := 1.5 * EIGEN_PI / 180.0
def kEnterAdaptiveScale : K := 2.0
def kStationaryHmdMps : K := 0.05
def kAutoLockUnlockMaxWaitSeconds : K := 5.0
def kPanicTranslM : K := 0.040
def kPanicRotRad : K := 5.0 * EIGEN_PI / 180.0
def kFloorWindowSec : K := 60.0

/-- The enter threshold, scaled to the noise floor of the rig. -/
def EnterThresholdFor (madFloor : K) : K :=
  let kCeil : K := kLeaveTranslM - 0.001
  let v := kEnterAdaptiveScale * madFloor
  let v := if v < kEnterTranslM then kEnterTranslM else v
  if kCeil < v then kCeil else v

def IsPanicLevelDeviation (translStdDev rotMaxAngle : K) : Bool :=
  decide (kPanicTranslM ≤ translStdDev) || decide (kPanicRotRad ≤ rotMaxAngle)

/-- Tighter on enter than on leave. -/
def VerdictWithHysteresis (translStdDev rotMaxAngle : K) (prevLocked : Bool)
    (enterTranslM : K) : Bool :=
  if prevLocked then
    decide (translStdDev < kLeaveTranslM) && decide (rotMaxAngle < kLeaveRotRad)
  else
    decide (translStdDev < enterTranslM) && decide (rotMaxAngle < kEnterRotRad)

def HmdIsStationary (hmdSpeedMps : K) : Bool := decide (hmdSpeedMps < kStationaryHmdMps)

structure CommitGateDecision where
  commit : Bool
  mode : String

/-- Standing still lets any flip commit; an unlock commits once it has been held long enough. -/
def EvaluateCommitGate (pendingFlipTo : Bool) (hmdSpeedMps pendingHeldSec : K) :
    CommitGateDecision :=
  let stationary := HmdIsStationary hmdSpeedMps
  let unlockTimeoutFired :=
    pendingFlipTo == false && decide (kAutoLockUnlockMaxWaitSeconds ≤ pendingHeldSec)
  if stationary = false ∧ unlockTimeoutFired = false then ⟨false, "held"⟩
  else if unlockTimeoutFired then ⟨true, "unlock_timeout"⟩
  else if stationary then ⟨true, "stationary_gate"⟩
  else ⟨true, "unknown"⟩

/-! ## Deviations of a window -/

/-- The operations of Eigen the deviations use; `A` is `AffineCompact3d`. -/
structure Geometry (K A : Type) where
  /-- `refWorld.inverse() * targetWorld` -/
  relative : A → A → A
  translation : A → K × K × K
  norm : K × K × K → K
  /-- Between the rotations of two transforms. -/
  angularDistance : A → A → K

/-- `std::nth_element` at the middle of a vector that is not empty. -/
def medianOf (v : List K) : K := ((v.insertionSort (· ≤ ·))[v.length / 2]?).getD 0

variable (g : Geometry K A)

def RobustTranslDeviation (history : List A) : K :=
  if history.isEmpty then 0
  else
    let median : K × K × K :=
      (medianOf (history.map fun a => (g.translation a).1),
       medianOf (history.map fun a => (g.translation a).2.1),
       medianOf (history.map fun a => (g.translation a).2.2))
    medianOf (history.map fun a => g.norm (g.translation a - median)) * 1.4826

/-- The middle sample stands in for the median rotation. -/
def RobustRotDeviation (history : List A) : K :=
  match history[history.length / 2]? with
  | none => 0
  | some medianQ => medianOf (history.map fun a => g.angularDistance medianQ a) * 1.4826

/-! ## The detector -/

/-- The AUTO Lock fields of `CalibrationContext`. -/
structure AutoLockContext (K A : Type) where
  autoLockHistory : List A
  autoLockEffectivelyLocked : Bool
  /-- Readings of the translation deviation with their times, the oldest first. -/
  autoLockMadHistory : List (K × K)
  autoLockMadFloor : K
  autoLockHasPendingFlip : Bool
  autoLockPendingFlipTo : Bool
  /-- 0 when no hold is being timed. -/
  autoLockPendingFlipFirstSeen : K

/-- The history with one more pose, its oldest dropped beyond `kHistoryMax`. -/
def pushHistory (history : List A) (rel : A) : List A :=
  (history ++ [rel]).drop (history.length + 1 - kHistoryMax)

def pushMad (history : List (K × K)) (nowSec mad : K) : List (K × K) :=
  (history ++ [(nowSec, mad)]).dropWhile fun p => decide (kFloorWindowSec < nowSec - p.1)

/-- The least reading. -/
def madFloorOf : List (K × K) → K
  | [] => 0
  | front :: rest =>
    (rest.foldl (fun floorEntry p => if p.2 < floorEntry.2 then p else floorEntry) front).2

/-- One evaluation, with the poses `CollectSample` feeds; `calibratedHeadMountTarget` says that the
    head mount forces the lock. -/
def UpdateAutoLockDetector (ctx : AutoLockContext K A) (CurrentTime : K)
    (calibratedHeadMountTarget : Bool) (refWorld targetWorld : A) : AutoLockContext K A :=
  let history := pushHistory ctx.autoLockHistory (g.relative refWorld targetWorld)
  let ctx := { ctx with autoLockHistory := history }
  let ctx :=
    if calibratedHeadMountTarget then
      { ctx with
        autoLockEffectivelyLocked := true
        autoLockHasPendingFlip := false
        autoLockPendingFlipFirstSeen := 0 }
    else ctx
  if history.length < kSamplesNeeded then
    { ctx with
      autoLockEffectivelyLocked := calibratedHeadMountTarget && ctx.autoLockEffectivelyLocked
      autoLockHasPendingFlip := false }
  else
    let translStdDev := RobustTranslDeviation g history
    let rotMaxAngle := RobustRotDeviation g history
    let madHistory := pushMad ctx.autoLockMadHistory CurrentTime translStdDev
    let ctx :=
      { ctx with autoLockMadHistory := madHistory, autoLockMadFloor := madFloorOf madHistory }
    if calibratedHeadMountTarget = false ∧ ctx.autoLockEffectivelyLocked = true ∧
        IsPanicLevelDeviation translStdDev rotMaxAngle = true then
      { ctx with
        autoLockEffectivelyLocked := false
        autoLockHasPendingFlip := false
        autoLockPendingFlipFirstSeen := 0 }
    else if calibratedHeadMountTarget then ctx
    else
      let verdict := VerdictWithHysteresis translStdDev rotMaxAngle ctx.autoLockEffectivelyLocked
        (EnterThresholdFor ctx.autoLockMadFloor)
      if verdict ≠ ctx.autoLockEffectivelyLocked then
        { ctx with autoLockHasPendingFlip := true, autoLockPendingFlipTo := verdict }
      else if ctx.autoLockHasPendingFlip then
        -- swung back: the flip is dropped, its hold timer stays
        { ctx with autoLockHasPendingFlip := false }
      else ctx

/-- The verdict of an evaluation; none while the window is not full. -/
def verdictAt (ctx : AutoLockContext K A) (CurrentTime : K) (refWorld targetWorld : A) :
    Option Bool :=
  let history := pushHistory ctx.autoLockHistory (g.relative refWorld targetWorld)
  if history.length < kSamplesNeeded then none
  else
    let translStdDev := RobustTranslDeviation g history
    some (VerdictWithHysteresis translStdDev (RobustRotDeviation g history)
      ctx.autoLockEffectivelyLocked
      (EnterThresholdFor (madFloorOf (pushMad ctx.autoLockMadHistory CurrentTime translStdDev))))

/-- The window of an evaluation deviates at panic level. -/
def panicAt (ctx : AutoLockContext K A) (refWorld targetWorld : A) : Bool :=
  let history := pushHistory ctx.autoLockHistory (g.relative refWorld targetWorld)
  IsPanicLevelDeviation (RobustTranslDeviation g history) (RobustRotDeviation g history)

/-- What an evaluation that the head mount does not force does to the lock and its flip. -/
inductive DetectorOutcome (ctx ctx' : AutoLockContext K A) (panic : Bool) (verdict : Option Bool) :
    Prop where
  | filling (hsize : ctx'.autoLockHistory.length < kSamplesNeeded)
      (hlock : ctx'.autoLockEffectivelyLocked = false)
      (hpending : ctx'.autoLockHasPendingFlip = false)
  | panicUnlock (hpanic : panic = true) (hlock : ctx'.autoLockEffectivelyLocked = false)
      (hpending : ctx'.autoLockHasPendingFlip = false)
  | queue (hverdict : verdict = some (!ctx.autoLockEffectivelyLocked))
      (hlock : ctx'.autoLockEffectivelyLocked = ctx.autoLockEffectivelyLocked)
      (hpending : ctx'.autoLockHasPendingFlip = true)
      (hto : ctx'.autoLockPendingFlipTo = !ctx.autoLockEffectivelyLocked)
      (hseen : ctx'.autoLockPendingFlipFirstSeen = ctx.autoLockPendingFlipFirstSeen)
  | agree (hlock : ctx'.autoLockEffectivelyLocked = ctx.autoLockEffectivelyLocked)
      (hpending : ctx'.autoLockHasPendingFlip = false)

variable {g}

/-- **One evaluation** does one of four things. -/
theorem UpdateAutoLockDetector_cases (ctx : AutoLockContext K A) (CurrentTime : K)
    (refWorld targetWorld : A) :
    DetectorOutcome ctx (UpdateAutoLockDetector g ctx CurrentTime false refWorld targetWorld)
      (panicAt g ctx refWorld targetWorld) (verdictAt g ctx CurrentTime refWorld targetWorld) := by
  by_cases hsize : (pushHistory ctx.autoLockHistory
      (g.relative refWorld targetWorld)).length < kSamplesNeeded
  · refine .filling ?_ ?_ ?_ <;> simp [UpdateAutoLockDetector, hsize]
  simp only [UpdateAutoLockDetector, verdictAt, panicAt, if_neg hsize, Bool.false_eq_true, if_false,
    true_and]
  generalize VerdictWithHysteresis (RobustTranslDeviation g _) _ _ _ = verdict
  generalize IsPanicLevelDeviation (RobustTranslDeviation g _) _ = panic
  split_ifs with hpanic hne hpending
  · exact .panicUnlock hpanic.2 rfl rfl
  · have hnot : verdict = !ctx.autoLockEffectivelyLocked := Bool.eq_not.2 hne
    exact .queue (congrArg some hnot) rfl rfl hnot rfl
  · exact .agree rfl rfl
  · exact .agree rfl (Bool.eq_false_iff.2 hpending)

/-! ## The commit step -/

/-- Whether a flip was carried out, and the context behind the step. -/
def CommitPendingAutoLockFlipIfStationary (ctx : AutoLockContext K A) (hmdSpeedMps now : K) :
    Bool × AutoLockContext K A :=
  if ctx.autoLockHasPendingFlip = false then
    (false, { ctx with autoLockPendingFlipFirstSeen := 0 })
  else
    let ctx :=
      if ctx.autoLockPendingFlipFirstSeen ≤ 0 then
        { ctx with autoLockPendingFlipFirstSeen := now }
      else ctx
    let heldSec := now - ctx.autoLockPendingFlipFirstSeen
    let gate := EvaluateCommitGate ctx.autoLockPendingFlipTo hmdSpeedMps heldSec
    if gate.commit = false then (false, ctx)
    else
      (true,
        { ctx with
          autoLockEffectivelyLocked := ctx.autoLockPendingFlipTo
          autoLockHasPendingFlip := false
          autoLockPendingFlipFirstSeen := 0 })

/-- The time a pending flip is held from, at a commit step. -/
def heldFrom (ctx : AutoLockContext K A) (now : K) : K :=
  if ctx.autoLockPendingFlipFirstSeen ≤ 0 then now else ctx.autoLockPendingFlipFirstSeen

/-- The gate opens while standing still, and for an unlock that has been held for 5 s. -/
theorem EvaluateCommitGate_commit (pendingFlipTo : Bool) (hmdSpeedMps pendingHeldSec : K) :
    (EvaluateCommitGate pendingFlipTo hmdSpeedMps pendingHeldSec).commit = true ↔
      hmdSpeedMps < kStationaryHmdMps ∨
        pendingFlipTo = false ∧ kAutoLockUnlockMaxWaitSeconds ≤ pendingHeldSec := by
  unfold EvaluateCommitGate HmdIsStationary
  by_cases hs : hmdSpeedMps < kStationaryHmdMps <;>
    by_cases hh : kAutoLockUnlockMaxWaitSeconds ≤ pendingHeldSec <;>
    cases pendingFlipTo <;> simp [hs, hh]

inductive CommitOutcome (ctx ctx' : AutoLockContext K A) (hmdSpeedMps now : K) : Prop where
  | idle (hnone : ctx.autoLockHasPendingFlip = false)
      (heq : ctx' = { ctx with autoLockPendingFlipFirstSeen := 0 })
  | held (hpending : ctx.autoLockHasPendingFlip = true)
      (heq : ctx' = { ctx with autoLockPendingFlipFirstSeen := heldFrom ctx now })
  | committed (hpending : ctx.autoLockHasPendingFlip = true)
      (hgate : hmdSpeedMps < kStationaryHmdMps ∨ ctx.autoLockPendingFlipTo = false ∧
        kAutoLockUnlockMaxWaitSeconds ≤ now - heldFrom ctx now)
      (hlock : ctx'.autoLockEffectivelyLocked = ctx.autoLockPendingFlipTo)
      (hnone : ctx'.autoLockHasPendingFlip = false)

/-- **One commit step** does one of three things. -/
theorem Commit_cases (ctx : AutoLockContext K A) (hmdSpeedMps now : K) :
    CommitOutcome ctx (CommitPendingAutoLockFlipIfStationary ctx hmdSpeedMps now).2
      hmdSpeedMps now := by
  have hseen : (if ctx.autoLockPendingFlipFirstSeen ≤ 0 then
      { ctx with autoLockPendingFlipFirstSeen := now } else ctx) =
      { ctx with autoLockPendingFlipFirstSeen := heldFrom ctx now } := by
    rw [heldFrom]
    split_ifs <;> rfl
  cases hp : ctx.autoLockHasPendingFlip with
  | false =>
    exact .idle hp (by rw [CommitPendingAutoLockFlipIfStationary, if_pos hp])
  | true =>
    rw [CommitPendingAutoLockFlipIfStationary, if_neg (by rw [hp]; decide), hseen]
    cases hgate : (EvaluateCommitGate ctx.autoLockPendingFlipTo hmdSpeedMps
        (now - heldFrom ctx now)).commit with
    | false => exact .held hp (by simp [hgate])
    | true =>
      exact .committed hp ((EvaluateCommitGate_commit _ _ _).1 hgate) (by simp [hgate])
        (by simp [hgate])

end WKPairDriver.Calibration.AutoLock
