import Mathlib
import WKPairDriver.Lib.Run
import WKPairDriver.Lib.EarlyReturn
import WKPairDriver.Calibration.CalibrationTick
import WKPairDriver.Calibration.StateTransitions

/-!
# The recovery from a re-localization, and its undo

The detector snapshots three fields in front of `RecoverFromWedgedCalibration`, which clears six;
`UndoLastAutoRecovery` restores the three.

* `CalibrationTick_recovers` — what a tick leaves in which the recovery fires.
* `Cleared.step` — without a new result the fields stay cleared, whatever the user does.
* `undo_restores_iff` — which calibrations the undo brings back.
* `undo_loses_profile` — a calibration it does not.
-/

set_option autoImplicit false

namespace WKPairDriver.Calibration.Tick

open Lib

/-! ## The detector's snapshot -/

structure AutoRecoverySnapshot where
  valid : Bool
  refToTargetPose : AffineCompact3d
  relativePosCalibrated : Bool
  hasAppliedCalibrationResult : Bool

/-- The session, and what the detector keeps for the banner. -/
structure Recovering where
  session : Session
  lastAutoRecoverSnapshot : AutoRecoverySnapshot
  autoRecoverBannerDismissed : Bool

namespace Recovering

variable (s : Recovering) (t : TickInput)

/-- The tick comes to the detector, and the recovery fires. -/
def fires : Bool :=
  (match gates s.session t with
    | .ok _ => true
    | .error _ => false) && t.relocalized && InContinuousFamily s.session.state

/-- A tick, with the snapshot in front of a recovery. -/
def CalibrationTick : Recovering where
  session := Tick.CalibrationTick s.session t
  lastAutoRecoverSnapshot :=
    if s.fires t then
      { valid := true
        refToTargetPose := s.session.ctx.refToTargetPose
        relativePosCalibrated := s.session.ctx.relativePosCalibrated
        hasAppliedCalibrationResult := s.session.hasAppliedCalibrationResult }
    else s.lastAutoRecoverSnapshot
  autoRecoverBannerDismissed := if s.fires t then false else s.autoRecoverBannerDismissed

/-- The result, and the state. -/
def UndoLastAutoRecovery : Bool × Recovering :=
  let snap := s.lastAutoRecoverSnapshot
  if snap.valid = false then (false, s)
  else
    (true,
      { session := { s.session with
          ctx := { s.session.ctx with
            refToTargetPose := snap.refToTargetPose
            relativePosCalibrated := snap.relativePosCalibrated }
          hasAppliedCalibrationResult := snap.hasAppliedCalibrationResult }
        lastAutoRecoverSnapshot := { snap with valid := false }
        autoRecoverBannerDismissed := true })

def DismissAutoRecoveryBanner : Recovering := { s with autoRecoverBannerDismissed := true }

end Recovering

/-- A tick, an operation of the user, or a click on the banner. -/
inductive RecoveryAction where
  | session (a : Action)
  | dismiss

def recoveryStep (s : Recovering) : RecoveryAction → Option Recovering
  | .session (.tick t) => some (s.CalibrationTick t)
  | .session a => (step s.session a).map fun session => { s with session := session }
  | .dismiss => some s.DismissAutoRecoveryBanner

/-- A tick without a new result: the solve produces no candidate, and the base station drift, which
    is corrected with a valid profile only, no transform. -/
def NoResult (t : TickInput) : Prop := t.solve.produced = false ∧ t.driftCorrection = none

/-- Neither a new result nor another recovery. -/
def Quiet (s : Recovering) : RecoveryAction → Prop
  | .session (.tick t) => NoResult t ∧ s.fires t = false
  | _ => True

/-! ## The calibration fields -/

/-- The fields that the recovery clears. -/
structure CalibrationFields where
  validProfile : Bool
  calibratedTranslation : Vector3d
  calibratedRotation : Vector3d
  refToTargetPose : AffineCompact3d
  relativePosCalibrated : Bool
  hasAppliedCalibrationResult : Bool
deriving DecidableEq

def CalibrationFields.cleared : CalibrationFields := ⟨false, .Zero, .Zero, .Identity, false, false⟩

def Session.fields (s : Session) : CalibrationFields where
  validProfile := s.ctx.validProfile
  calibratedTranslation := s.ctx.calibratedTranslation
  calibratedRotation := s.ctx.calibratedRotation
  refToTargetPose := s.ctx.refToTargetPose
  relativePosCalibrated := s.ctx.relativePosCalibrated
  hasAppliedCalibrationResult := s.hasAppliedCalibrationResult

/-- The fields behind a restore, in a session without a result. -/
def CalibrationProfileSnapshot.fields (snap : CalibrationProfileSnapshot) : CalibrationFields where
  validProfile := snap.validProfile
  calibratedTranslation := snap.calibratedTranslation
  calibratedRotation := snap.calibratedRotation
  refToTargetPose := snap.refToTargetPose
  relativePosCalibrated := snap.relativePosCalibrated
  hasAppliedCalibrationResult := false

/-- The fields are cleared, also in what the end of the calibration would restore. -/
structure Cleared (s : Session) : Prop where
  fields : s.fields = .cleared
  start : ∀ snap ∈ s.continuousStartSnapshot, snap.fields = .cleared
  accepted : ∀ snap ∈ s.lastAcceptedContinuousSnapshot, snap.fields = .cleared

variable {s s' : Session} {t : TickInput}

theorem Cleared.congr (h : Cleared s) (hfields : s'.fields = s.fields)
    (hstart : s'.continuousStartSnapshot = s.continuousStartSnapshot)
    (haccepted : s'.lastAcceptedContinuousSnapshot = s.lastAcceptedContinuousSnapshot) :
    Cleared s' where
  fields := hfields.trans h.fields
  start := by rw [hstart]; exact h.start
  accepted := by rw [haccepted]; exact h.accepted

theorem Cleared.invalid (h : Cleared s) : s.ctx.validProfile = false :=
  congrArg CalibrationFields.validProfile h.fields

theorem Cleared.seed (h : Cleared s) : Cleared (seedProfile s) := by
  rw [seedProfile]
  split
  · exact h.congr rfl rfl rfl
  · exact h

/-! ### Starts and recoveries -/

theorem restart_cleared (h : s.fields = .cleared) (cause : Cause) (now : ℚ) :
    Cleared (StartContinuousCalibration cause now s) := by
  apply Cleared.seed
  have happlied : s.hasAppliedCalibrationResult = false :=
    congrArg CalibrationFields.hasAppliedCalibrationResult h
  have hfields : { s.fields with hasAppliedCalibrationResult := false } =
      CalibrationFields.cleared := by
    rw [← h, ← happlied]
    rfl
  refine ⟨hfields, fun snap hsnap => ?_, fun snap hsnap => ?_⟩
  · cases hsnap
    exact hfields
  · cases hsnap

/-- **The recovery** clears the fields, whatever they were. -/
theorem RecoverFromWedgedCalibration_cleared (cause : Cause) (now : ℚ) (s : Session) :
    Cleared (RecoverFromWedgedCalibration cause now s) := by
  rw [RecoverFromWedgedCalibration]
  exact restart_cleared rfl cause now

/-! ### The blocks of a tick -/

theorem Cleared.relocalization (h : Cleared s) : Cleared (TickHmdRelocalizationDetector s t) := by
  rw [TickHmdRelocalizationDetector]
  split
  · exact RecoverFromWedgedCalibration_cleared _ _ _
  · exact h

theorem Cleared.watchdog (h : Cleared s) : Cleared (geometryShiftWatchdog s t) := by
  simp only [geometryShiftWatchdog, countError]
  split_ifs
  · exact h.congr rfl rfl rfl
  · split
    · exact h
    · split_ifs
      · exact h.congr rfl rfl rfl
      · exact h.congr rfl rfl rfl
      · exact h.congr rfl rfl rfl
  · exact h.congr rfl rfl rfl

theorem Cleared.hmdStall (h : Cleared s) : Leads (hmdStall s t) Cleared Cleared := by
  rw [Tick.hmdStall]
  split
  · exact h
  · exact h.congr rfl rfl rfl

theorem Cleared.standby (h : Cleared s) : Leads (standby s t) Cleared Cleared := by
  rw [Tick.standby]
  split_ifs
  · exact restart_cleared h.fields _ _
  · exact h
  · exact h

theorem Cleared.idle (h : Cleared s) (hno : NoResult t) : Leads (idle s t) Cleared Cleared := by
  rw [Tick.idle]
  split
  · rw [correctDrift, hno.2]
    exact h
  · exact .returnIf (fun _ => h) (fun _ => h)

theorem Cleared.checkDevices (h : Cleared s) : Leads (checkDevices s t) Cleared Cleared := by
  simp only [Tick.checkDevices]
  split_ifs
  · exact h.congr rfl rfl rfl
  · exact h
  · exact h.congr rfl rfl rfl
  · exact h

theorem Cleared.liveness (h : Cleared s) : Leads (liveness s t) Cleared Cleared := by
  rw [Tick.liveness]
  split_ifs
  · exact h
  · exact h
  · exact restart_cleared h.fields _ _
  · exact h

theorem Cleared.sourceGuard (h : Cleared s) : Cleared (TickHeadMountSourceTransitionGuard s t) := by
  rw [TickHeadMountSourceTransitionGuard]
  split
  · apply Cleared.seed
    refine ⟨?_, h.start, fun snap hsnap => by cases hsnap⟩
    show { s.fields with refToTargetPose := .Identity, relativePosCalibrated := false } = _
    rw [h.fields]
    rfl
  · exact h

theorem Cleared.shadowOffset (h : Cleared s) :
    Cleared (TickHeadMountShadowOffsetEstimator s t) := by
  rw [TickHeadMountShadowOffsetEstimator]
  cases t.shadowOffset with
  | none => exact h
  | some candidate =>
    have hinvalid : ¬(s.state = .Continuous ∧ s.ctx.validProfile = true) := by
      rw [h.invalid]
      simp
    simp only [if_neg hinvalid]
    exact h

theorem Cleared.CollectSample (h : Cleared s) : Leads (CollectSample s t) Cleared Cleared := by
  rw [Tick.CollectSample]
  split_ifs <;> exact h.congr rfl rfl rfl

theorem Cleared.fillBuffer (h : Cleared s) : Leads (fillBuffer s t) Cleared Cleared := by
  rw [Tick.fillBuffer]
  split <;> exact h.congr rfl rfl rfl

theorem Cleared.phases (h : Cleared s) : Leads (phases s t) Cleared Cleared := by
  rw [Tick.phases]
  split
  · split <;> exact h.congr rfl rfl rfl
  · split <;> exact h.congr rfl rfl rfl
  · exact h

/-- A solve without a candidate has nothing to publish. -/
theorem Cleared.publish (h : Cleared s) (hno : NoResult t) :
    Cleared (publish (solve s t) t) := by
  have hsolve : Cleared (solve s t) := by
    simp only [solve]
    split_ifs
    · exact h
    · exact (RecoverFromWedgedCalibration_cleared _ _ _).congr rfl rfl rfl
    · exact h.congr rfl rfl rfl
    · exact h.congr rfl rfl rfl
  rw [Tick.publish, hasPublishableCandidate, hno.1]
  simpa using hsolve

theorem Cleared.rePush (h : Cleared s) : Cleared (TickBoundaryRePush s t) := by
  have hinvalid : pushable s = false := by
    simp [pushable, h.invalid]
  have hcount : ∀ pending, (StepStartupCountdown false pending).2 = false := by
    intro pending
    rw [StepStartupCountdown]
    split <;> rfl
  simp only [TickBoundaryRePush, hinvalid, hcount, Bool.false_eq_true, if_false, true_or, if_true]
  exact h.congr rfl rfl rfl

theorem Cleared.lastBlock (h : Cleared s) : Cleared (lastBlock s t) := by
  rw [Tick.lastBlock]
  split <;> exact h.congr rfl rfl rfl

/-- The blocks behind the watchdog leave the fields cleared. -/
theorem Cleared.afterWatchdog (h : Cleared s) (hno : NoResult t) :
    Leads (afterWatchdog t s) Cleared Cleared := by
  have htime : Cleared { s with timeLastTick := t.time } := h.congr rfl rfl rfl
  refine Leads.bind htime.hmdStall fun s h => ?_
  refine Leads.bind h.standby fun s h => ?_
  refine Leads.bind (h.idle hno) fun s h => ?_
  refine Leads.bind h.checkDevices fun s h => ?_
  refine Leads.bind h.liveness fun s h => ?_
  refine Leads.bind h.sourceGuard.shadowOffset.CollectSample fun s h => ?_
  refine Leads.bind h.fillBuffer fun s h => ?_
  refine Leads.bind h.phases fun s h => ?_
  refine Leads.bind (.returnIf (fun _ => h) (fun _ => h)) fun s h => ?_
  exact (h.publish hno).rePush.lastBlock

theorem Cleared.tick (h : Cleared s) (hno : NoResult t) : Cleared (Tick.CalibrationTick s t) := by
  apply Leads.finish
  refine Leads.bind (gates_leads t s |>.mono (fun _ heq => heq ▸ h) (fun _ heq => heq ▸ h)) ?_
  exact fun s h => h.relocalization.watchdog.afterWatchdog hno

/-- **A tick in which the recovery fires** leaves the fields cleared, whatever they were. -/
theorem CalibrationTick_recovers {s : Recovering} (hfires : s.fires t = true) (hno : NoResult t) :
    Cleared (s.CalibrationTick t).session := by
  simp only [Recovering.fires, Bool.and_eq_true] at hfires
  obtain ⟨⟨hgates, hrelocalized⟩, hstate⟩ := hfires
  have hleads := gates_leads t s.session
  show Cleared (finish (tick t s.session))
  rw [tick]
  cases hresult : gates s.session t with
  | error s' =>
    rw [hresult] at hgates
    cases hgates
  | ok s' =>
    rw [hresult, leads_ok] at hleads
    subst hleads
    have hrecovers : Cleared (TickHmdRelocalizationDetector s.session t) := by
      rw [TickHmdRelocalizationDetector, hrelocalized, hstate]
      exact RecoverFromWedgedCalibration_cleared _ _ _
    exact (hrecovers.watchdog.afterWatchdog hno).finish

/-! ### The user -/

theorem Cleared.endContinuous (h : Cleared s) : Cleared (EndContinuousCalibration .user s) := by
  have hfields : (EndContinuousCalibration .user s).fields = .cleared := by
    show (restoreSelected (s.setState .user .None)).fields = .cleared
    have hselected : ∀ snap, selectedSnapshot (s.setState .user .None) = some snap →
        snap.fields = .cleared := by
      intro snap hsnap
      change (s.lastAcceptedContinuousSnapshot <|> s.continuousStartSnapshot) = some snap at hsnap
      cases haccepted : s.lastAcceptedContinuousSnapshot with
      | none =>
        rw [haccepted] at hsnap
        exact h.start snap hsnap
      | some accepted =>
        rw [haccepted] at hsnap
        cases hsnap
        exact h.accepted _ haccepted
    rw [restoreSelected]
    cases hsnap : selectedSnapshot (s.setState .user .None) with
    | none => exact h.fields
    | some snap =>
      have happlied : s.hasAppliedCalibrationResult = false :=
        congrArg CalibrationFields.hasAppliedCalibrationResult h.fields
      have hsame : { snap.fields with hasAppliedCalibrationResult :=
          s.hasAppliedCalibrationResult } = CalibrationFields.cleared := by
        rw [happlied]
        exact hselected snap hsnap
      dsimp only
      split <;> exact hsame
  exact ⟨hfields, fun snap hsnap => (by cases hsnap), fun snap hsnap => (by cases hsnap)⟩

theorem Cleared.operation (h : Cleared s) {a : Action} (hstep : step s a = some s')
    (htick : ∀ t, a ≠ .tick t) : Cleared s' := by
  cases a with
  | tick t => exact absurd rfl (htick t)
  | startCalibration now =>
    cases hstep
    refine h.congr ?_ rfl rfl
    have happlied : s.hasAppliedCalibrationResult = false :=
      congrArg CalibrationFields.hasAppliedCalibrationResult h.fields
    show { s.fields with hasAppliedCalibrationResult := false } = s.fields
    rw [← happlied]
    rfl
  | startContinuousCalibration now =>
    cases hstep
    exact restart_cleared h.fields _ _
  | cancelCalibration =>
    cases hstep
    rw [CancelCalibration]
    split
    · exact h
    · exact h.congr rfl rfl rfl
  | endContinuousCalibration =>
    cases hstep
    exact h.endContinuous
  | enterEditing =>
    -- the editor needs a valid profile
    have hclosed : ¬(s.state = .None ∧ s.ctx.validProfile = true) := by
      rw [h.invalid]
      simp
    rw [step, if_neg hclosed] at hstep
    cases hstep
  | leaveEditing =>
    rw [step] at hstep
    split_ifs at hstep
    cases hstep
    exact h.congr rfl rfl rfl

/-! ## The undo -/

/-- Until the undo the fields stay cleared, and the snapshot is the one of the recovery. -/
structure Undoable (snap : AutoRecoverySnapshot) (u : Recovering) : Prop where
  cleared : Cleared u.session
  snapshot : u.lastAutoRecoverSnapshot = snap

theorem recoveryStep_operation (u : Recovering) {a : Action} (htick : ∀ t, a ≠ .tick t) :
    recoveryStep u (.session a) =
      (Tick.step u.session a).map fun session => { u with session := session } := by
  cases a
  case tick t => exact absurd rfl (htick t)
  all_goals rfl

theorem Undoable.step {snap : AutoRecoverySnapshot} {u v : Recovering} (h : Undoable snap u)
    {a : RecoveryAction} (hquiet : Quiet u a) (hstep : recoveryStep u a = some v) :
    Undoable snap v := by
  rcases a with a | _
  · by_cases htick : ∃ t, a = .tick t
    · obtain ⟨t, rfl⟩ := htick
      cases hstep
      refine ⟨h.cleared.tick hquiet.1, ?_⟩
      rw [Recovering.CalibrationTick, hquiet.2]
      exact h.snapshot
    · have hoperation : ∀ t, a ≠ .tick t := fun t heq => htick ⟨t, heq⟩
      rw [recoveryStep_operation u hoperation] at hstep
      obtain ⟨session, hsession, rfl⟩ := Option.map_eq_some_iff.1 hstep
      exact ⟨h.cleared.operation hsession hoperation, h.snapshot⟩
  · cases hstep
    exact ⟨h.cleared, h.snapshot⟩

/-- What the undo makes of the cleared fields. -/
theorem Undoable.undo {snap : AutoRecoverySnapshot} {u : Recovering} (h : Undoable snap u)
    (hvalid : snap.valid = true) :
    u.UndoLastAutoRecovery.2.session.fields =
      ⟨false, .Zero, .Zero, snap.refToTargetPose, snap.relativePosCalibrated,
        snap.hasAppliedCalibrationResult⟩ := by
  have hnot : ¬u.lastAutoRecoverSnapshot.valid = false := by
    rw [h.snapshot, hvalid]
    decide
  simp only [Recovering.UndoLastAutoRecovery, if_neg hnot]
  show { u.session.fields with
    refToTargetPose := u.lastAutoRecoverSnapshot.refToTargetPose
    relativePosCalibrated := u.lastAutoRecoverSnapshot.relativePosCalibrated
    hasAppliedCalibrationResult := u.lastAutoRecoverSnapshot.hasAppliedCalibrationResult } = _
  rw [h.cleared.fields, h.snapshot]
  rfl

theorem undo_invalid {u : Recovering} (h : u.lastAutoRecoverSnapshot.valid = false) :
    u.UndoLastAutoRecovery = (false, u) := if_pos h

/-- A second undo finds no snapshot. -/
theorem undo_twice (u : Recovering) :
    u.UndoLastAutoRecovery.2.UndoLastAutoRecovery = (false, u.UndoLastAutoRecovery.2) := by
  by_cases hvalid : u.lastAutoRecoverSnapshot.valid = false
  · rw [undo_invalid hvalid]
    exact undo_invalid hvalid
  · apply undo_invalid
    rw [Recovering.UndoLastAutoRecovery, if_neg hvalid]

/-- **The undo** brings back what a recovery cleared exactly when there was no profile to clear; a
    second one changes nothing. -/
theorem undo_restores_iff (s : Recovering) (t : TickInput) (hfires : s.fires t = true)
    (hno : NoResult t) (as : List RecoveryAction)
    (hquiet : AllSteps recoveryStep Quiet (s.CalibrationTick t) as) (u : Recovering)
    (hrun : runTo recoveryStep (s.CalibrationTick t) as = some u) :
    (u.UndoLastAutoRecovery.2.session.fields = s.session.fields ↔
        s.session.ctx.validProfile = false ∧ s.session.ctx.calibratedTranslation = .Zero ∧
          s.session.ctx.calibratedRotation = .Zero) ∧
      u.UndoLastAutoRecovery.2.UndoLastAutoRecovery = (false, u.UndoLastAutoRecovery.2) := by
  refine ⟨?_, undo_twice u⟩
  have hstart : Undoable ⟨true, s.session.ctx.refToTargetPose, s.session.ctx.relativePosCalibrated,
      s.session.hasAppliedCalibrationResult⟩ (s.CalibrationTick t) :=
    ⟨CalibrationTick_recovers hfires hno, if_pos hfires⟩
  have hundoable := (Always.of_inv (fun _ _ _ h hq hs => Undoable.step h hq hs) (fun _ h => h)
    hstart hquiet).runTo hrun
  rw [hundoable.undo rfl, Session.fields]
  simp only [CalibrationFields.mk.injEq, and_true, eq_comm]

/-! ## A calibration that is lost -/

/-- A continuous calibration with its profile. -/
def calibrating : Recovering where
  session :=
    let ctx : CalibrationContext := { CalibrationContext.new with
      validProfile := true
      calibratedTranslation := ⟨1, 0, 0⟩ }
    StartContinuousCalibration .user 0 (launched ctx false)
  lastAutoRecoverSnapshot := ⟨false, .Identity, false, false⟩
  autoRecoverBannerDismissed := false

/-- A tick at one second, with a jump of the headset. -/
def jumpTick : TickInput :=
  { trackedTick 10 with relocalized := true, solve.produced := false }

/-- What is behind the tick and a click that dismisses the banner. -/
def dismissed : Recovering := (calibrating.CalibrationTick jumpTick).DismissAutoRecoveryBanner

theorem jumpTick_undone :
    (dismissed.UndoLastAutoRecovery.2.session.fields = calibrating.session.fields ↔
        calibrating.session.ctx.validProfile = false ∧
          calibrating.session.ctx.calibratedTranslation = .Zero ∧
            calibrating.session.ctx.calibratedRotation = .Zero) ∧
      dismissed.UndoLastAutoRecovery.2.UndoLastAutoRecovery =
        (false, dismissed.UndoLastAutoRecovery.2) :=
  undo_restores_iff calibrating jumpTick (by decide +kernel) ⟨rfl, rfl⟩ [.dismiss]
    (fun _ _ => ⟨trivial, trivial⟩) dismissed rfl

/-- The undo leaves the profile invalid and its translation zero. -/
theorem undo_loses_profile :
    calibrating.fires jumpTick = true ∧
      calibrating.session.fields ≠
        (calibrating.CalibrationTick jumpTick).UndoLastAutoRecovery.2.session.fields ∧
      (calibrating.CalibrationTick jumpTick).UndoLastAutoRecovery.2.session.ctx.validProfile =
        false := by
  decide +kernel

end WKPairDriver.Calibration.Tick
