import Mathlib
import WKPairDriver.Calibration.CalibrationTick
import WKPairDriver.Calibration.TickMoves
import WKPairDriver.Calibration.StateTransitions

/-!
# What is left of a continuous calibration

A session from `StartContinuousCalibration` over any ticks to `EndContinuousCalibration`, which
restores one of two profile snapshots.  A restart captures the first one again and clears the
second, an accepted candidate captures the second, and a change of the head-mount source clears the
second alone.

* `end_keeps_newest_iff` — the newest accepted calibration stays in place exactly when no source
  reset came behind it without a restart, or the session had started from the same calibration.
* `sourceReset_forgets` — a session that falls back to the calibration it started from.
-/

set_option autoImplicit false

namespace WKPairDriver.Calibration.Tick

/-! ## What a log says -/

/-- The transform of the newest accepted candidate, or that of the start. -/
def newest (entry : Transform) : List Event → Transform
  | [] => entry
  | .accepted calibration :: _ => calibration
  | _ :: older => newest entry older

/-- The transform that was in place at the last restart. -/
def baseline (entry : Transform) : List Event → Transform
  | [] => entry
  | .restarted :: older => newest entry older
  | _ :: older => baseline entry older

def anyAccepted : List Event → Bool
  | [] => false
  | .accepted _ :: _ => true
  | _ :: older => anyAccepted older

/-- A candidate was accepted since the last restart and the last source reset. -/
def held : List Event → Bool
  | [] => false
  | .accepted _ :: _ => true
  | .restarted :: _ => false
  | .sourceReset :: _ => false
  | _ :: older => held older

/-- No source reset since the last accepted candidate or restart, or none that matters: the
    transform accepted before it was in place at the restart. -/
def Survives (entry : Transform) : List Event → Prop
  | [] => True
  | .accepted _ :: _ => True
  | .restarted :: _ => True
  | .sourceReset :: older => newest entry older = baseline entry older
  | _ :: older => Survives entry older

theorem survives_iff (entry : Transform) (log : List Event) :
    Survives entry log ↔ held log = true ∨ baseline entry log = newest entry log := by
  induction log with
  | nil => simp [Survives, baseline, newest]
  | cons e older ih =>
    cases e with
    | state => exact ih
    | pushed => exact ih
    | restarted => simp [Survives, baseline, newest]
    | accepted => simp [Survives, held]
    | sourceReset => simp [Survives, held, baseline, newest, eq_comm]

theorem anyAccepted_of_held {log : List Event} (h : held log = true) : anyAccepted log = true := by
  induction log with
  | nil => cases h
  | cons e older ih =>
    cases e with
    | state => exact ih h
    | pushed => exact ih h
    | restarted => cases h
    | accepted => rfl
    | sourceReset => cases h

/-! ## Sessions -/

def CalibrationProfileSnapshot.transform (snap : CalibrationProfileSnapshot) : Transform :=
  (snap.calibratedRotation, snap.calibratedTranslation)

def Session.savedTransform (s : Session) : Transform :=
  (s.savedProfile.calibratedRotation, s.savedProfile.calibratedTranslation)

/-- A continuous calibration up to its end; the log starts with it. -/
def continuousRun (s : Session) (now : ℚ) (ts : List TickInput) : Session :=
  ts.foldl CalibrationTick (StartContinuousCalibration .user now { s with trace := [] })

/-- The calibration in the context and in the saved profile is the newest accepted one; without one
    it is that of the start, which is saved when it is valid. -/
def KeepsNewest (s : Session) (now : ℚ) (ts : List TickInput) : Prop :=
  let run := continuousRun s now ts
  let ended := EndContinuousCalibration .user run
  ended.transform = newest s.transform run.trace ∧
    ended.savedTransform =
      if anyAccepted run.trace ∨ s.ctx.validProfile = true then newest s.transform run.trace
      else s.savedTransform

/-! ## The invariant -/

/-- The transform in place and the saved profile, by the log of the session that `s₀` started. -/
structure InPlace (s₀ s : Session) : Prop where
  transform : s.transform = newest s₀.transform s.trace
  valid : s.ctx.validProfile = (s₀.ctx.validProfile || anyAccepted s.trace)
  saved : anyAccepted s.trace = true → s.savedTransform = newest s₀.transform s.trace
  unsaved : anyAccepted s.trace = false → s₀.ctx.validProfile = false →
    s.savedProfile = s₀.savedProfile

/-- And the two snapshots. -/
structure Logged (s₀ s : Session) : Prop extends InPlace s₀ s where
  continues : s.Continues
  start : ∃ snap, s.continuousStartSnapshot = some snap ∧
    snap.transform = baseline s₀.transform s.trace ∧
    (s₀.ctx.validProfile = true → snap.validProfile = true) ∧
    (s₀.ctx.validProfile = false → anyAccepted s.trace = false → snap.validProfile = false)
  last : ∀ snap, s.lastAcceptedContinuousSnapshot = some snap → held s.trace = true ∧
    snap.transform = newest s₀.transform s.trace ∧ snap.validProfile = true
  noLast : s.lastAcceptedContinuousSnapshot = none → held s.trace = false

/-- The boundary and the error series are not part of it. -/
theorem Logged.congr {s₀ s s' : Session} {boundary : BoundaryConfig} {rePush : RePush}
    {errors : List (ℚ × ℚ)} (hs : Logged s₀ s)
    (h : s'.view = { s.view with
      boundary := boundary
      rePush := rePush
      error_currentCal := errors }) : Logged s₀ s' := by
  have htrace : s'.trace = s.trace := congrArg View.trace h
  have hstart : s'.continuousStartSnapshot = s.continuousStartSnapshot :=
    congrArg View.continuousStartSnapshot h
  have hlast : s'.lastAcceptedContinuousSnapshot = s.lastAcceptedContinuousSnapshot :=
    congrArg View.lastAcceptedContinuousSnapshot h
  have hsaved : s'.savedProfile = s.savedProfile := congrArg View.savedProfile h
  refine ⟨⟨?_, ?_, ?_, ?_⟩, ?_, ?_, ?_, ?_⟩
  · rw [htrace, show s'.transform = s.transform from congrArg View.transform h]
    exact hs.transform
  · rw [htrace, show s'.ctx.validProfile = s.ctx.validProfile from congrArg View.validProfile h]
    exact hs.valid
  · rw [htrace, Session.savedTransform, hsaved]
    exact hs.saved
  · rw [htrace, hsaved]
    exact hs.unsaved
  · rw [Session.Continues, show s'.state = s.state from congrArg View.state h]
    exact hs.continues
  · rw [htrace, hstart]
    exact hs.start
  · rw [htrace, hlast]
    exact hs.last
  · rw [htrace, hlast]
    exact hs.noLast

/-- An entry of the log that says nothing about calibrations. -/
structure Silent (s s' : Session) : Prop where
  continues : s'.Continues
  transform : s'.transform = s.transform
  valid : s'.ctx.validProfile = s.ctx.validProfile
  start : s'.continuousStartSnapshot = s.continuousStartSnapshot
  last : s'.lastAcceptedContinuousSnapshot = s.lastAcceptedContinuousSnapshot
  saved : s'.savedProfile = s.savedProfile
  trace : ∃ e, s'.trace = e :: s.trace ∧
    ((∃ cause before after, e = .state cause before after) ∨ ∃ calibration, e = .pushed calibration)

theorem Logged.silent {s₀ s s' : Session} (hs : Logged s₀ s) (h : Silent s s') :
    Logged s₀ s' := by
  obtain ⟨e, htrace, he⟩ := h.trace
  have hnewest : newest s₀.transform s'.trace = newest s₀.transform s.trace := by
    rw [htrace]
    rcases he with ⟨_, _, _, rfl⟩ | ⟨_, rfl⟩ <;> rfl
  have hbaseline : baseline s₀.transform s'.trace = baseline s₀.transform s.trace := by
    rw [htrace]
    rcases he with ⟨_, _, _, rfl⟩ | ⟨_, rfl⟩ <;> rfl
  have hany : anyAccepted s'.trace = anyAccepted s.trace := by
    rw [htrace]
    rcases he with ⟨_, _, _, rfl⟩ | ⟨_, rfl⟩ <;> rfl
  have hheld : held s'.trace = held s.trace := by
    rw [htrace]
    rcases he with ⟨_, _, _, rfl⟩ | ⟨_, rfl⟩ <;> rfl
  refine ⟨⟨?_, ?_, ?_, ?_⟩, h.continues, ?_, ?_, ?_⟩
  · rw [h.transform, hnewest]
    exact hs.transform
  · rw [h.valid, hany]
    exact hs.valid
  · rw [hany, hnewest, Session.savedTransform, h.saved]
    exact hs.saved
  · rw [hany, h.saved]
    exact hs.unsaved
  · rw [h.start, hbaseline, hany]
    exact hs.start
  · rw [h.last, hheld, hnewest]
    exact hs.last
  · rw [h.last, hheld]
    exact hs.noLast

/-- A restart captures what is in place. -/
theorem InPlace.restart {s₀ s : Session} (hs : InPlace s₀ s) (cause : Cause) (now : ℚ) :
    Logged s₀ (StartContinuousCalibration cause now s) := by
  have hview := StartContinuousCalibration_view cause now s
  have htrace : (StartContinuousCalibration cause now s).trace = _ :=
    StartContinuousCalibration_trace cause now s
  have hlast : (StartContinuousCalibration cause now s).lastAcceptedContinuousSnapshot = none :=
    congrArg View.lastAcceptedContinuousSnapshot hview
  have hsaved : (StartContinuousCalibration cause now s).savedProfile = s.savedProfile :=
    congrArg View.savedProfile hview
  refine ⟨⟨?_, ?_, ?_, ?_⟩, ?_, ?_, ?_, ?_⟩
  · rw [htrace]
    exact (congrArg View.transform hview).trans hs.transform
  · rw [htrace]
    exact (congrArg View.validProfile hview).trans hs.valid
  · rw [htrace, Session.savedTransform, hsaved]
    exact hs.saved
  · rw [htrace, hsaved]
    exact hs.unsaved
  · exact continues_iff.2 (.inl (StartContinuousCalibration_state ..))
  · refine ⟨_, congrArg View.continuousStartSnapshot hview, ?_, ?_, ?_⟩
    · rw [htrace]
      exact hs.transform
    · intro hvalid
      show s.ctx.validProfile = true
      rw [hs.valid, hvalid, Bool.true_or]
    · intro hvalid hany
      rw [htrace] at hany
      show s.ctx.validProfile = false
      rw [hs.valid, hvalid, show anyAccepted s.trace = false from hany, Bool.false_or]
  · intro snap hsnap
    rw [hlast] at hsnap
    cases hsnap
  · intro _
    rw [htrace]
    rfl

/-- A source reset forgets the last accepted snapshot. -/
theorem Logged.reset {s₀ s : Session} (hs : Logged s₀ s) :
    Logged s₀ (ClearHeadMountContinuousSourceState s) := by
  have hview := ClearHeadMountContinuousSourceState_view s
  have htrace := ClearHeadMountContinuousSourceState_trace s
  have hlast : (ClearHeadMountContinuousSourceState s).lastAcceptedContinuousSnapshot = none :=
    congrArg View.lastAcceptedContinuousSnapshot hview
  have hstart : (ClearHeadMountContinuousSourceState s).continuousStartSnapshot =
      s.continuousStartSnapshot := congrArg View.continuousStartSnapshot hview
  have hsaved : (ClearHeadMountContinuousSourceState s).savedProfile = s.savedProfile :=
    congrArg View.savedProfile hview
  refine ⟨⟨?_, ?_, ?_, ?_⟩, ?_, ?_, ?_, ?_⟩
  · rw [htrace]
    exact (congrArg View.transform hview).trans hs.transform
  · rw [htrace]
    exact (congrArg View.validProfile hview).trans hs.valid
  · rw [htrace, Session.savedTransform, hsaved]
    exact hs.saved
  · rw [htrace, hsaved]
    exact hs.unsaved
  · rw [Session.Continues, ClearHeadMountContinuousSourceState_state]
    exact hs.continues
  · rw [htrace, hstart]
    exact hs.start
  · intro snap hsnap
    rw [hlast] at hsnap
    cases hsnap
  · intro _
    rw [htrace]
    rfl

/-- A save with a valid profile saves what is in place. -/
theorem Logged.save {s₀ s : Session} (hs : Logged s₀ s) (hvalid : s.ctx.validProfile = true) :
    Logged s₀ s.SaveProfile := by
  refine ⟨⟨hs.transform, hs.valid, ?_, ?_⟩, hs.continues, hs.start, hs.last, hs.noLast⟩
  · intro _
    exact hs.transform
  · intro hany hinvalid
    have hv := hs.valid
    rw [hvalid, hinvalid, show anyAccepted s.trace = false from hany] at hv
    cases hv

/-- A candidate is put in place, saved and captured. -/
theorem Logged.accept {s₀ s : Session} (hs : Logged s₀ s) (hstate : s.state = .Continuous)
    (t : TickInput) : Logged s₀ (accept s t) := by
  have htrace := accept_trace s t
  have hstart : (Tick.accept s t).continuousStartSnapshot = s.continuousStartSnapshot := by
    simp only [Tick.accept]
    split
    · rfl
    · rfl
  have hlast : (Tick.accept s t).lastAcceptedContinuousSnapshot =
      some (CaptureProfileSnapshot (Tick.accept s t).ctx) := by
    simp only [Tick.accept]
    rw [if_pos hstate]
  have hctx : (Tick.accept s t).transform = (t.solve.rotation, t.solve.translation) ∧
      (Tick.accept s t).ctx.validProfile = true ∧
      (Tick.accept s t).savedTransform = (t.solve.rotation, t.solve.translation) := by
    simp only [Tick.accept]
    split
    · exact ⟨rfl, rfl, rfl⟩
    · exact ⟨rfl, rfl, rfl⟩
  refine ⟨⟨?_, ?_, ?_, ?_⟩, ?_, ?_, ?_, ?_⟩
  · rw [htrace]
    exact hctx.1
  · rw [htrace, hctx.2.1, anyAccepted, Bool.or_true]
  · intro _
    rw [htrace]
    exact hctx.2.2
  · intro hany
    rw [htrace] at hany
    cases hany
  · rw [Session.Continues, accept_state]
    exact hs.continues
  · obtain ⟨snap, hsnap, hbase, hvalid, -⟩ := hs.start
    refine ⟨snap, hstart.trans hsnap, ?_, hvalid, ?_⟩
    · rw [htrace]
      exact hbase
    · intro _ hany
      rw [htrace] at hany
      cases hany
  · intro snap hsnap
    rw [hlast] at hsnap
    cases hsnap
    rw [htrace]
    exact ⟨rfl, hctx.1, hctx.2.1⟩
  · intro hnone
    rw [hlast] at hnone
    cases hnone

theorem Logged.push {s₀ s : Session} (hs : Logged s₀ s) (t : TickInput) :
    Logged s₀ (TickBoundaryRePush s t) := by
  have hview := TickBoundaryRePush_view s t
  rcases TickBoundaryRePush_trace s t with htrace | htrace
  · rw [htrace] at hview
    exact hs.congr hview
  · refine hs.silent ⟨?_, ?_, ?_, ?_, ?_, ?_, _, htrace, .inr ⟨_, rfl⟩⟩
    · rw [Session.Continues, TickBoundaryRePush_state]
      exact hs.continues
    · exact congrArg View.transform hview
    · exact congrArg View.validProfile hview
    · exact congrArg View.continuousStartSnapshot hview
    · exact congrArg View.lastAcceptedContinuousSnapshot hview
    · exact congrArg View.savedProfile hview

theorem Logged.move {s₀ s s' : Session} (hs : Logged s₀ s) {t : TickInput}
    (hno : t.relocalized = false ∧ t.warmRestartFails = false) (h : Move t False s s') :
    Logged s₀ s' := by
  cases h with
  | quiet h => exact hs.congr h
  | demote h =>
    refine hs.silent ⟨rfl, rfl, rfl, rfl, rfl, rfl, _, rfl, .inl ⟨_, _, _, rfl⟩⟩
  | restart h => exact hs.toInPlace.restart ..
  | recover h hwedged => simp [hno] at hwedged
  | reset h => exact hs.reset
  | save h hvalid => exact hs.save hvalid
  | advance h =>
    rcases continues_iff.1 hs.continues with hstate | hstate
    all_goals
      rw [hstate] at h
      cases h
  | errors errors h => exact hs.congr rfl
  | accept h =>
    refine hs.accept (h.resolve_right fun htranslation => ?_) t
    have hcont := hs.continues
    simp [Session.Continues, InContinuousFamily, htranslation] at hcont
  | drift h =>
    have hcont := hs.continues
    simp [Session.Continues, InContinuousFamily, h] at hcont

/-- No wedge recovery in a tick. -/
def NoRecovery (t : TickInput) : Prop := t.relocalized = false ∧ t.warmRestartFails = false

theorem Logged.tick {s₀ s : Session} (hs : Logged s₀ s) {t : TickInput} (hno : NoRecovery t) :
    Logged s₀ (CalibrationTick s t) :=
  CalibrationTick_inv t s (fun h => h.2.1 hs.continues) (fun _ _ ha hab => ha.move hno hab)
    (fun _ ha => ha.push t) hs

theorem continuousRun_logged (s : Session) (now : ℚ) (ts : List TickInput)
    (hno : ∀ t ∈ ts, NoRecovery t) : Logged s (continuousRun s now ts) := by
  have hstart : InPlace s { s with trace := [] } :=
    ⟨rfl, (Bool.or_false _).symm, (fun h => by cases h), fun _ _ => rfl⟩
  have hrun : ∀ (ts : List TickInput) (s' : Session), (∀ t ∈ ts, NoRecovery t) → Logged s s' →
      Logged s (ts.foldl CalibrationTick s') := by
    intro ts
    induction ts with
    | nil => exact fun s' _ hs' => hs'
    | cons t ts ih =>
      intro s' hno hs'
      exact ih _ (fun t' ht' => hno t' (List.mem_cons_of_mem _ ht'))
        (hs'.tick (hno t (List.mem_cons_self ..)))
  exact hrun ts _ hno (hstart.restart ..)

/-! ## The end -/

/-- What the end puts in place and saves. -/
theorem EndContinuousCalibration_of_selected {s : Session} {snap : CalibrationProfileSnapshot}
    (h : selectedSnapshot s = some snap) :
    (EndContinuousCalibration .user s).transform = snap.transform ∧
      (EndContinuousCalibration .user s).savedTransform =
        if snap.validProfile = true then snap.transform else s.savedTransform := by
  have hsel : selectedSnapshot (s.setState .user .None) = some snap := h
  rw [EndContinuousCalibration, restoreSelected, hsel]
  simp only
  split
  · next hvalid => exact ⟨rfl, (if_pos hvalid).symm⟩
  · next hvalid => exact ⟨rfl, (if_neg hvalid).symm⟩

/-- **The end of a session keeps the newest accepted calibration**, in the context and in the saved
    profile, exactly when no source reset that matters came behind it. -/
theorem end_keeps_newest_iff (s : Session) (now : ℚ) (ts : List TickInput)
    (hno : ∀ t ∈ ts, NoRecovery t) :
    KeepsNewest s now ts ↔ Survives s.transform (continuousRun s now ts).trace := by
  have hs := continuousRun_logged s now ts hno
  rw [survives_iff, KeepsNewest]
  generalize continuousRun s now ts = run at hs ⊢
  cases hlast : run.lastAcceptedContinuousSnapshot with
  | some snap =>
    -- the last accepted candidate is restored
    obtain ⟨hheld, hsnap, hvalid⟩ := hs.last snap hlast
    have hsel : selectedSnapshot run = some snap := by
      rw [selectedSnapshot, hlast]
      rfl
    obtain ⟨htransform, hsaved⟩ := EndContinuousCalibration_of_selected hsel
    rw [htransform, hsaved, if_pos hvalid, if_pos (.inl (anyAccepted_of_held hheld))]
    exact iff_of_true ⟨hsnap, hsnap⟩ (.inl hheld)
  | none =>
    -- the snapshot of the last start is restored
    obtain ⟨snap, hstart, hbase, hvalid, hinvalid⟩ := hs.start
    have hsel : selectedSnapshot run = some snap := by
      rw [selectedSnapshot, hlast, hstart]
      rfl
    obtain ⟨htransform, hsaved⟩ := EndContinuousCalibration_of_selected hsel
    rw [htransform, hsaved, hbase, hs.noLast hlast]
    constructor
    · exact fun h => .inr h.1
    · intro h
      have hnewest : baseline s.transform run.trace = newest s.transform run.trace :=
        h.resolve_left (by decide)
      refine ⟨hnewest, ?_⟩
      by_cases hsnap : snap.validProfile = true
      · rw [if_pos hsnap, if_pos]
        · exact hnewest
        · by_contra hor
          rw [not_or, Bool.not_eq_true, Bool.not_eq_true] at hor
          rw [hinvalid hor.2 hor.1] at hsnap
          cases hsnap
      · have hs₀ : s.ctx.validProfile = false := by
          by_contra h₀
          exact hsnap (hvalid (by simpa using h₀))
        rw [if_neg hsnap]
        by_cases hany : anyAccepted run.trace = true
        · rw [if_pos (.inl hany)]
          exact hs.saved hany
        · rw [if_neg (by simp [hany, hs₀]), Session.savedTransform,
            hs.unsaved (by simpa using hany) hs₀]
          rfl

/-- Thirty ticks fill the buffer, and the last one accepts a candidate. -/
def firstCandidate : List TickInput := (List.range' 1 30).map trackedTick

theorem firstCandidate_kept : KeepsNewest (launched loadedContext false) 0 firstCandidate := by
  refine (end_keeps_newest_iff _ _ _ ?_).2 ((survives_iff _ _).2 (.inl ?_))
  · intro t ht
    obtain ⟨k, -, rfl⟩ := List.mem_map.1 ht
    exact ⟨rfl, rfl⟩
  · decide +kernel

/-- **A source reset behind the candidate** puts the calibration of the start back. -/
theorem sourceReset_forgets : ¬ KeepsNewest (launched loadedContext false) 0
    (firstCandidate ++ [{ trackedTick 31 with sourceReset := true }]) := by
  intro h
  have htransform := h.1
  revert htransform
  decide +kernel

end WKPairDriver.Calibration.Tick
