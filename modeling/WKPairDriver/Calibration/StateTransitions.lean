import Mathlib
import WKPairDriver.Lib.Run
import WKPairDriver.Lib.EarlyReturn
import WKPairDriver.Calibration.CalibrationTick
import WKPairDriver.Calibration.TickMoves

/-!
# The calibration state machine

Ticks and the operations of the user, in any order, from the start of the program.  The watchdog
runs in every state and keeps its spike run and its last time stamp from tick to tick, so that a
spike run can be completed by the first tick behind the end of a continuous calibration.

* `state_transitions_iff` — every change of the state is in the table, the watchdog only demotes a
  continuous session and no tick starts a calibration, exactly when nothing is started inside a
  one-shot calibration or the editor and no tick behind the end finds a completed spike run.
* `endedContinuous_restarts` — a session the user ended that starts again by itself.
-/

set_option autoImplicit false

namespace WKPairDriver.Calibration.Tick

open Lib

/-! ## The table -/

def IsLegalTransition (before after : CalibrationState) : Bool :=
  if before = after then true
  else
    match before with
    | .None => after = .Begin || after = .Continuous || after = .ContinuousStandby ||
        after = .Editing
    | .Begin => after = .None || after = .Rotation || after = .Continuous
    | .Rotation => after = .None || after = .Translation
    | .Translation => after = .None
    | .Editing => after = .None
    | .Continuous => after = .None || after = .Begin || after = .ContinuousStandby
    | .ContinuousStandby => after = .None || after = .Begin || after = .Continuous

/-! ## Runs -/

inductive Action where
  | tick (t : TickInput)
  | startCalibration (now : ℚ)
  | startContinuousCalibration (now : ℚ)
  | cancelCalibration
  | endContinuousCalibration
  | enterEditing
  | leaveEditing

/-- The editor is entered from `None`, with a valid profile. -/
def step (s : Session) : Action → Option Session
  | .tick t => some (CalibrationTick s t)
  | .startCalibration now => some (StartCalibration .user now s)
  | .startContinuousCalibration now => some (StartContinuousCalibration .user now s)
  | .cancelCalibration => some (CancelCalibration .user s)
  | .endContinuousCalibration => some (EndContinuousCalibration .user s)
  | .enterEditing =>
    if s.state = .None ∧ s.ctx.validProfile = true then some (s.setState .user .Editing) else none
  | .leaveEditing =>
    if s.state = .Editing then some (s.SaveProfile.setState .user .None) else none

/-- The program with a loaded profile; `autostart` when it was saved in continuous calibration. -/
def launched (ctx : CalibrationContext) (autostart : Bool) : Session where
  ctx := { ctx with state := if autostart then .ContinuousStandby else .None }
  hasAppliedCalibrationResult := false
  continuousStartSnapshot := none
  lastAcceptedContinuousSnapshot := none
  timeLastTick := 0
  geometryShiftGraceUntil := 0
  geometryShiftCooldownUntil := 0
  prev := .Zero
  calibration := .Clear
  error_currentCal := []
  s_lastErrorTs := 0
  g_geomShiftConsecutiveBadTicks := 0
  rePush := ⟨true, 0, false⟩
  savedProfile := ctx
  trace := []

/-- A change in the table; the watchdog's is made in a continuous state, and `None` is left by the
    user alone. -/
def SoundEvent : Event → Prop
  | .state cause before after => IsLegalTransition before after = true ∧
      (cause = .watchdog → InContinuousFamily before = true) ∧ (before = .None → cause = .user)
  | _ => True

def Orderly (s : Session) : Prop := ∀ e ∈ s.trace, SoundEvent e

instance decidableSoundEvent : (e : Event) → Decidable (SoundEvent e)
  | .state _ _ _ => inferInstanceAs (Decidable (_ ∧ (_ → _) ∧ (_ → _)))
  | .restarted | .sourceReset | .accepted _ | .pushed _ => isTrue trivial

instance : DecidablePred Orderly := fun s => inferInstanceAs (Decidable (∀ e ∈ s.trace, _))

/-- Nothing is started inside a one-shot calibration or the editor, and a tick in `None` or in the
    editor finds no completed spike run. -/
def InOrder (s : Session) : Action → Prop
  | .tick t => s.state = .None ∨ s.state = .Editing → ¬ Misfires s t
  | .startCalibration _ | .startContinuousCalibration _ =>
    s.state ≠ .Rotation ∧ s.state ≠ .Translation ∧ s.state ≠ .Editing
  | _ => True

/-! ## The invariant -/

/-- A one-shot calibration pushes no errors. -/
structure Kept (s : Session) : Prop where
  orderly : Orderly s
  oneShot : s.state = .Begin ∨ s.state = .Rotation ∨ s.state = .Translation →
    s.error_currentCal = []

theorem Orderly.cons {s s' : Session} {e : Event} (hs : Orderly s) (he : SoundEvent e)
    (h : s'.trace = e :: s.trace) : Orderly s' := by
  intro e' he'
  rw [h] at he'
  rcases List.mem_cons.1 he' with rfl | hmem
  · exact he
  · exact hs e' hmem

theorem Kept.of_view {s s' : Session} (hs : Kept s) (h : s'.view = s.view) : Kept s' := by
  have htrace : s'.trace = s.trace := congrArg View.trace h
  have herror : s'.error_currentCal = s.error_currentCal := congrArg View.error_currentCal h
  constructor
  · rw [Orderly, htrace]
    exact hs.orderly
  · rw [state_of_view h, herror]
    exact hs.oneShot

/-- A session that is not in a one-shot calibration owes the trace alone. -/
theorem Kept.of_orderly {s : Session} (hs : Orderly s)
    (h : s.state ≠ .Begin ∧ s.state ≠ .Rotation ∧ s.state ≠ .Translation) : Kept s :=
  ⟨hs, fun hone => by rcases hone with h' | h' | h' <;> simp_all⟩

/-- A restart, by a tick or by the user. -/
theorem Orderly.restarted {s : Session} (hs : Orderly s) {cause : Cause}
    (hbegin : SoundEvent (.state cause s.state .Begin)) (hcause : cause ≠ .watchdog) {s' : Session}
    (h : s'.trace =
      .state cause .Begin .Continuous :: .state cause s.state .Begin :: .restarted :: s.trace) :
    Orderly s' := by
  have hcontinuous : SoundEvent (.state cause .Begin .Continuous) :=
    ⟨rfl, fun h => (hcause h).elim, fun h => by cases h⟩
  intro e he
  rw [h] at he
  simp only [List.mem_cons] at he
  rcases he with rfl | rfl | rfl | he
  · exact hcontinuous
  · exact hbegin
  · trivial
  · exact hs e he

theorem soundBegin {s : Session} (h : s.Continues) : SoundEvent (.state .tick s.state .Begin) := by
  rcases continues_iff.1 h with h | h <;> rw [h] <;> decide

theorem Advances.sound {before after : CalibrationState} (h : Advances before after) :
    SoundEvent (.state .tick before after) := by
  cases before <;> cases after <;> first | decide | cases h

/-- An advance stays in the one-shot calibration or ends it. -/
theorem Advances.oneShot {before after : CalibrationState} (h : Advances before after) :
    before = .Begin ∨ before = .Rotation ∨ before = .Translation := by
  cases before <;> cases after <;> first | decide | cases h

theorem Kept.move {t : TickInput} {s s' : Session} (hs : Kept s) (h : Move t False s s') :
    Kept s' := by
  cases h with
  | quiet h => exact hs.of_view h
  | demote h =>
    refine .of_orderly (hs.orderly.cons ?_ rfl) ⟨?_, ?_, ?_⟩
    · have hcont := h.resolve_right id
      refine ⟨?_, fun _ => hcont, fun hnone => ?_⟩
      · rcases continues_iff.1 hcont with h | h <;>
          simp only [Session.state] at h <;> rw [h] <;> decide
      · simp [Session.Continues, InContinuousFamily, Session.state, hnone] at hcont
    all_goals
      intro hstate
      cases hstate
  | restart h =>
    refine .of_orderly (hs.orderly.restarted (soundBegin h) (by decide)
      (StartContinuousCalibration_trace ..)) ?_
    simp
  | recover h _ =>
    refine .of_orderly (hs.orderly.restarted (soundBegin h) (by decide)
      (RecoverFromWedgedCalibration_trace ..)) ?_
    simp
  | reset h =>
    refine .of_orderly (hs.orderly.cons (e := .sourceReset) trivial
      (ClearHeadMountContinuousSourceState_trace s)) ?_
    simp [h]
  | save h _ => exact ⟨hs.orderly, hs.oneShot⟩
  | advance h =>
    refine ⟨hs.orderly.cons h.sound rfl, fun _ => hs.oneShot h.oneShot⟩
  | errors errors h =>
    refine .of_orderly hs.orderly ?_
    simp [h]
  | accept h =>
    refine ⟨hs.orderly.cons (e := .accepted _) trivial (accept_trace s t), ?_⟩
    have herror : (accept s t).error_currentCal = s.error_currentCal := by
      simp only [accept]
      split
      · rfl
      · rfl
    rw [accept_state, herror]
    exact hs.oneShot
  | drift h =>
    refine .of_orderly ?_ (by simp [h])
    rw [Orderly, correctDrift_trace]
    exact hs.orderly

theorem Kept.push {s : Session} (hs : Kept s) (t : TickInput) : Kept (TickBoundaryRePush s t) := by
  refine ⟨?_, ?_⟩
  · rcases TickBoundaryRePush_trace s t with h | h
    · rw [Orderly, h]
      exact hs.orderly
    · exact hs.orderly.cons (e := .pushed _) trivial h
  · rw [TickBoundaryRePush_state, show (TickBoundaryRePush s t).error_currentCal = _ from
      congrArg View.error_currentCal (TickBoundaryRePush_view s t)]
    exact hs.oneShot

theorem Kept.tick {s : Session} (hs : Kept s) {t : TickInput} (h : ¬ Misfires s t) :
    Kept (CalibrationTick s t) :=
  CalibrationTick_inv t s h (fun _ _ ha hab => ha.move hab) (fun _ ha => ha.push t) hs

/-- In a one-shot calibration there are no errors to find a spike in. -/
theorem Kept.not_misfires {s : Session} (hs : Kept s) {t : TickInput}
    (h : s.state ≠ .None ∧ s.state ≠ .Editing) : ¬ Misfires s t := by
  rintro ⟨-, hcont, p, hp⟩
  have hone : s.state = .Begin ∨ s.state = .Rotation ∨ s.state = .Translation := by
    rw [continues_iff, not_or] at hcont
    cases hstate : s.state <;> simp_all
  have henough := hp.enough
  rw [hs.oneShot hone] at henough
  simp at henough

/-- A misfire stays in the log. -/
theorem Misfires.not_orderly {s : Session} {t : TickInput} (h : Misfires s t) :
    ¬ Orderly (CalibrationTick s t) := by
  obtain ⟨hgates, hcont, p, hp⟩ := h
  obtain ⟨s', hview, hdemote⟩ := hp.demotes
  -- the demotion from a state that is not a continuous one
  let e : Event := .state .watchdog s'.state .ContinuousStandby
  have hunsound : ¬ SoundEvent e := by
    intro he
    have hfamily := he.2.1 rfl
    rw [state_of_view hview] at hfamily
    exact hcont hfamily
  have hlogged : e ∈ (CalibrationTick s t).trace := by
    have htick : tick t s = afterWatchdog t (demote s' t) := by
      rw [tick, hgates]
      show afterWatchdog t (geometryShiftWatchdog (TickHmdRelocalizationDetector s t) t) = _
      rw [relocalization_of_not_continues hcont, hdemote]
    rw [CalibrationTick, htick]
    have hleads : Leads (afterWatchdog t (demote s' t)) (Moves t True (demote s' t))
        (Ends t True (demote s' t)) := afterWatchdog_leads t .refl
    refine inv_of_leads t (I := fun s => e ∈ s.trace) ?_ ?_ ?_ hleads
    · exact fun a b ha hab => hab.mem_trace ha
    · intro a ha
      rcases TickBoundaryRePush_trace a t with h | h
      · rw [h]
        exact ha
      · rw [h]
        exact List.mem_cons_of_mem _ ha
    · exact List.mem_cons_self ..
  exact fun h => hunsound (h e hlogged)

/-! ## The operations of the user -/

theorem soundStart {state : CalibrationState}
    (h : state ≠ .Rotation ∧ state ≠ .Translation ∧ state ≠ .Editing) :
    SoundEvent (.state .user state .Begin) := by
  cases state <;> first | decide | simp at h

theorem Kept.startCalibration {s : Session} (hs : Kept s) (now : ℚ)
    (h : s.state ≠ .Rotation ∧ s.state ≠ .Translation ∧ s.state ≠ .Editing) :
    Kept (StartCalibration .user now s) :=
  ⟨hs.orderly.cons (soundStart h) rfl, fun _ => rfl⟩

theorem Kept.startContinuous {s : Session} (hs : Kept s) (now : ℚ)
    (h : s.state ≠ .Rotation ∧ s.state ≠ .Translation ∧ s.state ≠ .Editing) :
    Kept (StartContinuousCalibration .user now s) := by
  refine .of_orderly (hs.orderly.restarted (soundStart h) (by decide)
    (StartContinuousCalibration_trace ..)) ?_
  simp

theorem soundNone (state : CalibrationState) : SoundEvent (.state .user state .None) := by
  cases state <;> decide

theorem Kept.cancel {s : Session} (hs : Kept s) : Kept (CancelCalibration .user s) := by
  unfold CancelCalibration
  split
  · exact hs
  · refine .of_orderly (hs.orderly.cons (soundNone s.state) rfl) ⟨?_, ?_, ?_⟩
    all_goals
      intro hstate
      cases hstate

theorem restoreSelected_state (s : Session) : (restoreSelected s).state = s.state := by
  unfold restoreSelected
  split
  · rfl
  · simp only
    split
    · rfl
    · rfl

theorem restoreSelected_trace (s : Session) : (restoreSelected s).trace = s.trace := by
  unfold restoreSelected
  split
  · rfl
  · simp only
    split
    · rfl
    · rfl

theorem Kept.endContinuous {s : Session} (hs : Kept s) :
    Kept (EndContinuousCalibration .user s) := by
  have hstate : (EndContinuousCalibration .user s).state = .None := by
    rw [EndContinuousCalibration]
    exact restoreSelected_state _
  refine .of_orderly (hs.orderly.cons (soundNone s.state) ?_) (by simp [hstate])
  rw [EndContinuousCalibration]
  exact restoreSelected_trace _

theorem Kept.edit {s : Session} (hs : Kept s) {after : CalibrationState}
    (hsound : SoundEvent (.state .user s.state after))
    (h : after ≠ .Begin ∧ after ≠ .Rotation ∧ after ≠ .Translation) :
    Kept (s.setState .user after) :=
  .of_orderly (hs.orderly.cons hsound rfl) h

theorem Kept.save {s : Session} (hs : Kept s) : Kept s.SaveProfile := ⟨hs.orderly, hs.oneShot⟩

/-! ## Runs -/

/-- What one step keeps. -/
theorem Kept.step {s s' : Session} {a : Action} (hs : Kept s) (hin : InOrder s a)
    (h : step s a = some s') : Kept s' := by
  cases a with
  | tick t =>
    cases h
    refine hs.tick ?_
    by_cases hidle : s.state = .None ∨ s.state = .Editing
    · exact hin hidle
    · exact hs.not_misfires (not_or.1 hidle)
  | startCalibration now =>
    cases h
    exact hs.startCalibration now hin
  | startContinuousCalibration now =>
    cases h
    exact hs.startContinuous now hin
  | cancelCalibration =>
    cases h
    exact hs.cancel
  | endContinuousCalibration =>
    cases h
    exact hs.endContinuous
  | enterEditing =>
    simp only [Tick.step] at h
    split at h
    · next hnone =>
      cases h
      exact hs.edit (by rw [hnone.1]; decide) (by decide)
    · cases h
  | leaveEditing =>
    simp only [Tick.step] at h
    split at h
    · cases h
      exact hs.save.edit (soundNone _) (by decide)
    · cases h

/-- A start inside a one-shot calibration or the editor is not in the table. -/
theorem unsoundStart {state : CalibrationState}
    (h : ¬ (state ≠ .Rotation ∧ state ≠ .Translation ∧ state ≠ .Editing)) :
    ¬ SoundEvent (.state .user state .Begin) := by
  cases state <;> first | decide | simp at h

/-- A step that stays in order met the condition. -/
theorem inOrder_of_orderly {s s' : Session} {a : Action} (h : step s a = some s')
    (hs' : Orderly s') : InOrder s a := by
  cases a with
  | tick t =>
    cases h
    exact fun _ hmis => hmis.not_orderly hs'
  | startCalibration now =>
    cases h
    by_contra hin
    exact unsoundStart hin (hs' _ (List.mem_cons_self ..))
  | startContinuousCalibration now =>
    cases h
    by_contra hin
    refine unsoundStart hin (hs' _ ?_)
    rw [StartContinuousCalibration_trace]
    simp
  | _ => trivial

/-- **The state machine**, over every run of the program from its start: the changes are in the
    table, the watchdog demotes continuous sessions only and no tick leaves `None`, if and only if
    every step of the run is in order. -/
theorem state_transitions_iff (ctx : CalibrationContext) (autostart : Bool) (as : List Action) :
    Always step Orderly (launched ctx autostart) as ↔
      AllSteps step InOrder (launched ctx autostart) as := by
  refine Always.iff_of_inv (I := Kept) ?_ ?_ ?_ ?_
  · exact fun s a s' hs hin h => hs.step hin h
  · exact fun s hs => hs.orderly
  · exact fun s a s' _ h hs' => inOrder_of_orderly h hs'
  · exact ⟨fun e he => (by cases he), fun _ => rfl⟩

/-! ## A session that starts again -/

/-- The tick at `k` tenths of a second: everything tracks, and the error jumps from 1 mm to 10 mm
    at 4.5 s. -/
def trackedTick (k : ℕ) : TickInput where
  time := k / 10
  glfwTime := k / 10
  vrSystem := true
  idsInRange := true
  relocalized := false
  coherent := false
  motionQualityReject := false
  hmdPos := ⟨k, 0, 0⟩
  AssignTargets := true
  driftCorrection := none
  referencePresent := true
  targetPresent := true
  beginReady := true
  lockRelativePosition := false
  anchorOffline := false
  anchorReturned := false
  sourceReset := false
  shadowOffset := none
  posesTracking := true
  sampleKept := true
  fillSpeed := .FAST
  trimSpeed := .FAST
  dropSpeed := .FAST
  rotationDiverse := true
  translationDiverse := true
  triggerReleased := false
  calibrationPaused := false
  errors := [(k / 10, if k < 45 then 1 else 10)]
  extraErrors := []
  solve := ⟨true, .Zero, ⟨k, 0, 0⟩, .Identity, false⟩
  warmRestartFails := false
  chaperoneSnapshot := []
  chaperoneWritten := true

/-- A loaded profile. -/
def loadedContext : CalibrationContext := { CalibrationContext.new with validProfile := true }

/-- The user ends the calibration between the third error of 10 mm and the tick that reads it. -/
def endedRun : List Action :=
  .startContinuousCalibration 0 :: (List.range' 1 51).map (.tick ∘ trackedTick) ++
    [.endContinuousCalibration, .tick (trackedTick 52)]

/-- **The next tick starts the calibration again.** -/
theorem endedContinuous_restarts : ¬ Always step Orderly (launched loadedContext false) endedRun := by
  decide +kernel

end WKPairDriver.Calibration.Tick
