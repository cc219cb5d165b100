import Mathlib
import WKPairDriver.Lib.EarlyReturn
import WKPairDriver.Calibration.CalibrationTick

/-!
# What a calibration tick can do

Every block of the tick is a sequence of moves on what its callers can see of a session, and only
the end of a tick touches the boundary.

* `Move` — one such move, with what holds when it is made.
* `tick_leads` — a tick makes moves, and at its end it steps the boundary once.
* `CalibrationTick_inv` — the induction over a tick.
-/

set_option autoImplicit false

namespace WKPairDriver.Calibration.Tick

open Lib Relation

/-! ## Moves -/

/-- What of a session the moves are about. -/
structure View where
  state : CalibrationState
  transform : Transform
  validProfile : Bool
  boundary : BoundaryConfig
  continuousStartSnapshot : Option CalibrationProfileSnapshot
  lastAcceptedContinuousSnapshot : Option CalibrationProfileSnapshot
  error_currentCal : List (ℚ × ℚ)
  rePush : RePush
  savedProfile : CalibrationContext
  trace : List Event

def Session.view (s : Session) : View where
  state := s.state
  transform := s.transform
  validProfile := s.ctx.validProfile
  boundary := s.ctx.boundary
  continuousStartSnapshot := s.continuousStartSnapshot
  lastAcceptedContinuousSnapshot := s.lastAcceptedContinuousSnapshot
  error_currentCal := s.error_currentCal
  rePush := s.rePush
  savedProfile := s.savedProfile
  trace := s.trace

/-- The transitions of a one-shot calibration that a tick makes. -/
def Advances : CalibrationState → CalibrationState → Prop
  | .Begin, .Rotation => True
  | .Rotation, .Translation => True
  | .Begin, .None => True
  | .Rotation, .None => True
  | .Translation, .None => True
  | _, _ => False

/-- A continuous calibration runs, or waits for its devices. -/
def Session.Continues (s : Session) : Prop := InContinuousFamily s.state = true

/-- What a tick with the input `t` does to a session; `misfire` says that the watchdog may demote a
    session that is not in a continuous state. -/
inductive Move (t : TickInput) (misfire : Prop) : Session → Session → Prop where
  | quiet {s s' : Session} (h : s'.view = s.view) : Move t misfire s s'
  | demote {s : Session} (h : s.Continues ∨ misfire) : Move t misfire s (demote s t)
  | restart {s : Session} (h : s.Continues) :
      Move t misfire s (StartContinuousCalibration .tick t.glfwTime s)
  | recover {s : Session} (h : s.Continues) (hwedged : t.relocalized = true ∨
      t.warmRestartFails = true) : Move t misfire s (RecoverFromWedgedCalibration .tick t.glfwTime s)
  | reset {s : Session} (h : s.state = .Continuous) :
      Move t misfire s (ClearHeadMountContinuousSourceState s)
  | save {s : Session} (h : s.state = .Continuous) (hvalid : s.ctx.validProfile = true) :
      Move t misfire s s.SaveProfile
  | advance {s : Session} {state : CalibrationState} (h : Advances s.state state) :
      Move t misfire s (s.setState .tick state)
  | errors {s : Session} (errors : List (ℚ × ℚ)) (h : s.state = .Continuous) :
      Move t misfire s (pushErrors s errors)
  | accept {s : Session} (h : s.state = .Continuous ∨ s.state = .Translation) :
      Move t misfire s (accept s t)
  | drift {s : Session} (h : s.state = .None) : Move t misfire s (correctDrift s t)

/-- Moves one after the other. -/
abbrev Moves (t : TickInput) (misfire : Prop) : Session → Session → Prop :=
  ReflTransGen (Move t misfire)

/-! ## Small facts -/

theorem continues_iff {s : Session} :
    s.Continues ↔ s.state = .Continuous ∨ s.state = .ContinuousStandby := by
  simp [Session.Continues, InContinuousFamily]

@[simp] theorem setState_state (s : Session) (cause : Cause) (state : CalibrationState) :
    (s.setState cause state).state = state := rfl

theorem state_of_view {s s' : Session} (h : s'.view = s.view) : s'.state = s.state :=
  congrArg View.state h

theorem seedProfile_view (s : Session) : (seedProfile s).view = s.view := by
  unfold seedProfile
  split
  · rfl
  · rfl

@[simp] theorem StartContinuousCalibration_state (cause : Cause) (now : ℚ) (s : Session) :
    (StartContinuousCalibration cause now s).state = .Continuous := by
  rw [StartContinuousCalibration, state_of_view (seedProfile_view _)]
  rfl

@[simp] theorem RecoverFromWedgedCalibration_state (cause : Cause) (now : ℚ) (s : Session) :
    (RecoverFromWedgedCalibration cause now s).state = .Continuous :=
  StartContinuousCalibration_state cause now _

@[simp] theorem ClearHeadMountContinuousSourceState_state (s : Session) :
    (ClearHeadMountContinuousSourceState s).state = s.state := by
  rw [ClearHeadMountContinuousSourceState, state_of_view (seedProfile_view _)]
  rfl

@[simp] theorem pushErrors_state (s : Session) (errors : List (ℚ × ℚ)) :
    (pushErrors s errors).state = s.state := rfl

@[simp] theorem StartContinuousCalibration_trace (cause : Cause) (now : ℚ) (s : Session) :
    (StartContinuousCalibration cause now s).trace =
      .state cause .Begin .Continuous :: .state cause s.state .Begin :: .restarted :: s.trace := by
  rw [StartContinuousCalibration]
  exact congrArg View.trace (seedProfile_view _)

@[simp] theorem RecoverFromWedgedCalibration_trace (cause : Cause) (now : ℚ) (s : Session) :
    (RecoverFromWedgedCalibration cause now s).trace =
      .state cause .Begin .Continuous :: .state cause s.state .Begin :: .restarted :: s.trace :=
  StartContinuousCalibration_trace cause now _

@[simp] theorem ClearHeadMountContinuousSourceState_trace (s : Session) :
    (ClearHeadMountContinuousSourceState s).trace = .sourceReset :: s.trace := by
  rw [ClearHeadMountContinuousSourceState]
  exact congrArg View.trace (seedProfile_view _)

/-- What a restart leaves. -/
theorem StartContinuousCalibration_view (cause : Cause) (now : ℚ) (s : Session) :
    (StartContinuousCalibration cause now s).view =
      { s.view with
        state := .Continuous
        continuousStartSnapshot := some (CaptureProfileSnapshot s.ctx)
        lastAcceptedContinuousSnapshot := none
        error_currentCal := []
        trace := (StartContinuousCalibration cause now s).trace } := by
  rw [StartContinuousCalibration_trace, StartContinuousCalibration]
  exact seedProfile_view _

theorem ClearHeadMountContinuousSourceState_view (s : Session) :
    (ClearHeadMountContinuousSourceState s).view =
      { s.view with
        lastAcceptedContinuousSnapshot := none
        trace := .sourceReset :: s.trace } := by
  rw [ClearHeadMountContinuousSourceState]
  exact seedProfile_view _

@[simp] theorem accept_trace (s : Session) (t : TickInput) :
    (accept s t).trace = .accepted (t.solve.rotation, t.solve.translation) :: s.trace := by
  simp only [accept]
  split
  · rfl
  · rfl

@[simp] theorem correctDrift_trace (s : Session) (t : TickInput) :
    (correctDrift s t).trace = s.trace := by
  unfold correctDrift
  split
  · rfl
  · rfl

@[simp] theorem correctDrift_state (s : Session) (t : TickInput) :
    (correctDrift s t).state = s.state := by
  unfold correctDrift
  split
  · rfl
  · rfl

theorem accept_state (s : Session) (t : TickInput) : (accept s t).state = s.state := by
  simp only [accept]
  split
  · rfl
  · rfl

/-- A push touches the boundary and the log. -/
theorem DoPush_view (s : Session) (t : TickInput) :
    (DoPush s t).view =
      { s.view with
        boundary := (DoPush s t).ctx.boundary
        rePush := (DoPush s t).rePush
        trace := (DoPush s t).trace } := by
  simp only [DoPush]
  split_ifs
  · rfl
  · rfl
  · rfl

/-- Nothing, or one push of the transform. -/
theorem DoPush_trace (s : Session) (t : TickInput) :
    (DoPush s t).trace = s.trace ∨ (DoPush s t).trace = .pushed s.transform :: s.trace := by
  simp only [DoPush]
  split_ifs
  · exact .inl rfl
  · exact .inr rfl
  · exact .inl rfl

theorem TickBoundaryRePush_view (s : Session) (t : TickInput) :
    (TickBoundaryRePush s t).view =
      { s.view with
        boundary := (TickBoundaryRePush s t).ctx.boundary
        rePush := (TickBoundaryRePush s t).rePush
        trace := (TickBoundaryRePush s t).trace } := by
  simp only [TickBoundaryRePush]
  split_ifs
  · exact DoPush_view _ t
  · rfl
  · exact DoPush_view _ t
  · rfl

theorem TickBoundaryRePush_trace (s : Session) (t : TickInput) :
    (TickBoundaryRePush s t).trace = s.trace ∨
      (TickBoundaryRePush s t).trace = .pushed s.transform :: s.trace := by
  simp only [TickBoundaryRePush]
  split_ifs
  · exact DoPush_trace _ t
  · exact .inl rfl
  · exact DoPush_trace _ t
  · exact .inl rfl

theorem TickBoundaryRePush_state (s : Session) (t : TickInput) :
    (TickBoundaryRePush s t).state = s.state :=
  congrArg View.state (TickBoundaryRePush_view s t)

@[simp] theorem sourceGuard_state (s : Session) (t : TickInput) :
    (TickHeadMountSourceTransitionGuard s t).state = s.state := by
  unfold TickHeadMountSourceTransitionGuard
  split
  · exact ClearHeadMountContinuousSourceState_state s
  · rfl

@[simp] theorem shadowOffset_state (s : Session) (t : TickInput) :
    (TickHeadMountShadowOffsetEstimator s t).state = s.state := by
  unfold TickHeadMountShadowOffsetEstimator
  split
  · rfl
  · split
    · exact ClearHeadMountContinuousSourceState_state _
    · rfl

theorem solve_state (s : Session) (t : TickInput) : (solve s t).state = s.state := by
  unfold solve
  split
  · next hstate =>
    split
    · rfl
    · simp only [pushErrors_state]
      split
      · rw [hstate]
        exact RecoverFromWedgedCalibration_state ..
      · rfl
  · rfl

theorem publish_state (s : Session) (t : TickInput) : (publish s t).state = s.state := by
  unfold publish
  split
  · exact accept_state s t
  · rfl

/-! ## The watchdog -/

/-- The watchdog finds the last spike of a run, and nothing holds it back. -/
structure CompletesSpikeRun (s : Session) (t : TickInput) (p : ℚ × ℚ) : Prop where
  noGrace : inGeometryShiftGrace s t.time = false
  enough : 5 ≤ s.error_currentCal.length
  isValid : s.calibration.isValid = true
  fresh : freshError? s = some p
  fires : ShouldFireGeometryShiftRecovery (countSpike s p.2) = true
  notSuppressed : suppressed s t p.2 = false

/-- A complete spike run demotes the session. -/
theorem CompletesSpikeRun.demotes {s : Session} {t : TickInput} {p : ℚ × ℚ}
    (h : CompletesSpikeRun s t p) :
    ∃ s', s'.view = s.view ∧ geometryShiftWatchdog s t = demote s' t := by
  refine ⟨{ s with
    s_lastErrorTs := p.1
    g_geomShiftConsecutiveBadTicks := countSpike s p.2 }, rfl, ?_⟩
  unfold geometryShiftWatchdog
  rw [if_neg (by simp [h.noGrace]), if_pos ⟨h.enough, h.isValid⟩, h.fresh]
  simp only [countError, h.fires, h.notSuppressed, Bool.not_true, Bool.false_eq_true, if_false]

/-- Otherwise it only counts. -/
theorem geometryShiftWatchdog_view {s : Session} {t : TickInput}
    (h : ¬ ∃ p, CompletesSpikeRun s t p) : (geometryShiftWatchdog s t).view = s.view := by
  unfold geometryShiftWatchdog
  split
  · rfl
  · next hgrace =>
    split
    · next hready =>
      cases hfresh : freshError? s with
      | none => rfl
      | some p =>
        simp only [countError]
        split_ifs with hcount hsup
        · rfl
        · rfl
        · refine (h ⟨p, ?_⟩).elim
          exact ⟨by simpa using hgrace, hready.1, hready.2, hfresh, by simpa using hcount,
            by simpa using hsup⟩
    · rfl

/-- The tick gets to the watchdog, outside the continuous states, and there a spike run completes. -/
def Misfires (s : Session) (t : TickInput) : Prop :=
  gates s t = .ok s ∧ ¬ s.Continues ∧ ∃ p, CompletesSpikeRun s t p

/-- The log only grows. -/
theorem Move.mem_trace {t : TickInput} {misfire : Prop} {s s' : Session} (h : Move t misfire s s')
    {e : Event} (he : e ∈ s.trace) : e ∈ s'.trace := by
  cases h with
  | quiet h =>
    rw [show s'.trace = s.trace from congrArg View.trace h]
    exact he
  | demote _ => exact List.mem_cons_of_mem _ he
  | restart _ => simp [he]
  | recover _ _ => simp [he]
  | reset _ => simp [he]
  | save _ _ => exact he
  | advance _ => exact List.mem_cons_of_mem _ he
  | errors _ _ => exact he
  | accept _ => simp [he]
  | drift _ => simp [he]

/-! ## The blocks -/

section Blocks

variable (t : TickInput) {misfire : Prop} {s₀ s : Session} (h : Moves t misfire s₀ s)

theorem gates_leads (s : Session) : Leads (gates s t) (· = s) (· = s) := by
  unfold gates
  split_ifs
  · rfl
  · rfl
  · exact .returnIf (fun _ => rfl) (fun _ => rfl)

include h

theorem relocalization_moves : Moves t misfire s₀ (TickHmdRelocalizationDetector s t) := by
  unfold TickHmdRelocalizationDetector
  split
  · next hrecover =>
    rw [Bool.and_eq_true] at hrecover
    exact h.tail (.recover hrecover.2 (.inl hrecover.1))
  · exact h

theorem watchdog_moves (hmisfire : ¬ s.Continues → (∃ p, CompletesSpikeRun s t p) → misfire) :
    Moves t misfire s₀ (geometryShiftWatchdog s t) := by
  by_cases hrun : ∃ p, CompletesSpikeRun s t p
  · obtain ⟨p, hp⟩ := hrun
    obtain ⟨s', hs', heq⟩ := hp.demotes
    rw [heq]
    refine (h.tail (.quiet hs')).tail (.demote ?_)
    rw [Session.Continues, state_of_view hs']
    by_cases hcont : s.Continues
    · exact .inl hcont
    · exact .inr (hmisfire hcont ⟨p, hp⟩)
  · exact h.tail (.quiet (geometryShiftWatchdog_view hrun))

theorem hmdStall_leads : Leads (hmdStall s t) (Moves t misfire s₀) (Moves t misfire s₀) := by
  unfold hmdStall
  split
  · exact h
  · exact h.tail (.quiet rfl)

theorem standby_leads : Leads (standby s t) (Moves t misfire s₀)
    (fun s' => Moves t misfire s₀ s' ∧ s'.state ≠ .ContinuousStandby) := by
  unfold standby
  split_ifs with hstate hdevices
  · refine ⟨h.tail (.restart (continues_iff.2 (.inr hstate))), ?_⟩
    simp
  · exact h
  · exact ⟨h, hstate⟩

/-- What is left is a calibration that runs. -/
theorem idle_leads (hstate : s.state ≠ .ContinuousStandby) :
    Leads (idle s t) (Moves t misfire s₀) (fun s' => Moves t misfire s₀ s' ∧
      (s'.state = .Begin ∨ s'.state = .Rotation ∨ s'.state = .Translation ∨
        s'.state = .Continuous)) := by
  unfold idle
  split
  · next hnone => exact h.tail (.drift hnone)
  · next hnone =>
    refine .returnIf (fun _ => h) (fun hediting => ⟨h, ?_⟩)
    have hediting' : s.state ≠ .Editing := by simpa using hediting
    cases hs : s.state <;> simp_all

theorem checkDevices_leads (hstate : s.state = .Begin ∨ s.state = .Rotation ∨
    s.state = .Translation ∨ s.state = .Continuous) :
    Leads (checkDevices s t) (Moves t misfire s₀) (fun s' => Moves t misfire s₀ s' ∧
      (s'.state = .Rotation ∨ s'.state = .Translation ∨ s'.state = .Continuous)) := by
  unfold checkDevices
  simp only
  split_ifs with hbegin hok hcont
  · refine h.tail (.advance ?_)
    rw [hbegin.1]
    trivial
  · refine ⟨h, hstate.resolve_left ?_⟩
    exact fun hb => hbegin ⟨hb, hok⟩
  · refine h.tail (.advance ?_)
    rcases hstate with hs | hs | hs | hs
    · rw [hs]
      trivial
    · rw [hs]
      trivial
    · rw [hs]
      trivial
    · exact (hcont hs).elim
  · exact h

theorem liveness_leads (hstate : s.state = .Rotation ∨ s.state = .Translation ∨
    s.state = .Continuous) :
    Leads (liveness s t) (Moves t misfire s₀) (fun s' => Moves t misfire s₀ s' ∧
      (s'.state = .Rotation ∨ s'.state = .Translation ∨ s'.state = .Continuous)) := by
  unfold liveness
  split_ifs with hother hoffline hreturned
  · exact ⟨h, hstate⟩
  · exact h
  · exact h.tail (.restart (continues_iff.2 (.inl (not_not.1 hother))))
  · exact ⟨h, hstate⟩

theorem sourceGuard_moves (hstate : s.state ≠ .ContinuousStandby) :
    Moves t misfire s₀ (TickHeadMountSourceTransitionGuard s t) := by
  unfold TickHeadMountSourceTransitionGuard
  split
  · next hreset =>
    rw [Bool.and_eq_true] at hreset
    exact h.tail (.reset ((continues_iff.1 hreset.2).resolve_right hstate))
  · exact h

theorem shadowOffset_moves : Moves t misfire s₀ (TickHeadMountShadowOffsetEstimator s t) := by
  unfold TickHeadMountShadowOffsetEstimator
  split
  · exact h
  · split
    · next candidate _ happlied =>
      refine ((h.tail (.quiet ?_)).tail (.save ?_ ?_)).tail (.reset ?_)
      · rfl
      · exact happlied.1
      · exact happlied.2
      · exact happlied.1
    · exact h

theorem CollectSample_leads (hstate : s.state = .Rotation ∨ s.state = .Translation ∨
    s.state = .Continuous) :
    Leads (CollectSample s t) (Moves t misfire s₀) (fun s' => Moves t misfire s₀ s' ∧
      (s'.state = .Rotation ∨ s'.state = .Translation ∨ s'.state = .Continuous)) := by
  unfold CollectSample
  split_ifs with hposes hcont
  · exact ⟨h.tail (.quiet rfl), hstate⟩
  · refine h.tail (.advance ?_)
    rcases hstate with hs | hs | hs
    · rw [hs]
      trivial
    · rw [hs]
      trivial
    · exact (hcont hs).elim
  · exact h

theorem fillBuffer_leads (hstate : s.state = .Rotation ∨ s.state = .Translation ∨
    s.state = .Continuous) :
    Leads (fillBuffer s t) (Moves t misfire s₀) (fun s' => Moves t misfire s₀ s' ∧
      (s'.state = .Rotation ∨ s'.state = .Translation ∨ s'.state = .Continuous)) := by
  unfold fillBuffer
  split
  · exact h
  · exact ⟨h.tail (.quiet rfl), hstate⟩

theorem phases_leads (hstate : s.state = .Rotation ∨ s.state = .Translation ∨
    s.state = .Continuous) :
    Leads (phases s t) (Moves t misfire s₀) (fun s' => Moves t misfire s₀ s' ∧
      (s'.state = .Continuous ∨ s'.state = .Translation)) := by
  unfold phases
  rcases hstate with hs | hs | hs
  · rw [hs]
    simp only
    split
    · refine (h.tail (.quiet ?_)).tail (.advance ?_)
      · rfl
      · show Advances s.state .Translation
        rw [hs]
        trivial
    · exact h.tail (.quiet rfl)
  · rw [hs]
    simp only
    split
    · exact ⟨h, .inr hs⟩
    · exact h.tail (.quiet rfl)
  · rw [hs]
    exact ⟨h, .inl hs⟩

theorem solve_moves : Moves t misfire s₀ (solve s t) := by
  unfold solve
  split
  · next hstate =>
    split
    · exact h
    · have hsolved : Moves t misfire s₀ (solved (pushErrors s t.errors) t) :=
        (h.tail (.errors t.errors hstate)).tail (.quiet rfl)
      simp only
      split
      · next hwedged =>
        refine (hsolved.tail (.recover ?_ (.inr hwedged))).tail (.errors _ ?_)
        · exact continues_iff.2 (.inl hstate)
        · exact RecoverFromWedgedCalibration_state ..
      · exact hsolved.tail (.errors _ hstate)
  · exact h.tail (.quiet rfl)

theorem publish_moves (hstate : s.state = .Continuous ∨ s.state = .Translation) :
    Moves t misfire s₀ (publish s t) := by
  unfold publish
  split
  · exact h.tail (.accept hstate)
  · exact h

theorem lastBlock_moves (hstate : s.state = .Continuous ∨ s.state = .Translation) :
    Moves t misfire s₀ (lastBlock s t) := by
  unfold lastBlock
  split
  · next hother =>
    have hadvance : Advances s.state .None := by
      rw [hstate.resolve_left hother]
      trivial
    have hnone : Moves t misfire s₀ (s.setState .tick .None) := h.tail (.advance hadvance)
    exact hnone.tail (.quiet rfl)
  · exact h.tail (.quiet rfl)

end Blocks

/-! ## The tick -/

section Whole

variable (t : TickInput) {misfire : Prop}

/-- The last moves of a tick that came to its end, with one step of the boundary before them. -/
def Ends (t : TickInput) (misfire : Prop) (s₀ s' : Session) : Prop :=
  ∃ s₁, Moves t misfire s₀ s₁ ∧ (s₁.state = .Continuous ∨ s₁.state = .Translation) ∧
    s' = lastBlock (TickBoundaryRePush s₁ t) t

theorem afterWatchdog_leads {s₀ s : Session} (h : Moves t misfire s₀ s) :
    Leads (afterWatchdog t s) (Moves t misfire s₀) (Ends t misfire s₀) := by
  refine Leads.bind (hmdStall_leads t (h.tail (.quiet rfl))) fun s₁ h₁ => ?_
  refine Leads.bind (standby_leads t h₁) fun s₂ h₂ => ?_
  refine Leads.bind (idle_leads t h₂.1 h₂.2) fun s₃ h₃ => ?_
  refine Leads.bind (checkDevices_leads t h₃.1 h₃.2) fun s₄ h₄ => ?_
  refine Leads.bind (liveness_leads t h₄.1 h₄.2) fun s₅ h₅ => ?_
  have hguard := sourceGuard_moves t h₅.1 (by rcases h₅.2 with hs | hs | hs <;> simp [hs])
  have hcollect := CollectSample_leads t (shadowOffset_moves t hguard) (by
    rw [shadowOffset_state, sourceGuard_state]
    exact h₅.2)
  refine Leads.bind hcollect fun s₆ h₆ => ?_
  refine Leads.bind (fillBuffer_leads t h₆.1 h₆.2) fun s₇ h₇ => ?_
  refine Leads.bind (phases_leads t h₇.1 h₇.2) fun s₈ h₈ => ?_
  have hwait : Leads (triggerWait s₈ t) (Moves t misfire s₀) (fun s' => s' = s₈) :=
    .returnIf (fun _ => h₈.1) (fun _ => rfl)
  refine Leads.bind hwait fun s₉ h₉ => ?_
  subst h₉
  have hsolved : (solve s₉ t).state = .Continuous ∨ (solve s₉ t).state = .Translation := by
    rw [solve_state]
    exact h₈.2
  refine ⟨publish (solve s₉ t) t, publish_moves t (solve_moves t h₈.1) hsolved, ?_, rfl⟩
  rw [publish_state]
  exact hsolved

/-- Induction over the blocks of a tick. -/
theorem inv_of_leads {I : Session → Prop} (hmove : ∀ a b, I a → Move t misfire a b → I b)
    (hpush : ∀ a, I a → I (TickBoundaryRePush a t)) {s₀ : Session} (hs : I s₀)
    {x : Except Session Session} (hx : Leads x (Moves t misfire s₀) (Ends t misfire s₀)) :
    I (finish x) := by
  have hmoves : ∀ {a b}, I a → Moves t misfire a b → I b := by
    intro a b ha hab
    induction hab with
    | refl => exact ha
    | tail _ hbc ih => exact hmove _ _ ih hbc
  refine Leads.finish (hx.mono (fun s' h => hmoves hs h) ?_)
  rintro s' ⟨s₁, h₁, hstate, rfl⟩
  refine hmoves (hpush s₁ (hmoves hs h₁)) (lastBlock_moves t .refl ?_)
  rw [TickBoundaryRePush_state]
  exact hstate

theorem relocalization_of_not_continues {t : TickInput} {s : Session} (hs : ¬ s.Continues) :
    TickHmdRelocalizationDetector s t = s := by
  unfold TickHmdRelocalizationDetector
  rw [if_neg]
  intro hand
  exact hs (Bool.and_eq_true_iff.1 hand).2

/-- The watchdog sees a session that is not in a continuous state as the tick found it. -/
theorem watched_moves {s : Session} (hmisfire : Misfires s t → misfire)
    (hgates : gates s t = .ok s) :
    Moves t misfire s (geometryShiftWatchdog (TickHmdRelocalizationDetector s t) t) := by
  refine (relocalization_moves t .refl).trans (watchdog_moves t .refl ?_)
  intro hcont hrun
  by_cases hs : s.Continues
  · refine (hcont ?_).elim
    unfold TickHmdRelocalizationDetector
    split
    · exact continues_iff.2 (.inl (RecoverFromWedgedCalibration_state ..))
    · exact hs
  · rw [relocalization_of_not_continues hs] at hrun
    exact hmisfire ⟨hgates, hs, hrun⟩

variable (s : Session) (hmisfire : Misfires s t → misfire)

include hmisfire

/-- **What a tick does**: moves, and at its end one step of the boundary between moves. -/
theorem tick_leads : Leads (tick t s) (Moves t misfire s) (Ends t misfire s) := by
  have hgates : Leads (gates s t) (Moves t misfire s) (fun s' => s' = s ∧ gates s t = .ok s) := by
    have hg := gates_leads t s
    cases hx : gates s t with
    | error s' =>
      rw [hx, leads_error] at hg
      exact hg ▸ .refl
    | ok s' =>
      rw [hx, leads_ok] at hg
      exact ⟨hg, by rw [hg]⟩
  refine Leads.bind hgates fun s' hs' => ?_
  obtain ⟨rfl, hok⟩ := hs'
  exact afterWatchdog_leads t (watched_moves t hmisfire hok)

/-- **Induction over a tick.** What the moves and the step of the boundary keep, a tick keeps. -/
theorem CalibrationTick_inv {I : Session → Prop} (hmove : ∀ a b, I a → Move t misfire a b → I b)
    (hpush : ∀ a, I a → I (TickBoundaryRePush a t)) (hs : I s) : I (CalibrationTick s t) :=
  inv_of_leads t hmove hpush hs (tick_leads t s hmisfire)

end Whole

end WKPairDriver.Calibration.Tick
