import Mathlib
import WKPairDriver.Lib.Run
import WKPairDriver.Lib.EarlyReturn
import WKPairDriver.Calibration.CalibrationTick
import WKPairDriver.Calibration.TickMoves
import WKPairDriver.Calibration.StateTransitions

/-!
# The start-up push of the boundary

The countdown of the start-up push steps at the end of a tick, behind every early return, and a
tick that came to its end leaves the sample buffer short.

* `Unhindered`, `reachesEnd_iff` — what a tick and the session before it must be like for the tick
  to come to its end.
* `steady_speed_starves` — at a speed that does not change the push takes at least 59 executed ticks,
  in any state.
* `startup_push_iff` — the push comes within 30 executed ticks exactly when none of them is
  hindered, and never at one speed; ticks that are not pushable hold the countdown.
* `idleBoundary_starves` — a boundary that waits for its push while no calibration runs.
-/

set_option autoImplicit false

namespace WKPairDriver.Calibration.Tick

open Lib

/-! ## Runs of ticks -/

def tickStep (s : Session) (t : TickInput) : Option Session := some (CalibrationTick s t)

/-- The tick gets past its gates. -/
def Executed (s : Session) (t : TickInput) : Prop := gates s t = .ok s

/-- The tick comes to its end: none of its blocks returns early. -/
def ReachesEnd (s : Session) (t : TickInput) : Prop := (tick t s).isOk = true

instance (s : Session) (t : TickInput) : Decidable (ReachesEnd s t) :=
  inferInstanceAs (Decidable (_ = _))

/-- The tick pushes the boundary with the transform it leaves in place. -/
def PushesAt (s : Session) (t : TickInput) : Prop :=
  s.trace.count (.pushed (CalibrationTick s t).transform) <
    (CalibrationTick s t).trace.count (.pushed (CalibrationTick s t).transform)

instance (s : Session) (t : TickInput) : Decidable (PushesAt s t) :=
  inferInstanceAs (Decidable (_ < _))

/-- Some tick of the run pushes. -/
def SomePush : Session → List TickInput → Prop
  | _, [] => False
  | s, t :: ts => PushesAt s t ∨ SomePush (CalibrationTick s t) ts

/-- The number of ticks that get past their gates. -/
def executed : Session → List TickInput → ℕ
  | _, [] => 0
  | s, t :: ts => (gates s t).isOk.toNat + executed (CalibrationTick s t) ts

/-- The number of ticks that come to their end. -/
def reached : Session → List TickInput → ℕ
  | _, [] => 0
  | s, t :: ts => (tick t s).isOk.toNat + reached (CalibrationTick s t) ts

/-- What the countdown of a pushable boundary starts the next end of a tick with. -/
def left (s : Session) : ℕ :=
  if s.rePush.g_prevPushable then s.rePush.g_startupPushPending else kStartupGraceTicks

/-- A scheduled push, or a boundary that was not pushable at the last end of a tick. -/
def Armed (s : Session) : Prop := left s = kStartupGraceTicks

instance (s : Session) : Decidable (Armed s) := inferInstanceAs (Decidable (_ = _))

/-! ## What a tick does to the boundary -/

/-- Moves leave the countdown and the pushes alone. -/
structure Still (s s' : Session) : Prop where
  rePush : s'.rePush = s.rePush
  pushes : ∀ calibration, s'.trace.count (.pushed calibration) =
    s.trace.count (.pushed calibration)

theorem Still.trans {s s' s'' : Session} (h : Still s s') (h' : Still s' s'') : Still s s'' :=
  ⟨h'.rePush.trans h.rePush, fun _ => (h'.pushes _).trans (h.pushes _)⟩

theorem StartContinuousCalibration_rePush (cause : Cause) (now : ℚ) (s : Session) :
    (StartContinuousCalibration cause now s).rePush = s.rePush :=
  congrArg View.rePush (StartContinuousCalibration_view cause now s)

theorem Still.restart (cause : Cause) (now : ℚ) (s : Session) :
    Still s (StartContinuousCalibration cause now s) := by
  refine ⟨StartContinuousCalibration_rePush cause now s, fun _ => ?_⟩
  rw [StartContinuousCalibration_trace]
  simp

theorem Still.move {t : TickInput} {misfire : Prop} {s s' : Session} (h : Move t misfire s s') :
    Still s s' := by
  cases h with
  | quiet h =>
    refine ⟨congrArg View.rePush h, fun _ => ?_⟩
    rw [show s'.trace = s.trace from congrArg View.trace h]
  | demote _ => exact ⟨rfl, fun _ => List.count_cons_of_ne (by simp)⟩
  | restart _ => exact .restart ..
  | recover _ _ =>
    refine ⟨?_, fun _ => ?_⟩
    · rw [RecoverFromWedgedCalibration, StartContinuousCalibration_rePush]
    · rw [RecoverFromWedgedCalibration_trace]
      simp
  | reset _ =>
    refine ⟨congrArg View.rePush (ClearHeadMountContinuousSourceState_view s), fun _ => ?_⟩
    rw [ClearHeadMountContinuousSourceState_trace]
    simp
  | save _ _ => exact ⟨rfl, fun _ => rfl⟩
  | advance _ => exact ⟨rfl, fun _ => List.count_cons_of_ne (by simp)⟩
  | errors _ _ => exact ⟨rfl, fun _ => rfl⟩
  | accept _ =>
    refine ⟨?_, fun _ => ?_⟩
    · simp only [accept]
      split
      · rfl
      · rfl
    · rw [accept_trace]
      simp
  | drift _ =>
    refine ⟨?_, fun _ => ?_⟩
    · unfold correctDrift
      split
      · rfl
      · rfl
    · rw [correctDrift_trace]

theorem Still.moves {t : TickInput} {misfire : Prop} {s s' : Session}
    (h : Moves t misfire s s') : Still s s' := by
  induction h with
  | refl => exact ⟨rfl, fun _ => rfl⟩
  | tail _ h ih => exact ih.trans (.move h)

/-- An early return leaves the boundary alone. -/
theorem CalibrationTick_still {s : Session} {t : TickInput} (h : ¬ ReachesEnd s t) :
    Still s (CalibrationTick s t) := by
  have hleads : Leads (tick t s) (Moves t True s) (Ends t True s) :=
    tick_leads t s fun _ => trivial
  unfold ReachesEnd at h
  unfold CalibrationTick
  cases htick : tick t s with
  | error s' =>
    rw [htick] at hleads
    exact .moves hleads
  | ok s' =>
    rw [htick] at h
    exact (h rfl).elim

theorem captureChaperone_pushable (s : Session) (t : TickInput) :
    (captureChaperone s t).enabled = s.ctx.boundary.enabled ∧
      (captureChaperone s t).vertices = s.ctx.boundary.vertices := by
  unfold captureChaperone
  split
  · exact ⟨rfl, rfl⟩
  · exact ⟨rfl, rfl⟩

theorem pushable_of_view {s s' : Session} (henabled : s'.ctx.boundary.enabled =
    s.ctx.boundary.enabled) (hvertices : s'.ctx.boundary.vertices = s.ctx.boundary.vertices)
    (hvalid : s'.ctx.validProfile = s.ctx.validProfile) : pushable s' = pushable s := by
  rw [pushable, pushable, henabled, hvertices, hvalid]

theorem DoPush_pushable (s : Session) (t : TickInput) : pushable (DoPush s t) = pushable s := by
  have hcapture := captureChaperone_pushable s t
  simp only [DoPush]
  split_ifs
  · rfl
  · exact pushable_of_view hcapture.1 hcapture.2 rfl
  · exact pushable_of_view hcapture.1 hcapture.2 rfl

theorem TickBoundaryRePush_pushable (s : Session) (t : TickInput) :
    pushable (TickBoundaryRePush s t) = pushable s := by
  simp only [TickBoundaryRePush]
  split_ifs
  · exact DoPush_pushable _ t
  · rfl
  · exact DoPush_pushable _ t
  · rfl

/-- What the end of a tick did: the boundary was stepped in a session with the same countdown, and
    nothing behind it matters. -/
structure Stepped (s s' : Session) (t : TickInput) (s₁ : Session) : Prop where
  before : Still s s₁
  after : Still (TickBoundaryRePush s₁ t) s'
  pushable : pushable s' = pushable s₁
  transform : s'.transform = s₁.transform

theorem lastBlock_pushable (s : Session) (t : TickInput) :
    pushable (lastBlock s t) = pushable s ∧ (lastBlock s t).transform = s.transform := by
  unfold lastBlock
  split
  · exact ⟨rfl, rfl⟩
  · exact ⟨rfl, rfl⟩

theorem CalibrationTick_stepped {s : Session} {t : TickInput} (h : ReachesEnd s t) :
    ∃ s₁, Stepped s (CalibrationTick s t) t s₁ := by
  have hleads : Leads (tick t s) (Moves t True s) (Ends t True s) :=
    tick_leads t s fun _ => trivial
  unfold ReachesEnd at h
  unfold CalibrationTick
  cases htick : tick t s with
  | error s' =>
    rw [htick] at h
    cases h
  | ok s' =>
    rw [htick] at hleads
    obtain ⟨s₁, hmoves, hstate, rfl⟩ := hleads
    have hlast := lastBlock_pushable (TickBoundaryRePush s₁ t) t
    have hstate' : (TickBoundaryRePush s₁ t).state = .Continuous ∨
        (TickBoundaryRePush s₁ t).state = .Translation := by
      rw [TickBoundaryRePush_state]
      exact hstate
    have hlastMoves : Moves t True (TickBoundaryRePush s₁ t)
        (lastBlock (TickBoundaryRePush s₁ t) t) := lastBlock_moves t .refl hstate'
    refine ⟨s₁, .moves hmoves, .moves hlastMoves, ?_, ?_⟩
    · exact hlast.1.trans (TickBoundaryRePush_pushable s₁ t)
    · exact hlast.2.trans (congrArg View.transform (TickBoundaryRePush_view s₁ t))

/-- **Held**: the countdown does not move where the boundary is not pushable. -/
theorem TickBoundaryRePush_held {s : Session} (h : pushable s = false) (t : TickInput) :
    (TickBoundaryRePush s t).rePush.g_startupPushPending = s.rePush.g_startupPushPending := by
  have hrearmed : rearmed s = s.rePush := by
    rw [rearmed, h, Bool.false_and, if_neg Bool.false_ne_true]
  have hcount : StepStartupCountdown false s.rePush.g_startupPushPending =
      (s.rePush.g_startupPushPending, false) := by
    unfold StepStartupCountdown
    split_ifs with hzero hfalse
    · rw [hzero]
    · rfl
    · exact (hfalse rfl).elim
  simp only [TickBoundaryRePush, h, hrearmed, hcount, Bool.false_eq_true, if_false, true_or,
    if_true]

theorem rearmed_pending {s : Session} (h : pushable s = true) :
    (rearmed s).g_startupPushPending = left s := by
  rw [rearmed, left, h, Bool.true_and]
  cases s.rePush.g_prevPushable
  · rfl
  · rfl

/-- Before its last step the countdown only counts. -/
theorem TickBoundaryRePush_counts {s : Session} (h : pushable s = true) {n : ℕ}
    (hleft : left s = n + 2) (t : TickInput) :
    left (TickBoundaryRePush s t) = n + 1 ∧ (TickBoundaryRePush s t).trace = s.trace := by
  have hcount : StepStartupCountdown true (n + 2) = (n + 1, false) := by
    simp [StepStartupCountdown]
  simp only [TickBoundaryRePush, h, rearmed_pending h, hleft, hcount, Bool.false_eq_true, if_false,
    Nat.zero_lt_succ, or_true, if_true]
  exact ⟨rfl, trivial⟩

/-- At its last step it pushes. -/
theorem TickBoundaryRePush_fires {s : Session} (h : pushable s = true) (hleft : left s = 1)
    {t : TickInput} (hwritten : t.chaperoneWritten = true) :
    (TickBoundaryRePush s t).trace = .pushed s.transform :: s.trace := by
  have hcount : StepStartupCountdown true 1 = (0, true) := by
    simp [StepStartupCountdown]
  have hvertices : s.ctx.boundary.vertices ≠ [] := by
    intro hnil
    rw [pushable, hnil] at h
    simp at h
  simp only [TickBoundaryRePush, h, rearmed_pending h, hleft, hcount, if_true, DoPush,
    if_neg hvertices, hwritten]
  rfl

/-! ## One tick of the countdown -/

theorem left_of_rePush {s s' : Session} (h : s'.rePush = s.rePush) : left s' = left s := by
  rw [left, left, h]

/-- A tick that returns early does not count. -/
theorem tick_waits {s : Session} {t : TickInput} (h : ¬ ReachesEnd s t) :
    left (CalibrationTick s t) = left s ∧ ¬ PushesAt s t := by
  have hstill := CalibrationTick_still h
  refine ⟨left_of_rePush hstill.rePush, ?_⟩
  rw [PushesAt, hstill.pushes]
  exact lt_irrefl _

theorem tick_counts {s : Session} {t : TickInput} (h : ReachesEnd s t)
    (hpushable : pushable (CalibrationTick s t) = true) {n : ℕ} (hleft : left s = n + 2) :
    left (CalibrationTick s t) = n + 1 ∧ ¬ PushesAt s t := by
  obtain ⟨s₁, hs₁⟩ := CalibrationTick_stepped h
  have hcount := TickBoundaryRePush_counts (hs₁.pushable.symm.trans hpushable)
    ((left_of_rePush hs₁.before.rePush).trans hleft) t
  refine ⟨(left_of_rePush hs₁.after.rePush).trans hcount.1, ?_⟩
  rw [PushesAt, hs₁.after.pushes, hcount.2, hs₁.before.pushes]
  exact lt_irrefl _

theorem tick_fires {s : Session} {t : TickInput} (h : ReachesEnd s t)
    (hpushable : pushable (CalibrationTick s t) = true) (hleft : left s = 1)
    (hwritten : t.chaperoneWritten = true) : PushesAt s t := by
  obtain ⟨s₁, hs₁⟩ := CalibrationTick_stepped h
  have hfires := TickBoundaryRePush_fires (hs₁.pushable.symm.trans hpushable)
    ((left_of_rePush hs₁.before.rePush).trans hleft) hwritten
  rw [PushesAt, hs₁.after.pushes, hfires, hs₁.transform, List.count_cons_self,
    hs₁.before.pushes]
  exact Nat.lt_succ_self _

/-- **The countdown is not consumed** by a tick that leaves the boundary not pushable. -/
theorem tick_holds {s : Session} {t : TickInput}
    (hpushable : pushable (CalibrationTick s t) = false) :
    (CalibrationTick s t).rePush.g_startupPushPending = s.rePush.g_startupPushPending := by
  by_cases h : ReachesEnd s t
  · obtain ⟨s₁, hs₁⟩ := CalibrationTick_stepped h
    have hheld := TickBoundaryRePush_held (hs₁.pushable.symm.trans hpushable) t
    rw [hs₁.after.rePush, hheld, hs₁.before.rePush]
  · rw [(CalibrationTick_still h).rePush]

/-! ## Runs of the countdown -/

theorem isOk_toNat_of_reaches {s : Session} {t : TickInput} (h : ReachesEnd s t) :
    (tick t s).isOk.toNat = 1 := by
  rw [show (tick t s).isOk = true from h]
  rfl

theorem isOk_toNat_of_not_reaches {s : Session} {t : TickInput} (h : ¬ ReachesEnd s t) :
    (tick t s).isOk.toNat = 0 := by
  rw [Bool.eq_false_iff.2 h]
  rfl

/-- The push comes when enough ticks have come to their end. -/
theorem somePush_iff {s : Session} {ts : List TickInput} {n : ℕ} (hleft : left s = n + 1)
    (hpushable : Always tickStep (pushable · = true) s ts)
    (hwritten : ∀ t ∈ ts, t.chaperoneWritten = true) :
    SomePush s ts ↔ n + 1 ≤ reached s ts := by
  induction ts generalizing s n with
  | nil => simp [SomePush, reached]
  | cons t ts ih =>
    have hrest := hpushable.2 _ rfl
    have hwritten' : ∀ t' ∈ ts, t'.chaperoneWritten = true :=
      fun t' ht' => hwritten t' (List.mem_cons_of_mem t ht')
    rw [SomePush, reached]
    by_cases h : ReachesEnd s t
    · rw [isOk_toNat_of_reaches h]
      cases n with
      | zero =>
        have hfires := tick_fires h hrest.head hleft (hwritten t (List.mem_cons_self ..))
        exact ⟨fun _ => by omega, fun _ => .inl hfires⟩
      | succ n =>
        obtain ⟨hleft', hnone⟩ := tick_counts h hrest.head hleft
        rw [or_iff_right hnone, ih hleft' hrest hwritten']
        omega
    · obtain ⟨hleft', hnone⟩ := tick_waits h
      rw [isOk_toNat_of_not_reaches h, Nat.zero_add, or_iff_right hnone]
      exact ih (hleft'.trans hleft) hrest hwritten'

theorem gates_eq (s : Session) (t : TickInput) : gates s t = .ok s ∨ gates s t = .error s := by
  have hleads := gates_leads t s
  cases h : gates s t with
  | error s' =>
    rw [h] at hleads
    exact .inr (congrArg _ hleads)
  | ok s' =>
    rw [h] at hleads
    exact .inl (congrArg _ hleads)

/-- A tick that comes to its end is executed. -/
theorem ReachesEnd.executed {s : Session} {t : TickInput} (h : ReachesEnd s t) : Executed s t := by
  rcases gates_eq s t with hgates | hgates
  · exact hgates
  · rw [ReachesEnd, tick, hgates] at h
    cases h

theorem isOk_toNat_of_executed {s : Session} {t : TickInput} (h : Executed s t) :
    (gates s t).isOk.toNat = 1 := by
  rw [show gates s t = .ok s from h]
  rfl

theorem isOk_toNat_of_not_executed {s : Session} {t : TickInput} (h : ¬ Executed s t) :
    (gates s t).isOk.toNat = 0 := by
  rw [(gates_eq s t).resolve_left h]
  rfl

/-- All executed ticks come to their end, or fewer ticks do than are executed. -/
theorem executed_eq_reached_iff {s : Session} {ts : List TickInput} :
    reached s ts ≤ executed s ts ∧ (reached s ts = executed s ts ↔
      AllSteps tickStep (fun s t => Executed s t → ReachesEnd s t) s ts) := by
  induction ts generalizing s with
  | nil => exact ⟨le_refl 0, fun _ => trivial, fun _ => rfl⟩
  | cons t ts ih =>
    obtain ⟨hle, hiff⟩ := @ih (CalibrationTick s t)
    have hsplit : AllSteps tickStep (fun s t => Executed s t → ReachesEnd s t) s (t :: ts) ↔
        (Executed s t → ReachesEnd s t) ∧
          AllSteps tickStep (fun s t => Executed s t → ReachesEnd s t) (CalibrationTick s t) ts :=
      ⟨fun h => h _ rfl, fun h _ hs => Option.some.inj hs ▸ h⟩
    rw [hsplit, reached, executed, ← hiff]
    by_cases hexec : Executed s t
    · rw [isOk_toNat_of_executed hexec]
      by_cases h : ReachesEnd s t
      · rw [isOk_toNat_of_reaches h]
        exact ⟨by omega, fun heq => ⟨fun _ => h, by omega⟩, fun hboth => by omega⟩
      · rw [isOk_toNat_of_not_reaches h]
        exact ⟨by omega, fun heq => by omega, fun hboth => (h (hboth.1 hexec)).elim⟩
    · rw [isOk_toNat_of_not_reaches fun h => hexec h.executed, isOk_toNat_of_not_executed hexec]
      exact ⟨by simpa using hle, fun heq => ⟨fun h => (hexec h).elim, by simpa using heq⟩,
        fun hboth => by simpa using hboth.2⟩

/-! ## The samples a tick leaves -/

/-- The live samples of the calculation. -/
def Session.samples (s : Session) : ℕ := s.calibration.SampleCount

theorem seedProfile_samples (s : Session) : (seedProfile s).samples = s.samples := by
  unfold seedProfile
  split
  · rfl
  · rfl

theorem StartContinuousCalibration_samples (cause : Cause) (now : ℚ) (s : Session) :
    (StartContinuousCalibration cause now s).samples = 0 := by
  rw [StartContinuousCalibration, seedProfile_samples]
  rfl

theorem RecoverFromWedgedCalibration_samples (cause : Cause) (now : ℚ) (s : Session) :
    (RecoverFromWedgedCalibration cause now s).samples = 0 :=
  StartContinuousCalibration_samples cause now _

theorem ClearHeadMountContinuousSourceState_samples (s : Session) :
    (ClearHeadMountContinuousSourceState s).samples = 0 := by
  rw [ClearHeadMountContinuousSourceState, seedProfile_samples]
  rfl

section Samples

variable (s : Session) (t : TickInput)

theorem relocalization_samples : (TickHmdRelocalizationDetector s t).samples ≤ s.samples := by
  unfold TickHmdRelocalizationDetector
  split
  · rw [RecoverFromWedgedCalibration_samples]
    exact Nat.zero_le _
  · exact le_rfl

theorem watchdog_samples : (geometryShiftWatchdog s t).samples ≤ s.samples := by
  unfold geometryShiftWatchdog
  split_ifs
  · exact le_rfl
  · split
    · exact le_rfl
    · simp only [countError]
      split_ifs
      · exact le_rfl
      · exact le_rfl
      · exact Nat.zero_le _
  · exact le_rfl

theorem sourceGuard_samples : (TickHeadMountSourceTransitionGuard s t).samples ≤ s.samples := by
  unfold TickHeadMountSourceTransitionGuard
  split
  · rw [ClearHeadMountContinuousSourceState_samples]
    exact Nat.zero_le _
  · exact le_rfl

theorem shadowOffset_samples : (TickHeadMountShadowOffsetEstimator s t).samples ≤ s.samples := by
  unfold TickHeadMountShadowOffsetEstimator
  split
  · exact le_rfl
  · split
    · rw [ClearHeadMountContinuousSourceState_samples]
      exact Nat.zero_le _
    · exact le_rfl

theorem pushErrors_samples (errors : List (ℚ × ℚ)) :
    (pushErrors s errors).samples = s.samples := rfl

theorem solve_samples : (solve s t).samples ≤ s.samples := by
  unfold solve
  split_ifs
  · exact le_rfl
  · simp only [pushErrors_samples, RecoverFromWedgedCalibration_samples, Nat.zero_le]
  · exact le_rfl
  · exact le_rfl

theorem publish_samples : (publish s t).samples = s.samples := by
  unfold publish
  split
  · simp only [accept]
    split
    · rfl
    · rfl
  · rfl

theorem DoPush_samples : (DoPush s t).samples = s.samples := by
  simp only [DoPush]
  split_ifs
  · rfl
  · rfl
  · rfl

theorem TickBoundaryRePush_samples : (TickBoundaryRePush s t).samples = s.samples := by
  simp only [TickBoundaryRePush]
  split_ifs
  · exact DoPush_samples _ t
  · rfl
  · exact DoPush_samples _ t
  · rfl

theorem lastBlock_samples :
    (lastBlock s t).samples ≤ s.samples - SampleCount t.dropSpeed / 10 := by
  unfold lastBlock
  split
  · exact Nat.zero_le _
  · exact le_rfl

/-- Where a block goes on, there are not more samples. -/
abbrev Fewer (n : ℕ) (x : Except Session Session) : Prop := Leads x (fun _ => True) (·.samples ≤ n)

theorem hmdStall_samples : Fewer s.samples (hmdStall s t) := by
  unfold hmdStall
  split
  · trivial
  · exact le_rfl

theorem standby_samples : Fewer s.samples (standby s t) := by
  unfold standby
  split_ifs
  · show Session.samples _ ≤ _
    rw [StartContinuousCalibration_samples]
    exact Nat.zero_le _
  · trivial
  · exact le_rfl

theorem idle_samples : Fewer s.samples (idle s t) := by
  unfold idle
  split
  · trivial
  · exact .returnIf (fun _ => trivial) (fun _ => le_rfl)

theorem checkDevices_samples : Fewer s.samples (checkDevices s t) := by
  unfold checkDevices
  simp only
  split_ifs
  · trivial
  · exact le_rfl
  · trivial
  · trivial

theorem liveness_samples : Fewer s.samples (liveness s t) := by
  unfold liveness
  split_ifs
  · exact le_rfl
  · trivial
  · trivial
  · exact le_rfl

theorem CollectSample_samples : Fewer (s.samples + 1) (CollectSample s t) := by
  unfold CollectSample
  split_ifs
  · exact Nat.add_le_add_left (Bool.toNat_le _) _
  · trivial
  · trivial

/-- Only a full buffer goes on, and it is trimmed. -/
theorem fillBuffer_samples : Leads (fillBuffer s t) (fun _ => True)
    (fun s' => SampleCount t.fillSpeed ≤ s.samples ∧ s'.samples ≤ SampleCount t.trimSpeed) := by
  unfold fillBuffer
  split
  · trivial
  · next hfull => exact ⟨not_lt.1 hfull, min_le_right _ _⟩

theorem phases_samples : Fewer s.samples (phases s t) := by
  unfold phases
  split
  · split
    · trivial
    · trivial
  · split
    · exact le_rfl
    · trivial
  · exact le_rfl

/-- **A tick that comes to its end** had a full buffer at its fill check, and it leaves a buffer
    that is trimmed and dropped from. -/
theorem tick_samples : Leads (tick t s) (fun _ => True) (fun s' =>
    SampleCount t.fillSpeed ≤ s.samples + 1 ∧
      s'.samples ≤ SampleCount t.trimSpeed - SampleCount t.dropSpeed / 10) := by
  have hgates : Leads (gates s t) (fun _ => True) (· = s) :=
    (gates_leads t s).mono (fun _ _ => trivial) (fun _ h => h)
  refine hgates.bind fun s' hs' => ?_
  subst hs'
  have hwatched := (watchdog_samples (TickHmdRelocalizationDetector s' t) t).trans
    (relocalization_samples s' t)
  refine (hmdStall_samples _ t).bind fun s₁ h₁ => ?_
  refine (standby_samples s₁ t).bind fun s₂ h₂ => ?_
  refine (idle_samples s₂ t).bind fun s₃ h₃ => ?_
  refine (checkDevices_samples s₃ t).bind fun s₄ h₄ => ?_
  refine (liveness_samples s₄ t).bind fun s₅ h₅ => ?_
  have hsource := (shadowOffset_samples (TickHeadMountSourceTransitionGuard s₅ t) t).trans
    (sourceGuard_samples s₅ t)
  refine (CollectSample_samples _ t).bind fun s₆ h₆ => ?_
  refine (fillBuffer_samples s₆ t).bind fun s₇ h₇ => ?_
  refine (phases_samples s₇ t).bind fun s₈ h₈ => ?_
  have hwait : Leads (triggerWait s₈ t) (fun _ => True) (· = s₈) :=
    .returnIf (fun _ => trivial) (fun _ => rfl)
  refine hwait.bind fun s₉ h₉ => ?_
  subst h₉
  have hbefore : s₆.samples ≤ s'.samples + 1 :=
    h₆.trans (Nat.add_le_add_right (hsource.trans (h₅.trans (h₄.trans (h₃.trans (h₂.trans
      (h₁.trans hwatched)))))) 1)
  have hbehind : (atEnd t s₉).samples ≤ s₉.samples - SampleCount t.dropSpeed / 10 := by
    refine (lastBlock_samples _ t).trans (Nat.sub_le_sub_right ?_ _)
    rw [TickBoundaryRePush_samples, publish_samples]
    exact solve_samples s₉ t
  exact ⟨h₇.1.trans hbefore, hbehind.trans (Nat.sub_le_sub_right (h₈.trans h₇.2) _)⟩

end Samples

/-! ## A tick that nothing stops -/

/-- Nothing stops the tick behind the standby check: a calibration that solves is running, its
    devices are present and track, nothing clears its samples, and they are enough. -/
structure Ready (s : Session) (t : TickInput) : Prop where
  running : s.state = .Continuous ∨ s.state = .Translation
  present : t.referencePresent = true ∧ t.targetPresent = true
  anchor : s.state = .Continuous → t.anchorOffline = false ∧
    (t.anchorReturned && !(t.lockRelativePosition && s.ctx.relativePosCalibrated)) = false
  sameSource : s.state = .Continuous → t.sourceReset = false
  noOffset : s.state = .Continuous → s.ctx.validProfile = true → t.shadowOffset = none
  tracking : t.posesTracking = true
  full : SampleCount t.fillSpeed ≤ s.samples + t.sampleKept.toNat
  diverse : s.state = .Translation → t.translationDiverse = true
  noWait : s.state = .Continuous → (s.ctx.requireTriggerPressToApply &&
    s.hasAppliedCalibrationResult && t.triggerReleased) = false

/-- Nothing stops the tick behind its gates: neither a recovery nor the watchdog is due, the headset
    moved, and the rest is ready. -/
structure Unhindered (s : Session) (t : TickInput) : Prop extends Ready s t where
  noRecovery : s.state = .Continuous → t.relocalized = false
  noSpikeRun : ¬ ∃ p, CompletesSpikeRun s t p
  moved : t.hmdPos ≠ .Zero ∧ s.prev ≠ t.hmdPos

/-- What the blocks leave alone that clear no samples. -/
structure Same (s s' : Session) : Prop where
  ctx : s'.ctx = s.ctx
  applied : s'.hasAppliedCalibrationResult = s.hasAppliedCalibrationResult
  samples : s'.samples = s.samples

theorem Same.state {s s' : Session} (h : Same s s') : s'.state = s.state :=
  congrArg CalibrationContext.state h.ctx

theorem Ready.congr {s s' : Session} {t : TickInput} (h : Same s s') :
    Ready s' t ↔ Ready s t := by
  have hstate := h.state
  obtain ⟨hctx, happlied, hsamples⟩ := h
  constructor
  · rintro ⟨h₁, h₂, h₃, h₄, h₅, h₆, h₇, h₈, h₉⟩
    rw [hstate] at h₁ h₃ h₄ h₅ h₈ h₉
    rw [hctx] at h₃ h₅ h₉
    rw [hsamples] at h₇
    rw [happlied] at h₉
    exact ⟨h₁, h₂, h₃, h₄, h₅, h₆, h₇, h₈, h₉⟩
  · rintro ⟨h₁, h₂, h₃, h₄, h₅, h₆, h₇, h₈, h₉⟩
    rw [← hstate] at h₁ h₃ h₄ h₅ h₈ h₉
    rw [← hctx] at h₃ h₅ h₉
    rw [← hsamples] at h₇
    rw [← happlied] at h₉
    exact ⟨h₁, h₂, h₃, h₄, h₅, h₆, h₇, h₈, h₉⟩

theorem thirty_le_SampleCount (v : Speed) : 30 ≤ SampleCount v := by
  cases v <;> decide

/-- A buffer that was cleared is not full. -/
theorem not_ready_of_cleared {s : Session} (hcleared : s.samples = 0) (t : TickInput) :
    ¬ Ready s t := by
  intro h
  have hfull := h.full
  have henough := thirty_le_SampleCount t.fillSpeed
  have hkept := Bool.toNat_le t.sampleKept
  omega

/-- The blocks behind the standby check. -/
def behindStandby (t : TickInput) (s : Session) : Except Session Session := do
  let s ← idle s t
  let s ← checkDevices s t
  let s ← liveness s t
  let s := TickHeadMountShadowOffsetEstimator (TickHeadMountSourceTransitionGuard s t) t
  let s ← CollectSample s t
  let s ← fillBuffer s t
  let s ← phases s t
  let s ← triggerWait s t
  .ok (atEnd t s)

section Blocks

variable (s : Session) (t : TickInput)

theorem idle_passes : Leads (idle s t) (fun _ => True)
    (fun s' => s' = s ∧ s.state ≠ .None ∧ s.state ≠ .Editing) := by
  unfold idle
  split
  · trivial
  · next hnone =>
    refine .returnIf (fun _ => trivial) fun hediting => ⟨rfl, hnone, ?_⟩
    simpa using hediting

theorem checkDevices_passes : Leads (checkDevices s t) (fun _ => True)
    (fun s' => s' = s ∧ s.state ≠ .Begin ∧ t.referencePresent = true ∧
      t.targetPresent = true) := by
  unfold checkDevices
  simp only
  split_ifs with hbegin hok
  · trivial
  · simp only [Bool.and_eq_true] at hok
    exact ⟨rfl, fun hstate => hbegin ⟨hstate, by simpa using hok⟩, hok.1.1, hok.1.2⟩
  · trivial
  · trivial

theorem liveness_passes : Leads (liveness s t) (fun _ => True)
    (fun s' => s' = s ∧ (s.state = .Continuous → t.anchorOffline = false ∧
      (t.anchorReturned && !(t.lockRelativePosition && s.ctx.relativePosCalibrated)) = false)) := by
  unfold liveness
  split_ifs with hother hoffline hreturned
  · exact ⟨rfl, fun hstate => absurd hstate hother⟩
  · trivial
  · trivial
  · exact ⟨rfl, fun _ => ⟨by simpa using hoffline, by simpa using hreturned⟩⟩

/-- The two blocks of the head mount clear the samples, or neither was due. -/
theorem headMount_cases :
    let s' := TickHeadMountShadowOffsetEstimator (TickHeadMountSourceTransitionGuard s t) t
    s'.samples = 0 ∨ s' = s ∧ (s.state = .Continuous → t.sourceReset = false) ∧
      (s.state = .Continuous → s.ctx.validProfile = true → t.shadowOffset = none) := by
  intro s'
  by_cases hreset : (t.sourceReset && InContinuousFamily s.state) = true
  · left
    have hcleared : (TickHeadMountSourceTransitionGuard s t).samples = 0 := by
      rw [TickHeadMountSourceTransitionGuard, if_pos hreset,
        ClearHeadMountContinuousSourceState_samples]
    exact Nat.le_zero.1 ((shadowOffset_samples _ t).trans hcleared.le)
  · have hguard : TickHeadMountSourceTransitionGuard s t = s := if_neg hreset
    have hsource : s.state = .Continuous → t.sourceReset = false := fun hstate => by
      simpa [InContinuousFamily, hstate] using hreset
    have hs' : s' = TickHeadMountShadowOffsetEstimator s t :=
      congrArg (TickHeadMountShadowOffsetEstimator · t) hguard
    rw [hs']
    unfold TickHeadMountShadowOffsetEstimator
    cases hoffset : t.shadowOffset with
    | none => exact .inr ⟨rfl, hsource, fun _ _ => rfl⟩
    | some candidate =>
      simp only
      split_ifs with happlies
      · exact .inl (ClearHeadMountContinuousSourceState_samples _)
      · exact .inr ⟨rfl, hsource, fun hstate hvalid => absurd ⟨hstate, hvalid⟩ happlies⟩

/-- What goes on behind the sample has a full buffer, is diverse and does not wait. -/
theorem sampled_passes :
    Leads (do
      let s ← CollectSample s t
      let s ← fillBuffer s t
      let s ← phases s t
      let s ← triggerWait s t
      .ok (atEnd t s)) (fun _ => True) (fun _ => s.state ≠ .Rotation ∧ t.posesTracking = true ∧
        SampleCount t.fillSpeed ≤ s.samples + t.sampleKept.toNat ∧
        (s.state = .Translation → t.translationDiverse = true) ∧
        (s.state = .Continuous → (s.ctx.requireTriggerPressToApply &&
          s.hasAppliedCalibrationResult && t.triggerReleased) = false)) := by
  have hcollect : Leads (CollectSample s t) (fun _ => True) (fun s' => t.posesTracking = true ∧
      s'.ctx = s.ctx ∧ s'.hasAppliedCalibrationResult = s.hasAppliedCalibrationResult ∧
      s'.samples = s.samples + t.sampleKept.toNat) := by
    unfold CollectSample
    split_ifs with htracking
    · exact ⟨htracking, rfl, rfl, rfl⟩
    · trivial
    · trivial
  refine hcollect.bind fun s₁ ⟨htracking, hctx, happlied, hsamples⟩ => ?_
  have hfill : Leads (fillBuffer s₁ t) (fun _ => True) (fun s' =>
      SampleCount t.fillSpeed ≤ s₁.samples ∧ s'.ctx = s₁.ctx ∧
        s'.hasAppliedCalibrationResult = s₁.hasAppliedCalibrationResult) := by
    unfold fillBuffer
    split
    · trivial
    · next hfull => exact ⟨not_lt.1 hfull, rfl, rfl⟩
  refine hfill.bind fun s₂ ⟨hfull, hctx₂, happlied₂⟩ => ?_
  have hphases : Leads (phases s₂ t) (fun _ => True) (fun s' => s' = s₂ ∧
      s₂.state ≠ .Rotation ∧ (s₂.state = .Translation → t.translationDiverse = true)) := by
    unfold phases
    split
    · split
      · trivial
      · trivial
    · next hstate =>
      split
      · next hdiverse => exact ⟨rfl, by rw [hstate]; decide, fun _ => hdiverse⟩
      · trivial
    · next hrotation htranslation => exact ⟨rfl, hrotation, fun h => absurd h htranslation⟩
  refine hphases.bind fun s₃ ⟨hs₃, hrotation, hdiverse⟩ => ?_
  subst hs₃
  have hwait : Leads (triggerWait s₃ t) (fun _ => True) (fun _ =>
      (s₃.state = .Continuous && s₃.ctx.requireTriggerPressToApply &&
        s₃.hasAppliedCalibrationResult && t.triggerReleased) = false) :=
    .returnIf (fun _ => trivial) (fun h => h)
  refine hwait.bind fun s₄ hnoWait => ?_
  have hstate : s₃.state = s.state := congrArg CalibrationContext.state (hctx₂.trans hctx)
  rw [hstate, hctx₂, hctx, happlied₂, happlied] at hnoWait
  rw [hstate] at hrotation hdiverse
  rw [hsamples] at hfull
  refine ⟨hrotation, htracking, hfull, hdiverse, fun hcontinuous => ?_⟩
  simpa [hcontinuous] using hnoWait

/-- What gets behind the standby check to the end was ready. -/
theorem behindStandby_passes (hstandby : s.state ≠ .ContinuousStandby) :
    Leads (behindStandby t s) (fun _ => True) (fun _ => Ready s t) := by
  refine (idle_passes s t).bind fun s₁ ⟨hs₁, hnone, hediting⟩ => ?_
  subst hs₁
  refine (checkDevices_passes s₁ t).bind fun s₂ ⟨hs₂, hbegin, hpresent⟩ => ?_
  subst hs₂
  refine (liveness_passes s₂ t).bind fun s₃ ⟨hs₃, hanchor⟩ => ?_
  subst hs₃
  refine (sampled_passes _ t).mono (fun _ h => h) ?_
  rintro _ ⟨hrotation, htracking, hfull, hdiverse, hnoWait⟩
  rcases headMount_cases s₃ t with hcleared | ⟨hsame, hsource, hoffset⟩
  · have henough := thirty_le_SampleCount t.fillSpeed
    have hkept := Bool.toNat_le t.sampleKept
    omega
  · rw [hsame] at hrotation hfull hdiverse hnoWait
    have hrunning : s₃.state = .Continuous ∨ s₃.state = .Translation := by
      cases hstate : s₃.state with
      | Continuous => exact .inl rfl
      | Translation => exact .inr rfl
      | None => exact absurd hstate hnone
      | Begin => exact absurd hstate hbegin
      | Rotation => exact absurd hstate hrotation
      | Editing => exact absurd hstate hediting
      | ContinuousStandby => exact absurd hstate hstandby
    exact ⟨hrunning, hpresent, hanchor, hsource, hoffset, htracking, hfull, hdiverse, hnoWait⟩

/-- **The tick behind its gates**: what comes to its end was not hindered. -/
theorem afterWatchdog_passes : Leads (afterWatchdog t s) (fun _ => True)
    (fun _ => (t.hmdPos ≠ .Zero ∧ s.prev ≠ t.hmdPos) ∧ Ready s t) := by
  have hstall : Leads (hmdStall { s with timeLastTick := t.time } t) (fun _ => True)
      (fun s' => (t.hmdPos ≠ .Zero ∧ s.prev ≠ t.hmdPos) ∧ Same s s') := by
    unfold hmdStall
    split
    · trivial
    · next hmoved => exact ⟨not_or.1 hmoved, rfl, rfl, rfl⟩
  refine hstall.bind fun s₁ ⟨hmoved, hsame⟩ => ?_
  have hstandby : Leads (standby s₁ t) (fun _ => True)
      (fun s' => s'.samples = 0 ∧ s'.state = .Continuous ∨
        s₁.state ≠ .ContinuousStandby ∧ s' = s₁) := by
    unfold standby
    split_ifs with hstate
    · exact .inl ⟨StartContinuousCalibration_samples .., StartContinuousCalibration_state ..⟩
    · trivial
    · exact .inr ⟨hstate, rfl⟩
  refine hstandby.bind fun s₂ hs₂ => ?_
  rcases hs₂ with ⟨hcleared, hstate⟩ | ⟨hstate, rfl⟩
  · refine (behindStandby_passes s₂ t (by rw [hstate]; decide)).mono (fun _ h => h) ?_
    exact fun _ hready => absurd hready (not_ready_of_cleared hcleared t)
  · refine (behindStandby_passes s₂ t hstate).mono (fun _ h => h) ?_
    exact fun _ hready => ⟨hmoved, (Ready.congr hsame).1 hready⟩

/-- A watchdog that finds no complete spike run only counts. -/
theorem watchdog_counts (h : ¬ ∃ p, CompletesSpikeRun s t p) :
    ∃ ts n, geometryShiftWatchdog s t =
      { s with s_lastErrorTs := ts, g_geomShiftConsecutiveBadTicks := n } := by
  unfold geometryShiftWatchdog
  split
  · exact ⟨_, _, rfl⟩
  · next hgrace =>
    split
    · next hready =>
      cases hfresh : freshError? s with
      | none => exact ⟨_, _, rfl⟩
      | some p =>
        simp only [countError]
        split_ifs with hcount hsup
        · exact ⟨_, _, rfl⟩
        · exact ⟨_, _, rfl⟩
        · refine (h ⟨p, ?_⟩).elim
          exact ⟨by simpa using hgrace, hready.1, hready.2, hfresh, by simpa using hcount,
            by simpa using hsup⟩
    · exact ⟨_, _, rfl⟩

/-- The recovery and the watchdog clear the samples, or neither was due. -/
theorem watched_cases :
    let s' := geometryShiftWatchdog (TickHmdRelocalizationDetector s t) t
    s'.samples = 0 ∨ (Same s s' ∧ s'.prev = s.prev) ∧
      (s.state = .Continuous → t.relocalized = false) ∧ ¬ ∃ p, CompletesSpikeRun s t p := by
  intro s'
  by_cases hrecover : (t.relocalized && InContinuousFamily s.state) = true
  · left
    have hcleared : (TickHmdRelocalizationDetector s t).samples = 0 := by
      rw [TickHmdRelocalizationDetector, if_pos hrecover, RecoverFromWedgedCalibration_samples]
    exact Nat.le_zero.1 ((watchdog_samples _ t).trans hcleared.le)
  · have hsame : TickHmdRelocalizationDetector s t = s := if_neg hrecover
    by_cases hspike : ∃ p, CompletesSpikeRun s t p
    · left
      obtain ⟨p, hp⟩ := hspike
      obtain ⟨s'', -, hdemote⟩ := hp.demotes
      show (geometryShiftWatchdog (TickHmdRelocalizationDetector s t) t).samples = 0
      rw [hsame, hdemote]
      rfl
    · right
      obtain ⟨ts, n, hcounts⟩ := watchdog_counts s t hspike
      have heq : s' = { s with s_lastErrorTs := ts, g_geomShiftConsecutiveBadTicks := n } := by
        show geometryShiftWatchdog (TickHmdRelocalizationDetector s t) t = _
        rw [hsame, hcounts]
      rw [heq]
      refine ⟨⟨⟨rfl, rfl, rfl⟩, rfl⟩, fun hstate => ?_, hspike⟩
      simpa [InContinuousFamily, hstate] using hrecover

/-- A tick that comes to its end was not hindered. -/
theorem tick_passes : Leads (tick t s) (fun _ => True) (fun _ => Unhindered s t) := by
  have hgates : Leads (gates s t) (fun _ => True) (· = s) :=
    (gates_leads t s).mono (fun _ _ => trivial) (fun _ h => h)
  refine hgates.bind fun s' hs' => ?_
  subst hs'
  refine (afterWatchdog_passes _ t).mono (fun _ h => h) fun _ ⟨hmoved, hready⟩ => ?_
  rcases watched_cases s' t with hcleared | ⟨⟨hsame, hprev⟩, hrecovery, hspike⟩
  · exact absurd hready (not_ready_of_cleared hcleared t)
  · rw [hprev] at hmoved
    exact ⟨(Ready.congr hsame).1 hready, hrecovery, hspike, hmoved⟩

/-! ### What is ready passes the blocks -/

section Passes

variable {s : Session} {t : TickInput} (h : Ready s t)

include h

theorem Ready.idle : idle s t = .ok s := by
  have hnone : s.state ≠ .None := by
    rcases h.running with hstate | hstate <;> rw [hstate] <;> decide
  have hediting : s.state ≠ .Editing := by
    rcases h.running with hstate | hstate <;> rw [hstate] <;> decide
  rw [Tick.idle, if_neg hnone, returnIf, if_neg (by simpa using hediting)]

theorem Ready.checkDevices : checkDevices s t = .ok s := by
  have hbegin : s.state ≠ .Begin := by
    rcases h.running with hstate | hstate <;> rw [hstate] <;> decide
  simp [Tick.checkDevices, h.present.1, h.present.2, hbegin]

theorem Ready.liveness : liveness s t = .ok s := by
  by_cases hstate : s.state = .Continuous
  · obtain ⟨hoffline, hreturned⟩ := h.anchor hstate
    rw [Tick.liveness, if_neg (by simpa using hstate), if_neg (by simp [hoffline]),
      if_neg (by rw [hreturned]; exact Bool.false_ne_true)]
  · rw [Tick.liveness, if_pos hstate]

/-- The samples stay, whatever the source and the offset. -/
theorem Ready.keepsSamples : TickHeadMountShadowOffsetEstimator
    (TickHeadMountSourceTransitionGuard s t) t = s := by
  have hsource : TickHeadMountSourceTransitionGuard s t = s := by
    refine if_neg ?_
    rcases h.running with hstate | hstate
    · simp [h.sameSource hstate]
    · simp [InContinuousFamily, hstate]
  rw [hsource]
  unfold TickHeadMountShadowOffsetEstimator
  cases happlies : t.shadowOffset with
  | none => rfl
  | some candidate =>
    refine if_neg fun hboth => ?_
    rw [h.noOffset hboth.1 hboth.2] at happlies
    cases happlies

theorem Ready.phases {s' : Session} (hsame : s'.state = s.state) : phases s' t = .ok s' := by
  unfold Tick.phases
  rw [hsame]
  rcases h.running with hstate | hstate
  · rw [hstate]
  · rw [hstate]
    exact if_pos (h.diverse hstate)

theorem Ready.triggerWait {s' : Session} (hctx : s'.ctx = s.ctx)
    (happlied : s'.hasAppliedCalibrationResult = s.hasAppliedCalibrationResult) :
    triggerWait s' t = .ok s' := by
  refine if_neg ?_
  have hsame : s'.state = s.state := congrArg CalibrationContext.state hctx
  rw [hsame, hctx, happlied]
  by_cases hstate : s.state = .Continuous
  · have hnone := h.noWait hstate
    rw [decide_eq_true hstate, Bool.true_and, hnone]
    exact Bool.false_ne_true
  · simp [hstate]

/-- What is ready gets behind the standby check to the end. -/
theorem behindStandby_of_ready : (behindStandby t s).isOk = true := by
  let s₁ : Session := { s with calibration :=
    { s.calibration with SampleCount := s.calibration.SampleCount + t.sampleKept.toNat } }
  have hcollect : CollectSample s t = .ok s₁ := if_pos h.tracking
  let s₂ : Session := { s₁ with calibration :=
    { s₁.calibration with
      SampleCount := min s₁.calibration.SampleCount (SampleCount t.trimSpeed) } }
  have hfill : fillBuffer s₁ t = .ok s₂ := if_neg (not_lt.2 h.full)
  have hphases : Tick.phases s₂ t = .ok s₂ := h.phases rfl
  have hwait : Tick.triggerWait s₂ t = .ok s₂ := h.triggerWait rfl rfl
  have hends : behindStandby t s = .ok (atEnd t s₂) := by
    simp only [behindStandby, h.idle, h.checkDevices, h.liveness, h.keepsSamples, hcollect, hfill,
      hphases, hwait, bind, Except.bind]
  rw [hends]
  rfl

end Passes

/-- **When a tick comes to its end**: it gets past its gates, and nothing behind them stops it. -/
theorem reachesEnd_iff {s : Session} {t : TickInput} :
    ReachesEnd s t ↔ Executed s t ∧ Unhindered s t := by
  constructor
  · intro h
    refine ⟨h.executed, ?_⟩
    have hpasses := tick_passes s t
    unfold ReachesEnd at h
    cases htick : tick t s with
    | error s' =>
      rw [htick] at h
      cases h
    | ok s' =>
      rw [htick] at hpasses
      exact hpasses
  · rintro ⟨hexecuted, h⟩
    have hrecover : TickHmdRelocalizationDetector s t = s := by
      refine if_neg ?_
      rcases h.running with hstate | hstate
      · simp [h.noRecovery hstate]
      · simp [InContinuousFamily, hstate]
    obtain ⟨ts, n, hcounts⟩ := watchdog_counts s t h.noSpikeRun
    let s₁ : Session := { s with
      s_lastErrorTs := ts
      g_geomShiftConsecutiveBadTicks := n
      timeLastTick := t.time
      prev := narrow t.hmdPos }
    have hstall : hmdStall { geometryShiftWatchdog s t with timeLastTick := t.time } t = .ok s₁ := by
      rw [hcounts]
      exact if_neg (not_or.2 h.moved)
    have hstandby : standby s₁ t = .ok s₁ := by
      refine if_neg ?_
      show s.state ≠ .ContinuousStandby
      rcases h.running with hstate | hstate <;> rw [hstate] <;> decide
    have htick : tick t s = behindStandby t s₁ := by
      simp only [tick, show gates s t = .ok s from hexecuted, hrecover, afterWatchdog, hstall,
        hstandby, bind, Except.bind]
      rfl
    have hsame : Same s s₁ := ⟨rfl, rfl, rfl⟩
    have hready : Ready s₁ t := (Ready.congr hsame).2 h.toReady
    rw [ReachesEnd, htick]
    exact behindStandby_of_ready hready

end Blocks

/-! ## Runs at one speed -/

theorem ReachesEnd.samples {s : Session} {t : TickInput} (h : ReachesEnd s t) :
    SampleCount t.fillSpeed ≤ s.samples + 1 ∧ (CalibrationTick s t).samples ≤
      SampleCount t.trimSpeed - SampleCount t.dropSpeed / 10 := by
  have hsamples := tick_samples s t
  unfold ReachesEnd at h
  unfold CalibrationTick
  cases htick : tick t s with
  | error s' =>
    rw [htick] at h
    cases h
  | ok s' =>
    rw [htick] at hsamples
    exact hsamples

theorem CalibrationTick_of_not_executed {s : Session} {t : TickInput} (h : ¬ Executed s t) :
    CalibrationTick s t = s := by
  rw [CalibrationTick, tick, (gates_eq s t).resolve_left h]
  rfl

/-- At one speed at most every second executed tick comes to its end; the first does not where the
    buffer is short by more than one sample. -/
theorem reached_le {s : Session} {ts : List TickInput} {v : Speed}
    (hsteady : ∀ t ∈ ts, t.fillSpeed = v ∧ t.trimSpeed = v ∧ t.dropSpeed = v) :
    2 * reached s ts ≤ executed s ts + 1 ∧
      (s.samples + 1 < SampleCount v → 2 * reached s ts ≤ executed s ts) := by
  induction ts generalizing s with
  | nil => simp [reached, executed]
  | cons t ts ih =>
    obtain ⟨hhead, htail⟩ := List.forall_mem_cons.1 hsteady
    obtain ⟨hle, hshort⟩ := @ih (CalibrationTick s t) htail
    rw [reached, executed]
    by_cases h : ReachesEnd s t
    · have hsamples := h.samples
      rw [hhead.1, hhead.2.1, hhead.2.2] at hsamples
      have hnext : (CalibrationTick s t).samples + 1 < SampleCount v := by
        cases v <;> simp only [SampleCount] at hsamples ⊢ <;> omega
      have hrest := hshort hnext
      rw [isOk_toNat_of_reaches h, isOk_toNat_of_executed h.executed]
      exact ⟨by omega, by omega⟩
    · rw [isOk_toNat_of_not_reaches h]
      by_cases hexec : Executed s t
      · rw [isOk_toNat_of_executed hexec]
        exact ⟨by omega, by omega⟩
      · rw [isOk_toNat_of_not_executed hexec]
        rw [CalibrationTick_of_not_executed hexec] at hle hshort ⊢
        simpa using ⟨hle, hshort⟩

/-- **At a speed that stays** a push takes twice as long, whatever state the calibration is in. -/
theorem steady_speed_starves {s : Session} {ts : List TickInput} {v : Speed} (harmed : Armed s)
    (hpushable : Always tickStep (pushable · = true) s ts)
    (hwritten : ∀ t ∈ ts, t.chaperoneWritten = true)
    (hsteady : ∀ t ∈ ts, t.fillSpeed = v ∧ t.trimSpeed = v ∧ t.dropSpeed = v)
    (hpush : SomePush s ts) : 2 * kStartupGraceTicks ≤ executed s ts + 1 := by
  have henough := (somePush_iff harmed hpushable hwritten).1 hpush
  have hle := (reached_le hsteady (s := s)).1
  rw [kStartupGraceTicks]
  omega

/-! ## The push -/

/-- **The start-up push.**  While the boundary stays pushable and its writes succeed, a run of 30
    executed ticks behind the arming pushes if and only if none of them is hindered; at a speed that
    stays it never does.  In any session a tick that leaves the boundary not pushable holds the
    countdown. -/
theorem startup_push_iff (s : Session) (ts : List TickInput) (harmed : Armed s)
    (hpushable : Always tickStep (pushable · = true) s ts)
    (hwritten : ∀ t ∈ ts, t.chaperoneWritten = true)
    (hexecuted : executed s ts = kStartupGraceTicks) :
    (SomePush s ts ↔ AllSteps tickStep (fun s t => Executed s t → Unhindered s t) s ts) ∧
      (∀ v, (∀ t ∈ ts, t.fillSpeed = v ∧ t.trimSpeed = v ∧ t.dropSpeed = v) → ¬ SomePush s ts) ∧
      ∀ s t, pushable (CalibrationTick s t) = false →
        (CalibrationTick s t).rePush.g_startupPushPending = s.rePush.g_startupPushPending := by
  refine ⟨?_, fun v hsteady hpush => ?_, fun _ _ => tick_holds⟩
  · obtain ⟨hle, hiff⟩ := @executed_eq_reached_iff s ts
    have hunhindered : ∀ (s : Session) (t : TickInput),
        (Executed s t → ReachesEnd s t) ↔ (Executed s t → Unhindered s t) := fun s t => by
      rw [reachesEnd_iff]
      exact ⟨fun h hexec => (h hexec).2, fun h hexec => ⟨hexec, h hexec⟩⟩
    rw [somePush_iff harmed hpushable hwritten, ← AllSteps.congr fun s t _ _ => hunhindered s t,
      ← hiff, hexecuted]
    rw [hexecuted] at hle
    exact ⟨fun h => le_antisymm hle h, fun h => h.ge⟩
  · have hstarves := steady_speed_starves harmed hpushable hwritten hsteady hpush
    rw [hexecuted, kStartupGraceTicks] at hstarves
    omega

/-! ## A boundary that waits -/

instance decidableSomePush : (s : Session) → (ts : List TickInput) → Decidable (SomePush s ts)
  | _, [] => isFalse id
  | s, t :: ts =>
    have := decidableSomePush (CalibrationTick s t) ts
    inferInstanceAs (Decidable (_ ∨ _))

/-- A loaded profile with an enabled boundary. -/
def boundaryContext : CalibrationContext :=
  { loadedContext with boundary :=
    { loadedContext.boundary with
      enabled := true
      vertices := [⟨0, 0, 0⟩, ⟨2, 0, 0⟩, ⟨0, 0, 2⟩] } }

/-- The push is scheduled at the start of the program. -/
def scheduled : Session := ScheduleBoundaryStartupPush (launched boundaryContext false)

/-- **No push without a calibration.**  Everything tracks in 30 ticks, the headset moves in each of
    them, and the boundary stays pushable; in `None` the countdown does not move. -/
theorem idleBoundary_starves :
    let ts := (List.range' 1 30).map trackedTick
    Armed scheduled ∧ Always tickStep (pushable · = true) scheduled ts ∧
      (∀ t ∈ ts, t.chaperoneWritten = true) ∧ (ts.map TickInput.hmdPos).Nodup ∧
      executed scheduled ts = kStartupGraceTicks ∧
      ¬ SomePush scheduled ts := by
  decide +kernel

/-- A tick with 30 samples to fill, 200 to trim to and 30 to drop a tenth of. -/
def swingingTick (k : ℕ) : TickInput := { trackedTick k with trimSpeed := .VERY_SLOW }

/-- A continuous calibration whose buffer is full at the slowest speed. -/
def slowlyFilled : Session :=
  { StartContinuousCalibration .user 0 scheduled with calibration := ⟨true, 200⟩ }

/-- A speed that swings with every tick never waits for samples: the last of 30 ticks pushes.  At
    one speed the same session does not. -/
theorem swingingSpeed_pushes :
    (SomePush slowlyFilled ((List.range' 1 30).map swingingTick) ∧
      AllSteps tickStep (fun s t => Executed s t → Unhindered s t) slowlyFilled
        ((List.range' 1 30).map swingingTick)) ∧
      ¬ SomePush slowlyFilled ((List.range' 1 30).map trackedTick) := by
  constructor
  · have hpush : SomePush slowlyFilled ((List.range' 1 30).map swingingTick) := by
      decide +kernel
    exact ⟨hpush, (startup_push_iff _ _ (by decide +kernel) (by decide +kernel)
      (by decide +kernel) (by decide +kernel)).1.1 hpush⟩
  · refine (startup_push_iff slowlyFilled ((List.range' 1 30).map trackedTick) (by decide +kernel)
      (by decide +kernel) (by decide +kernel) (by decide +kernel)).2.1 .FAST fun t ht => ?_
    obtain ⟨k, -, rfl⟩ := List.mem_map.1 ht
    exact ⟨rfl, rfl, rfl⟩

end WKPairDriver.Calibration.Tick
