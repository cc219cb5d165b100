import Mathlib
import WKPairDriver.Lib.Run
import WKPairDriver.Phantom.DropoutState

/-!
# A frozen tracker is not published as healthy

Runs of the dropout ladder of one tracker: observations and ticks whose times do not go back, and
changes of its configuration.

* `Tracker` — the ladder, with the history the rule speaks about: the last healthy pose, and
  whether an unhealthy one has since been noted in its place.
* `step_inv` — until then, the ladder counts from the last healthy pose.
* `frozenTracker_down` — a tick `synth_hold_ms` after the last healthy pose is out of range or lost,
  and publishes accordingly, unless it finds a blend-in going on.
* `frozenTracker_exceptions` — what the conditions leave out.
-/

set_option autoImplicit false

namespace WKPairDriver.Phantom

open Lib

/-- The ladder of a tracker, the time of the last call, and history. -/
structure Tracker where
  ladder : DropoutState
  clock : ℤ
  /-- The time of the last healthy pose. -/
  healthy : Option ℤ
  /-- An unhealthy pose has been noted since, while no dropout was going on. -/
  refreshed : Bool

inductive Action where
  | setTimings (t : LadderTimings)
  | setPhantomConfig (c : PhantomConfig)
  | setIkAvailable (v : Bool)
  | observe (qpc_ns : ℤ) (pose : DriverPose)
  | tick (qpc_ns : ℤ)

namespace Tracker

def new : Tracker := ⟨.new, 0, none, false⟩

variable (s : Tracker)

def setLadder (ladder : DropoutState) : Tracker := { s with ladder := ladder }

def observe (qpc_ns : ℤ) (pose : DriverPose) : Tracker where
  ladder := s.ladder.onRealPoseObserved qpc_ns pose
  clock := qpc_ns
  healthy := if pose.healthy then some qpc_ns else s.healthy
  refreshed :=
    if pose.healthy then false
    else s.refreshed || decide (s.ladder.state = .REAL ∨ s.ladder.state = .BLEND_IN)

def tick (qpc_ns freq : ℤ) : Tracker :=
  { s with ladder := s.ladder.tick qpc_ns freq, clock := qpc_ns }

/-- The performance counter starts at 0 and does not go back. -/
def step (freq : ℤ) (s : Tracker) : Action → Option Tracker
  | .setTimings t => some (s.setLadder (s.ladder.setTimings t))
  | .setPhantomConfig c => some (s.setLadder (s.ladder.setTimings c.timings))
  | .setIkAvailable v => some (s.setLadder (s.ladder.setIkAvailable v))
  | .observe qpc_ns pose => if s.clock ≤ qpc_ns then some (s.observe qpc_ns pose) else none
  | .tick qpc_ns => if s.clock ≤ qpc_ns then some (s.tick qpc_ns freq) else none

/-- What a tick has to decide for a frozen tracker: it is down, and goes out as out of range or not
    at all. -/
structure Silenced : Prop where
  isDown : s.ladder.IsDown
  override : s.ladder.state = .OUT_OF_RANGE →
    s.ladder.tracking_result_override = .Running_OutOfRange
  lost : s.ladder.state = .LOST → s.ladder.should_publish = false
  published : ∀ projected last_published result,
    s.ladder.publishedResult projected last_published result = none ∨
      s.ladder.publishedResult projected last_published result = some .Running_OutOfRange

variable {s}

theorem Silenced.of_isDown (h : s.ladder.IsDown) : s.Silenced where
  isDown := h
  override h := if_pos h
  lost h := by simp [DropoutState.should_publish, h]
  published := h.published

/-! ## The invariant -/

/-- The ladder counts from the last healthy pose. -/
structure CountsFrom (d : DropoutState) (healthy : ℤ) : Prop where
  last_real : ¬ d.InDropout → d.last_real_qpc_ns = healthy
  dropout_start : d.InDropout → d.IsDown ∨ d.dropout_start_qpc_ns = healthy

structure Inv (s : Tracker) : Prop where
  clock : 0 ≤ s.clock
  healthy : ∀ h ∈ s.healthy, 0 ≤ h ∧ h ≤ s.clock
  counts : s.refreshed = false → ∀ h ∈ s.healthy, CountsFrom s.ladder h

theorem Inv.new : Inv Tracker.new where
  clock := le_rfl
  healthy := fun h hh => by cases hh
  counts := fun _ h hh => by cases hh

/-- A setter changes nothing that the invariant is about. -/
theorem Inv.setLadder (hs : Inv s) {ladder : DropoutState} (hstate : ladder.state = s.ladder.state)
    (hlast : ladder.last_real_qpc_ns = s.ladder.last_real_qpc_ns)
    (hstart : ladder.dropout_start_qpc_ns = s.ladder.dropout_start_qpc_ns) :
    Inv (s.setLadder ladder) := by
  refine ⟨hs.clock, hs.healthy, fun hrefreshed h hh => ?_⟩
  have hcounts := hs.counts hrefreshed h hh
  constructor
  · intro hdrop
    simp only [DropoutState.InDropout, Tracker.setLadder, hstate] at hdrop
    exact hlast.trans (hcounts.last_real hdrop)
  · intro hdrop
    simp only [DropoutState.InDropout, Tracker.setLadder, hstate] at hdrop
    simp only [DropoutState.IsDown, Tracker.setLadder, hstate, hstart]
    exact hcounts.dropout_start hdrop

/-- A healthy pose ends a dropout, and is the last real one. -/
theorem observed_healthy (d : DropoutState) (qpc_ns : ℤ) {pose : DriverPose}
    (hpose : pose.healthy = true) : CountsFrom (d.onRealPoseObserved qpc_ns pose) qpc_ns := by
  unfold DropoutState.onRealPoseObserved
  simp only [hpose, if_true]
  constructor <;> split <;> simp_all [DropoutState.InDropout, DropoutState.enterBlendIn]

/-- An unhealthy pose changes no more than the last real one. -/
theorem observed_unhealthy (d : DropoutState) (qpc_ns : ℤ) {pose : DriverPose}
    (hpose : pose.healthy = false) :
    d.onRealPoseObserved qpc_ns pose = { d with last_real_qpc_ns := qpc_ns } := by
  simp [DropoutState.onRealPoseObserved, hpose]

theorem Inv.observe (hs : Inv s) {qpc_ns : ℤ} (hclock : s.clock ≤ qpc_ns) (pose : DriverPose) :
    Inv (s.observe qpc_ns pose) := by
  cases hpose : pose.healthy with
  | true =>
    refine ⟨hs.clock.trans hclock, ?_, fun _ => ?_⟩
    · simp only [Tracker.observe, hpose, if_true, Option.mem_some_iff]
      rintro h rfl
      exact ⟨hs.clock.trans hclock, le_rfl⟩
    · simp only [Tracker.observe, hpose, if_true, Option.mem_some_iff]
      rintro h rfl
      exact observed_healthy s.ladder qpc_ns hpose
  | false =>
    refine ⟨hs.clock.trans hclock, ?_, ?_⟩
    · simp only [Tracker.observe, hpose, Bool.false_eq_true, if_false]
      exact fun h hh => ⟨(hs.healthy h hh).1, (hs.healthy h hh).2.trans hclock⟩
    · simp only [Tracker.observe, hpose, Bool.false_eq_true, if_false, Bool.or_eq_false_iff,
        decide_eq_false_iff_not, observed_unhealthy _ _ hpose]
      rintro ⟨hrefreshed, hstate⟩ h hh
      -- in a dropout the last real pose does not matter
      have hdrop : s.ladder.InDropout := not_or.1 hstate
      refine ⟨fun h' => absurd hdrop h', fun _ => ?_⟩
      exact (hs.counts hrefreshed h hh).dropout_start hdrop

/-- A tick keeps counting from the same pose. -/
theorem CountsFrom.tick {d : DropoutState} {healthy : ℤ} (hd : CountsFrom d healthy)
    (qpc_ns freq : ℤ) : CountsFrom (d.tick qpc_ns freq) healthy := by
  by_cases hdrop : d.InDropout
  · rw [DropoutState.tick_of_inDropout hdrop]
    have hesc : DropoutState.Moves d (d.escalate qpc_ns freq) := DropoutState.escalate_moves
    refine ⟨fun h => absurd (hesc.inDropout hdrop) h, fun _ => ?_⟩
    exact (hd.dropout_start hdrop).imp hesc.isDown hesc.dropout_start.trans
  · have hlast := hd.last_real hdrop
    by_cases hreal : d.state = .REAL
    · rw [DropoutState.tick_of_real hreal]
      split
      · have hesc : DropoutState.Moves d.detected (d.detected.escalate qpc_ns freq) :=
          DropoutState.escalate_moves
        refine ⟨fun h => absurd (hesc.inDropout DropoutState.detected_inDropout) h, fun _ => ?_⟩
        exact .inr (hesc.dropout_start.trans hlast)
      · exact hd
    · have hblend : d.state = .BLEND_IN := by
        by_contra hne
        exact hdrop ⟨hreal, hne⟩
      obtain ⟨hstays, hsame⟩ := DropoutState.tick_of_blendIn hblend
      exact ⟨fun _ => hsame.trans hlast, fun h => absurd h hstays⟩

theorem Inv.tick (hs : Inv s) {qpc_ns : ℤ} (hclock : s.clock ≤ qpc_ns) (freq : ℤ) :
    Inv (s.tick qpc_ns freq) :=
  ⟨hs.clock.trans hclock, fun h hh => ⟨(hs.healthy h hh).1, (hs.healthy h hh).2.trans hclock⟩,
    fun hrefreshed h hh => (hs.counts hrefreshed h hh).tick qpc_ns freq⟩

theorem step_inv {freq : ℤ} {a : Action} {t : Tracker} (hs : Inv s) (hstep : step freq s a = some t) :
    Inv t := by
  cases a with
  | setTimings timings =>
    cases hstep
    exact hs.setLadder rfl rfl rfl
  | setPhantomConfig c =>
    cases hstep
    exact hs.setLadder rfl rfl rfl
  | setIkAvailable v =>
    cases hstep
    exact hs.setLadder rfl rfl rfl
  | observe qpc_ns pose =>
    obtain ⟨hclock, ht⟩ := Option.ite_none_right_eq_some.1 hstep
    cases ht
    exact hs.observe hclock pose
  | tick qpc_ns =>
    obtain ⟨hclock, ht⟩ := Option.ite_none_right_eq_some.1 hstep
    cases ht
    exact hs.tick hclock freq

theorem runTo_inv {freq : ℤ} {as : List Action} (hrun : runTo (step freq) Tracker.new as = some s) :
    Inv s := by
  have halways : Always (step freq) Inv Tracker.new as :=
    Always.of_inv' (fun _ _ _ hs hstep => step_inv hs hstep) (fun _ hs => hs) Inv.new
  exact halways.runTo hrun

/-! ## The rule -/

/-- **A frozen tracker is not published as healthy.**  A tick that comes `synth_hold_ms`, and the
    time of a silence, after the last healthy pose leaves the tracker out of range or lost, if no
    unhealthy pose was noted in between while no dropout was going on, and it does not find a
    blend-in going on. -/
theorem frozenTracker_down {freq : ℤ} (hfreq : 0 < freq) {as : List Action} {t : Tracker}
    {now healthy : ℤ} (hrun : runTo (step freq) Tracker.new as = some s)
    (htick : step freq s (.tick now) = some t) (hhealthy : s.healthy = some healthy)
    (hfits : (now - healthy) * 1000 < 2 ^ 63)
    (hsynth : s.ladder.timings.synth_hold_ms ≤ (now - healthy) * 1000 / freq)
    (hsilence : s.ladder.timings.dropout_silence_ms ≤ (now - healthy) * 1000 / freq)
    (hrefreshed : s.refreshed = false) (hblend : s.ladder.state ≠ .BLEND_IN) : t.Silenced := by
  have hs := runTo_inv hrun
  obtain ⟨hclock, ht⟩ := Option.ite_none_right_eq_some.1 htick
  cases ht
  obtain ⟨hnonneg, hle⟩ := hs.healthy healthy hhealthy
  have hcounts := hs.counts hrefreshed healthy hhealthy
  have hage : qpcMs (now - healthy) freq = (now - healthy) * 1000 / freq :=
    qpcMs_of_lt hfreq (by omega) hfits
  apply Silenced.of_isDown
  show (s.ladder.tick now freq).IsDown
  by_cases hdrop : s.ladder.InDropout
  · rw [DropoutState.tick_of_inDropout hdrop]
    rcases hcounts.dropout_start hdrop with hdown | hstart
    · exact DropoutState.escalate_moves.isDown hdown
    · apply DropoutState.escalate_past_synth_hold (hstart ▸ hnonneg) hdrop
      rwa [hstart, hage]
  · have hreal : s.ladder.state = .REAL := by
      by_contra hne
      exact hdrop ⟨hne, hblend⟩
    have hlast := hcounts.last_real hdrop
    have hms : s.ladder.silence_ms now freq = (now - healthy) * 1000 / freq := by
      rw [DropoutState.silence_ms, hlast, if_neg (not_lt.2 hnonneg), hage]
    rw [DropoutState.tick_of_real hreal, if_pos ⟨hlast ▸ hnonneg, hms ▸ hsilence⟩]
    apply DropoutState.escalate_past_synth_hold _ DropoutState.detected_inDropout
    · show (s.ladder.timings.synth_hold_ms : ℤ) ≤ qpcMs (now - s.ladder.last_real_qpc_ns) freq
      rwa [hlast, hage]
    · show 0 ≤ s.ladder.last_real_qpc_ns
      rw [hlast]
      exact hnonneg

def healthyPose : DriverPose := ⟨.Running_OK, true, true⟩

def unhealthyPose : DriverPose := ⟨.Running_OutOfRange, true, true⟩

/-- A healthy pose, then two seconds of silence, at 10 MHz. -/
theorem twoSeconds_down :
    ∃ s t, runTo (step 10000000) Tracker.new [.observe 0 healthyPose] = some s ∧
      step 10000000 s (.tick 20000000) = some t ∧ t.Silenced := by
  obtain ⟨s, hs⟩ : ∃ s, s = Tracker.new.observe 0 healthyPose := ⟨_, rfl⟩
  have hrun : runTo (step 10000000) Tracker.new [.observe 0 healthyPose] = some s := hs ▸ rfl
  have htick : step 10000000 s (.tick 20000000) = some (s.tick 20000000 10000000) := hs ▸ rfl
  have hhealthy : s.healthy = some 0 := hs ▸ rfl
  refine ⟨s, _, hrun, htick,
    frozenTracker_down (by decide) hrun htick hhealthy (by decide) ?_ ?_ ?_ ?_⟩
  all_goals subst hs
  all_goals decide

/-! ## What the conditions leave out -/

/-- A tick with a healthy pose `synth_hold_ms` behind it that still claims healthy tracking. -/
def ClaimsHealthy (freq : ℤ) (as : List Action) (now : ℤ) : Prop :=
  ∃ s t healthy, runTo (step freq) Tracker.new as = some s ∧ step freq s (.tick now) = some t ∧
    s.healthy = some healthy ∧
    (s.ladder.timings.synth_hold_ms : ℤ) ≤ (now - healthy) * 1000 / freq ∧
    ¬ (t.ladder.tracking_result_override ≠ .Running_OK ∧ t.ladder.IsDown)

/-- Milliseconds at 10 MHz. -/
def ms (n : ℤ) : ℤ := n * 10000

/-- `synth_hold_ms` of silence and more, at 10 MHz: a lost tracker, whose override nobody
    publishes; an unhealthy pose noted in `REAL`, or in `BLEND_IN`; a late tick in `BLEND_IN`; a
    `synth_hold_ms` shorter than a silence; and a time that does not fit. -/
theorem frozenTracker_exceptions :
    ClaimsHealthy 10000000 [.observe 0 healthyPose] (ms 5000) ∧
      ClaimsHealthy 10000000 [.observe 0 healthyPose, .observe (ms 1990) unhealthyPose]
        (ms 2000) ∧
      ClaimsHealthy 10000000
        [.observe 0 healthyPose, .tick (ms 100), .observe (ms 110) healthyPose,
          .observe (ms 200) unhealthyPose, .tick (ms 300)] (ms 2120) ∧
      ClaimsHealthy 10000000
        [.observe 0 healthyPose, .tick (ms 100), .observe (ms 110) healthyPose] (ms 3000) ∧
      ClaimsHealthy 10000000
        [.setPhantomConfig ⟨80, 150, 250, 20, 5000⟩, .observe 0 healthyPose] (ms 30) ∧
      ClaimsHealthy 10000000 [.observe 0 healthyPose] 9223372036854776 := by
  refine ⟨?_, ?_, ?_, ?_, ?_, ?_⟩ <;>
    exact ⟨_, _, _, rfl, rfl, rfl, by decide, by decide⟩

end Tracker

end WKPairDriver.Phantom
