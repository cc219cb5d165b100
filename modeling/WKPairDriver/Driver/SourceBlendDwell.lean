import Mathlib
import WKPairDriver.Driver.SourceBlend

/-!
# How long the blend dwells

The synthesized pose comes back only after it has been there for `stableBeforeSynthMs`, and is
published alone only after `blendToSynthMs` more.  Without it the hold ends at the first call that
finds `graceHoldMs` over, which starts the blend to the fallback, and the blend ends at the first
call that finds `blendToFallbackMs` over.

* `available_cases`, `unavailable_cases` — what a call does to the phase and its timers.
* `TimerInv` — each timer is the time of a call of the stretch it measures.
* `sourceBlend_dwell` — every run; the durations are those `StepSourceBlend` clamps to.
* `lateTick_longStable` — a late call still publishes the synthesized pose, and a duration above
  the clamp is cut.
-/

set_option autoImplicit false

namespace WKPairDriver.Driver.SourceBlend

open HeadMount

universe u v
variable {P : Type v} {timing : DriverSynthTimingConfig} {s : SourceBlendState P}

/-! ## What a call does -/

/-- The phases in which the fallback is published, alone or in a blend. -/
def InFallback (phase : SourceBlendPhase) : Prop :=
  phase = .BlendingToFallback ∨ phase = .FallbackStable ∨ phase = .WaitingForStableSynth

/-- Since when there has been a synthesized pose, at a call with one. -/
def since (s : SourceBlendState P) (now : ℤ) : ℤ :=
  if !s.hasStableSynthSince then now else s.stableSynthSince

/-- What a call with a synthesized pose does to the phase and the timers. -/
inductive AvailableMove (timing : DriverSynthTimingConfig) (fallbackPose : P)
    (s : SourceBlendState P) (now : ℤ) (s' : SourceBlendState P) (out : P) : Prop
  | synth (hfrom : s.phase = .SynthStable ∨ s.phase = .GraceHold) (hto : s'.phase = .SynthStable)
      (hsince : s'.stableSynthSince = now)
  | stillToFallback (hfrom : s.phase = .BlendingToFallback) (hto : s'.phase = .BlendingToFallback)
      (hstart : s'.phaseStartedAt = s.phaseStartedAt) (hsince : s'.stableSynthSince = since s now)
  | fallback (hfrom : s.phase = .BlendingToFallback) (hto : s'.phase = .FallbackStable)
      (hout : out = fallbackPose) (hsince : s'.stableSynthSince = since s now)
  | waits (hfrom : InFallback s.phase) (hto : s'.phase = .WaitingForStableSynth)
      (hsince : s'.stableSynthSince = since s now)
  | startsToSynth (hfrom : InFallback s.phase)
      (hready : since s now + timing.stableBeforeSynthMs * 10 ^ 6 ≤ now)
      (hto : s'.phase = .BlendingToSynth) (hstart : s'.phaseStartedAt = now)
      (hsince : s'.stableSynthSince = since s now)
  | atOnceSynth (hfrom : InFallback s.phase)
      (hready : since s now + timing.stableBeforeSynthMs * 10 ^ 6 ≤ now)
      (hto : s'.phase = .SynthStable) (hzero : timing.blendToSynthMs ≤ 0)
      (hsince : s'.stableSynthSince = since s now)
  | stillToSynth (hfrom : s.phase = .BlendingToSynth) (hto : s'.phase = .BlendingToSynth)
      (hstart : s'.phaseStartedAt = s.phaseStartedAt) (hsince : s'.stableSynthSince = since s now)
  | endsToSynth (hfrom : s.phase = .BlendingToSynth) (hto : s'.phase = .SynthStable)
      (hdone : s.phaseStartedAt + timing.blendToSynthMs * 10 ^ 6 ≤ now)
      (hsince : s'.stableSynthSince = since s now)

/-- What a call without a synthesized pose does. -/
inductive UnavailableMove (timing : DriverSynthTimingConfig) (fallbackPose : P)
    (s : SourceBlendState P) (now : ℤ) (s' : SourceBlendState P) (out : P) : Prop
  | entersGrace (hfrom : s.phase = .SynthStable) (hto : s'.phase = .GraceHold)
      (hstart : s'.phaseStartedAt = now) (hgoes : 0 < timing.graceHoldMs)
  | stillGrace (hfrom : s.phase = .GraceHold) (hto : s'.phase = .GraceHold)
      (hstart : s'.phaseStartedAt = s.phaseStartedAt)
      (hgoes : now - s.phaseStartedAt < timing.graceHoldMs * 10 ^ 6)
  | startsToFallback (hfrom : s.phase ≠ .BlendingToFallback) (hne : s.phase ≠ .FallbackStable)
      (hto : s'.phase = .BlendingToFallback) (hstart : s'.phaseStartedAt = now)
      (hgoes : 0 < timing.blendToFallbackMs)
  | stillToFallback (hfrom : s.phase = .BlendingToFallback) (hto : s'.phase = .BlendingToFallback)
      (hstart : s'.phaseStartedAt = s.phaseStartedAt)
      (hgoes : now - s.phaseStartedAt < timing.blendToFallbackMs * 10 ^ 6)
  | fallback (hto : s'.phase = .FallbackStable) (hout : out = fallbackPose)

/-! ## Invariant -/

/-- The calls from `k` up to, and without, `n` all have a synthesized pose. -/
def AvailableFrom (ticks : ℕ → Tick P) (k n : ℕ) : Prop :=
  ∀ j, k ≤ j → j < n → (ticks j).synth ≠ none

/-- The calls from `k` up to, and without, `n` all have none. -/
def UnavailableFrom (ticks : ℕ → Tick P) (k n : ℕ) : Prop :=
  ∀ j, k ≤ j → j < n → (ticks j).synth = none

theorem AvailableFrom.succ {ticks : ℕ → Tick P} {k n : ℕ} (h : AvailableFrom ticks k n)
    (hn : (ticks n).synth ≠ none) : AvailableFrom ticks k (n + 1) := by
  intro j hk hj
  rcases Nat.lt_succ_iff_lt_or_eq.1 hj with hlt | rfl
  · exact h j hk hlt
  · exact hn

theorem availableFrom_self (ticks : ℕ → Tick P) (n : ℕ) : AvailableFrom ticks n n :=
  fun _ hk hj => absurd hk (not_le.2 hj)

/-- The timers after the calls before `n`. -/
structure TimerInv (timing : DriverSynthTimingConfig) (ticks : ℕ → Tick P) (n : ℕ)
    (s : SourceBlendState P) : Prop where
  fresh : s.phase ≠ .Uninitialized
  since : s.hasStableSynthSince = true →
    ∃ k, k < n ∧ s.stableSynthSince = (ticks k).now ∧ AvailableFrom ticks k n
  synthStable : s.phase = .SynthStable → (ticks (n - 1)).synth ≠ none
  -- the hold starts at the call after the last one with a synthesized pose
  grace : s.phase = .GraceHold → ∃ f, 0 < f ∧ f < n ∧ (ticks (f - 1)).synth ≠ none ∧
    s.phaseStartedAt = (ticks f).now ∧
      (ticks (n - 1)).now - s.phaseStartedAt < timing.graceHoldMs * 10 ^ 6
  toFallback : s.phase = .BlendingToFallback → ∃ b, b < n ∧ s.phaseStartedAt = (ticks b).now
  toSynth : s.phase = .BlendingToSynth → ∃ k b, k ≤ b ∧ b < n ∧
    s.phaseStartedAt = (ticks b).now ∧
      (ticks k).now + timing.stableBeforeSynthMs * 10 ^ 6 ≤ (ticks b).now ∧
        AvailableFrom ticks k n

section Step

variable {ticks : ℕ → Tick P} {n : ℕ}

/-- At a call with a synthesized pose, the stretch with one began at an earlier call or now. -/
theorem TimerInv.stretch (hs : TimerInv timing ticks n s) (hn : (ticks n).synth ≠ none) :
    ∃ k, k ≤ n ∧ SourceBlend.since s (ticks n).now = (ticks k).now ∧
      AvailableFrom ticks k (n + 1) := by
  unfold SourceBlend.since
  cases hhas : s.hasStableSynthSince with
  | false => exact ⟨n, le_rfl, rfl, (availableFrom_self ticks n).succ hn⟩
  | true =>
    obtain ⟨k, hk, hsince, havail⟩ := hs.since hhas
    exact ⟨k, hk.le, hsince, havail.succ hn⟩

theorem TimerInv.available (hs : TimerInv timing ticks n s) (hn : (ticks n).synth ≠ none)
    {s' : SourceBlendState P} {out : P}
    (hr : AvailableMove timing (ticks n).fallbackPose s (ticks n).now s' out) :
    TimerInv timing ticks (n + 1) s' := by
  obtain ⟨k, hk, hsince, havail⟩ := hs.stretch hn
  cases hr with
  | synth hfrom hto hnow =>
    refine ⟨by simp [hto], fun _ => ?_, fun _ => hn, by simp [hto], by simp [hto], by simp [hto]⟩
    exact ⟨n, n.lt_succ_self, hnow, (availableFrom_self ticks n).succ hn⟩
  | stillToFallback hfrom hto hstart hold =>
    refine ⟨by simp [hto], fun _ => ?_, by simp [hto], by simp [hto], fun _ => ?_, by simp [hto]⟩
    · exact ⟨k, by omega, hold.trans hsince, havail⟩
    · obtain ⟨b, hb, hb'⟩ := hs.toFallback hfrom
      exact ⟨b, by omega, hstart.trans hb'⟩
  | fallback hfrom hto hout hold =>
    refine ⟨by simp [hto], fun _ => ?_, by simp [hto], by simp [hto], by simp [hto], by simp [hto]⟩
    exact ⟨k, by omega, hold.trans hsince, havail⟩
  | waits hfrom hto hold =>
    refine ⟨by simp [hto], fun _ => ?_, by simp [hto], by simp [hto], by simp [hto], by simp [hto]⟩
    exact ⟨k, by omega, hold.trans hsince, havail⟩
  | startsToSynth hfrom hready hto hstart hold =>
    refine ⟨by simp [hto], fun _ => ?_, by simp [hto], by simp [hto], by simp [hto], fun _ => ?_⟩
    · exact ⟨k, by omega, hold.trans hsince, havail⟩
    · exact ⟨k, n, hk, n.lt_succ_self, hstart, hsince ▸ hready, havail⟩
  | atOnceSynth hfrom hready hto hzero hold =>
    refine ⟨by simp [hto], fun _ => ?_, fun _ => hn, by simp [hto], by simp [hto], by simp [hto]⟩
    exact ⟨k, by omega, hold.trans hsince, havail⟩
  | stillToSynth hfrom hto hstart hold =>
    refine ⟨by simp [hto], fun _ => ?_, by simp [hto], by simp [hto], by simp [hto], fun _ => ?_⟩
    · exact ⟨k, by omega, hold.trans hsince, havail⟩
    · obtain ⟨k', b, hkb, hb, hb', hready, havail'⟩ := hs.toSynth hfrom
      exact ⟨k', b, hkb, by omega, hstart.trans hb', hready, havail'.succ hn⟩
  | endsToSynth hfrom hto hdone hold =>
    refine ⟨by simp [hto], fun _ => ?_, fun _ => hn, by simp [hto], by simp [hto], by simp [hto]⟩
    exact ⟨k, by omega, hold.trans hsince, havail⟩

theorem TimerInv.unavailable (hs : TimerInv timing ticks n s) (h0 : 0 < n)
    {s' : SourceBlendState P} {out : P} (hhas : s'.hasStableSynthSince = false)
    (hr : UnavailableMove timing (ticks n).fallbackPose s (ticks n).now s' out) :
    TimerInv timing ticks (n + 1) s' := by
  have hsince : s'.hasStableSynthSince = true →
      ∃ k, k < n + 1 ∧ s'.stableSynthSince = (ticks k).now ∧ AvailableFrom ticks k (n + 1) := by
    rw [hhas]
    intro h
    cases h
  cases hr with
  | entersGrace hfrom hto hstart hgoes =>
    refine ⟨by simp [hto], hsince, by simp [hto], fun _ => ?_, by simp [hto], by simp [hto]⟩
    refine ⟨n, h0, n.lt_succ_self, hs.synthStable hfrom, hstart, ?_⟩
    rw [hstart, Nat.add_sub_cancel]
    omega
  | stillGrace hfrom hto hstart hgoes =>
    refine ⟨by simp [hto], hsince, by simp [hto], fun _ => ?_, by simp [hto], by simp [hto]⟩
    obtain ⟨f, hf0, hf, havail, hf', -⟩ := hs.grace hfrom
    exact ⟨f, hf0, by omega, havail, hstart.trans hf', by rwa [hstart, Nat.add_sub_cancel]⟩
  | startsToFallback hfrom hne hto hstart hgoes =>
    refine ⟨by simp [hto], hsince, by simp [hto], by simp [hto], fun _ => ?_, by simp [hto]⟩
    exact ⟨n, n.lt_succ_self, hstart⟩
  | stillToFallback hfrom hto hstart hgoes =>
    refine ⟨by simp [hto], hsince, by simp [hto], by simp [hto], fun _ => ?_, by simp [hto]⟩
    obtain ⟨b, hb, hb'⟩ := hs.toFallback hfrom
    exact ⟨b, by omega, hstart.trans hb'⟩
  | fallback hto hout =>
    exact ⟨by simp [hto], hsince, by simp [hto], by simp [hto], by simp [hto], by simp [hto]⟩

end Step

/-! ## One call -/

variable {K : Type u} [Field K] [LinearOrder K] [IsStrictOrderedRing K] {blend : P → P → K → P}
  {fallbackPose synthPose : P} {now : ℤ}

theorem durationAlpha_lt_one {start durationMs : ℤ}
    (h : (durationAlpha start now durationMs : K) < 1) : now - start < durationMs * 10 ^ 6 := by
  have := mt one_le_durationAlpha_iff.2 (not_le.2 h)
  omega

/-- A duration the configuration was clamped to has passed. -/
theorem le_of_one_le_durationAlpha {start durationMs : ℤ} (hle : start ≤ now)
    (h : (1 : K) ≤ durationAlpha start now durationMs) : start + durationMs * 10 ^ 6 ≤ now := by
  have := one_le_durationAlpha_iff.1 h
  omega

/-- A tick of a blend ends it exactly when its duration has passed. -/
theorem blendToFallback_cases (blend : P → P → K → P) (timing : DriverSynthTimingConfig)
    (fallbackPose : P) (now : ℤ) (hphase : s.phase = .BlendingToFallback) :
    let r := s.blendToFallback blend timing fallbackPose now
    r.1.hasStableSynthSince = s.hasStableSynthSince ∧
      r.1.stableSynthSince = s.stableSynthSince ∧
      ((r.1.phase = .BlendingToFallback ∧ r.1.phaseStartedAt = s.phaseStartedAt ∧
          now - s.phaseStartedAt < timing.blendToFallbackMs * 10 ^ 6) ∨
        (r.1.phase = .FallbackStable ∧ r.2.1 = fallbackPose)) := by
  unfold SourceBlendState.blendToFallback
  dsimp only
  split
  · exact ⟨rfl, rfl, .inr ⟨rfl, rfl⟩⟩
  · rename_i hdone
    exact ⟨rfl, rfl, .inl ⟨hphase, rfl, durationAlpha_lt_one (not_le.1 hdone)⟩⟩

theorem blendToSynth_cases (blend : P → P → K → P) (timing : DriverSynthTimingConfig)
    (synthPose : P) (hphase : s.phase = .BlendingToSynth) (hle : s.phaseStartedAt ≤ now) :
    let r := s.blendToSynth blend timing synthPose now
    r.1.hasStableSynthSince = s.hasStableSynthSince ∧
      r.1.stableSynthSince = s.stableSynthSince ∧
      ((r.1.phase = .BlendingToSynth ∧ r.1.phaseStartedAt = s.phaseStartedAt) ∨
        (r.1.phase = .SynthStable ∧
          s.phaseStartedAt + timing.blendToSynthMs * 10 ^ 6 ≤ now)) := by
  unfold SourceBlendState.blendToSynth
  dsimp only
  split
  · rename_i hdone
    exact ⟨rfl, rfl, .inr ⟨rfl, le_of_one_le_durationAlpha hle hdone⟩⟩
  · exact ⟨rfl, rfl, .inl ⟨hphase, rfl⟩⟩

/-- A blend that starts now is over now only if it takes no time. -/
theorem startBlendToSynth_cases (blend : P → P → K → P) (timing : DriverSynthTimingConfig)
    (synthPose : P) (now : ℤ) (hphase : s.phase ≠ .BlendingToSynth) :
    let r := (s.setPhase .BlendingToSynth now).blendToSynth (K := K) blend timing synthPose now
    r.1.hasStableSynthSince = s.hasStableSynthSince ∧
      r.1.stableSynthSince = s.stableSynthSince ∧
      ((r.1.phase = .BlendingToSynth ∧ r.1.phaseStartedAt = now) ∨
        (r.1.phase = .SynthStable ∧ timing.blendToSynthMs ≤ 0)) := by
  have hnow := s.setPhase_phaseStartedAt hphase now
  obtain ⟨hhas, hs, ⟨hto, hstart⟩ | ⟨hto, hdone⟩⟩ :=
    blendToSynth_cases blend timing synthPose (s.setPhase_phase .BlendingToSynth now) hnow.le
  · exact ⟨hhas, hs, .inl ⟨hto, hstart.trans hnow⟩⟩
  · rw [hnow] at hdone
    exact ⟨hhas, hs, .inr ⟨hto, by omega⟩⟩

theorem available_move (hpos : s.phase ≠ .Uninitialized) (hsince : since s now ≤ now)
    (hstart : s.phase = .BlendingToSynth → s.phaseStartedAt ≤ now) :
    let r := s.available blend timing fallbackPose synthPose now
    AvailableMove timing fallbackPose s now (r.1.finish r.2.1) r.2.1 := by
  unfold SourceBlendState.available
  dsimp only
  split
  · rename_i hphase
    exact .synth hphase rfl rfl
  rename_i hphase
  obtain ⟨hstable, hgrace⟩ := not_or.1 hphase
  have hfallback : s.phase ≠ .BlendingToSynth → InFallback s.phase := by
    intro hne
    unfold InFallback
    cases h : s.phase <;> simp_all [SourceBlendState.noteSynth]
  split
  · rename_i hwait
    split
    · rename_i hblend
      obtain ⟨-, hs, ⟨hto, hstart', -⟩ | ⟨hto, hout⟩⟩ := blendToFallback_cases blend timing
        fallbackPose now (s := (s.noteSynth synthPose).stamp now) hblend
      · exact .stillToFallback hblend hto hstart' hs
      · exact .fallback hblend hto hout hs
    · exact .waits (hfallback hwait.2) rfl rfl
  · rename_i hwait
    split
    · rename_i hne
      have hready : since s now + timing.stableBeforeSynthMs * 10 ^ 6 ≤ now := by
        apply le_of_one_le_durationAlpha (K := K) hsince
        apply not_lt.1
        intro hlt
        exact hwait ⟨hlt, hne⟩
      generalize (if ((s.noteSynth synthPose).stamp now).hasCurrentPose = true then
        ((s.noteSynth synthPose).stamp now).currentPose else fallbackPose) = start
      obtain ⟨-, hs, ⟨hto, hstart'⟩ | ⟨hto, hzero⟩⟩ :=
        startBlendToSynth_cases blend timing synthPose now
          (s := ((s.noteSynth synthPose).stamp now).startFrom start) hne
      · exact .startsToSynth (hfallback hne) hready hto hstart' hs
      · exact .atOnceSynth (hfallback hne) hready hto hzero hs
    · rename_i hblend
      have hphase := not_not.1 hblend
      obtain ⟨-, hs, ⟨hto, hstart'⟩ | ⟨hto, hdone⟩⟩ :=
        blendToSynth_cases blend timing synthPose (s := (s.noteSynth synthPose).stamp now) hphase
          (hstart hphase)
      · exact .stillToSynth hphase hto hstart' hs
      · exact .endsToSynth hphase hto hdone hs

/-- A blend to the fallback that starts now, in a state `s'` that a call in `s` went through. -/
theorem startBlendToFallback_move {s' : SourceBlendState P} (hs' : s'.phase ≠ .BlendingToFallback)
    (hnot : s'.hasStableSynthSince = false) (hfrom : s.phase ≠ .BlendingToFallback)
    (hne : s.phase ≠ .FallbackStable) :
    let r := (s'.setPhase .BlendingToFallback now).afterGrace (K := K) blend timing fallbackPose now
    UnavailableMove timing fallbackPose s now (r.1.finish r.2.1) r.2.1 ∧ r.1.hasStableSynthSince = false := by
  have hnow := s'.setPhase_phaseStartedAt hs' now
  rw [SourceBlendState.afterGrace, if_pos (s'.setPhase_phase _ _)]
  obtain ⟨hhas, -, ⟨hto, hstart, hgoes⟩ | ⟨hto, hout⟩⟩ := blendToFallback_cases (K := K) blend
    timing fallbackPose now (s'.setPhase_phase .BlendingToFallback now)
  · rw [hnow] at hgoes
    exact ⟨.startsToFallback hfrom hne hto (hstart.trans hnow) (by omega), hhas.trans hnot⟩
  · exact ⟨.fallback hto hout, hhas.trans hnot⟩

theorem unavailable_move :
    let r := s.unavailable blend timing fallbackPose now
    UnavailableMove timing fallbackPose s now (r.1.finish r.2.1) r.2.1 ∧ r.1.hasStableSynthSince = false := by
  unfold SourceBlendState.unavailable
  dsimp only
  by_cases hstable : s.notStable.phase = .SynthStable
  · -- the dropout begins, and its hold is over at once only if there is none
    have hfrom : s.phase = .SynthStable := hstable
    rw [SourceBlendState.enterGrace, if_pos hstable]
    dsimp only
    generalize (if s.notStable.hasLastGoodSynthPose = true then s.notStable.lastGoodSynthPose
      else s.notStable.currentPose) = start
    have hnow : ((s.notStable.startFrom start).setPhase .GraceHold now).phaseStartedAt = now :=
      SourceBlendState.setPhase_phaseStartedAt _ (by simp [hfrom]) now
    rw [if_pos (SourceBlendState.setPhase_phase _ _ _)]
    split
    · rename_i hlt
      have hgoes := durationAlpha_lt_one hlt
      exact ⟨.entersGrace hfrom rfl hnow (by omega), rfl⟩
    · exact startBlendToFallback_move (by simp) rfl (by simp [hfrom]) (by simp [hfrom])
  · rw [SourceBlendState.enterGrace, if_neg hstable]
    split
    · rename_i hphase
      have hfrom : s.phase = .GraceHold := hphase
      split
      · rename_i hlt
        exact ⟨.stillGrace hfrom hphase rfl (durationAlpha_lt_one hlt), rfl⟩
      · exact startBlendToFallback_move (by simp [hfrom]) rfl (by simp [hfrom]) (by simp [hfrom])
    · split
      · rename_i hphase
        have hfrom : s.phase = .BlendingToSynth ∨ s.phase = .WaitingForStableSynth := hphase
        rcases hfrom with hfrom | hfrom <;>
          exact startBlendToFallback_move (by simp [hfrom]) rfl (by simp [hfrom]) (by simp [hfrom])
      · unfold SourceBlendState.afterGrace
        split
        · rename_i hblend
          obtain ⟨hhas, -, ⟨hto, hstart, hgoes⟩ | ⟨hto, hout⟩⟩ := blendToFallback_cases (K := K)
            blend timing fallbackPose now hblend
          · exact ⟨.stillToFallback hblend hto hstart hgoes, hhas⟩
          · exact ⟨.fallback hto hout, hhas⟩
        · exact ⟨.fallback rfl rfl, rfl⟩

/-! ## Runs -/

section Runs

variable (blend : P → P → K → P) (config : DriverSynthTimingConfig) (zero : P) (ticks : ℕ → Tick P)

/-- A call after the first with a synthesized pose. -/
theorem call_available {n : ℕ} (h0 : 0 < n) (hn : (ticks n).synth ≠ none)
    (htime : Monotone fun n => (ticks n).now)
    (hs : TimerInv (clampDriverSynthTimingConfig config) ticks n (run blend config zero ticks n)) :
    AvailableMove (clampDriverSynthTimingConfig config) (ticks n).fallbackPose
      (run blend config zero ticks n) (ticks n).now (run blend config zero ticks (n + 1))
      (published blend config zero ticks n) := by
  obtain ⟨synth, hsynth⟩ := Option.ne_none_iff_exists'.1 hn
  obtain ⟨k, hk, hsince, -⟩ := hs.stretch hn
  obtain ⟨hstate, hout⟩ := stepSourceBlend_available blend config
    (run_hasCurrentPose blend config zero ticks h0) hsynth
  rw [run_succ, published, call, hstate, hout]
  apply available_move hs.fresh
  · rw [hsince]
    exact htime hk
  · intro hphase
    obtain ⟨-, b, -, hb, hstart, -⟩ := hs.toSynth hphase
    rw [hstart]
    exact htime hb.le

/-- A call after the first without one. -/
theorem call_unavailable {n : ℕ} (h0 : 0 < n) (hn : (ticks n).synth = none) :
    UnavailableMove (clampDriverSynthTimingConfig config) (ticks n).fallbackPose
        (run blend config zero ticks n) (ticks n).now (run blend config zero ticks (n + 1))
        (published blend config zero ticks n) ∧
      (run blend config zero ticks (n + 1)).hasStableSynthSince = false := by
  obtain ⟨hstate, hout⟩ := stepSourceBlend_unavailable blend config
    (run_hasCurrentPose blend config zero ticks h0) hn
  rw [run_succ, published, call, hstate, hout]
  exact unavailable_move

omit [IsStrictOrderedRing K] in
/-- The timers after the first call. -/
theorem timerInv_one (timing : DriverSynthTimingConfig) :
    TimerInv timing ticks 1 (run blend config zero ticks 1) := by
  have hphase : ∀ r : SourceBlendState P × P × K, r = (SourceBlendState.new zero).first
      (ticks 0).fallbackPose (ticks 0).synth (ticks 0).now → TimerInv timing ticks 1 r.1 := by
    intro r hr
    unfold SourceBlendState.first at hr
    split at hr
    · rename_i synth hsynth
      have hn : (ticks 0).synth ≠ none := by simp [hsynth]
      subst hr
      refine ⟨by simp, fun _ => ?_, fun _ => hn, by simp, by simp, by simp⟩
      exact ⟨0, Nat.one_pos, rfl, (availableFrom_self ticks 0).succ hn⟩
    · subst hr
      refine ⟨by simp, fun h => ?_, by simp, by simp, by simp, by simp⟩
      cases h
  have h := hphase _ rfl
  exact ⟨h.fresh, h.since, h.synthStable, h.grace, h.toFallback, h.toSynth⟩

theorem run_timerInv (htime : Monotone fun n => (ticks n).now) {n : ℕ} (h0 : 0 < n) :
    TimerInv (clampDriverSynthTimingConfig config) ticks n (run blend config zero ticks n) := by
  induction n, h0 using Nat.le_induction with
  | base => exact timerInv_one blend config zero ticks _
  | succ n h0 ih =>
    by_cases hn : (ticks n).synth = none
    · obtain ⟨hmove, hnot⟩ := call_unavailable blend config zero ticks h0 hn
      exact ih.unavailable h0 hnot hmove
    · exact ih.available hn (call_available blend config zero ticks h0 hn htime ih)

/-! ## The dwell times -/

/-- What the durations mean for a run; `phase n` is the phase before call `n`, and `out n` what the
    call publishes. -/
structure Dwell (timing : DriverSynthTimingConfig) (ticks : ℕ → Tick P)
    (phase : ℕ → SourceBlendPhase) (out : ℕ → P) : Prop where
  /-- A blend to the synthesized pose starts after `stableBeforeSynthMs` with one. -/
  toSynth : ∀ n, InFallback (phase n) → phase (n + 1) = .BlendingToSynth →
    ∃ k ≤ n, (ticks k).now + timing.stableBeforeSynthMs * 10 ^ 6 ≤ (ticks n).now ∧
      AvailableFrom ticks k (n + 1)
  /-- It ends after `blendToSynthMs` more. -/
  synthStable : ∀ n, InFallback (phase n) ∨ phase n = .BlendingToSynth →
    phase (n + 1) = .SynthStable →
      ∃ k b, k ≤ b ∧ b ≤ n ∧
        (ticks k).now + timing.stableBeforeSynthMs * 10 ^ 6 ≤ (ticks b).now ∧
        (ticks b).now + timing.blendToSynthMs * 10 ^ 6 ≤ (ticks n).now ∧
          AvailableFrom ticks k (n + 1)
  /-- A dropout of `graceHoldMs` ends the hold. -/
  hold : ∀ f n, f ≤ n → UnavailableFrom ticks f (n + 1) →
    (ticks f).now + timing.graceHoldMs * 10 ^ 6 ≤ (ticks n).now → InFallback (phase (n + 1))
  /-- From a call of it that finds the hold over, it takes `blendToFallbackMs` to the fallback. -/
  fallback : ∀ f j n, f ≤ j → j ≤ n → UnavailableFrom ticks f (n + 1) →
    (ticks f).now + timing.graceHoldMs * 10 ^ 6 ≤ (ticks j).now →
      (ticks j).now + timing.blendToFallbackMs * 10 ^ 6 ≤ (ticks n).now →
        phase (n + 1) = .FallbackStable ∧ out n = (ticks n).fallbackPose

variable {ticks} (htime : Monotone fun n => (ticks n).now)

omit [IsStrictOrderedRing K] in
/-- Nothing was published before a run's first call. -/
theorem pos_of_phase {n : ℕ} (h : InFallback (run blend config zero ticks n).phase ∨
    (run blend config zero ticks n).phase = .BlendingToSynth) : 0 < n := by
  apply Nat.pos_of_ne_zero
  rintro rfl
  rcases h with (h | h | h) | h <;> cases h

include htime

theorem toSynth_dwell {n : ℕ} (hfrom : InFallback (run blend config zero ticks n).phase)
    (hto : (run blend config zero ticks (n + 1)).phase = .BlendingToSynth) :
    ∃ k ≤ n, (ticks k).now + (clampDriverSynthTimingConfig config).stableBeforeSynthMs * 10 ^ 6 ≤
        (ticks n).now ∧ AvailableFrom ticks k (n + 1) := by
  have h0 : 0 < n := pos_of_phase blend config zero (.inl hfrom)
  have hs := run_timerInv blend config zero ticks htime h0
  by_cases hn : (ticks n).synth = none
  · obtain ⟨hmove, -⟩ := call_unavailable blend config zero ticks h0 hn
    cases hmove <;> simp_all
  · obtain ⟨k, hk, hsince, havail⟩ := hs.stretch hn
    have hmove := call_available blend config zero ticks h0 hn htime hs
    cases hmove with
    | startsToSynth _ hready _ _ _ =>
      rw [hsince] at hready
      exact ⟨k, hk, hready, havail⟩
    | stillToSynth hfrom' => rcases hfrom with h | h | h <;> simp [h] at hfrom'
    | _ => simp_all

theorem synthStable_dwell {n : ℕ} (hfrom : InFallback (run blend config zero ticks n).phase ∨
    (run blend config zero ticks n).phase = .BlendingToSynth)
    (hto : (run blend config zero ticks (n + 1)).phase = .SynthStable) :
    ∃ k b, k ≤ b ∧ b ≤ n ∧
      (ticks k).now + (clampDriverSynthTimingConfig config).stableBeforeSynthMs * 10 ^ 6 ≤
        (ticks b).now ∧
      (ticks b).now + (clampDriverSynthTimingConfig config).blendToSynthMs * 10 ^ 6 ≤
        (ticks n).now ∧ AvailableFrom ticks k (n + 1) := by
  have h0 : 0 < n := pos_of_phase blend config zero hfrom
  have hs := run_timerInv blend config zero ticks htime h0
  by_cases hn : (ticks n).synth = none
  · obtain ⟨hmove, -⟩ := call_unavailable blend config zero ticks h0 hn
    cases hmove <;> simp_all
  · obtain ⟨k, hk, hsince, havail⟩ := hs.stretch hn
    have hmove := call_available blend config zero ticks h0 hn htime hs
    cases hmove with
    | synth hfrom' =>
      rcases hfrom with (h | h | h) | h <;> simp [h] at hfrom'
    | atOnceSynth _ hready _ hzero _ =>
      rw [hsince] at hready
      exact ⟨k, n, hk, le_rfl, hready, by omega, havail⟩
    | endsToSynth hblend _ hdone _ =>
      obtain ⟨k, b, hkb, hb, hstart, hready, havail⟩ := hs.toSynth hblend
      rw [hstart] at hdone
      exact ⟨k, b, hkb, hb.le, hready, hdone, havail.succ hn⟩
    | _ => simp_all

theorem hold_dwell {f n : ℕ} (hf : f ≤ n) (hun : UnavailableFrom ticks f (n + 1))
    (hgrace : (ticks f).now + (clampDriverSynthTimingConfig config).graceHoldMs * 10 ^ 6 ≤
      (ticks n).now) : InFallback (run blend config zero ticks (n + 1)).phase := by
  have hn : (ticks n).synth = none := hun n hf n.lt_succ_self
  rcases Nat.eq_zero_or_pos n with rfl | h0
  · exact .inr (.inl (run_one_of_unavailable blend config zero ticks hn).1)
  · have hheld : (run blend config zero ticks (n + 1)).phase ≠ .GraceHold := by
      intro hphase
      obtain ⟨g, hg0, hg, havail, hstart, hgoes⟩ :=
        (run_timerInv blend config zero ticks htime n.succ_pos).grace hphase
      -- the hold began with the dropout, so not after `f`
      have hgf : g ≤ f := by
        by_contra hlt
        exact havail (hun (g - 1) (by omega) (by omega))
      have hle := htime hgf
      simp only at hle
      rw [hstart, Nat.succ_sub_one] at hgoes
      omega
    obtain ⟨hmove, -⟩ := call_unavailable blend config zero ticks h0 hn
    cases hmove with
    | startsToFallback _ _ hto => exact .inl hto
    | stillToFallback _ hto => exact .inl hto
    | fallback hto => exact .inr (.inl hto)
    | _ => simp_all

variable (ticks) in
/-- The fallback is published alone, or in a blend that started by call `j`. -/
def OnWay (j n : ℕ) : Prop :=
  (run blend config zero ticks n).phase = .FallbackStable ∨
    ((run blend config zero ticks n).phase = .BlendingToFallback ∧
      (run blend config zero ticks n).phaseStartedAt ≤ (ticks j).now)

theorem fallback_onWay {j n : ℕ} (hjn : j ≤ n) (hun : UnavailableFrom ticks j (n + 1))
    (hj : InFallback (run blend config zero ticks (j + 1)).phase) :
    OnWay blend config zero ticks j (n + 1) := by
  induction n, hjn using Nat.le_induction with
  | base =>
    have hn := hun j le_rfl j.lt_succ_self
    rcases Nat.eq_zero_or_pos j with rfl | h0
    · exact .inl (run_one_of_unavailable blend config zero ticks hn).1
    · obtain ⟨hmove, -⟩ := call_unavailable blend config zero ticks h0 hn
      cases hmove with
      | startsToFallback _ _ hto hstart => exact .inr ⟨hto, hstart.le⟩
      | stillToFallback hfrom hto hstart =>
        obtain ⟨b, hb, hb'⟩ := (run_timerInv blend config zero ticks htime h0).toFallback hfrom
        exact .inr ⟨hto, (hstart.trans hb').trans_le (htime hb.le)⟩
      | fallback hto => exact .inl hto
      | _ => rcases hj with h | h | h <;> simp_all
  | succ n hjn ih =>
    have hway := ih fun i hi hin => hun i hi (by omega)
    have hn := hun (n + 1) (by omega) (n + 1).lt_succ_self
    obtain ⟨hmove, -⟩ := call_unavailable blend config zero ticks n.succ_pos hn
    rcases hway with hway | ⟨hway, hstarted⟩
    · cases hmove with
      | fallback hto => exact .inl hto
      | _ => simp_all
    · cases hmove with
      | stillToFallback _ hto hstart => exact .inr ⟨hto, hstart.trans_le hstarted⟩
      | fallback hto => exact .inl hto
      | _ => simp_all

theorem fallback_dwell {f j n : ℕ} (hfj : f ≤ j) (hjn : j ≤ n)
    (hun : UnavailableFrom ticks f (n + 1))
    (hgrace : (ticks f).now + (clampDriverSynthTimingConfig config).graceHoldMs * 10 ^ 6 ≤
      (ticks j).now)
    (hblend : (ticks j).now + (clampDriverSynthTimingConfig config).blendToFallbackMs * 10 ^ 6 ≤
      (ticks n).now) :
    (run blend config zero ticks (n + 1)).phase = .FallbackStable ∧
      published blend config zero ticks n = (ticks n).fallbackPose := by
  have hn : (ticks n).synth = none := hun n (hfj.trans hjn) n.lt_succ_self
  rcases Nat.eq_zero_or_pos n with rfl | h0
  · exact run_one_of_unavailable blend config zero ticks hn
  · have hj := hold_dwell blend config zero htime hfj (fun i hi hij => hun i hi (by omega)) hgrace
    have hway := fallback_onWay blend config zero htime hjn (fun i hi => hun i (hfj.trans hi)) hj
    obtain ⟨hmove, -⟩ := call_unavailable blend config zero ticks h0 hn
    have htoolong : ∀ start : ℤ, start ≤ (ticks j).now →
        ¬ (ticks n).now - start <
          (clampDriverSynthTimingConfig config).blendToFallbackMs * 10 ^ 6 := by
      intro start hstart
      omega
    cases hmove with
    | fallback hto hout => exact ⟨hto, hout⟩
    | startsToFallback _ _ hto hstart hgoes =>
      rcases hway with hway | ⟨-, hstarted⟩
      · simp_all
      · refine absurd ?_ (htoolong _ hstarted)
        rw [hstart]
        omega
    | stillToFallback _ hto hstart hgoes =>
      rcases hway with hway | ⟨-, hstarted⟩
      · simp_all
      · refine absurd ?_ (htoolong _ hstarted)
        rwa [hstart]
    | _ => rcases hway with hway | ⟨hway, -⟩ <;> simp_all

/-- **The dwell times.**  In every run with nondecreasing times the durations that the
    configuration is clamped to are dwelt on: before a blend to the synthesized pose starts, until
    it ends, and from a dropout to the fallback. -/
theorem sourceBlend_dwell :
    Dwell (clampDriverSynthTimingConfig config) ticks
      (fun n => (run blend config zero ticks n).phase) (published blend config zero ticks) where
  toSynth _ := toSynth_dwell blend config zero htime
  synthStable _ := synthStable_dwell blend config zero htime
  hold _ _ := hold_dwell blend config zero htime
  fallback _ _ _ := fallback_dwell blend config zero htime

end Runs

/-! ## On a line -/

/-- Positions on a line. -/
def lineBlend (a b alpha : ℚ) : ℚ := mix a b (Lib.smoothstep alpha)

/-- A call with the fallback at 10 and a synthesized pose at 0, after `ms` milliseconds. -/
def lineTick (synthAvailable : Bool) (ms : ℤ) : Tick ℚ where
  fallbackPose := 10
  synthPose := some 0
  synthAvailable := synthAvailable
  now := ms * 10 ^ 6

/-- A dropout that begins at 1 ms and whose second call comes 1250 ms later. -/
def lateTick : ℕ → Tick ℚ
  | 0 => lineTick true 0
  | 1 => lineTick false 1
  | _ + 2 => lineTick false 1251

theorem lateTick_monotone : Monotone fun n => (lateTick n).now := by
  apply monotone_nat_of_le_succ
  intro n
  match n with
  | 0 => decide
  | 1 => decide
  | _ + 2 => exact le_rfl

theorem lateTick_dwell :
    (Monotone fun n => (lateTick n).now) ∧
      Dwell (clampDriverSynthTimingConfig {}) lateTick (fun n => (run lineBlend {} 0 lateTick n).phase)
        (published lineBlend {} 0 lateTick) :=
  ⟨lateTick_monotone, sourceBlend_dwell lineBlend {} 0 lateTick_monotone⟩

/-- A synthesized pose that is missing after 1 s and back after 2 s. -/
def backAgain : ℕ → Tick ℚ
  | 0 => lineTick false 0
  | 1 => lineTick false 1000
  | 2 => lineTick true 2000
  | _ + 3 => lineTick true 7000

theorem backAgain_monotone : Monotone fun n => (backAgain n).now := by
  apply monotone_nat_of_le_succ
  intro n
  match n with
  | 0 => decide
  | 1 => decide
  | 2 => decide
  | _ + 3 => exact le_rfl

/-- Ten seconds with a synthesized pose before it is used, which are cut to five. -/
def longStable : DriverSynthTimingConfig := { stableBeforeSynthMs := 10000 }

/-- With the default durations, 1250 ms after the first call of a dropout (the 750 ms of the hold
    and the 500 ms of the blend) the synthesized pose is still published, where the blend starts
    only then; and with ten seconds asked for before a blend to the synthesized pose, one starts
    at 7 s though it was missing at 1 s. -/
theorem lateTick_longStable :
    ((Monotone fun n => (lateTick n).now) ∧ UnavailableFrom lateTick 1 3 ∧
        (lateTick 2).now - (lateTick 1).now = (750 + 500) * 10 ^ 6 ∧
        published lineBlend {} 0 lateTick 2 = 0 ∧
        (run lineBlend {} 0 lateTick 3).phase = .BlendingToFallback) ∧
      (Monotone fun n => (backAgain n).now) ∧
        (run lineBlend longStable 0 backAgain 3).phase = .WaitingForStableSynth ∧
        (run lineBlend longStable 0 backAgain 4).phase = .BlendingToSynth ∧
        (backAgain 1).synth = none ∧
        (backAgain 3).now - (backAgain 1).now < longStable.stableBeforeSynthMs * 10 ^ 6 := by
  refine ⟨⟨lateTick_monotone, ?_, by decide, ?_, ?_⟩, backAgain_monotone, ?_, ?_, rfl, by decide⟩
  · intro j h1 h3
    interval_cases j <;> rfl
  all_goals decide +kernel

end WKPairDriver.Driver.SourceBlend
