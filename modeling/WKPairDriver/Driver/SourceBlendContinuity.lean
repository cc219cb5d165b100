import Mathlib
import WKPairDriver.Driver.SourceBlend
import WKPairDriver.Lib.Smoothstep

/-!
# The blended position does not jump

With a fixed fallback position `F` and a fixed synthesized position `S`, every position published
is a mix of the two, and its weight moves no faster than a smoothstep over the shorter of the two
blends: each blend starts from the position published last.

* `PhaseInv` — the weight as a function of the phase and of the time in it.
* `stepSourceBlend_inv` — one call moves the weight by at most the bound.
* `sourceBlend_continuous` — every run; the durations are those `StepSourceBlend` clamps to.
* `longBlend_tooFast` — a duration above the clamp is cut, and the position moves faster than it
  asks for.
-/

set_option autoImplicit false

namespace WKPairDriver.Driver.SourceBlend

open Lib HeadMount

universe u v
variable {K : Type u} [Field K] {Q : Type v}

/-! ## Weights -/

theorem mixVec_mixVec (F S : Fin 3 → K) (a b s : K) :
    mixVec (mixVec F S a) (mixVec F S b) s = mixVec F S (mix a b s) := by
  funext i
  simp only [mixVec, mix]
  ring

theorem mixVec_zero (F S : Fin 3 → K) : mixVec F S 0 = F := by
  funext i
  simp [mixVec, mix]

theorem mixVec_one (F S : Fin 3 → K) : mixVec F S 1 = S := by
  funext i
  simp [mixVec, mix]

variable [LinearOrder K]

theorem blendPose_vecPosition (slerpQuat : Q → Q → K → Q) (a b : DriverPose K Q) (alpha : K) :
    (blendPose slerpQuat a b alpha).vecPosition =
      mixVec a.vecPosition b.vecPosition (smoothstep alpha) := rfl

variable [IsStrictOrderedRing K]

def Weight (w : K) : Prop := 0 ≤ w ∧ w ≤ 1

theorem weight_zero : Weight (0 : K) := ⟨le_rfl, zero_le_one⟩

theorem weight_one : Weight (1 : K) := ⟨zero_le_one, le_rfl⟩

theorem Weight.mix {a b s : K} (ha : Weight a) (hb : Weight b) (hs : Weight s) :
    Weight (mix a b s) := by
  obtain ⟨ha0, ha1⟩ := ha
  obtain ⟨hb0, hb1⟩ := hb
  obtain ⟨hs0, hs1⟩ := hs
  have hs' : 0 ≤ 1 - s := by linarith
  constructor
  · exact add_nonneg (mul_nonneg ha0 hs') (mul_nonneg hb0 hs0)
  · have h1 := mul_le_mul_of_nonneg_right ha1 hs'
    have h2 := mul_le_mul_of_nonneg_right hb1 hs0
    simp only [SourceBlend.mix]
    linarith

theorem weight_smoothstep (x : K) : Weight (smoothstep x) :=
  ⟨smoothstep_nonneg x, smoothstep_le_one x⟩

/-- Over `ns` nanoseconds the weight moves no faster than a smoothstep over `T` milliseconds. -/
def Near (T : ℤ) (ns : ℤ) (w w' : K) : Prop := |w' - w| ≤ 1.5 * toMs ns / T

theorem Near.refl {T ns : ℤ} (hT : 0 < T) (hns : 0 ≤ ns) (w : K) : Near T ns w w := by
  have hT' : (0 : K) < T := by exact_mod_cast hT
  have hms : (0 : K) ≤ toMs ns := by
    have := toMs_mono (K := K) hns
    simpa [toMs] using this
  rw [Near, sub_self, abs_zero]
  positivity

theorem Near.mono {T ns ns' : ℤ} (hT : 0 < T) (hns : ns ≤ ns') {w w' : K} (h : Near T ns w w') :
    Near T ns' w w' := by
  have hT' : (0 : K) < T := by exact_mod_cast hT
  have hms : (toMs ns : K) ≤ toMs ns' := toMs_mono hns
  apply h.trans
  gcongr

/-- A blend between two weights over at least `T` milliseconds. -/
theorem Near.blend {T D start last now : ℤ} (hT : 0 < T) (hTD : T ≤ D) (hlast : last ≤ now)
    {a b : K} (ha : Weight a) (hb : Weight b) :
    Near T (now - last) (mix a b (smoothstep (durationAlpha start last D)))
      (mix a b (smoothstep (durationAlpha start now D))) := by
  have hT' : (0 : K) < T := by exact_mod_cast hT
  have hTD' : (T : K) ≤ D := by exact_mod_cast hTD
  have hD' : (0 : K) < D := hT'.trans_le hTD'
  have he : (toMs (last - start) : K) ≤ toMs (now - start) := toMs_mono (by omega)
  have hms : (toMs (now - start) : K) - toMs (last - start) = toMs (now - last) := by
    simp only [toMs]
    push_cast
    ring
  have hnonneg : (0 : K) ≤ toMs (now - last) := hms ▸ sub_nonneg.2 he
  simp only [durationAlpha_eq_ramp]
  have hramp : ramp (toMs (last - start)) (D : K) ≤ ramp (toMs (now - start)) (D : K) :=
    ramp_mono he
  have hup := smoothstep_mono hramp
  have hrise := smoothstep_ramp_le_add hD' he
  rw [hms] at hrise
  have hbound : 3 / 2 * toMs (now - last) / (D : K) ≤ 3 / 2 * toMs (now - last) / T :=
    div_le_div_of_nonneg_left (by positivity) hT' hTD'
  -- the difference is the difference of the ends times the rise
  have hdiff : mix a b (smoothstep (ramp (toMs (now - start)) (D : K))) -
      mix a b (smoothstep (ramp (toMs (last - start)) (D : K))) =
      (b - a) * (smoothstep (ramp (toMs (now - start)) (D : K)) -
        smoothstep (ramp (toMs (last - start)) (D : K))) := by
    simp only [mix]
    ring
  have hends : |b - a| ≤ 1 := by
    rw [abs_le]
    exact ⟨by linarith [ha.2, hb.1], by linarith [ha.1, hb.2]⟩
  have hslope : (1.5 : K) = 3 / 2 := by norm_num
  rw [Near, hslope, hdiff, abs_mul, abs_of_nonneg (sub_nonneg.2 hup)]
  calc |b - a| * _ ≤ 1 * _ := mul_le_mul_of_nonneg_right hends (sub_nonneg.2 hup)
    _ ≤ 3 / 2 * toMs (now - last) / T := by linarith

/-! ## Invariant -/

/-- The weight `w` that the position has at the time `last` of the last call. -/
def PhaseInv (timing : DriverSynthTimingConfig) (F S : Fin 3 → K)
    (s : SourceBlendState (DriverPose K Q)) (last : ℤ) (w : K) : Prop :=
  match s.phase with
  | .Uninitialized => False
  | .SynthStable => w = 1
  | .GraceHold => w = 1 ∧ s.blendStartPose.vecPosition = S
  | .FallbackStable => w = 0
  | .WaitingForStableSynth => w = 0
  | .BlendingToFallback => ∃ a, Weight a ∧ s.blendStartPose.vecPosition = mixVec F S a ∧
      w = mix a 0 (smoothstep (durationAlpha s.phaseStartedAt last timing.blendToFallbackMs))
  | .BlendingToSynth => ∃ a, Weight a ∧ s.blendStartPose.vecPosition = mixVec F S a ∧
      w = mix a 1 (smoothstep (durationAlpha s.phaseStartedAt last timing.blendToSynthMs))

/-- The last good pose is at `S`, if there is one. -/
def LastGood (S : Fin 3 → K) (s : SourceBlendState (DriverPose K Q)) : Prop :=
  s.hasLastGoodSynthPose = true → s.lastGoodSynthPose.vecPosition = S

structure Inv (timing : DriverSynthTimingConfig) (F S : Fin 3 → K)
    (s : SourceBlendState (DriverPose K Q)) (last : ℤ) (w : K) : Prop where
  current : s.hasCurrentPose = true
  weight : Weight w
  position : s.currentPose.vecPosition = mixVec F S w
  lastGood : LastGood S s
  phase : PhaseInv timing F S s last w

/-- What a branch of a call leaves, from a position of weight `w` published `ns` before. -/
def Moved (timing : DriverSynthTimingConfig) (F S : Fin 3 → K) (T ns now : ℤ) (w : K)
    (r : SourceBlendState (DriverPose K Q) × DriverPose K Q × K) : Prop :=
  ∃ w', Near T ns w w' ∧ Weight w' ∧ r.2.1.vecPosition = mixVec F S w' ∧ LastGood S r.1 ∧
    PhaseInv timing F S r.1 now w'

omit [IsStrictOrderedRing K] in
theorem PhaseInv.eq_one {timing : DriverSynthTimingConfig} {F S : Fin 3 → K}
    {s : SourceBlendState (DriverPose K Q)} {last : ℤ} {w : K} (h : PhaseInv timing F S s last w)
    (hphase : s.phase = .SynthStable ∨ s.phase = .GraceHold) : w = 1 := by
  rcases hphase with hphase | hphase
  · simpa only [PhaseInv, hphase] using h
  · simp only [PhaseInv, hphase] at h
    exact h.1

omit [IsStrictOrderedRing K] in
theorem PhaseInv.eq_zero {timing : DriverSynthTimingConfig} {F S : Fin 3 → K}
    {s : SourceBlendState (DriverPose K Q)} {last : ℤ} {w : K} (h : PhaseInv timing F S s last w)
    (hstable : s.phase ≠ .SynthStable) (hgrace : s.phase ≠ .GraceHold)
    (hfallback : s.phase ≠ .BlendingToFallback) (hsynth : s.phase ≠ .BlendingToSynth) : w = 0 := by
  unfold PhaseInv at h
  split at h
  · exact h.elim
  · exact absurd ‹_› hstable
  · exact absurd ‹_› hgrace
  · exact h
  · exact h
  · exact absurd ‹_› hfallback
  · exact absurd ‹_› hsynth

section Branches

variable {timing : DriverSynthTimingConfig} {F S : Fin 3 → K} {T : ℤ} {last now : ℤ} {w : K}
  {slerpQuat : Q → Q → K → Q} {s : SourceBlendState (DriverPose K Q)}
  {fallbackPose synthPose : DriverPose K Q}

theorem Moved.mono (hT : 0 < T) {ns ns' : ℤ} (hns : ns ≤ ns')
    {r : SourceBlendState (DriverPose K Q) × DriverPose K Q × K}
    (h : Moved timing F S T ns now w r) : Moved timing F S T ns' now w r := by
  obtain ⟨w', hnear, h⟩ := h
  exact ⟨w', hnear.mono hT hns, h⟩

/-- The position stays where it is. -/
theorem Moved.still (hT : 0 < T) (hlast : last ≤ now) (hw : Weight w)
    {r : SourceBlendState (DriverPose K Q) × DriverPose K Q × K}
    (hpos : r.2.1.vecPosition = mixVec F S w) (hgood : LastGood S r.1)
    (hphase : PhaseInv timing F S r.1 now w) : Moved timing F S T (now - last) now w r :=
  ⟨w, Near.refl hT (by omega) w, hw, hpos, hgood, hphase⟩

theorem blendToFallback_moved (hT : 0 < T) (hTD : T ≤ timing.blendToFallbackMs)
    (hlast : last ≤ now) (hF : fallbackPose.vecPosition = F) (hphase : s.phase = .BlendingToFallback)
    (hinv : PhaseInv timing F S s last w) (hgood : LastGood S s) :
    Moved timing F S T (now - last) now w
      (s.blendToFallback (blendPose slerpQuat) timing fallbackPose now) := by
  simp only [PhaseInv, hphase] at hinv
  obtain ⟨a, ha, hstart, rfl⟩ := hinv
  refine ⟨mix a 0 (smoothstep (durationAlpha s.phaseStartedAt now timing.blendToFallbackMs)),
    Near.blend hT hTD hlast ha weight_zero, ha.mix weight_zero (weight_smoothstep _), ?_⟩
  unfold SourceBlendState.blendToFallback
  dsimp only
  split
  · rename_i hdone
    have hzero : mix a 0 (smoothstep
        (durationAlpha s.phaseStartedAt now timing.blendToFallbackMs : K)) = 0 := by
      simp [smoothstep_of_one_le hdone, mix]
    rw [hzero]
    exact ⟨hF.trans (mixVec_zero F S).symm, hgood, rfl⟩
  · refine ⟨?_, hgood, ?_⟩
    · rw [blendPose_vecPosition, hstart, hF, ← mixVec_mixVec, mixVec_zero]
    · simp only [PhaseInv, hphase]
      exact ⟨a, ha, hstart, rfl⟩

theorem blendToSynth_moved (hT : 0 < T) (hTD : T ≤ timing.blendToSynthMs)
    (hlast : last ≤ now) (hS : synthPose.vecPosition = S) (hphase : s.phase = .BlendingToSynth)
    (hinv : PhaseInv timing F S s last w) (hgood : LastGood S s) :
    Moved timing F S T (now - last) now w
      (s.blendToSynth (blendPose slerpQuat) timing synthPose now) := by
  simp only [PhaseInv, hphase] at hinv
  obtain ⟨a, ha, hstart, rfl⟩ := hinv
  refine ⟨mix a 1 (smoothstep (durationAlpha s.phaseStartedAt now timing.blendToSynthMs)),
    Near.blend hT hTD hlast ha weight_one, ha.mix weight_one (weight_smoothstep _), ?_⟩
  unfold SourceBlendState.blendToSynth
  dsimp only
  split
  · rename_i hdone
    have hone : mix a 1 (smoothstep
        (durationAlpha s.phaseStartedAt now timing.blendToSynthMs : K)) = 1 := by
      simp [smoothstep_of_one_le hdone, mix]
    rw [hone]
    exact ⟨hS.trans (mixVec_one F S).symm, hgood, rfl⟩
  · refine ⟨?_, hgood, ?_⟩
    · rw [blendPose_vecPosition, hstart, hS, ← mixVec_mixVec, mixVec_one]
    · simp only [PhaseInv, hphase]
      exact ⟨a, ha, hstart, rfl⟩

/-- A blend that starts now is at its start. -/
theorem mix_durationAlpha_self {D : ℤ} (hD : 0 < D) (a b : K) (now : ℤ) :
    mix a b (smoothstep (durationAlpha now now D)) = a := by
  have hD' : (0 : K) < D := by exact_mod_cast hD
  rw [durationAlpha_eq_ramp, sub_self, toMs, Int.cast_zero, zero_div, ramp_zero hD', smoothstep_zero]
  simp [mix]

/-- A blend to the fallback that starts at the position published last. -/
theorem startBlendToFallback_moved (hT : 0 < T) (hTD : T ≤ timing.blendToFallbackMs)
    (hlast : last ≤ now) (hF : fallbackPose.vecPosition = F) (hw : Weight w)
    (hphase : s.phase ≠ .BlendingToFallback)
    (hstart : s.blendStartPose.vecPosition = mixVec F S w) (hgood : LastGood S s) :
    Moved timing F S T (now - last) now w
      ((s.setPhase .BlendingToFallback now).afterGrace (blendPose slerpQuat) timing fallbackPose
        now) := by
  rw [SourceBlendState.afterGrace, if_pos (s.setPhase_phase _ _)]
  apply Moved.mono hT (show now - now ≤ now - last by omega)
  apply blendToFallback_moved hT hTD le_rfl hF (s.setPhase_phase _ _) ?_ hgood
  simp only [PhaseInv, s.setPhase_phase, s.setPhase_phaseStartedAt hphase]
  exact ⟨w, hw, hstart, (mix_durationAlpha_self (by omega) w 0 now).symm⟩

/-- A blend to the synthesized pose that starts at the position published last. -/
theorem startBlendToSynth_moved (hT : 0 < T) (hTD : T ≤ timing.blendToSynthMs)
    (hlast : last ≤ now) (hS : synthPose.vecPosition = S) (hw : Weight w)
    (hphase : s.phase ≠ .BlendingToSynth)
    (hstart : s.blendStartPose.vecPosition = mixVec F S w) (hgood : LastGood S s) :
    Moved timing F S T (now - last) now w
      ((s.setPhase .BlendingToSynth now).blendToSynth (blendPose slerpQuat) timing synthPose
        now) := by
  apply Moved.mono hT (show now - now ≤ now - last by omega)
  apply blendToSynth_moved hT hTD le_rfl hS (s.setPhase_phase _ _) ?_ hgood
  simp only [PhaseInv, s.setPhase_phase, s.setPhase_phaseStartedAt hphase]
  exact ⟨w, hw, hstart, (mix_durationAlpha_self (by omega) w 1 now).symm⟩

variable (timing now) in
/-- The first call publishes one of the two poses. -/
theorem first_moved (tick : Tick (DriverPose K Q)) (hF : tick.fallbackPose.vecPosition = F)
    (hS : ∀ p ∈ tick.synth, p.vecPosition = S) (hgood : LastGood S s) :
    ∃ w' : K, Weight w' ∧
      (s.first (K := K) tick.fallbackPose tick.synth now).2.1.vecPosition = mixVec F S w' ∧
      LastGood S (s.first (K := K) tick.fallbackPose tick.synth now).1 ∧
      PhaseInv timing F S (s.first (K := K) tick.fallbackPose tick.synth now).1 now w' := by
  unfold SourceBlendState.first
  cases hsynth : tick.synth with
  | none => exact ⟨0, weight_zero, hF.trans (mixVec_zero F S).symm, hgood, rfl⟩
  | some synth =>
    have hpos := hS synth hsynth
    exact ⟨1, weight_one, hpos.trans (mixVec_one F S).symm, fun _ => hpos, rfl⟩

theorem available_moved (hT : 0 < T) (hTF : T ≤ timing.blendToFallbackMs)
    (hTS : T ≤ timing.blendToSynthMs) (hlast : last ≤ now) (hF : fallbackPose.vecPosition = F)
    (hS : synthPose.vecPosition = S) (hs : Inv timing F S s last w) :
    Moved timing F S T (now - last) now w
      (s.available (blendPose slerpQuat) timing fallbackPose synthPose now) := by
  have hinv := hs.phase
  have hgood : ∀ s' : SourceBlendState (DriverPose K Q), s'.lastGoodSynthPose = synthPose →
      LastGood S s' := fun s' h _ => h ▸ hS
  unfold SourceBlendState.available
  dsimp only
  split
  · -- the synthesized pose goes on, over a grace hold that ends
    rename_i hphase
    have hw : w = 1 := hinv.eq_one hphase
    subst hw
    exact Moved.still hT hlast weight_one (hS.trans (mixVec_one F S).symm) (hgood _ rfl) rfl
  · rename_i hphase
    split
    · split
      · rename_i hblend
        exact blendToFallback_moved hT hTF hlast hF hblend hinv (hgood _ rfl)
      · rename_i hwait hblend
        obtain ⟨hstable, hgrace⟩ := not_or.1 hphase
        have hw : w = 0 := hinv.eq_zero hstable hgrace hblend hwait.2
        subst hw
        exact Moved.still hT hlast weight_zero (hF.trans (mixVec_zero F S).symm) (hgood _ rfl) rfl
    · split
      · rename_i hblend
        refine startBlendToSynth_moved hT hTS hlast hS hs.weight hblend ?_ (hgood _ rfl)
        show (if s.hasCurrentPose then s.currentPose else fallbackPose).vecPosition = _
        rw [if_pos hs.current]
        exact hs.position
      · rename_i hblend
        exact blendToSynth_moved hT hTS hlast hS (not_not.1 hblend) hinv (hgood _ rfl)

omit [IsStrictOrderedRing K] in
/-- A dropout leaves the position at `S`, in the grace hold. -/
theorem enterGrace_inv (now : ℤ) (hs : Inv timing F S s last w) :
    Inv timing F S (s.enterGrace now) last w := by
  unfold SourceBlendState.enterGrace
  split
  · rename_i hphase
    have hw := hs.phase.eq_one (.inl hphase)
    refine ⟨hs.current, hs.weight, hs.position, hs.lastGood, hw, ?_⟩
    · show (if s.hasLastGoodSynthPose then s.lastGoodSynthPose else s.currentPose).vecPosition = S
      split
      · rename_i hhas
        exact hs.lastGood hhas
      · rw [hs.position, hw, mixVec_one]
  · exact hs

theorem unavailable_moved (hT : 0 < T) (hTF : T ≤ timing.blendToFallbackMs) (hlast : last ≤ now)
    (hF : fallbackPose.vecPosition = F) (hs : Inv timing F S s last w) :
    Moved timing F S T (now - last) now w
      (s.unavailable (blendPose slerpQuat) timing fallbackPose now) := by
  have hs' : Inv timing F S s.notStable last w :=
    ⟨hs.current, hs.weight, hs.position, hs.lastGood, hs.phase⟩
  unfold SourceBlendState.unavailable
  dsimp only
  have hs := enterGrace_inv now hs'
  have hstable := s.notStable.enterGrace_phase now
  generalize s.notStable.enterGrace now = s at hs hstable ⊢
  have hinv := hs.phase
  split
  · rename_i hphase
    simp only [PhaseInv, hphase] at hinv
    obtain ⟨rfl, hstart⟩ := hinv
    rw [← mixVec_one F S] at hstart
    split
    · refine Moved.still hT hlast weight_one hstart hs.lastGood ?_
      simp only [PhaseInv, hphase]
      exact ⟨trivial, hstart.trans (mixVec_one F S)⟩
    · exact startBlendToFallback_moved hT hTF hlast hF weight_one (by simp [hphase]) hstart
        hs.lastGood
  · rename_i hgrace
    split
    · rename_i hphase
      refine startBlendToFallback_moved (s := s.startFrom s.currentPose) hT hTF hlast hF hs.weight
        ?_ hs.position hs.lastGood
      show s.phase ≠ _
      rcases hphase with hphase | hphase <;> simp [hphase]
    · rename_i hphase
      unfold SourceBlendState.afterGrace
      split
      · rename_i hblend
        exact blendToFallback_moved hT hTF hlast hF hblend hinv hs.lastGood
      · rename_i hblend
        obtain ⟨hsynth, -⟩ := not_or.1 hphase
        have hw : w = 0 := hinv.eq_zero hstable hgrace hblend hsynth
        subst hw
        exact Moved.still hT hlast weight_zero (hF.trans (mixVec_zero F S).symm) hs.lastGood rfl

end Branches

/-! ## Runs -/

/-- The call has the fallback at `F`, and the synthesized pose at `S` if there is one. -/
def Tick.At (tick : Tick (DriverPose K Q)) (F S : Fin 3 → K) : Prop :=
  tick.fallbackPose.vecPosition = F ∧ ∀ p ∈ tick.synth, p.vecPosition = S

/-- **One call.** Over the time since the last one the weight moves by at most the bound. -/
theorem stepSourceBlend_inv {config : DriverSynthTimingConfig} {F S : Fin 3 → K} {T last : ℤ}
    {w : K} {s : SourceBlendState (DriverPose K Q)} {tick : Tick (DriverPose K Q)}
    (slerpQuat : Q → Q → K → Q) (hT : 0 < T)
    (hTF : T ≤ (clampDriverSynthTimingConfig config).blendToFallbackMs)
    (hTS : T ≤ (clampDriverSynthTimingConfig config).blendToSynthMs) (hlast : last ≤ tick.now)
    (htick : tick.At F S) (hs : Inv (clampDriverSynthTimingConfig config) F S s last w) :
    ∃ w', Near T (tick.now - last) w w' ∧ Inv (clampDriverSynthTimingConfig config) F S
      (stepSourceBlend (blendPose slerpQuat) config s tick).1 tick.now w' := by
  obtain ⟨hF, hS⟩ := htick
  unfold stepSourceBlend
  simp only [hs.current, Bool.not_true, Bool.false_eq_true, if_false]
  cases hsynth : tick.synth with
  | some synth =>
    obtain ⟨w', hnear, hw', hpos, hgood, hphase⟩ : Moved _ F S T (tick.now - last) tick.now w
        (s.available (blendPose slerpQuat) _ tick.fallbackPose synth tick.now) :=
      available_moved hT hTF hTS hlast hF (hS synth hsynth) hs
    exact ⟨w', hnear, rfl, hw', hpos, hgood, hphase⟩
  | none =>
    obtain ⟨w', hnear, hw', hpos, hgood, hphase⟩ : Moved _ F S T (tick.now - last) tick.now w
        (s.unavailable (blendPose slerpQuat) _ tick.fallbackPose tick.now) :=
      unavailable_moved hT hTF hlast hF hs
    exact ⟨w', hnear, rfl, hw', hpos, hgood, hphase⟩

/-- The first call of a run. -/
theorem stepSourceBlend_new {config : DriverSynthTimingConfig} {F S : Fin 3 → K}
    {zero : DriverPose K Q} {tick : Tick (DriverPose K Q)} (slerpQuat : Q → Q → K → Q)
    (htick : tick.At F S) :
    ∃ w, Inv (clampDriverSynthTimingConfig config) F S
      (stepSourceBlend (blendPose slerpQuat) config (.new zero) tick).1 tick.now w := by
  obtain ⟨hF, hS⟩ := htick
  have hgood : LastGood S (SourceBlendState.new zero) := by
    intro h
    cases h
  obtain ⟨w, hw, hpos, hgood, hphase⟩ :=
    first_moved (clampDriverSynthTimingConfig config) tick.now tick hF hS hgood
  exact ⟨w, rfl, hw, hpos, hgood, hphase⟩

def OnSegment (F S p : Fin 3 → K) : Prop := ∃ w, Weight w ∧ p = mixVec F S w

/-- The square of the distance. -/
def sqDist (p q : Fin 3 → K) : K := (p 0 - q 0) ^ 2 + (p 1 - q 1) ^ 2 + (p 2 - q 2) ^ 2

def shortestBlendMs (cfg : DriverSynthTimingConfig) : ℤ :=
  min cfg.blendToFallbackMs cfg.blendToSynthMs

/-- Every position published is on the segment from `F` to `S`, and the distance of two in a row
    is at most `1.5 * |S - F| * dt / T`; both sides are squared. -/
def PositionContinuous (T : ℤ) (F S : Fin 3 → K) (now : ℕ → ℤ) (position : ℕ → Fin 3 → K) : Prop :=
  ∀ n, OnSegment F S (position n) ∧
    sqDist (position (n + 1)) (position n) ≤
      (1.5 * toMs (now (n + 1) - now n) / T) ^ 2 * sqDist S F

omit [IsStrictOrderedRing K] in
theorem sqDist_mixVec (F S : Fin 3 → K) (w w' : K) :
    sqDist (mixVec F S w') (mixVec F S w) = |w' - w| ^ 2 * sqDist S F := by
  simp only [sqDist, mixVec, mix, sq_abs]
  ring

/-- Over the reals, the bound without the squares. -/
theorem PositionContinuous.dist_le {T : ℤ} (hT : 0 < T) {F S : Fin 3 → ℝ} {now : ℕ → ℤ}
    (hnow : Monotone now) {position : ℕ → Fin 3 → ℝ} (h : PositionContinuous T F S now position)
    (n : ℕ) :
    dist (WithLp.toLp 2 (position (n + 1))) (WithLp.toLp 2 (position n)) ≤
      1.5 * toMs (now (n + 1) - now n) / T * dist (WithLp.toLp 2 S) (WithLp.toLp 2 F) := by
  have hT' : (0 : ℝ) < T := by exact_mod_cast hT
  have hms : (0 : ℝ) ≤ toMs (now (n + 1) - now n) := by
    have hle : (toMs 0 : ℝ) ≤ toMs (now (n + 1) - now n) :=
      toMs_mono (sub_nonneg.2 (hnow n.le_succ))
    simpa [toMs] using hle
  have hdist : ∀ p q : Fin 3 → ℝ, dist (WithLp.toLp 2 p) (WithLp.toLp 2 q) ^ 2 = sqDist p q := by
    intro p q
    rw [EuclideanSpace.dist_sq_eq, Fin.sum_univ_three]
    simp [Real.dist_eq, sq_abs, sqDist]
  apply le_of_sq_le_sq ?_ (by positivity)
  rw [mul_pow, hdist, hdist]
  exact (h n).2

variable (slerpQuat : Q → Q → K → Q) (config : DriverSynthTimingConfig) (zero : DriverPose K Q)
  (ticks : ℕ → Tick (DriverPose K Q))

/-- **The position does not jump.**  In every run with nondecreasing times, a fixed fallback
    position and a fixed synthesized one, and blends of at least a millisecond, the position stays
    on the segment between the two and moves no faster than a smoothstep over the shorter of the
    two blend durations that the configuration is clamped to. -/
theorem sourceBlend_continuous (F S : Fin 3 → K) (htime : Monotone fun n => (ticks n).now)
    (hticks : ∀ n, (ticks n).At F S) (hfallback : 1 ≤ config.blendToFallbackMs)
    (hsynth : 1 ≤ config.blendToSynthMs) :
    PositionContinuous (shortestBlendMs (clampDriverSynthTimingConfig config)) F S
      (fun n => (ticks n).now)
      fun n => (published (blendPose slerpQuat) config zero ticks n).vecPosition := by
  have hT : 0 < shortestBlendMs (clampDriverSynthTimingConfig config) :=
    lt_min (clampDriverSynthTransitionMs_pos hfallback) (clampDriverSynthTransitionMs_pos hsynth)
  have hstep : ∀ n w, Inv (clampDriverSynthTimingConfig config) F S
      (run (blendPose slerpQuat) config zero ticks (n + 1)) (ticks n).now w → _ := fun n w hs =>
    stepSourceBlend_inv slerpQuat hT (min_le_left _ _) (min_le_right _ _) (htime n.le_succ)
      (hticks (n + 1)) hs
  have hinv : ∀ n, ∃ w, Inv (clampDriverSynthTimingConfig config) F S
      (run (blendPose slerpQuat) config zero ticks (n + 1)) (ticks n).now w := by
    intro n
    induction n with
    | zero => exact stepSourceBlend_new slerpQuat (hticks 0)
    | succ n ih =>
      obtain ⟨w, hs⟩ := ih
      obtain ⟨w', -, hs'⟩ := hstep n w hs
      exact ⟨w', hs'⟩
  intro n
  obtain ⟨w, hs⟩ := hinv n
  obtain ⟨w', hnear, hs'⟩ := hstep n w hs
  have hpos : (published (blendPose slerpQuat) config zero ticks n).vecPosition = mixVec F S w :=
    hs.position
  have hpos' : (published (blendPose slerpQuat) config zero ticks (n + 1)).vecPosition =
      mixVec F S w' := hs'.position
  refine ⟨⟨w, hs.weight, hpos⟩, ?_⟩
  dsimp only
  rw [hpos, hpos', sqDist_mixVec]
  have hdist : 0 ≤ sqDist S F := by
    unfold sqDist
    positivity
  exact mul_le_mul_of_nonneg_right (pow_le_pow_left₀ (abs_nonneg _) hnear 2) hdist

/-! ## On a line -/

/-- A pose on the x axis. -/
def poseAt (x : ℚ) : DriverPose ℚ Unit where
  poseTimeOffset := 0
  qWorldFromDriverRotation := ()
  vecWorldFromDriverTranslation := 0
  qDriverFromHeadRotation := ()
  vecDriverFromHeadTranslation := 0
  vecPosition := ![x, 0, 0]
  vecVelocity := 0
  vecAcceleration := 0
  qRotation := ()
  vecAngularVelocity := 0
  vecAngularAcceleration := 0
  result := 200
  poseIsValid := true
  willDriftInYaw := false
  shouldApplyHeadModel := false
  deviceIsConnected := true

/-- A call with the fallback at 10 and a synthesized pose at 0, after `ms` milliseconds. -/
def tickAt (synthAvailable : Bool) (ms : ℤ) : Tick (DriverPose ℚ Unit) where
  fallbackPose := poseAt 10
  synthPose := some (poseAt 0)
  synthAvailable := synthAvailable
  now := ms * 10 ^ 6

/-- A synthesized pose that is lost right after the first call. -/
def dropout : ℕ → Tick (DriverPose ℚ Unit)
  | 0 => tickAt true 0
  | 1 => tickAt false 0
  | _ + 2 => tickAt false 2500

def noSlerp (_ _ : Unit) (_ : ℚ) : Unit := ()

theorem dropout_monotone : Monotone fun n => (dropout n).now := by
  apply monotone_nat_of_le_succ
  intro n
  match n with
  | 0 => decide
  | 1 => decide
  | _ + 2 => exact le_rfl

theorem dropout_at (n : ℕ) : (dropout n).At ![10, 0, 0] ![0, 0, 0] := by
  match n with
  | 0 =>
    refine ⟨rfl, fun p hp => ?_⟩
    cases hp
    rfl
  | 1 =>
    refine ⟨rfl, fun p hp => ?_⟩
    cases hp
  | _ + 2 =>
    refine ⟨rfl, fun p hp => ?_⟩
    cases hp

/-- No grace hold, and blends of half a second. -/
def plainBlend : DriverSynthTimingConfig := { graceHoldMs := 0 }

theorem plainBlend_continuous :
    (Monotone fun n => (dropout n).now) ∧ (∀ n, (dropout n).At ![10, 0, 0] ![0, 0, 0]) ∧
      1 ≤ plainBlend.blendToFallbackMs ∧ 1 ≤ plainBlend.blendToSynthMs ∧
      PositionContinuous (shortestBlendMs (clampDriverSynthTimingConfig plainBlend)) ![10, 0, 0]
        ![0, 0, 0] (fun n => (dropout n).now)
        fun n => (published (blendPose noSlerp) plainBlend (poseAt 0) dropout n).vecPosition :=
  ⟨dropout_monotone, dropout_at, by decide, by decide,
    sourceBlend_continuous noSlerp plainBlend (poseAt 0) dropout _ _ dropout_monotone dropout_at
      (by decide) (by decide)⟩

/-- Blends of ten seconds, which are cut to five. -/
def longBlend : DriverSynthTimingConfig :=
  { graceHoldMs := 0, blendToFallbackMs := 10000, blendToSynthMs := 10000 }

/-- Half way after 2.5 seconds, the position is faster than a blend of ten seconds. -/
theorem longBlend_tooFast :
    (Monotone fun n => (dropout n).now) ∧ (∀ n, (dropout n).At ![10, 0, 0] ![0, 0, 0]) ∧
      1 ≤ longBlend.blendToFallbackMs ∧ 1 ≤ longBlend.blendToSynthMs ∧
      ¬ PositionContinuous (shortestBlendMs longBlend) ![10, 0, 0] ![0, 0, 0]
        (fun n => (dropout n).now)
        fun n => (published (blendPose noSlerp) longBlend (poseAt 0) dropout n).vecPosition := by
  refine ⟨dropout_monotone, dropout_at, by decide, by decide, fun h => ?_⟩
  have hfast := (h 1).2
  revert hfast
  decide +kernel

end WKPairDriver.Driver.SourceBlend
