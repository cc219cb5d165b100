import Mathlib
import WKPairDriver.Lib.Run
import WKPairDriver.Phantom.MaybeOverridePose

/-!
# The hand-overs of a device that does not move

A device stays at one place and reports no velocity.  Its poses are healthy or not, come or stay
away, and are published in between, at times that do not go back.  The bridge should lead its
published position from one source to the next without a jump.

* `Tracked`, `step` — one device, with what was published last and where a blend-in began.
* `Smooth` — the blend is from where it began, and no two positions are too far apart.
* `NoJump` — the condition on a call: it is in time for the source it leaves.
* `handover_smooth` — smooth runs are the runs of such calls.
* `handover_jumps` — from the blend out of a pose to the fallback it is a jump.
-/

set_option autoImplicit false

namespace WKPairDriver.Phantom

open Lib Driver SourceBlend Bridge

/-! ## What the ladder shows -/

namespace DropoutState

variable {s : DropoutState} {qpc_ns freq age_ms : ℤ}

variable (s) in
/-- The dropout is past the blend out of the pose. -/
def Past : Prop := s.state.source = .synth ∨ s.state.source = .nothing

theorem Past.inDropout (h : s.Past) : s.InDropout := by
  constructor <;> intro hstate <;> simp [Past, hstate, TrackerState.source] at h

theorem leaveBlendOut_past (h : s.Past) : (s.leaveBlendOut age_ms).Past := by
  unfold leaveBlendOut
  split
  · exact .inl rfl
  · exact h

theorem leaveReckon_past (h : s.Past) : (s.leaveReckon age_ms).Past := by
  unfold leaveReckon
  split
  · exact .inl rfl
  · exact h

theorem passSynthHold_past (h : s.Past) : (s.passSynthHold age_ms).Past := by
  unfold passSynthHold
  split
  · exact .inl rfl
  · exact h

theorem passLostHold_past (h : s.Past) : (s.passLostHold age_ms).Past := by
  unfold passLostHold
  split
  · exact .inr rfl
  · exact h

/-- A tick does not lead back. -/
theorem Past.tick (h : s.Past) : (s.tick qpc_ns freq).Past := by
  rw [tick_of_inDropout h.inDropout, escalate]
  split
  · exact passLostHold_past (passSynthHold_past (leaveReckon_past (leaveBlendOut_past h)))
  · exact h

/-- No tick begins a blend-in. -/
theorem tick_source_ne_blend (h : s.state.source = .own) :
    (s.tick qpc_ns freq).state.source ≠ .blend := by
  have hne : ∀ t : DropoutState, t.InDropout → t.state.source ≠ .blend := by
    intro t ht hblend
    cases hstate : t.state <;> simp [hstate, TrackerState.source] at hblend
    exact ht.2 hstate
  cases hstate : s.state with
  | REAL =>
    rw [tick_of_real hstate]
    split
    · exact hne _ (escalate_moves.inDropout detected_inDropout)
    · rw [h]
      exact Source.noConfusion
  | BLEND_OUT =>
    have hdrop : s.InDropout := by simp [InDropout, hstate]
    rw [tick_of_inDropout hdrop]
    exact hne _ (escalate_moves.inDropout hdrop)
  | _ => simp [hstate, TrackerState.source] at h

/-- A blend-in goes on for `blend_in_ms`. -/
theorem tick_blending (h : s.state = .BLEND_IN) (hstart : 0 ≤ s.blend_in_start_qpc_ns) :
    (qpcMs (qpc_ns - s.blend_in_start_qpc_ns) freq < s.timings.blend_in_ms ∧
      s.tick qpc_ns freq = s) ∨
    (s.timings.blend_in_ms ≤ qpcMs (qpc_ns - s.blend_in_start_qpc_ns) freq ∧
      (s.tick qpc_ns freq).state = .REAL) := by
  have hdetect : s.detectSilence qpc_ns freq = s :=
    if_neg fun hreal => by rw [h] at hreal; cases hreal.1
  have hescalate : s.escalate qpc_ns freq = s :=
    escalate_of_not_inDropout fun hdrop => hdrop.2 h
  rw [tick, hdetect, hescalate, finishBlendIn, if_pos ⟨h, hstart⟩]
  split
  next hage => exact .inr ⟨hage, rfl⟩
  next hage => exact .inl ⟨not_le.1 hage, rfl⟩

/-- An observed pose begins a blend-in, or leaves the state. -/
theorem onRealPoseObserved_cases (s : DropoutState) (qpc_ns : ℤ) (observed : DriverPose) :
    (s.onRealPoseObserved qpc_ns observed).timings = s.timings ∧
      (((s.onRealPoseObserved qpc_ns observed).state = s.state ∧
          (s.onRealPoseObserved qpc_ns observed).blend_in_start_qpc_ns =
            s.blend_in_start_qpc_ns) ∨
        (s.InDropout ∧ (s.onRealPoseObserved qpc_ns observed).state = .BLEND_IN ∧
          (s.onRealPoseObserved qpc_ns observed).blend_in_start_qpc_ns = qpc_ns)) := by
  unfold onRealPoseObserved
  dsimp only
  split
  · split
    all_goals first
      | exact ⟨rfl, .inr ⟨by simp_all [InDropout], rfl, rfl⟩⟩
      | exact ⟨rfl, .inl ⟨rfl, rfl⟩⟩
  · exact ⟨rfl, .inl ⟨rfl, rfl⟩⟩

end DropoutState

/-! ## One device and what it publishes -/

/-- A position that went out; in a blend-in, with the blend from where it began. -/
structure Published where
  qpc_ns : ℤ
  position : Fin 3 → ℝ
  blendIn : Option (Fin 3 → ℝ)

/-- The slot of the device, and what it published last. -/
structure Tracked where
  slot : BridgeSlot
  clock : ℤ
  /-- What was published last before the blend-in began. -/
  anchor : Option (Fin 3 → ℝ)
  previous : Option Published
  current : Option Published

noncomputable def Tracked.new : Tracked := ⟨.new, 0, none, none, none⟩

inductive HandoverEvent where
  | observe (qpc_ns : ℤ) (pose : DriverPose_t)
  | publish (qpc_ns : ℤ) (pose : DriverPose_t)

namespace HandoverEvent

def qpc_ns : HandoverEvent → ℤ
  | observe qpc_ns _ => qpc_ns
  | publish qpc_ns _ => qpc_ns

def pose : HandoverEvent → DriverPose_t
  | observe _ pose => pose
  | publish _ pose => pose

/-- The count of the clock fits in the arithmetic of `QpcMs`, and an observed pose reports no
    acceleration either. -/
def Regular (e : HandoverEvent) : Prop :=
  e.qpc_ns * 1000 < 2 ^ 63 ∧
    match e with
    | observe _ pose => pose.vecAcceleration = 0
    | publish _ _ => True

end HandoverEvent

namespace Bridge

variable (b : Bridge) (R : Fin 3 → ℝ)

/-- The times do not go back, and the device is not lost. -/
noncomputable def step (t : Tracked) : HandoverEvent → Option Tracked
  | .observe qpc_ns pose =>
    if t.clock ≤ qpc_ns then
      let slot := b.OnRealPoseObserved t.slot qpc_ns pose
      some { t with
        slot := slot
        clock := qpc_ns
        anchor :=
          if slot.ladder.state = .BLEND_IN ∧ t.slot.ladder.state ≠ .BLEND_IN then
            t.current.map fun c => c.position
          else t.anchor }
    else none
  | .publish qpc_ns pose =>
    if t.clock ≤ qpc_ns then
      let (slot, out) := b.MaybeOverridePose t.slot qpc_ns pose
      out.map fun out =>
        { t with
          slot := slot
          clock := qpc_ns
          previous := t.current
          current := some
            { qpc_ns := qpc_ns
              position := out.vecPosition
              blendIn :=
                if slot.ladder.state = .BLEND_IN then
                  t.anchor.map fun anchor => mixVec anchor R (b.weight slot.ladder qpc_ns)
                else none } }
    else none

/-- The shorter of the two blends. -/
def blend_ms : ℕ := min b.timings.blend_out_ms b.timings.blend_in_ms

/-- The time between two counts, in exact milliseconds. -/
noncomputable def elapsedMs (qpc_ns qpc_ns' : ℤ) : ℝ :=
  (((qpc_ns' - qpc_ns) * 1000 : ℤ) : ℝ) / b.qpc_freq

/-- How far the device is from where it is synthesized. -/
noncomputable def reach : ℝ := vecNorm (R - b.synthPosition R)

/-- A position of a blend-in is on the blend from where it began, and two consecutive positions are
    as close as a smoothstep over the shorter blend asks for. -/
structure Smooth (t : Tracked) : Prop where
  blend : ∀ c ∈ t.current, ∀ p ∈ c.blendIn, c.position = p
  near : ∀ p ∈ t.previous, ∀ c ∈ t.current,
    vecNorm (c.position - p.position) ≤
      1.5 * b.reach R * b.elapsedMs p.qpc_ns c.qpc_ns / b.blend_ms

/-- What is published is in time for what was published last.  A synthesized position that is
    somewhere else comes late enough.  A blend-in that has left its anchor is not published again,
    and it comes to its end in small steps. -/
def NoJump (t : Tracked) : HandoverEvent → Prop
  | .observe _ _ => True
  | .publish qpc_ns _ => ∀ c ∈ t.current,
    let ladder := t.slot.ladder.tick qpc_ns b.qpc_freq
    let start := t.slot.ladder.blend_in_start_qpc_ns
    match ladder.state.source with
    | .own => c.position ≠ R → start < c.qpc_ns →
      (1 - b.weight t.slot.ladder c.qpc_ns) * b.blend_ms ≤ 1.5 * b.elapsedMs c.qpc_ns qpc_ns
    | .synth => c.position ≠ b.synthPosition R →
      b.blend_ms ≤ 1.5 * b.elapsedMs c.qpc_ns qpc_ns
    | .blend => c.position ≠ R → start < c.qpc_ns →
      qpcMs (c.qpc_ns - start) b.qpc_freq = 0 ∧
        b.weight ladder qpc_ns * b.blend_ms ≤ 1.5 * b.elapsedMs c.qpc_ns qpc_ns
    | .nothing => True

end Bridge

/-! ## Weights and distances -/

theorem vecNorm_eq_zero {v : Fin 3 → ℝ} : vecNorm v = 0 ↔ v = 0 := by
  rw [vecNorm, Real.sqrt_eq_zero (by simpa using dotProduct_star_self_nonneg v)]
  simp

theorem vecNorm_pos {v : Fin 3 → ℝ} (h : v ≠ 0) : 0 < vecNorm v :=
  (vecNorm_nonneg v).lt_of_ne' fun h0 => h (vecNorm_eq_zero.1 h0)

theorem vecNorm_sub_comm (v w : Fin 3 → ℝ) : vecNorm (v - w) = vecNorm (w - v) := by
  rw [vecNorm, vecNorm, ← neg_sub, neg_dotProduct_neg]

/-- A blend and where it ends. -/
theorem sub_mixVec (A R : Fin 3 → ℝ) (w : ℝ) : R - mixVec A R w = (1 - w) • (R - A) := by
  funext i
  simp only [mixVec, mix, Pi.sub_apply, Pi.smul_apply, smul_eq_mul]
  ring

/-- A blend and where it begins. -/
theorem mixVec_sub (A R : Fin 3 → ℝ) (w : ℝ) : mixVec A R w - A = w • (R - A) := by
  funext i
  simp only [mixVec, mix, Pi.sub_apply, Pi.smul_apply, smul_eq_mul]
  ring

theorem mixVec_eq_right {A R : Fin 3 → ℝ} {w : ℝ} (hw : w < 1) (h : mixVec A R w = R) : A = R := by
  have hsub := sub_mixVec A R w
  rw [h, sub_self, eq_comm, smul_eq_zero] at hsub
  rcases hsub with hzero | hzero
  · linarith
  · exact (sub_eq_zero.1 hzero).symm

/-- A blend from a point that it has reached is another blend. -/
theorem mixVec_restart {A R : Fin 3 → ℝ} {w w' : ℝ} (hw : w' < 1) (hne : A ≠ R)
    (h : mixVec (mixVec A R w) R w' = mixVec A R w') : w = 0 := by
  have hsub : w • (1 - w') • (R - A) = 0 := by
    have hdiff := sub_eq_zero.2 h
    rw [← hdiff]
    funext i
    simp only [mixVec, mix, Pi.sub_apply, Pi.smul_apply, smul_eq_mul]
    ring
  refine (smul_eq_zero.1 hsub).resolve_right fun hzero => ?_
  rcases smul_eq_zero.1 hzero with hone | hzero
  · linarith
  · exact hne (sub_eq_zero.1 hzero).symm

theorem qpcMs_of_nonpos {dt_ns : ℤ} (h : dt_ns ≤ 0) (freq : ℤ) : qpcMs dt_ns freq = 0 :=
  if_pos (.inr h)

theorem qpcMs_nonneg {dt_ns freq : ℤ} (hfreq : 0 < freq) (h : dt_ns * 1000 < 2 ^ 63) :
    0 ≤ qpcMs dt_ns freq := by
  rcases le_total dt_ns 0 with hdt | hdt
  · exact (qpcMs_of_nonpos hdt freq).ge
  · rw [qpcMs_of_lt hfreq hdt h]
    exact Int.ediv_nonneg (by omega) hfreq.le

theorem qpcMs_mono {dt_ns dt_ns' freq : ℤ} (hfreq : 0 < freq) (hle : dt_ns ≤ dt_ns')
    (h : dt_ns' * 1000 < 2 ^ 63) : qpcMs dt_ns freq ≤ qpcMs dt_ns' freq := by
  rcases le_total dt_ns 0 with hdt | hdt
  · rw [qpcMs_of_nonpos hdt]
    exact qpcMs_nonneg hfreq h
  · rw [qpcMs_of_lt hfreq hdt (by omega), qpcMs_of_lt hfreq (hdt.trans hle) h]
    exact Int.ediv_le_ediv hfreq (by omega)

namespace Bridge

variable {b : Bridge} {R : Fin 3 → ℝ}

theorem blend_in_ms_pos : 0 < b.timings.blend_in_ms := by
  show 0 < (if b.config.blend_in_ms = 0 then _ else b.config.blend_in_ms)
  split
  next => decide
  next h => exact Nat.pos_of_ne_zero h

theorem blend_out_ms_pos : 0 < b.timings.blend_out_ms := by
  show 0 < (if b.config.blend_out_ms = 0 then _ else b.config.blend_out_ms)
  split
  next => decide
  next h => exact Nat.pos_of_ne_zero h

theorem blend_ms_pos : (0 : ℝ) < b.blend_ms :=
  Nat.cast_pos.2 (lt_min blend_out_ms_pos blend_in_ms_pos)

theorem blend_ms_le : (b.blend_ms : ℝ) ≤ b.timings.blend_in_ms :=
  Nat.cast_le.2 (min_le_right _ _)

theorem freq_cast_pos : (0 : ℝ) < b.qpc_freq := Int.cast_pos.2 b.qpc_freq_pos

theorem elapsedMs_nonneg {qpc_ns qpc_ns' : ℤ} (h : qpc_ns ≤ qpc_ns') :
    0 ≤ b.elapsedMs qpc_ns qpc_ns' := by
  have hcast : (0 : ℝ) ≤ (((qpc_ns' - qpc_ns) * 1000 : ℤ) : ℝ) := by
    exact_mod_cast (by omega : (0 : ℤ) ≤ (qpc_ns' - qpc_ns) * 1000)
  exact div_nonneg hcast freq_cast_pos.le

/-- `QpcMs` cuts a part of a millisecond off. -/
theorem qpcMs_le_elapsedMs {start qpc_ns qpc_ns' : ℤ} (hstart : qpc_ns ≤ start)
    (hle : start ≤ qpc_ns') (h : (qpc_ns' - start) * 1000 < 2 ^ 63) :
    (qpcMs (qpc_ns' - start) b.qpc_freq : ℝ) ≤ b.elapsedMs qpc_ns qpc_ns' := by
  rw [qpcMs_of_lt b.qpc_freq_pos (by omega) h, elapsedMs, le_div_iff₀ freq_cast_pos]
  have hdiv := Int.ediv_mul_le ((qpc_ns' - start) * 1000) b.qpc_freq_pos.ne'
  have hle' : (qpc_ns' - start) * 1000 ≤ (qpc_ns' - qpc_ns) * 1000 := by omega
  exact_mod_cast hdiv.trans hle'

/-- A bound on a part of the reach. -/
theorem near_of_share {D share elapsed : ℝ} (hD : 0 ≤ D)
    (h : share * b.blend_ms ≤ 1.5 * elapsed) : share * D ≤ 1.5 * D * elapsed / b.blend_ms := by
  rw [le_div_iff₀ blend_ms_pos]
  calc share * D * b.blend_ms = share * b.blend_ms * D := by ring
    _ ≤ 1.5 * elapsed * D := mul_le_mul_of_nonneg_right h hD
    _ = 1.5 * D * elapsed := by ring

theorem share_of_near {D share elapsed : ℝ} (hD : 0 < D)
    (h : share * D ≤ 1.5 * D * elapsed / b.blend_ms) : share * b.blend_ms ≤ 1.5 * elapsed := by
  rw [le_div_iff₀ blend_ms_pos] at h
  apply le_of_mul_le_mul_right _ hD
  calc share * b.blend_ms * D = share * D * b.blend_ms := by ring
    _ ≤ 1.5 * D * elapsed := h
    _ = 1.5 * elapsed * D := by ring

theorem near_self {D elapsed : ℝ} (hD : 0 ≤ D) (helapsed : 0 ≤ elapsed) (v : Fin 3 → ℝ) :
    vecNorm (v - v) ≤ 1.5 * D * elapsed / b.blend_ms := by
  rw [sub_self, vecNorm_eq_zero.2 rfl]
  have := blend_ms_pos (b := b)
  positivity

variable (b) in
/-- A blend-in of this bridge is going on. -/
structure Blends (ladder : DropoutState) : Prop where
  state : ladder.state = .BLEND_IN
  timings : ladder.timings = b.timings
  start_nonneg : 0 ≤ ladder.blend_in_start_qpc_ns

namespace Blends

variable {ladder : DropoutState} (h : b.Blends ladder) {qpc_ns : ℤ}
include h

theorem weight_eq (qpc_ns : ℤ) : b.weight ladder qpc_ns =
    smoothstep ((qpcMs (qpc_ns - ladder.blend_in_start_qpc_ns) b.qpc_freq : ℝ) /
      b.timings.blend_in_ms) := by
  have hout : ¬ (ladder.state = .BLEND_OUT ∧ ladder.dropout_start_qpc_ns ≥ 0) := by
    rw [h.state]
    rintro ⟨hstate, -⟩
    cases hstate
  have hmax : max 1 ladder.timings.blend_in_ms = b.timings.blend_in_ms := by
    rw [h.timings]
    exact max_eq_right blend_in_ms_pos
  rw [weight, DropoutState.blend_alpha, if_neg hout, if_pos ⟨h.state, h.start_nonneg⟩, hmax,
    clamp01_clamp01]
  exact smoothstep_clamp01 _

/-- Nothing is blended in before the blend-in began. -/
theorem weight_before (hle : qpc_ns ≤ ladder.blend_in_start_qpc_ns) : b.weight ladder qpc_ns = 0 := by
  rw [h.weight_eq, qpcMs_of_nonpos (by omega), Int.cast_zero, zero_div, smoothstep_zero]

theorem weight_lt_one
    (hage : qpcMs (qpc_ns - ladder.blend_in_start_qpc_ns) b.qpc_freq < b.timings.blend_in_ms) :
    b.weight ladder qpc_ns < 1 := by
  rw [h.weight_eq]
  have hpos : (0 : ℝ) < b.timings.blend_in_ms := Nat.cast_pos.2 blend_in_ms_pos
  apply smoothstep_lt_one
  rw [div_lt_one hpos]
  exact_mod_cast hage

theorem weight_eq_zero_iff (hfits : qpc_ns * 1000 < 2 ^ 63) : b.weight ladder qpc_ns = 0 ↔
    qpcMs (qpc_ns - ladder.blend_in_start_qpc_ns) b.qpc_freq = 0 := by
  have hstart := h.start_nonneg
  have hms : 0 ≤ qpcMs (qpc_ns - ladder.blend_in_start_qpc_ns) b.qpc_freq :=
    qpcMs_nonneg b.qpc_freq_pos (by omega)
  rw [h.weight_eq]
  constructor
  · intro hzero
    by_contra hne
    have hpos : (0 : ℝ) < b.timings.blend_in_ms := Nat.cast_pos.2 blend_in_ms_pos
    have hms' : (0 : ℝ) < qpcMs (qpc_ns - ladder.blend_in_start_qpc_ns) b.qpc_freq := by
      exact_mod_cast lt_of_le_of_ne hms (Ne.symm hne)
    exact (smoothstep_pos (div_pos hms' hpos)).ne' hzero
  · intro hzero
    rw [hzero, Int.cast_zero, zero_div, smoothstep_zero]

/-- From before its beginning on, the blend rises slowly enough. -/
theorem weight_le {qpc_ns' : ℤ} (hle : qpc_ns ≤ ladder.blend_in_start_qpc_ns)
    (hle' : ladder.blend_in_start_qpc_ns ≤ qpc_ns') (hfits : qpc_ns' * 1000 < 2 ^ 63) :
    b.weight ladder qpc_ns' * b.blend_ms ≤ 1.5 * b.elapsedMs qpc_ns qpc_ns' := by
  have hstart := h.start_nonneg
  have hpos : (0 : ℝ) < b.timings.blend_in_ms := Nat.cast_pos.2 blend_in_ms_pos
  have hms : (0 : ℝ) ≤ qpcMs (qpc_ns' - ladder.blend_in_start_qpc_ns) b.qpc_freq := by
    exact_mod_cast qpcMs_nonneg b.qpc_freq_pos (by omega)
  have hrise := smoothstep_le_add (div_nonneg hms hpos.le)
  rw [← h.weight_eq, smoothstep_zero, sub_zero, zero_add] at hrise
  have hcap := qpcMs_le_elapsedMs (b := b) hle hle' (by omega)
  have hweight : 0 ≤ b.weight ladder qpc_ns' := by
    rw [h.weight_eq]
    exact smoothstep_nonneg _
  calc b.weight ladder qpc_ns' * b.blend_ms
      ≤ b.weight ladder qpc_ns' * b.timings.blend_in_ms :=
        mul_le_mul_of_nonneg_left blend_ms_le hweight
    _ ≤ 3 / 2 * (qpcMs (qpc_ns' - ladder.blend_in_start_qpc_ns) b.qpc_freq /
          b.timings.blend_in_ms) * b.timings.blend_in_ms :=
        mul_le_mul_of_nonneg_right hrise hpos.le
    _ = 3 / 2 * qpcMs (qpc_ns' - ladder.blend_in_start_qpc_ns) b.qpc_freq := by field_simp
    _ ≤ 1.5 * b.elapsedMs qpc_ns qpc_ns' := by linarith

end Blends

/-! ## The invariant -/

variable (b R) in
/-- A blend-in, and where it is. -/
structure BlendsFrom (t : Tracked) (A : Fin 3 → ℝ) (c : Published) : Prop where
  blends : b.Blends t.slot.ladder
  start_le : t.slot.ladder.blend_in_start_qpc_ns ≤ t.clock
  anchor : t.anchor = some A
  ends : A = R ∨ A = b.synthPosition R
  current : t.current = some c
  position : c.position = mixVec A R (b.weight t.slot.ladder c.qpc_ns)

variable (b R) in
/-- Where the device was published last, by the source of its ladder's state. -/
def PlacedBy (t : Tracked) : Source → Prop
  | .own => ∀ c ∈ t.current, c.position = R
  | .synth => ∀ c ∈ t.current, c.position = b.synthPosition R
  | .blend => ∃ A c, b.BlendsFrom R t A c
  | .nothing => False

variable (b R) in
structure HandoverInv (t : Tracked) : Prop where
  clock_nonneg : 0 ≤ t.clock
  fits : t.clock * 1000 < 2 ^ 63
  history : RestHistory R t.slot.history
  last : t.slot.last_published.map (fun last => last.vecPosition) =
    t.current.map fun c => c.position
  earlier : ∀ c ∈ t.current, c.qpc_ns ≤ t.clock
  shown : t.slot.ladder.InDropout → ∃ c, t.current = some c
  placed : b.PlacedBy R t t.slot.ladder.state.source
  smooth : b.Smooth R t

theorem reach_nonneg : 0 ≤ b.reach R := vecNorm_nonneg _

theorem reach_pos (h : R ≠ b.synthPosition R) : 0 < b.reach R :=
  vecNorm_pos (sub_ne_zero.2 h)

theorem BlendsFrom.reach {t : Tracked} {A : Fin 3 → ℝ} {c : Published}
    (h : b.BlendsFrom R t A c) (hne : A ≠ R) : vecNorm (R - A) = b.reach R := by
  rw [h.ends.resolve_left hne]
  rfl

/-- A blend-in that is not at its end yet did not begin there. -/
theorem BlendsFrom.anchor_ne {t : Tracked} {A : Fin 3 → ℝ} {c : Published}
    (h : b.BlendsFrom R t A c) (hne : c.position ≠ R) : A ≠ R := by
  rintro rfl
  exact hne (h.position.trans (mixVec_self _ _))

/-! ## What is published -/

variable (b R) in
/-- What publishing at `N` does to the device. -/
structure Publishes (t : Tracked) (qpc_ns : ℤ) (N : Fin 3 → ℝ) (t' : Tracked) : Prop where
  ladder : t'.slot.ladder = t.slot.ladder.tick qpc_ns b.qpc_freq
  history : t'.slot.history = t.slot.history
  last : t'.slot.last_published.map (fun last => last.vecPosition) = some N
  clock : t'.clock = qpc_ns
  anchor : t'.anchor = t.anchor
  previous : t'.previous = t.current
  current : t'.current = some
    { qpc_ns := qpc_ns
      position := N
      blendIn :=
        if t'.slot.ladder.state = .BLEND_IN then
          t.anchor.map fun anchor => mixVec anchor R (b.weight t'.slot.ladder qpc_ns)
        else none }

theorem publishes_of_step {t t' : Tracked} {qpc_ns : ℤ} {pose : DriverPose_t}
    (hhistory : RestHistory R t.slot.history) (hpose : pose.vecPosition = R)
    (hstep : b.step R t (.publish qpc_ns pose) = some t') :
    t.clock ≤ qpc_ns ∧ ∃ N, b.Publishes R t qpc_ns N t' ∧
      b.restPosition R t.slot (t.slot.ladder.tick qpc_ns b.qpc_freq) qpc_ns = some N := by
  have hrest := MaybeOverridePose_rest b hhistory hpose qpc_ns
  unfold step at hstep
  dsimp only at hstep
  split at hstep
  next hclock =>
    obtain ⟨out, hout, rfl⟩ := Option.map_eq_some_iff.1 hstep
    rw [hout, Option.map_some] at hrest
    refine ⟨hclock, out.vecPosition, ⟨rfl, rfl, ?_, rfl, rfl, rfl, rfl⟩, hrest.symm⟩
    show Option.map _ ((b.MaybeOverridePose t.slot qpc_ns pose).2 <|> t.slot.last_published) = _
    rw [hout]
    rfl
  next => cases hstep

variable {t : Tracked} {qpc_ns : ℤ} {N : Fin 3 → ℝ}

/-- Which source is shown, and which one was. -/
theorem publish_cases (h : b.HandoverInv R t)
    (hN : b.restPosition R t.slot (t.slot.ladder.tick qpc_ns b.qpc_freq) qpc_ns = some N) :
    ((t.slot.ladder.tick qpc_ns b.qpc_freq).state.source = .own ∧ N = R ∧
      ∀ c ∈ t.current, c.position = R) ∨
    ((t.slot.ladder.tick qpc_ns b.qpc_freq).state = .REAL ∧ N = R ∧
      ∃ A c, b.BlendsFrom R t A c ∧ (b.timings.blend_in_ms : ℤ) ≤
        qpcMs (qpc_ns - t.slot.ladder.blend_in_start_qpc_ns) b.qpc_freq) ∨
    ((t.slot.ladder.tick qpc_ns b.qpc_freq).state.source = .synth ∧ N = b.synthPosition R ∧
      ∀ c ∈ t.current, c.position = R ∨ c.position = b.synthPosition R) ∨
    (t.slot.ladder.tick qpc_ns b.qpc_freq = t.slot.ladder ∧
      ∃ A c, b.BlendsFrom R t A c ∧ N = mixVec c.position R (b.weight t.slot.ladder qpc_ns) ∧
        qpcMs (qpc_ns - t.slot.ladder.blend_in_start_qpc_ns) b.qpc_freq <
          b.timings.blend_in_ms) := by
  have hplaced := h.placed
  unfold restPosition at hN
  cases hsource : t.slot.ladder.state.source with
  | own =>
    rw [hsource] at hplaced
    cases hnext : (t.slot.ladder.tick qpc_ns b.qpc_freq).state.source with
    | own =>
      rw [hnext] at hN
      exact .inl ⟨rfl, (Option.some.inj hN).symm, hplaced⟩
    | synth =>
      rw [hnext] at hN
      exact .inr (.inr (.inl ⟨rfl, (Option.some.inj hN).symm, fun c hc => .inl (hplaced c hc)⟩))
    | blend => exact absurd hnext (DropoutState.tick_source_ne_blend hsource)
    | nothing =>
      rw [hnext] at hN
      cases hN
  | synth =>
    rw [hsource] at hplaced
    have hpast : (t.slot.ladder.tick qpc_ns b.qpc_freq).Past := DropoutState.Past.tick (.inl hsource)
    rcases hpast with hnext | hnext
    · rw [hnext] at hN
      exact .inr (.inr (.inl ⟨hnext, (Option.some.inj hN).symm, fun c hc => .inr (hplaced c hc)⟩))
    · rw [hnext] at hN
      cases hN
  | blend =>
    rw [hsource] at hplaced
    obtain ⟨A, c, hfrom⟩ := hplaced
    have hlast := h.last
    rw [hfrom.current, Option.map_some] at hlast
    obtain ⟨last, hlast, hposition⟩ := Option.map_eq_some_iff.1 hlast
    rcases DropoutState.tick_blending hfrom.blends.state hfrom.blends.start_nonneg
        with ⟨hage, htick⟩ | ⟨hage, hreal⟩
    · rw [htick, hsource, hlast] at hN
      rw [hfrom.blends.timings] at hage
      exact .inr (.inr (.inr ⟨htick, A, c, hfrom, by rw [← hposition]; exact (Option.some.inj hN).symm,
        hage⟩))
    · rw [hreal] at hN
      rw [hfrom.blends.timings] at hage
      exact .inr (.inl ⟨hreal, (Option.some.inj hN).symm, A, c, hfrom, hage⟩)
  | nothing =>
    rw [hsource] at hplaced
    exact hplaced.elim

theorem source_of_real {ladder : DropoutState} (h : ladder.state = .REAL) :
    ladder.state.source = .own := by
  rw [h]
  rfl

theorem source_of_blends {ladder : DropoutState} (h : b.Blends ladder) :
    ladder.state.source = .blend := by
  rw [h.state]
  rfl

section Near

variable {c : Published} {pose : DriverPose_t}

/-- How far the end of a blend-in is from where the device was published last. -/
theorem BlendsFrom.left {A : Fin 3 → ℝ} (h : b.BlendsFrom R t A c) (hne : A ≠ R) :
    vecNorm (R - c.position) = (1 - b.weight t.slot.ladder c.qpc_ns) * b.reach R := by
  have hweight : 0 ≤ 1 - b.weight t.slot.ladder c.qpc_ns := by
    rw [h.blends.weight_eq]
    exact sub_nonneg.2 (smoothstep_le_one _)
  rw [h.position, sub_mixVec, vecNorm_smul hweight, h.reach hne]

/-- How far a blend goes on from its anchor. -/
theorem BlendsFrom.onward {A : Fin 3 → ℝ} (h : b.BlendsFrom R t A c) (hne : A ≠ R)
    (qpc_ns : ℤ) : vecNorm (mixVec A R (b.weight t.slot.ladder qpc_ns) - A) =
      b.weight t.slot.ladder qpc_ns * b.reach R := by
  have hweight : 0 ≤ b.weight t.slot.ladder qpc_ns := by
    rw [h.blends.weight_eq]
    exact smoothstep_nonneg _
  rw [mixVec_sub, vecNorm_smul hweight, h.reach hne]

/-- A blend-in that has not left its anchor is there. -/
theorem BlendsFrom.position_of_weight {A : Fin 3 → ℝ} (h : b.BlendsFrom R t A c)
    (hzero : b.weight t.slot.ladder c.qpc_ns = 0) : c.position = A := by
  rw [h.position, hzero, mixVec_zero]

/-- **A call that is in time publishes close by.** -/
theorem publish_near (h : b.HandoverInv R t) (hclock : t.clock ≤ qpc_ns)
    (hfits : qpc_ns * 1000 < 2 ^ 63)
    (hN : b.restPosition R t.slot (t.slot.ladder.tick qpc_ns b.qpc_freq) qpc_ns = some N)
    (hjump : b.NoJump R t (.publish qpc_ns pose)) (hc : t.current = some c) :
    vecNorm (N - c.position) ≤
      1.5 * b.reach R * b.elapsedMs c.qpc_ns qpc_ns / b.blend_ms := by
  have hearlier : c.qpc_ns ≤ t.clock := h.earlier c hc
  have helapsed : 0 ≤ b.elapsedMs c.qpc_ns qpc_ns := elapsedMs_nonneg (by omega)
  have hsame : ∀ v, vecNorm (v - v) ≤
      1.5 * b.reach R * b.elapsedMs c.qpc_ns qpc_ns / b.blend_ms :=
    near_self reach_nonneg helapsed
  have hjump := hjump c hc
  dsimp only at hjump
  rcases publish_cases h hN with ⟨-, rfl, hown⟩ | ⟨hreal, hNR, A, c', hfrom, hage⟩ |
    ⟨hsynth, rfl, hshown⟩ | ⟨htick, A, c', hfrom, rfl, hage⟩
  · rw [hown c hc]
    exact hsame _
  · obtain rfl : c' = c := Option.some.inj (hfrom.current.symm.trans hc)
    rw [source_of_real hreal] at hjump
    rw [hNR]
    by_cases hend : c'.position = R
    · rw [hend]
      exact hsame _
    · rw [hfrom.left (hfrom.anchor_ne hend)]
      refine near_of_share reach_nonneg ?_
      rcases lt_or_ge t.slot.ladder.blend_in_start_qpc_ns c'.qpc_ns with hlt | hle
      · exact hjump hend hlt
      · -- nothing of this blend-in was published, and it took its whole time
        have hstart := hfrom.blends.start_nonneg
        have hms := qpcMs_le_elapsedMs (b := b) hle (hfrom.start_le.trans hclock) (by omega)
        have hage' : (b.timings.blend_in_ms : ℝ) ≤
            qpcMs (qpc_ns - t.slot.ladder.blend_in_start_qpc_ns) b.qpc_freq := by
          exact_mod_cast hage
        have hblend := blend_ms_le (b := b)
        rw [hfrom.blends.weight_before hle]
        linarith
  · rw [hsynth] at hjump
    rcases hshown c hc with hR | hS
    · by_cases hsame' : c.position = b.synthPosition R
      · rw [hsame']
        exact hsame _
      · rw [hR, vecNorm_sub_comm, ← one_mul (vecNorm _)]
        apply near_of_share reach_nonneg
        rw [one_mul]
        exact hjump hsame'
    · rw [hS]
      exact hsame _
  · obtain rfl : c' = c := Option.some.inj (hfrom.current.symm.trans hc)
    rw [htick, source_of_blends hfrom.blends] at hjump
    by_cases hend : c'.position = R
    · rw [hend, mixVec_self]
      exact hsame _
    · have hne := hfrom.anchor_ne hend
      rcases lt_or_ge t.slot.ladder.blend_in_start_qpc_ns c'.qpc_ns with hlt | hle
      · obtain ⟨hms, hshare⟩ := hjump hend hlt
        have hzero := (hfrom.blends.weight_eq_zero_iff (by omega)).2 hms
        rw [hfrom.position_of_weight hzero, hfrom.onward hne]
        exact near_of_share reach_nonneg hshare
      · have hzero := hfrom.blends.weight_before hle
        rw [hfrom.position_of_weight hzero, hfrom.onward hne]
        exact near_of_share reach_nonneg
          (hfrom.blends.weight_le hle (hfrom.start_le.trans hclock) hfits)

/-- A call that is in time publishes on the blend from where it began. -/
theorem publish_blend (h : b.HandoverInv R t) (hclock : t.clock ≤ qpc_ns)
    (hfits : qpc_ns * 1000 < 2 ^ 63) (hjump : b.NoJump R t (.publish qpc_ns pose))
    {A : Fin 3 → ℝ} (hfrom : b.BlendsFrom R t A c)
    (htick : t.slot.ladder.tick qpc_ns b.qpc_freq = t.slot.ladder)
    (hage : qpcMs (qpc_ns - t.slot.ladder.blend_in_start_qpc_ns) b.qpc_freq <
      b.timings.blend_in_ms) :
    mixVec c.position R (b.weight t.slot.ladder qpc_ns) =
      mixVec A R (b.weight t.slot.ladder qpc_ns) := by
  have hearlier : c.qpc_ns ≤ t.clock := h.earlier c hfrom.current
  have hstart := hfrom.blends.start_nonneg
  have hjump := hjump c hfrom.current
  dsimp only at hjump
  rw [htick, source_of_blends hfrom.blends] at hjump
  by_cases hend : c.position = R
  · -- the blend is at its end before its time only if it began there
    have hmono : qpcMs (c.qpc_ns - t.slot.ladder.blend_in_start_qpc_ns) b.qpc_freq ≤
        qpcMs (qpc_ns - t.slot.ladder.blend_in_start_qpc_ns) b.qpc_freq :=
      qpcMs_mono b.qpc_freq_pos (by omega) (by omega)
    have hlt := hfrom.blends.weight_lt_one (hmono.trans_lt hage)
    rw [hend, mixVec_eq_right hlt (hfrom.position.symm.trans hend)]
  · have hzero : b.weight t.slot.ladder c.qpc_ns = 0 := by
      rcases lt_or_ge t.slot.ladder.blend_in_start_qpc_ns c.qpc_ns with hlt | hle
      · exact (hfrom.blends.weight_eq_zero_iff (by omega)).2 (hjump hend hlt).1
      · exact hfrom.blends.weight_before hle
    rw [hfrom.position_of_weight hzero]

/-- **What is published close by, and on its blend, was in time.** -/
theorem noJump_of_smooth (h : b.HandoverInv R t) (hclock : t.clock ≤ qpc_ns)
    (hfits : qpc_ns * 1000 < 2 ^ 63) {t' : Tracked} (hpublishes : b.Publishes R t qpc_ns N t')
    (hN : b.restPosition R t.slot (t.slot.ladder.tick qpc_ns b.qpc_freq) qpc_ns = some N)
    (hsmooth : b.Smooth R t') : b.NoJump R t (.publish qpc_ns pose) := by
  intro c hc
  have hearlier : c.qpc_ns ≤ t.clock := h.earlier c hc
  have hnear := hsmooth.near c (hpublishes.previous.trans hc) _ hpublishes.current
  dsimp only at hnear ⊢
  rcases publish_cases h hN with ⟨hsource, rfl, hown⟩ | ⟨hreal, hNR, A, c', hfrom, -⟩ |
    ⟨hsynth, rfl, hshown⟩ | ⟨htick, A, c', hfrom, rfl, hage⟩
  · rw [hsource]
    intro hne
    exact absurd (hown c hc) hne
  · obtain rfl : c' = c := Option.some.inj (hfrom.current.symm.trans hc)
    rw [source_of_real hreal]
    intro hend _
    have hne := hfrom.anchor_ne hend
    rw [hNR, hfrom.left hne] at hnear
    have hreach : 0 < b.reach R := hfrom.reach hne ▸ vecNorm_pos (sub_ne_zero.2 hne.symm)
    exact share_of_near hreach hnear
  · rw [hsynth]
    intro hne
    have hR := (hshown c hc).resolve_right hne
    rw [hR] at hne
    rw [hR, vecNorm_sub_comm, ← one_mul (vecNorm _)] at hnear
    have hshare := share_of_near (reach_pos hne) hnear
    rwa [one_mul] at hshare
  · obtain rfl : c' = c := Option.some.inj (hfrom.current.symm.trans hc)
    rw [htick, source_of_blends hfrom.blends]
    intro hend _
    have hne := hfrom.anchor_ne hend
    have hblend := hsmooth.blend _ hpublishes.current
      (mixVec A R (b.weight t.slot.ladder qpc_ns)) (by
        show _ = some _
        rw [hpublishes.ladder, htick, if_pos hfrom.blends.state, hfrom.anchor]
        rfl)
    dsimp only at hblend
    have hzero : b.weight t.slot.ladder c'.qpc_ns = 0 := by
      rw [hfrom.position] at hblend
      exact mixVec_restart (hfrom.blends.weight_lt_one hage) hne hblend
    refine ⟨(hfrom.blends.weight_eq_zero_iff (by omega)).1 hzero, ?_⟩
    rw [hfrom.position_of_weight hzero, hfrom.onward hne] at hnear
    have hreach : 0 < b.reach R := hfrom.reach hne ▸ vecNorm_pos (sub_ne_zero.2 hne.symm)
    exact share_of_near hreach hnear

end Near

/-! ## Runs -/

theorem handoverInv_new : b.HandoverInv R .new where
  clock_nonneg := le_rfl
  fits := by decide
  history sample hsample := by
    rw [show (Tracked.new.slot.history.GetNewest 0) = none from if_pos le_rfl] at hsample
    cases hsample
  last := rfl
  earlier c hc := by cases hc
  shown h := absurd rfl h.1
  placed := by
    intro c hc
    cases hc
  smooth := by
    constructor
    · intro c hc
      cases hc
    · intro p hp
      cases hp

/-- An observed pose does not end a blend-in. -/
theorem BlendsFrom.observe {t t' : Tracked} {A : Fin 3 → ℝ} {c : Published}
    (h : b.BlendsFrom R t A c) (hblends : b.Blends t'.slot.ladder)
    (hstart : t'.slot.ladder.blend_in_start_qpc_ns = t.slot.ladder.blend_in_start_qpc_ns)
    (hclock : t.clock ≤ t'.clock) (hanchor : t'.anchor = t.anchor)
    (hcurrent : t'.current = t.current) : b.BlendsFrom R t' A c where
  blends := hblends
  start_le := hstart.trans_le (h.start_le.trans hclock)
  anchor := hanchor.trans h.anchor
  ends := h.ends
  current := hcurrent.trans h.current
  position := by rw [h.position, h.blends.weight_eq, hblends.weight_eq, hstart]

/-- A blend-in begins where the device was published last. -/
theorem blendsFrom_began {t' : Tracked} {c : Published} (hblends : b.Blends t'.slot.ladder)
    (hstart : t'.slot.ladder.blend_in_start_qpc_ns = t'.clock)
    (hanchor : t'.anchor = some c.position) (hcurrent : t'.current = some c)
    (hearlier : c.qpc_ns ≤ t'.clock)
    (hends : c.position = R ∨ c.position = b.synthPosition R) :
    b.BlendsFrom R t' c.position c where
  blends := hblends
  start_le := hstart.le
  anchor := hanchor
  ends := hends
  current := hcurrent
  position := by rw [hblends.weight_before (hearlier.trans hstart.ge), mixVec_zero]

/-- In a dropout the device was published at one of its two places. -/
theorem HandoverInv.ends {c : Published} (h : b.HandoverInv R t)
    (hdrop : t.slot.ladder.InDropout) (hc : t.current = some c) :
    c.position = R ∨ c.position = b.synthPosition R := by
  have hplaced := h.placed
  cases hstate : t.slot.ladder.state <;> rw [hstate] at hplaced
  case REAL | BLEND_OUT => exact .inl (hplaced c hc)
  case SYNTH_RECKON | SYNTH_IK | SYNTH_ML | OUT_OF_RANGE => exact .inr (hplaced c hc)
  case BLEND_IN => exact absurd hstate hdrop.2
  case LOST => exact hplaced.elim

variable (b) in
/-- What observing a pose does to the device. -/
structure Observes (t : Tracked) (qpc_ns : ℤ) (pose : DriverPose_t) (t' : Tracked) : Prop where
  history : t'.slot.history = t.slot.history.Push qpc_ns pose
  last : t'.slot.last_published = t.slot.last_published
  clock : t'.clock = qpc_ns
  previous : t'.previous = t.previous
  current : t'.current = t.current
  timings : t'.slot.ladder.timings = b.timings
  ladder :
    (t'.slot.ladder.state = t.slot.ladder.state ∧ t'.anchor = t.anchor ∧
      t'.slot.ladder.blend_in_start_qpc_ns = t.slot.ladder.blend_in_start_qpc_ns) ∨
    (t.slot.ladder.InDropout ∧ t'.slot.ladder.state = .BLEND_IN ∧
      t'.anchor = t.current.map (fun c => c.position) ∧
      t'.slot.ladder.blend_in_start_qpc_ns = qpc_ns)

theorem observes_of_step {t t' : Tracked} {pose : DriverPose_t}
    (hstep : b.step R t (.observe qpc_ns pose) = some t') :
    t.clock ≤ qpc_ns ∧ b.Observes t qpc_ns pose t' := by
  unfold step at hstep
  dsimp only at hstep
  split at hstep
  next hclock =>
    obtain ⟨htimings, hcases⟩ := DropoutState.onRealPoseObserved_cases
      ((t.slot.ladder.setTimings b.timings).setIkAvailable
        (b.role ≠ noRole && b.ik_fallback.HasOffset b.role)) qpc_ns (ladderPose pose)
    cases hstep
    refine ⟨hclock, rfl, rfl, rfl, rfl, rfl, htimings, ?_⟩
    rcases hcases with ⟨hstate, hstart⟩ | ⟨hdrop, hstate, hstart⟩
    · exact .inl ⟨hstate, if_neg fun hnew => hnew.2 (hstate.symm.trans hnew.1), hstart⟩
    · exact .inr ⟨hdrop, hstate, if_pos ⟨hstate, hdrop.2⟩, hstart⟩
  next => cases hstep

/-- An observed pose publishes nothing. -/
theorem observe_inv {t t' : Tracked} {pose : DriverPose_t} (h : b.HandoverInv R t)
    (hrest : AtRest R pose) (hregular : (HandoverEvent.observe qpc_ns pose).Regular)
    (hstep : b.step R t (.observe qpc_ns pose) = some t') : b.HandoverInv R t' := by
  obtain ⟨hclock, hobserves⟩ := observes_of_step hstep
  have hnonneg := h.clock_nonneg
  have hcurrent := hobserves.current
  refine ⟨?_, ?_, ?_, ?_, ?_, ?_, ?_, ⟨?_, ?_⟩⟩
  · rw [hobserves.clock]
    exact hnonneg.trans hclock
  · rw [hobserves.clock]
    exact hregular.1
  · rw [hobserves.history]
    exact .push hrest hregular.2 qpc_ns
  · rw [hobserves.last, hcurrent]
    exact h.last
  · intro c hc
    rw [hcurrent] at hc
    rw [hobserves.clock]
    exact (h.earlier c hc).trans hclock
  · intro hdrop
    rw [hcurrent]
    rcases hobserves.ladder with ⟨hstate, -⟩ | ⟨-, hstate, -⟩
    · exact h.shown ⟨hstate ▸ hdrop.1, hstate ▸ hdrop.2⟩
    · exact absurd hstate hdrop.2
  · rcases hobserves.ladder with ⟨hstate, hanchor, hstart⟩ | ⟨hdrop, hstate, hanchor, hstart⟩
    · have hplaced := h.placed
      rw [hstate]
      cases hsource : t.slot.ladder.state.source with
      | own =>
        rw [hsource] at hplaced
        intro c hc
        exact hplaced c (hcurrent ▸ hc)
      | synth =>
        rw [hsource] at hplaced
        intro c hc
        exact hplaced c (hcurrent ▸ hc)
      | blend =>
        rw [hsource] at hplaced
        obtain ⟨A, c, hfrom⟩ := hplaced
        refine ⟨A, c, hfrom.observe ⟨hstate.trans hfrom.blends.state, hobserves.timings, ?_⟩ hstart
          (hclock.trans_eq hobserves.clock.symm) hanchor hcurrent⟩
        rw [hstart]
        exact hfrom.blends.start_nonneg
      | nothing =>
        rw [hsource] at hplaced
        exact hplaced.elim
    · obtain ⟨c, hc⟩ := h.shown hdrop
      have hearlier : c.qpc_ns ≤ t'.clock := by
        rw [hobserves.clock]
        exact (h.earlier c hc).trans hclock
      have hblends : b.Blends t'.slot.ladder := ⟨hstate, hobserves.timings, by omega⟩
      rw [hstate]
      rw [hc] at hanchor hcurrent
      exact ⟨c.position, c, blendsFrom_began hblends (hstart.trans hobserves.clock.symm) hanchor
        hcurrent hearlier (h.ends hdrop hc)⟩
  · rw [hcurrent]
    exact h.smooth.blend
  · rw [hobserves.previous, hcurrent]
    exact h.smooth.near

/-- **Publishing in time keeps the invariant.** -/
theorem publish_inv {t t' : Tracked} {pose : DriverPose_t} (h : b.HandoverInv R t)
    (hrest : AtRest R pose) (hregular : (HandoverEvent.publish qpc_ns pose).Regular)
    (hjump : b.NoJump R t (.publish qpc_ns pose))
    (hstep : b.step R t (.publish qpc_ns pose) = some t') : b.HandoverInv R t' := by
  have hfits : qpc_ns * 1000 < 2 ^ 63 := hregular.1
  obtain ⟨hclock, N, hpublishes, hN⟩ := publishes_of_step h.history hrest.position hstep
  have hcurrent := hpublishes.current
  refine ⟨?_, ?_, ?_, ?_, ?_, fun _ => ⟨_, hcurrent⟩, ?_, ⟨?_, ?_⟩⟩
  · rw [hpublishes.clock]
    exact h.clock_nonneg.trans hclock
  · rw [hpublishes.clock]
    exact hfits
  · rw [hpublishes.history]
    exact h.history
  · rw [hpublishes.last, hcurrent]
    rfl
  · intro c hc
    rw [hcurrent, Option.mem_def, Option.some.injEq] at hc
    rw [← hc, hpublishes.clock]
  · rw [hpublishes.ladder]
    rcases publish_cases h hN with ⟨hsource, hNR, -⟩ | ⟨hreal, hNR, -⟩ | ⟨hsynth, hNS, -⟩ |
      ⟨htick, A, c, hfrom, hNblend, hage⟩
    · rw [hsource]
      intro c hc
      rw [hcurrent, Option.mem_def, Option.some.injEq] at hc
      rw [← hc, ← hNR]
    · rw [source_of_real hreal]
      intro c hc
      rw [hcurrent, Option.mem_def, Option.some.injEq] at hc
      rw [← hc, ← hNR]
    · rw [hsynth]
      intro c hc
      rw [hcurrent, Option.mem_def, Option.some.injEq] at hc
      rw [← hc, ← hNS]
    · rw [htick, source_of_blends hfrom.blends]
      have hladder := hpublishes.ladder.trans htick
      refine ⟨A, _, ⟨hladder ▸ hfrom.blends, ?_, hpublishes.anchor.trans hfrom.anchor, hfrom.ends,
        hcurrent, ?_⟩⟩
      · rw [hladder, hpublishes.clock]
        exact hfrom.start_le.trans hclock
      · rw [hladder]
        exact hNblend.trans (publish_blend h hclock hfits hjump hfrom htick hage)
  · intro c hc p hp
    rw [hcurrent, Option.mem_def, Option.some.injEq] at hc
    subst hc
    dsimp only at hp ⊢
    split at hp
    next hstate =>
      rw [hpublishes.ladder] at hstate
      rcases publish_cases h hN with ⟨hsource, -⟩ | ⟨hreal, -⟩ | ⟨hsynth, -⟩ |
        ⟨htick, A, c, hfrom, hNblend, hage⟩
      · rw [hstate] at hsource
        cases hsource
      · rw [hstate] at hreal
        cases hreal
      · rw [hstate] at hsynth
        cases hsynth
      · rw [hfrom.anchor, hpublishes.ladder, htick] at hp
        cases hp
        exact hNblend.trans (publish_blend h hclock hfits hjump hfrom htick hage)
    next => cases hp
  · intro p hp c hc
    rw [hpublishes.previous] at hp
    rw [hcurrent, Option.mem_def, Option.some.injEq] at hc
    subst hc
    exact publish_near h hclock hfits hN hjump hp

/-- An event of a device at rest, with what its step needs. -/
def Resting (R : Fin 3 → ℝ) (e : HandoverEvent) : Prop := e.Regular ∧ AtRest R e.pose

theorem step_inv {t t' : Tracked} {e : HandoverEvent} (h : b.HandoverInv R t)
    (hrest : Resting R e) (hjump : b.NoJump R t e) (hstep : b.step R t e = some t') :
    b.HandoverInv R t' := by
  cases e with
  | observe qpc_ns pose => exact observe_inv h hrest.2 hrest.1 hstep
  | publish qpc_ns pose => exact publish_inv h hrest.2 hrest.1 hjump hstep

theorem noJump_of_step {t t' : Tracked} {e : HandoverEvent} (h : b.HandoverInv R t)
    (hrest : Resting R e) (hstep : b.step R t e = some t') (hsmooth : b.Smooth R t') :
    b.NoJump R t e := by
  cases e with
  | observe qpc_ns pose => trivial
  | publish qpc_ns pose =>
    obtain ⟨hclock, N, hpublishes, hN⟩ := publishes_of_step h.history hrest.2.position hstep
    exact noJump_of_smooth h hclock hrest.1.1 hpublishes hN hsmooth

/-- **Smooth runs are the runs of calls that are in time.** -/
theorem handover_smooth {events : List HandoverEvent} (hrest : ∀ e ∈ events, Resting R e) :
    Always (b.step R) (b.Smooth R) .new events ↔ AllSteps (b.step R) (b.NoJump R) .new events :=
  Always.iff_of_inv_on (fun _ _ _ hD h hC hs => step_inv h hD hC hs) (fun _ h => h.smooth)
    (fun _ _ _ hD h hs hP => noJump_of_step h hD hs hP) handoverInv_new hrest

/-! ## A bridge whose source changes -/

theorem step_observe {t : Tracked} (pose : DriverPose_t) (hclock : t.clock ≤ qpc_ns) :
    ∃ t', b.step R t (.observe qpc_ns pose) = some t' ∧
      t'.slot = b.OnRealPoseObserved t.slot qpc_ns pose ∧ t'.clock = qpc_ns ∧
        t'.current = t.current := by
  unfold step
  dsimp only
  rw [if_pos hclock]
  exact ⟨_, rfl, rfl, rfl, rfl⟩

/-- A call publishes unless the device is lost. -/
theorem step_publish {t : Tracked} {pose : DriverPose_t} {N : Fin 3 → ℝ}
    (hhistory : RestHistory R t.slot.history) (hpose : pose.vecPosition = R)
    (hclock : t.clock ≤ qpc_ns)
    (hN : b.restPosition R t.slot (t.slot.ladder.tick qpc_ns b.qpc_freq) qpc_ns = some N) :
    ∃ t', b.step R t (.publish qpc_ns pose) = some t' ∧ b.Publishes R t qpc_ns N t' := by
  have hrest := MaybeOverridePose_rest b hhistory hpose qpc_ns
  rw [hN] at hrest
  obtain ⟨out, hout, hposition⟩ := Option.map_eq_some_iff.1 hrest
  obtain ⟨t', hstep⟩ : ∃ t', b.step R t (.publish qpc_ns pose) = some t' := by
    unfold step
    dsimp only
    rw [if_pos hclock, hout]
    exact ⟨_, rfl⟩
  obtain ⟨-, N', hpublishes, hN'⟩ := publishes_of_step hhistory hpose hstep
  obtain rfl : N' = N := Option.some.inj (hN'.symm.trans hN)
  exact ⟨t', hstep, hpublishes⟩

end Bridge

/-- The shoulder tracker with the headset a meter away, on a clock of milliseconds. -/
noncomputable def capturedBridge : Bridge where
  config := ⟨0, 0, 0, 0, 0⟩
  qpc_freq := 1000
  qpc_freq_pos := by decide
  ik_fallback := capturedOffsets
  role := Fin.last 13
  last_hmd_pose := some restingPose

theorem capturedBridge_synthPosition (R : Fin 3 → ℝ) : capturedBridge.synthPosition R = 0 := by
  have hik : capturedBridge.ikPose = some restingPose :=
    (if_neg (by decide)).trans capturedOffsets_solve
  rw [Bridge.synthPosition, hik]
  rfl

theorem aheadPose_atRest : AtRest aheadPose.vecPosition aheadPose := ⟨rfl, rfl⟩

theorem capturedBridge_reach : capturedBridge.reach aheadPose.vecPosition = 1 := by
  rw [Bridge.reach, capturedBridge_synthPosition, sub_zero, vecNorm]
  simp [aheadPose, dotProduct, Fin.sum_univ_succ]

/-- One pose, and two calls that publish the device after it. -/
noncomputable def onePoseRun (qpc_ns qpc_ns' : ℤ) : List HandoverEvent :=
  [.observe 0 aheadPose, .publish qpc_ns aheadPose, .publish qpc_ns' aheadPose]

theorem onePoseRun_resting {qpc_ns qpc_ns' : ℤ} (h : qpc_ns * 1000 < 2 ^ 63)
    (h' : qpc_ns' * 1000 < 2 ^ 63) :
    ∀ e ∈ onePoseRun qpc_ns qpc_ns', Bridge.Resting aheadPose.vecPosition e := by
  intro e he
  simp only [onePoseRun, List.mem_cons, List.not_mem_nil, or_false] at he
  rcases he with rfl | rfl | rfl
  · exact ⟨⟨by decide, rfl⟩, aheadPose_atRest⟩
  · exact ⟨⟨h, trivial⟩, aheadPose_atRest⟩
  · exact ⟨⟨h', trivial⟩, aheadPose_atRest⟩

/-- The ladder after one pose at 0, whatever the fallback has. -/
def onePoseLadder (ik : Bool) : DropoutState :=
  { (DropoutState.new.setTimings (⟨0, 0, 0, 0, 0⟩ : PhantomConfig).timings).setIkAvailable ik with
    last_real_qpc_ns := 0 }

/-- What the first step of such a run leads to. -/
theorem onePoseRun_observe : ∃ t ik,
    capturedBridge.step aheadPose.vecPosition .new (.observe 0 aheadPose) = some t ∧
      t.slot.ladder = onePoseLadder ik ∧ RestHistory aheadPose.vecPosition t.slot.history ∧
      t.clock = 0 ∧ t.current = none := by
  obtain ⟨t, hstep, hslot, hclock, hcurrent⟩ : ∃ t,
      capturedBridge.step aheadPose.vecPosition .new (.observe 0 aheadPose) = some t ∧
        t.slot = capturedBridge.OnRealPoseObserved .new 0 aheadPose ∧ t.clock = 0 ∧
        t.current = none := Bridge.step_observe aheadPose le_rfl
  refine ⟨t, capturedBridge.role ≠ noRole && capturedBridge.ik_fallback.HasOffset
    capturedBridge.role, hstep, ?_, ?_, hclock, hcurrent⟩
  · rw [hslot]
    unfold Bridge.OnRealPoseObserved DropoutState.onRealPoseObserved
    dsimp only
    split <;> rfl
  · rw [hslot]
    exact .push aheadPose_atRest rfl 0

/-- What a call that finds the device with a source publishes. -/
theorem capturedBridge_publish {t : Tracked} {qpc_ns : ℤ} {source : Bridge.Source}
    {N : Fin 3 → ℝ} (hhistory : RestHistory aheadPose.vecPosition t.slot.history)
    (hclock : t.clock ≤ qpc_ns) (hsource : (t.slot.ladder.tick qpc_ns 1000).state.source = source)
    (hN : (source = .own ∧ N = aheadPose.vecPosition) ∨ (source = .synth ∧ N = 0)) :
    ∃ t', capturedBridge.step aheadPose.vecPosition t (.publish qpc_ns aheadPose) = some t' ∧
      capturedBridge.Publishes aheadPose.vecPosition t qpc_ns N t' := by
  refine Bridge.step_publish hhistory rfl hclock ?_
  unfold Bridge.restPosition
  rw [show t.slot.ladder.tick qpc_ns capturedBridge.qpc_freq = t.slot.ladder.tick qpc_ns 1000
    from rfl, hsource]
  rcases hN with ⟨rfl, rfl⟩ | ⟨rfl, rfl⟩
  · rfl
  · exact congrArg some (capturedBridge_synthPosition _)

/-! ### A run in time -/

/-- Whether the fallback has the tracker's offset. -/
noncomputable def capturedIk : Bool :=
  capturedBridge.role ≠ noRole && capturedBridge.ik_fallback.HasOffset capturedBridge.role

/-- The ladder behind an event. -/
def ladderStep (ik : Bool) (ladder : DropoutState) : HandoverEvent → DropoutState
  | .observe qpc_ns _ =>
    let ladder := ladder.setTimings (⟨0, 0, 0, 0, 0⟩ : PhantomConfig).timings
    (ladder.setIkAvailable ik).onRealPoseObserved qpc_ns ⟨.Running_OK, true, true⟩
  | .publish qpc_ns _ => ladder.tick qpc_ns 1000

/-- A call is in time for the last one, at `last`, which published the device where it is if
    `here`. -/
def inTime (ladder : DropoutState) (last : Option ℤ) (here : Bool) (qpc_ns : ℤ) : Bool :=
  last.all fun c =>
    match (ladder.tick qpc_ns 1000).state.source with
    | .own => here || decide (¬ ladder.blend_in_start_qpc_ns < c) || decide (160 ≤ 3 * (qpc_ns - c))
    | .synth => decide (160 ≤ 3 * (qpc_ns - c))
    | .blend => here || decide (¬ ladder.blend_in_start_qpc_ns < c)
    | .nothing => true

/-- Every call is. -/
def allInTime (ik : Bool) : DropoutState → Option ℤ → Bool → List HandoverEvent → Bool
  | _, _, _, [] => true
  | ladder, last, here, .observe qpc_ns pose :: events =>
    allInTime ik (ladderStep ik ladder (.observe qpc_ns pose)) last here events
  | ladder, last, here, .publish qpc_ns pose :: events =>
    inTime ladder last here qpc_ns &&
      allInTime ik (ladderStep ik ladder (.publish qpc_ns pose)) (some qpc_ns)
        (decide ((ladder.tick qpc_ns 1000).state.source = .own)) events

/-- What the ladder and the last call say of the device. -/
structure Known (ladder : DropoutState) (last : Option ℤ) (here : Bool) (t : Tracked) : Prop where
  ladder : t.slot.ladder = ladder
  history : RestHistory aheadPose.vecPosition t.slot.history
  last : ∀ c ∈ t.current, last = some c.qpc_ns
  here : here = true → ∀ c ∈ t.current, c.position = aheadPose.vecPosition

namespace Known

variable {ladder : DropoutState} {last : Option ℤ} {here : Bool} {t t' : Tracked} {qpc_ns : ℤ}

theorem observe (h : Known ladder last here t)
    (hstep : capturedBridge.step aheadPose.vecPosition t (.observe qpc_ns aheadPose) = some t') :
    Known (ladderStep capturedIk ladder (.observe qpc_ns aheadPose)) last here t' := by
  obtain ⟨hclock, hobserves⟩ := Bridge.observes_of_step hstep
  obtain ⟨t₁, hstep₁, hslot, -, -⟩ := capturedBridge.step_observe aheadPose hclock
  obtain rfl : t₁ = t' := Option.some.inj (hstep₁.symm.trans hstep)
  refine ⟨?_, ?_, ?_, ?_⟩
  · rw [hslot, ← h.ladder]
    rfl
  · rw [hobserves.history]
    exact .push aheadPose_atRest rfl qpc_ns
  · rw [hobserves.current]
    exact h.last
  · rw [hobserves.current]
    exact h.here

theorem publish (h : Known ladder last here t)
    (hstep : capturedBridge.step aheadPose.vecPosition t (.publish qpc_ns aheadPose) = some t') :
    Known (ladderStep capturedIk ladder (.publish qpc_ns aheadPose)) (some qpc_ns)
      (decide ((ladder.tick qpc_ns 1000).state.source = .own)) t' := by
  obtain ⟨-, N, hpublishes, hN⟩ := Bridge.publishes_of_step h.history rfl hstep
  have hladder : t'.slot.ladder = ladder.tick qpc_ns 1000 := by
    rw [hpublishes.ladder, h.ladder]
    rfl
  refine ⟨hladder, ?_, fun c hc => ?_, fun hown c hc => ?_⟩
  · rw [hpublishes.history]
    exact h.history
  · rw [hpublishes.current, Option.mem_def, Option.some.injEq] at hc
    subst hc
    rfl
  · rw [hpublishes.current, Option.mem_def, Option.some.injEq] at hc
    subst hc
    unfold Bridge.restPosition at hN
    rw [← hpublishes.ladder, hladder, of_decide_eq_true hown] at hN
    exact (Option.some.inj hN).symm

theorem noJump (h : Known ladder last here t) (hin : inTime ladder last here qpc_ns = true) :
    capturedBridge.NoJump aheadPose.vecPosition t (.publish qpc_ns aheadPose) := by
  intro c hc
  have hblend : (capturedBridge.blend_ms : ℝ) = 80 := by
    rw [show capturedBridge.blend_ms = 80 by decide +kernel]
    norm_num
  have helapsed : 160 ≤ 3 * (qpc_ns - c.qpc_ns) →
      (80 : ℝ) ≤ 1.5 * capturedBridge.elapsedMs c.qpc_ns qpc_ns := by
    intro hlate
    have hcast : (160 : ℝ) ≤ 3 * ((qpc_ns - c.qpc_ns : ℤ) : ℝ) := by exact_mod_cast hlate
    have hms : capturedBridge.elapsedMs c.qpc_ns qpc_ns = ((qpc_ns - c.qpc_ns : ℤ) : ℝ) := by
      simp [Bridge.elapsedMs, capturedBridge]
    rw [hms]
    linarith
  have hsource : t.slot.ladder.tick qpc_ns capturedBridge.qpc_freq = ladder.tick qpc_ns 1000 := by
    rw [h.ladder]
    rfl
  rw [inTime, h.last c hc, Option.all_some] at hin
  dsimp only
  rw [hsource, h.ladder, hblend]
  cases hs : (ladder.tick qpc_ns 1000).state.source with
  | own =>
    simp only [hs, Bool.or_eq_true, decide_eq_true_eq] at hin
    intro haway hstart
    rcases hin with (hhere | hbefore) | hlate
    · exact absurd (h.here hhere c hc) haway
    · exact absurd hstart hbefore
    · have hweight : 0 ≤ capturedBridge.weight ladder c.qpc_ns := (weight_smoothstep _).1
      have := helapsed hlate
      nlinarith
  | synth =>
    simp only [hs, decide_eq_true_eq] at hin
    exact fun _ => helapsed hin
  | blend =>
    simp only [hs, Bool.or_eq_true, decide_eq_true_eq] at hin
    intro haway hstart
    rcases hin with hhere | hbefore
    · exact absurd (h.here hhere c hc) haway
    · exact absurd hstart hbefore
  | nothing => trivial

/-- A run whose calls are in time does not jump. -/
theorem allSteps (events : List HandoverEvent) (hposes : ∀ e ∈ events, e.pose = aheadPose)
    {ladder : DropoutState} {last : Option ℤ} {here : Bool} {t : Tracked}
    (h : Known ladder last here t)
    (hin : allInTime capturedIk ladder last here events = true) :
    AllSteps (capturedBridge.step aheadPose.vecPosition)
      (capturedBridge.NoJump aheadPose.vecPosition) t events := by
  induction events generalizing ladder last here t with
  | nil => trivial
  | cons e events ih =>
    obtain ⟨hpose, hrest⟩ := List.forall_mem_cons.1 hposes
    intro t' hstep
    cases e with
    | observe qpc_ns pose =>
      obtain rfl : pose = aheadPose := hpose
      exact ⟨trivial, ih hrest (h.observe hstep) hin⟩
    | publish qpc_ns pose =>
      obtain rfl : pose = aheadPose := hpose
      rw [allInTime, Bool.and_eq_true] at hin
      exact ⟨h.noJump hin.1, ih hrest (h.publish hstep) hin.2⟩

theorem new : Known .new none true .new where
  ladder := rfl
  history _ hsample := by cases hsample
  last _ hc := by cases hc
  here _ _ hc := by cases hc

end Known

/-- Seen, blended out, synthesized where the fallback is, and blended in again. -/
noncomputable def thereAndBack : List HandoverEvent :=
  [.observe 0 aheadPose, .publish 20 aheadPose, .publish 50 aheadPose, .publish 104 aheadPose,
    .observe 110 aheadPose, .publish 120 aheadPose, .publish 260 aheadPose]

/-- The states of the ladder. -/
example : ∀ ik, (List.range 8).map (fun n =>
    ((thereAndBack.take n).foldl (ladderStep ik) .new).state) =
      [.REAL, .REAL, .REAL, .BLEND_OUT, .SYNTH_RECKON, .BLEND_IN, .BLEND_IN, .REAL] := by
  decide +kernel

theorem handover_smooth_thereAndBack : Always (capturedBridge.step aheadPose.vecPosition)
    (capturedBridge.Smooth aheadPose.vecPosition) .new thereAndBack := by
  have hposes : ∀ e ∈ thereAndBack, e.pose = aheadPose := by
    intro e he
    simp only [thereAndBack, List.mem_cons, List.not_mem_nil, or_false] at he
    rcases he with rfl | rfl | rfl | rfl | rfl | rfl | rfl <;> rfl
  have hrest : ∀ e ∈ thereAndBack, Bridge.Resting aheadPose.vecPosition e := by
    intro e he
    simp only [thereAndBack, List.mem_cons, List.not_mem_nil, or_false] at he
    rcases he with rfl | rfl | rfl | rfl | rfl | rfl | rfl
    all_goals first
      | exact ⟨⟨by decide, rfl⟩, aheadPose_atRest⟩
      | exact ⟨⟨by decide, trivial⟩, aheadPose_atRest⟩
  have hin : ∀ ik, allInTime ik .new none true thereAndBack = true := by decide +kernel
  exact (Bridge.handover_smooth hrest).2 (Known.new.allSteps _ hposes (hin _))

/-- **The bridge jumps from the blend out of a pose to the fallback.** -/
theorem handover_jumps : ¬ ∀ (b : Bridge) (R : Fin 3 → ℝ) (events : List HandoverEvent),
    (∀ e ∈ events, Bridge.Resting R e) → Always (b.step R) (b.Smooth R) .new events := by
  intro h
  have hrun := h capturedBridge aheadPose.vecPosition (onePoseRun 79 80)
    (onePoseRun_resting (by decide) (by decide))
  obtain ⟨t₁, ik, hstep₁, hladder₁, hhistory₁, hclock₁, -⟩ := onePoseRun_observe
  have hsource : ((onePoseLadder ik).tick 79 1000).state.source = .own ∧
      (((onePoseLadder ik).tick 79 1000).tick 80 1000).state.source = .synth := by
    cases ik <;> decide +kernel
  -- the blend out shows the pose itself, and a millisecond later the fallback is a meter away
  obtain ⟨t₂, hstep₂, hpublishes₂⟩ := capturedBridge_publish hhistory₁
    (hclock₁.trans_le (by decide : (0 : ℤ) ≤ 79)) (by rw [hladder₁]; exact hsource.1) (.inl ⟨rfl, rfl⟩)
  have hhistory₂ : RestHistory aheadPose.vecPosition t₂.slot.history := by
    rw [hpublishes₂.history]
    exact hhistory₁
  have hsource₂ : (t₂.slot.ladder.tick 80 1000).state.source = .synth := by
    rw [hpublishes₂.ladder, hladder₁]
    exact hsource.2
  obtain ⟨t₃, hstep₃, hpublishes₃⟩ := capturedBridge_publish hhistory₂
    (hpublishes₂.clock.trans_le (by decide)) hsource₂ (.inr ⟨rfl, rfl⟩)
  have hsmooth := (((hrun.2 t₁ hstep₁).2 t₂ hstep₂).2 t₃ hstep₃).near _
    (hpublishes₃.previous.trans hpublishes₂.current) _ hpublishes₃.current
  have hdistance : vecNorm (0 - aheadPose.vecPosition) = 1 := by
    rw [vecNorm_sub_comm, ← capturedBridge_synthPosition aheadPose.vecPosition]
    exact capturedBridge_reach
  have hblend : (capturedBridge.blend_ms : ℝ) = 80 := by
    rw [show capturedBridge.blend_ms = 80 by decide +kernel]
    norm_num
  have helapsed : capturedBridge.elapsedMs 79 80 = 1 := by
    norm_num [Bridge.elapsedMs, capturedBridge]
  dsimp only at hsmooth
  rw [hdistance, capturedBridge_reach, helapsed, hblend] at hsmooth
  norm_num at hsmooth

end WKPairDriver.Phantom
