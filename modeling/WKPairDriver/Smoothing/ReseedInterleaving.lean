import WKPairDriver.Lib.Run
import WKPairDriver.Smoothing.SkeletalStreams

/-!
# Frames between the exchanges and the reseed marking

`SetFingerSmoothingConfig` exchanges two atomics, one after the other, and marks the fingers to be
reseeded afterwards; frames of bones come at any time.  There is one stream for each hand.

* `Session` — the hook with the setter under way, what was forwarded last of each hand, and whether
  a frame of the hand has been passed through since its state was written.
* `Timely` — the condition: a frame between an exchange and the marking does not blend fingers that
  the marking is still to reseed, and is not passed through where the marking cannot know of it; a
  configuration with the master switch off blends no finger anew.
* `segments_of_timely` — in every run whose steps are timely every bone is forwarded on the segment
  between where it was forwarded last and its input.
* `frame_before_marking` — a frame before the marking goes back to where the hand was long ago.
-/

set_option autoImplicit false

namespace WKPairDriver.Smoothing

open Lib Lib.Bytes

/-! ## The exchanges -/

namespace FingerSmoothingConfig

variable (cfg next : FingerSmoothingConfig)

/-- The header of the next configuration with the fingers `0` to `7` of this one. -/
def withHeader : FingerSmoothingConfig where
  master_enabled := next.master_enabled
  smoothness := next.smoothness
  finger_mask := next.finger_mask
  per_finger_smoothness i :=
    if i.val < 8 then cfg.per_finger_smoothness i else next.per_finger_smoothness i

/-- This header with the fingers `0` to `7` of the next configuration. -/
def withLow : FingerSmoothingConfig := next.withHeader cfg

/-- The detour blends the bones of the finger; it does not ask for the master switch. -/
def blends (i : Fin 10) : Bool := cfg.masked i && decide (cfg.effective i ≠ 0)

variable {cfg next}

theorem withHeader_withHeader : (cfg.withHeader next).withHeader cfg = cfg := by
  unfold withHeader
  congr 1
  funext i
  dsimp only
  split_ifs
  · rfl
  · rfl

theorem withHeader_withLow : (cfg.withHeader next).withLow next = next := by
  unfold withLow withHeader
  congr 1
  funext i
  dsimp only
  split_ifs
  · rfl
  · rfl

theorem isFingerSmoothed_eq (i : Fin 10) :
    cfg.IsFingerSmoothed i = (cfg.master_enabled && cfg.blends i) := by
  rw [IsFingerSmoothed, blends, Bool.and_assoc]

/-- A hand that is passed through has no finger that is blended. -/
theorem blends_of_passed {hand : Hand} (h : cfg.anySmoothing hand = false) (f : Fin 5) :
    cfg.blends (fingerOf hand f) = false := by
  have hzero : cfg.effective (fingerOf hand f) = 0 := by
    have hall := List.any_eq_false.1 h f (List.mem_finRange f)
    simpa using hall
  simp [blends, hzero]

end FingerSmoothingConfig

/-! ## The session -/

/-- How far `SetFingerSmoothingConfig` is: its first exchange is done, or both are. -/
inductive Setter where
  | header (cfg oldHeader : FingerSmoothingConfig)
  | low (cfg prev : FingerSmoothingConfig)

structure Session (K : Type) where
  hook : State K := {}
  setter : Option Setter := none
  lastForwarded : Hand → Frame K := fun _ => none
  stale : Hand → Bool := fun _ => false

/-- The configuration before the setter. -/
def Session.before {K : Type} (w : Session K) : FingerSmoothingConfig :=
  match w.setter with
  | none => w.hook.config
  | some (.header _ oldHeader) => oldHeader
  | some (.low _ prev) => prev

/-- The configuration behind the setter. -/
def Session.target {K : Type} (w : Session K) : FingerSmoothingConfig :=
  match w.setter with
  | none => w.hook.config
  | some (.header cfg _) => cfg
  | some (.low cfg _) => cfg

def Hand.other : Hand → Hand
  | .left => .right
  | .right => .left

inductive Action (K : Type) where
  | exchangeHeader (cfg : FingerSmoothingConfig)
  | exchangeLow
  | markReseed
  | create (ok : Bool) (pHandle : Option UInt64) (pchSkeletonPath : Option (List UInt8))
  | frame (hand : Hand) (bones : List (VRBoneTransform_t K))

section Session

variable {K : Type} [Field K] [LinearOrder K] (m : CMath K) (stream : Hand → Stream)

/-- The frame is filtered. -/
def filtered (w : Session K) (hand : Hand) (bones : List (VRBoneTransform_t K)) : Bool :=
  (smoothedHand w.hook (stream hand).component (some bones)).isSome

/-- One step.  Setters come one after the other, frames have 31 bones, and no create call gives the
    component of one hand's stream to the other hand. -/
def sessionStep (w : Session K) : Action K → Option (Session K)
  | .exchangeHeader cfg =>
    if w.setter.isSome then none
    else
      some { w with
        hook := { w.hook with config := w.hook.config.withHeader cfg }
        setter := some (.header cfg w.hook.config) }
  | .exchangeLow =>
    match w.setter with
    | some (.header cfg oldHeader) =>
      some { w with
        hook := { w.hook with config := w.hook.config.withLow cfg }
        setter := some (.low cfg (w.hook.config.withHeader oldHeader)) }
    | _ => none
  | .markReseed =>
    match w.setter with
    | some (.low cfg prev) =>
      some { w with
        hook := MarkFingersNeedReseed (ComputeFingerSmoothingReseedBits prev cfg) w.hook
        setter := none }
    | _ => none
  | .create ok pHandle path =>
    if (mapped ok pHandle path).any fun p => decide (p.1 = (stream p.2.other).component) then none
    else some { w with hook := DetourPublicCreateSkeletonComponent ok pHandle path w.hook }
  | .frame hand bones =>
    if bones.length ≠ 31 then none
    else
      let update := DetourPublicUpdateSkeletonComponent m (stream hand).component
        (stream hand).motionRange (some bones) w.hook
      some { w with
        hook := update.1
        lastForwarded := Function.update w.lastForwarded hand update.2
        stale := Function.update w.stale hand (!filtered stream w hand bones) }

/-- The position lies on the segment between two others. -/
def OnSegment (old input out : HmdVector4_t K) : Prop :=
  ∃ t, 0 ≤ t ∧ t ≤ 1 ∧ out.v0 = Lerpf old.v0 input.v0 t ∧ out.v1 = Lerpf old.v1 input.v1 t ∧
    out.v2 = Lerpf old.v2 input.v2 t

/-- Every bone is forwarded on the segment between where it was forwarded last, if it was, and its
    input. -/
def OnSegments (w : Session K) : Action K → Prop
  | .frame hand bones =>
    ∃ out, (DetourPublicUpdateSkeletonComponent m (stream hand).component
        (stream hand).motionRange (some bones) w.hook).2 = some out ∧ out.length = bones.length ∧
      ∀ (i : ℕ) (o input old : VRBoneTransform_t K), out[i]? = some o → bones[i]? = some input →
        (w.lastForwarded hand).bind (·[i]?) = some old →
        OnSegment old.position input.position o.position
  | _ => True

/-- The condition on a step. -/
def Timely (w : Session K) : Action K → Prop
  | .exchangeHeader cfg =>
    cfg.master_enabled = true ∨ ∀ i, cfg.blends i = true → w.hook.config.blends i = true
  | .frame hand bones => (w.hook.hands hand).initialized = true →
    if filtered stream w hand bones then
      w.stale hand = true → ∀ f, w.hook.config.blends (fingerOf hand f) = true →
        (w.hook.hands hand).reseed_pending f = true ∨ w.before.blends (fingerOf hand f) = true
    else
      ∀ f, w.before.blends (fingerOf hand f) = true → w.target.blends (fingerOf hand f) = false
  | _ => True

instance decidableTimely (w : Session K) : (a : Action K) → Decidable (Timely stream w a)
  | .exchangeHeader cfg => inferInstanceAs (Decidable
      (cfg.master_enabled = true ∨ ∀ i, cfg.blends i = true → w.hook.config.blends i = true))
  | .exchangeLow => inferInstanceAs (Decidable True)
  | .markReseed => inferInstanceAs (Decidable True)
  | .create .. => inferInstanceAs (Decidable True)
  | .frame hand bones => inferInstanceAs (Decidable ((w.hook.hands hand).initialized = true →
      if filtered stream w hand bones then
        w.stale hand = true → ∀ f, w.hook.config.blends (fingerOf hand f) = true →
          (w.hook.hands hand).reseed_pending f = true ∨ w.before.blends (fingerOf hand f) = true
      else
        ∀ f, w.before.blends (fingerOf hand f) = true → w.target.blends (fingerOf hand f) = false))

end Session

/-! ## The invariant -/

section Invariant

variable {K : Type}

/-- Setters are serialised, the streams own their components, the state of a hand whose frames were
    all filtered is what was forwarded last, and of any other hand every finger will be reseeded, or
    was not blended before the setter, or is not blended behind it. -/
structure Seeded (stream : Hand → Stream) (w : Session K) : Prop where
  maps : ∀ hand, (w.hook.hands hand).initialized = true →
    w.hook.handleToHandedness (stream hand).component = some hand
  own : ∀ hand hand', w.hook.handleToHandedness (stream hand).component = some hand' → hand' = hand
  size : ∀ hand, (w.hook.hands hand).initialized = true → (w.hook.hands hand).previous.length = 31
  fresh : ∀ hand, (w.hook.hands hand).initialized = true → w.stale hand = false →
    w.lastForwarded hand = some (w.hook.hands hand).previous
  safe : ∀ hand, (w.hook.hands hand).initialized = true → w.stale hand = true → ∀ f,
    (w.hook.hands hand).reseed_pending f = true ∨ w.before.blends (fingerOf hand f) = false ∨
      w.target.blends (fingerOf hand f) = false ∧
        (w.hook.config = w.target ∨ w.hook.config.anySmoothing hand = false)
  master : w.target.master_enabled = true ∨
    ∀ i, w.target.blends i = true → w.before.blends i = true
  phase : match w.setter with
    | none => True
    | some (.header cfg oldHeader) => w.hook.config = oldHeader.withHeader cfg
    | some (.low cfg _) => w.hook.config = cfg

theorem Hand.eq_other {a b : Hand} (h : a ≠ b) : a = b.other := by
  cases a <;> cases b <;> first | rfl | exact absurd rfl h

variable {stream : Hand → Stream} {w : Session K}

theorem seeded_start : Seeded stream ({} : Session K) where
  maps _ h := by cases h
  own _ _ h := by cases h
  size _ h := by cases h
  fresh _ h := by cases h
  safe _ h := by cases h
  master := .inr fun _ h => h
  phase := trivial

namespace Seeded

/-- The first exchange. -/
theorem exchangeHeader (h : Seeded stream w) (hidle : w.setter = none) {cfg : FingerSmoothingConfig}
    (hcfg : cfg.master_enabled = true ∨ ∀ i, cfg.blends i = true → w.hook.config.blends i = true) :
    Seeded stream { w with
      hook := { w.hook with config := w.hook.config.withHeader cfg }
      setter := some (.header cfg w.hook.config) } where
  maps := h.maps
  own := h.own
  size := h.size
  fresh := h.fresh
  safe hand hinit hstale f := by
    have hsafe := h.safe hand hinit hstale f
    rw [Session.before, Session.target, hidle] at hsafe
    exact hsafe.imp_right fun hno => .inl (hno.elim id And.left)
  master := hcfg
  phase := rfl

/-- The second exchange. -/
theorem exchangeLow (h : Seeded stream w) {cfg oldHeader : FingerSmoothingConfig}
    (hsetter : w.setter = some (.header cfg oldHeader)) :
    Seeded stream { w with
      hook := { w.hook with config := w.hook.config.withLow cfg }
      setter := some (.low cfg (w.hook.config.withHeader oldHeader)) } := by
  have hconfig : w.hook.config = oldHeader.withHeader cfg := by
    have hphase := h.phase
    rwa [hsetter] at hphase
  have hprev : w.hook.config.withHeader oldHeader = oldHeader := by
    rw [hconfig, FingerSmoothingConfig.withHeader_withHeader]
  have hnext : w.hook.config.withLow cfg = cfg := by
    rw [hconfig, FingerSmoothingConfig.withHeader_withLow]
  have hbefore : w.before = oldHeader := by rw [Session.before, hsetter]
  have htarget : w.target = cfg := by rw [Session.target, hsetter]
  refine ⟨h.maps, h.own, h.size, h.fresh, fun hand hinit hstale f => ?_, ?_, hnext⟩
  · have hsafe := h.safe hand hinit hstale f
    rw [hbefore, htarget] at hsafe
    change _ ∨ (w.hook.config.withHeader oldHeader).blends _ = false ∨ cfg.blends _ = false ∧
      (w.hook.config.withLow cfg = cfg ∨ _)
    rw [hprev]
    exact hsafe.imp_right (Or.imp_right fun hno => ⟨hno.1, .inl hnext⟩)
  · have hmaster := h.master
    rw [hbefore, htarget] at hmaster
    change cfg.master_enabled = true ∨ ∀ i, cfg.blends i = true →
      (w.hook.config.withHeader oldHeader).blends i = true
    rwa [hprev]

/-- The marking: what is blended behind the setter and was not before is to be reseeded. -/
theorem markReseed (h : Seeded stream w) {cfg prev : FingerSmoothingConfig}
    (hsetter : w.setter = some (.low cfg prev)) :
    Seeded stream { w with
      hook := MarkFingersNeedReseed (ComputeFingerSmoothingReseedBits prev cfg) w.hook
      setter := none } := by
  have hconfig : w.hook.config = cfg := by
    have hphase := h.phase
    rwa [hsetter] at hphase
  have hbefore : w.before = prev := by rw [Session.before, hsetter]
  have htarget : w.target = cfg := by rw [Session.target, hsetter]
  refine ⟨h.maps, h.own, h.size, h.fresh, fun hand hinit hstale f => ?_, .inr fun _ h => h,
    trivial⟩
  have hsafe := h.safe hand hinit hstale f
  have hmaster := h.master
  rw [hbefore, htarget] at hsafe hmaster
  change ((w.hook.hands hand).reseed_pending f ||
    ComputeFingerSmoothingReseedBits prev cfg (fingerOf hand f)) = true ∨
      w.hook.config.blends _ = false ∨ w.hook.config.blends _ = false ∧ _
  rw [hconfig, ComputeFingerSmoothingReseedBits, FingerSmoothingConfig.isFingerSmoothed_eq,
    FingerSmoothingConfig.isFingerSmoothed_eq]
  obtain hpending | hprev | ⟨hnext, -⟩ := hsafe
  · exact .inl (by rw [hpending, Bool.true_or])
  · cases hnext : cfg.blends (fingerOf hand f) with
    | false => exact .inr (.inl rfl)
    | true =>
      obtain hon | hnew := hmaster
      · exact .inl (by rw [hprev, hon, Bool.and_false, Bool.not_false, Bool.true_and, Bool.true_and,
          Bool.or_true])
      · exact absurd (hnew _ hnext) (Bool.eq_false_iff.1 hprev)
  · exact .inr (.inl hnext)

/-- Creating a component starts the state of its hand again; the other hand keeps its component. -/
theorem create (h : Seeded stream w) {ok : Bool} {pHandle : Option UInt64}
    {path : Option (List UInt8)}
    (hown : ¬(mapped ok pHandle path).any
      (fun p => decide (p.1 = (stream p.2.other).component)) = true) :
    Seeded stream { w with
      hook := DetourPublicCreateSkeletonComponent ok pHandle path w.hook } := by
  unfold DetourPublicCreateSkeletonComponent
  cases hmapped : mapped ok pHandle path with
  | none => exact h
  | some p =>
    obtain ⟨handle, hand⟩ := p
    have hne : handle ≠ (stream hand.other).component := by simpa [hmapped] using hown
    have hsame {k : Hand} (hk : k ≠ hand) : (Function.update w.hook.hands hand
        { w.hook.hands hand with initialized := false }) k = w.hook.hands k :=
      Function.update_of_ne hk _ _
    have hkeep {k : Hand} (hinit : (Function.update w.hook.hands hand
        { w.hook.hands hand with initialized := false } k).initialized = true) : k ≠ hand := by
      rintro rfl
      simp at hinit
    refine ⟨fun k hinit => ?_, fun k k' hk => ?_, fun k hinit => ?_, fun k hinit hstale => ?_,
      fun k hinit hstale f => ?_, h.master, h.phase⟩
    · have hk := hkeep hinit
      dsimp only at hinit ⊢
      rw [hsame hk] at hinit
      have hmap := h.maps k hinit
      have hother : (stream k).component ≠ handle := by
        rw [Hand.eq_other hk]
        exact hne.symm
      rw [if_neg hother, if_neg (by simpa [hmap] using hk), hmap]
    · dsimp only at hk
      split_ifs at hk with hhandle
      · cases hk
        by_contra hkk
        exact hne (by rw [← hhandle, Hand.eq_other (Ne.symm hkk)])
      · exact h.own k k' hk
    · have hk := hkeep hinit
      dsimp only at hinit ⊢
      rw [hsame hk] at hinit ⊢
      exact h.size k hinit
    · have hk := hkeep hinit
      dsimp only at hinit ⊢
      rw [hsame hk] at hinit ⊢
      exact h.fresh k hinit hstale
    · have hk := hkeep hinit
      dsimp only at hinit ⊢
      rw [hsame hk] at hinit ⊢
      exact h.safe k hinit hstale f

end Seeded

end Invariant

/-! ## One bone -/

section Bones

variable {K : Type} [Field K] [LinearOrder K] [IsStrictOrderedRing K] {m : CMath K}

theorem alpha_mem (smoothness : UInt8) :
    (0 : K) ≤ SmoothnessToAlpha smoothness ∧ (SmoothnessToAlpha smoothness : K) ≤ 1 := by
  unfold SmoothnessToAlpha
  have hle : ((min smoothness.toNat 100 : ℕ) : K) ≤ (100 : ℕ) := by
    exact_mod_cast min_le_right smoothness.toNat 100
  have hpos : (0 : K) < (100 : ℕ) := by norm_num
  have hlo : (0 : K) ≤ ((min smoothness.toNat 100 : ℕ) : K) / (100 : ℕ) :=
    div_nonneg (Nat.cast_nonneg _) hpos.le
  have hhi : ((min smoothness.toNat 100 : ℕ) : K) / (100 : ℕ) ≤ 1 := (div_le_one hpos).2 hle
  have hfactor : (0 : K) ≤ (95 : ℕ) / (100 : ℕ) ∧ ((95 : ℕ) / (100 : ℕ) : K) ≤ 1 := by norm_num
  constructor
  · have := mul_le_one₀ hhi hfactor.1 hfactor.2
    linarith
  · have := mul_nonneg hlo hfactor.1
    linarith

theorem onSegment_input (old input : HmdVector4_t K) : OnSegment old input input :=
  ⟨1, zero_le_one, le_rfl, by simp [Lerpf], by simp [Lerpf], by simp [Lerpf]⟩

/-- A bone is its input unless its finger is blended and not to be reseeded; then it lies between
    the previous output and the input. -/
theorem smoothBone_position (cfg : FingerSmoothingConfig) (hand : Hand) (pending : Fin 5 → Bool)
    (bone : ℕ) (prev input : VRBoneTransform_t K) :
    smoothBone m cfg hand pending bone prev input = input ∨
      ∃ f, cfg.blends (fingerOf hand f) = true ∧ pending f = false ∧
        OnSegment prev.position input.position
          (smoothBone m cfg hand pending bone prev input).position := by
  unfold smoothBone
  cases FingerIndexForBone bone with
  | none => exact .inl rfl
  | some f =>
    dsimp only
    split_ifs with hmask hpending halpha
    · exact .inl rfl
    · exact .inl rfl
    · exact .inl rfl
    · refine .inr ⟨f, ?_, by simpa using hpending, ?_⟩
      · have heffective : cfg.effective (fingerOf hand f) ≠ 0 := by
          intro hzero
          rw [hzero] at halpha
          exact halpha (by simp [SmoothnessToAlpha])
        have hmasked : cfg.masked (fingerOf hand f) = true := by simpa using hmask
        simp [FingerSmoothingConfig.blends, hmasked, heffective]
      · obtain ⟨hlo, hhi⟩ := alpha_mem (K := K) (cfg.effective (fingerOf hand f))
        exact ⟨_, hlo, hhi, rfl, rfl, rfl⟩

/-! ## Frames -/

variable {stream : Hand → Stream} {w : Session K} {hand : Hand}
variable {bones : List (VRBoneTransform_t K)}

omit [Field K] [LinearOrder K] [IsStrictOrderedRing K] in
/-- A filtered frame is that of its own hand, whose component it comes from. -/
theorem smoothedHand_of_filtered (h : Seeded stream w) (hf : filtered stream w hand bones = true) :
    smoothedHand w.hook (stream hand).component (some bones) = some hand ∧
      w.hook.handleToHandedness (stream hand).component = some hand := by
  obtain ⟨hand', hsome⟩ := Option.isSome_iff_exists.1 hf
  have hmap : w.hook.handleToHandedness (stream hand).component = some hand' := by
    unfold smoothedHand at hsome
    dsimp only at hsome
    split_ifs at hsome
    exact (Option.filter_eq_some_iff.1 hsome).1
  rw [h.own hand hand' hmap] at hsome hmap
  exact ⟨hsome, hmap⟩

omit [Field K] [LinearOrder K] [IsStrictOrderedRing K] in
/-- A frame of a started hand is passed through when no finger of the hand has a strength. -/
theorem anySmoothing_of_passed (h : Seeded stream w) (hbones : bones.length = 31)
    (hinit : (w.hook.hands hand).initialized = true) (hf : filtered stream w hand bones = false) :
    w.hook.config.anySmoothing hand = false := by
  unfold filtered smoothedHand at hf
  simpa [hbones, h.maps hand hinit] using hf

omit [IsStrictOrderedRing K] in
/-- A filtered frame goes through the state of its hand. -/
theorem update_of_filtered (m : CMath K) (h : Seeded stream w)
    (hf : filtered stream w hand bones = true) :
    DetourPublicUpdateSkeletonComponent m (stream hand).component (stream hand).motionRange
        (some bones) w.hook =
      ({ w.hook with
          hands := Function.update w.hook.hands hand
            (smoothFrame m w.hook.config hand (w.hook.hands hand) bones).1 },
        some (smoothFrame m w.hook.config hand (w.hook.hands hand) bones).2) := by
  obtain ⟨transforms, heq, hupdate⟩ :=
    @update_of_some K _ _ m w.hook _ (stream hand).motionRange _ _ (smoothedHand_of_filtered h hf).1
  cases heq
  exact hupdate

omit [IsStrictOrderedRing K] in
/-- What a filtered frame leaves is what it forwards. -/
theorem smoothFrame_spec (m : CMath K) (cfg : FingerSmoothingConfig) (hand : Hand)
    (state : HandState K) (hsize : state.initialized = true → state.previous.length = 31)
    (hbones : bones.length = 31) :
    let r := smoothFrame m cfg hand state bones
    r.1.initialized = true ∧ r.1.previous = r.2 ∧ r.2.length = 31 := by
  unfold smoothFrame
  split_ifs with hinit
  · exact ⟨rfl, rfl, hbones⟩
  · have hstarted : state.initialized = true := by simpa using hinit
    exact ⟨hstarted, rfl, by simp [hsize hstarted, hbones]⟩

/-- The session behind a frame that leaves a state of the hand. -/
def Session.withFrame (w : Session K) (hand : Hand) (state : HandState K) (out : Frame K)
    (passed : Bool) : Session K :=
  { w with
    hook := { w.hook with hands := Function.update w.hook.hands hand state }
    lastForwarded := Function.update w.lastForwarded hand out
    stale := Function.update w.stale hand passed }

omit [Field K] [LinearOrder K] [IsStrictOrderedRing K] in
/-- A frame touches its own hand only. -/
theorem Seeded.withFrame (h : Seeded stream w) {state : HandState K} {out : Frame K} {passed : Bool}
    (hmaps : state.initialized = true →
      w.hook.handleToHandedness (stream hand).component = some hand)
    (hsize : state.initialized = true → state.previous.length = 31)
    (hfresh : state.initialized = true → passed = false → out = some state.previous)
    (hsafe : state.initialized = true → passed = true → ∀ f, state.reseed_pending f = true ∨
      w.before.blends (fingerOf hand f) = false ∨ w.target.blends (fingerOf hand f) = false ∧
        (w.hook.config = w.target ∨ w.hook.config.anySmoothing hand = false)) :
    Seeded stream (w.withFrame hand state out passed) := by
  refine ⟨fun k hk => ?_, h.own, fun k hk => ?_, fun k hk hstale => ?_, fun k hk hstale f => ?_,
    h.master, h.phase⟩ <;> simp only [Session.withFrame] at *
  · by_cases hkh : k = hand
    · subst hkh
      exact hmaps (by simpa using hk)
    · exact h.maps k (by simpa [Function.update_of_ne hkh] using hk)
  · by_cases hkh : k = hand
    · subst hkh
      simpa using hsize (by simpa using hk)
    · rw [Function.update_of_ne hkh] at hk ⊢
      exact h.size k hk
  · by_cases hkh : k = hand
    · subst hkh
      simpa using hfresh (by simpa using hk) (by simpa using hstale)
    · rw [Function.update_of_ne hkh] at hk hstale ⊢
      rw [Function.update_of_ne hkh]
      exact h.fresh k hk hstale
  · by_cases hkh : k = hand
    · subst hkh
      rw [Function.update_self] at hk hstale ⊢
      exact hsafe hk hstale f
    · rw [Function.update_of_ne hkh] at hk hstale ⊢
      exact h.safe k hk hstale f

omit [IsStrictOrderedRing K] in
/-- A timely frame keeps the invariant. -/
theorem Seeded.frame (h : Seeded stream w) (hbones : bones.length = 31)
    (ht : Timely stream w (.frame hand bones)) :
    Seeded stream { w with
      hook := (DetourPublicUpdateSkeletonComponent m (stream hand).component
        (stream hand).motionRange (some bones) w.hook).1
      lastForwarded := Function.update w.lastForwarded hand
        (DetourPublicUpdateSkeletonComponent m (stream hand).component
          (stream hand).motionRange (some bones) w.hook).2
      stale := Function.update w.stale hand (!filtered stream w hand bones) } := by
  cases hf : filtered stream w hand bones with
  | true =>
    obtain ⟨-, hprevious, hlength⟩ := smoothFrame_spec m w.hook.config hand (w.hook.hands hand)
      (h.size hand) hbones
    rw [update_of_filtered m h hf]
    exact h.withFrame (fun _ => (smoothedHand_of_filtered h hf).2) (fun _ => hprevious ▸ hlength)
      (fun _ _ => congrArg some hprevious.symm) fun _ hpassed => by cases hpassed
  | false =>
    have hnone : smoothedHand w.hook (stream hand).component (some bones) = none := by
      simpa [filtered] using hf
    have hself : Function.update w.hook.hands hand (w.hook.hands hand) = w.hook.hands :=
      Function.update_eq_self _ _
    have hkept : Seeded stream (w.withFrame hand (w.hook.hands hand) (some bones) true) := by
      refine h.withFrame (h.maps hand) (h.size hand) (fun _ hp => by cases hp) fun hinit _ f => ?_
      cases hb : w.before.blends (fingerOf hand f) with
      | false => exact .inr (.inl rfl)
      | true =>
        have hno := ht hinit
        rw [if_neg (by rw [hf]; exact Bool.false_ne_true)] at hno
        exact .inr (.inr ⟨hno f hb, .inr (anySmoothing_of_passed h hbones hinit hf)⟩)
    rw [update_of_none hnone]
    unfold Session.withFrame at hkept
    rw [hself] at hkept
    exact hkept

/-- **A timely frame moves every bone from where it was forwarded last toward its input.** -/
theorem Seeded.onSegments (h : Seeded stream w) (hbones : bones.length = 31)
    (ht : Timely stream w (.frame hand bones)) : OnSegments m stream w (.frame hand bones) := by
  cases hf : filtered stream w hand bones with
  | false =>
    have hnone : smoothedHand w.hook (stream hand).component (some bones) = none := by
      simpa [filtered] using hf
    refine ⟨bones, by rw [update_of_none hnone], rfl, fun i o input old ho hin _ => ?_⟩
    rw [hin] at ho
    cases ho
    exact onSegment_input _ _
  | true =>
    obtain ⟨-, -, hlength⟩ := smoothFrame_spec m w.hook.config hand (w.hook.hands hand)
      (h.size hand) hbones
    refine ⟨_, by rw [update_of_filtered m h hf], hlength.trans hbones.symm,
      fun i o input old ho hin hold => ?_⟩
    unfold smoothFrame at ho
    split_ifs at ho with hinit
    · dsimp only at ho
      rw [hin] at ho
      cases ho
      exact onSegment_input _ _
    · have hstarted : (w.hook.hands hand).initialized = true := by simpa using hinit
      dsimp only at ho
      rw [List.getElem?_mapIdx, Option.map_eq_some_iff] at ho
      obtain ⟨⟨prev, input'⟩, hzip, rfl⟩ := ho
      obtain ⟨hprev, hinput⟩ := List.getElem?_zip_eq_some.1 hzip
      rw [hin] at hinput
      cases hinput
      obtain hcopy | ⟨f, hblends, hpending, hseg⟩ := smoothBone_position (m := m) w.hook.config hand
        (w.hook.hands hand).reseed_pending i prev input'
      · rw [hcopy]
        exact onSegment_input _ _
      · -- a blended finger has the bones that were forwarded last
        have hfresh : w.stale hand = false := by
          by_contra hnot
          have hstale : w.stale hand = true := by simpa using hnot
          have hreason := ht hstarted
          rw [if_pos hf] at hreason
          have hbefore := (hreason hstale f hblends).resolve_left (by simp [hpending])
          obtain hp | hb | ⟨htarget, hconfig | hany⟩ := h.safe hand hstarted hstale f
          · simp [hpending] at hp
          · simp [hbefore] at hb
          · simp [hconfig, htarget] at hblends
          · simp [FingerSmoothingConfig.blends_of_passed hany f] at hblends
        rw [h.fresh hand hstarted hfresh, Option.bind_some, hprev] at hold
        cases hold
        exact hseg

omit [IsStrictOrderedRing K] in
/-- A timely step keeps the invariant. -/
theorem Seeded.step (h : Seeded stream w) {a : Action K} {w' : Session K}
    (hstep : sessionStep m stream w a = some w') (ht : Timely stream w a) : Seeded stream w' := by
  cases a with
  | exchangeHeader cfg =>
    unfold sessionStep at hstep
    dsimp only at hstep
    split_ifs at hstep with hbusy
    cases hstep
    exact h.exchangeHeader (by simpa using hbusy) ht
  | exchangeLow =>
    unfold sessionStep at hstep
    dsimp only at hstep
    split at hstep
    · next cfg oldHeader hsetter =>
      cases hstep
      exact h.exchangeLow hsetter
    · cases hstep
  | markReseed =>
    unfold sessionStep at hstep
    dsimp only at hstep
    split at hstep
    · next cfg prev hsetter =>
      cases hstep
      exact h.markReseed hsetter
    · cases hstep
  | create ok pHandle path =>
    unfold sessionStep at hstep
    dsimp only at hstep
    split_ifs at hstep with hown
    cases hstep
    exact h.create hown
  | frame hand bones =>
    unfold sessionStep at hstep
    dsimp only at hstep
    split_ifs at hstep with hbones
    cases hstep
    exact h.frame (not_not.1 hbones) ht

/-- **In every run whose steps are timely, every bone is forwarded on the segment between where it
    was forwarded last and its input.** -/
theorem segments_of_timely (m : CMath K) (stream : Hand → Stream) {actions : List (Action K)}
    (ht : AllSteps (sessionStep m stream) (Timely stream) {} actions) :
    AllSteps (sessionStep m stream) (OnSegments m stream) {} actions := by
  refine AllSteps.of_inv (I := Seeded stream) (fun w a w' h ha hstep => h.step hstep ha)
    (fun w a w' h ha hstep => ?_) seeded_start ht
  cases a with
  | frame hand bones =>
    unfold sessionStep at hstep
    dsimp only at hstep
    split_ifs at hstep with hbones
    exact h.onSegments (not_not.1 hbones) ha
  | _ => trivial

end Bones

/-! ## A toggle -/

/-- One stream for each hand. -/
def handStreams : Hand → Stream
  | .left => ⟨1, .WithController⟩
  | .right => ⟨2, .WithController⟩

/-- All bones at one place. -/
def bonesAt (x : ℚ) : List (VRBoneTransform_t ℚ) := List.replicate 31 ⟨⟨x, 0, 0, 1⟩, ⟨1, 0, 0, 0⟩⟩

/-- The strength of all fingers is set. -/
def setStrength (strength : UInt8) : List (Action ℚ) :=
  [.exchangeHeader ⟨true, strength, 1023, fun _ => 0⟩, .exchangeLow, .markReseed]

/-- Smoothing is on, and off again while the hand moves. -/
def toggled : List (Action ℚ) :=
  .create true (some 1) (some (ascii "/skeleton/hand/left")) :: setStrength 100 ++
    [.frame .left (bonesAt 0), .frame .left (bonesAt 0)] ++ setStrength 0 ++
    [.frame .left (bonesAt 1)]

/-- It is on again when the next frame comes. -/
theorem segments_of_timely_toggled :
    AllSteps (sessionStep unitMath handStreams) (OnSegments unitMath handStreams) {}
      (toggled ++ setStrength 100 ++ [.frame .left (bonesAt 2), .frame .left (bonesAt 3)]) :=
  segments_of_timely unitMath handStreams (by decide +kernel)

/-- The frame comes between the exchanges and the marking: it is blended with the pose from before
    the toggle, and moves away from its input. -/
theorem frame_before_marking :
    ∃ w, runTo (sessionStep unitMath handStreams) {} (toggled ++ (setStrength 100).take 2) = some w ∧
      (sessionStep unitMath handStreams w (.frame .left (bonesAt 2))).isSome = true ∧
      ¬OnSegments unitMath handStreams w (.frame .left (bonesAt 2)) := by
  have hrun : (runTo (sessionStep unitMath handStreams) {}
      (toggled ++ (setStrength 100).take 2)).any (fun w =>
        (sessionStep unitMath handStreams w (.frame .left (bonesAt 2))).isSome &&
        decide (((w.lastForwarded .left).bind (·[2]?)).map (·.position.v0) =
          some (1 : ℚ)) &&
        decide (((DetourPublicUpdateSkeletonComponent unitMath 1 .WithController (some (bonesAt 2))
          w.hook).2.bind (·[2]?)).map (·.position.v0) =
          some (0.1 : ℚ))) = true := by
    decide +kernel
  obtain ⟨w, hw, hfacts⟩ := (Option.any_eq_true _ _).1 hrun
  simp only [Bool.and_eq_true, decide_eq_true_eq, Option.map_eq_some_iff] at hfacts
  obtain ⟨⟨hstep, old, hold, hold1⟩, o, ho, ho1⟩ := hfacts
  refine ⟨w, hw, hstep, ?_⟩
  rintro ⟨out, hout, -, hseg⟩
  rw [show (handStreams .left).component = 1 from rfl,
    show (handStreams .left).motionRange = .WithController from rfl] at hout
  rw [hout, Option.bind_some] at ho
  obtain ⟨t, hlo, -, ht, -⟩ := hseg 2 o _ old ho rfl hold
  rw [ho1, hold1, Lerpf] at ht
  change (0.1 : ℚ) = 1 + (2 - 1) * t at ht
  linarith

end WKPairDriver.Smoothing
