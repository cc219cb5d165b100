import WKPairDriver.Lib.Noninterference
import WKPairDriver.Smoothing.SkeletalHook

/-!
# Skeletal streams

A stream is a component with one of its motion ranges.  The smoothing state is kept for a hand, so
all streams of a hand share it; creating a component for the hand only makes the next frame start
the state again.

* `streams_do_not_mix` — what is forwarded for a stream does not depend on the frames of the others,
  as long as its smoothed frames find the state of their hand untouched by them: no bones that one
  of them left since the hand was last created, and no finger that one of them has reseeded.
* `motionRanges_mix` — two motion ranges of one component, where the frames of one change what is
  forwarded for the other.
-/

set_option autoImplicit false

namespace WKPairDriver.Smoothing

open Lib Lib.Bytes

structure Stream where
  component : UInt64
  motionRange : EVRSkeletalMotionRange
  deriving DecidableEq, Repr

/-- The calls of the driver and of the overlay. -/
inductive Event (K : Type) where
  | create (ok : Bool) (pHandle : Option UInt64) (pchSkeletonPath : Option (List UInt8))
  | update (ulComponent : UInt64) (eMotionRange : EVRSkeletalMotionRange) (pTransforms : Frame K)
  | configure (cfg : FingerSmoothingConfig)

section Streams
variable {K : Type} [Field K] [LinearOrder K] (m : CMath K) (stream : Stream)

def step (s : State K) : Event K → State K
  | .create ok pHandle path => DetourPublicCreateSkeletonComponent ok pHandle path s
  | .update c range frame => (DetourPublicUpdateSkeletonComponent m c range frame s).1
  | .configure cfg => SetFingerSmoothingConfig cfg s

/-- What is forwarded for the stream. -/
def forwarded (s : State K) : Event K → Option (Frame K)
  | .update c range frame =>
    if stream = ⟨c, range⟩ then some (DetourPublicUpdateSkeletonComponent m c range frame s).2
    else none
  | _ => none

/-- The events of a stream: its frames, the create calls and the configurations. -/
def visible : Event K → Bool
  | .update c range _ => decide (stream = ⟨c, range⟩)
  | _ => true

/-- The hand whose state a frame goes through. -/
def smoothedHand (s : State K) (ulComponent : UInt64) (pTransforms : Frame K) : Option Hand :=
  match pTransforms with
  | none => none
  | some transforms =>
    if transforms.length ≠ 31 then none
    else (s.handleToHandedness ulComponent).filter fun hand => s.config.anySmoothing hand

/-! ## Who has touched the state of a hand -/

/-- The state, and of each hand: `mixed`, a frame of another stream has gone through its state since
    a component was last created for it; `cleared`, such a frame has reseeded a finger. -/
structure Tracked (K : Type) where
  state : State K
  mixed : Hand → Bool := fun _ => false
  cleared : Hand → Bool := fun _ => false

def track (t : Tracked K) (e : Event K) : Tracked K :=
  match e with
  | .create ok pHandle path =>
    match mapped ok pHandle path with
    | none => { t with state := step m t.state e }
    | some (_, hand) =>
      { t with state := step m t.state e, mixed := Function.update t.mixed hand false }
  | .configure _ => { t with state := step m t.state e }
  | .update c range frame =>
    if stream = ⟨c, range⟩ then { t with state := step m t.state e }
    else
      match smoothedHand t.state c frame with
      | none => { t with state := step m t.state e }
      | some hand =>
        let state := t.state.hands hand
        { t with
          state := step m t.state e
          mixed := Function.update t.mixed hand true
          cleared := Function.update t.cleared hand (t.cleared hand ||
            state.initialized && (List.finRange 5).any state.reseed_pending) }

/-- A smoothed frame of the stream finds the state of its hand untouched by other streams. -/
def Undisturbed (t : Tracked K) : Event K → Bool
  | .update c range frame =>
    decide (stream ≠ ⟨c, range⟩) || (smoothedHand t.state c frame).all fun hand =>
      !t.mixed hand && !t.cleared hand
  | _ => true

/-! ## A frame and the state -/

variable {m stream}

theorem update_of_none {s : State K} {c : UInt64} {range : EVRSkeletalMotionRange}
    {frame : Frame K} (h : smoothedHand s c frame = none) :
    DetourPublicUpdateSkeletonComponent m c range frame s = (s, frame) := by
  unfold DetourPublicUpdateSkeletonComponent
  split
  · rfl
  · next transforms =>
    split
    · rfl
    · next hlen =>
      split
      · rfl
      · next hand hmap =>
        split
        · rfl
        · next hany =>
          rw [smoothedHand, if_neg hlen, hmap] at h
          simp [hany] at h

theorem update_of_some {s : State K} {c : UInt64} {range : EVRSkeletalMotionRange}
    {frame : Frame K} {hand : Hand} (h : smoothedHand s c frame = some hand) :
    ∃ transforms, frame = some transforms ∧
      DetourPublicUpdateSkeletonComponent m c range frame s =
        ({ s with
            hands := Function.update s.hands hand
              (smoothFrame m s.config hand (s.hands hand) transforms).1 },
          some (smoothFrame m s.config hand (s.hands hand) transforms).2) := by
  cases frame with
  | none => cases h
  | some transforms =>
    refine ⟨transforms, rfl, ?_⟩
    unfold smoothedHand at h
    dsimp only at h
    split at h
    · cases h
    · next hlen =>
      obtain ⟨hmap, hany⟩ := Option.filter_eq_some_iff.1 h
      unfold DetourPublicUpdateSkeletonComponent
      dsimp only
      rw [if_neg hlen, hmap]
      dsimp only
      rw [if_neg (by rw [hany]; decide)]

/-! ## A run and the run without the other streams -/

/-- The state of a run and that of the run without the frames of the other streams. -/
structure Agree (t : Tracked K) (s : State K) : Prop where
  handles : t.state.handleToHandedness = s.handleToHandedness
  config : t.state.config = s.config
  reseed : ∀ hand, t.cleared hand = false →
    (t.state.hands hand).reseed_pending = (s.hands hand).reseed_pending
  started : ∀ hand, t.mixed hand = false →
    (t.state.hands hand).initialized = (s.hands hand).initialized
  bones : ∀ hand, t.mixed hand = false → (s.hands hand).initialized = true →
    (t.state.hands hand).previous = (s.hands hand).previous

omit [Field K] [LinearOrder K] in
theorem Agree.smoothedHand {t : Tracked K} {s : State K} (h : Agree t s) (c : UInt64)
    (frame : Frame K) : smoothedHand t.state c frame = smoothedHand s c frame := by
  unfold Smoothing.smoothedHand
  rw [h.handles, h.config]

theorem Agree.create {t : Tracked K} {s : State K} (h : Agree t s) (ok : Bool)
    (pHandle : Option UInt64) (path : Option (List UInt8)) :
    Agree (track m stream t (.create ok pHandle path)) (step m s (.create ok pHandle path)) := by
  unfold track step DetourPublicCreateSkeletonComponent
  cases hmapped : mapped ok pHandle path with
  | none =>
    simp only [hmapped]
    exact { h with }
  | some p =>
    obtain ⟨handle, hand⟩ := p
    simp only [hmapped]
    refine ⟨?_, h.config, fun k hk => ?_, fun k hk => ?_, fun k hk hinit => ?_⟩
    · rw [h.handles]
    · have hreseed := h.reseed k hk
      by_cases hkh : k = hand
      · subst hkh
        simpa using hreseed
      · simpa [Function.update_of_ne hkh] using hreseed
    · by_cases hkh : k = hand
      · subst hkh
        simp
      · simp only [Function.update_of_ne hkh] at hk ⊢
        exact h.started k hk
    · by_cases hkh : k = hand
      · subst hkh
        simp at hinit
      · simp only [Function.update_of_ne hkh] at hk hinit ⊢
        exact h.bones k hk hinit

theorem Agree.configure {t : Tracked K} {s : State K} (h : Agree t s)
    (cfg : FingerSmoothingConfig) :
    Agree (track m stream t (.configure cfg)) (step m s (.configure cfg)) := by
  unfold track step SetFingerSmoothingConfig MarkFingersNeedReseed
  refine ⟨h.handles, rfl, fun k hk => ?_, h.started, h.bones⟩
  dsimp only
  rw [h.config, h.reseed k hk]

/-- Hands that look the same give the same output and look the same behind it. -/
theorem smoothFrame_agree (cfg : FingerSmoothingConfig) (hand : Hand) {a b : HandState K}
    (hreseed : a.reseed_pending = b.reseed_pending) (hstarted : a.initialized = b.initialized)
    (hbones : b.initialized = true → a.previous = b.previous)
    (transforms : List (VRBoneTransform_t K)) :
    smoothFrame m cfg hand a transforms = smoothFrame m cfg hand b transforms := by
  unfold smoothFrame
  cases hinit : b.initialized with
  | false =>
    rw [hinit] at hstarted
    rw [if_pos hstarted, if_pos rfl, hreseed]
  | true =>
    rw [hinit] at hstarted
    rw [if_neg (by rw [hstarted]; decide), if_neg (by decide), hbones hinit, hreseed, hstarted]

/-- A frame of the stream that finds the state untouched. -/
theorem Agree.own {t : Tracked K} {s : State K} (h : Agree t s) {c : UInt64}
    {range : EVRSkeletalMotionRange} {frame : Frame K} (hstream : stream = ⟨c, range⟩)
    (hu : Undisturbed stream t (.update c range frame) = true) :
    forwarded m stream t.state (.update c range frame) =
        forwarded m stream s (.update c range frame) ∧
      Agree (track m stream t (.update c range frame)) (step m s (.update c range frame)) := by
  rw [Undisturbed, decide_eq_false (by simpa using hstream), Bool.false_or] at hu
  rw [forwarded, forwarded, if_pos hstream, if_pos hstream, track]
  dsimp only
  rw [if_pos hstream, step, step]
  cases hhand : Smoothing.smoothedHand s c frame with
  | none =>
    rw [update_of_none hhand, update_of_none ((h.smoothedHand c frame).trans hhand)]
    exact ⟨rfl, { h with }⟩
  | some hand =>
    have hhand' := (h.smoothedHand c frame).trans hhand
    rw [hhand', Option.all_some, Bool.and_eq_true, Bool.not_eq_true', Bool.not_eq_true'] at hu
    obtain ⟨hmixed, hcleared⟩ := hu
    obtain ⟨transforms, hframe, hs⟩ := update_of_some (m := m) hhand
    obtain ⟨transforms', hframe', ht⟩ := update_of_some (m := m) hhand'
    obtain rfl := Option.some.inj (hframe.symm.trans hframe')
    have hsmooth := smoothFrame_agree (m := m) s.config hand (h.reseed hand hcleared)
      (h.started hand hmixed) (h.bones hand hmixed) transforms
    rw [hs, ht, h.config, hsmooth]
    refine ⟨rfl, h.handles, rfl, fun k hk => ?_, fun k hk => ?_, fun k hk hinit => ?_⟩
    · by_cases hkh : k = hand
      · subst hkh
        simp
      · simpa [Function.update_of_ne hkh] using h.reseed k hk
    · by_cases hkh : k = hand
      · subst hkh
        simp
      · simpa [Function.update_of_ne hkh] using h.started k hk
    · by_cases hkh : k = hand
      · subst hkh
        simp
      · simp only [Function.update_of_ne hkh] at hinit ⊢
        exact h.bones k hk hinit

/-- A frame that finds no finger to reseed leaves the flags as they are. -/
theorem smoothFrame_reseed (cfg : FingerSmoothingConfig) (hand : Hand) (a : HandState K)
    (h : (a.initialized && (List.finRange 5).any a.reseed_pending) = false)
    (transforms : List (VRBoneTransform_t K)) :
    (smoothFrame m cfg hand a transforms).1.reseed_pending = a.reseed_pending := by
  unfold smoothFrame
  cases hinit : a.initialized with
  | false => rw [if_pos rfl]
  | true =>
    rw [if_neg (by decide)]
    rw [hinit, Bool.true_and, List.any_eq_false] at h
    funext f
    exact (Bool.eq_false_of_not_eq_true (h f (List.mem_finRange f))).symm

/-- A frame of another stream. -/
theorem Agree.foreign {t : Tracked K} {s : State K} (h : Agree t s) {c : UInt64}
    {range : EVRSkeletalMotionRange} (frame : Frame K) (hstream : stream ≠ ⟨c, range⟩) :
    Agree (track m stream t (.update c range frame)) s := by
  rw [track]
  dsimp only
  rw [if_neg hstream, step]
  cases hhand : Smoothing.smoothedHand t.state c frame with
  | none =>
    dsimp only
    rw [update_of_none hhand]
    exact { h with }
  | some hand =>
    obtain ⟨transforms, -, ht⟩ := update_of_some (m := m) hhand
    dsimp only
    rw [ht]
    refine ⟨h.handles, h.config, fun k hk => ?_, fun k hk => ?_, fun k hk hinit => ?_⟩
    · by_cases hkh : k = hand
      · subst hkh
        simp only [Function.update_self, Bool.or_eq_false_iff] at hk ⊢
        rw [← h.reseed k hk.1]
        exact smoothFrame_reseed _ _ _ hk.2 transforms
      · simp only [Function.update_of_ne hkh] at hk ⊢
        exact h.reseed k hk
    · have hkh : k ≠ hand := fun hkh => by simp [hkh] at hk
      simp only [Function.update_of_ne hkh] at hk ⊢
      exact h.started k hk
    · have hkh : k ≠ hand := fun hkh => by simp [hkh] at hk
      simp only [Function.update_of_ne hkh] at hk ⊢
      exact h.bones k hk hinit

/-- The state as `Init` leaves it. -/
def Tracked.init : Tracked K := { state := {} }

theorem observe_track (run : List (Event K)) :
    observe (track m stream) (fun t e => forwarded m stream t.state e) Tracked.init run =
      observe (step m) (forwarded m stream) {} run := by
  have hstep : ∀ (t : Tracked K) e, (track m stream t e).state = step m t.state e := by
    intro t e
    unfold track
    cases e with
    | create ok pHandle path =>
      dsimp only
      split <;> rfl
    | configure cfg => rfl
    | update c range frame =>
      dsimp only
      split
      · rfl
      · split <;> rfl
  exact observe_of_projection (step m) (forwarded m stream) Tracked.state hstep (fun _ _ => rfl)
    Tracked.init run

/-- **Streams do not mix** where their smoothed frames find the state of their hand untouched by the
    others: two runs that differ only in frames of other streams forward the same arrays. -/
theorem streams_do_not_mix (m : CMath K) (stream : Stream) (run₁ run₂ : List (Event K))
    (h₁ : AllSteps (total (track m stream)) (fun t e => Undisturbed stream t e = true)
      Tracked.init run₁)
    (h₂ : AllSteps (total (track m stream)) (fun t e => Undisturbed stream t e = true)
      Tracked.init run₂)
    (hdiffer : run₁.filter (visible stream) = run₂.filter (visible stream)) :
    observe (step m) (forwarded m stream) {} run₁ =
      observe (step m) (forwarded m stream) {} run₂ := by
  rw [← observe_track, ← observe_track]
  have hinit : Agree (Tracked.init : Tracked K) {} :=
    ⟨rfl, rfl, fun _ _ => rfl, fun _ _ => rfl, fun _ _ _ => rfl⟩
  refine observe_eq_of_purge_eq (step m) (forwarded m stream) Agree (fun t s e hR hu hvis => ?_)
    (fun t s e hR _ hvis => ?_) hinit h₁ h₂ hdiffer
  · cases e with
    | create ok pHandle path => exact ⟨rfl, hR.create ok pHandle path⟩
    | configure cfg => exact ⟨rfl, hR.configure cfg⟩
    | update c range frame => exact hR.own (of_decide_eq_true hvis) hu
  · cases e with
    | create ok pHandle path => cases hvis
    | configure cfg => cases hvis
    | update c range frame =>
      have hne : stream ≠ ⟨c, range⟩ := of_decide_eq_false hvis
      exact ⟨if_neg hne, hR.foreign frame hne⟩

end Streams

/-! ## Small runs -/

/-- The functions at the arguments that frames without a rotation give them. -/
def unitMath : CMath ℚ := ⟨fun x => x, fun _ => 0, fun _ => 0, fun _ => 1⟩

/-- All bones at one place. -/
def frameAt (x : ℚ) : Frame ℚ := some (List.replicate 31 ⟨⟨x, 0, 0, 1⟩, ⟨1, 0, 0, 0⟩⟩)

/-- All fingers are smoothed, and a component is created for each hand. -/
def bothHands : List (Event ℚ) :=
  [.configure ⟨true, 50, 1023, fun _ => 0⟩,
    .create true (some 1) (some (ascii "/skeleton/hand/left")),
    .create true (some 2) (some (ascii "/skeleton/hand/right"))]

/-- A frame of the other hand between two frames. -/
theorem streams_do_not_mix_hands :
    observe (step unitMath) (forwarded unitMath ⟨1, .WithController⟩) {}
        (bothHands ++ [.update 1 .WithController (frameAt 0), .update 2 .WithController (frameAt 1),
          .update 1 .WithController (frameAt 0)]) =
      observe (step unitMath) (forwarded unitMath ⟨1, .WithController⟩) {}
        (bothHands ++ [.update 1 .WithController (frameAt 0),
          .update 1 .WithController (frameAt 0)]) :=
  streams_do_not_mix unitMath ⟨1, .WithController⟩ _ _ (by decide +kernel) (by decide +kernel) rfl

/-- A frame of the other motion range between two frames: the second one is blended with it. -/
theorem motionRanges_mix :
    let run₁ := bothHands ++ [.update 1 .WithController (frameAt 0),
      .update 1 .WithoutController (frameAt 1), .update 1 .WithController (frameAt 0)]
    let run₂ := bothHands ++ [.update 1 .WithController (frameAt 0),
      .update 1 .WithController (frameAt 0)]
    run₁.filter (visible ⟨1, .WithController⟩) = run₂.filter (visible ⟨1, .WithController⟩) ∧
      observe (step unitMath) (forwarded unitMath ⟨1, .WithController⟩) {} run₁ ≠
        observe (step unitMath) (forwarded unitMath ⟨1, .WithController⟩) {} run₂ :=
  ⟨rfl, by decide +kernel⟩

end WKPairDriver.Smoothing
