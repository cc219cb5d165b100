import Mathlib
import WKPairDriver.Lib.Lerp
import WKPairDriver.Lib.Run

/-!
# Synchronising the eyelids: `EyelidSync`

Each lid is moved toward the confidence-weighted mean of the two by the strength, then smoothed
over time, unless one eye winks.  The mean is divided by the confidences and 10⁻⁶, so that it falls
short of them, and is 0 when both are.

* `weightedTarget_le` — the mean is never above both lids.
* `Keeps` — an openness that the lids, by their confidences, are far enough above;
  `keeps_iff` — the code pulls a lid below every other.
* `Apply_inv` — a call that keeps an openness seen so far keeps the smoothed lids within what was
  seen.
* `run_shown` — so does a run of such calls, and what it shows lies there too.
* `held_escapes` — a call that keeps none leaves what was seen when it is repeated.

Over any ordered field.
-/

set_option autoImplicit false

namespace WKPairDriver.FaceTracking

open Lib

universe u

/-- The eye fields of `FaceTrackingFrameBody`. -/
structure EyeFields (K : Type u) where
  eye_origin_l : Fin 3 → K
  eye_origin_r : Fin 3 → K
  eye_gaze_l : Fin 3 → K
  eye_gaze_r : Fin 3 → K
  eye_openness_l : K
  eye_openness_r : K
  eye_confidence_l : K
  eye_confidence_r : K
  flags : UInt32

/-- Bit 0 of the flags: the eye fields are valid. -/
def EyeFields.eyesValid {K : Type u} (frame : EyeFields K) : Bool := frame.flags &&& 1 != 0

structure EyelidSync (K : Type u) where
  wink_start_qpc_ : UInt64
  wink_stable_ : Bool
  smooth_l_ : K
  smooth_r_ : K
  smooth_init_ : Bool

namespace EyelidSync

variable {K : Type u} [Field K]

def new : EyelidSync K := ⟨0, false, 0.5, 0.5, false⟩

def kWinkThreshold : K := 0.45

def kWinkConfMin : K := 0.6

def kWinkDwellMs : K := 120.0

def kSmoothAlpha : K := 0.10

/-- The arguments of `Apply`, and the performance counter while it runs. -/
structure Call (K : Type u) where
  frame : EyeFields K
  strength_0_to_100 : UInt8
  preserve_winks : Bool
  now : UInt64

/-- The milliseconds the asymmetry has held. -/
def elapsedMs (qpcFreq : ℤ) (now start : UInt64) : K :=
  ((now - start).toNat : K) * 1000.0 / qpcFreq

/-- The smoother starts at the first lids it is given. -/
def seed (s : EyelidSync K) (frame : EyeFields K) : EyelidSync K :=
  if s.smooth_init_ then s
  else { s with
    smooth_l_ := frame.eye_openness_l
    smooth_r_ := frame.eye_openness_r
    smooth_init_ := true }

/-- The smoother after a step toward two values. -/
def smoothTo (s : EyelidSync K) (l r : K) : EyelidSync K :=
  { s with
    smooth_l_ := lerp s.smooth_l_ l kSmoothAlpha
    smooth_r_ := lerp s.smooth_r_ r kSmoothAlpha }

def weightedTarget (frame : EyeFields K) : K :=
  let denom := frame.eye_confidence_l + frame.eye_confidence_r + 1e-6
  (frame.eye_confidence_l * frame.eye_openness_l +
    frame.eye_confidence_r * frame.eye_openness_r) / denom

/-- A lid moved toward the target by the strength. -/
def blended (frame : EyeFields K) (strength_0_to_100 : UInt8) (lid : K) : K :=
  let k := (strength_0_to_100.toNat : K) / 100.0
  lerp lid (weightedTarget frame) k

variable [LinearOrder K]

/-- Wink detection: the dwell timer, and whether the wink is intentional. -/
def detectWink (qpcFreq : ℤ) (s : EyelidSync K) (c : Call K) : EyelidSync K × Bool :=
  if c.preserve_winks then
    if |c.frame.eye_openness_l - c.frame.eye_openness_r| > kWinkThreshold ∧
        c.frame.eye_confidence_l > kWinkConfMin ∧ c.frame.eye_confidence_r > kWinkConfMin then
      let s :=
        if s.wink_start_qpc_ = 0 then { s with wink_start_qpc_ := c.now, wink_stable_ := false }
        else if !s.wink_stable_ ∧ elapsedMs qpcFreq c.now s.wink_start_qpc_ ≥ (kWinkDwellMs : K)
        then { s with wink_stable_ := true }
        else s
      (s, s.wink_stable_)
    else ({ s with wink_start_qpc_ := 0, wink_stable_ := false }, false)
  else (s, false)

def Apply (qpcFreq : ℤ) (s : EyelidSync K) (c : Call K) : EyelidSync K × EyeFields K :=
  if !c.frame.eyesValid then (s, c.frame)
  else if c.strength_0_to_100 = 0 then (s, c.frame)
  else
    let s := s.seed c.frame
    let (s, intentional_wink) := s.detectWink qpcFreq c
    if intentional_wink then
      (s.smoothTo c.frame.eye_openness_l c.frame.eye_openness_r, c.frame)
    else
      let s := s.smoothTo (blended c.frame c.strength_0_to_100 c.frame.eye_openness_l)
        (blended c.frame c.strength_0_to_100 c.frame.eye_openness_r)
      (s, { c.frame with
        eye_openness_l := max 0 (min 1 s.smooth_l_)
        eye_openness_r := max 0 (min 1 s.smooth_r_) })

/-! ## Runs -/

/-- The openness of the two eyes. -/
def lids (frame : EyeFields K) : List K := [frame.eye_openness_l, frame.eye_openness_r]

/-- The synchroniser, the openness values it was given so far, and those it showed last. -/
structure Session (K : Type u) where
  sync : EyelidSync K
  seen : List K
  shown : List K

def Session.start : Session K := ⟨new, [], []⟩

def step (qpcFreq : ℤ) (s : Session K) (c : Call K) : Option (Session K) :=
  let r := s.sync.Apply qpcFreq c
  some ⟨r.1, s.seen ++ lids c.frame, lids r.2⟩

/-- What is shown lies between values seen so far. -/
def Shown (s : Session K) : Prop := ∀ x ∈ s.shown, Spanned s.seen x

instance : DecidablePred (@Shown K _) := fun s =>
  inferInstanceAs (Decidable (∀ x ∈ s.shown, (∃ lo ∈ s.seen, lo ≤ x) ∧ ∃ hi ∈ s.seen, x ≤ hi))

/-- A frame and a strength in the ranges the protocol gives. -/
structure Admitted (c : Call K) : Prop where
  strength : c.strength_0_to_100.toNat ≤ 100
  openness : ∀ x ∈ lids c.frame, 0 ≤ x ∧ x ≤ 1
  confidence_l : 0 ≤ c.frame.eye_confidence_l ∧ c.frame.eye_confidence_l ≤ 1
  confidence_r : 0 ≤ c.frame.eye_confidence_r ∧ c.frame.eye_confidence_r ≤ 1

/-- The call is not an early return, and no wink is let through. -/
def Synchronises (qpcFreq : ℤ) (s : EyelidSync K) (c : Call K) : Prop :=
  c.frame.eyesValid = true ∧ c.strength_0_to_100 ≠ 0 ∧
    ((s.seed c.frame).detectWink qpcFreq c).2 = false

/-- The openness `lo` is kept under a lid: what the lids are above it, by their confidences and the
    strength, outweighs the part 10⁻⁶ of the mean that counts as shut. -/
def Keeps (c : Call K) (lo lid : K) : Prop :=
  let k := (c.strength_0_to_100.toNat : K) / 100.0
  let c_L := c.frame.eye_confidence_l
  let c_R := c.frame.eye_confidence_r
  k * (1e-6 * lo) ≤ (1 - k) * ((lid - lo) * (c_L + c_R + 1e-6)) +
    k * (c_L * (c.frame.eye_openness_l - lo) + c_R * (c.frame.eye_openness_r - lo))

instance (c : Call K) (lo lid : K) : Decidable (Keeps c lo lid) :=
  inferInstanceAs (Decidable (_ ≤ _))

/-- If the call synchronises the lids, under each one an openness seen so far is kept. -/
def KeepsSeen (qpcFreq : ℤ) (s : Session K) (c : Call K) : Prop :=
  Synchronises qpcFreq s.sync c → ∀ lid ∈ lids c.frame, ∃ lo ∈ s.seen ++ lids c.frame, Keeps c lo lid

/-! ## One call -/

theorem detectWink_smooth (qpcFreq : ℤ) (s : EyelidSync K) (c : Call K) :
    (s.detectWink qpcFreq c).1.smooth_l_ = s.smooth_l_ ∧
      (s.detectWink qpcFreq c).1.smooth_r_ = s.smooth_r_ ∧
      (s.detectWink qpcFreq c).1.smooth_init_ = s.smooth_init_ := by
  unfold detectWink
  split_ifs <;> exact ⟨rfl, rfl, rfl⟩

omit [Field K] [LinearOrder K] in
theorem seed_init (s : EyelidSync K) (frame : EyeFields K) :
    (s.seed frame).smooth_init_ = true := by
  unfold seed
  split
  · assumption
  · rfl

/-- **What a call does**: nothing, or it smooths the lids of a wink that it lets through, or the
    blended lids, which it then shows. -/
theorem Apply_cases (qpcFreq : ℤ) (s : EyelidSync K) (c : Call K) :
    (¬ Synchronises qpcFreq s c ∧ s.Apply qpcFreq c = (s, c.frame)) ∨
    (¬ Synchronises qpcFreq s c ∧ s.Apply qpcFreq c =
      (((s.seed c.frame).detectWink qpcFreq c).1.smoothTo c.frame.eye_openness_l
        c.frame.eye_openness_r, c.frame)) ∨
    (Synchronises qpcFreq s c ∧
      let t := ((s.seed c.frame).detectWink qpcFreq c).1.smoothTo
        (blended c.frame c.strength_0_to_100 c.frame.eye_openness_l)
        (blended c.frame c.strength_0_to_100 c.frame.eye_openness_r)
      s.Apply qpcFreq c = (t, { c.frame with
        eye_openness_l := max 0 (min 1 t.smooth_l_)
        eye_openness_r := max 0 (min 1 t.smooth_r_) })) := by
  by_cases hvalid : c.frame.eyesValid = true
  · by_cases hstrength : c.strength_0_to_100 = 0
    · exact .inl ⟨fun h => h.2.1 hstrength, by simp [Apply, hvalid, hstrength]⟩
    · cases hwink : ((s.seed c.frame).detectWink qpcFreq c).2 with
      | true =>
        refine .inr (.inl ⟨fun h => ?_, by simp [Apply, hvalid, hstrength, hwink]⟩)
        rw [h.2.2] at hwink
        cases hwink
      | false =>
        exact .inr (.inr ⟨⟨hvalid, hstrength, hwink⟩, by simp [Apply, hvalid, hstrength, hwink]⟩)
  · exact .inl ⟨fun h => hvalid h.1, by simp [Apply, hvalid]⟩

theorem Admitted.lid_l {c : Call K} (h : Admitted c) :
    0 ≤ c.frame.eye_openness_l ∧ c.frame.eye_openness_l ≤ 1 :=
  h.openness _ (List.mem_cons_self ..)

theorem Admitted.lid_r {c : Call K} (h : Admitted c) :
    0 ≤ c.frame.eye_openness_r ∧ c.frame.eye_openness_r ≤ 1 :=
  h.openness _ (List.mem_cons_of_mem _ (List.mem_singleton_self _))

section Bounds

variable [IsStrictOrderedRing K]

theorem kSmoothAlpha_pos : (0 : K) < kSmoothAlpha := by norm_num [kSmoothAlpha]

theorem kSmoothAlpha_le_one : (kSmoothAlpha : K) ≤ 1 := by norm_num [kSmoothAlpha]

variable {c : Call K}

theorem Admitted.denom_pos (h : Admitted c) :
    0 < c.frame.eye_confidence_l + c.frame.eye_confidence_r + (1e-6 : K) := by
  have hl := h.confidence_l.1
  have hr := h.confidence_r.1
  have heps : (0 : K) < 1e-6 := by norm_num
  linarith

theorem Admitted.weightedTarget_nonneg (h : Admitted c) : 0 ≤ weightedTarget c.frame :=
  div_nonneg (add_nonneg (mul_nonneg h.confidence_l.1 h.lid_l.1)
    (mul_nonneg h.confidence_r.1 h.lid_r.1)) h.denom_pos.le

/-- The target is never above both lids. -/
theorem weightedTarget_le (h : Admitted c) :
    weightedTarget c.frame ≤ max c.frame.eye_openness_l c.frame.eye_openness_r := by
  have hl := mul_le_mul_of_nonneg_left
    (le_max_left c.frame.eye_openness_l c.frame.eye_openness_r) h.confidence_l.1
  have hr := mul_le_mul_of_nonneg_left
    (le_max_right c.frame.eye_openness_l c.frame.eye_openness_r) h.confidence_r.1
  have heps : (0 : K) < 1e-6 := by norm_num
  have hmax : 0 ≤ max c.frame.eye_openness_l c.frame.eye_openness_r := le_max_of_le_left h.lid_l.1
  rw [weightedTarget, div_le_iff₀ h.denom_pos]
  have := mul_nonneg hmax heps.le
  linarith

theorem Admitted.strength_le (h : Admitted c) :
    (0 : K) ≤ (c.strength_0_to_100.toNat : K) / 100.0 ∧
      (c.strength_0_to_100.toNat : K) / 100.0 ≤ 1 := by
  constructor
  · positivity
  · rw [div_le_one (by norm_num)]
    norm_num
    exact h.strength

/-- A blended lid is never above both lids. -/
theorem exists_blended_le (h : Admitted c) {lid : K} (hlid : lid ∈ lids c.frame) :
    ∃ hi ∈ lids c.frame, blended c.frame c.strength_0_to_100 lid ≤ hi := by
  have hmax : max c.frame.eye_openness_l c.frame.eye_openness_r ∈ lids c.frame := by
    rcases max_choice c.frame.eye_openness_l c.frame.eye_openness_r with hm | hm <;>
      rw [hm] <;> simp [lids]
  refine ⟨_, hmax, lerp_le h.strength_le.1 h.strength_le.2 ?_ (weightedTarget_le h)⟩
  rcases List.mem_cons.1 hlid with rfl | hr
  · exact le_max_left _ _
  · rw [List.mem_singleton.1 hr]
    exact le_max_right _ _

theorem blended_nonneg (h : Admitted c) {lid : K} (hlid : lid ∈ lids c.frame) :
    0 ≤ blended c.frame c.strength_0_to_100 lid :=
  le_lerp h.strength_le.1 h.strength_le.2 (h.openness lid hlid).1 h.weightedTarget_nonneg

omit [LinearOrder K] [IsStrictOrderedRing K] in
/-- How far a value moved toward a weighted mean is above `lo`; of the mean, the share of `e`
    counts as 0. -/
theorem lerp_mean_sub {a b e : K} (hdenom : a + b + e ≠ 0) (x y v lo k : K) :
    lerp v ((a * x + b * y) / (a + b + e)) k - lo =
      ((1 - k) * ((v - lo) * (a + b + e)) + k * (a * (x - lo) + b * (y - lo)) - k * (e * lo)) /
        (a + b + e) := by
  rw [eq_div_iff hdenom, lerp_eq]
  field_simp
  ring

/-- **What is kept** under a lid is not above where the lid is pulled to. -/
theorem keeps_iff (h : Admitted c) (lo lid : K) :
    Keeps c lo lid ↔ lo ≤ blended c.frame c.strength_0_to_100 lid := by
  have hdenom := h.denom_pos
  rw [← sub_nonneg (b := lo), blended, weightedTarget, lerp_mean_sub hdenom.ne',
    le_div_iff₀ hdenom, zero_mul, sub_nonneg]
  exact Iff.rfl

/-! ## What a call keeps -/

/-- What was shown and the smoothed lids lie within what was seen. -/
structure Inv (s : Session K) : Prop where
  shown : Shown s
  smooth : s.sync.smooth_init_ = true →
    Spanned s.seen s.sync.smooth_l_ ∧ Spanned s.seen s.sync.smooth_r_
  seen : ∀ x ∈ s.seen, 0 ≤ x ∧ x ≤ 1

omit [IsStrictOrderedRing K] in
theorem Spanned.clamped {vs : List K} (hvs : ∀ x ∈ vs, 0 ≤ x ∧ x ≤ 1) {x : K} (h : Spanned vs x) :
    max 0 (min 1 x) = x := by
  obtain ⟨⟨lo, hlo, hlox⟩, hi, hhi, hxhi⟩ := h
  rw [min_eq_right (hxhi.trans (hvs hi hhi).2), max_eq_right ((hvs lo hlo).1.trans hlox)]

theorem Spanned.smoothed {vs : List K} {x y : K} (hx : Spanned vs x) (hy : Spanned vs y) :
    Spanned vs (lerp x y kSmoothAlpha) :=
  Lib.Spanned.lerp hx hy kSmoothAlpha_pos.le kSmoothAlpha_le_one

omit [IsStrictOrderedRing K] in
/-- The smoother, seeded if need be, lies within what was seen. -/
theorem Inv.seeded {s : Session K} (h : Inv s) (frame : EyeFields K) :
    Spanned (s.seen ++ lids frame) (s.sync.seed frame).smooth_l_ ∧
      Spanned (s.seen ++ lids frame) (s.sync.seed frame).smooth_r_ := by
  unfold seed
  split
  · next hinit =>
    obtain ⟨hl, hr⟩ := h.smooth hinit
    exact ⟨hl.mono (List.subset_append_left ..), hr.mono (List.subset_append_left ..)⟩
  · exact ⟨.of_mem (by simp [lids]), .of_mem (by simp [lids])⟩

/-- The blended lids of a call that keeps an openness seen so far. -/
theorem blended_spanned {s : Session K} (h : Admitted c)
    (hkeeps : ∀ lid ∈ lids c.frame, ∃ lo ∈ s.seen ++ lids c.frame, Keeps c lo lid)
    {lid : K} (hlid : lid ∈ lids c.frame) :
    Spanned (s.seen ++ lids c.frame) (blended c.frame c.strength_0_to_100 lid) := by
  obtain ⟨hi, hmem, hle⟩ := exists_blended_le h hlid
  obtain ⟨lo, hlo, hkept⟩ := hkeeps lid hlid
  exact ⟨⟨lo, hlo, (keeps_iff h lo lid).1 hkept⟩, hi, List.mem_append_right _ hmem, hle⟩

/-- **A call that keeps an openness seen so far keeps all within what was seen.** -/
theorem Apply_inv (qpcFreq : ℤ) {s t : Session K} (h : Inv s) (hadmitted : Admitted c)
    (hkeeps : KeepsSeen qpcFreq s c) (hstep : step qpcFreq s c = some t) : Inv t := by
  obtain rfl := Option.some.inj hstep
  have hl : c.frame.eye_openness_l ∈ lids c.frame := by simp [lids]
  have hr : c.frame.eye_openness_r ∈ lids c.frame := by simp [lids]
  have hseen : ∀ x ∈ s.seen ++ lids c.frame, 0 ≤ x ∧ x ≤ 1 := fun x hx =>
    (List.mem_append.1 hx).elim (h.seen x) (hadmitted.openness x)
  have hinput : ∀ x ∈ lids c.frame, Spanned (s.seen ++ lids c.frame) x :=
    fun x hx => .of_mem (List.mem_append_right _ hx)
  obtain ⟨hwl, hwr, -⟩ := detectWink_smooth qpcFreq (s.sync.seed c.frame) c
  obtain ⟨hsl, hsr⟩ := h.seeded c.frame
  rcases Apply_cases qpcFreq s.sync c with ⟨-, happly⟩ | ⟨-, happly⟩ | ⟨hsync, happly⟩
  · simp only [happly]
    refine ⟨hinput, fun hinit => ?_, hseen⟩
    obtain ⟨hl, hr⟩ := h.smooth hinit
    exact ⟨hl.mono (List.subset_append_left ..), hr.mono (List.subset_append_left ..)⟩
  · simp only [happly]
    refine ⟨hinput, fun _ => ⟨?_, ?_⟩, hseen⟩
    · simp only [smoothTo, hwl]
      exact Spanned.smoothed hsl (hinput _ hl)
    · simp only [smoothTo, hwr]
      exact Spanned.smoothed hsr (hinput _ hr)
  · have hbl := Spanned.smoothed hsl (blended_spanned hadmitted (hkeeps hsync) hl)
    have hbr := Spanned.smoothed hsr (blended_spanned hadmitted (hkeeps hsync) hr)
    simp only [happly, smoothTo, hwl, hwr]
    refine ⟨?_, fun _ => ⟨hbl, hbr⟩, hseen⟩
    -- the clamp to the unit interval changes nothing
    intro x hx
    simp only [lids, List.mem_cons, List.not_mem_nil, or_false] at hx
    rcases hx with rfl | rfl
    · rw [Spanned.clamped hseen hbl]
      exact hbl
    · rw [Spanned.clamped hseen hbr]
      exact hbr

omit [IsStrictOrderedRing K] in
theorem start_inv : Inv (Session.start : Session K) :=
  ⟨by simp [Shown, Session.start], by simp [Session.start, new], by simp [Session.start]⟩

/-- **A run whose calls keep an openness seen so far shows nothing outside of what was seen.** -/
theorem run_shown (qpcFreq : ℤ) {calls : List (Call K)} (hadmitted : ∀ c ∈ calls, Admitted c)
    (hkeeps : AllSteps (step qpcFreq) (KeepsSeen qpcFreq) Session.start calls) :
    Always (step qpcFreq) Shown Session.start calls :=
  Always.of_inv (fun _ _ _ hinv hc hstep => Apply_inv qpcFreq hinv hc.1 hc.2 hstep)
    (fun _ hinv => hinv.shown) start_inv (hkeeps.and_forall hadmitted)

/-! ## A call that keeps none -/

omit [IsStrictOrderedRing K] in
theorem detectWink_off (qpcFreq : ℤ) (s : EyelidSync K) (hoff : c.preserve_winks = false) :
    s.detectWink qpcFreq c = (s, false) := by
  simp [detectWink, hoff]

omit [IsStrictOrderedRing K] in
/-- A call that synchronises whatever came before, made again and again: both lids are averaged
    with the same blended lids, and nothing new is seen. -/
theorem held_run (qpcFreq : ℤ) (s : Session K) (hvalid : c.frame.eyesValid = true)
    (hstrength : c.strength_0_to_100 ≠ 0) (hoff : c.preserve_winks = false) (n : ℕ) :
    ∃ t, runTo (step qpcFreq) s (List.replicate (n + 1) c) = some t ∧
      (∀ x ∈ t.seen, x ∈ s.seen ++ lids c.frame) ∧ t.sync.smooth_init_ = true ∧
      (let bl := blended c.frame c.strength_0_to_100 c.frame.eye_openness_l
        let br := blended c.frame c.strength_0_to_100 c.frame.eye_openness_r
        t.sync.smooth_l_ =
          (fun x => lerp x bl kSmoothAlpha)^[n + 1] (s.sync.seed c.frame).smooth_l_ ∧
        t.sync.smooth_r_ =
          (fun x => lerp x br kSmoothAlpha)^[n + 1] (s.sync.seed c.frame).smooth_r_) ∧
      t.shown = [max 0 (min 1 t.sync.smooth_l_), max 0 (min 1 t.sync.smooth_r_)] := by
  have hsync : ∀ u : EyelidSync K, Synchronises qpcFreq u c := fun u =>
    ⟨hvalid, hstrength, by rw [detectWink_off qpcFreq _ hoff]⟩
  have happly : ∀ u : EyelidSync K, u.Apply qpcFreq c =
      (let t := (u.seed c.frame).smoothTo
        (blended c.frame c.strength_0_to_100 c.frame.eye_openness_l)
        (blended c.frame c.strength_0_to_100 c.frame.eye_openness_r)
      (t, { c.frame with
        eye_openness_l := max 0 (min 1 t.smooth_l_)
        eye_openness_r := max 0 (min 1 t.smooth_r_) })) := by
    intro u
    rcases Apply_cases qpcFreq u c with ⟨hno, -⟩ | ⟨hno, -⟩ | ⟨-, h⟩
    · exact absurd (hsync u) hno
    · exact absurd (hsync u) hno
    · rw [h, detectWink_off qpcFreq _ hoff]
  induction n with
  | zero =>
    refine ⟨_, rfl, ?_, ?_, ?_, ?_⟩
    · simp
    · simp only [happly]
      exact seed_init s.sync c.frame
    · simp only [happly]
      exact ⟨rfl, rfl⟩
    · simp only [happly, lids]
  | succ n ih =>
    obtain ⟨t, ht, hseen, hinit, ⟨hl, hr⟩, -⟩ := ih
    have hseed : t.sync.seed c.frame = t.sync := by rw [seed, if_pos hinit]
    refine ⟨_, by rw [List.replicate_succ', runTo_append, ht]; rfl, ?_, ?_, ?_, ?_⟩
    · intro x hx
      rcases List.mem_append.1 hx with hx | hx
      · exact hseen x hx
      · exact List.mem_append_right _ hx
    · simp only [happly, hseed]
      exact hinit
    · simp only [happly, hseed, smoothTo, hl, hr]
      constructor <;> rw [Function.iterate_succ_apply' _ (n + 1)]
    · simp only [happly, lids]

/-- **A call that keeps nothing seen under a lid shows the lid below all of it in the end, when it is
    made again and again.** -/
theorem held_escapes [Archimedean K] (qpcFreq : ℤ) {s : Session K}
    (hadmitted : Admitted c) (hoff : c.preserve_winks = false) (hkeeps : ¬ KeepsSeen qpcFreq s c) :
    ∃ n, ¬ Always (step qpcFreq) Shown s (List.replicate n c) := by
  unfold KeepsSeen at hkeeps
  push Not at hkeeps
  obtain ⟨⟨hvalid, hstrength, -⟩, lid, hlid, hnone⟩ := hkeeps
  have hbelow : ∀ lo ∈ s.seen ++ lids c.frame, blended c.frame c.strength_0_to_100 lid < lo :=
    fun lo hlo => not_le.1 fun hle => hnone lo hlo ((keeps_iff hadmitted lo lid).2 hle)
  -- the least value seen
  obtain ⟨lo, hlo, hleast⟩ :
      ∃ lo ∈ s.seen ++ lids c.frame, ∀ x ∈ s.seen ++ lids c.frame, lo ≤ x := by
    obtain ⟨lo, hlo, hleast⟩ := (s.seen ++ lids c.frame).toFinset.exists_min_image id
      ⟨c.frame.eye_openness_l, by simp [lids]⟩
    exact ⟨lo, List.mem_toFinset.1 hlo, fun x hx => hleast x (List.mem_toFinset.2 hx)⟩
  have hlo1 : 0 < lo := (blended_nonneg hadmitted hlid).trans_lt (hbelow lo hlo)
  -- a smoothed lid below it is shown below it
  have hshown : ∀ {t : Session K} {x : K}, (∀ y ∈ t.seen, y ∈ s.seen ++ lids c.frame) → x < lo →
      max 0 (min 1 x) ∈ t.shown → ¬ Shown t := by
    intro t x hseen hx hmem hall
    obtain ⟨⟨y, hy, hle⟩, -⟩ := hall _ hmem
    have hlt : max 0 (min 1 x) < lo := max_lt hlo1 ((min_le_right 1 x).trans_lt hx)
    exact absurd (hleast y (hseen y hy)) (not_le.2 (hle.trans_lt hlt))
  have hfall : ∀ a : K, ∃ n, (fun x => lerp x (blended c.frame c.strength_0_to_100 lid)
      kSmoothAlpha)^[n + 1] a < lo := by
    intro a
    obtain ⟨n, hn⟩ := exists_iterate_lt kSmoothAlpha_pos (hbelow lo hlo)
      (lerp a (blended c.frame c.strength_0_to_100 lid) kSmoothAlpha)
    exact ⟨n, by rwa [Function.iterate_succ_apply]⟩
  rcases List.mem_cons.1 hlid with rfl | hr
  · obtain ⟨n, hn⟩ := hfall (s.sync.seed c.frame).smooth_l_
    obtain ⟨t, ht, hseen, -, ⟨hl, -⟩, hout⟩ := held_run qpcFreq s hvalid hstrength hoff n
    rw [← hl] at hn
    exact ⟨n + 1, fun hall => hshown hseen hn (by simp [hout]) (hall.runTo ht)⟩
  · rw [List.mem_singleton] at hr
    subst hr
    obtain ⟨n, hn⟩ := hfall (s.sync.seed c.frame).smooth_r_
    obtain ⟨t, ht, hseen, -, ⟨-, hr⟩, hout⟩ := held_run qpcFreq s hvalid hstrength hoff n
    rw [← hr] at hn
    exact ⟨n + 1, fun hall => hshown hseen hn (by simp [hout]) (hall.runTo ht)⟩

end Bounds

/-! ## Two runs -/

/-- A frame with these lids and one confidence for both. -/
def lidCall (lid_l lid_r confidence : ℚ) (strength : UInt8) : Call ℚ where
  frame :=
    { eye_origin_l := 0, eye_origin_r := 0, eye_gaze_l := 0, eye_gaze_r := 0
      eye_openness_l := lid_l, eye_openness_r := lid_r
      eye_confidence_l := confidence, eye_confidence_r := confidence
      flags := 1 }
  strength_0_to_100 := strength
  preserve_winks := false
  now := 0

theorem lidCall_admitted {lid_l lid_r confidence : ℚ} {strength : UInt8}
    (hl : 0 ≤ lid_l ∧ lid_l ≤ 1) (hr : 0 ≤ lid_r ∧ lid_r ≤ 1)
    (hconfidence : 0 ≤ confidence ∧ confidence ≤ 1) (hstrength : strength.toNat ≤ 100) :
    Admitted (lidCall lid_l lid_r confidence strength) where
  strength := hstrength
  openness := by simpa [lids, lidCall] using ⟨hl, hr⟩
  confidence_l := hconfidence
  confidence_r := hconfidence

/-- Lids at 0.2 and 0.6, then both half open and without confidence, at half strength. -/
theorem openingLids_shown :
    Always (step 10000000) Shown Session.start [lidCall 0.2 0.6 1 50, lidCall 0.5 0.5 0 50] := by
  have huneven : Admitted (lidCall 0.2 0.6 1 50) :=
    lidCall_admitted (by norm_num) (by norm_num) (by norm_num) (by decide)
  have hunsure : Admitted (lidCall 0.5 0.5 0 50) :=
    lidCall_admitted (by norm_num) (by norm_num) (by norm_num) (by decide)
  refine run_shown 10000000 (by simpa using ⟨huneven, hunsure⟩) fun s hs => ⟨?_, fun t ht => ⟨?_, ?_⟩⟩
  · exact fun _ lid hlid => ⟨0.2, by simp [lids, lidCall], by revert lid; decide +kernel⟩
  · obtain rfl := Option.some.inj hs
    exact fun _ lid hlid => ⟨0.2, by simp [lids, lidCall, Session.start], by
      revert lid; decide +kernel⟩
  · trivial

/-- **Half open lids without confidence are driven shut.** -/
theorem unsureLids_driven :
    ¬ Always (step 10000000) Shown Session.start [lidCall 0.5 0.5 0 100] := by
  decide +kernel

end EyelidSync

end WKPairDriver.FaceTracking
