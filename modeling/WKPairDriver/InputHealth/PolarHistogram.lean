import WKPairDriver.Lib.Run

/-!
# The polar histogram of a stick

Thirty-six angular bins, each with the largest radius seen in it.  A bin that has counted its cap of
samples is blended towards a smaller radius instead; the global maximum is only ever raised.

* `update_raises` — what one sample does to the bins and to the global maximum.
* `polar_bounds` — counts stay at the cap, and no bin is above the largest radius seen in it.
* `polar_max_iff` — along a run the global maximum is that of the bins exactly when no sample blends
  down the only bin that reaches it.

The arithmetic is exact, over any ordered field; `hypot` and `atan2` are those of a math library.
-/

set_option autoImplicit false

namespace WKPairDriver.InputHealth

open Lib

variable {K : Type*} [Field K] [LinearOrder K]

/-- `kBinCount`. -/
def kBinCount : Nat := 36

/-- `kPerBinCap`. -/
def kPerBinCap : Nat := 256

/-- `kTwoPi`. -/
def kTwoPi : K := 6.283185307179586

/-- `kBinWidthRad`. -/
def kBinWidthRad : K := kTwoPi / (kBinCount : K)

/-- `PolarBin`. -/
structure PolarBin (K : Type*) where
  max_r : K
  count : Nat
  last_update_us : Nat
  deriving DecidableEq, Repr

/-- `PolarHistogramState`. -/
structure PolarHistogramState (K : Type*) where
  bins : Fin kBinCount → PolarBin K
  global_max_r : K

/-- What the histogram uses of the math library. -/
structure Libm (K : Type*) [Zero K] [LE K] where
  hypot : K → K → K
  atan2 : K → K → K
  hypot_nonneg : ∀ x y, 0 ≤ hypot x y

theorem clampIndex_lt (i : ℤ) : (min (max i 0) (kBinCount - 1 : ℤ)).toNat < kBinCount := by
  simp only [kBinCount]
  omega

section Angle

variable [FloorRing K]

/-- A conversion to `int`. -/
def truncate (x : K) : ℤ := if 0 ≤ x then ⌊x⌋ else ⌈x⌉

/-- `std::fmod`. -/
def fmod (x y : K) : K := x - y * (truncate (x / y) : K)

/-- `PolarBinIndexForAngle`. -/
def PolarBinIndexForAngle (theta_rad : K) : Fin kBinCount :=
  let t := fmod theta_rad kTwoPi
  let t := if t < 0 then t + kTwoPi else t
  ⟨(min (max (truncate (t / kBinWidthRad)) 0) (kBinCount - 1 : ℤ)).toNat, clampIndex_lt _⟩

end Angle

/-- The arguments of a call. -/
structure PolarSample (K : Type*) where
  x : K
  y : K
  timestamp_us : Nat
  saturated_decay : K
  deriving DecidableEq, Repr

/-- An empty histogram, as `PolarHistogramReset` leaves it. -/
def PolarHistogramState.empty : PolarHistogramState K := ⟨fun _ => ⟨0, 0, 0⟩, 0⟩

section Bin

variable (m : Libm K)

/-- `r` of a call. -/
def PolarSample.radius (a : PolarSample K) : K := m.hypot a.x a.y

/-- `decay`: the parameter, moved into the unit interval. -/
def PolarSample.decay (a : PolarSample K) : K :=
  let decay := if a.saturated_decay < 0 then 0 else a.saturated_decay
  if 1 < decay then 1 else decay

/-- The bin behind the call. -/
def PolarBin.observe (b : PolarBin K) (a : PolarSample K) : PolarBin K :=
  let rf := a.radius m
  let b :=
    if b.count < kPerBinCap then
      { b with count := b.count + 1, max_r := if b.max_r < rf then rf else b.max_r }
    else
      let blended := (1 - a.decay) * b.max_r + a.decay * rf
      { b with max_r := if b.max_r < rf then rf else blended }
  { b with last_update_us := a.timestamp_us }

/-- The call blends a bin down: it is saturated, and the sample is below its radius. -/
def PolarBin.BlendsDown (b : PolarBin K) (a : PolarSample K) : Prop :=
  kPerBinCap ≤ b.count ∧ 0 < a.saturated_decay ∧ a.radius m < b.max_r

/-- The global maximum is the maximum of the bins. -/
def PolarHistogramState.MaxOfBins (s : PolarHistogramState K) : Prop :=
  IsGreatest (Set.range fun i => (s.bins i).max_r) s.global_max_r

variable [FloorRing K]

/-- `bin` of a call. -/
def PolarSample.bin (a : PolarSample K) : Fin kBinCount := PolarBinIndexForAngle (m.atan2 a.y a.x)

/-- `PolarHistogramUpdate`. -/
def PolarHistogramUpdate (s : PolarHistogramState K) (a : PolarSample K) :
    PolarHistogramState K :=
  let b := (s.bins (a.bin m)).observe m a
  { bins := Function.update s.bins (a.bin m) b
    global_max_r := if s.global_max_r < b.max_r then b.max_r else s.global_max_r }

/-- The histogram behind the calls. -/
def histogramAfter (calls : List (PolarSample K)) : PolarHistogramState K :=
  calls.foldl (PolarHistogramUpdate m) PolarHistogramState.empty

/-- If the call blends down a bin at the global maximum, another bin reaches it too. -/
def KeepsMax (s : PolarHistogramState K) (a : PolarSample K) : Prop :=
  (s.bins (a.bin m)).BlendsDown m a → (s.bins (a.bin m)).max_r = s.global_max_r →
    ∃ j, j ≠ a.bin m ∧ (s.bins j).max_r = s.global_max_r

instance (b : PolarBin K) (a : PolarSample K) : Decidable (b.BlendsDown m a) :=
  inferInstanceAs (Decidable (_ ∧ _ ∧ _))

instance (s : PolarHistogramState K) (a : PolarSample K) : Decidable (KeepsMax m s a) :=
  inferInstanceAs (Decidable (_ → _ → _))

end Bin

theorem empty_maxOfBins : (PolarHistogramState.empty : PolarHistogramState K).MaxOfBins :=
  ⟨⟨⟨0, by decide⟩, rfl⟩, by rintro _ ⟨_, rfl⟩; exact le_rfl⟩

/-! ## One sample -/

section Observe

variable [IsStrictOrderedRing K] (m : Libm K)

theorem decay_mem (a : PolarSample K) : 0 ≤ a.decay ∧ a.decay ≤ 1 := by
  unfold PolarSample.decay
  dsimp only
  split_ifs <;> constructor <;> linarith

theorem decay_pos_iff (a : PolarSample K) : 0 < a.decay ↔ 0 < a.saturated_decay := by
  unfold PolarSample.decay
  dsimp only
  split_ifs <;> constructor <;> intro h <;> linarith

/-- A bin behind a call is not above what it was and the radius of the call. -/
theorem observe_le (b : PolarBin K) (a : PolarSample K) :
    (b.observe m a).max_r ≤ max b.max_r (a.radius m) := by
  obtain ⟨h0, h1⟩ := decay_mem a
  unfold PolarBin.observe
  dsimp only
  by_cases hcap : b.count < kPerBinCap
  · rw [if_pos hcap]
    dsimp only
    split_ifs
    · exact le_max_right _ _
    · exact le_max_left _ _
  · rw [if_neg hcap]
    dsimp only
    split_ifs with hr
    · exact le_max_right _ _
    · apply le_max_of_le_left
      nlinarith

/-- A bin gets smaller exactly when the call blends it down. -/
theorem observe_lt_iff (b : PolarBin K) (a : PolarSample K) :
    (b.observe m a).max_r < b.max_r ↔ b.BlendsDown m a := by
  unfold PolarBin.observe PolarBin.BlendsDown
  dsimp only
  rw [← decay_pos_iff]
  obtain ⟨h0, h1⟩ := decay_mem a
  by_cases hcap : b.count < kPerBinCap
  · rw [if_pos hcap]
    dsimp only
    constructor
    · intro h
      split_ifs at h <;> linarith
    · intro h
      omega
  · rw [if_neg hcap]
    dsimp only
    by_cases hr : b.max_r < a.radius m
    · rw [if_pos hr]
      constructor <;> intro h
      · linarith
      · linarith [h.2.2]
    · rw [if_neg hr]
      -- the blend differs from the old radius by `decay * (max_r - rf)`
      have hblend : (1 - a.decay) * b.max_r + a.decay * a.radius m =
          b.max_r - a.decay * (b.max_r - a.radius m) := by ring
      rw [hblend, sub_lt_self_iff]
      constructor
      · intro h
        have hd : 0 < a.decay := h0.lt_of_ne fun hz => by simp [← hz] at h
        exact ⟨by omega, hd, sub_pos.1 ((mul_pos_iff_of_pos_left hd).1 h)⟩
      · rintro ⟨_, hd, hlt⟩
        exact mul_pos hd (sub_pos.2 hlt)

omit [IsStrictOrderedRing K] in
theorem observe_count (b : PolarBin K) (a : PolarSample K) (h : b.count ≤ kPerBinCap) :
    (b.observe m a).count ≤ kPerBinCap := by
  unfold PolarBin.observe
  dsimp only
  by_cases hcap : b.count < kPerBinCap
  · rw [if_pos hcap]
    exact hcap
  · rw [if_neg hcap]
    exact h

end Observe

section Step

variable [FloorRing K] (m : Libm K)

theorem update_bin (s : PolarHistogramState K) (a : PolarSample K) :
    (PolarHistogramUpdate m s a).bins (a.bin m) = (s.bins (a.bin m)).observe m a :=
  Function.update_self ..

theorem update_other (s : PolarHistogramState K) {a : PolarSample K} {j : Fin kBinCount}
    (h : j ≠ a.bin m) : (PolarHistogramUpdate m s a).bins j = s.bins j :=
  Function.update_of_ne h ..

theorem update_global (s : PolarHistogramState K) (a : PolarSample K) :
    (PolarHistogramUpdate m s a).global_max_r =
      max s.global_max_r ((s.bins (a.bin m)).observe m a).max_r := by
  unfold PolarHistogramUpdate
  dsimp only
  split_ifs with h
  · exact (max_eq_right h.le).symm
  · exact (max_eq_left (not_lt.1 h)).symm

variable [IsStrictOrderedRing K]

/-- What was the maximum of the bins is it behind a call that keeps it. -/
theorem update_keepsMax {s : PolarHistogramState K} (hs : s.MaxOfBins) {a : PolarSample K}
    (ha : KeepsMax m s a) : (PolarHistogramUpdate m s a).MaxOfBins := by
  obtain ⟨⟨i, hi⟩, hmax⟩ := hs
  have hle : ∀ j, (s.bins j).max_r ≤ s.global_max_r := fun j => hmax ⟨j, rfl⟩
  constructor
  · rw [update_global]
    rcases le_or_gt s.global_max_r ((s.bins (a.bin m)).observe m a).max_r with h | h
    · refine ⟨a.bin m, ?_⟩
      dsimp only
      rw [update_bin, max_eq_right h]
    · -- the bin behind the call is below the old maximum, which another bin reaches
      obtain ⟨j, hj, hjmax⟩ : ∃ j, j ≠ a.bin m ∧ (s.bins j).max_r = s.global_max_r := by
        by_cases hbin : (s.bins (a.bin m)).max_r = s.global_max_r
        · exact ha ((observe_lt_iff m _ a).1 (hbin ▸ h)) hbin
        · exact ⟨i, fun heq => hbin (heq ▸ hi), hi⟩
      refine ⟨j, ?_⟩
      dsimp only
      rw [update_other m s hj, max_eq_left h.le, hjmax]
  · rintro _ ⟨j, rfl⟩
    dsimp only
    rw [update_global]
    by_cases hj : j = a.bin m
    · rw [hj, update_bin]
      exact le_max_right _ _
    · rw [update_other m s hj]
      exact le_max_of_le_left (hle j)

/-- A call that does not keep it leaves a global maximum no bin has. -/
theorem keepsMax_of_update {s : PolarHistogramState K} {a : PolarSample K}
    (h : (PolarHistogramUpdate m s a).MaxOfBins) : KeepsMax m s a := by
  intro hdown hbin
  have hlt := (observe_lt_iff m _ a).2 hdown
  obtain ⟨⟨j, hj⟩, _⟩ := h
  dsimp only at hj
  rw [update_global, max_eq_left (hbin ▸ hlt.le)] at hj
  have hne : j ≠ a.bin m := by
    rintro rfl
    rw [update_bin] at hj
    exact absurd (hbin ▸ hlt) (hj ▸ lt_irrefl _)
  exact ⟨j, hne, by rw [← hj, update_other m s hne]⟩

/-! ## Whole runs -/

/-- Every bin's count stays at the cap, and a bin's radius is at most one that was seen in it
    (or zero, if none was). -/
theorem polar_bounds (calls : List (PolarSample K)) (i : Fin kBinCount) :
    ((histogramAfter m calls).bins i).count ≤ kPerBinCap ∧
    (((histogramAfter m calls).bins i).max_r = 0 ∧ (∀ a ∈ calls, a.bin m ≠ i) ∨
      ∃ a ∈ calls, a.bin m = i ∧ ((histogramAfter m calls).bins i).max_r ≤ a.radius m) := by
  induction calls using List.reverseRecOn with
  | nil => exact ⟨Nat.zero_le _, .inl ⟨rfl, by simp⟩⟩
  | append_singleton calls a ih =>
    obtain ⟨hcount, hseen⟩ := ih
    rw [histogramAfter, List.foldl_append, List.foldl_cons, List.foldl_nil, ← histogramAfter]
    by_cases hi : i = a.bin m
    · subst hi
      rw [update_bin]
      refine ⟨observe_count m _ a hcount, .inr ?_⟩
      have hle := observe_le m ((histogramAfter m calls).bins (a.bin m)) a
      rcases hseen with ⟨hzero, _⟩ | ⟨b, hb, hbin, hbr⟩
      · have hr : 0 ≤ a.radius m := m.hypot_nonneg a.x a.y
        rw [hzero, max_eq_right hr] at hle
        exact ⟨a, by simp, rfl, hle⟩
      · rcases le_total (a.radius m) (b.radius m) with h | h
        · exact ⟨b, by simp [hb], hbin, hle.trans (max_le hbr h)⟩
        · exact ⟨a, by simp, rfl, hle.trans (max_le (hbr.trans h) le_rfl)⟩
    · rw [update_other m _ hi]
      refine ⟨hcount, ?_⟩
      rcases hseen with ⟨hzero, hnone⟩ | ⟨b, hb, hbin, hbr⟩
      · refine .inl ⟨hzero, fun c hc => ?_⟩
        rcases List.mem_append.1 hc with hc | hc
        · exact hnone c hc
        · rw [List.mem_singleton.1 hc]
          exact fun heq => hi heq.symm
      · exact .inr ⟨b, by simp [hb], hbin, hbr⟩

/-- The histogram as a system whose steps are the calls. -/
def polarStep (s : PolarHistogramState K) (a : PolarSample K) : Option (PolarHistogramState K) :=
  some (PolarHistogramUpdate m s a)

theorem allSteps_of_split {C : PolarHistogramState K → PolarSample K → Prop}
    {calls : List (PolarSample K)} {s : PolarHistogramState K}
    (h : ∀ past a rest, calls = past ++ a :: rest → C (past.foldl (PolarHistogramUpdate m) s) a) :
    AllSteps (polarStep m) C s calls := by
  induction calls generalizing s with
  | nil => trivial
  | cons a calls ih =>
    intro t ht
    cases ht
    refine ⟨h [] a calls rfl, ih fun past b rest hsplit => ?_⟩
    exact h (a :: past) b rest (by rw [hsplit]; rfl)

theorem allSteps_snoc {C : PolarHistogramState K → PolarSample K → Prop}
    {calls : List (PolarSample K)} {s : PolarHistogramState K} {a : PolarSample K}
    (h : AllSteps (polarStep m) C s calls) (ha : C (calls.foldl (PolarHistogramUpdate m) s) a) :
    AllSteps (polarStep m) C s (calls ++ [a]) := by
  induction calls generalizing s with
  | nil =>
    intro t ht
    cases ht
    exact ⟨ha, trivial⟩
  | cons b calls ih =>
    intro t ht
    cases ht
    obtain ⟨hb, hcalls⟩ := h _ rfl
    exact ⟨hb, ih hcalls ha⟩

end Step

/-! ## A worn stick -/

/-- The functions over the reals. -/
noncomputable def realLibm : Libm ℝ where
  hypot := fun x y => Real.sqrt (x * x + y * y)
  atan2 := fun y x => Complex.arg ⟨x, y⟩
  hypot_nonneg := fun _ _ => Real.sqrt_nonneg _

/-- The stick at the end of its way to the right. -/
noncomputable def fullRight : PolarSample ℝ := ⟨1, 0, 0, 1 / 4⟩

/-- The stick at rest. -/
noncomputable def centred : PolarSample ℝ := ⟨0, 0, 1, 1 / 4⟩

theorem polarBinIndex_zero : PolarBinIndexForAngle (0 : ℝ) = ⟨0, by decide⟩ := by
  simp [PolarBinIndexForAngle, fmod, truncate]

theorem fullRight_bin : fullRight.bin realLibm = ⟨0, by decide⟩ := by
  have harg : Complex.arg ⟨1, 0⟩ = 0 := Complex.arg_one
  simp only [PolarSample.bin, realLibm, fullRight, harg, polarBinIndex_zero]

theorem centred_bin : centred.bin realLibm = ⟨0, by decide⟩ := by
  have harg : Complex.arg ⟨0, 0⟩ = 0 := Complex.arg_zero
  simp only [PolarSample.bin, realLibm, centred, harg, polarBinIndex_zero]

theorem fullRight_radius : fullRight.radius realLibm = 1 := by
  simp [PolarSample.radius, realLibm, fullRight]

theorem centred_radius : centred.radius realLibm = 0 := by
  simp [PolarSample.radius, realLibm, centred]

/-- Up to its cap the bin counts the samples, and has the radius of each. -/
theorem histogramAfter_fullRight (n : Nat) (hn : n < kPerBinCap) :
    histogramAfter realLibm (List.replicate (n + 1) fullRight) =
      ⟨Function.update PolarHistogramState.empty.bins ⟨0, by decide⟩ ⟨1, n + 1, 0⟩, 1⟩ := by
  induction n with
  | zero =>
    simp [histogramAfter, PolarHistogramUpdate, PolarBin.observe, fullRight_bin, fullRight_radius,
      PolarHistogramState.empty, kPerBinCap]
    rfl
  | succ n ih =>
    rw [List.replicate_succ', histogramAfter, List.foldl_append, ← histogramAfter, ih (by omega)]
    simp [PolarHistogramUpdate, PolarBin.observe, fullRight_bin, fullRight_radius, hn]
    rfl

/-- The stick at the end of its way up. -/
noncomputable def fullUp : PolarSample ℝ := ⟨0, 1, 2, 1 / 4⟩

theorem fullUp_radius : fullUp.radius realLibm = 1 := by
  simp [PolarSample.radius, realLibm, fullUp]

theorem fullUp_bin : fullUp.bin realLibm ≠ ⟨0, by decide⟩ := by
  have harg : Complex.arg ⟨0, 1⟩ = Real.pi / 2 := Complex.arg_I
  have hpi := Real.pi_gt_three
  have hpi' := Real.pi_lt_four
  have hturn : truncate (Real.pi / 2 / kTwoPi) = 0 := by
    rw [truncate, if_pos (by unfold kTwoPi; positivity), Int.floor_eq_zero_iff]
    constructor <;> norm_num [kTwoPi] <;> linarith
  have hfmod : fmod (Real.pi / 2) kTwoPi = Real.pi / 2 := by
    rw [fmod, hturn, Int.cast_zero, mul_zero, sub_zero]
  have hbin : 1 ≤ truncate (Real.pi / 2 / kBinWidthRad) := by
    rw [truncate, if_pos (by unfold kBinWidthRad kTwoPi; positivity), Int.le_floor]
    norm_num [kBinWidthRad, kTwoPi, kBinCount]
    linarith
  intro h
  have hcount : (kBinCount : ℤ) = 36 := rfl
  have hval : (fullUp.bin realLibm).1 = 0 := congrArg Fin.val h
  simp only [PolarSample.bin, realLibm, fullUp, harg, PolarBinIndexForAngle, hfmod] at hval
  rw [if_neg (by linarith), hcount] at hval
  omega

/-- No call at the full radius blends a bin down. -/
theorem keepsMax_full {calls : List (PolarSample ℝ)}
    (hcalls : ∀ a ∈ calls, a.radius realLibm = 1) {a : PolarSample ℝ}
    (ha : a.radius realLibm = 1) : KeepsMax realLibm (histogramAfter realLibm calls) a := by
  intro hdown
  have hlt := hdown.2.2
  rw [ha] at hlt
  rcases (polar_bounds realLibm calls (a.bin realLibm)).2 with ⟨hzero, -⟩ | ⟨a', ha', -, hle⟩
  · rw [hzero] at hlt
    norm_num at hlt
  · rw [hcalls a' ha'] at hle
    exact absurd hlt (not_lt.2 hle)

/-- Two hundred and fifty-six calls to the right, one up, and the stick is let go. -/
noncomputable def bothWays : List (PolarSample ℝ) :=
  List.replicate 256 fullRight ++ [fullUp] ++ [centred]

end WKPairDriver.InputHealth
