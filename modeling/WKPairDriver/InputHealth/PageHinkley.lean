import WKPairDriver.Lib.SuffixSum

/-!
# The Page-Hinkley test

`PageHinkleyUpdate` keeps a running mean and two accumulators of the deviations from it, clamped at
zero, and returns true at the sample that brings one of them above the threshold.  The one-sided
test leaves the downward accumulator alone.

* `update_returns_iff` — what one sample needs to make the detector return true.
* `pageHinkley_suffix_sums` — along every sequence from a reset the accumulators are the largest
  suffix sums of the deviations less the slack, the first of them to pass the threshold makes the
  detector return true, and a signal within the slack of its mean never does.

Arithmetic is exact, over any ordered field.
-/

set_option autoImplicit false

namespace WKPairDriver.InputHealth.PageHinkley

open Lib.SuffixSum

variable {K : Type*} [Field K] [LinearOrder K]

/-! ## The detector -/

structure PageHinkleyState (K : Type*) where
  mean : K
  ph_pos : K
  ph_neg : K
  initialized : Bool
  triggered : Bool
  triggered_positive : Bool
  deriving DecidableEq, Repr

structure PageHinkleyParams (K : Type*) where
  alpha : K
  delta : K
  lambda : K
  one_sided_positive : Bool
  deriving DecidableEq, Repr

/-- `PageHinkleyReset`, which leaves nothing of the state before. -/
def PageHinkleyReset : PageHinkleyState K := ⟨0, 0, 0, false, false, false⟩

/-- The reference that a sample is compared with. -/
def nextMean (s : PageHinkleyState K) (p : PageHinkleyParams K) (x : K) : K :=
  if s.initialized then (1 - p.alpha) * s.mean + p.alpha * x else x

/-- The accumulators of `PageHinkleyUpdate`. -/
def accumulate (s : PageHinkleyState K) (p : PageHinkleyParams K) (x : K) : PageHinkleyState K :=
  let dev := x - nextMean s p x
  { s with
    mean := nextMean s p x
    initialized := true
    ph_pos := max 0 (s.ph_pos + (dev - p.delta))
    ph_neg := if p.one_sided_positive then s.ph_neg else max 0 (s.ph_neg - (dev + p.delta)) }

/-- `PageHinkleyUpdate`: the state behind a sample, and what it returns. -/
def PageHinkleyUpdate (s : PageHinkleyState K) (p : PageHinkleyParams K) (x : K) :
    PageHinkleyState K × Bool :=
  let s := accumulate s p x
  if s.triggered then (s, false)
  else if p.lambda < s.ph_pos then ({ s with triggered := true, triggered_positive := true }, true)
  else if p.one_sided_positive = false ∧ p.lambda < s.ph_neg then
    ({ s with triggered := true, triggered_positive := false }, true)
  else (s, false)

/-- The state behind a sequence of samples, from a reset. -/
def behind (p : PageHinkleyParams K) (xs : List K) : PageHinkleyState K :=
  xs.foldl (fun s x => (PageHinkleyUpdate s p x).1) PageHinkleyReset

/-- The detector returns true at the last of the samples. -/
def FiresAt (p : PageHinkleyParams K) (seen : List K) (x : K) : Prop :=
  (PageHinkleyUpdate (behind p seen) p x).2 = true

/-! ## The deviations -/

variable (p : PageHinkleyParams K)

/-- `m_t = (1 - alpha) * m_{t-1} + alpha * x_t`. -/
def ema (m x : K) : K := (1 - p.alpha) * m + p.alpha * x

/-- The deviation of each sample from its mean, behind a mean `m`. -/
def deviationsFrom (m : K) : List K → List K
  | [] => []
  | x :: xs => (x - ema p m x) :: deviationsFrom (ema p m x) xs

/-- The deviations of a sequence from a reset: the first mean is the first sample. -/
def deviations : List K → List K
  | [] => []
  | x :: xs => (x - x) :: deviationsFrom p x xs

/-- `x_i - m_i - delta`. -/
def upward (xs : List K) : List K := (deviations p xs).map fun dev => dev - p.delta

/-- `m_i - x_i - delta`. -/
def downward (xs : List K) : List K := (deviations p xs).map fun dev => -dev - p.delta

/-- Some suffix sum of an enabled direction is above the threshold. -/
def Exceeds (xs : List K) : Prop :=
  (∃ s ∈ suffixSums (upward p xs), p.lambda < s) ∨
    (p.one_sided_positive = false ∧ ∃ s ∈ suffixSums (downward p xs), p.lambda < s)

/-- The signal stays within the slack of its running mean. -/
def InBand (xs : List K) : Prop := ∀ dev ∈ deviations p xs, |dev| ≤ p.delta

variable {p}

theorem deviationsFrom_snoc (m : K) (xs : List K) (x : K) :
    deviationsFrom p m (xs ++ [x]) =
      deviationsFrom p m xs ++ [x - ema p (xs.foldl (ema p) m) x] := by
  induction xs generalizing m with
  | nil => rfl
  | cons y xs ih =>
    rw [List.cons_append, deviationsFrom, ih]
    rfl

/-! ## One sample -/

/-- The detector behind a sequence of samples. -/
structure Tracks (p : PageHinkleyParams K) (xs : List K) (s : PageHinkleyState K) : Prop where
  initialized : s.initialized = !xs.isEmpty
  mean : ∀ x rest, xs = x :: rest → s.mean = rest.foldl (ema p) x
  ph_pos : s.ph_pos = clamped (upward p xs)
  ph_neg : s.ph_neg = if p.one_sided_positive then 0 else clamped (downward p xs)
  triggered : s.triggered = true ↔ ∃ seen, seen <+: xs ∧ Exceeds p seen

theorem deviations_snoc {xs : List K} {s : PageHinkleyState K} (h : Tracks p xs s) (x : K) :
    deviations p (xs ++ [x]) = deviations p xs ++ [x - nextMean s p x] := by
  cases xs with
  | nil =>
    rw [nextMean, h.initialized]
    rfl
  | cons y rest =>
    rw [List.cons_append, deviations, deviationsFrom_snoc, nextMean, h.initialized,
      h.mean y rest rfl]
    rfl

theorem upward_snoc {xs : List K} {s : PageHinkleyState K} (h : Tracks p xs s) (x : K) :
    upward p (xs ++ [x]) = upward p xs ++ [x - nextMean s p x - p.delta] := by
  rw [upward, deviations_snoc h, List.map_append]
  rfl

theorem downward_snoc {xs : List K} {s : PageHinkleyState K} (h : Tracks p xs s) (x : K) :
    downward p (xs ++ [x]) = downward p xs ++ [-(x - nextMean s p x) - p.delta] := by
  rw [downward, deviations_snoc h, List.map_append]
  rfl

theorem accumulate_mean {xs : List K} {s : PageHinkleyState K} (h : Tracks p xs s) (x : K) :
    ∀ y rest, xs ++ [x] = y :: rest → (accumulate s p x).mean = rest.foldl (ema p) y := by
  intro y rest heq
  cases xs with
  | nil =>
    obtain ⟨rfl, rfl⟩ := List.cons.inj heq
    show nextMean s p x = x
    rw [nextMean, h.initialized]
    rfl
  | cons z zs =>
    rw [List.cons_append, List.cons.injEq] at heq
    obtain ⟨rfl, rfl⟩ := heq
    show nextMean s p x = _
    rw [nextMean, h.initialized, h.mean z zs rfl, List.foldl_concat]
    rfl

theorem accumulate_pos {xs : List K} {s : PageHinkleyState K} (h : Tracks p xs s) (x : K) :
    (accumulate s p x).ph_pos = clamped (upward p (xs ++ [x])) := by
  rw [upward_snoc h, clamped_snoc, ← h.ph_pos]
  rfl

theorem accumulate_neg {xs : List K} {s : PageHinkleyState K} (h : Tracks p xs s) (x : K) :
    (accumulate s p x).ph_neg =
      if p.one_sided_positive then 0 else clamped (downward p (xs ++ [x])) := by
  show (if p.one_sided_positive then s.ph_neg else max 0 (s.ph_neg - _)) = _
  rw [h.ph_neg]
  by_cases hone : p.one_sided_positive = true
  · rw [if_pos hone, if_pos hone, if_pos hone]
  · rw [if_neg hone, if_neg hone, if_neg hone, downward_snoc h, clamped_snoc]
    congr 1
    ring

variable [IsStrictOrderedRing K]

/-- The accumulators behind the sample tell whether some suffix sum is above the threshold. -/
theorem exceeds_iff {xs : List K} {s : PageHinkleyState K} (h : Tracks p xs s) (x : K) :
    Exceeds p (xs ++ [x]) ↔ p.lambda < (accumulate s p x).ph_pos ∨
      (p.one_sided_positive = false ∧ p.lambda < (accumulate s p x).ph_neg) := by
  rw [Exceeds, ← lt_clamped_iff, ← lt_clamped_iff, accumulate_pos h, accumulate_neg h]
  refine or_congr_right (and_congr_right fun hone => ?_)
  rw [if_neg (by simp [hone])]

/-- What the detector returns at a sample: whether it is the first with such a suffix sum. -/
theorem update_returns_iff {xs : List K} {s : PageHinkleyState K} (h : Tracks p xs s) (x : K) :
    (PageHinkleyUpdate s p x).2 = true ↔
      Exceeds p (xs ++ [x]) ∧ ∀ seen, seen <+: xs → ¬ Exceeds p seen := by
  have hlatch : (accumulate s p x).triggered = true ↔ ∃ seen, seen <+: xs ∧ Exceeds p seen :=
    h.triggered
  rw [exceeds_iff h, ← not_exists.trans (forall_congr' fun seen => not_and), ← hlatch]
  unfold PageHinkleyUpdate
  dsimp only
  split_ifs with htriggered hpos hneg
  · simp [htriggered]
  · simp [htriggered, hpos]
  · simp [htriggered, hneg]
  · simp only [Bool.false_eq_true, false_iff, not_and, not_not]
    rintro (h | h)
    · exact absurd h hpos
    · exact absurd h hneg

theorem Tracks.reset (hlambda : 0 ≤ p.lambda) :
    Tracks p [] (PageHinkleyReset : PageHinkleyState K) where
  initialized := rfl
  mean := by simp
  ph_pos := rfl
  ph_neg := by
    rw [show downward p [] = [] from rfl, clamped_nil, ite_self]
    rfl
  triggered := by
    simp [PageHinkleyReset, Exceeds, ← lt_clamped_iff, upward, downward, deviations,
      not_lt.2 hlambda]

omit [IsStrictOrderedRing K] in
theorem update_fst (s : PageHinkleyState K) (x : K) :
    (PageHinkleyUpdate s p x).1.initialized = true ∧
      (PageHinkleyUpdate s p x).1.mean = (accumulate s p x).mean ∧
      (PageHinkleyUpdate s p x).1.ph_pos = (accumulate s p x).ph_pos ∧
      (PageHinkleyUpdate s p x).1.ph_neg = (accumulate s p x).ph_neg ∧
      (PageHinkleyUpdate s p x).1.triggered = (s.triggered || (PageHinkleyUpdate s p x).2) := by
  have hlatch : (accumulate s p x).triggered = s.triggered := rfl
  unfold PageHinkleyUpdate
  dsimp only
  split_ifs with htriggered
  · exact ⟨rfl, rfl, rfl, rfl, by simp [← hlatch, htriggered]⟩
  · exact ⟨rfl, rfl, rfl, rfl, by simp⟩
  · exact ⟨rfl, rfl, rfl, rfl, by simp⟩
  · exact ⟨rfl, rfl, rfl, rfl, by simp [hlatch]⟩

theorem Tracks.update {xs : List K} {s : PageHinkleyState K} (h : Tracks p xs s) (x : K) :
    Tracks p (xs ++ [x]) (PageHinkleyUpdate s p x).1 := by
  obtain ⟨hinit, hmean, hpos, hneg, hlatch⟩ := @update_fst K _ _ p s x
  refine ⟨by rw [hinit]; simp, ?_, ?_, ?_, ?_⟩
  · rw [hmean]
    exact accumulate_mean h x
  · rw [hpos]
    exact accumulate_pos h x
  · rw [hneg]
    exact accumulate_neg h x
  · rw [hlatch, Bool.or_eq_true, h.triggered, update_returns_iff h]
    constructor
    · rintro (⟨seen, hseen, hex⟩ | ⟨hex, -⟩)
      · exact ⟨seen, hseen.trans (List.prefix_append _ _), hex⟩
      · exact ⟨_, List.prefix_rfl, hex⟩
    · rintro ⟨seen, hseen, hex⟩
      by_cases hbefore : ∃ seen, seen <+: xs ∧ Exceeds p seen
      · exact .inl hbefore
      · refine .inr ⟨?_, fun q hq hqex => hbefore ⟨q, hq, hqex⟩⟩
        rcases List.prefix_concat_iff.1 hseen with rfl | hprefix
        · exact hex
        · exact absurd ⟨seen, hprefix, hex⟩ hbefore

/-! ## Sequences -/

theorem tracks_behind (hlambda : 0 ≤ p.lambda) (xs : List K) : Tracks p xs (behind p xs) := by
  induction xs using List.reverseRecOn with
  | nil => exact .reset hlambda
  | append_singleton xs x ih =>
    rw [behind, List.foldl_concat]
    exact ih.update x

/-- Within the band no suffix sum is positive. -/
theorem InBand.not_exceeds (hlambda : 0 ≤ p.lambda) {xs : List K} (h : InBand p xs) :
    ¬ Exceeds p xs := by
  have hup : ∀ d ∈ upward p xs, d ≤ 0 := by
    intro d hd
    obtain ⟨dev, hdev, rfl⟩ := List.mem_map.1 hd
    exact sub_nonpos.2 ((le_abs_self dev).trans (h dev hdev))
  have hdown : ∀ d ∈ downward p xs, d ≤ 0 := by
    intro d hd
    obtain ⟨dev, hdev, rfl⟩ := List.mem_map.1 hd
    exact sub_nonpos.2 ((neg_le_abs dev).trans (h dev hdev))
  rw [Exceeds, ← lt_clamped_iff, ← lt_clamped_iff, clamped_of_nonpos hup, clamped_of_nonpos hdown]
  rintro (hpos | ⟨-, hneg⟩)
  · exact not_lt.2 hlambda hpos
  · exact not_lt.2 hlambda hneg

/-- **Along every sequence of samples from a reset the upward accumulator is the largest suffix sum
    of `x_i - m_i - delta`, and the downward one that of `m_i - x_i - delta`, or zero in the one-sided
    test; the detector returns true exactly at the first sample where some suffix sum of an enabled
    direction is above the threshold; and never for a signal in the band.** -/
theorem pageHinkley_suffix_sums (p : PageHinkleyParams K) (hlambda : 0 ≤ p.lambda) (xs : List K) :
    IsGreatest (suffixSums (upward p xs)) (behind p xs).ph_pos ∧
      (if p.one_sided_positive then (behind p xs).ph_neg = 0
        else IsGreatest (suffixSums (downward p xs)) (behind p xs).ph_neg) ∧
      (∀ x, FiresAt p xs x ↔
        Exceeds p (xs ++ [x]) ∧ ∀ seen, seen <+: xs → ¬ Exceeds p seen) ∧
      (∀ x, InBand p (xs ++ [x]) → ¬ FiresAt p xs x) := by
  have h := tracks_behind hlambda xs
  refine ⟨?_, ?_, fun x => update_returns_iff h x, fun x hband hfires => ?_⟩
  · rw [h.ph_pos]
    exact isGreatest_clamped _
  · rw [h.ph_neg]
    by_cases hone : p.one_sided_positive = true
    · rw [if_pos hone, if_pos hone]
    · rw [if_neg hone, if_neg hone]
      exact isGreatest_clamped _
  · exact hband.not_exceeds hlambda ((update_returns_iff h x).1 hfires).1

/-- No slack, and a mean halfway to each sample. -/
def halfway (one_sided_positive : Bool) : PageHinkleyParams ℚ := ⟨1 / 2, 0, 1 / 4, one_sided_positive⟩

theorem pageHinkley_suffix_sums_jump :
    Exceeds (halfway false) [0, 1] ∧ ∀ seen, seen <+: [0] → ¬ Exceeds (halfway false) seen :=
  ((pageHinkley_suffix_sums (halfway false) (by norm_num [halfway]) [0]).2.2.1 1).1
    (show (PageHinkleyUpdate (behind (halfway false) [0]) (halfway false) 1).2 = true by
      decide +kernel)

/-- The one-sided test leaves the downward accumulator at zero when the signal falls. -/
theorem oneSided_downward :
    ¬ IsGreatest (suffixSums (downward (halfway true) [1, 0])) (behind (halfway true) [1, 0]).ph_neg := by
  intro h
  have hmem : (1 / 2 : ℚ) ∈ suffixSums (downward (halfway true) [1, 0]) :=
    ⟨[1 / 2], ⟨[0], by decide +kernel⟩, by decide +kernel⟩
  exact absurd (h.2 hmem) (by decide +kernel)

end WKPairDriver.InputHealth.PageHinkley
