import Mathlib
import WKPairDriver.Calibration.RotationSolve
import WKPairDriver.Lib.Deviation

/-!
# The jitter: `ReferenceJitter`, `TargetJitter`

A running mean and a running sum of squared deviations over the valid samples.  The divisor of the
mean is the number of samples before the current one.

* `moments_eq` — the sums are those of all valid samples but the first, on top of what the
  accumulator held.
* `jitter_iff` — when the jitters are the standard deviations.
* `jitter_zero_iff` — with an accumulator that starts at zero, exactly when the first translation is
  the mean of the others.
* `two_samples_still` — two samples a metre apart have no jitter.

Over the reals; NaN is `none`.
-/

set_option autoImplicit false

namespace WKPairDriver.Calibration.Jitter

open Lib Lib.Deviation RotationSolve

noncomputable section

/-- The accumulators. -/
structure Moments where
  m_oldM : Fin 3 → ℝ
  m_newM : Fin 3 → ℝ
  m_oldS : Fin 3 → ℝ
  m_newS : Fin 3 → ℝ

/-- The body of the loop; `fresh` is what an `Eigen::Vector3d()` holds. -/
def push (fresh : Fin 3 → ℝ) (acc : Moments × ℕ) (trans : Fin 3 → ℝ) : Moments × ℕ :=
  let m := acc.1
  let sampleCount := acc.2
  if sampleCount = 0 then
    ({ m with m_oldM := trans, m_newM := trans, m_oldS := fresh }, sampleCount + 1)
  else
    let m_newM := m.m_oldM + (sampleCount : ℝ)⁻¹ • (trans - m.m_oldM)
    let m_newS := m.m_oldS + (trans - m.m_oldM) * (trans - m_newM)
    (⟨m_newM, m_newM, m_newS, m_newS⟩, sampleCount + 1)

def moments (translation : Sample → Fin 3 → ℝ) (uninit : Moments) (fresh : Fin 3 → ℝ)
    (samples : List Sample) : Moments × ℕ :=
  samples.foldl (fun acc sample => if !sample.valid then acc
    else push fresh acc (translation sample)) (uninit, 0)

/-- `sqrt`; NaN of a negative number. -/
def sqrt? (x : ℝ) : Option ℝ := if x < 0 then none else some √x

/-- Both jitters; `magnitude` is what the target's one applies to a variance. -/
def jitterOf (translation : Sample → Fin 3 → ℝ) (magnitude : ℝ → ℝ) (uninit : Moments)
    (fresh : Fin 3 → ℝ) (samples : List Sample) : Option ℝ := do
  let acc := moments translation uninit fresh samples
  let variance axis := if acc.2 > 1 then magnitude (acc.1.m_newS axis / (acc.2 - 1)) else 0.0
  let var_x ← sqrt? (variance axisX)
  let var_y ← sqrt? (variance axisY)
  let var_z ← sqrt? (variance axisZ)
  sqrt? (var_x * var_x + var_y * var_y + var_z * var_z)

def ReferenceJitter : Moments → (Fin 3 → ℝ) → List Sample → Option ℝ :=
  jitterOf (fun sample => sample.ref.trans) fun x => x

def TargetJitter : Moments → (Fin 3 → ℝ) → List Sample → Option ℝ :=
  jitterOf (fun sample => sample.target.trans) fun x => |x|

/-! ## Standard deviations -/

/-- The translations of the valid samples. -/
def translations (translation : Sample → Fin 3 → ℝ) (samples : List Sample) :
    List (Fin 3 → ℝ) :=
  (samples.filter fun sample => sample.valid).map translation

def refTranslations (samples : List Sample) : List (Fin 3 → ℝ) :=
  translations (fun sample => sample.ref.trans) samples

def targetTranslations (samples : List Sample) : List (Fin 3 → ℝ) :=
  translations (fun sample => sample.target.trans) samples

/-- One coordinate of each. -/
def coordinate (ts : List (Fin 3 → ℝ)) (axis : Fin 3) : List ℝ := ts.map fun t => t axis

/-- The squared deviations from the mean, along an axis. -/
def deviations (ts : List (Fin 3 → ℝ)) (axis : Fin 3) : ℝ :=
  sqDev (coordinate ts axis) (mean (coordinate ts axis))

def total (f : Fin 3 → ℝ) : ℝ := f axisX + f axisY + f axisZ

/-- With the correction of Bessel. -/
def sampleVariance (ts : List (Fin 3 → ℝ)) (axis : Fin 3) : ℝ :=
  deviations ts axis / (ts.length - 1)

/-- The sample standard deviation over the three axes. -/
def standardDeviation (ts : List (Fin 3 → ℝ)) : ℝ :=
  √(total (sampleVariance ts))

/-! ## The accumulators -/

theorem moments_eq_foldl (translation : Sample → Fin 3 → ℝ) (uninit : Moments)
    (fresh : Fin 3 → ℝ) (samples : List Sample) :
    moments translation uninit fresh samples =
      (translations translation samples).foldl (push fresh) (uninit, 0) := by
  rw [moments, translations, List.foldl_map, List.foldl_filter]
  congr 1
  funext acc sample
  cases sample.valid <;> rfl

theorem coordinate_snoc (ts : List (Fin 3 → ℝ)) (t : Fin 3 → ℝ) (axis : Fin 3) :
    coordinate (ts ++ [t]) axis = coordinate ts axis ++ [t axis] := by
  simp [coordinate]

theorem coordinate_ne_nil {ts : List (Fin 3 → ℝ)} (h : ts ≠ []) (axis : Fin 3) :
    coordinate ts axis ≠ [] := by
  simpa [coordinate] using h

theorem coordinate_length (ts : List (Fin 3 → ℝ)) (axis : Fin 3) :
    (coordinate ts axis).length = ts.length := by
  simp [coordinate]

/-- **The accumulators behind the first translation and the others**: the first one counts for the
    number only. -/
theorem moments_eq (uninit : Moments) (fresh first : Fin 3 → ℝ) {others : List (Fin 3 → ℝ)}
    (h : others ≠ []) :
    ((first :: others).foldl (push fresh) (uninit, 0)).2 = others.length + 1 ∧
      ∀ axis, ((first :: others).foldl (push fresh) (uninit, 0)).1.m_oldM axis =
          mean (coordinate others axis) ∧
        ((first :: others).foldl (push fresh) (uninit, 0)).1.m_oldS axis =
          fresh axis + deviations others axis ∧
        ((first :: others).foldl (push fresh) (uninit, 0)).1.m_newS axis =
          fresh axis + deviations others axis := by
  induction others using List.reverseRecOn with
  | nil => exact absurd rfl h
  | append_singleton others t ih =>
    rw [← List.cons_append, List.foldl_append]
    by_cases hothers : others = []
    · -- the second translation replaces the first as the mean
      subst hothers
      refine ⟨rfl, fun axis => ?_⟩
      simp [push, deviations, coordinate]
    · obtain ⟨hcount, hsums⟩ := ih hothers
      set acc := (first :: others).foldl (push fresh) (uninit, 0) with hacc
      rw [List.foldl_cons, List.foldl_nil, push]
      simp only [hcount, Nat.add_eq_zero_iff, one_ne_zero, and_false, if_false]
      refine ⟨by simp, fun axis => ?_⟩
      obtain ⟨hmean, hdev, -⟩ := hsums axis
      have hne := coordinate_ne_nil hothers axis
      have hmean' := mean_snoc hne (t axis)
      have hdev' := sqDev_snoc hne (t axis)
      rw [coordinate_length] at hmean'
      rw [deviations, coordinate_snoc, hdev', ← deviations, hmean']
      simp only [Pi.add_apply, Pi.smul_apply, Pi.sub_apply, Pi.mul_apply, smul_eq_mul, hmean, hdev]
      push_cast
      refine ⟨by ring, by ring, by ring⟩

/-! ## The jitters -/

/-- What the first translation adds to the squared deviations of the others. -/
def dropped (ts : List (Fin 3 → ℝ)) (axis : Fin 3) : ℝ :=
  ts.tail.length / ts.length * (ts.headD 0 axis - mean (coordinate ts.tail axis)) ^ 2

theorem deviations_eq {ts : List (Fin 3 → ℝ)} (h : ts.tail ≠ []) (axis : Fin 3) :
    deviations ts axis = deviations ts.tail axis + dropped ts axis := by
  cases ts with
  | nil => exact absurd rfl h
  | cons first others =>
    have hcons := sqDev_cons (coordinate_ne_nil h axis) (first axis)
    rw [coordinate_length] at hcons
    simp only [List.tail_cons] at hcons ⊢
    rw [deviations, coordinate, List.map_cons, ← coordinate, hcons, deviations, dropped]
    simp

/-- The end of both functions. -/
theorem root_eq_some_iff {a b c d : ℝ} (hd : 0 ≤ d) :
    (do
      let x ← sqrt? a
      let y ← sqrt? b
      let z ← sqrt? c
      sqrt? (x * x + y * y + z * z)) = some √d ↔
    (0 ≤ a ∧ 0 ≤ b ∧ 0 ≤ c) ∧ a + b + c = d := by
  have hnan : ∀ {x : ℝ}, x < 0 → sqrt? x = none := fun h => if_pos h
  have hroot : ∀ {x : ℝ}, 0 ≤ x → sqrt? x = some √x := fun h => if_neg (not_lt.2 h)
  rcases lt_or_ge a 0 with ha | ha
  · simp [hnan ha, not_le.2 ha]
  rcases lt_or_ge b 0 with hb | hb
  · simp [hnan hb, hroot ha, not_le.2 hb]
  rcases lt_or_ge c 0 with hc | hc
  · simp [hnan hc, hroot ha, hroot hb, not_le.2 hc]
  have hsum : 0 ≤ a + b + c := by positivity
  simp only [hroot ha, hroot hb, hroot hc, Option.bind_eq_bind, Option.bind_some,
    Real.mul_self_sqrt ha, Real.mul_self_sqrt hb, Real.mul_self_sqrt hc, hroot hsum,
    Option.some.injEq, Real.sqrt_inj hsum hd, ha, hb, hc, true_and]

theorem standardDeviation_nonneg {ts : List (Fin 3 → ℝ)} (h : ts.tail ≠ []) :
    0 ≤ total (sampleVariance ts) := by
  have hlen : (0 : ℝ) ≤ ts.length - 1 := by
    have : 1 ≤ ts.length := List.length_pos_iff.2 fun h0 => h (by rw [h0]; rfl)
    have : (1 : ℝ) ≤ ts.length := by exact_mod_cast this
    linarith
  have haxis : ∀ axis, 0 ≤ sampleVariance ts axis := fun axis =>
    div_nonneg (sqDev_nonneg _ _) hlen
  exact add_nonneg (add_nonneg (haxis _) (haxis _)) (haxis _)

/-- What both functions compute. -/
theorem jitterOf_eq (translation : Sample → Fin 3 → ℝ) (magnitude : ℝ → ℝ) (uninit : Moments)
    (fresh : Fin 3 → ℝ) {samples : List Sample} {first : Fin 3 → ℝ} {others : List (Fin 3 → ℝ)}
    (h : translations translation samples = first :: others) (hne : others ≠ []) :
    jitterOf translation magnitude uninit fresh samples = (do
      let x ← sqrt? (magnitude ((fresh axisX + deviations others axisX) / others.length))
      let y ← sqrt? (magnitude ((fresh axisY + deviations others axisY) / others.length))
      let z ← sqrt? (magnitude ((fresh axisZ + deviations others axisZ) / others.length))
      sqrt? (x * x + y * y + z * z)) := by
  obtain ⟨hcount, hsums⟩ := moments_eq uninit fresh first hne
  have hmany : others.length + 1 > 1 := Nat.lt_add_of_pos_left (List.length_pos_iff.2 hne)
  have hcast : ((others.length + 1 : ℕ) : ℝ) - 1 = others.length := by
    push_cast
    ring
  rw [jitterOf, moments_eq_foldl, h]
  simp only [hcount, if_pos hmany, (hsums _).2.2, hcast]

theorem forall_axis {P : Fin 3 → Prop} : (∀ axis, P axis) ↔ P axisX ∧ P axisY ∧ P axisZ := by
  simp [Fin.forall_fin_succ]

/-- What a jitter is compared to. -/
theorem jitterOf_iff (translation : Sample → Fin 3 → ℝ) (magnitude : ℝ → ℝ) (uninit : Moments)
    (fresh : Fin 3 → ℝ) {samples : List Sample} {ts : List (Fin 3 → ℝ)}
    (hts : translations translation samples = ts) (h : ts.tail ≠ []) :
    jitterOf translation magnitude uninit fresh samples = some (standardDeviation ts) ↔
      (∀ axis, 0 ≤ magnitude ((fresh axis + deviations ts.tail axis) / ts.tail.length)) ∧
      total (fun axis => magnitude ((fresh axis + deviations ts.tail axis) / ts.tail.length)) =
        total (sampleVariance ts) := by
  obtain ⟨first, others, rfl⟩ : ∃ first others, ts = first :: others :=
    List.exists_cons_of_ne_nil fun h0 => h (by rw [h0]; rfl)
  rw [jitterOf_eq translation magnitude uninit fresh hts h, standardDeviation,
    root_eq_some_iff (standardDeviation_nonneg h), forall_axis]
  rfl

/-- The squared deviations the jitters should divide. -/
theorem total_sampleVariance {ts : List (Fin 3 → ℝ)} (h : ts.tail ≠ []) :
    total (sampleVariance ts) =
      total (fun axis => deviations ts.tail axis + dropped ts axis) / ts.tail.length := by
  have hlen : (ts.length : ℝ) - 1 = ts.tail.length := by
    cases ts with
    | nil => exact absurd rfl h
    | cons first others => simp
  simp only [total, sampleVariance, hlen, deviations_eq h]
  ring

section Buffer

variable (uninit : Moments) (fresh : Fin 3 → ℝ) {samples : List Sample}
  (h : 2 ≤ (samples.filter fun sample => sample.valid).length)
include h

theorem translations_tail (translation : Sample → Fin 3 → ℝ) :
    (translations translation samples).tail ≠ [] ∧
      (0 : ℝ) < (translations translation samples).tail.length := by
  have hlen : 0 < (translations translation samples).tail.length := by
    rw [List.length_tail, translations, List.length_map]
    omega
  exact ⟨List.length_pos_iff.1 hlen, Nat.cast_pos.2 hlen⟩

theorem ReferenceJitter_iff :
    ReferenceJitter uninit fresh samples = some (standardDeviation (refTranslations samples)) ↔
      (∀ axis, 0 ≤ fresh axis + deviations (refTranslations samples).tail axis) ∧
        total fresh = total (dropped (refTranslations samples)) := by
  obtain ⟨htail, hlen⟩ := translations_tail h fun sample => sample.ref.trans
  rw [← refTranslations] at htail hlen
  have hts : translations (fun sample => sample.ref.trans) samples = refTranslations samples := rfl
  rw [ReferenceJitter, jitterOf_iff _ _ uninit fresh hts htail, total_sampleVariance htail]
  refine and_congr (forall_congr' fun axis => ?_) ?_
  · rw [le_div_iff₀ hlen, zero_mul]
  · simp only [total]
    field_simp
    constructor <;> intro h <;> linarith

theorem TargetJitter_iff :
    TargetJitter uninit fresh samples = some (standardDeviation (targetTranslations samples)) ↔
      total (fun axis => |fresh axis + deviations (targetTranslations samples).tail axis|) =
        total (fun axis => deviations (targetTranslations samples).tail axis +
          dropped (targetTranslations samples) axis) := by
  obtain ⟨htail, hlen⟩ := translations_tail h fun sample => sample.target.trans
  rw [← targetTranslations] at htail hlen
  have hts : translations (fun sample => sample.target.trans) samples =
    targetTranslations samples := rfl
  rw [TargetJitter, jitterOf_iff _ _ uninit fresh hts htail, total_sampleVariance htail,
    and_iff_right fun axis => abs_nonneg _]
  simp only [total, abs_div, abs_of_pos hlen]
  field_simp

end Buffer

/-- The first translation adds nothing exactly when it is the mean of the others. -/
theorem total_dropped_eq_zero {ts : List (Fin 3 → ℝ)} (h : ts.tail ≠ []) :
    total (dropped ts) = 0 ↔ ∀ axis, ts.headD 0 axis = mean (coordinate ts.tail axis) := by
  have hshare : (0 : ℝ) < ts.tail.length / ts.length := by
    have htail := List.length_pos_iff.2 h
    have hall : 0 < ts.length := lt_of_lt_of_le htail (by rw [List.length_tail]; omega)
    exact div_pos (Nat.cast_pos.2 htail) (Nat.cast_pos.2 hall)
  have hnonneg : ∀ axis, 0 ≤ dropped ts axis := fun axis =>
    mul_nonneg hshare.le (sq_nonneg _)
  have hzero : ∀ axis, dropped ts axis = 0 ↔ ts.headD 0 axis = mean (coordinate ts.tail axis) := by
    intro axis
    rw [dropped, mul_eq_zero, or_iff_right hshare.ne', sq_eq_zero_iff, sub_eq_zero]
  have hx := hnonneg axisX
  have hy := hnonneg axisY
  have hz := hnonneg axisZ
  rw [forall_axis, ← hzero, ← hzero, ← hzero, total]
  constructor
  · intro hsum
    refine ⟨by linarith, by linarith, by linarith⟩
  · rintro ⟨h1, h2, h3⟩
    rw [h1, h2, h3]
    norm_num

/-- **With an accumulator that starts at zero** both jitters are right exactly when the first
    translation is the mean of the others. -/
theorem jitter_zero_iff (uninit : Moments) {samples : List Sample}
    (h : 2 ≤ (samples.filter fun sample => sample.valid).length) :
    (ReferenceJitter uninit 0 samples = some (standardDeviation (refTranslations samples)) ↔
      ∀ axis, (refTranslations samples).headD 0 axis =
        mean (coordinate (refTranslations samples).tail axis)) ∧
    (TargetJitter uninit 0 samples = some (standardDeviation (targetTranslations samples)) ↔
      ∀ axis, (targetTranslations samples).headD 0 axis =
        mean (coordinate (targetTranslations samples).tail axis)) := by
  constructor
  · have htail : (refTranslations samples).tail ≠ [] := (translations_tail h _).1
    rw [ReferenceJitter_iff uninit 0 h, ← total_dropped_eq_zero htail]
    have hnonneg : ∀ axis,
        0 ≤ (0 : Fin 3 → ℝ) axis + deviations (refTranslations samples).tail axis := fun axis => by
      rw [Pi.zero_apply, zero_add]
      exact sqDev_nonneg _ _
    rw [and_iff_right hnonneg]
    simp [total, eq_comm]
  · have htail : (targetTranslations samples).tail ≠ [] := (translations_tail h _).1
    rw [TargetJitter_iff uninit 0 h, ← total_dropped_eq_zero htail]
    have habs : ∀ axis, |(0 : Fin 3 → ℝ) axis + deviations (targetTranslations samples).tail axis| =
        deviations (targetTranslations samples).tail axis := fun axis => by
      rw [Pi.zero_apply, zero_add]
      exact abs_of_nonneg (sqDev_nonneg _ _)
    simp only [habs, total]
    constructor <;> intro h <;> linarith

/-- **When the jitters are the standard deviations.** -/
theorem jitter_iff (uninit : Moments) (fresh : Fin 3 → ℝ) (samples : List Sample)
    (h : 2 ≤ (samples.filter fun sample => sample.valid).length) :
    (ReferenceJitter uninit fresh samples = some (standardDeviation (refTranslations samples)) ↔
      (∀ axis, 0 ≤ fresh axis + deviations (refTranslations samples).tail axis) ∧
        total fresh = total (dropped (refTranslations samples))) ∧
    (TargetJitter uninit fresh samples = some (standardDeviation (targetTranslations samples)) ↔
      total (fun axis => |fresh axis + deviations (targetTranslations samples).tail axis|) =
        total (fun axis => deviations (targetTranslations samples).tail axis +
          dropped (targetTranslations samples) axis)) :=
  ⟨ReferenceJitter_iff uninit fresh h, TargetJitter_iff uninit fresh h⟩

/-- A sample of two devices at one place. -/
def placedAt (t : Fin 3 → ℝ) : Sample := ⟨⟨1, t⟩, ⟨1, t⟩, true⟩

def zeroMoments : Moments := ⟨0, 0, 0, 0⟩

/-- A first sample in the middle of the others. -/
theorem spread_jitter :
    ReferenceJitter zeroMoments 0 [placedAt ![1, 0, 0], placedAt 0, placedAt ![2, 0, 0]] =
        some (standardDeviation [![1, 0, 0], 0, ![2, 0, 0]]) ∧
      TargetJitter zeroMoments 0 [placedAt ![1, 0, 0], placedAt 0, placedAt ![2, 0, 0]] =
        some (standardDeviation [![1, 0, 0], 0, ![2, 0, 0]]) := by
  have hdropped : ∀ axis, dropped [![(1 : ℝ), 0, 0], 0, ![2, 0, 0]] axis = 0 := fun axis => by
    fin_cases axis <;> simp [dropped, coordinate, mean]
  have hnonneg : ∀ axis, 0 ≤ deviations [(0 : Fin 3 → ℝ), ![2, 0, 0]] axis := fun axis =>
    sqDev_nonneg _ _
  obtain ⟨hreference, htarget⟩ :=
    jitter_iff zeroMoments 0 [placedAt ![1, 0, 0], placedAt 0, placedAt ![2, 0, 0]]
      (by simp [placedAt])
  refine ⟨hreference.2 ⟨fun axis => ?_, ?_⟩, htarget.2 ?_⟩
  · show (0 : ℝ) ≤ 0 + deviations [0, ![2, 0, 0]] axis
    rw [zero_add]
    exact hnonneg axis
  · show total 0 = total (dropped [![1, 0, 0], 0, ![2, 0, 0]])
    simp [total, hdropped]
  · show total (fun axis => |0 + deviations [0, ![2, 0, 0]] axis|) =
      total fun axis => deviations [0, ![2, 0, 0]] axis + dropped [![1, 0, 0], 0, ![2, 0, 0]] axis
    simp only [hdropped, add_zero, zero_add, abs_of_nonneg (hnonneg _)]

/-- **Two samples a metre apart have no jitter**, and a standard deviation of 71 cm. -/
theorem two_samples_still :
    ReferenceJitter zeroMoments 0 [placedAt 0, placedAt ![1, 0, 0]] = some 0 ∧
      TargetJitter zeroMoments 0 [placedAt 0, placedAt ![1, 0, 0]] = some 0 ∧
      standardDeviation [0, ![1, 0, 0]] = √(1 / 2) := by
  have hzero : ∀ axis, deviations [![(1 : ℝ), 0, 0]] axis = 0 := fun axis => by
    simp [deviations, coordinate]
  have hjitter : ∀ (translation : Sample → Fin 3 → ℝ) (magnitude : ℝ → ℝ), magnitude 0 = 0 →
      translations translation [placedAt 0, placedAt ![1, 0, 0]] = [0, ![1, 0, 0]] →
      jitterOf translation magnitude zeroMoments 0 [placedAt 0, placedAt ![1, 0, 0]] = some 0 := by
    intro translation magnitude hmagnitude hts
    rw [jitterOf_eq translation magnitude zeroMoments 0 hts (List.cons_ne_nil _ _)]
    simp [hzero, hmagnitude, sqrt?]
  refine ⟨hjitter _ _ rfl rfl, hjitter _ _ abs_zero rfl, ?_⟩
  have htail : ([0, ![1, 0, 0]] : List (Fin 3 → ℝ)).tail ≠ [] := List.cons_ne_nil _ _
  rw [standardDeviation, total_sampleVariance htail]
  simp only [total, List.tail_cons, hzero, dropped]
  simp [coordinate]

end

end WKPairDriver.Calibration.Jitter
