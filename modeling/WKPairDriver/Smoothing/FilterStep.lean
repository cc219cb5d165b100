import Mathlib
import WKPairDriver.Lib.Nlerp
import WKPairDriver.Smoothing.SmartSmoothingShadowMath

/-!
# The speed-adaptive filter over a run

* `FilterStep_cases` — the three outcomes of a step: a degenerate sample, a restart, a filtered
  sample.
* `run_step` — from every state a run reaches, a step keeps the factors in their ranges and moves
  the pose toward the sample and not past it; unless the sample is degenerate, what is left of the
  way is below the jump threshold and at most a fixed share.
* `held_shrinks` — under a held sample the error falls geometrically.
* `degenerate_lags` — a degenerate sample leaves the pose where it was.
-/

set_option autoImplicit false

namespace WKPairDriver.SmartShadow

open Matrix Lib Real

/-! ## Scalars -/

theorem le_Clamp {value lo hi x : ℝ} (hlo : x ≤ lo) (hhi : x ≤ hi) : x ≤ Clamp value lo hi :=
  le_min hhi (hlo.trans (le_max_left _ _))

theorem Clamp_le (value lo hi : ℝ) : Clamp value lo hi ≤ hi := min_le_left _ _

theorem Clamp_eq_self {value lo hi : ℝ} (hlo : lo ≤ value) (hhi : value ≤ hi) :
    Clamp value lo hi = value := by
  rw [Clamp, max_eq_right hlo, min_eq_right hhi]

theorem Saturate_mem (value : ℝ) : Saturate value ∈ Set.Icc (0 : ℝ) 1 :=
  ⟨le_Clamp le_rfl zero_le_one, Clamp_le _ _ _⟩

/-- The form both alphas have: `dt / (dt + tau)`. -/
theorem div_add_mem {dt tau : ℝ} (hdt : 0 < dt) (htau : 0 < tau) :
    0 < dt / (dt + tau) ∧ dt / (dt + tau) < 1 := by
  constructor
  · positivity
  · rw [div_lt_one (by positivity)]
    linarith

theorem cutoff_tau_pos (cutoffHz : ℝ) : 0 < 1 / (2.0 * kPi * Clamp cutoffHz 0.001 120.0) := by
  have hcutoff : (0 : ℝ) < Clamp cutoffHz 0.001 120.0 :=
    lt_of_lt_of_le (by norm_num) (le_Clamp (x := 0.001) le_rfl (by norm_num))
  have hpi : 0 < kPi := by norm_num [kPi]
  positivity

theorem dt_pos (dtSeconds : ℝ) : 0 < Clamp dtSeconds 0.001 0.050 :=
  lt_of_lt_of_le (by norm_num) (le_Clamp (x := 0.001) le_rfl (by norm_num))

theorem AlphaFromCutoffHz_mem (cutoffHz dtSeconds : ℝ) :
    0 < AlphaFromCutoffHz cutoffHz dtSeconds ∧ AlphaFromCutoffHz cutoffHz dtSeconds < 1 :=
  div_add_mem (dt_pos dtSeconds) (cutoff_tau_pos cutoffHz)

theorem Clamp_mono {a b : ℝ} (h : a ≤ b) (lo hi : ℝ) : Clamp a lo hi ≤ Clamp b lo hi :=
  min_le_min_left _ (max_le_max_left _ h)

/-- A higher cutoff and a longer step raise the alpha. -/
theorem AlphaFromCutoffHz_mono {c c' dt dt' : ℝ} (hc : c ≤ c') (hdt : dt ≤ dt') :
    AlphaFromCutoffHz c dt ≤ AlphaFromCutoffHz c' dt' := by
  have hd := dt_pos dt
  have hdd := Clamp_mono hdt 0.001 0.050
  have hcc := Clamp_mono hc 0.001 120.0
  have hpos : (0 : ℝ) < Clamp c 0.001 120.0 :=
    lt_of_lt_of_le (by norm_num) (le_Clamp (x := 0.001) le_rfl (by norm_num))
  have hpi : 0 < kPi := by norm_num [kPi]
  have htau : 1 / (2.0 * kPi * Clamp c' 0.001 120.0) ≤ 1 / (2.0 * kPi * Clamp c 0.001 120.0) := by
    apply one_div_le_one_div_of_le (by positivity)
    exact mul_le_mul_of_nonneg_left hcc (by positivity)
  have htau' := cutoff_tau_pos c'
  rw [AlphaFromCutoffHz, AlphaFromCutoffHz, div_le_div_iff₀ (by positivity) (by linarith)]
  nlinarith [mul_le_mul hdd htau htau'.le (hd.le.trans hdd)]

/-- An alpha raised by a release factor. -/
theorem released_alpha {alpha release : ℝ} (h1 : alpha ≤ 1)
    (hr : release ∈ Set.Icc (0 : ℝ) 1) :
    alpha ≤ alpha + (1 - alpha) * release ∧ alpha + (1 - alpha) * release ≤ 1 := by
  obtain ⟨hr0, hr1⟩ := hr
  constructor
  · have := mul_nonneg (sub_nonneg.2 h1) hr0
    linarith
  · have := mul_le_mul_of_nonneg_left hr1 (sub_nonneg.2 h1)
    linarith

/-! ## Positions -/

/-- A step of the position scales the distance. -/
theorem Distance3_lerp (raw from_ : Vec3) {t : ℝ} (ht : t ≤ 1) :
    Distance3 raw (fun axis => lerp (from_ axis) (raw axis) t) = (1 - t) * Distance3 raw from_ := by
  have hdiff : (raw - fun axis => lerp (from_ axis) (raw axis) t) = (1 - t) • (raw - from_) := by
    funext axis
    simp only [Pi.sub_apply, Pi.smul_apply, smul_eq_mul, lerp]
    ring
  rw [Distance3, Distance3, hdiff, smul_dotProduct, dotProduct_smul, smul_eq_mul, smul_eq_mul,
    ← mul_assoc, sqrt_mul (mul_self_nonneg _), sqrt_mul_self (sub_nonneg.2 ht)]

theorem Distance3_self (raw : Vec3) : Distance3 raw raw = 0 := by
  rw [Distance3, sub_self, zero_dotProduct, sqrt_zero]

theorem Distance3_nonneg (a b : Vec3) : 0 ≤ Distance3 a b := sqrt_nonneg _

/-! ## Quaternions -/

def IsUnit4 (q : Quat) : Prop := QuatDot q q = 1

/-- `QuatNormalize` succeeds. -/
def Proper (q : Quat) : Prop := QuatDot q q > 1e-18

theorem QuatNormalize_of_not_proper {q : Quat} (h : ¬ Proper q) :
    QuatNormalize q = (false, ![1, 0, 0, 0]) := if_pos h

theorem QuatNormalize_of_proper {q : Quat} (h : Proper q) :
    QuatNormalize q = (true, (1 / √(QuatDot q q)) • q) := if_neg (not_not.2 h)

theorem Proper.sqrt_pos {q : Quat} (h : Proper q) : 0 < √(QuatDot q q) :=
  Real.sqrt_pos.2 (lt_trans (by norm_num) h)

theorem QuatNormalize_unit (q : Quat) : IsUnit4 (QuatNormalize q).2 := by
  by_cases h : Proper q
  · have hpos := h.sqrt_pos
    have hsq : √(QuatDot q q) * √(QuatDot q q) = QuatDot q q := mul_self_sqrt (sqrt_pos.1 hpos).le
    rw [QuatNormalize_of_proper h, IsUnit4, QuatDot, smul_dotProduct, dotProduct_smul,
      smul_eq_mul, smul_eq_mul]
    change 1 / √(QuatDot q q) * (1 / √(QuatDot q q) * QuatDot q q) = 1
    field_simp
    linarith
  · rw [QuatNormalize_of_not_proper h]
    simp [IsUnit4, QuatDot, dotProduct, Fin.sum_univ_four]

theorem IsUnit4.proper {q : Quat} (h : IsUnit4 q) : Proper q := by
  rw [Proper, h]
  norm_num

theorem IsUnit4.normalize {q : Quat} (h : IsUnit4 q) : QuatNormalize q = (true, q) := by
  rw [QuatNormalize_of_proper h.proper, h]
  simp

theorem IsUnit4.neg {q : Quat} (h : IsUnit4 q) : IsUnit4 (-q) := by
  rw [IsUnit4, QuatDot, neg_dotProduct_neg]
  exact h

theorem QuatSameHemisphere_eq (reference q : Quat) :
    QuatSameHemisphere reference q = q ∧ 0 ≤ QuatDot reference q ∨
      QuatSameHemisphere reference q = -q ∧ QuatDot reference q < 0 := by
  rw [QuatSameHemisphere]
  by_cases h : QuatDot reference q < 0
  · exact .inr ⟨by simp [h], h⟩
  · exact .inl ⟨by simp [h], not_lt.1 h⟩

theorem IsUnit4.sameHemisphere {q : Quat} (h : IsUnit4 q) (reference : Quat) :
    IsUnit4 (QuatSameHemisphere reference q) := by
  rcases QuatSameHemisphere_eq reference q with ⟨heq, -⟩ | ⟨heq, -⟩ <;> rw [heq]
  · exact h
  · exact h.neg

theorem QuatDot_comm (a b : Quat) : QuatDot a b = QuatDot b a := dotProduct_comm a b

/-- The inner product with the quaternion brought to the same side. -/
theorem QuatDot_sameHemisphere (reference q : Quat) :
    QuatDot reference (QuatSameHemisphere reference q) = |QuatDot reference q| := by
  rcases QuatSameHemisphere_eq reference q with ⟨heq, h⟩ | ⟨heq, h⟩ <;> rw [heq]
  · rw [abs_of_nonneg h]
  · rw [abs_of_neg h, QuatDot, dotProduct_neg]
    rfl

theorem abs_QuatDot_sameHemisphere (reference q other : Quat) :
    |QuatDot other (QuatSameHemisphere reference q)| = |QuatDot other q| := by
  rcases QuatSameHemisphere_eq reference q with ⟨heq, -⟩ | ⟨heq, -⟩ <;> rw [heq]
  rw [QuatDot, dotProduct_neg, abs_neg]
  rfl

/-- Cauchy and Schwarz. -/
theorem abs_QuatDot_le_one {a b : Quat} (ha : IsUnit4 a) (hb : IsUnit4 b) : |QuatDot a b| ≤ 1 := by
  have hsub : 0 ≤ QuatDot (a - b) (a - b) := by
    rw [QuatDot]
    exact Finset.sum_nonneg fun i _ => mul_self_nonneg _
  have hadd : 0 ≤ QuatDot (a + b) (a + b) := by
    rw [QuatDot]
    exact Finset.sum_nonneg fun i _ => mul_self_nonneg _
  have ha' : a ⬝ᵥ a = 1 := ha
  have hb' : b ⬝ᵥ b = 1 := hb
  have hcomm := dotProduct_comm a b
  rw [QuatDot, sub_dotProduct, dotProduct_sub, dotProduct_sub] at hsub
  rw [QuatDot, add_dotProduct, dotProduct_add, dotProduct_add] at hadd
  rw [QuatDot, abs_le]
  constructor <;> linarith

/-- The angle between unit quaternions. -/
theorem QuatAngleRad_unit {a b : Quat} (ha : IsUnit4 a) (hb : IsUnit4 b) :
    QuatAngleRad a b = 2 * arccos |QuatDot a b| := by
  rw [QuatAngleRad, ha.normalize, hb.normalize]
  simp only [Bool.not_true, Bool.false_eq_true, or_self, if_false]
  rw [Clamp_eq_self (abs_nonneg _) (abs_QuatDot_le_one ha hb)]
  norm_num

theorem QuatAngleRad_comm (a b : Quat) : QuatAngleRad a b = QuatAngleRad b a := by
  simp only [QuatAngleRad, QuatDot_comm (QuatNormalize a).2, or_comm]

/-- Only the direction of a quaternion counts. -/
theorem QuatAngleRad_normalize {a : Quat} (ha : Proper a) (b : Quat) :
    QuatAngleRad a b = QuatAngleRad (QuatNormalize a).2 b := by
  have hn := (QuatNormalize_unit a).normalize
  have ha' : (QuatNormalize a).1 = true := by rw [QuatNormalize_of_proper ha]
  rw [QuatAngleRad, QuatAngleRad, hn, ha']

theorem QuatAngleRad_self {a : Quat} (ha : IsUnit4 a) : QuatAngleRad a a = 0 := by
  rw [QuatAngleRad_unit ha ha, ha]
  simp

theorem QuatAngleRad_nonneg (a b : Quat) : 0 ≤ QuatAngleRad a b := by
  rw [QuatAngleRad]
  simp only
  split
  · exact le_rfl
  · exact mul_nonneg (by norm_num) (arccos_nonneg _)

theorem QuatAngleRad_sameHemisphere {q other : Quat} (hq : IsUnit4 q) (hother : IsUnit4 other)
    (reference : Quat) :
    QuatAngleRad other (QuatSameHemisphere reference q) = QuatAngleRad other q := by
  rw [QuatAngleRad_unit hother (hq.sameHemisphere reference), QuatAngleRad_unit hother hq,
    abs_QuatDot_sameHemisphere]

/-! ## The normalised interpolation -/

section Nlerp

variable {q r : Quat} {α : ℝ}

/-- The interpolated quaternion, before it is normalised. -/
noncomputable def blend (q r : Quat) (α : ℝ) : Quat := q + α • (QuatSameHemisphere q r - q)

/-- Half the angle between the two. -/
noncomputable def halfAngle (q r : Quat) : ℝ := arccos |QuatDot q r|

variable (hq : IsUnit4 q) (hr : IsUnit4 r)

theorem halfAngle_nonneg (q r : Quat) : 0 ≤ halfAngle q r := arccos_nonneg _

theorem halfAngle_le (q r : Quat) : halfAngle q r ≤ π / 2 := arccos_le_pi_div_two.2 (abs_nonneg _)

include hq hr

theorem cos_halfAngle : cos (halfAngle q r) = QuatDot q (QuatSameHemisphere q r) := by
  have hle := abs_QuatDot_le_one hq hr
  rw [QuatDot_sameHemisphere, halfAngle, cos_arccos (by linarith [abs_nonneg (QuatDot q r)]) hle]

theorem QuatDot_blend (α : ℝ) :
    QuatDot q (blend q r α) = 1 - α + α * cos (halfAngle q r) := by
  have hq' : q ⬝ᵥ q = 1 := hq
  rw [cos_halfAngle hq hr, QuatDot, QuatDot, blend, dotProduct_add, dotProduct_smul, dotProduct_sub,
    hq', smul_eq_mul]
  ring

theorem sameHemisphere_QuatDot_blend (α : ℝ) :
    QuatDot (QuatSameHemisphere q r) (blend q r α) = (1 - α) * cos (halfAngle q r) + α := by
  have hr' : QuatSameHemisphere q r ⬝ᵥ QuatSameHemisphere q r = 1 := hr.sameHemisphere q
  rw [cos_halfAngle hq hr, QuatDot, QuatDot, blend, dotProduct_add, dotProduct_smul, dotProduct_sub,
    hr', smul_eq_mul, dotProduct_comm q]
  ring

theorem blend_QuatDot_blend (α : ℝ) :
    QuatDot (blend q r α) (blend q r α) = nlerpLength α (halfAngle q r) ^ 2 := by
  have hsplit : QuatDot (blend q r α) (blend q r α) =
      (1 - α) * QuatDot q (blend q r α) +
        α * QuatDot (QuatSameHemisphere q r) (blend q r α) := by
    have hblend : blend q r α = (1 - α) • q + α • QuatSameHemisphere q r := by
      rw [blend]
      module
    rw [QuatDot, QuatDot, QuatDot, ← smul_eq_mul, ← smul_eq_mul, ← smul_dotProduct,
      ← smul_dotProduct, ← add_dotProduct, ← hblend]
  rw [hsplit, QuatDot_blend hq hr, sameHemisphere_QuatDot_blend hq hr, nlerpLength_sq]
  ring

variable (h0 : 0 ≤ α) (h1 : α ≤ 1)
include h0 h1

theorem QuatNlerpShortest_eq :
    QuatNlerpShortest q r α = (1 / nlerpLength α (halfAngle q r)) • blend q r α := by
  have hcos := cos_nonneg_of_quarter (halfAngle_nonneg q r) (halfAngle_le q r)
  have hhalf := half_le_nlerpLength_sq h0 h1 hcos
  have hproper : Proper (blend q r α) := by
    rw [Proper, blend_QuatDot_blend hq hr]
    linarith
  have hsat : Saturate α = α := Clamp_eq_self h0 h1
  rw [QuatNlerpShortest, hq.normalize, hr.normalize]
  simp only [Bool.not_true, Bool.false_eq_true, if_false]
  rw [hsat, ← blend, QuatNormalize_of_proper hproper, blend_QuatDot_blend hq hr,
    sqrt_sq (nlerpLength_pos h0 h1 hcos).le]

theorem QuatNlerpShortest_unit : IsUnit4 (QuatNlerpShortest q r α) := by
  rw [QuatNlerpShortest, hq.normalize, hr.normalize]
  exact QuatNormalize_unit _

/-- The angles to the two ends. -/
theorem QuatNlerpShortest_angles :
    QuatAngleRad q (QuatNlerpShortest q r α) = 2 * nlerpAngle α (halfAngle q r) ∧
      QuatAngleRad (QuatNlerpShortest q r α) r =
        2 * (halfAngle q r - nlerpAngle α (halfAngle q r)) := by
  have hcos := cos_nonneg_of_quarter (halfAngle_nonneg q r) (halfAngle_le q r)
  have hpos := nlerpLength_pos h0 h1 hcos
  have hunit := QuatNlerpShortest_unit hq hr h0 h1
  obtain ⟨hleft, hright⟩ := nlerp_angles (halfAngle_nonneg q r) (halfAngle_le q r) h0 h1
  have h1' := sub_nonneg.2 h1
  constructor
  · have hdot : QuatDot q (QuatNlerpShortest q r α) =
        (1 - α + α * cos (halfAngle q r)) / nlerpLength α (halfAngle q r) := by
      rw [QuatNlerpShortest_eq hq hr h0 h1, ← QuatDot_blend hq hr, QuatDot, dotProduct_smul,
        smul_eq_mul, one_div_mul_eq_div, QuatDot]
    rw [QuatAngleRad_unit hq hunit, hdot, abs_of_nonneg (by positivity), hleft]
  · have hdot : QuatDot (QuatNlerpShortest q r α) (QuatSameHemisphere q r) =
        ((1 - α) * cos (halfAngle q r) + α) / nlerpLength α (halfAngle q r) := by
      rw [QuatDot_comm, QuatNlerpShortest_eq hq hr h0 h1,
        ← sameHemisphere_QuatDot_blend hq hr, QuatDot, dotProduct_smul, smul_eq_mul,
        one_div_mul_eq_div, QuatDot]
    rw [← QuatAngleRad_sameHemisphere hr hunit q, QuatAngleRad_unit hunit (hr.sameHemisphere q),
      hdot, abs_of_nonneg (by positivity), hright]

/-- **The interpolation follows the shortest arc.** -/
theorem QuatNlerpShortest_arc :
    QuatAngleRad q (QuatNlerpShortest q r α) + QuatAngleRad (QuatNlerpShortest q r α) r =
        QuatAngleRad q r ∧
      QuatAngleRad (QuatNlerpShortest q r α) r ≤ (1 - 2 / π * α) * QuatAngleRad q r := by
  obtain ⟨hleft, hright⟩ := QuatNlerpShortest_angles hq hr h0 h1
  have hall : QuatAngleRad q r = 2 * halfAngle q r := QuatAngleRad_unit hq hr
  rw [hleft, hright, hall]
  constructor
  · ring
  · have := le_nlerpAngle (halfAngle_nonneg q r) (halfAngle_le q r) h0 h1
    linarith

end Nlerp

/-! ## The parameters -/

/-- What a step needs of its parameters. -/
structure Admissible (p : Params) : Prop where
  pos_le : p.posMinCutoffHz ≤ p.maxCutoffHz
  rot_le : p.rotMinCutoffHz ≤ p.maxCutoffHz
  jump : 0 ≤ p.positionJumpM

theorem inverse01_mem (smoothness : UInt8) : inverse01 smoothness ∈ Set.Icc (0 : ℝ) 1 := by
  rw [inverse01]
  have hlo : (0.0 : ℝ) ≤ Clamp ((smoothness.toNat : ℝ) / 100.0) 0.0 1.0 :=
    le_Clamp le_rfl (by norm_num)
  have hhi := Clamp_le ((smoothness.toNat : ℝ) / 100.0) 0.0 1.0
  constructor <;> linarith

theorem inverse01_rpow_le_one (smoothness : UInt8) {e : ℝ} (he : 0 ≤ e) :
    inverse01 smoothness ^ e ≤ 1 :=
  rpow_le_one (inverse01_mem smoothness).1 (inverse01_mem smoothness).2 he

theorem BuildParams_admissible (smoothness : UInt8) : Admissible (BuildParams smoothness) where
  pos_le := by
    have := inverse01_rpow_le_one smoothness (e := 1.8) (by norm_num)
    simp only [BuildParams, defaultParams]
    linarith
  rot_le := by
    have := inverse01_rpow_le_one smoothness (e := 1.6) (by norm_num)
    simp only [BuildParams, defaultParams]
    linarith
  jump := by
    simp only [BuildParams, defaultParams]
    norm_num

/-! ## The filtered step -/

/-- The alpha no step falls below: the lowest cutoff over the shortest step. -/
noncomputable def minAlpha (minCutoffHz : ℝ) : ℝ := AlphaFromCutoffHz minCutoffHz 0.001

/-- The share of a position error that one step may leave. -/
noncomputable def posShrink (p : Params) : ℝ := 1 - minAlpha p.posMinCutoffHz

/-- The share of a rotation error that one step may leave. -/
noncomputable def rotShrink (p : Params) : ℝ := 1 - 2.0 / π * minAlpha p.rotMinCutoffHz

theorem rotShrink_eq (p : Params) : rotShrink p = 1 - 2 / π * minAlpha p.rotMinCutoffHz := by
  rw [rotShrink]
  norm_num

theorem posShrink_mem (p : Params) : 0 ≤ posShrink p ∧ posShrink p < 1 := by
  obtain ⟨h0, h1⟩ := AlphaFromCutoffHz_mem p.posMinCutoffHz 0.001
  rw [posShrink, minAlpha]
  constructor <;> linarith

theorem rotShrink_mem (p : Params) : 0 ≤ rotShrink p ∧ rotShrink p < 1 := by
  obtain ⟨h0, h1⟩ := AlphaFromCutoffHz_mem p.rotMinCutoffHz 0.001
  have hpi : 2 / π < 1 := (div_lt_one pi_pos).2 (by linarith [pi_gt_three])
  have hpi0 : 0 < 2 / π := by positivity
  rw [rotShrink_eq, minAlpha]
  constructor
  · nlinarith
  · nlinarith

/-- The cutoff of a filtered step is at least the lowest one. -/
theorem minAlpha_le {minCutoffHz maxCutoffHz cutoff rest dt : ℝ} (hle : minCutoffHz ≤ maxCutoffHz) :
    minAlpha minCutoffHz ≤
      AlphaFromCutoffHz (max (Clamp cutoff minCutoffHz maxCutoffHz) rest) (Clamp dt 0.001 0.050) :=
  AlphaFromCutoffHz_mono ((le_Clamp le_rfl hle).trans (le_max_left _ _))
    (le_Clamp le_rfl (by norm_num))

/-! ## The outcomes of a step -/

/-- What holds of a filter between two steps. -/
structure WellFormed (s : FilterState) : Prop where
  posRelease : s.posRelease ∈ Set.Icc (0 : ℝ) 1
  rotRelease : s.rotRelease ∈ Set.Icc (0 : ℝ) 1
  prevRawRot : IsUnit4 s.prevRawRot
  filteredRot : IsUnit4 s.filteredRot

/-- What a step does to a state: the factors stay in their ranges, and the pose moves along the
    segment, and the arc, to the sample.  Unless the sample is degenerate, the position is then
    within the jump threshold of the sample, and at most a fixed share of each error is left. -/
structure StepOk (p : Params) (s : FilterState) (x : Sample) (r : FilterState × StepResult) :
    Prop where
  releases : r.1.posRelease ∈ Set.Icc (0 : ℝ) 1 ∧ r.1.rotRelease ∈ Set.Icc (0 : ℝ) 1 ∧
    r.2.posRelease ∈ Set.Icc (0 : ℝ) 1 ∧ r.2.rotRelease ∈ Set.Icc (0 : ℝ) 1
  alphas : r.2.posAlpha ∈ Set.Ioc (0 : ℝ) 1 ∧ r.2.rotAlpha ∈ Set.Ioc (0 : ℝ) 1
  segment : ∃ t ∈ Set.Icc (0 : ℝ) 1,
    r.1.filteredPos = fun axis => lerp (s.filteredPos axis) (x.rawPos axis) t
  arc : QuatAngleRad s.filteredRot r.1.filteredRot + QuatAngleRad r.1.filteredRot x.rawRot =
    QuatAngleRad s.filteredRot x.rawRot
  lag : Proper x.rawRot → Distance3 x.rawPos r.1.filteredPos ≤ p.positionJumpM
  posError : Proper x.rawRot →
    Distance3 x.rawPos r.1.filteredPos ≤ posShrink p * Distance3 x.rawPos s.filteredPos
  rotError : Proper x.rawRot →
    QuatAngleRad r.1.filteredRot x.rawRot ≤ rotShrink p * QuatAngleRad s.filteredRot x.rawRot

/-- **The outcomes.** -/
theorem FilterStep_cases (s : FilterState) (p : Params) (x : Sample) :
    (¬ Proper x.rawRot ∧ FilterStep s p x = ({ s with initialized := false },
      { StepResult.new with reseeded := true, reseedReason := .Init })) ∨
    (Proper x.rawRot ∧ ∃ rot reason, (rot = (QuatNormalize x.rawRot).2 ∨
        rot = QuatSameHemisphere s.prevRawRot (QuatNormalize x.rawRot).2) ∧
      FilterStep s p x = reseed s x.rawPos rot reason) ∨
    (Proper x.rawRot ∧ Distance3 x.rawPos s.filteredPos ≤ p.positionJumpM ∧
      FilterStep s p x = filtered s p x
        (QuatSameHemisphere s.prevRawRot (QuatNormalize x.rawRot).2)
        (Clamp x.rawDtSeconds 0.001 0.050) (Distance3 x.rawPos s.filteredPos)
        (QuatAngleRad (QuatSameHemisphere s.prevRawRot (QuatNormalize x.rawRot).2)
          s.filteredRot)) := by
  by_cases hproper : Proper x.rawRot
  · have hok : (QuatNormalize x.rawRot).1 = true := by rw [QuatNormalize_of_proper hproper]
    refine .inr ?_
    simp only [FilterStep, hok, Bool.not_true, Bool.false_eq_true, if_false]
    split
    · exact .inl ⟨hproper, _, _, .inl rfl, rfl⟩
    · split
      · exact .inl ⟨hproper, _, _, .inl rfl, rfl⟩
      · split
        · exact .inl ⟨hproper, _, _, .inr rfl, rfl⟩
        · rename_i hjump
          exact .inr ⟨hproper, not_lt.1 fun h => hjump (.inl h), rfl⟩
  · refine .inl ⟨hproper, ?_⟩
    rw [FilterStep, QuatNormalize_of_not_proper hproper]
    rfl

variable {p : Params} {s : FilterState}

theorem degenerate_ok (hs : WellFormed s) {x : Sample} (hx : ¬ Proper x.rawRot) :
    WellFormed { s with initialized := false } ∧ StepOk p s x ({ s with initialized := false },
      { StepResult.new with reseeded := true, reseedReason := .Init }) := by
  have hone : (1 : ℝ) ∈ Set.Icc (0 : ℝ) 1 := ⟨zero_le_one, le_rfl⟩
  refine ⟨⟨hs.posRelease, hs.rotRelease, hs.prevRawRot, hs.filteredRot⟩, ?_⟩
  constructor
  · exact ⟨hs.posRelease, hs.rotRelease, hone, hone⟩
  · exact ⟨⟨zero_lt_one, le_rfl⟩, zero_lt_one, le_rfl⟩
  · exact ⟨0, ⟨le_rfl, zero_le_one⟩, by simp [lerp]⟩
  · rw [QuatAngleRad_self hs.filteredRot, zero_add]
  all_goals exact fun h => absurd h hx

/-- The state a restart leaves. -/
theorem reseed_ok (hp : Admissible p) (hs : WellFormed s) {x : Sample} {rot : Quat}
    (hrot : IsUnit4 rot) (hsame : ∀ q, IsUnit4 q → QuatAngleRad q rot = QuatAngleRad q x.rawRot)
    (reason : ReseedReason) :
    WellFormed (reseed s x.rawPos rot reason).1 ∧ StepOk p s x (reseed s x.rawPos rot reason) := by
  have hone : (1 : ℝ) ∈ Set.Icc (0 : ℝ) 1 := ⟨zero_le_one, le_rfl⟩
  have hseed : (reseed s x.rawPos rot reason).1.filteredRot = rot := by
    simp only [reseed, SeedFilter, hrot.normalize]
  have hprev : (reseed s x.rawPos rot reason).1.prevRawRot = rot := by
    simp only [reseed, SeedFilter, hrot.normalize]
  have hpos : (reseed s x.rawPos rot reason).1.filteredPos = x.rawPos := rfl
  have hzero : QuatAngleRad rot x.rawRot = 0 := by
    rw [← hsame rot hrot, QuatAngleRad_self hrot]
  refine ⟨⟨hone, hone, by rwa [hprev], by rwa [hseed]⟩, ?_⟩
  constructor
  · exact ⟨hone, hone, hone, hone⟩
  · exact ⟨⟨zero_lt_one, le_rfl⟩, zero_lt_one, le_rfl⟩
  · refine ⟨1, hone, ?_⟩
    rw [hpos]
    funext axis
    simp [lerp]
  · rw [hseed, hzero, add_zero]
    exact hsame _ hs.filteredRot
  · intro _
    rw [hpos, Distance3_self]
    exact hp.jump
  · intro _
    rw [hpos, Distance3_self]
    exact mul_nonneg (posShrink_mem p).1 (Distance3_nonneg _ _)
  · intro _
    rw [hseed, hzero]
    exact mul_nonneg (rotShrink_mem p).1 (QuatAngleRad_nonneg _ _)

/-- The alpha a filtered step uses. -/
theorem filtered_alpha {minCutoffHz maxCutoffHz cutoff rest dt release : ℝ}
    (hle : minCutoffHz ≤ maxCutoffHz) (hrelease : release ∈ Set.Icc (0 : ℝ) 1) :
    let alpha :=
      AlphaFromCutoffHz (max (Clamp cutoff minCutoffHz maxCutoffHz) rest) (Clamp dt 0.001 0.050)
    minAlpha minCutoffHz ≤ alpha + (1 - alpha) * release ∧ alpha + (1 - alpha) * release ≤ 1 := by
  intro alpha
  have hmem := AlphaFromCutoffHz_mem
    (max (Clamp cutoff minCutoffHz maxCutoffHz) rest) (Clamp dt 0.001 0.050)
  obtain ⟨hge, hle1⟩ := released_alpha hmem.2.le hrelease
  exact ⟨(minAlpha_le hle).trans hge, hle1⟩

/-- The state a filtered sample leaves. -/
theorem filtered_ok (hp : Admissible p) (hs : WellFormed s) {x : Sample} {rot : Quat}
    (hrot : IsUnit4 rot) (hsame : ∀ q, IsUnit4 q → QuatAngleRad q rot = QuatAngleRad q x.rawRot)
    (hnear : Distance3 x.rawPos s.filteredPos ≤ p.positionJumpM) (dt rotInnovation : ℝ) :
    WellFormed (filtered s p x rot (Clamp dt 0.001 0.050) (Distance3 x.rawPos s.filteredPos)
        rotInnovation).1 ∧
      StepOk p s x (filtered s p x rot (Clamp dt 0.001 0.050) (Distance3 x.rawPos s.filteredPos)
        rotInnovation) := by
  set r := filtered s p x rot (Clamp dt 0.001 0.050) (Distance3 x.rawPos s.filteredPos)
    rotInnovation with hr
  have hposRelease : r.1.posRelease ∈ Set.Icc (0 : ℝ) 1 := Saturate_mem _
  have hrotRelease : r.1.rotRelease ∈ Set.Icc (0 : ℝ) 1 := Saturate_mem _
  obtain ⟨hposMin, hposMax⟩ : minAlpha p.posMinCutoffHz ≤ r.2.posAlpha ∧ r.2.posAlpha ≤ 1 :=
    filtered_alpha hp.pos_le hposRelease
  obtain ⟨hrotMin, hrotMax⟩ : minAlpha p.rotMinCutoffHz ≤ r.2.rotAlpha ∧ r.2.rotAlpha ≤ 1 :=
    filtered_alpha hp.rot_le hrotRelease
  have hpos0 : 0 < r.2.posAlpha := (AlphaFromCutoffHz_mem _ _).1.trans_le hposMin
  have hrot0 : 0 < r.2.rotAlpha := (AlphaFromCutoffHz_mem _ _).1.trans_le hrotMin
  have hpos : r.1.filteredPos =
      fun axis => lerp (s.filteredPos axis) (x.rawPos axis) r.2.posAlpha := rfl
  have hfiltered : r.1.filteredRot = QuatNlerpShortest s.filteredRot rot r.2.rotAlpha := rfl
  have hunit : IsUnit4 r.1.filteredRot := by
    rw [hfiltered]
    exact QuatNlerpShortest_unit hs.filteredRot hrot hrot0.le hrotMax
  obtain ⟨harc, hshrink⟩ := QuatNlerpShortest_arc hs.filteredRot hrot hrot0.le hrotMax
  rw [← hfiltered] at harc hshrink
  rw [hsame _ hunit, hsame _ hs.filteredRot] at harc hshrink
  have hdistance : Distance3 x.rawPos r.1.filteredPos =
      (1 - r.2.posAlpha) * Distance3 x.rawPos s.filteredPos := by
    rw [hpos, Distance3_lerp _ _ hposMax]
  have hposError := Distance3_nonneg x.rawPos s.filteredPos
  refine ⟨⟨hposRelease, hrotRelease, hrot, hunit⟩, ?_⟩
  constructor
  · exact ⟨hposRelease, hrotRelease, hposRelease, hrotRelease⟩
  · exact ⟨⟨hpos0, hposMax⟩, hrot0, hrotMax⟩
  · exact ⟨r.2.posAlpha, ⟨hpos0.le, hposMax⟩, hpos⟩
  · exact harc
  · intro _
    rw [hdistance]
    nlinarith
  · intro _
    rw [hdistance, posShrink]
    exact mul_le_mul_of_nonneg_right (by linarith) hposError
  · intro _
    refine hshrink.trans (mul_le_mul_of_nonneg_right ?_ (QuatAngleRad_nonneg _ _))
    have hpi : 0 ≤ 2 / π := by positivity
    have := mul_le_mul_of_nonneg_left hrotMin hpi
    rw [rotShrink_eq]
    linarith

/-- **A step from a state between two steps.** -/
theorem FilterStep_ok (hp : Admissible p) (hs : WellFormed s) (x : Sample) :
    WellFormed (FilterStep s p x).1 ∧ StepOk p s x (FilterStep s p x) := by
  have hn := QuatNormalize_unit x.rawRot
  have hnsame : Proper x.rawRot → ∀ q, IsUnit4 q →
      QuatAngleRad q (QuatNormalize x.rawRot).2 = QuatAngleRad q x.rawRot := by
    intro hx q _
    rw [QuatAngleRad_comm, ← QuatAngleRad_normalize hx, QuatAngleRad_comm]
  have hhemi : Proper x.rawRot → ∀ q, IsUnit4 q →
      QuatAngleRad q (QuatSameHemisphere s.prevRawRot (QuatNormalize x.rawRot).2) =
        QuatAngleRad q x.rawRot := by
    intro hx q hq
    rw [QuatAngleRad_sameHemisphere hn hq, hnsame hx q hq]
  rcases FilterStep_cases s p x with ⟨hx, heq⟩ | ⟨hx, rot, reason, hrot, heq⟩ | ⟨hx, hnear, heq⟩
  · rw [heq]
    exact degenerate_ok hs hx
  · rw [heq]
    rcases hrot with rfl | rfl
    · exact reseed_ok hp hs hn (hnsame hx) reason
    · exact reseed_ok hp hs (hn.sameHemisphere _) (hhemi hx) reason
  · rw [heq]
    exact filtered_ok hp hs (hn.sameHemisphere _) (hhemi hx) hnear _ _

/-! ## Runs -/

/-- The filter after the samples. -/
noncomputable def run (p : Params) (samples : List Sample) : FilterState :=
  samples.foldl (fun s x => (FilterStep s p x).1) FilterState.new

theorem run_snoc (p : Params) (samples : List Sample) (x : Sample) :
    run p (samples ++ [x]) = (FilterStep (run p samples) p x).1 := by
  rw [run, List.foldl_append]
  rfl

theorem new_wellFormed : WellFormed FilterState.new where
  posRelease := ⟨zero_le_one, le_rfl⟩
  rotRelease := ⟨zero_le_one, le_rfl⟩
  prevRawRot := by simp [FilterState.new, IsUnit4, QuatDot, dotProduct, Fin.sum_univ_four]
  filteredRot := by simp [FilterState.new, IsUnit4, QuatDot, dotProduct, Fin.sum_univ_four]

theorem run_wellFormed (hp : Admissible p) (samples : List Sample) :
    WellFormed (run p samples) := by
  induction samples using List.reverseRecOn with
  | nil => exact new_wellFormed
  | append_singleton samples x ih =>
    rw [run_snoc]
    exact (FilterStep_ok hp ih x).1

/-- Under a held sample both errors fall geometrically, whatever the speeds reported and the times
    between the samples. -/
theorem held_shrinks (hp : Admissible p) (samples : List Sample) {pos : Vec3} {rot : Quat}
    (hrot : Proper rot) {held : List Sample}
    (hheld : ∀ x ∈ held, x.rawPos = pos ∧ x.rawRot = rot) :
    Distance3 pos (run p (samples ++ held)).filteredPos ≤
        posShrink p ^ held.length * Distance3 pos (run p samples).filteredPos ∧
      QuatAngleRad (run p (samples ++ held)).filteredRot rot ≤
        rotShrink p ^ held.length * QuatAngleRad (run p samples).filteredRot rot := by
  induction held using List.reverseRecOn with
  | nil => simp
  | append_singleton held x ih =>
    obtain ⟨hpos, hangle⟩ := ih fun y hy => hheld y (by simp [hy])
    obtain ⟨rfl, rfl⟩ := hheld x (by simp)
    have hstep := (FilterStep_ok hp (run_wellFormed hp (samples ++ held)) x).2
    rw [← List.append_assoc, run_snoc, List.length_append, List.length_singleton, pow_succ',
      pow_succ', mul_assoc, mul_assoc]
    constructor
    · exact (hstep.posError hrot).trans (mul_le_mul_of_nonneg_left hpos (posShrink_mem p).1)
    · exact (hstep.rotError hrot).trans (mul_le_mul_of_nonneg_left hangle (rotShrink_mem p).1)

/-- **Every step of every run, at every strength.** -/
theorem run_step (smoothness : UInt8) (samples : List Sample) :
    (∀ x, StepOk (BuildParams smoothness) (run (BuildParams smoothness) samples) x
      (FilterStep (run (BuildParams smoothness) samples) (BuildParams smoothness) x)) ∧
    (0 ≤ posShrink (BuildParams smoothness) ∧ posShrink (BuildParams smoothness) < 1) ∧
    (0 ≤ rotShrink (BuildParams smoothness) ∧ rotShrink (BuildParams smoothness) < 1) ∧
    ∀ (pos : Vec3) (rot : Quat) (held : List Sample), Proper rot →
      (∀ x ∈ held, x.rawPos = pos ∧ x.rawRot = rot) →
        Distance3 pos (run (BuildParams smoothness) (samples ++ held)).filteredPos ≤
            posShrink (BuildParams smoothness) ^ held.length *
              Distance3 pos (run (BuildParams smoothness) samples).filteredPos ∧
          QuatAngleRad (run (BuildParams smoothness) (samples ++ held)).filteredRot rot ≤
            rotShrink (BuildParams smoothness) ^ held.length *
              QuatAngleRad (run (BuildParams smoothness) samples).filteredRot rot := by
  have hp := BuildParams_admissible smoothness
  refine ⟨fun x => (FilterStep_ok hp (run_wellFormed hp samples) x).2, posShrink_mem _,
    rotShrink_mem _, ?_⟩
  intro pos rot held hrot hheld
  exact held_shrinks hp samples hrot hheld

/-! ## A degenerate sample -/

noncomputable def atOrigin : Sample := ⟨0, ![1, 0, 0, 0], 0, 0, 0.01⟩

/-- A metre away, with the zero quaternion for a rotation. -/
noncomputable def degenerate : Sample := ⟨![1, 0, 0], 0, 0, 0, 0.01⟩

/-- **A degenerate sample leaves the pose behind**: at half strength, a metre and not half a metre
    from the sample, and no nearer than before. -/
theorem degenerate_lags :
    (BuildParams 50).positionJumpM < Distance3 degenerate.rawPos
      (FilterStep (run (BuildParams 50) [atOrigin]) (BuildParams 50) degenerate).1.filteredPos ∧
    Distance3 degenerate.rawPos
      (FilterStep (run (BuildParams 50) [atOrigin]) (BuildParams 50) degenerate).1.filteredPos =
    Distance3 degenerate.rawPos (run (BuildParams 50) [atOrigin]).filteredPos := by
  have hp := BuildParams_admissible 50
  have horigin : (run (BuildParams 50) [atOrigin]).filteredPos = 0 := by
    obtain ⟨t, -, hseg⟩ := (FilterStep_ok hp new_wellFormed atOrigin).2.segment
    refine hseg.trans ?_
    funext axis
    simp [atOrigin, FilterState.new, lerp]
  have hdegenerate : ¬ Proper degenerate.rawRot := by
    norm_num [Proper, degenerate, QuatDot]
  have hstays : (FilterStep (run (BuildParams 50) [atOrigin]) (BuildParams 50)
      degenerate).1.filteredPos = (run (BuildParams 50) [atOrigin]).filteredPos := by
    rcases FilterStep_cases (run (BuildParams 50) [atOrigin]) (BuildParams 50) degenerate with
      ⟨-, heq⟩ | ⟨hproper, -⟩ | ⟨hproper, -⟩
    · rw [heq]
    · exact absurd hproper hdegenerate
    · exact absurd hproper hdegenerate
  rw [hstays, horigin]
  refine ⟨?_, rfl⟩
  have hone : Distance3 degenerate.rawPos 0 = 1 := by
    simp [Distance3, degenerate, dotProduct, Fin.sum_univ_three]
  rw [hone]
  norm_num [BuildParams, defaultParams]

end WKPairDriver.SmartShadow
