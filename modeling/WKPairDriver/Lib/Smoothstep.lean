import Mathlib

/-!
# Smoothstep

The cubic `3x² - 2x³` that runs from 0 to 1 on the unit interval, over any ordered field, and
constant outside of it.

* `smoothstep_nonneg`, `smoothstep_le_one` — its values lie in the unit interval.
* `smoothstep_le_add` — nowhere does it rise faster than 3/2.
* `ramp` — the position of a time on a ramp; `smoothstep_ramp_le_add` bounds the rise over a time.
-/

set_option autoImplicit false

namespace Lib

universe u
variable {K : Type u} [Field K] [LinearOrder K]

def clamp01 (x : K) : K := max 0 (min x 1)

def smoothstep (x : K) : K :=
  let x := clamp01 x
  x * x * (3 - 2 * x)

/-- How far `elapsed` is on a ramp that takes `duration`. -/
def ramp (elapsed duration : K) : K :=
  if duration ≤ 0 then 1 else clamp01 (elapsed / duration)

theorem clamp01_nonneg (x : K) : 0 ≤ clamp01 x := le_max_left _ _

theorem clamp01_of_nonpos {x : K} (h : x ≤ 0) : clamp01 x = 0 :=
  max_eq_left ((min_le_left _ _).trans h)

theorem clamp01_of_mem {x : K} (h0 : 0 ≤ x) (h1 : x ≤ 1) : clamp01 x = x := by
  rw [clamp01, min_eq_left h1, max_eq_right h0]

theorem clamp01_mono {x y : K} (h : x ≤ y) : clamp01 x ≤ clamp01 y :=
  max_le_max le_rfl (min_le_min_right _ h)

@[simp] theorem smoothstep_zero : smoothstep (0 : K) = 0 := by
  simp [smoothstep, clamp01_of_nonpos le_rfl]

theorem ramp_zero {duration : K} (h : 0 < duration) : ramp 0 duration = 0 := by
  rw [ramp, if_neg (not_le.2 h), zero_div, clamp01_of_nonpos le_rfl]

variable [IsStrictOrderedRing K]

theorem clamp01_le_one (x : K) : clamp01 x ≤ 1 :=
  max_le zero_le_one (min_le_right _ _)

theorem clamp01_of_one_le {x : K} (h : 1 ≤ x) : clamp01 x = 1 := by
  rw [clamp01, min_eq_right h]
  exact max_eq_right zero_le_one

/-- Clamping does not widen a distance. -/
theorem clamp01_le_add {x y : K} (h : x ≤ y) : clamp01 y ≤ clamp01 x + (y - x) := by
  apply max_le
  · have := clamp01_nonneg x
    linarith
  · rcases le_total x 1 with hx | hx
    · have hclamp : x ≤ clamp01 x := by
        rw [clamp01, min_eq_left hx]
        exact le_max_right _ _
      have := min_le_left y 1
      linarith
    · rw [clamp01_of_one_le hx]
      have := min_le_right y 1
      linarith

theorem smoothstep_nonneg (x : K) : 0 ≤ smoothstep x := by
  have h0 := clamp01_nonneg x
  have h1 := clamp01_le_one x
  exact mul_nonneg (mul_nonneg h0 h0) (by linarith)

theorem smoothstep_le_one (x : K) : smoothstep x ≤ 1 := by
  have h0 := clamp01_nonneg x
  have h1 := clamp01_le_one x
  unfold smoothstep
  nlinarith [mul_nonneg (sub_nonneg.2 h1) (sub_nonneg.2 h1)]

theorem clamp01_clamp01 (x : K) : clamp01 (clamp01 x) = clamp01 x :=
  clamp01_of_mem (clamp01_nonneg x) (clamp01_le_one x)

theorem smoothstep_clamp01 (x : K) : smoothstep (clamp01 x) = smoothstep x := by
  simp only [smoothstep, clamp01_clamp01]

/-- It starts to rise at 0. -/
theorem smoothstep_pos {x : K} (h : 0 < x) : 0 < smoothstep x := by
  rcases le_total x 1 with h1 | h1
  · simp only [smoothstep, clamp01_of_mem h.le h1]
    have : 0 < 3 - 2 * x := by linarith
    positivity
  · rw [smoothstep, clamp01, min_eq_right h1]
    norm_num

/-- It does not reach 1 before 1. -/
theorem smoothstep_lt_one {x : K} (h : x < 1) : smoothstep x < 1 := by
  rcases le_total x 0 with h0 | h0
  · rw [smoothstep, clamp01_of_nonpos h0]
    norm_num
  · simp only [smoothstep, clamp01_of_mem h0 h.le]
    nlinarith [mul_pos (sub_pos.2 h) (sub_pos.2 h)]

theorem smoothstep_of_one_le {x : K} (h : 1 ≤ x) : smoothstep x = 1 := by
  simp only [smoothstep, clamp01_of_one_le h]
  norm_num

/-- The cubic on the unit interval, between two points. -/
theorem cubic_sub (a b : K) :
    b * b * (3 - 2 * b) - a * a * (3 - 2 * a) =
      (b - a) * (3 / 2 - ((a - 1 / 2) ^ 2 + (b - 1 / 2) ^ 2 + (a + b - 1) ^ 2)) := by
  ring

theorem smoothstep_mono {x y : K} (h : x ≤ y) : smoothstep x ≤ smoothstep y := by
  have ha := clamp01_nonneg x
  have hb := clamp01_le_one y
  have hab := clamp01_mono h
  have hsub := cubic_sub (clamp01 x) (clamp01 y)
  have hfactor : 0 ≤ 3 / 2 - ((clamp01 x - 1 / 2) ^ 2 + (clamp01 y - 1 / 2) ^ 2 +
      (clamp01 x + clamp01 y - 1) ^ 2) := by
    nlinarith [mul_nonneg ha (sub_nonneg.2 hb), mul_nonneg ha (sub_nonneg.2 (hab.trans hb)),
      mul_nonneg (ha.trans hab) (sub_nonneg.2 hb)]
  have := mul_nonneg (sub_nonneg.2 hab) hfactor
  simp only [smoothstep]
  linarith

/-- **The slope is at most 3/2.** -/
theorem smoothstep_le_add {x y : K} (h : x ≤ y) :
    smoothstep y ≤ smoothstep x + 3 / 2 * (y - x) := by
  have hab := clamp01_mono h
  have hsub := cubic_sub (clamp01 x) (clamp01 y)
  have hsquares : 0 ≤ (clamp01 x - 1 / 2) ^ 2 + (clamp01 y - 1 / 2) ^ 2 +
      (clamp01 x + clamp01 y - 1) ^ 2 := by positivity
  have hle := mul_nonneg (sub_nonneg.2 hab) hsquares
  have hclamp := clamp01_le_add h
  simp only [smoothstep]
  linarith

/-! ## Ramps -/

theorem one_le_ramp_iff {elapsed duration : K} : 1 ≤ ramp elapsed duration ↔
    duration ≤ 0 ∨ duration ≤ elapsed := by
  unfold ramp
  split
  · rename_i h
    exact iff_of_true le_rfl (.inl h)
  · rename_i h
    have hpos := not_le.1 h
    rw [or_iff_right h, ← one_le_div hpos]
    constructor
    · intro h1
      by_contra hlt
      have : clamp01 (elapsed / duration) < 1 :=
        max_lt zero_lt_one ((min_le_left _ _).trans_lt (not_le.1 hlt))
      exact absurd h1 (not_le.2 this)
    · intro h1
      rw [clamp01_of_one_le h1]

theorem ramp_mono {elapsed elapsed' duration : K} (h : elapsed ≤ elapsed') :
    ramp elapsed duration ≤ ramp elapsed' duration := by
  unfold ramp
  split
  · exact le_rfl
  · rename_i hd
    exact clamp01_mono ((div_le_div_iff_of_pos_right (not_le.1 hd)).2 h)

/-- The rise of a smooth ramp over a time. -/
theorem smoothstep_ramp_le_add {elapsed elapsed' duration : K} (hd : 0 < duration)
    (h : elapsed ≤ elapsed') :
    smoothstep (ramp elapsed' duration) ≤
      smoothstep (ramp elapsed duration) + 3 / 2 * (elapsed' - elapsed) / duration := by
  have hclamp : ramp elapsed' duration ≤ ramp elapsed duration + (elapsed' - elapsed) / duration := by
    simp only [ramp, if_neg (not_le.2 hd), sub_div]
    exact clamp01_le_add ((div_le_div_iff_of_pos_right hd).2 h)
  have hmono : ramp elapsed duration ≤ ramp elapsed' duration := ramp_mono h
  have hrise := smoothstep_le_add hmono
  rw [mul_div_assoc]
  linarith

end Lib
