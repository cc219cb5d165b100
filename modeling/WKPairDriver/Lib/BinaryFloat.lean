import Mathlib

/-!
# Binary floating point over the rationals

The finite numbers of a binary format as the rationals they are, without a bound on the exponent.

* `Format.round` — round to nearest, ties to even.
* `Format.round_round` — what has been rounded stays as it is.
* `Format.Number` — a number of the format, `Format.narrow` the conversion to it; `narrow_val` says
  that a number that is widened and narrowed again is the same.
* `Format.Datum` — a number, an infinity or a NaN; `Number.clamp` moves a number into an interval.
-/

set_option autoImplicit false

namespace Lib.BinaryFloat

/-- The nearest integer, the even one of two. -/
def roundHalfEven (x : ℚ) : ℤ :=
  if x - ⌊x⌋ < 0.5 then ⌊x⌋
  else if 0.5 < x - ⌊x⌋ then ⌊x⌋ + 1
  else if ⌊x⌋ % 2 = 0 then ⌊x⌋
  else ⌊x⌋ + 1

@[simp] theorem roundHalfEven_intCast (n : ℤ) : roundHalfEven n = n := by
  rw [roundHalfEven, Int.floor_intCast, if_pos (by norm_num)]

/-- Rounding does not pass an integer. -/
theorem roundHalfEven_mem (x : ℚ) : roundHalfEven x = ⌊x⌋ ∨ roundHalfEven x = ⌊x⌋ + 1 := by
  unfold roundHalfEven
  split_ifs <;> simp

theorem abs_roundHalfEven_le {x : ℚ} {n : ℕ} (hx : |x| < n) : |roundHalfEven x| ≤ n := by
  obtain ⟨hlow, hhigh⟩ := abs_lt.1 hx
  have hfloor : -(n : ℤ) ≤ ⌊x⌋ := by
    rw [Int.le_floor]
    push_cast
    exact hlow.le
  have hlt : ⌊x⌋ < (n : ℤ) := by
    rw [Int.floor_lt]
    push_cast
    exact hhigh
  rw [abs_le]
  rcases roundHalfEven_mem x with h | h <;> rw [h] <;> omega

/-- Digits of the significand, and the exponent of the last digit of the smallest numbers. -/
structure Format where
  precision : ℕ
  emin : ℤ
  precision_pos : 0 < precision

def binary32 : Format := ⟨24, -149, by decide⟩

def binary64 : Format := ⟨53, -1074, by decide⟩

namespace Format

variable (f : Format)

/-- The exponent of the last digit of a number of this size. -/
def exponent (x : ℚ) : ℤ := max (Int.log 2 |x| - (f.precision - 1)) f.emin

def round (x : ℚ) : ℚ := roundHalfEven (x / 2 ^ f.exponent x) * 2 ^ f.exponent x

variable {f}

/-- An integral multiple of the last digit is not rounded. -/
theorem round_of_multiple {x : ℚ} {n : ℤ} (h : x = n * 2 ^ f.exponent x) : f.round x = x := by
  have hdiv : x / 2 ^ f.exponent x = n := by
    rw [div_eq_iff (zpow_ne_zero _ (by norm_num))]
    exact h
  rw [round, hdiv, roundHalfEven_intCast]
  exact h.symm

/-- A multiple of a digit is one of any smaller digit. -/
theorem multiple_of_le {x : ℚ} {n k j : ℤ} (h : x = n * 2 ^ k) (hjk : j ≤ k) :
    ∃ m : ℤ, x = m * 2 ^ j := by
  refine ⟨n * 2 ^ (k - j).toNat, ?_⟩
  have hsplit : (2 : ℚ) ^ k = 2 ^ (k - j).toNat * 2 ^ j := by
    rw [← zpow_natCast, Int.toNat_of_nonneg (by omega), ← zpow_add₀ (by norm_num)]
    congr 1
    omega
  rw [h, hsplit]
  push_cast
  ring

theorem log_lt_of_abs_lt {x : ℚ} {k : ℤ} (hx : x ≠ 0) (h : |x| < 2 ^ k) : Int.log 2 |x| < k :=
  (Int.lt_zpow_iff_log_lt (by norm_num) (abs_pos.2 hx)).1 (by exact_mod_cast h)

/-- A number with at most `precision` digits, none below `emin`, is not rounded. -/
theorem round_of_digits {x : ℚ} {n k : ℤ} (h : x = n * 2 ^ k) (hn : |n| ≤ 2 ^ f.precision)
    (hk : f.emin ≤ k) : f.round x = x := by
  have hpos : (0 : ℚ) < 2 ^ k := zpow_pos (by norm_num) k
  by_cases hx : x = 0
  · exact round_of_multiple (n := 0) (by simp [hx])
  rcases hn.lt_or_eq with hlt | heq
  · -- the last digit is not above `k`
    have habs : |x| < 2 ^ (f.precision + k : ℤ) := by
      rw [h, abs_mul, abs_of_pos hpos, zpow_add₀ (by norm_num), zpow_natCast]
      have hcast : |(n : ℚ)| < 2 ^ f.precision := by exact_mod_cast hlt
      exact mul_lt_mul_of_pos_right hcast hpos
    have hlog := log_lt_of_abs_lt hx habs
    obtain ⟨m, hm⟩ := multiple_of_le (j := f.exponent x) h (by unfold exponent; omega)
    exact round_of_multiple hm
  · -- a power of two has one digit
    have hexp : f.exponent x ≤ k + 1 := by
      have habs : |x| < 2 ^ (f.precision + k + 1 : ℤ) := by
        rw [h, abs_mul, abs_of_pos hpos, zpow_add₀ (by norm_num), zpow_add₀ (by norm_num),
          zpow_natCast]
        have hcast : |(n : ℚ)| = 2 ^ f.precision := by exact_mod_cast heq
        rw [hcast]
        have : (0 : ℚ) < 2 ^ f.precision * 2 ^ k := by positivity
        linarith
      have hlog := log_lt_of_abs_lt hx habs
      unfold exponent
      omega
    have hhalf : ∃ m : ℤ, n = m * 2 := by
      have hp := f.precision_pos
      have heven : (2 : ℤ) ∣ |n| := heq ▸ dvd_pow_self 2 (by omega)
      obtain ⟨m, hm⟩ := (dvd_abs 2 n).1 heven
      exact ⟨m, by omega⟩
    obtain ⟨m, hm⟩ := hhalf
    have h' : x = m * 2 ^ (k + 1) := by
      rw [h, hm, zpow_add₀ (by norm_num)]
      push_cast
      ring
    obtain ⟨l, hl⟩ := multiple_of_le (j := f.exponent x) h' hexp
    exact round_of_multiple hl

theorem abs_lt_pow_log (x : ℚ) : |x| < 2 ^ (Int.log 2 |x| + 1) := by
  exact_mod_cast Int.lt_zpow_succ_log_self (R := ℚ) (by norm_num) |x|

variable (f)

/-- **Rounding twice.**  What has been rounded stays as it is. -/
theorem round_round (x : ℚ) : f.round (f.round x) = f.round x := by
  refine round_of_digits (n := roundHalfEven (x / 2 ^ f.exponent x)) rfl ?_ (le_max_right _ _)
  have hpos : (0 : ℚ) < 2 ^ f.exponent x := zpow_pos (by norm_num) _
  have hlt : |x / 2 ^ f.exponent x| < (2 ^ f.precision : ℕ) := by
    rw [abs_div, abs_of_pos hpos, div_lt_iff₀ hpos]
    push_cast
    rw [← zpow_natCast, ← zpow_add₀ (by norm_num)]
    refine (abs_lt_pow_log x).trans_le (zpow_le_zpow_right₀ (by norm_num) ?_)
    unfold exponent
    omega
  exact_mod_cast abs_roundHalfEven_le hlt

/-- A number of the format. -/
structure Number where
  val : ℚ
  rounded : f.round val = val

variable {f}

@[ext] theorem Number.ext {a b : f.Number} (h : a.val = b.val) : a = b := by
  obtain ⟨v, hv⟩ := a
  obtain ⟨w, hw⟩ := b
  cases h
  rfl

instance : DecidableEq f.Number := fun a b =>
  decidable_of_iff (a.val = b.val) ⟨Number.ext, congrArg Number.val⟩

variable (f)

/-- The conversion to the format. -/
def narrow (x : ℚ) : f.Number := ⟨f.round x, f.round_round x⟩

variable {f}

@[simp] theorem narrow_val (a : f.Number) : f.narrow a.val = a :=
  Number.ext a.rounded

/-- An integer that fits the significand is exact. -/
theorem narrow_intCast {n : ℤ} (hn : |n| ≤ 2 ^ f.precision) (h0 : f.emin ≤ 0) :
    (f.narrow n).val = n :=
  round_of_digits (k := 0) (by rw [zpow_zero, mul_one]) hn h0

/-- `std::clamp`. -/
def Number.clamp (x lo hi : f.Number) : f.Number :=
  if x.val < lo.val then lo else if hi.val < x.val then hi else x

theorem Number.clamp_of_mem {x lo hi : f.Number} (hlo : lo.val ≤ x.val) (hhi : x.val ≤ hi.val) :
    x.clamp lo hi = x := by
  rw [Number.clamp, if_neg hlo.not_gt, if_neg hhi.not_gt]

theorem Number.clamp_of_gt {x lo hi : f.Number} (hlo : lo.val ≤ hi.val) (hhi : hi.val < x.val) :
    x.clamp lo hi = hi := by
  rw [Number.clamp, if_neg (hlo.trans hhi.le).not_gt, if_pos hhi]

/-- What a variable of the format holds. -/
inductive Datum (f : Format) where
  | nan
  | inf (negative : Bool)
  | num (x : f.Number)
deriving DecidableEq

def Datum.isFinite : f.Datum → Bool
  | .num _ => true
  | _ => false

end Format

end Lib.BinaryFloat
