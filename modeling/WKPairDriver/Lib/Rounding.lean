import WKPairDriver.Lib.BinaryFloat

/-!
# Rounded arithmetic

What an algorithm on floating-point numbers may rely on: rounding is monotone and odd, keeps what
is rounded, and half of a rounded difference does not lead past its end.

* `Rounding` — the contract; exact arithmetic meets it, and `Format.rounding` is that of a binary
  format.
* `Rounding.toward_mem` — a number moved at most half of the way to another stays between them.
* `Format.abs_round_sub_le` — how far rounding is off.
* `Format.round_natCast`, `Format.round_succ_pow` — the naturals that are exact, and the first that
  is not.
-/

set_option autoImplicit false

namespace Lib

open BinaryFloat

/-- The contract of a rounding. -/
structure Rounding (K : Type*) [Field K] [LinearOrder K] where
  fl : K → K
  mono : Monotone fl
  fl_fl : ∀ x, fl (fl x) = fl x
  fl_neg : ∀ x, fl (-x) = -fl x
  halfway : ∀ a b, fl a = a → fl b = b → a ≤ b → a + fl (fl (b - a) / 2) ≤ b

namespace Rounding

variable {K : Type*} [Field K] [LinearOrder K]

theorem exact_halfway (K : Type*) [Field K] [LinearOrder K] [IsStrictOrderedRing K] (a b : K)
    (_ : id a = a) (_ : id b = b) (hab : a ≤ b) : a + id (id (b - a) / 2) ≤ b := by
  simp only [id]
  linarith

/-- Exact arithmetic. -/
def exact (K : Type*) [Field K] [LinearOrder K] [IsStrictOrderedRing K] : Rounding K where
  fl := id
  mono := monotone_id
  fl_fl _ := rfl
  fl_neg _ := rfl
  halfway := exact_halfway K

variable [IsStrictOrderedRing K] (R : Rounding K)

@[simp] theorem fl_zero : R.fl 0 = 0 := by
  have h := R.fl_neg 0
  rw [neg_zero] at h
  linarith

theorem fl_nonneg {x : K} (h : 0 ≤ x) : 0 ≤ R.fl x := by
  rw [← R.fl_zero]
  exact R.mono h

variable {R} {a b : K}

/-- A part of at most half of the rounded difference, from the lower end. -/
theorem toward_mem (ha : R.fl a = a) (hb : R.fl b = b) (hab : a ≤ b) {k : K} (hk : 2 ≤ k) :
    a ≤ R.fl (a + R.fl (R.fl (b - a) / k)) ∧ R.fl (a + R.fl (R.fl (b - a) / k)) ≤ b := by
  have hdiff : 0 ≤ R.fl (b - a) := R.fl_nonneg (sub_nonneg.2 hab)
  have hpart : 0 ≤ R.fl (R.fl (b - a) / k) := R.fl_nonneg (by positivity)
  have hhalf : R.fl (R.fl (b - a) / k) ≤ R.fl (R.fl (b - a) / 2) :=
    R.mono (div_le_div_of_nonneg_left hdiff (by norm_num) hk)
  constructor
  · calc a = R.fl a := ha.symm
      _ ≤ R.fl (a + R.fl (R.fl (b - a) / k)) := R.mono (by linarith)
  · calc R.fl (a + R.fl (R.fl (b - a) / k)) ≤ R.fl b :=
          R.mono (by linarith [R.halfway a b ha hb hab])
      _ = b := hb

/-- A part of at most half of the rounded difference, from the upper end. -/
theorem toward_mem' (ha : R.fl a = a) (hb : R.fl b = b) (hab : a ≤ b) {k : K} (hk : 2 ≤ k) :
    a ≤ R.fl (b - R.fl (R.fl (b - a) / k)) ∧ R.fl (b - R.fl (R.fl (b - a) / k)) ≤ b := by
  have hneg : -R.fl (-b + R.fl (R.fl (-a - -b) / k)) = R.fl (b - R.fl (R.fl (b - a) / k)) := by
    rw [← R.fl_neg]
    congr 1
    rw [show -a - -b = b - a by ring]
    ring
  obtain ⟨hlow, hhigh⟩ := toward_mem (R := R) (a := -b) (b := -a) (by rw [R.fl_neg, hb])
    (by rw [R.fl_neg, ha]) (neg_le_neg hab) hk
  rw [← hneg]
  exact ⟨by linarith, by linarith⟩

end Rounding

/-! ## Binary formats -/

namespace BinaryFloat

theorem roundHalfEven_le {x : ℚ} {n : ℤ} (h : x ≤ n) : roundHalfEven x ≤ n := by
  rcases h.lt_or_eq with hlt | rfl
  · have hfloor := Int.floor_lt.2 hlt
    rcases roundHalfEven_mem x with h | h <;> rw [h] <;> omega
  · rw [roundHalfEven_intCast]

theorem le_roundHalfEven {x : ℚ} {n : ℤ} (h : (n : ℚ) ≤ x) : n ≤ roundHalfEven x := by
  have hfloor := Int.le_floor.2 h
  rcases roundHalfEven_mem x with h | h <;> rw [h] <;> omega

theorem roundHalfEven_mono : Monotone roundHalfEven := by
  intro x y hxy
  rcases (Int.floor_le_floor hxy).lt_or_eq with hlt | heq
  · have hx : x ≤ (⌊y⌋ : ℤ) := by
      have hnext : ((⌊x⌋ + 1 : ℤ) : ℚ) ≤ (⌊y⌋ : ℤ) := by exact_mod_cast hlt
      push_cast at hnext
      linarith [Int.lt_floor_add_one x]
    exact (roundHalfEven_le hx).trans (le_roundHalfEven (Int.floor_le y))
  · unfold roundHalfEven
    rw [heq]
    split_ifs <;> first | omega | (exfalso; linarith)

theorem roundHalfEven_neg (x : ℚ) : roundHalfEven (-x) = -roundHalfEven x := by
  have hlow := Int.floor_le x
  have hhigh := Int.lt_floor_add_one x
  rcases hlow.lt_or_eq with hlt | heq
  · have hfloor : ⌊-x⌋ = -⌊x⌋ - 1 := by
      rw [Int.floor_eq_iff]
      push_cast
      exact ⟨by linarith, by linarith⟩
    unfold roundHalfEven
    rw [hfloor]
    push_cast
    split_ifs <;> first | omega | (exfalso; linarith)
  · rw [← heq, ← Int.cast_neg, roundHalfEven_intCast, roundHalfEven_intCast]

theorem abs_roundHalfEven_sub_le (x : ℚ) : |roundHalfEven x - x| ≤ 1 / 2 := by
  have hlow := Int.floor_le x
  have hhigh := Int.lt_floor_add_one x
  rw [abs_le]
  unfold roundHalfEven
  split_ifs <;> push_cast <;> constructor <;> linarith

namespace Format

variable {f : Format} {x y : ℚ}

theorem round_le_of_multiple {n : ℤ} (h : x ≤ n * 2 ^ f.exponent x) :
    f.round x ≤ n * 2 ^ f.exponent x := by
  have hpos : (0 : ℚ) < 2 ^ f.exponent x := zpow_pos (by norm_num) _
  have hle := roundHalfEven_le ((div_le_iff₀ hpos).2 h)
  exact mul_le_mul_of_nonneg_right (by exact_mod_cast hle) hpos.le

theorem le_round_of_multiple {n : ℤ} (h : n * 2 ^ f.exponent x ≤ x) :
    n * 2 ^ f.exponent x ≤ f.round x := by
  have hpos : (0 : ℚ) < 2 ^ f.exponent x := zpow_pos (by norm_num) _
  have hle := le_roundHalfEven ((le_div_iff₀ hpos).2 h)
  exact mul_le_mul_of_nonneg_right (by exact_mod_cast hle) hpos.le

/-- A power of two is a multiple of the last digit of the numbers that are not larger. -/
theorem exists_multiple {k e : ℤ} (h : e ≤ k) : ∃ n : ℤ, (n : ℚ) * 2 ^ e = 2 ^ k := by
  obtain ⟨n, hn⟩ := multiple_of_le (x := (2 : ℚ) ^ k) (n := 1) (by rw [Int.cast_one, one_mul]) h
  exact ⟨n, hn.symm⟩

theorem round_neg (x : ℚ) : f.round (-x) = -f.round x := by
  have hexp : f.exponent (-x) = f.exponent x := by rw [exponent, abs_neg, exponent]
  rw [round, hexp, neg_div, roundHalfEven_neg, round]
  push_cast
  ring

/-- Rounding does not pass the power of two above a positive number. -/
theorem round_le_pow (hx : 0 < x) {k : ℤ} (hk : Int.log 2 x < k) (hemin : f.emin ≤ k) :
    f.round x ≤ 2 ^ k := by
  have hp := f.precision_pos
  obtain ⟨n, hn⟩ := exists_multiple (k := k) (e := f.exponent x) (by
    rw [exponent, abs_of_pos hx]
    omega)
  rw [← hn]
  refine round_le_of_multiple ?_
  rw [hn]
  exact ((Int.lt_zpow_iff_log_lt (by norm_num) hx).2 hk).le

theorem pow_le_round (hx : 0 < x) (hemin : f.emin ≤ Int.log 2 x) :
    2 ^ Int.log 2 x ≤ f.round x := by
  have hp := f.precision_pos
  obtain ⟨n, hn⟩ := exists_multiple (k := Int.log 2 x) (e := f.exponent x) (by
    rw [exponent, abs_of_pos hx]
    omega)
  rw [← hn]
  refine le_round_of_multiple ?_
  rw [hn]
  exact_mod_cast Int.zpow_log_le_self (by norm_num) hx

theorem round_nonneg (hx : 0 ≤ x) : 0 ≤ f.round x := by
  have h := le_round_of_multiple (f := f) (x := x) (n := 0) (by simpa using hx)
  simpa using h

theorem round_mono_pos (hx : 0 < x) (hxy : x ≤ y) : f.round x ≤ f.round y := by
  have hy := hx.trans_le hxy
  have hlog : Int.log 2 x ≤ Int.log 2 y := Int.log_mono_right hx hxy
  have hp := f.precision_pos
  by_cases hexp : f.exponent x = f.exponent y
  · have hpos : (0 : ℚ) < 2 ^ f.exponent y := zpow_pos (by norm_num) _
    rw [round, round, hexp]
    refine mul_le_mul_of_nonneg_right ?_ hpos.le
    exact_mod_cast roundHalfEven_mono (div_le_div_of_nonneg_right hxy hpos.le)
  · -- a power of two lies between them
    rw [exponent, exponent, abs_of_pos hx, abs_of_pos hy] at hexp
    have hlt : Int.log 2 x < Int.log 2 y := by omega
    have hemin : f.emin ≤ Int.log 2 y := by omega
    exact (round_le_pow hx hlt hemin).trans (pow_le_round hy hemin)

theorem round_mono : Monotone f.round := by
  intro x y hxy
  rcases lt_trichotomy x 0 with hx | rfl | hx
  · rcases lt_or_ge y 0 with hy | hy
    · have h := round_mono_pos (f := f) (neg_pos.2 hy) (neg_le_neg hxy)
      rw [round_neg, round_neg] at h
      linarith
    · have h := round_nonneg (f := f) (neg_nonneg.2 hx.le)
      rw [round_neg] at h
      linarith [round_nonneg (f := f) hy]
  · have hzero : f.round 0 = 0 := round_of_digits (n := 0) (k := f.emin) (by simp) (by simp) le_rfl
    rw [hzero]
    exact round_nonneg hxy
  · exact round_mono_pos hx hxy

/-- A number of the format is a multiple of the last digit of the smallest ones. -/
theorem multiple_emin (h : f.round x = x) : ∃ n : ℤ, x = n * 2 ^ f.emin := by
  refine multiple_of_le (n := roundHalfEven (x / 2 ^ f.exponent x)) (k := f.exponent x) h.symm ?_
  exact le_max_right _ _

/-- Half of a rounded multiple of the last digit. -/
theorem round_half_le {n : ℤ} (hx : 0 ≤ x) (hn : x = n * 2 ^ f.emin) :
    f.round (f.round x / 2) ≤ x := by
  have hpos : (0 : ℚ) < 2 ^ f.emin := zpow_pos (by norm_num) _
  have hn0 : 0 ≤ n := by
    by_contra hneg
    have : (n : ℚ) < 0 := by exact_mod_cast not_le.1 hneg
    nlinarith
  by_cases hsmall : |n| ≤ 2 ^ f.precision
  · have hexact : f.round x = x := round_of_digits hn hsmall le_rfl
    calc f.round (f.round x / 2) ≤ f.round (f.round x) := round_mono (by rw [hexact]; linarith)
      _ = x := by rw [hexact, hexact]
  · -- the number is so large that its half has as many digits
    rw [abs_of_nonneg hn0, not_le] at hsmall
    have hp := f.precision_pos
    have hlarge : (2 : ℚ) ^ (f.precision + f.emin : ℤ) ≤ x := by
      rw [hn, zpow_add₀ (by norm_num), zpow_natCast]
      exact mul_le_mul_of_nonneg_right (by exact_mod_cast hsmall.le) hpos.le
    have hx0 : 0 < x := (zpow_pos (by norm_num) _).trans_le hlarge
    have hlog : f.precision + f.emin ≤ Int.log 2 x := by
      rw [← Int.zpow_le_iff_le_log (by norm_num) hx0]
      exact_mod_cast hlarge
    have hexp : f.exponent x = Int.log 2 x - (f.precision - 1) := by
      rw [exponent, abs_of_pos hx0]
      omega
    have hround : f.round x ≤ 2 ^ (Int.log 2 x + 1) :=
      round_le_pow hx0 (by omega) (by omega)
    have hself : (2 : ℚ) ^ Int.log 2 x ≤ x := by
      exact_mod_cast Int.zpow_log_le_self (by norm_num) hx0
    have hhalf : f.round x / 2 = roundHalfEven (x / 2 ^ f.exponent x) * 2 ^ (f.exponent x - 1) := by
      rw [round, zpow_sub_one₀ (by norm_num)]
      ring
    have hdigits : |roundHalfEven (x / 2 ^ f.exponent x)| ≤ 2 ^ f.precision := by
      have hlt : |x / 2 ^ f.exponent x| < (2 ^ f.precision : ℕ) := by
        have hpow : (0 : ℚ) < 2 ^ f.exponent x := zpow_pos (by norm_num) _
        rw [abs_div, abs_of_pos hpow, div_lt_iff₀ hpow]
        push_cast
        rw [← zpow_natCast, ← zpow_add₀ (by norm_num)]
        refine (abs_lt_pow_log x).trans_le (zpow_le_zpow_right₀ (by norm_num) ?_)
        rw [hexp, abs_of_pos hx0]
        omega
      exact_mod_cast abs_roundHalfEven_le hlt
    rw [round_of_digits hhalf hdigits (by omega)]
    rw [zpow_add_one₀ (by norm_num)] at hround
    linarith

/-- Half the rounded distance, rounded, does not lead past the other end. -/
theorem round_halfway (f : Format) (a b : ℚ) (ha : f.round a = a) (hb : f.round b = b)
    (hab : a ≤ b) : a + f.round (f.round (b - a) / 2) ≤ b := by
  obtain ⟨n, hn⟩ := multiple_emin ha
  obtain ⟨m, hm⟩ := multiple_emin hb
  have h := round_half_le (f := f) (n := m - n) (sub_nonneg.2 hab) (by
    rw [hm, hn]
    push_cast
    ring)
  linarith

/-- Where all digits are there, rounding is off by half of the last one. -/
theorem abs_round_sub_le (hx : (2 : ℚ) ^ (f.emin + (f.precision - 1)) ≤ |x|) :
    |f.round x - x| ≤ |x| / 2 ^ f.precision := by
  have hpos : 0 < |x| := (zpow_pos (by norm_num) _).trans_le hx
  have hlog : f.emin + (f.precision - 1) ≤ Int.log 2 |x| := by
    rw [← Int.zpow_le_iff_le_log (by norm_num) hpos]
    exact_mod_cast hx
  have hexp : f.exponent x = Int.log 2 |x| - (f.precision - 1) := max_eq_left (by omega)
  have hunit : (0 : ℚ) < 2 ^ f.exponent x := zpow_pos (by norm_num) _
  have hself : (2 : ℚ) ^ Int.log 2 |x| ≤ |x| := by
    exact_mod_cast Int.zpow_log_le_self (by norm_num) hpos
  have hlast : (2 : ℚ) ^ f.exponent x * 2 ^ f.precision = 2 * 2 ^ Int.log 2 |x| := by
    rw [hexp, ← zpow_natCast, ← zpow_add₀ (by norm_num), ← zpow_one_add₀ (by norm_num)]
    congr 1
    omega
  have hoff : f.round x - x =
      (roundHalfEven (x / 2 ^ f.exponent x) - x / 2 ^ f.exponent x) * 2 ^ f.exponent x := by
    rw [round, sub_mul, div_mul_cancel₀ _ hunit.ne']
  rw [hoff, abs_mul, abs_of_pos hunit, le_div_iff₀ (by positivity), mul_assoc, hlast]
  calc |(roundHalfEven (x / 2 ^ f.exponent x) : ℚ) - x / 2 ^ f.exponent x| *
        (2 * 2 ^ Int.log 2 |x|)
      ≤ 1 / 2 * (2 * 2 ^ Int.log 2 |x|) :=
        mul_le_mul_of_nonneg_right (abs_roundHalfEven_sub_le _) (by positivity)
    _ ≤ |x| := by linarith

/-- The rounding of a binary format. -/
def rounding (f : Format) : Rounding ℚ where
  fl := f.round
  mono := round_mono
  fl_fl := f.round_round
  fl_neg := round_neg
  halfway := f.round_halfway

theorem round_natCast {n : ℕ} (hn : n ≤ 2 ^ f.precision) (hemin : f.emin ≤ 0) :
    f.round n = n := by
  refine round_of_digits (n := n) (k := 0) (by simp) ?_ hemin
  rw [Nat.abs_cast]
  exact_mod_cast hn

/-- The first natural that is not exact is rounded down. -/
theorem round_succ_pow (hp : 2 ≤ f.precision) (hemin : f.emin ≤ 0) :
    f.round ((2 ^ f.precision + 1 : ℕ) : ℚ) = ((2 ^ f.precision : ℕ) : ℚ) := by
  obtain ⟨q, hq⟩ : ∃ q, f.precision = q + 2 := ⟨f.precision - 2, by omega⟩
  have hone : 1 < 2 ^ f.precision := Nat.one_lt_two_pow (by omega)
  have hlog : Nat.log 2 (2 ^ f.precision + 1) = f.precision :=
    Nat.log_eq_of_pow_le_of_lt_pow (Nat.le_succ _) (by rw [pow_succ]; omega)
  have hexp : f.exponent ((2 ^ f.precision + 1 : ℕ) : ℚ) = 1 := by
    rw [exponent, Nat.abs_cast, Int.log_natCast, hlog]
    omega
  -- halfway between two numbers, the lower of which is even
  have hdiv : (((2 ^ f.precision + 1 : ℕ) : ℚ) / 2 ^ (1 : ℤ)) =
      ((2 ^ (q + 1) : ℤ) : ℚ) + 1 / 2 := by
    rw [hq]
    push_cast
    ring
  have hfloor : ⌊((2 ^ (q + 1) : ℤ) : ℚ) + 1 / 2⌋ = 2 ^ (q + 1) := by
    rw [Int.floor_eq_iff]
    constructor <;> linarith
  have heven : (2 : ℤ) ^ (q + 1) % 2 = 0 := by
    rw [pow_succ]
    omega
  have htie : roundHalfEven (((2 ^ (q + 1) : ℤ) : ℚ) + 1 / 2) = 2 ^ (q + 1) := by
    rw [roundHalfEven, hfloor, if_neg (by norm_num), if_neg (by norm_num), if_pos heven]
  rw [round, hexp, hdiv, htie, hq]
  push_cast
  ring

end Format

end BinaryFloat

end Lib
