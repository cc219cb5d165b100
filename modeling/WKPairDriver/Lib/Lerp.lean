import Mathlib

/-!
# Linear interpolation

`lerp a b t` is the point a fraction `t` of the way from `a` to `b`, over any ordered field.

* `Spanned.lerp` — what lies between values of a list stays between them when interpolated.
* `lerp_iterate` — the exponential average of a constant input, in closed form.
* `exists_iterate_lt` — it falls below any bound the input is below.
-/

set_option autoImplicit false

namespace Lib

universe u

section Spanned

variable {K : Type u} [LE K]

/-- `x` lies between two values of the list. -/
def Spanned (vs : List K) (x : K) : Prop := (∃ lo ∈ vs, lo ≤ x) ∧ ∃ hi ∈ vs, x ≤ hi

theorem Spanned.mono {vs ws : List K} {x : K} (h : Spanned vs x) (hsub : vs ⊆ ws) :
    Spanned ws x :=
  ⟨h.1.imp fun _ h => ⟨hsub h.1, h.2⟩, h.2.imp fun _ h => ⟨hsub h.1, h.2⟩⟩

end Spanned

theorem Spanned.of_mem {K : Type u} [Preorder K] {vs : List K} {x : K} (h : x ∈ vs) :
    Spanned vs x :=
  ⟨⟨x, h, le_rfl⟩, ⟨x, h, le_rfl⟩⟩

section Field

variable {K : Type u} [Field K]

def lerp (a b t : K) : K := a + t * (b - a)

theorem lerp_eq (a b t : K) : lerp a b t = (1 - t) * a + t * b := by
  rw [lerp]
  ring

/-- A constant input, averaged `n` times. -/
theorem lerp_iterate (a b t : K) (n : ℕ) :
    (fun x => lerp x b t)^[n] a = b + (1 - t) ^ n * (a - b) := by
  induction n with
  | zero => simp
  | succ n ih =>
    rw [Function.iterate_succ_apply', ih, lerp]
    ring

end Field

variable {K : Type u} [Field K] [LinearOrder K] [IsStrictOrderedRing K]

/-- A lower bound of both ends bounds what is between them. -/
theorem le_lerp {a b t lo : K} (ht : 0 ≤ t) (ht' : t ≤ 1) (ha : lo ≤ a) (hb : lo ≤ b) :
    lo ≤ lerp a b t := by
  rw [lerp_eq]
  have h1 := mul_le_mul_of_nonneg_left ha (sub_nonneg.2 ht')
  have h2 := mul_le_mul_of_nonneg_left hb ht
  linarith

theorem lerp_le {a b t hi : K} (ht : 0 ≤ t) (ht' : t ≤ 1) (ha : a ≤ hi) (hb : b ≤ hi) :
    lerp a b t ≤ hi := by
  rw [lerp_eq]
  have h1 := mul_le_mul_of_nonneg_left ha (sub_nonneg.2 ht')
  have h2 := mul_le_mul_of_nonneg_left hb ht
  linarith

/-- Two values of a list have a lower and an upper one among them. -/
theorem Spanned.lerp {vs : List K} {a b t : K} (ha : Spanned vs a) (hb : Spanned vs b)
    (ht : 0 ≤ t) (ht' : t ≤ 1) : Spanned vs (lerp a b t) := by
  obtain ⟨⟨la, hla, hale⟩, ua, hua, haue⟩ := ha
  obtain ⟨⟨lb, hlb, hble⟩, ub, hub, hbue⟩ := hb
  constructor
  · rcases le_total la lb with h | h
    · exact ⟨la, hla, le_lerp ht ht' hale (h.trans hble)⟩
    · exact ⟨lb, hlb, le_lerp ht ht' (h.trans hale) hble⟩
  · rcases le_total ua ub with h | h
    · exact ⟨ub, hub, lerp_le ht ht' (haue.trans h) hbue⟩
    · exact ⟨ua, hua, lerp_le ht ht' haue (hbue.trans h)⟩

/-- **The average of a constant input falls below every bound that the input is below.** -/
theorem exists_iterate_lt [Archimedean K] {b t lo : K} (ht : 0 < t) (hb : b < lo) (a : K) :
    ∃ n, (fun x => lerp x b t)^[n] a < lo := by
  rcases le_or_gt a b with hab | hab
  · exact ⟨0, hab.trans_lt hb⟩
  · have hpos : 0 < a - b := sub_pos.2 hab
    obtain ⟨n, hn⟩ := exists_pow_lt_of_lt_one (div_pos (sub_pos.2 hb) hpos)
      (by linarith : 1 - t < 1)
    refine ⟨n, ?_⟩
    rw [lt_div_iff₀ hpos] at hn
    rw [lerp_iterate]
    linarith

end Lib
