import Mathlib
import WKPairDriver.Lib.MonotoneChain

/-!
# Polygons in the plane

Points are pairs over an ordered field.  A closed polygon is the list of its vertices, read up to
rotation; the vertices may be of any type `α` with a position `pos : α → K × K`.

* `SimplePolygon` — edges that share a vertex meet there only, and all others not at all.
* `triplewise_simple` — a polygon that turns left at every three of its vertices is simple.
* `turns_lex` — the order by the coordinates and the sign of the cross product are what the scan of
  the monotone chain needs.
-/

set_option autoImplicit false

namespace Lib.Plane

open MonotoneChain

universe u v
variable {K : Type u} [Field K] {α : Type v}

/-! ## Orientation -/

/-- Twice the signed area of a triangle. -/
def cross (a b c : K × K) : K := (b.1 - a.1) * (c.2 - a.2) - (b.2 - a.2) * (c.1 - a.1)

theorem cross_rotate (a b c : K × K) : cross b c a = cross a b c := by
  unfold cross
  ring

@[simp] theorem cross_self_left (a b : K × K) : cross a b a = 0 := by
  unfold cross
  ring

@[simp] theorem cross_self_right (a b : K × K) : cross a b b = 0 := by
  unfold cross
  ring

@[simp] theorem cross_self (a b : K × K) : cross a a b = 0 := by
  unfold cross
  ring

@[simp] theorem cross_neg (a b c : K × K) : cross (-a) (-b) (-c) = cross a b c := by
  simp only [cross, Prod.fst_neg, Prod.snd_neg]
  ring

variable [LinearOrder K]

/-! ## Segments -/

section Segments

variable {a b c d q : K × K}

/-- Along a segment the orientation to two other points changes linearly. -/
theorem cross_of_mem_segment (h : q ∈ segment K c d) :
    ∃ s t : K, 0 ≤ s ∧ 0 ≤ t ∧ s + t = 1 ∧ cross a b q = s * cross a b c + t * cross a b d := by
  obtain ⟨s, t, hs, ht, hst, rfl⟩ := h
  refine ⟨s, t, hs, ht, hst, ?_⟩
  simp only [cross, Prod.fst_add, Prod.snd_add, Prod.smul_fst, Prod.smul_snd, smul_eq_mul]
  linear_combination (b.1 * a.2 - a.1 * b.2) * hst

theorem cross_eq_zero_of_mem_segment (h : q ∈ segment K a b) : cross a b q = 0 := by
  obtain ⟨s, t, -, -, -, hq⟩ := cross_of_mem_segment (a := a) (b := b) h
  rw [hq, cross_self_left, cross_self_right, mul_zero, mul_zero, add_zero]

variable [IsStrictOrderedRing K]

/-- Where a segment meets the line through two points, its ends are not strictly on one side. -/
theorem cross_of_meets (h : q ∈ segment K c d) (hq : cross a b q = 0) :
    ¬(0 < cross a b c ∧ 0 < cross a b d) ∧ ¬(cross a b c < 0 ∧ cross a b d < 0) := by
  obtain ⟨s, t, hs, ht, hst, hcross⟩ := cross_of_mem_segment (a := a) (b := b) h
  rw [hq] at hcross
  constructor
  · rintro ⟨hc, hd⟩
    nlinarith [mul_nonneg hs hc.le, mul_nonneg ht hd.le, min_le_left (cross a b c) (cross a b d),
      min_le_right (cross a b c) (cross a b d), lt_min hc hd]
  · rintro ⟨hc, hd⟩
    nlinarith [mul_nonneg hs (neg_nonneg.2 hc.le), mul_nonneg ht (neg_nonneg.2 hd.le),
      le_max_left (cross a b c) (cross a b d), le_max_right (cross a b c) (cross a b d),
      max_lt hc hd]

theorem disjoint_segment (hc : 0 < cross a b c) (hd : 0 < cross a b d) :
    Disjoint (segment K a b) (segment K c d) := by
  rw [Set.disjoint_left]
  intro q hab hcd
  exact (cross_of_meets hcd (cross_eq_zero_of_mem_segment hab)).1 ⟨hc, hd⟩

/-- Two edges at a vertex meet there only, if neither has the other end of the other on it. -/
theorem segment_inter_segment (hc : c ∉ segment K a b) (ha : a ∉ segment K b c) :
    segment K a b ∩ segment K b c = {b} := by
  apply Set.Subset.antisymm
  · rintro q ⟨⟨s, t, hs, ht, hst, hq⟩, s', t', hs', ht', hst', hq'⟩
    by_contra hne
    have hs0 : s ≠ 0 := by
      rintro rfl
      obtain rfl : t = 1 := by simpa using hst
      exact hne (by simp [← hq])
    have ht0 : t' ≠ 0 := by
      rintro rfl
      obtain rfl : s' = 1 := by simpa using hst'
      exact hne (by simp [← hq'])
    -- both edges leave `b` in the direction of `q`, so the shorter one lies on the other
    have h1 : s * a.1 + t * b.1 = s' * b.1 + t' * c.1 := by
      simpa using congrArg Prod.fst (hq.trans hq'.symm)
    have h2 : s * a.2 + t * b.2 = s' * b.2 + t' * c.2 := by
      simpa using congrArg Prod.snd (hq.trans hq'.symm)
    obtain rfl : t = 1 - s := by linear_combination hst
    obtain rfl : s' = 1 - t' := by linear_combination hst'
    rcases le_total s t' with hle | hle
    · apply hc
      refine ⟨s / t', 1 - s / t', div_nonneg hs ht', ?_, by ring, ?_⟩
      · rw [sub_nonneg]
        exact div_le_one_of_le₀ hle ht'
      · ext
        · simp only [Prod.fst_add, Prod.smul_fst, smul_eq_mul]
          field_simp
          linear_combination h1
        · simp only [Prod.snd_add, Prod.smul_snd, smul_eq_mul]
          field_simp
          linear_combination h2
    · apply ha
      refine ⟨1 - t' / s, t' / s, ?_, div_nonneg ht' hs, by ring, ?_⟩
      · rw [sub_nonneg]
        exact div_le_one_of_le₀ hle hs
      · ext
        · simp only [Prod.fst_add, Prod.smul_fst, smul_eq_mul]
          field_simp
          linear_combination -h1
        · simp only [Prod.snd_add, Prod.smul_snd, smul_eq_mul]
          field_simp
          linear_combination -h2
  · rintro q rfl
    exact ⟨right_mem_segment K a q, left_mem_segment K q c⟩

end Segments

/-! ## Closed polygons -/

section Polygons

variable [IsStrictOrderedRing K] {pos : α → K × K} {poly : List α}

/-- A closed polygon whose edges meet in the vertex they share and nowhere else, apart from pairs of
    edges in `E`. -/
structure SimpleUpTo (pos : α → K × K) (E : α → α → α → α → Prop) (poly : List α) : Prop where
  consecutive : ∀ a b c l, (a :: b :: c :: l) ~r poly →
    segment K (pos a) (pos b) ∩ segment K (pos b) (pos c) = {pos b}
  apart : ∀ a b l c d l', (a :: b :: (l ++ c :: d :: l')) ~r poly →
    Disjoint (segment K (pos a) (pos b)) (segment K (pos c) (pos d)) ∨ E a b c d

abbrev SimplePolygon (pos : α → K × K) (poly : List α) : Prop :=
  SimpleUpTo pos (fun _ _ _ _ => False) poly

omit [IsStrictOrderedRing K] in
/-- The same polygon the other way round. -/
theorem SimpleUpTo.reverse {E : α → α → α → α → Prop} (hE : ∀ a b c d, E d c b a → E a b c d)
    (h : SimpleUpTo pos E poly) : SimpleUpTo pos E poly.reverse where
  consecutive a b c l hl := by
    have hr : (c :: b :: a :: l.reverse) ~r poly := by
      refine List.IsRotated.trans ?_ (List.isRotated_reverse_comm_iff.1 hl.symm).symm
      have : (a :: b :: c :: l).reverse = l.reverse ++ [c, b, a] := by simp
      rw [this]
      show ([c, b, a] ++ l.reverse) ~r (l.reverse ++ [c, b, a])
      exact List.isRotated_append
    rw [Set.inter_comm, segment_symm K (pos b), segment_symm K (pos a)]
    exact h.consecutive c b a _ hr
  apart a b l c d l' hl := by
    have hr : (d :: c :: (l.reverse ++ b :: a :: l'.reverse)) ~r poly := by
      refine List.IsRotated.trans ?_ (List.isRotated_reverse_comm_iff.1 hl.symm).symm
      have : (a :: b :: (l ++ c :: d :: l')).reverse =
          l'.reverse ++ (d :: c :: (l.reverse ++ [b, a])) := by simp
      have hshift : d :: c :: (l.reverse ++ b :: a :: l'.reverse) =
          (d :: c :: (l.reverse ++ [b, a])) ++ l'.reverse := by simp
      rw [this, hshift]
      exact List.isRotated_append
    rcases h.apart d c l.reverse b a l'.reverse hr with hdisj | hexc
    · refine .inl (Disjoint.symm ?_)
      rwa [segment_symm K (pos c), segment_symm K (pos a)]
    · exact .inr (hE a b c d hexc)

/-! ## Convex polygons -/

/-- A left turn. -/
abbrev leftTurn (pos : α → K × K) (a b c : α) : Prop := 0 < cross (pos a) (pos b) (pos c)

omit [IsStrictOrderedRing K] in
theorem triplewise_rotated {l : List α} (hl : l ~r poly) (h : poly.Triplewise (leftTurn pos)) :
    l.Triplewise (leftTurn pos) := by
  have hrotate : ∀ {a b c}, leftTurn pos a b c → leftTurn pos b c a := by
    intro a b c habc
    rwa [leftTurn, cross_rotate]
  obtain ⟨n, hn⟩ := hl.symm
  rw [List.rotate_eq_drop_append_take_mod] at hn
  rw [← List.take_append_drop (n % poly.length) poly] at h
  obtain ⟨h1, h2, h12, h21⟩ := List.triplewise_append.1 h
  rw [← hn, List.triplewise_append]
  refine ⟨h2, h1, fun a ha => (h21 a ha).imp ?_, fun a ha => (h12 a ha).imp ?_⟩
  · exact fun h => hrotate (hrotate h)
  · exact hrotate

omit [IsStrictOrderedRing K] [LinearOrder K] [Field K] in
theorem triplewise_sublist {p : α → α → α → Prop} {l l' : List α} (hsub : l'.Sublist l)
    (h : l.Triplewise p) : l'.Triplewise p := by
  induction hsub with
  | slnil => exact h
  | cons a hsub ih => exact ih (List.triplewise_cons.1 h).2
  | cons_cons a hsub ih =>
    obtain ⟨hhead, htail⟩ := List.triplewise_cons.1 h
    exact List.triplewise_cons.2 ⟨hhead.sublist hsub, ih htail⟩

/-- **A polygon that turns left at every three of its vertices** is simple. -/
theorem triplewise_simple (h : poly.Triplewise (leftTurn pos)) : SimplePolygon pos poly where
  consecutive a b c l hl := by
    have habc : leftTurn pos a b c := by
      have := triplewise_rotated hl h
      rw [List.triplewise_cons, List.pairwise_cons] at this
      exact this.1.1 c List.mem_cons_self
    apply segment_inter_segment
    · intro hc
      exact habc.ne' (cross_eq_zero_of_mem_segment hc)
    · intro ha
      have := cross_eq_zero_of_mem_segment ha
      rw [cross_rotate] at this
      exact habc.ne' this
  apart a b l c d l' hl := by
    have hab := triplewise_rotated hl h
    rw [List.triplewise_cons, List.pairwise_cons] at hab
    have hturn : ∀ e ∈ l ++ c :: d :: l', leftTurn pos a b e := hab.1.1
    exact .inl (disjoint_segment (hturn c (by simp)) (hturn d (by simp)))

/-- Three vertices that are not on a line. -/
theorem triangle_simple {a b c : α} (h : cross (pos a) (pos b) (pos c) ≠ 0) :
    SimplePolygon pos [a, b, c] where
  consecutive a' b' c' l hl := by
    have hlen := hl.perm.length_eq
    have hcross : cross (pos a') (pos b') (pos c') ≠ 0 := by
      obtain ⟨n, hn⟩ := hl.symm
      rw [← List.rotate_mod] at hn
      have hn3 : n % 3 < 3 := Nat.mod_lt _ (by decide)
      have hrot := cross_rotate (pos a) (pos b) (pos c)
      have hrot' := cross_rotate (pos b) (pos c) (pos a)
      simp only [List.length_cons, List.length_nil, Nat.zero_add, Nat.reduceAdd] at hn
      interval_cases n % 3 <;> simp at hn <;> obtain ⟨rfl, rfl, rfl, -⟩ := hn
      · exact h
      · rwa [hrot]
      · rwa [hrot', hrot]
    apply segment_inter_segment
    · intro hc
      exact hcross (cross_eq_zero_of_mem_segment hc)
    · intro ha
      have := cross_eq_zero_of_mem_segment ha
      rw [cross_rotate] at this
      exact hcross this
  apart a' b' l c' d' l' hl := by
    have hlen := hl.perm.length_eq
    simp only [List.length_cons, List.length_append, List.length_nil] at hlen
    omega

end Polygons

/-! ## The order by coordinates -/

section Lex

variable [IsStrictOrderedRing K]

/-- A point before another one: its first coordinate is smaller, or the same and the second one is
    smaller. -/
abbrev lexLt (pos : α → K × K) (a b : α) : Prop := toLex (pos a) < toLex (pos b)

omit [Field K] [IsStrictOrderedRing K] in
theorem lexLt_iff {pos : α → K × K} {a b : α} : lexLt pos a b ↔
    (pos a).1 < (pos b).1 ∨ (pos a).1 = (pos b).1 ∧ (pos a).2 < (pos b).2 :=
  Prod.Lex.toLex_lt_toLex

/-- Two left turns of steps that go up in the order. -/
theorem cross_extend {u v w : K × K} (hu : 0 < u.1 ∨ u.1 = 0 ∧ 0 < u.2)
    (hv : 0 < v.1 ∨ v.1 = 0 ∧ 0 < v.2) (hw : 0 < w.1 ∨ w.1 = 0 ∧ 0 < w.2)
    (huv : 0 < u.1 * v.2 - u.2 * v.1) (hvw : 0 < v.1 * w.2 - v.2 * w.1) :
    0 < u.1 * w.2 - u.2 * w.1 := by
  have hw0 : 0 ≤ w.1 := hw.elim le_of_lt fun h => h.1.ge
  have hv1 : 0 < v.1 := by
    rcases hv with hv | ⟨hv, hv'⟩
    · exact hv
    · -- a step straight up is the last that can turn left
      exfalso
      rw [hv] at hvw
      nlinarith [mul_nonneg hv'.le hw0]
  have hu1 : 0 < u.1 := by
    rcases hu with hu | ⟨hu, hu'⟩
    · exact hu
    · exfalso
      rw [hu] at huv
      nlinarith [mul_nonneg hu'.le hv1.le]
  have hsum : 0 < v.1 * (u.1 * w.2 - u.2 * w.1) := by
    have : v.1 * (u.1 * w.2 - u.2 * w.1) =
        w.1 * (u.1 * v.2 - u.2 * v.1) + u.1 * (v.1 * w.2 - v.2 * w.1) := by ring
    rw [this]
    exact add_pos_of_nonneg_of_pos (mul_nonneg hw0 huv.le) (mul_pos hu1 hvw)
  exact (pos_iff_pos_of_mul_pos hsum).1 hv1

/-- A point above a way that turns left is above each of its steps. -/
theorem cross_above {p q a b x : K × K} (hpx : p.1 < x.1 ∨ p.1 = x.1 ∧ p.2 < x.2)
    (hxq : x.1 < q.1 ∨ x.1 = q.1 ∧ x.2 < q.2) (hx : 0 < cross p q x)
    (hab : a.1 < b.1 ∨ a.1 = b.1 ∧ a.2 < b.2) (hp : 0 ≤ cross a b p) (hq : 0 ≤ cross a b q)
    (hbq : b.1 ≤ q.1) : 0 < cross a b x := by
  have hpx1 : p.1 ≤ x.1 := hpx.elim le_of_lt fun h => h.1.le
  have hxq1 : x.1 ≤ q.1 := hxq.elim le_of_lt fun h => h.1.le
  have hpq : p.1 < q.1 := by
    by_contra hge
    have h1 : p.1 = x.1 := by linarith
    have h2 : x.1 = q.1 := by linarith
    simp only [cross, h1, h2] at hx
    simp at hx
  have hsum : (q.1 - p.1) * cross a b x = (q.1 - x.1) * cross a b p +
      (x.1 - p.1) * cross a b q + (b.1 - a.1) * cross p q x := by
    unfold cross
    ring
  have hterms : 0 ≤ (q.1 - x.1) * cross a b p + (x.1 - p.1) * cross a b q :=
    add_nonneg (mul_nonneg (by linarith) hp) (mul_nonneg (by linarith) hq)
  rcases hab with hab | ⟨hab, hab'⟩
  · have hpos : 0 < (q.1 - p.1) * cross a b x := by
      rw [hsum]
      exact add_pos_of_nonneg_of_pos hterms (mul_pos (by linarith) hx)
    exact (pos_iff_pos_of_mul_pos hpos).1 (by linarith)
  · -- a step straight up is at the far end, and the point is before that
    have hcross : ∀ y : K × K, cross a b y = (b.2 - a.2) * (a.1 - y.1) := by
      intro y
      simp only [cross, hab]
      ring
    rw [hcross] at hq ⊢
    have haq : a.1 = q.1 := by
      have := nonneg_of_mul_nonneg_right hq (by linarith)
      linarith
    rcases hxq with hxq | ⟨hxq, hxq'⟩
    · exact mul_pos (by linarith) (by linarith)
    · exfalso
      have : cross p q x = (q.1 - p.1) * (x.2 - q.2) := by
        simp only [cross, hxq]
        ring
      rw [this] at hx
      nlinarith

theorem turns_lex (pos : α → K × K) : Turns (lexLt pos) (leftTurn pos) where
  trans := lt_trans
  irrefl h := by
    rw [leftTurn, cross_self] at h
    exact lt_irrefl _ h
  rotate h := by rwa [leftTurn, cross_rotate]
  extend {a b c d} hab hbc hcd habc hbcd := by
    rw [lexLt_iff] at hab hbc hcd
    have hturn := cross_extend (u := pos b - pos a) (v := pos c - pos b) (w := pos d - pos c)
      (by simpa [sub_eq_zero, eq_comm] using hab) (by simpa [sub_eq_zero, eq_comm] using hbc)
      (by simpa [sub_eq_zero, eq_comm] using hcd)
      (by simp only [leftTurn, cross] at habc; simp only [Prod.fst_sub, Prod.snd_sub]; linarith)
      (by simp only [leftTurn, cross] at hbcd; simp only [Prod.fst_sub, Prod.snd_sub]; linarith)
    simp only [leftTurn, cross, Prod.fst_sub, Prod.snd_sub] at habc hbcd hturn ⊢
    constructor <;> linarith
  above {p q a b u} hpu huq hu hab ha hb := by
    rw [lexLt_iff] at hpu huq hab
    refine cross_above hpu huq hu hab ?_ ?_ ?_
    · rcases ha with rfl | ha
      · simp
      · rw [cross_rotate]
        exact ha.le
    · rcases hb with rfl | hb
      · simp
      · exact hb.2.le
    · rcases hb with rfl | hb
      · exact le_rfl
      · rw [lexLt_iff] at hb
        exact hb.1.elim le_of_lt fun h => h.1.le

/-- Turned by half a turn the plane has the same left turns, and the order is reversed. -/
theorem turns_lex_swap (pos : α → K × K) :
    Turns (fun a b => lexLt pos b a) (leftTurn pos) := by
  have h := turns_lex fun a => -pos a
  have hlt : (lexLt fun a => -pos a) = fun a b => lexLt pos b a := by
    funext a b
    simp only [eq_iff_iff, lexLt_iff, Prod.fst_neg, Prod.snd_neg, neg_lt_neg_iff, neg_inj]
    constructor <;> rintro (h | ⟨h, h'⟩)
    all_goals first | exact .inl h | exact .inr ⟨h.symm, h'⟩
  have hturn : (leftTurn fun a => -pos a) = leftTurn pos := by
    funext a b c
    simp only [leftTurn, cross_neg]
  rwa [hlt, hturn] at h

/-- **The hull of points in order** turns left everywhere. -/
theorem hull_leftTurn {pos : α → K × K} {points : List α} (hsorted : points.Pairwise (lexLt pos))
    (hlen : 3 < points.length) : (hull (leftTurn pos) points).Triplewise (leftTurn pos) :=
  hull_triplewise (turns_lex pos) (turns_lex_swap pos) hsorted hlen

end Lex

end Lib.Plane
