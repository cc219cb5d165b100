import Mathlib
import WKPairDriver.Boundary.BoundaryCapture
import WKPairDriver.Lib.Run

/-!
# The painted boundary is a simple polygon

The test for a self-intersection compares cross products, which are areas, and coordinates with the
same tolerance of `1e-9`.  Edges that meet and pass it are collinear up to the tolerance and have no
end in the box of the other; apart from those the polygon is simple, and after the hull it is simple
without exception.

* `simpleUpTo_of_hasSelfIntersectionXZ` — what the test leaves.
* `ConvexHullXZ_triplewise` — the hull turns left everywhere, and so does what the passes keep of it.
* `captured_boundary` — over every run of a session.
* `grazingLoop_crosses` — a loop with two edges that cross unnoticed.
-/

set_option autoImplicit false

namespace WKPairDriver.Boundary.Capture

open Lib Lib.Plane

variable {K : Type} [Field K] [LinearOrder K]

/-! ## The law -/

/-- The edges `a b` and `c d` are collinear up to the tolerance of the orientation, and no end of
    one is in the box of the other. -/
structure Grazing (a b c d : BoundaryVertex K) : Prop where
  collinear : (OrientationXZ a b c = 0 ∧ OrientationXZ a b d = 0) ∨
    (OrientationXZ c d a = 0 ∧ OrientationXZ c d b = 0)
  outside : (OnSegmentXZ a b c = false ∧ OnSegmentXZ a b d = false) ∧
    OnSegmentXZ c d a = false ∧ OnSegmentXZ c d b = false

/-- A simple polygon of captured vertices with a positive area that is not too small; edges in `E`
    may meet. -/
structure IsBoundary (E : BoundaryVertex K → BoundaryVertex K → BoundaryVertex K →
    BoundaryVertex K → Prop) (raw poly : List (BoundaryVertex K)) : Prop where
  captured : poly ⊆ raw
  area : 0.05 ≤ SignedAreaXZ poly
  simple : SimpleUpTo BoundaryVertex.xz E poly

/-- What a finished session has. -/
def Painted (E : BoundaryVertex K → BoundaryVertex K → BoundaryVertex K → BoundaryVertex K → Prop)
    (s : CaptureSession K) : Prop :=
  s.m_state = .Finished → 3 ≤ s.vertices.length → IsBoundary E s.m_raw s.vertices

/-! ## What the passes keep -/

theorem popBack_suffix (minSize : ℕ) (distSq : K) (front : BoundaryVertex K) :
    ∀ l, popBack minSize distSq front l <:+ l
  | [] => List.suffix_rfl
  | back :: rest => by
    unfold popBack
    split_ifs
    · exact (popBack_suffix minSize distSq front rest).trans (List.suffix_cons _ _)
    · exact List.suffix_rfl

theorem popClosing_sublist (minSize : ℕ) (distSq : K) (l : List (BoundaryVertex K)) :
    (popClosing minSize distSq l).Sublist l := by
  cases l with
  | nil => exact List.Sublist.refl _
  | cons front rest =>
    have h := (popBack_suffix minSize distSq front rest.reverse).sublist.reverse
    rw [List.reverse_reverse] at h
    exact h.cons_cons front

theorem RemoveNearDuplicates_sublist (raw : List (BoundaryVertex K)) (d : K) :
    (RemoveNearDuplicates raw d).Sublist raw := List.destutter_sublist _ _

theorem RemoveClosedShortEdges_sublist (raw : List (BoundaryVertex K)) (d : K) :
    (RemoveClosedShortEdges raw d).Sublist raw :=
  (popClosing_sublist _ _ _).trans (RemoveNearDuplicates_sublist _ _)

theorem removeCollinear_sublist (toleranceSq : K) : ∀ (fuel : ℕ) (out : List (BoundaryVertex K)),
    (removeCollinear toleranceSq fuel out).Sublist out
  | 0, _ => List.Sublist.refl _
  | fuel + 1, out => by
    unfold removeCollinear
    split_ifs
    · split
      · exact (removeCollinear_sublist toleranceSq fuel _).trans (List.eraseIdx_sublist _ _)
      · exact List.Sublist.refl _
    · exact List.Sublist.refl _

theorem RemoveClosedCollinearVertices_sublist (raw : List (BoundaryVertex K)) (d : K) :
    (RemoveClosedCollinearVertices raw d).Sublist raw := removeCollinear_sublist _ _ _

theorem TrimToNearestClosure_sublist (raw : List (BoundaryVertex K)) (d : K) :
    (TrimToNearestClosure raw d).Sublist raw := by
  unfold TrimToNearestClosure
  split_ifs
  · exact List.Sublist.refl _
  · split
    · exact List.Sublist.refl _
    · split
      · exact List.Sublist.refl _
      · exact List.drop_sublist _ _

theorem mem_SimplifyDouglasPeucker {path : List (BoundaryVertex K)} {d : K} {i : ℕ}
    (h : i ∈ SimplifyDouglasPeucker path d) : i < path.length := by
  unfold SimplifyDouglasPeucker at h
  dsimp only at h
  split_ifs at h
  · exact List.mem_range.1 h
  · exact List.mem_range.1 (List.mem_of_mem_filter h)

omit [LinearOrder K] in
theorem vertexAt_mem {poly : List (BoundaryVertex K)} {i : ℕ} (h : i < poly.length) :
    vertexAt poly i ∈ poly := by
  rw [vertexAt, List.getD_eq_getElem _ _ h]
  exact List.getElem_mem h

theorem simplifyLoop_subset (path : List (BoundaryVertex K)) (debounce close simplify : K) :
    simplifyLoop path debounce close simplify ⊆ path := by
  have hkept : (SimplifyDouglasPeucker path simplify).map (vertexAt path) ⊆ path := by
    intro v hv
    obtain ⟨i, hi, rfl⟩ := List.mem_map.1 hv
    exact vertexAt_mem (mem_SimplifyDouglasPeucker hi)
  refine List.Subset.trans ((RemoveClosedCollinearVertices_sublist _ _).subset) ?_
  refine List.Subset.trans ?_ hkept
  refine List.Subset.trans ?_ (RemoveClosedShortEdges_sublist _ debounce).subset
  split
  · split_ifs
    · exact List.dropLast_subset _
    · exact List.Subset.refl _
  · exact List.Subset.refl _

theorem sortedUnique_subset (points : List (BoundaryVertex K)) : sortedUnique points ⊆ points := by
  intro v hv
  exact List.mem_mergeSort.1 ((List.destutter_sublist _ _).subset hv)

/-! ## The test for a self-intersection -/

variable {a b c d : BoundaryVertex K}

omit [LinearOrder K] in
theorem CrossXZ_eq (a b c : BoundaryVertex K) : CrossXZ a b c = cross a.xz b.xz c.xz := rfl

theorem OrientationXZ_eq_zero : OrientationXZ a b c = 0 ↔ |CrossXZ a b c| ≤ 1e-9 := by
  unfold OrientationXZ
  dsimp only
  split_ifs with hsmall <;> simp [hsmall]

/-- The orientation of a vertex that is not close to the line is on which side of it it is. -/
theorem OrientationXZ_eq_one (h : OrientationXZ a b c = 1) : 0 < CrossXZ a b c := by
  unfold OrientationXZ at h
  dsimp only at h
  split_ifs at h with hsmall hpos
  · exact absurd h (by decide)
  · exact hpos

theorem OrientationXZ_cases (a b c : BoundaryVertex K) :
    OrientationXZ a b c = 0 ∨ OrientationXZ a b c = 1 ∨ OrientationXZ a b c = -1 := by
  unfold OrientationXZ
  dsimp only
  split_ifs <;> simp

variable [IsStrictOrderedRing K]

theorem OrientationXZ_eq_neg_one (h : OrientationXZ a b c = -1) : CrossXZ a b c < 0 := by
  unfold OrientationXZ at h
  dsimp only at h
  split_ifs at h with hsmall hpos
  · refine lt_of_le_of_ne (not_lt.1 hpos) fun hzero => hsmall ?_
    rw [hzero, abs_zero]
    norm_num

/-- A convex combination is between the smaller and the larger number. -/
theorem combination_bounds {s t x y : K} (hs : 0 ≤ s) (ht : 0 ≤ t) (hst : s + t = 1) :
    min x y ≤ s * x + t * y ∧ s * x + t * y ≤ max x y := by
  constructor
  · calc min x y = s * min x y + t * min x y := by rw [← add_mul, hst, one_mul]
      _ ≤ s * x + t * y := add_le_add (mul_le_mul_of_nonneg_left (min_le_left x y) hs)
          (mul_le_mul_of_nonneg_left (min_le_right x y) ht)
  · calc s * x + t * y ≤ s * max x y + t * max x y :=
          add_le_add (mul_le_mul_of_nonneg_left (le_max_left x y) hs)
            (mul_le_mul_of_nonneg_left (le_max_right x y) ht)
      _ = max x y := by rw [← add_mul, hst, one_mul]

/-- What is on the segment passes the test. -/
theorem OnSegmentXZ_of_mem {p : BoundaryVertex K} (h : p.xz ∈ segment K a.xz b.xz) :
    OnSegmentXZ a b p = true := by
  have hcross : CrossXZ a b p = 0 := cross_eq_zero_of_mem_segment h
  have horient : OrientationXZ a b p = 0 := by
    rw [OrientationXZ_eq_zero, hcross, abs_zero]
    norm_num
  obtain ⟨s, t, hs, ht, hst, hp⟩ := h
  have hx : s * a.x + t * b.x = p.x := congrArg Prod.fst hp
  have hz : s * a.z + t * b.z = p.z := congrArg Prod.snd hp
  have hbx := combination_bounds (x := a.x) (y := b.x) hs ht hst
  have hbz := combination_bounds (x := a.z) (y := b.z) hs ht hst
  rw [hx] at hbx
  rw [hz] at hbz
  have htol : (0 : K) ≤ 1e-9 := by norm_num
  simp only [OnSegmentXZ, horient, beq_self_eq_true, Bool.true_and, Bool.and_eq_true,
    decide_eq_true_eq, ge_iff_le]
  exact ⟨⟨⟨by linarith [hbx.1], by linarith [hbx.2]⟩, by linarith [hbz.1]⟩, by linarith [hbz.2]⟩

omit [IsStrictOrderedRing K] in
theorem OnSegmentXZ_orientation {p : BoundaryVertex K} (h : OnSegmentXZ a b p = true) :
    OrientationXZ a b p = 0 := by
  unfold OnSegmentXZ at h
  rw [Bool.and_eq_true] at h
  exact beq_iff_eq.1 h.1

omit [IsStrictOrderedRing K] in
/-- What it means that the test finds no intersection. -/
theorem SegmentsIntersectXZ_eq_false : SegmentsIntersectXZ a b c d = false ↔
    (OrientationXZ a b c = OrientationXZ a b d ∨ OrientationXZ c d a = OrientationXZ c d b) ∧
      (OnSegmentXZ a b c = false ∧ OnSegmentXZ a b d = false) ∧
        OnSegmentXZ c d a = false ∧ OnSegmentXZ c d b = false := by
  have hguard : ∀ {a b p : BoundaryVertex K},
      (OrientationXZ a b p == 0 && OnSegmentXZ a b p) = OnSegmentXZ a b p := by
    intro a b p
    cases hon : OnSegmentXZ a b p with
    | false => exact Bool.and_false _
    | true => simp [OnSegmentXZ_orientation hon]
  simp only [SegmentsIntersectXZ, hguard, Bool.or_eq_false_iff, Bool.and_eq_false_iff,
    bne_eq_false_iff_eq, and_assoc]

omit [IsStrictOrderedRing K] in
theorem SegmentsIntersectXZ_comm :
    SegmentsIntersectXZ a b c d = false ↔ SegmentsIntersectXZ c d a b = false := by
  rw [SegmentsIntersectXZ_eq_false, SegmentsIntersectXZ_eq_false, or_comm, and_comm (a := _ ∧ _)]

/-- The ends of a segment that meets a line have the same orientation only if it is 0. -/
theorem orientation_eq_zero_of_meets {q : K × K} (hcd : q ∈ segment K c.xz d.xz)
    (hab : cross a.xz b.xz q = 0) (h : OrientationXZ a b c = OrientationXZ a b d) :
    OrientationXZ a b c = 0 ∧ OrientationXZ a b d = 0 := by
  have hsides := cross_of_meets hcd hab
  rcases OrientationXZ_cases a b c with hc | hc | hc
  · exact ⟨hc, h ▸ hc⟩
  · exact absurd ⟨OrientationXZ_eq_one hc, OrientationXZ_eq_one (h ▸ hc)⟩ hsides.1
  · exact absurd ⟨OrientationXZ_eq_neg_one hc, OrientationXZ_eq_neg_one (h ▸ hc)⟩ hsides.2

/-- **Segments that meet unnoticed** graze each other. -/
theorem disjoint_or_grazing (h : SegmentsIntersectXZ a b c d = false) :
    Disjoint (segment K a.xz b.xz) (segment K c.xz d.xz) ∨ Grazing a b c d := by
  obtain ⟨horient, houtside⟩ := SegmentsIntersectXZ_eq_false.1 h
  by_cases hdisj : Disjoint (segment K a.xz b.xz) (segment K c.xz d.xz)
  · exact .inl hdisj
  · obtain ⟨q, hab, hcd⟩ := Set.not_disjoint_iff.1 hdisj
    refine .inr ⟨?_, houtside⟩
    rcases horient with horient | horient
    · exact .inl (orientation_eq_zero_of_meets hcd (cross_eq_zero_of_mem_segment hab) horient)
    · exact .inr (orientation_eq_zero_of_meets hab (cross_eq_zero_of_mem_segment hcd) horient)

/-! ## All pairs of edges -/

/-- Positions less than `n` apart are different modulo `n`. -/
theorem add_mod_ne {n m k : ℕ} (hpos : 0 < m) (hlt : m < n) : (m + k) % n ≠ k % n := by
  intro h
  have hmod : m + k ≡ 0 + k [MOD n] := by rw [Nat.ModEq, h, Nat.zero_add]
  have hdvd := (Nat.modEq_zero_iff_dvd.1 (Nat.ModEq.add_right_cancel' k hmod))
  exact absurd (Nat.le_of_dvd hpos hdvd) (by omega)

omit [IsStrictOrderedRing K] in
theorem SegmentsIntersectXZ_of_indices {poly : List (BoundaryVertex K)}
    (h : HasSelfIntersectionXZ poly = false) {i j : ℕ} (hlen : 4 ≤ poly.length) (hij : i < j)
    (hj : j < poly.length) (hnext : (i + 1) % poly.length ≠ j)
    (hprev : (j + 1) % poly.length ≠ i) :
    SegmentsIntersectXZ (vertexAt poly i) (vertexAt poly ((i + 1) % poly.length))
      (vertexAt poly j) (vertexAt poly ((j + 1) % poly.length)) = false := by
  unfold HasSelfIntersectionXZ at h
  dsimp only at h
  rw [if_neg (by omega), List.any_eq_false] at h
  have hi := h i (List.mem_range.2 (by omega))
  rw [Bool.not_eq_true, List.any_eq_false] at hi
  have hpair := hi j (List.mem_range.2 hj)
  have hskip : (i == j || (i + 1) % poly.length == j || (j + 1) % poly.length == i) = false := by
    simp [hij.ne, hnext, hprev]
  have hclosing : (i == 0 && (j + 1) % poly.length == 0) = false := by
    by_cases hzero : i = 0
    · subst hzero
      simp [hprev]
    · simp [hzero]
  rw [hskip, hclosing, decide_eq_true hij] at hpair
  simpa using hpair

omit [IsStrictOrderedRing K] in
/-- All edges that do not share a vertex are tested. -/
theorem SegmentsIntersectXZ_of_edges {poly l l' : List (BoundaryVertex K)}
    (h : HasSelfIntersectionXZ poly = false) (hrot : (a :: b :: (l ++ c :: d :: l')) ~r poly) :
    SegmentsIntersectXZ a b c d = false := by
  obtain ⟨k, hk⟩ := hrot.symm
  have hlen : poly.length = l.length + l'.length + 4 := by
    rw [← hrot.perm.length_eq]
    simp only [List.length_cons, List.length_append]
    omega
  have hn : 0 < poly.length := by omega
  have hat : ∀ m (hm : m < poly.length), vertexAt poly ((m + k) % poly.length) =
      vertexAt (a :: b :: (l ++ c :: d :: l')) m := by
    intro m hm
    have hm' : m < (poly.rotate k).length := by rwa [List.length_rotate]
    rw [← hk, vertexAt, vertexAt, List.getD_eq_getElem _ _ (Nat.mod_lt _ hn),
      List.getD_eq_getElem _ _ hm', List.getElem_rotate]
  have ha : vertexAt poly (k % poly.length) = a := by
    have := hat 0 hn
    rwa [Nat.zero_add] at this
  have hb : vertexAt poly ((k % poly.length + 1) % poly.length) = b := by
    rw [Nat.mod_add_mod, Nat.add_comm]
    exact hat 1 (by omega)
  have hc : vertexAt poly ((l.length + 2 + k) % poly.length) = c := by
    rw [hat _ (by omega)]
    simp [vertexAt]
  have hd : vertexAt poly (((l.length + 2 + k) % poly.length + 1) % poly.length) = d := by
    have := hat (l.length + 3) (by omega)
    rw [Nat.mod_add_mod, show l.length + 2 + k + 1 = l.length + 3 + k by omega, this]
    have hdrop : l.length + 3 = (l.length + 1) + 1 + 1 := by omega
    rw [vertexAt, hdrop, List.getD_cons_succ, List.getD_cons_succ, List.getD_append_right _ _ _ _
      (by omega)]
    simp
  have hij : (l.length + 2 + k) % poly.length ≠ k % poly.length := add_mod_ne (by omega) (by omega)
  have hnext : (k % poly.length + 1) % poly.length ≠ (l.length + 2 + k) % poly.length := by
    have := add_mod_ne (n := poly.length) (m := l.length + 1) (k := 1 + k) (by omega) (by omega)
    rw [show l.length + 1 + (1 + k) = l.length + 2 + k by omega] at this
    rw [Nat.mod_add_mod, Nat.add_comm]
    exact this.symm
  have hprev : ((l.length + 2 + k) % poly.length + 1) % poly.length ≠ k % poly.length := by
    have := add_mod_ne (n := poly.length) (m := l.length + 3) (k := k) (by omega) (by omega)
    rwa [Nat.mod_add_mod, show l.length + 2 + k + 1 = l.length + 3 + k by omega]
  rcases Nat.lt_or_gt_of_ne hij with hlt | hlt
  · have := SegmentsIntersectXZ_of_indices h (by omega) hlt (Nat.mod_lt _ hn) hprev hnext
    rw [ha, hb, hc, hd] at this
    exact SegmentsIntersectXZ_comm.1 this
  · have := SegmentsIntersectXZ_of_indices h (by omega) hlt (Nat.mod_lt _ hn) hnext hprev
    rwa [ha, hb, hc, hd] at this

/-- **A loop that passes the test** is simple up to edges that graze each other. -/
theorem simpleUpTo_of_hasSelfIntersectionXZ {poly : List (BoundaryVertex K)}
    (h : HasSelfIntersectionXZ poly = false) (hlen : 4 ≤ poly.length) :
    SimpleUpTo BoundaryVertex.xz Grazing poly where
  consecutive a b c l hl := by
    have hlen' := hl.perm.length_eq
    obtain ⟨d, l', rfl⟩ := List.exists_cons_of_ne_nil (l := l) (by rintro rfl; simp at hlen'; omega)
    apply segment_inter_segment
    · -- the edge behind `c` would meet the one in front of `b`
      intro hc
      have hfalse := SegmentsIntersectXZ_of_edges (l := []) h hl
      have hon := (SegmentsIntersectXZ_eq_false.1 hfalse).2.1.1
      rw [OnSegmentXZ_of_mem hc] at hon
      cases hon
    · -- the edge in front of `a` would meet the one behind `b`
      intro ha
      obtain ⟨m, z, hz⟩ :=
        (List.eq_nil_or_concat' (d :: l')).resolve_left (List.cons_ne_nil _ _)
      rw [hz] at hl
      have hshift : (z :: a :: ([] ++ b :: c :: m)) ~r poly := by
        refine List.IsRotated.trans ?_ hl
        exact @List.isRotated_append _ [z] (a :: b :: c :: m)
      have hfalse := SegmentsIntersectXZ_of_edges h hshift
      have hon := (SegmentsIntersectXZ_eq_false.1 hfalse).2.2.2
      rw [OnSegmentXZ_of_mem ha] at hon
      cases hon
  apart a b l c d l' hl := disjoint_or_grazing (SegmentsIntersectXZ_of_edges h hl)

/-! ## The hull -/

theorem lexLt_of_lessXZ {v w : BoundaryVertex K} (hle : (!lessXZ w v) = true)
    (hne : ¬SameXZ v w = true) : lexLt BoundaryVertex.xz v w := by
  rw [lexLt_iff]
  show v.x < w.x ∨ v.x = w.x ∧ v.z < w.z
  unfold lessXZ at hle
  by_cases hx : v.x = w.x
  · by_cases hz : v.z = w.z
    · refine absurd ?_ hne
      have htol : (0 : K) ≤ 1e-6 := by norm_num
      simp [SameXZ, hx, hz, htol]
    · have hz' : ¬w.z = v.z := fun h => hz h.symm
      simp only [hx, ne_eq, not_true_eq_false, if_false, hz', not_false_eq_true, if_true,
        Bool.not_eq_true', decide_eq_false_iff_not, not_lt] at hle
      exact .inr ⟨hx, lt_of_le_of_ne hle hz⟩
  · have hx' : ¬w.x = v.x := fun h => hx h.symm
    simp only [ne_eq, hx', not_false_eq_true, if_true, Bool.not_eq_true',
      decide_eq_false_iff_not, not_lt] at hle
    exact .inl (lt_of_le_of_ne hle hx)

omit [Field K] [IsStrictOrderedRing K] in
/-- The sort's comparison is a linear preorder. -/
theorem lessXZ_trans (u v w : BoundaryVertex K) (huv : (!lessXZ v u) = true)
    (hvw : (!lessXZ w v) = true) : (!lessXZ w u) = true := by
  have hiff : ∀ a b : BoundaryVertex K, (!lessXZ b a) = true ↔
      a.x < b.x ∨ a.x = b.x ∧ (a.z < b.z ∨ a.z = b.z ∧ a.y ≤ b.y) := by
    intro a b
    unfold lessXZ
    split_ifs with hx hz
    · simp only [Bool.not_eq_true', decide_eq_false_iff_not, not_lt]
      constructor
      · exact fun h => .inl (lt_of_le_of_ne h (Ne.symm hx))
      · rintro (h | h)
        · exact h.le
        · exact absurd h.1.symm hx
    · rw [ne_eq, not_not] at hx
      simp only [Bool.not_eq_true', decide_eq_false_iff_not, not_lt, hx, lt_irrefl, false_or,
        true_and]
      constructor
      · exact fun h => .inl (lt_of_le_of_ne h (Ne.symm hz))
      · rintro (h | h)
        · exact h.le
        · exact absurd h.1.symm hz
    · rw [ne_eq, not_not] at hx hz
      simp [hx, hz]
  rw [hiff] at huv hvw ⊢
  rcases huv with huv | ⟨hx, huv⟩
  · rcases hvw with hvw | ⟨hx', -⟩
    · exact .inl (huv.trans hvw)
    · exact .inl (hx' ▸ huv)
  · rcases hvw with hvw | ⟨hx', hvw⟩
    · exact .inl (hx ▸ hvw)
    · refine .inr ⟨hx.trans hx', ?_⟩
      rcases huv with huv | ⟨hz, huv⟩
      · rcases hvw with hvw | ⟨hz', -⟩
        · exact .inl (huv.trans hvw)
        · exact .inl (hz' ▸ huv)
      · rcases hvw with hvw | ⟨hz', hvw⟩
        · exact .inl (hz ▸ hvw)
        · exact .inr ⟨hz.trans hz', huv.trans hvw⟩

omit [Field K] [IsStrictOrderedRing K] in
theorem lessXZ_total (v w : BoundaryVertex K) : (!lessXZ w v || !lessXZ v w) = true := by
  unfold lessXZ
  by_cases hx : v.x = w.x
  · by_cases hz : v.z = w.z
    · simpa [hx, hz] using le_total v.y w.y
    · have hz' : ¬w.z = v.z := fun h => hz h.symm
      simpa [hx, hz, hz'] using le_total v.z w.z
  · have hx' : ¬w.x = v.x := fun h => hx h.symm
    simpa [hx, hx'] using le_total v.x w.x

theorem sortedUnique_sorted (points : List (BoundaryVertex K)) :
    (sortedUnique points).Pairwise (lexLt BoundaryVertex.xz) := by
  have hsorted := List.pairwise_mergeSort lessXZ_trans lessXZ_total points
  have hkept := hsorted.sublist
    (List.destutter_sublist (fun a b => ¬SameXZ a b) (points.mergeSort fun a b => !lessXZ b a))
  have hchain := List.isChain_destutter (R := fun a b => ¬SameXZ a b)
    (points.mergeSort fun a b => !lessXZ b a)
  rw [← List.isChain_iff_pairwise]
  rw [List.isChain_iff_forall_rel_of_append_cons_cons] at hchain ⊢
  intro a b l l' hl
  have hle := List.isChain_iff_forall_rel_of_append_cons_cons.1 hkept.isChain hl
  exact lexLt_of_lessXZ hle (hchain hl)

/-- **The hull** turns left everywhere, if it is more than a triangle. -/
theorem ConvexHullXZ_triplewise {points : List (BoundaryVertex K)}
    (hlen : 3 < (ConvexHullXZ points).length) :
    (ConvexHullXZ points).Triplewise (leftTurn BoundaryVertex.xz) := by
  by_cases hsize : (sortedUnique points).length ≤ 3
  · have hsmall : ConvexHullXZ points = sortedUnique points := by
      unfold ConvexHullXZ MonotoneChain.hull
      exact if_pos hsize
    rw [hsmall] at hlen
    omega
  · exact hull_leftTurn (sortedUnique_sorted points) (by omega)

/-! ## The area -/

omit [LinearOrder K] [IsStrictOrderedRing K] in
/-- The fan behind a vertex, with one more vertex at the end. -/
theorem twiceArea_concat (prev last v : BoundaryVertex K) (l : List (BoundaryVertex K)) :
    twiceArea prev (l ++ [last, v]) =
      twiceArea prev (l ++ [last]) + (last.x * v.z - v.x * last.z) := by
  induction l generalizing prev with
  | nil =>
    simp only [List.nil_append, twiceArea]
    ring
  | cons w l ih =>
    simp only [List.cons_append, twiceArea, ih]
    ring

omit [LinearOrder K] [IsStrictOrderedRing K] in
theorem twiceArea_reverse (prev last : BoundaryVertex K) (l : List (BoundaryVertex K)) :
    twiceArea last (l.reverse ++ [prev]) = -twiceArea prev (l ++ [last]) := by
  induction l generalizing prev with
  | nil =>
    simp only [List.reverse_nil, List.nil_append, twiceArea]
    ring
  | cons w l ih =>
    have happend : (w :: l).reverse ++ [prev] = l.reverse ++ [w, prev] := by simp
    rw [happend, twiceArea_concat, ih, List.cons_append, twiceArea]
    ring

omit [LinearOrder K] [IsStrictOrderedRing K] in
/-- The area changes its sign with the winding. -/
theorem SignedAreaXZ_reverse (poly : List (BoundaryVertex K)) :
    SignedAreaXZ poly.reverse = -SignedAreaXZ poly := by
  unfold SignedAreaXZ
  rw [List.length_reverse, List.getLast?_reverse]
  split_ifs with hlen
  · rw [neg_zero]
  · match poly with
    | [] => simp
    | first :: rest =>
      obtain ⟨l, last, hl⟩ := (List.eq_nil_or_concat' rest).resolve_left (by
        rintro rfl
        simp at hlen)
      subst hl
      have hlast : (first :: (l ++ [last])).getLast? = some last := by
        rw [← List.cons_append, List.getLast?_concat]
      have hreverse : (first :: (l ++ [last])).reverse = last :: (l.reverse ++ [first]) := by simp
      rw [hlast, hreverse, List.head?_cons]
      simp only [twiceArea, twiceArea_reverse]
      ring

/-- The winding that is returned has the area without its sign. -/
theorem SignedAreaXZ_NormalizeWindingXZ (poly : List (BoundaryVertex K)) :
    SignedAreaXZ (NormalizeWindingXZ poly) = |SignedAreaXZ poly| := by
  unfold NormalizeWindingXZ
  split_ifs with hneg
  · rw [SignedAreaXZ_reverse, abs_of_neg hneg]
  · rw [abs_of_nonneg (not_lt.1 hneg)]

omit [LinearOrder K] [IsStrictOrderedRing K] in
theorem SignedAreaXZ_triangle (a b c : BoundaryVertex K) :
    SignedAreaXZ [a, b, c] = CrossXZ a b c * 0.5 := by
  have hfan : twiceArea c [a, b, c] = CrossXZ a b c := by
    simp only [twiceArea, CrossXZ]
    ring
  rw [← hfan]
  rfl

/-! ## The loop that is returned -/

omit [IsStrictOrderedRing K] in
theorem Grazing.swap {a b c d : BoundaryVertex K} (h : Grazing d c b a) : Grazing a b c d := by
  have hcross : ∀ a b c : BoundaryVertex K, CrossXZ b a c = -CrossXZ a b c := by
    intro a b c
    unfold CrossXZ
    ring
  have horient : ∀ a b c : BoundaryVertex K, OrientationXZ b a c = 0 ↔ OrientationXZ a b c = 0 := by
    intro a b c
    rw [OrientationXZ_eq_zero, OrientationXZ_eq_zero, hcross, abs_neg]
  have hon : ∀ a b p : BoundaryVertex K, OnSegmentXZ b a p = OnSegmentXZ a b p := by
    intro a b p
    have hbeq : (OrientationXZ b a p == 0) = (OrientationXZ a b p == 0) := by
      rw [Bool.eq_iff_iff, beq_iff_eq, beq_iff_eq, horient]
    simp only [OnSegmentXZ, hbeq, min_comm b.x, min_comm b.z, max_comm b.x, max_comm b.z]
  obtain ⟨hcol, ⟨h1, h2⟩, h3, h4⟩ := h
  rw [horient c d, horient c d, horient a b, horient a b] at hcol
  rw [hon c d] at h1 h2
  rw [hon a b] at h3 h4
  refine ⟨?_, ⟨h4, h3⟩, h2, h1⟩
  rcases hcol with hcol | hcol
  · exact .inr hcol.symm
  · exact .inl hcol.symm

/-- **The loop behind the test** is simple up to edges that graze each other. -/
theorem untangle_simple {simplified : List (BoundaryVertex K)} {debounce simplify : K}
    (harea : 0.05 ≤ |SignedAreaXZ (untangle simplified debounce simplify)|) :
    SimpleUpTo BoundaryVertex.xz Grazing (untangle simplified debounce simplify) := by
  have hlen : 3 ≤ (untangle simplified debounce simplify).length := by
    by_contra hlt
    rw [SignedAreaXZ, if_pos (by omega), abs_zero] at harea
    norm_num at harea
  rcases hlen.eq_or_lt with hthree | hfour
  · -- a triangle with an area
    obtain ⟨a, b, c, habc⟩ := List.length_eq_three.1 hthree.symm
    rw [habc] at harea ⊢
    have hcross : cross a.xz b.xz c.xz ≠ 0 := by
      intro hzero
      rw [SignedAreaXZ_triangle, CrossXZ_eq, hzero, zero_mul, abs_zero] at harea
      norm_num at harea
    have htriangle : SimplePolygon BoundaryVertex.xz [a, b, c] := triangle_simple hcross
    exact ⟨htriangle.consecutive,
      fun a b l c d l' hl => (htriangle.apart a b l c d l' hl).imp_right False.elim⟩
  · unfold untangle at hfour ⊢
    split_ifs at hfour ⊢ with htest
    · -- the passes behind the hull keep some of its vertices
      have hsub := (RemoveClosedCollinearVertices_sublist _ simplify).trans
        (RemoveClosedShortEdges_sublist (ConvexHullXZ simplified) debounce)
      have hconvex := triplewise_sublist hsub
        (ConvexHullXZ_triplewise (hfour.trans_le hsub.length_le))
      have hsimple := triplewise_simple hconvex
      exact ⟨hsimple.consecutive,
        fun a b l c d l' hl => (hsimple.apart a b l c d l' hl).imp_right False.elim⟩
    · exact simpleUpTo_of_hasSelfIntersectionXZ (by simpa using htest) hfour

omit [IsStrictOrderedRing K] in
theorem untangle_subset (simplified : List (BoundaryVertex K)) (debounce simplify : K) :
    untangle simplified debounce simplify ⊆ simplified := by
  unfold untangle
  split_ifs
  · refine List.Subset.trans (RemoveClosedCollinearVertices_sublist _ _).subset ?_
    refine List.Subset.trans (RemoveClosedShortEdges_sublist _ debounce).subset ?_
    exact List.Subset.trans (MonotoneChain.hull_subset _ _) (sortedUnique_subset _)
  · exact List.Subset.refl _

/-- **The cleaned loop.** -/
theorem CleanPaintedLoop_spec (raw : List (BoundaryVertex K)) (debounce close simplify : K)
    (hlen : 3 ≤ (CleanPaintedLoop raw debounce close simplify).length) :
    IsBoundary Grazing raw (CleanPaintedLoop raw debounce close simplify) := by
  unfold CleanPaintedLoop at hlen ⊢
  dsimp only at hlen ⊢
  split_ifs at hlen ⊢ with h1 h2 h3 harea
  · omega
  · omega
  · omega
  · simp at hlen
  · have hpath := (popClosing_sublist 3 (close * close) _).trans
      ((TrimToNearestClosure_sublist _ close).trans (RemoveNearDuplicates_sublist raw debounce))
    have hloop := List.Subset.trans (simplifyLoop_subset _ debounce close simplify) hpath.subset
    have hmem := List.Subset.trans (untangle_subset _ debounce simplify) hloop
    have hsimple := untangle_simple (not_lt.1 harea)
    refine ⟨?_, ?_, ?_⟩
    · unfold NormalizeWindingXZ
      split_ifs
      · exact fun v hv => hmem (List.mem_reverse.1 hv)
      · exact hmem
    · rw [SignedAreaXZ_NormalizeWindingXZ]
      exact not_lt.1 harea
    · unfold NormalizeWindingXZ
      split_ifs
      · exact hsimple.reverse fun a b c d => Grazing.swap
      · exact hsimple

/-! ## The session -/

omit [IsStrictOrderedRing K] in
/-- What a finished session shows is its cleaned loop. -/
theorem CaptureSession.step_simplified {s t : CaptureSession K} {e : CaptureEvent K}
    (hs : s.m_state = .Finished → s.m_simplified = CleanPaintedLoop s.m_raw
      kVertexDebounceMeters kCloseLoopMeters kSimplifyEpsilonMeters)
    (h : s.step e = some t) :
    t.m_state = .Finished → t.m_simplified = CleanPaintedLoop t.m_raw
      kVertexDebounceMeters kCloseLoopMeters kSimplifyEpsilonMeters := by
  have happend : ∀ v, (s.append v).m_state = s.m_state := by
    intro v
    unfold append
    split
    · split_ifs <;> rfl
    · rfl
  -- a tick adds to an active session only, and leaves it active
  have htick : ∀ (pose : Affine3d K) (trigger : Bool) (floorY : Option K) (pointerOnly : Bool),
      s.AppendProjection pose trigger floorY pointerOnly = s ∨
        (s.AppendProjection pose trigger floorY pointerOnly).m_state = .Active := by
    intro pose trigger floorY pointerOnly
    unfold AppendProjection
    split_ifs with hactive
    · exact .inl rfl
    · exact .inl rfl
    all_goals
      split
      · exact .inl rfl
      · exact .inr ((happend _).trans (not_not.1 hactive))
  cases e with
  | start =>
    obtain rfl := Option.some.inj h
    intro hfin
    cases hfin
  | cancel =>
    obtain rfl := Option.some.inj h
    intro hfin
    cases hfin
  | finish =>
    obtain rfl := Option.some.inj h
    unfold Finish
    split_ifs
    · exact hs
    · exact fun _ => rfl
  | tick pose trigger floorY =>
    obtain rfl := Option.some.inj h
    rcases htick pose trigger floorY false with hsame | hactive
    · rwa [hsame]
    · intro hfin
      rw [hactive] at hfin
      cases hfin
  | tickPointerPose pose trigger floorY =>
    obtain rfl := Option.some.inj h
    rcases htick pose trigger floorY true with hsame | hactive
    · rwa [hsame]
    · intro hfin
      rw [hactive] at hfin
      cases hfin
  | tickProjectedPosition pose active floorY =>
    obtain rfl := Option.some.inj h
    unfold AppendProjectedPosition
    split_ifs with hactive
    · exact hs
    · exact hs
    · split
      · intro hfin
        rw [happend] at hfin
        exact absurd hfin (by rw [not_not.1 hactive]; decide)
      · exact hs

/-- **The painted boundary** of every run of a session is a simple polygon of captured vertices with
    an area, up to edges that graze each other. -/
theorem captured_boundary (es : List (CaptureEvent K)) :
    Always CaptureSession.step (Painted Grazing) CaptureSession.new es := by
  refine Always.of_inv' (fun s e t hs h => CaptureSession.step_simplified hs h) ?_ (fun h => ?_)
  · intro s hs hfin hlen
    have hvertices : s.vertices = s.m_simplified := if_pos hfin
    rw [hvertices, hs hfin] at hlen ⊢
    exact CleanPaintedLoop_spec _ _ _ _ hlen
  · cases h

/-! ## Painted loops -/

/-- A controller above a point of the floor. -/
def above (x z : ℚ) : CaptureEvent ℚ :=
  .tickProjectedPosition ⟨some ⟨x, 1, z⟩, fun _ => none⟩ true (some 0)

/-- A loop in the shape of an eight becomes its hull. -/
theorem captured_boundary_eight :
    Always CaptureSession.step (Painted Grazing) (CaptureSession.new : CaptureSession ℚ)
      [.start, above 0 0, above 2.0 2.0, above 2.0 0, above 0 2.0, .finish] :=
  captured_boundary _

/-- Three strokes along one line, a nanometre apart, in a painted loop. -/
def grazingLoop : List (CaptureEvent ℚ) :=
  [.start, above 0.95 0, above 0.6 2.0, above 0.6 1.65e-9, above 0.25 1.04e-9,
   above 0.85 (-1.04e-9), above 0.4 (-1.65e-9), above 0.4 (-1.0), above 0 0, .finish]

/-- The loop with every point a vertex. -/
def grazingPolygon : List (BoundaryVertex ℚ) :=
  [⟨0.95, 0, 0⟩, ⟨0.6, 0, 2.0⟩, ⟨0.6, 0, 1.65e-9⟩, ⟨0.25, 0, 1.04e-9⟩, ⟨0.85, 0, -1.04e-9⟩,
   ⟨0.4, 0, -1.65e-9⟩, ⟨0.4, 0, -1.0⟩, ⟨0, 0, 0⟩]

/-- All points are kept, and the edge that closes the loop crosses the one in the middle. -/
theorem grazingLoop_crosses :
    ¬ Always CaptureSession.step (Painted fun _ _ _ _ => False)
      (CaptureSession.new : CaptureSession ℚ) grazingLoop := by
  intro h
  have hrun : runTo CaptureSession.step (CaptureSession.new : CaptureSession ℚ) grazingLoop =
      some ⟨.Finished, grazingPolygon, grazingPolygon⟩ := by decide +kernel
  have hpainted := h.runTo hrun rfl (by decide)
  have hrot : (⟨0, 0, 0⟩ :: ⟨0.95, 0, 0⟩ :: ([⟨0.6, 0, 2.0⟩, ⟨0.6, 0, 1.65e-9⟩] ++
      ⟨0.25, 0, 1.04e-9⟩ :: ⟨0.85, 0, -1.04e-9⟩ :: [⟨0.4, 0, -1.65e-9⟩, ⟨0.4, 0, -1.0⟩]) :
        List (BoundaryVertex ℚ)) ~r grazingPolygon := ⟨1, rfl⟩
  have hdisj := (hpainted.simple.apart _ _ _ _ _ _ hrot).resolve_right id
  have hclosing : ((0.55, 0) : ℚ × ℚ) ∈ segment ℚ (0, 0) (0.95, 0) :=
    ⟨0.4 / 0.95, 0.55 / 0.95, by norm_num, by norm_num, by norm_num, by ext <;> norm_num⟩
  have hmiddle : ((0.55, 0) : ℚ × ℚ) ∈ segment ℚ (0.25, 1.04e-9) (0.85, -1.04e-9) :=
    ⟨0.5, 0.5, by norm_num, by norm_num, by norm_num, by ext <;> norm_num⟩
  exact Set.disjoint_left.1 hdisj hclosing hmiddle

end WKPairDriver.Boundary.Capture
