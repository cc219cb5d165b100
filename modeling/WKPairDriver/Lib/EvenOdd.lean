import Mathlib

/-!
# The even-odd rule

A closed polygon is the list of its vertices, its walls are the segments between neighbours, and a
point is inside if the ray from it to the right crosses an odd number of walls.

* `parity_eventually` — near a point where all walls are along one line, how often the ray crosses
  is settled by the side of the line, and by nothing if they are an even number.
* `crosses_near_iff` — a wall whose ends are moved a little is crossed as before.
* `closure_subset_region_iff` — a convex set is in the polygon exactly when one point is strictly
  inside and no wall enters it, up to walls that cover each other.
-/

set_option autoImplicit false

namespace Lib.EvenOdd

open Filter Topology Set

universe u

/-! ## Walls -/

section Walls

variable {α : Type u}

/-- The pairs of neighbours behind `prev`. -/
def chain : α → List α → List (α × α)
  | _, [] => []
  | prev, v :: rest => (prev, v) :: chain v rest

/-- The walls of a closed polygon, first the one that closes it. -/
def walls (poly : List α) : List (α × α) :=
  match poly.getLast? with
  | none => []
  | some last => chain last poly

theorem chain_map {β : Type u} (f : α → β) (prev : α) (l : List α) :
    chain (f prev) (l.map f) = (chain prev l).map (Prod.map f f) := by
  induction l generalizing prev with
  | nil => rfl
  | cons v rest ih => simp only [chain, List.map_cons, ih v, Prod.map_apply]

theorem walls_map {β : Type u} (f : α → β) (poly : List α) :
    walls (poly.map f) = (walls poly).map (Prod.map f f) := by
  unfold walls
  rw [List.getLast?_map]
  cases poly.getLast? with
  | none => rfl
  | some last => exact chain_map f last poly

theorem mem_of_mem_chain {prev : α} {l : List α} {w : α × α} (h : w ∈ chain prev l) :
    (w.1 = prev ∨ w.1 ∈ l) ∧ w.2 ∈ l := by
  induction l generalizing prev with
  | nil => exact absurd h List.not_mem_nil
  | cons v rest ih =>
    rcases List.mem_cons.1 h with rfl | h
    · exact ⟨.inl rfl, List.mem_cons_self⟩
    · obtain ⟨hfst, hsnd⟩ := ih h
      exact ⟨.inr (hfst.elim (fun heq => heq ▸ List.mem_cons_self) (List.mem_cons_of_mem v)),
        List.mem_cons_of_mem v hsnd⟩

/-- The ends of a wall are vertices. -/
theorem mem_of_mem_walls {poly : List α} {w : α × α} (h : w ∈ walls poly) :
    w.1 ∈ poly ∧ w.2 ∈ poly := by
  unfold walls at h
  cases hlast : poly.getLast? with
  | none =>
    rw [hlast] at h
    exact absurd h List.not_mem_nil
  | some last =>
    rw [hlast] at h
    obtain ⟨hfst, hsnd⟩ := mem_of_mem_chain h
    exact ⟨hfst.elim (fun heq => heq ▸ List.mem_of_getLast? hlast) id, hsnd⟩

theorem sum_chain (f : α → ZMod 2) (prev : α) (l : List α) :
    ((chain prev l).map fun w => f w.1 + f w.2).sum = f prev + f (l.getLast?.getD prev) := by
  induction l generalizing prev with
  | nil => simp [chain, CharTwo.add_self_eq_zero]
  | cons v rest ih =>
    have hlast : (v :: rest).getLast?.getD prev = rest.getLast?.getD v := by
      simp [List.getLast?_cons]
    rw [chain, List.map_cons, List.sum_cons, ih v, hlast, add_assoc, ← add_assoc (f v),
      CharTwo.add_self_eq_zero, zero_add]

/-- Round a closed polygon every vertex is the end of two walls. -/
theorem sum_walls (f : α → ZMod 2) (poly : List α) :
    ((walls poly).map fun w => f w.1 + f w.2).sum = 0 := by
  unfold walls
  cases h : poly.getLast? with
  | none => rfl
  | some last =>
    show ((chain last poly).map fun w => f w.1 + f w.2).sum = 0
    rw [sum_chain, h, Option.getD_some, CharTwo.add_self_eq_zero]

end Walls

/-! ## Counting modulo two -/

open Classical in
/-- One for what holds. -/
noncomputable def ind (P : Prop) : ZMod 2 := if P then 1 else 0

theorem ind_of {P : Prop} (h : P) : ind P = 1 := if_pos h

theorem ind_of_not {P : Prop} (h : ¬P) : ind P = 0 := if_neg h

theorem ind_congr {P Q : Prop} (h : P ↔ Q) : ind P = ind Q := congrArg ind (propext h)

theorem ind_not_iff (P Q : Prop) : ind (¬(P ↔ Q)) = ind P + ind Q := by
  by_cases hp : P <;> by_cases hq : Q <;> simp [ind, hp, hq, CharTwo.add_self_eq_zero]

theorem eq_zero_or_one : ∀ x : ZMod 2, x = 0 ∨ x = 1 := by decide

/-- How many walls have a property, modulo two. -/
noncomputable def parity {α : Type u} (poly : List α) (P : α × α → Prop) : ZMod 2 :=
  ((walls poly).map fun w => ind (P w)).sum

/-! ## The rule -/

/-- Where the line through `a` and `b` is at the height `z`. -/
noncomputable def xAt (a b : ℝ × ℝ) (z : ℝ) : ℝ := (b.1 - a.1) * (z - a.2) / (b.2 - a.2) + a.1

/-- The ray from `q` to the right crosses the wall. -/
def Crosses (q : ℝ × ℝ) (w : (ℝ × ℝ) × (ℝ × ℝ)) : Prop :=
  ¬(q.2 < w.1.2 ↔ q.2 < w.2.2) ∧ q.1 < xAt w.1 w.2 q.2

def On (q : ℝ × ℝ) (w : (ℝ × ℝ) × (ℝ × ℝ)) : Prop := q ∈ segment ℝ w.1 w.2

theorem fst_of_on {a b q : ℝ × ℝ} {c : ℝ} (ha : a.1 = c) (hb : b.1 = c) (h : On q (a, b)) :
    q.1 = c := by
  rw [On, segment_eq_image'] at h
  obtain ⟨t, -, rfl⟩ := h
  simp [ha, hb]

theorem snd_of_on {a b q : ℝ × ℝ} {c : ℝ} (ha : a.2 = c) (hb : b.2 = c) (h : On q (a, b)) :
    q.2 = c := by
  rw [On, segment_eq_image'] at h
  obtain ⟨t, -, rfl⟩ := h
  simp [ha, hb]

section

variable (poly : List (ℝ × ℝ))

def OnWall (q : ℝ × ℝ) : Prop := ∃ w ∈ walls poly, On q w

def Inside (q : ℝ × ℝ) : Prop := parity poly (Crosses q) = 1

def StrictlyInside (q : ℝ × ℝ) : Prop := ¬OnWall poly q ∧ Inside poly q

/-- The point is on an odd number of walls. -/
def OddlyOn (q : ℝ × ℝ) : Prop := parity poly (On q) = 1

/-- The points inside or on the polygon. -/
def region : Set (ℝ × ℝ) := {q | OnWall poly q ∨ Inside poly q}

end

/-! ## One wall near a point -/

/-- The vertex is at the height of `p` and to the right of it, and `q` is lower. -/
def Dips (p q v : ℝ × ℝ) : Prop := v.2 = p.2 ∧ p.1 < v.1 ∧ q.2 < p.2

/-- The side of the line through `p` along `u`. -/
def LeftOf (p u q : ℝ × ℝ) : Prop :=
  if u.2 = 0 then q.2 < p.2 else q.1 < p.1 + u.1 / u.2 * (q.2 - p.2)

theorem leftOf_smul {p u q : ℝ × ℝ} {t : ℝ} (ht : t ≠ 0) : LeftOf p (t • u) q ↔ LeftOf p u q := by
  unfold LeftOf
  rw [Prod.smul_fst, Prod.smul_snd, smul_eq_mul, smul_eq_mul, mul_div_mul_left _ _ ht]
  simp only [mul_eq_zero, ht, false_or]

/-- Which side of a height is seen near `p`. -/
theorem above_eventually (p v : ℝ × ℝ) :
    ∀ᶠ q : ℝ × ℝ in 𝓝 p, (q.2 < v.2 ↔ p.2 < v.2 ∨ v.2 = p.2 ∧ q.2 < p.2) := by
  rcases lt_trichotomy p.2 v.2 with h | h | h
  · filter_upwards [continuous_snd.continuousAt.eventually_lt_const h] with q hq
    exact iff_of_true hq (Or.inl h)
  · refine Eventually.of_forall fun q => ?_
    rw [← h]
    simp
  · filter_upwards [continuous_snd.continuousAt.eventually_const_lt h] with q hq
    exact iff_of_false hq.le.not_gt fun hor => hor.elim h.not_gt fun ⟨heq, _⟩ => h.ne heq

theorem continuous_xAt (a b : ℝ × ℝ) : Continuous (xAt a b) := by
  unfold xAt
  fun_prop

theorem xAt_left (a b : ℝ × ℝ) : xAt a b a.2 = a.1 := by
  simp [xAt]

theorem xAt_right {a b : ℝ × ℝ} (h : a.2 ≠ b.2) : xAt a b b.2 = b.1 := by
  have hne : b.2 - a.2 ≠ 0 := sub_ne_zero.2 h.symm
  rw [xAt, mul_div_assoc, div_self hne, mul_one, sub_add_cancel]

/-- Between the heights of its ends, the line is on the wall. -/
theorem on_xAt {a b p : ℝ × ℝ} (hne : a.2 ≠ b.2) (hmem : p.2 ∈ uIcc a.2 b.2)
    (hx : p.1 = xAt a b p.2) : On p (a, b) := by
  have hsub : b.2 - a.2 ≠ 0 := sub_ne_zero.2 hne.symm
  rw [On, segment_eq_image']
  refine ⟨(p.2 - a.2) / (b.2 - a.2), ?_, ?_⟩
  · rcases le_total a.2 b.2 with hab | hab
    · rw [uIcc_of_le hab] at hmem
      have hpos : 0 < b.2 - a.2 := sub_pos.2 (lt_of_le_of_ne hab hne)
      exact ⟨div_nonneg (sub_nonneg.2 hmem.1) hpos.le,
        (div_le_one hpos).2 (sub_le_sub_right hmem.2 _)⟩
    · rw [uIcc_of_ge hab] at hmem
      have hneg : b.2 - a.2 < 0 := sub_neg.2 (lt_of_le_of_ne hab hne.symm)
      exact ⟨div_nonneg_of_nonpos (sub_nonpos.2 hmem.2) hneg.le,
        (div_le_one_of_neg hneg).2 (sub_le_sub_right hmem.1 _)⟩
  · apply Prod.ext
    · rw [hx, xAt]
      simp only [Prod.fst_add, Prod.smul_fst, Prod.fst_sub, smul_eq_mul]
      ring
    · simp only [Prod.snd_add, Prod.smul_snd, Prod.snd_sub, smul_eq_mul, div_mul_cancel₀ _ hsub,
        add_sub_cancel]

theorem on_level {a b p : ℝ × ℝ} (ha : a.2 = p.2) (hb : b.2 = p.2) (hmem : p.1 ∈ uIcc a.1 b.1) :
    On p (a, b) := by
  rw [On, ← Prod.mk.eta (p := p), ← Prod.mk.eta (p := a), ← Prod.mk.eta (p := b), ha, hb,
    ← Prod.image_mk_segment_left]
  exact mem_image_of_mem _ (by rwa [segment_eq_uIcc])

/-- Continuous functions that differ keep their order nearby. -/
theorem lt_eventually {f g : ℝ × ℝ → ℝ} (hf : Continuous f) (hg : Continuous g) {p : ℝ × ℝ}
    (h : f p ≠ g p) : ∀ᶠ q in 𝓝 p, (f q < g q ↔ f p < g p) := by
  rcases lt_or_gt_of_ne h with hlt | hgt
  · filter_upwards [hf.continuousAt.eventually_lt hg.continuousAt hlt] with q hq
    exact iff_of_true hq hlt
  · filter_upwards [hg.continuousAt.eventually_lt hf.continuousAt hgt] with q hq
    exact iff_of_false hq.not_gt hgt.not_gt

theorem not_crosses_level {a b q : ℝ × ℝ} (h : a.2 = b.2) : ¬Crosses q (a, b) := fun hcross =>
  hcross.1 (by rw [h])

/-- A vertex to the right is above what it was above, and what dips below it. -/
theorem ind_above {p q v : ℝ × ℝ} (habove : q.2 < v.2 ↔ p.2 < v.2 ∨ v.2 = p.2 ∧ q.2 < p.2)
    (hright : v.2 = p.2 → p.1 < v.1) : ind (q.2 < v.2) = ind (p.2 < v.2) + ind (Dips p q v) := by
  by_cases hv : p.2 < v.2
  · rw [ind_of (habove.2 (Or.inl hv)), ind_of hv, ind_of_not fun hdips => hv.ne' hdips.1, add_zero]
  · rw [ind_of_not hv, zero_add]
    refine ind_congr (habove.trans ?_)
    rw [or_iff_right hv]
    exact and_congr_right fun hlevel => (and_iff_right (hright hlevel)).symm

theorem not_dips {p q v : ℝ × ℝ} (h : v.2 ≠ p.2) : ¬Dips p q v := fun hdips => h hdips.1

/-- A wall with its ends at other heights than `p`. -/
theorem crosses_apart {a b p : ℝ × ℝ} (ha : a.2 ≠ p.2) (hb : b.2 ≠ p.2) :
    ∀ᶠ q in 𝓝 p, ind (Crosses q (a, b)) + (ind (Dips p q a) + ind (Dips p q b)) =
      ind (¬(p.2 < a.2 ↔ p.2 < b.2) ∧ q.1 < xAt a b q.2) := by
  filter_upwards [above_eventually p a, above_eventually p b] with q hqa hqb
  rw [or_iff_left fun h => ha h.1] at hqa
  rw [or_iff_left fun h => hb h.1] at hqb
  rw [ind_of_not (not_dips ha), ind_of_not (not_dips hb), add_zero, add_zero, Crosses, hqa, hqb]

/-! ### Away from the wall -/

/-- A level wall is never crossed; its ends are on one side of `p`. -/
theorem crosses_off_level {a b p : ℝ × ℝ} (h : ¬On p (a, b)) (hlevel : a.2 = b.2) (q : ℝ × ℝ) :
    ind (Crosses q (a, b)) + (ind (Dips p q a) + ind (Dips p q b)) = ind (Crosses p (a, b)) := by
  have hdips : Dips p q a ↔ Dips p q b := by
    unfold Dips
    rw [← hlevel]
    refine and_congr_right fun ha => and_congr_left' ?_
    by_contra hside
    refine h (on_level ha (hlevel ▸ ha) (mem_uIcc.2 ?_))
    by_cases hpa : p.1 < a.1
    · have hpb : ¬p.1 < b.1 := fun hpb => hside (iff_of_true hpa hpb)
      exact Or.inr ⟨not_lt.1 hpb, hpa.le⟩
    · have hpb : p.1 < b.1 := by
        by_contra hpb
        exact hside (iff_of_false hpa hpb)
      exact Or.inl ⟨not_lt.1 hpa, hpb.le⟩
  rw [ind_congr hdips, CharTwo.add_self_eq_zero, ind_of_not (not_crosses_level hlevel),
    ind_of_not (not_crosses_level hlevel), add_zero]

/-- A wall across the height of `p`, which is on one side of it. -/
theorem crosses_off_across {a b p : ℝ × ℝ} (h : ¬On p (a, b)) (hlevel : a.2 ≠ b.2)
    (hmem : p.2 ∈ uIcc a.2 b.2) :
    ∀ᶠ q in 𝓝 p, ind (Crosses q (a, b)) + (ind (Dips p q a) + ind (Dips p q b)) =
      ind (Crosses p (a, b)) := by
  have hx : p.1 ≠ xAt a b p.2 := fun hx => h (on_xAt hlevel hmem hx)
  filter_upwards [above_eventually p a, above_eventually p b,
    lt_eventually continuous_fst ((continuous_xAt a b).comp continuous_snd) hx] with q ha hb hside
  simp only [Function.comp_apply] at hside
  by_cases hs : p.1 < xAt a b p.2
  · have ha' := ind_above ha fun hlevel => by rwa [← hlevel, xAt_left] at hs
    have hb' := ind_above hb fun hlevel' => by rwa [← hlevel', xAt_right hlevel] at hs
    have hq : ind (Crosses q (a, b)) = ind (q.2 < a.2) + ind (q.2 < b.2) := by
      rw [← ind_not_iff]
      exact ind_congr (and_iff_left (hside.2 hs))
    have hp : ind (Crosses p (a, b)) = ind (p.2 < a.2) + ind (p.2 < b.2) := by
      rw [← ind_not_iff]
      exact ind_congr (and_iff_left hs)
    rw [hq, hp, ha', hb']
    linear_combination CharTwo.add_self_eq_zero (ind (Dips p q a)) +
      CharTwo.add_self_eq_zero (ind (Dips p q b))
  · have hda : ¬Dips p q a := by
      rintro ⟨hlevel, hright, -⟩
      rw [← hlevel, xAt_left] at hs
      exact hs hright
    have hdb : ¬Dips p q b := by
      rintro ⟨hlevel', hright, -⟩
      rw [← hlevel', xAt_right hlevel] at hs
      exact hs hright
    rw [ind_of_not hda, ind_of_not hdb, ind_of_not fun hcross : Crosses q (a, b) =>
      hs (hside.1 hcross.2), ind_of_not fun hcross : Crosses p (a, b) => hs hcross.2]
    rfl

/-- Away from a wall, the ray crosses it as before or a vertex comes above it. -/
theorem crosses_eventually_off {a b p : ℝ × ℝ} (h : ¬On p (a, b)) :
    ∀ᶠ q in 𝓝 p, ind (Crosses q (a, b)) + (ind (Dips p q a) + ind (Dips p q b)) =
      ind (Crosses p (a, b)) := by
  by_cases hlevel : a.2 = b.2
  · exact Eventually.of_forall (crosses_off_level h hlevel)
  by_cases hmem : p.2 ∈ uIcc a.2 b.2
  · exact crosses_off_across h hlevel hmem
  -- both ends are above `p`, or both below
  have hends : (p.2 < a.2 ∧ p.2 < b.2) ∨ (a.2 < p.2 ∧ b.2 < p.2) := by
    rw [mem_uIcc] at hmem
    push Not at hmem
    rcases lt_trichotomy a.2 p.2 with hlt | heq | hgt
    · exact Or.inr ⟨hlt, hmem.1 hlt.le⟩
    · exact absurd heq (hmem.2 (hmem.1 heq.le).le).ne
    · exact Or.inl ⟨hgt, not_le.1 fun hle => hgt.not_gt (hmem.2 hle)⟩
  have hsame : p.2 < a.2 ↔ p.2 < b.2 :=
    hends.elim (fun h => iff_of_true h.1 h.2) fun h => iff_of_false h.1.not_gt h.2.not_gt
  have hda : a.2 ≠ p.2 := hends.elim (fun h => h.1.ne') fun h => h.1.ne
  have hdb : b.2 ≠ p.2 := hends.elim (fun h => h.2.ne') fun h => h.2.ne
  filter_upwards [crosses_apart hda hdb] with q hq
  rw [hq, ind_of_not fun h => h.1 hsame, ind_of_not fun h => h.1 hsame]

/-! ### On the wall -/

/-- Along a level wall, one end is to the right. -/
theorem crosses_on_level {a b p : ℝ × ℝ} {t : ℝ} (ht : t ∈ Ioo (0 : ℝ) 1)
    (hx : p.1 = a.1 + t * (b.1 - a.1)) (hza : a.2 = p.2) (hzb : b.2 = p.2) (ha : p ≠ a)
    (q : ℝ × ℝ) : ind (Crosses q (a, b)) + (ind (Dips p q a) + ind (Dips p q b)) =
      ind (LeftOf p (b - a) q) := by
  have hlevel : a.2 = b.2 := hza.trans hzb.symm
  have hleft : LeftOf p (b - a) q ↔ q.2 < p.2 := by
    rw [LeftOf, if_pos (by rw [Prod.snd_sub, hlevel, sub_self])]
  have hdips : ind (Dips p q a) + ind (Dips p q b) = ind (q.2 < p.2) := by
    rcases lt_trichotomy a.1 b.1 with hlt | heq | hgt
    · have hpa : ¬p.1 < a.1 := by nlinarith [ht.1]
      have hpb : p.1 < b.1 := by nlinarith [ht.2]
      rw [ind_of_not fun hdips : Dips p q a => hpa hdips.2.1, zero_add]
      exact ind_congr ((and_iff_right hzb).trans (and_iff_right hpb))
    · refine absurd (Prod.ext ?_ hza.symm) ha
      rw [hx, heq, sub_self, mul_zero, add_zero]
    · have hpa : p.1 < a.1 := by nlinarith [ht.1]
      have hpb : ¬p.1 < b.1 := by nlinarith [ht.2]
      rw [ind_of_not fun hdips : Dips p q b => hpb hdips.2.1, add_zero]
      exact ind_congr ((and_iff_right hza).trans (and_iff_right hpa))
  rw [ind_of_not (not_crosses_level hlevel), hdips, zero_add, ind_congr hleft]

/-- On a wall that is not level, the height is strictly between those of its ends. -/
theorem between_ends {a b p : ℝ × ℝ} {t : ℝ} (ht : t ∈ Ioo (0 : ℝ) 1)
    (hz : p.2 = a.2 + t * (b.2 - a.2)) (hlevel : a.2 ≠ b.2) :
    ¬(p.2 < a.2 ↔ p.2 < b.2) ∧ a.2 ≠ p.2 ∧ b.2 ≠ p.2 := by
  rcases lt_or_gt_of_ne hlevel with hlt | hgt
  · have hpa : a.2 < p.2 := by nlinarith [ht.1]
    have hpb : p.2 < b.2 := by nlinarith [ht.2]
    exact ⟨fun hiff => hpa.not_gt (hiff.2 hpb), hpa.ne, hpb.ne'⟩
  · have hpa : p.2 < a.2 := by nlinarith [ht.1]
    have hpb : b.2 < p.2 := by nlinarith [ht.2]
    exact ⟨fun hiff => hpb.not_gt (hiff.1 hpa), hpa.ne', hpb.ne⟩

/-- Inside a wall, the ray crosses it or its ends come above it on one side of its line. -/
theorem crosses_eventually_on {a b p : ℝ × ℝ} (h : On p (a, b)) (ha : p ≠ a) (hb : p ≠ b) :
    ∀ᶠ q in 𝓝 p, ind (Crosses q (a, b)) + (ind (Dips p q a) + ind (Dips p q b)) =
      ind (LeftOf p (b - a) q) := by
  obtain ⟨t, ht, hp⟩ : ∃ t ∈ Ioo (0 : ℝ) 1, a + t • (b - a) = p := by
    have hopen : p ∈ openSegment ℝ a b := mem_openSegment_of_ne_left_right ha.symm hb.symm h
    rwa [openSegment_eq_image'] at hopen
  have hx : p.1 = a.1 + t * (b.1 - a.1) := (congrArg Prod.fst hp).symm
  have hz : p.2 = a.2 + t * (b.2 - a.2) := (congrArg Prod.snd hp).symm
  by_cases hlevel : a.2 = b.2
  · have hza : a.2 = p.2 := by rw [hz, hlevel, sub_self, mul_zero, add_zero]
    exact Eventually.of_forall (crosses_on_level ht hx hza (hlevel ▸ hza) ha)
  · have hsub : b.2 - a.2 ≠ 0 := sub_ne_zero.2 (Ne.symm hlevel)
    obtain ⟨hcross, hda, hdb⟩ := between_ends ht hz hlevel
    filter_upwards [crosses_apart hda hdb] with q hq
    have hline : xAt a b q.2 = p.1 + (b - a).1 / (b - a).2 * (q.2 - p.2) := by
      rw [xAt, Prod.fst_sub, Prod.snd_sub, hx, hz]
      field_simp
      ring
    rw [hq, LeftOf, if_neg (by rwa [Prod.snd_sub]), ← hline]
    exact ind_congr (and_iff_right hcross)

/-! ## A wall whose ends are moved -/

/-- A coordinate that is moved by less than a ten millionth of it. -/
def Near (x x' : ℝ) : Prop := ∃ r : ℝ, |r - 1| ≤ 1e-7 ∧ x' = r * x

theorem Near.pos_iff {x x' : ℝ} (h : Near x x') : 0 < x' ↔ 0 < x := by
  obtain ⟨r, hr, rfl⟩ := h
  obtain ⟨hlow, -⟩ := abs_le.1 hr
  exact mul_pos_iff_of_pos_left (by linarith)

/-- Scaling two numbers a little does not bring their sum above zero by more than what they can
    have on the shorter side. -/
theorem scaled_sum_lt {p q r s m h : ℝ} (hr : |r - 1| ≤ 1e-6) (hs : |s - 1| ≤ 1e-6)
    (hshort : -m ≤ p ∧ -m ≤ q ∨ p ≤ m ∧ q ≤ m) (hsum : p + q ≤ 0) (hh : 0 < h)
    (hm : m ≤ 100 * h) : r * p + s * q < h := by
  obtain ⟨hr1, hr2⟩ := abs_le.1 hr
  obtain ⟨hs1, hs2⟩ := abs_le.1 hs
  rcases hshort with ⟨hp, hq⟩ | ⟨hp, hq⟩
  · -- neither is longer than the shorter side
    have hmul : ∀ {t x : ℝ}, |t - 1| ≤ 1e-6 → -m ≤ x → x ≤ m → (t - 1) * x ≤ 1e-6 * m := by
      intro t x ht hlow hhigh
      calc (t - 1) * x ≤ |(t - 1) * x| := le_abs_self _
        _ = |t - 1| * |x| := abs_mul _ _
        _ ≤ 1e-6 * m := mul_le_mul ht (abs_le.2 ⟨hlow, hhigh⟩) (abs_nonneg _) (by norm_num)
    have h1 := hmul hr hp (by linarith)
    have h2 := hmul hs hq (by linarith)
    linarith
  · rcases le_or_gt p 0 with hp0 | hp0
    · rcases le_or_gt q 0 with hq0 | hq0
      · have h1 := mul_nonpos_of_nonneg_of_nonpos (by linarith : 0 ≤ r) hp0
        have h2 := mul_nonpos_of_nonneg_of_nonpos (by linarith : 0 ≤ s) hq0
        linarith
      · have h1 := mul_le_mul_of_nonneg_left (by linarith : p ≤ -q) (by linarith : 0 ≤ r)
        have h2 := mul_le_mul (by linarith : s - r ≤ 2e-6) hq hq0.le (by norm_num)
        linarith
    · have h1 := mul_le_mul_of_nonneg_left (by linarith : q ≤ -p) (by linarith : 0 ≤ s)
      have h2 := mul_le_mul (by linarith : r - s ≤ 2e-6) hp hp0.le (by norm_num)
      linarith

theorem scaled_twice {r s : ℝ} (hr : |r - 1| ≤ 1e-7) (hs : |s - 1| ≤ 1e-7) :
    |r * s - 1| ≤ 1e-6 := by
  obtain ⟨hr1, hr2⟩ := abs_le.1 hr
  obtain ⟨hs1, hs2⟩ := abs_le.1 hs
  rw [abs_le]
  constructor <;> nlinarith

/-- The weights of the ends of a wall that reaches across the height of the origin. -/
theorem exists_weights {y z : ℝ} (h : ¬(0 < y ↔ 0 < z)) :
    z - y ≠ 0 ∧ 0 ≤ z / (z - y) ∧ 0 ≤ -y / (z - y) ∧ z / (z - y) + -y / (z - y) = 1 := by
  have hne : z - y ≠ 0 := by
    intro heq
    rw [sub_eq_zero.1 heq] at h
    exact h Iff.rfl
  refine ⟨hne, ?_, ?_, ?_⟩
  · rcases lt_or_gt_of_ne hne with hneg | hpos
    · have hz : z ≤ 0 := by
        by_contra hz
        exact h (iff_of_true (by linarith) (not_le.1 hz))
      exact div_nonneg_of_nonpos hz hneg.le
    · have hz : 0 ≤ z := by
        by_contra hz
        exact h (iff_of_false (by linarith) (by linarith))
      exact div_nonneg hz hpos.le
  · rcases lt_or_gt_of_ne hne with hneg | hpos
    · have hy : 0 ≤ y := by
        by_contra hy
        exact h (iff_of_false (by linarith) (by linarith))
      exact div_nonneg_of_nonpos (by linarith) hneg.le
    · have hy : y ≤ 0 := by
        by_contra hy
        exact h (iff_of_true (not_le.1 hy) (by linarith))
      exact div_nonneg (by linarith) hpos.le
  · rw [← add_div, ← sub_eq_add_neg, div_self hne]

/-- A wall that reaches across the height of the origin is on that height where it is crossed. -/
theorem on_of_straddle {a b : ℝ × ℝ} (h : ¬(0 < a.2 ↔ 0 < b.2)) : On (xAt a b 0, 0) (a, b) := by
  have hlevel : a.2 ≠ b.2 := fun heq => h (by rw [heq])
  refine on_xAt hlevel ?_ rfl
  rw [mem_uIcc]
  by_cases ha : 0 < a.2
  · have hb : ¬0 < b.2 := fun hb => h (iff_of_true ha hb)
    exact Or.inr ⟨not_lt.1 hb, ha.le⟩
  · have hb : 0 < b.2 := by
      by_contra hb
      exact h (iff_of_false ha hb)
    exact Or.inl ⟨not_lt.1 ha, hb.le⟩

/-- Where a wall is crossed, by the weights of its ends. -/
theorem xAt_eq_weights {a b : ℝ × ℝ} (hne : b.2 - a.2 ≠ 0) :
    xAt a b 0 = b.2 / (b.2 - a.2) * a.1 + -a.2 / (b.2 - a.2) * b.1 := by
  rw [xAt]
  field_simp
  ring

/-- Where a wall with scaled ends is crossed, by the weights of the wall it was. -/
theorem xAt_scaled {a b : ℝ × ℝ} {r₁ r₂ s₁ s₂ : ℝ} (hne : b.2 - a.2 ≠ 0)
    (hne' : s₂ * b.2 - r₂ * a.2 ≠ 0) :
    xAt (r₁ * a.1, r₂ * a.2) (s₁ * b.1, s₂ * b.2) 0 *
        (s₂ * (b.2 / (b.2 - a.2)) + r₂ * (-a.2 / (b.2 - a.2))) =
      r₁ * s₂ * (b.2 / (b.2 - a.2) * a.1) + s₁ * r₂ * (-a.2 / (b.2 - a.2) * b.1) := by
  rw [xAt_eq_weights (a := (r₁ * a.1, r₂ * a.2)) (b := (s₁ * b.1, s₂ * b.2)) hne']
  dsimp only
  field_simp
  ring

/-- **A wall whose ends are moved a little** is crossed from the origin as before, if it stays clear
    of the origin by a part of the shorter side. -/
theorem crosses_near_iff {a b a' b' : ℝ × ℝ} {m h : ℝ} (ha1 : Near a.1 a'.1) (ha2 : Near a.2 a'.2)
    (hb1 : Near b.1 b'.1) (hb2 : Near b.2 b'.2)
    (hshort : -m ≤ a.1 ∧ -m ≤ b.1 ∨ a.1 ≤ m ∧ b.1 ≤ m) (hm0 : 0 ≤ m) (hh : 0 < h)
    (hm : m ≤ 50 * h) (hoff : ∀ x ∈ Ioo (-h) h, ¬On (x, 0) (a', b')) :
    Crosses (0, 0) (a', b') ↔ Crosses (0, 0) (a, b) := by
  have hstraddle : (0 < a'.2 ↔ 0 < b'.2) ↔ (0 < a.2 ↔ 0 < b.2) := by
    rw [ha2.pos_iff, hb2.pos_iff]
  by_cases hside : 0 < a.2 ↔ 0 < b.2
  · exact iff_of_false (fun hcross => hcross.1 (hstraddle.2 hside)) fun hcross => hcross.1 hside
  have hside' : ¬(0 < a'.2 ↔ 0 < b'.2) := fun h => hside (hstraddle.1 h)
  obtain ⟨hne, hα, hβ, hone⟩ := exists_weights hside
  obtain ⟨hne', hα', hβ', hone'⟩ := exists_weights hside'
  -- where the moved wall meets the height of the origin is not near it
  have hout : xAt a' b' 0 ∉ Ioo (-h) h := fun hin => hoff _ hin (on_of_straddle hside')
  obtain ⟨r1, hr1, ha1'⟩ := ha1
  obtain ⟨r2, hr2, ha2'⟩ := ha2
  obtain ⟨s1, hs1, hb1'⟩ := hb1
  obtain ⟨s2, hs2, hb2'⟩ := hb2
  set α := b.2 / (b.2 - a.2) with hαdef
  set β := -a.2 / (b.2 - a.2) with hβdef
  have hx : xAt a b 0 = α * a.1 + β * b.1 := xAt_eq_weights hne
  have hx' : xAt a' b' 0 * (s2 * α + r2 * β) = r1 * s2 * (α * a.1) + s1 * r2 * (β * b.1) := by
    rw [ha2', hb2'] at hne'
    rw [show a' = (r1 * a.1, r2 * a.2) from Prod.ext ha1' ha2',
      show b' = (s1 * b.1, s2 * b.2) from Prod.ext hb1' hb2']
    exact xAt_scaled hne hne'
  have hshort' : -m ≤ α * a.1 ∧ -m ≤ β * b.1 ∨ α * a.1 ≤ m ∧ β * b.1 ≤ m := by
    have hα1 : α ≤ 1 := by linarith
    have hβ1 : β ≤ 1 := by linarith
    refine hshort.imp (fun h => ⟨?_, ?_⟩) fun h => ⟨?_, ?_⟩ <;> nlinarith
  have hweight : 0.9 ≤ s2 * α + r2 * β := by
    have h1 := (abs_le.1 hs2).1
    have h2 := (abs_le.1 hr2).1
    nlinarith
  have hmoved := scaled_twice hr1 hs2
  have hmoved' := scaled_twice hs1 hr2
  rw [mem_Ioo, not_and_or, not_lt, not_lt] at hout
  refine and_congr (not_congr hstraddle) ?_
  show 0 < xAt a' b' 0 ↔ 0 < xAt a b 0
  rcases le_or_gt (xAt a b 0) 0 with hneg | hpos
  · have hlt := scaled_sum_lt hmoved hmoved' hshort' (hx ▸ hneg) (half_pos hh) (by linarith)
    rw [← hx'] at hlt
    refine iff_of_false (fun h0 => ?_) hneg.not_gt
    have hge : h ≤ xAt a' b' 0 := hout.resolve_left (by linarith)
    nlinarith
  · have hlt := scaled_sum_lt (p := -(α * a.1)) (q := -(β * b.1)) (m := m) hmoved hmoved'
      (hshort'.symm.imp (fun h => ⟨by linarith, by linarith⟩) fun h => ⟨by linarith, by linarith⟩)
      (by linarith) (half_pos hh) (by linarith)
    refine iff_of_true ?_ hpos
    rcases hout with hle | hge
    · exfalso
      have hsum : r1 * s2 * -(α * a.1) + s1 * r2 * -(β * b.1) =
          -(xAt a' b' 0 * (s2 * α + r2 * β)) := by
        rw [hx']
        ring
      rw [hsum] at hlt
      nlinarith
    · exact hh.trans_le hge

/-! ## All walls near a point -/

variable {poly : List (ℝ × ℝ)}

/-- No vertex is at `p`, and all walls through it are along `u`. -/
def Along (poly : List (ℝ × ℝ)) (p u : ℝ × ℝ) : Prop :=
  ∀ w ∈ walls poly, On p w → p ≠ w.1 ∧ p ≠ w.2 ∧ ∃ t : ℝ, t ≠ 0 ∧ w.2 - w.1 = t • u

theorem wall_eventually {p u : ℝ × ℝ} (h : Along poly p u) {w : (ℝ × ℝ) × (ℝ × ℝ)}
    (hw : w ∈ walls poly) : ∀ᶠ q in 𝓝 p, ind (Crosses q w) + (ind (Dips p q w.1) +
      ind (Dips p q w.2)) = ind (On p w) * ind (LeftOf p u q) + ind (¬On p w ∧ Crosses p w) := by
  by_cases hon : On p w
  · obtain ⟨ha, hb, t, ht, hdir⟩ := h w hw hon
    filter_upwards [crosses_eventually_on hon ha hb] with q hq
    have hnot : ¬(¬On p w ∧ Crosses p w) := fun hoff => hoff.1 hon
    rw [hq, hdir, ind_of hon, ind_congr (leftOf_smul ht), ind_of_not hnot, one_mul, add_zero]
  · filter_upwards [crosses_eventually_off hon] with q hq
    rw [hq, ind_of_not hon, zero_mul, zero_add]
    exact ind_congr (and_iff_right hon).symm

/-- **Near a point where all walls are along one line**, only the side of that line matters. -/
theorem parity_eventually {p u : ℝ × ℝ} (h : Along poly p u) :
    ∀ᶠ q in 𝓝 p, parity poly (Crosses q) = parity poly (On p) * ind (LeftOf p u q) +
      parity poly (fun w => ¬On p w ∧ Crosses p w) := by
  have hall : ∀ᶠ q in 𝓝 p, ∀ w ∈ walls poly, ind (Crosses q w) + (ind (Dips p q w.1) +
      ind (Dips p q w.2)) = ind (On p w) * ind (LeftOf p u q) + ind (¬On p w ∧ Crosses p w) :=
    (eventually_all_finite (List.finite_toSet (walls poly))).2 fun w hw => wall_eventually h hw
  filter_upwards [hall] with q hq
  calc parity poly (Crosses q)
      = parity poly (Crosses q) +
          ((walls poly).map fun w => ind (Dips p q w.1) + ind (Dips p q w.2)).sum := by
        rw [sum_walls (fun v => ind (Dips p q v)), add_zero]
    _ = ((walls poly).map fun w => ind (Crosses q w) + (ind (Dips p q w.1) +
          ind (Dips p q w.2))).sum := List.sum_map_add.symm
    _ = ((walls poly).map fun w => ind (On p w) * ind (LeftOf p u q) +
          ind (¬On p w ∧ Crosses p w)).sum := by rw [List.map_congr_left hq]
    _ = _ := by rw [List.sum_map_add, List.sum_map_mul_right]; rfl

/-- If the walls are an even number, their line does not matter. -/
theorem parity_locally_const {p u : ℝ × ℝ} (h : Along poly p u) (heven : ¬OddlyOn poly p) :
    ∀ᶠ q in 𝓝 p, parity poly (Crosses q) = parity poly (Crosses p) := by
  have hzero : parity poly (On p) = 0 := (eq_zero_or_one _).resolve_right heven
  have hnear := parity_eventually h
  simp only [hzero, zero_mul, zero_add] at hnear
  filter_upwards [hnear] with q hq
  rw [hq, hnear.self_of_nhds]

theorem not_oddlyOn_of_not_onWall {p : ℝ × ℝ} (h : ¬OnWall poly p) : ¬OddlyOn poly p := by
  have hzero : parity poly (On p) = 0 := by
    refine List.sum_eq_zero fun x hx => ?_
    obtain ⟨w, hw, rfl⟩ := List.mem_map.1 hx
    exact ind_of_not fun hon => h ⟨w, hw, hon⟩
  rw [OddlyOn, hzero]
  exact zero_ne_one

/-- Off the walls, the ray crosses as often nearby. -/
theorem parity_off_walls {p : ℝ × ℝ} (h : ¬OnWall poly p) :
    ∀ᶠ q in 𝓝 p, parity poly (Crosses q) = parity poly (Crosses p) :=
  parity_locally_const (u := 0) (fun w hw hon => absurd ⟨w, hw, hon⟩ h)
    (not_oddlyOn_of_not_onWall h)

theorem isClosed_onWall (poly : List (ℝ × ℝ)) : IsClosed {q | OnWall poly q} := by
  have hunion : {q | OnWall poly q} = ⋃ w ∈ {w | w ∈ walls poly}, segment ℝ w.1 w.2 := by
    ext q
    simp [OnWall, On]
  rw [hunion]
  refine (List.finite_toSet (walls poly)).isClosed_biUnion fun w _ => ?_
  rw [← closure_openSegment]
  exact isClosed_closure

/-- The region is closed. -/
theorem isClosed_region (poly : List (ℝ × ℝ)) : IsClosed (region poly) := by
  rw [← isOpen_compl_iff, isOpen_iff_mem_nhds]
  intro p hp
  obtain ⟨hwall, hinside⟩ : ¬OnWall poly p ∧ ¬Inside poly p := not_or.1 hp
  filter_upwards [(isClosed_onWall poly).isOpen_compl.mem_nhds hwall, parity_off_walls hwall]
    with q hq hsame
  refine not_or.2 ⟨hq, fun hin => hinside ?_⟩
  rwa [Inside, ← hsame]

/-! ## Corners -/

/-- How far two directions are from being along one line. -/
def det (u v : ℝ × ℝ) : ℝ := u.1 * v.2 - u.2 * v.1

theorem exists_smul_of_det {u v : ℝ × ℝ} (hu : u ≠ 0) (hv : v ≠ 0) (h : det u v = 0) :
    ∃ t : ℝ, t ≠ 0 ∧ v = t • u := by
  obtain ⟨t, rfl⟩ : ∃ t : ℝ, v = t • u := by
    rw [det, sub_eq_zero] at h
    by_cases hfst : u.1 = 0
    · have hsnd : u.2 ≠ 0 := fun hsnd => hu (Prod.ext hfst hsnd)
      rw [hfst, zero_mul, eq_comm, mul_eq_zero, or_iff_right hsnd] at h
      refine ⟨v.2 / u.2, Prod.ext ?_ ?_⟩
      · rw [Prod.smul_fst, hfst, smul_zero, h]
      · rw [Prod.smul_snd, smul_eq_mul, div_mul_cancel₀ _ hsnd]
    · refine ⟨v.1 / u.1, Prod.ext ?_ ?_⟩
      · rw [Prod.smul_fst, smul_eq_mul, div_mul_cancel₀ _ hfst]
      · rw [Prod.smul_snd, smul_eq_mul, div_mul_eq_mul_div, mul_comm v.1, ← h,
          mul_div_cancel_left₀ _ hfst]
  refine ⟨t, ?_, rfl⟩
  rintro rfl
  exact hv (zero_smul ℝ u)

/-- The vertices, and where walls with different directions meet. -/
def corners (poly : List (ℝ × ℝ)) : Set (ℝ × ℝ) :=
  {p | ∃ w ∈ walls poly, On p w ∧ (p = w.1 ∨ p = w.2)} ∪
    {p | ∃ w ∈ walls poly, ∃ w' ∈ walls poly,
      On p w ∧ On p w' ∧ det (w.2 - w.1) (w'.2 - w'.1) ≠ 0}

theorem along_of_not_corner {p : ℝ × ℝ} (h : p ∉ corners poly) : ∃ u, Along poly p u := by
  have hends : ∀ w ∈ walls poly, On p w → p ≠ w.1 ∧ p ≠ w.2 := by
    intro w hw hon
    exact ⟨fun heq => h (Or.inl ⟨w, hw, hon, Or.inl heq⟩),
      fun heq => h (Or.inl ⟨w, hw, hon, Or.inr heq⟩)⟩
  have hne : ∀ w ∈ walls poly, On p w → w.2 - w.1 ≠ 0 := by
    intro w hw hon hzero
    have hon' : p ∈ segment ℝ w.1 w.2 := hon
    rw [sub_eq_zero.1 hzero, segment_same] at hon'
    exact (hends w hw hon).1 hon'
  by_cases hwall : OnWall poly p
  · obtain ⟨w₀, hw₀, hon₀⟩ := hwall
    refine ⟨w₀.2 - w₀.1, fun w hw hon => ⟨(hends w hw hon).1, (hends w hw hon).2, ?_⟩⟩
    refine exists_smul_of_det (hne w₀ hw₀ hon₀) (hne w hw hon) ?_
    by_contra hdet
    exact h (Or.inr ⟨w₀, hw₀, w, hw, hon₀, hon, hdet⟩)
  · exact ⟨0, fun w hw hon => absurd ⟨w, hw, hon⟩ hwall⟩

/-- Walls with different directions meet once. -/
theorem meet_once {w w' : (ℝ × ℝ) × (ℝ × ℝ)} (h : det (w.2 - w.1) (w'.2 - w'.1) ≠ 0) :
    {p | On p w ∧ On p w'}.Subsingleton := by
  rintro p ⟨hp, hp'⟩ q ⟨hq, hq'⟩
  simp only [On, segment_eq_image'] at hp hp' hq hq'
  obtain ⟨s, -, rfl⟩ := hp
  obtain ⟨t, -, rfl⟩ := hq
  obtain ⟨s', -, hs⟩ := hp'
  obtain ⟨t', -, ht⟩ := hq'
  have hdiff : (s - t) • (w.2 - w.1) = (s' - t') • (w'.2 - w'.1) :=
    calc (s - t) • (w.2 - w.1) = w.1 + s • (w.2 - w.1) - (w.1 + t • (w.2 - w.1)) := by
          rw [add_sub_add_left_eq_sub, sub_smul]
      _ = w'.1 + s' • (w'.2 - w'.1) - (w'.1 + t' • (w'.2 - w'.1)) :=
          congrArg₂ (· - ·) hs.symm ht.symm
      _ = (s' - t') • (w'.2 - w'.1) := by rw [add_sub_add_left_eq_sub, sub_smul]
  have hdet : (s - t) * det (w.2 - w.1) (w'.2 - w'.1) = 0 := by
    have hfst := congrArg Prod.fst hdiff
    have hsnd := congrArg Prod.snd hdiff
    simp only [Prod.smul_fst, Prod.smul_snd, smul_eq_mul] at hfst hsnd
    unfold det
    linear_combination (w'.2 - w'.1).2 * hfst - (w'.2 - w'.1).1 * hsnd
  rw [sub_eq_zero.1 ((mul_eq_zero.1 hdet).resolve_right h)]

theorem finite_corners (poly : List (ℝ × ℝ)) : (corners poly).Finite := by
  have hwalls : {w | w ∈ walls poly}.Finite := List.finite_toSet _
  refine Set.Finite.union ?_ ?_
  · refine (hwalls.biUnion fun w _ => (finite_singleton w.1).union (finite_singleton w.2)).subset ?_
    rintro p ⟨w, hw, -, hend⟩
    exact mem_biUnion hw hend
  · have hpairs : ∀ w w' : (ℝ × ℝ) × (ℝ × ℝ),
        {p | On p w ∧ On p w' ∧ det (w.2 - w.1) (w'.2 - w'.1) ≠ 0}.Finite := by
      intro w w'
      by_cases hdet : det (w.2 - w.1) (w'.2 - w'.1) = 0
      · exact finite_empty.subset fun p hp => hp.2.2 hdet
      · exact (meet_once hdet).finite.subset fun p hp => ⟨hp.1, hp.2.1⟩
    refine (hwalls.biUnion fun w _ => hwalls.biUnion fun w' _ => hpairs w w').subset ?_
    rintro p ⟨w, hw, w', hw', hp⟩
    exact mem_biUnion hw (mem_biUnion hw' hp)

theorem onWall_of_corner {p : ℝ × ℝ} (h : p ∈ corners poly) : OnWall poly p := by
  rcases h with ⟨w, hw, hon, -⟩ | ⟨w, hw, -, -, hon, -⟩
  · exact ⟨w, hw, hon⟩
  · exact ⟨w, hw, hon⟩

/-! ## Lines -/

theorem line_ne_top (a b : ℝ × ℝ) : line[ℝ, a, b] ≠ ⊤ := by
  intro htop
  have hrank : Module.finrank ℝ (vectorSpan ℝ {a, b}) ≤ 1 :=
    collinear_iff_finrank_le_one.1 (collinear_pair ℝ a b)
  rw [← direction_affineSpan, htop, AffineSubspace.direction_top, finrank_top,
    Module.finrank_prod, Module.finrank_self] at hrank
  norm_num at hrank

open MeasureTheory in
/-- What finitely many lines leave out is dense. -/
theorem dense_compl_lines {s : Set ((ℝ × ℝ) × (ℝ × ℝ))} (hs : s.Finite) :
    Dense (⋃ w ∈ s, (line[ℝ, w.1, w.2] : Set (ℝ × ℝ)))ᶜ := by
  refine interior_eq_empty_iff_dense_compl.1 (volume.interior_eq_empty_of_null ?_)
  exact (measure_biUnion_null_iff hs.countable).2 fun w _ =>
    Measure.addHaar_affineSubspace volume _ (line_ne_top w.1 w.2)

theorem dense_off_walls (poly : List (ℝ × ℝ)) : Dense {q | ¬OnWall poly q} := by
  refine (dense_compl_lines (List.finite_toSet (walls poly))).mono ?_
  rintro q hq ⟨w, hw, hon⟩
  exact hq (mem_biUnion hw (mem_segment_iff_wbtw.1 hon).mem_affineSpan)

/-- A convex open set stays connected without finitely many points. -/
theorem isPreconnected_diff {U F : Set (ℝ × ℝ)} (hopen : IsOpen U) (hconv : Convex ℝ U)
    (hF : F.Finite) : IsPreconnected (U \ F) := by
  -- a segment from a point that is not in `F` stays off `F`, if its line does
  have hsegment : ∀ x ∈ U \ F, ∀ m ∈ U, (∀ f ∈ F, m ∉ line[ℝ, x, f]) →
      segment ℝ x m ⊆ U \ F := by
    intro x hx m hm hlines q hq
    refine ⟨hconv.segment_subset hx.1 hm hq, fun hqF => hlines q hqF ?_⟩
    refine (mem_segment_iff_wbtw.1 hq).right_mem_affineSpan_of_left_ne ?_
    rintro rfl
    exact hx.2 hqF
  refine isPreconnected_of_forall_pair fun x hx y hy => ?_
  have hlines : ((({x, y} : Set (ℝ × ℝ)) ×ˢ F)).Finite := (toFinite _).prod hF
  obtain ⟨m, hm, hoff⟩ := (dense_compl_lines hlines).inter_open_nonempty U hopen ⟨x, hx.1⟩
  have hmx : segment ℝ x m ⊆ U \ F := hsegment x hx m hm fun f hf hline =>
    hoff (mem_biUnion (mk_mem_prod (mem_insert x _) hf) hline)
  have hmy : segment ℝ y m ⊆ U \ F := hsegment y hy m hm fun f hf hline =>
    hoff (mem_biUnion (mk_mem_prod (mem_insert_of_mem x rfl) hf) hline)
  refine ⟨segment ℝ x m ∪ segment ℝ y m, union_subset hmx hmy,
    Or.inl (left_mem_segment ℝ x m), Or.inr (left_mem_segment ℝ y m), ?_⟩
  exact IsPreconnected.union m (right_mem_segment ℝ x m) (right_mem_segment ℝ y m)
    (convex_segment x m).isPreconnected (convex_segment y m).isPreconnected

/-! ## A convex set in a polygon -/

/-- The side is the sign of a continuous function that takes all signs at `p`. -/
theorem leftOf_sign (p u : ℝ × ℝ) : ∃ (g : ℝ × ℝ → ℝ) (n : ℝ × ℝ), Continuous g ∧
    (∀ q, LeftOf p u q ↔ g q < 0) ∧ ∀ t : ℝ, g (p + t • n) = t := by
  by_cases hlevel : u.2 = 0
  · refine ⟨fun q => q.2 - p.2, (0, 1), by fun_prop, fun q => ?_, fun t => ?_⟩
    · rw [LeftOf, if_pos hlevel, sub_neg]
    · simp
  · refine ⟨fun q => q.1 - (p.1 + u.1 / u.2 * (q.2 - p.2)), (1, 0), by fun_prop, fun q => ?_,
      fun t => ?_⟩
    · rw [LeftOf, if_neg hlevel, sub_neg]
    · simp

/-- Near a point there are points off the walls in every open set that comes up to it. -/
theorem exists_off_walls (poly : List (ℝ × ℝ)) {p : ℝ × ℝ} {O W : Set (ℝ × ℝ)} (hO : IsOpen O)
    (hp : p ∈ closure O) (hW : W ∈ 𝓝 p) : ∃ q ∈ W, ¬OnWall poly q ∧ q ∈ O := by
  have hclosure : p ∈ closure (O ∩ {q | ¬OnWall poly q}) :=
    closure_minimal ((dense_off_walls poly).open_subset_closure_inter hO) isClosed_closure hp
  obtain ⟨q, hqW, hqO, hoff⟩ := mem_closure_iff_nhds.1 hclosure W hW
  exact ⟨q, hqW, hoff, hqO⟩

/-- Near a point of a line there are points off the walls on each side. -/
theorem exists_side (poly : List (ℝ × ℝ)) (p u : ℝ × ℝ) {W : Set (ℝ × ℝ)} (hW : W ∈ 𝓝 p)
    (x : ZMod 2) : ∃ q ∈ W, ¬OnWall poly q ∧ ind (LeftOf p u q) = x := by
  obtain ⟨g, n, hg, hleft, hn⟩ := leftOf_sign p u
  have htendsto : Tendsto (fun t : ℝ => p + t • n) (𝓝 0) (𝓝 p) := by
    have hcont : Continuous fun t : ℝ => p + t • n := by fun_prop
    simpa using hcont.tendsto 0
  rcases eq_zero_or_one x with rfl | rfl
  · have hp : p ∈ closure {q | 0 < g q} := by
      refine mem_closure_of_tendsto (htendsto.mono_left (nhdsWithin_le_nhds (s := Ioi 0))) ?_
      filter_upwards [self_mem_nhdsWithin] with t ht
      rwa [hn]
    obtain ⟨q, hq, hoff, hside⟩ := exists_off_walls poly (isOpen_lt continuous_const hg) hp hW
    exact ⟨q, hq, hoff, ind_of_not fun h => (hside : 0 < g q).not_gt ((hleft q).1 h)⟩
  · have hp : p ∈ closure {q | g q < 0} := by
      refine mem_closure_of_tendsto (htendsto.mono_left (nhdsWithin_le_nhds (s := Iio 0))) ?_
      filter_upwards [self_mem_nhdsWithin] with t ht
      rwa [hn]
    obtain ⟨q, hq, hoff, hside⟩ := exists_off_walls poly (isOpen_lt hg continuous_const) hp hW
    exact ⟨q, hq, hoff, ind_of ((hleft q).2 hside)⟩

/-- The points around which the ray crosses `x` walls, modulo two. -/
def settled (poly : List (ℝ × ℝ)) (x : ZMod 2) : Set (ℝ × ℝ) :=
  {p | ∀ᶠ q in 𝓝 p, parity poly (Crosses q) = x}

theorem isOpen_settled (poly : List (ℝ × ℝ)) (x : ZMod 2) : IsOpen (settled poly x) :=
  isOpen_setOfPred_eventually_nhds

theorem disjoint_settled (poly : List (ℝ × ℝ)) : Disjoint (settled poly 1) (settled poly 0) := by
  rw [Set.disjoint_left]
  intro p hone hzero
  exact one_ne_zero (hone.self_of_nhds.symm.trans hzero.self_of_nhds)

/-- A wall that an open set of the polygon is on both sides of is one of an even number. -/
theorem corner_of_oddlyOn {U : Set (ℝ × ℝ)} (hopen : IsOpen U) (hsub : U ⊆ region poly)
    {p : ℝ × ℝ} (hp : p ∈ U) (hodd : OddlyOn poly p) : p ∈ corners poly := by
  by_contra hcorner
  obtain ⟨u, hu⟩ := along_of_not_corner hcorner
  have hnear := parity_eventually hu
  rw [hodd] at hnear
  -- on one side of the line the ray crosses an even number of walls
  obtain ⟨q, ⟨hqU, hq⟩, hoff, hside⟩ := exists_side poly p u
    (inter_mem (hopen.mem_nhds hp) hnear) (parity poly fun w => ¬On p w ∧ Crosses p w)
  have heven : parity poly (Crosses q) = 0 := by
    have hq' : parity poly (Crosses q) = _ := hq
    rw [hq', hside, one_mul, CharTwo.add_self_eq_zero]
  rcases hsub hqU with hwall | hinside
  · exact hoff hwall
  · rw [Inside, heven] at hinside
    exact zero_ne_one hinside

/-- The points of `U` around which nothing is said: corners, and those on an odd number of walls. -/
def unsettled (poly : List (ℝ × ℝ)) (U : Set (ℝ × ℝ)) : Set (ℝ × ℝ) :=
  corners poly ∪ {q | q ∈ U ∧ OddlyOn poly q}

theorem not_unsettled {U : Set (ℝ × ℝ)} {q : ℝ × ℝ} (h : ¬OnWall poly q) :
    q ∉ unsettled poly U := by
  rintro (hcorner | ⟨-, hodd⟩)
  · exact h (onWall_of_corner hcorner)
  · exact not_oddlyOn_of_not_onWall h hodd

theorem diff_unsettled (poly : List (ℝ × ℝ)) (U : Set (ℝ × ℝ)) :
    U \ unsettled poly U ⊆ settled poly 1 ∪ settled poly 0 := by
  rintro p ⟨hp, hbad⟩
  obtain ⟨u, hu⟩ := along_of_not_corner fun hcorner => hbad (Or.inl hcorner)
  have hconst := parity_locally_const hu fun hodd => hbad (Or.inr ⟨hp, hodd⟩)
  rcases eq_zero_or_one (parity poly (Crosses p)) with h | h
  · exact Or.inr (h ▸ hconst)
  · exact Or.inl (h ▸ hconst)

/-- What is settled around one point of a convex open set is so in all of it. -/
theorem diff_subset_settled {U : Set (ℝ × ℝ)} (hopen : IsOpen U) (hconv : Convex ℝ U)
    (hfinite : (unsettled poly U).Finite) {q : ℝ × ℝ} (hq : q ∈ U)
    (hstrict : StrictlyInside poly q) : U \ unsettled poly U ⊆ settled poly 1 := by
  refine (isPreconnected_diff hopen hconv hfinite).subset_left_of_subset_union
    (isOpen_settled poly 1) (isOpen_settled poly 0) (disjoint_settled poly)
    (diff_unsettled poly U) ⟨q, ⟨hq, not_unsettled hstrict.1⟩, ?_⟩
  have hconst := parity_off_walls hstrict.1
  rw [hstrict.2] at hconst
  exact hconst

/-- **A convex set is in a polygon** exactly when one of its inner points is strictly inside and
    only finitely many of them are on an odd number of walls. -/
theorem closure_subset_region_iff {U : Set (ℝ × ℝ)} (hopen : IsOpen U) (hconv : Convex ℝ U)
    (hne : U.Nonempty) : closure U ⊆ region poly ↔
      (∃ q ∈ U, StrictlyInside poly q) ∧ {q | q ∈ U ∧ OddlyOn poly q}.Finite := by
  constructor
  · intro hsub
    have hsub' : U ⊆ region poly := subset_closure.trans hsub
    refine ⟨?_, (finite_corners poly).subset fun p hp => corner_of_oddlyOn hopen hsub' hp.1 hp.2⟩
    obtain ⟨q, hq, hoff⟩ := (dense_off_walls poly).inter_open_nonempty U hopen hne
    exact ⟨q, hq, hoff, (hsub' hq).resolve_left hoff⟩
  · rintro ⟨⟨q, hq, hstrict⟩, hodd⟩
    have hfinite : (unsettled poly U).Finite := (finite_corners poly).union hodd
    have hregion : U \ unsettled poly U ⊆ region poly := fun p hp =>
      Or.inr (diff_subset_settled hopen hconv hfinite hq hstrict hp).self_of_nhds
    refine closure_minimal ?_ (isClosed_region poly)
    exact ((hfinite.countable.dense_compl ℝ).open_subset_closure_inter hopen).trans
      (closure_minimal hregion (isClosed_region poly))

end Lib.EvenOdd
