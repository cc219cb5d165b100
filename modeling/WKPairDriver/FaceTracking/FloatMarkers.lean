import WKPairDriver.Lib.Rounding
import WKPairDriver.FaceTracking.QuantileMarkers

/-!
# The quantile markers in single precision

`PsqStep` with every operation rounded, as `float` arithmetic does.  The heights are numbers of the
format, and so are the positions, which count observations.

* `PsqStep_exact` — in exact arithmetic the step is that of the calibration engine.
* `Ordered.step` — a step keeps the markers in order, as long as the count is exact.
* `marker_invariant_iff` — along a stream the markers are in order, the last position is the
  number of observations, the five initial ones among them, and no denominator is zero, exactly as
  long as there are at most `2 ^ 24` of them.
-/

set_option autoImplicit false

namespace WKPairDriver.FaceTracking.FloatMarkers

open Lib Lib.BinaryFloat
open Calibration (below inner above psqCell Markers ShapeCalib)

variable {K : Type} [Field K] [LinearOrder K]

/-! ## The step -/

section Step

variable (R : Rounding K) (m : Markers K) (i : Fin 3) (d : K)

/-- `h1` of `PsqUpdate`. -/
def gapAbove : K := R.fl (m.2 (above i) - m.2 (inner i))

/-- `h2` of `PsqUpdate`. -/
def gapBelow : K := R.fl (m.2 (inner i) - m.2 (below i))

def PsqUpdate : K :=
  let h1 := gapAbove R m i
  let h2 := gapBelow R m i
  let q := m.1
  R.fl (q (inner i) + R.fl (R.fl (d / R.fl (h1 + h2)) *
    R.fl (R.fl (R.fl (h2 / h1) * R.fl (q (above i) - q (inner i))) +
      R.fl (R.fl (h1 / h2) * R.fl (q (inner i) - q (below i))))))

/-- The neighbour `j` of `PsqLinear`. -/
def neighbour : Fin 5 := if d > 0 then above i else below i

/-- The denominator of `PsqLinear`. -/
def gapTo : K := R.fl (m.2 (neighbour i d) - m.2 (inner i))

def PsqLinear : K :=
  R.fl (m.1 (inner i) +
    R.fl (R.fl (d * R.fl (m.1 (neighbour i d) - m.1 (inner i))) / gapTo R m i d))

/-- The inner marker is moved. -/
def move : Markers K :=
  let q_new := PsqUpdate R m i d
  (if q_new > m.1 (below i) ∧ q_new < m.1 (above i) then Function.update m.1 (inner i) q_new
    else Function.update m.1 (inner i) (PsqLinear R m i d),
    Function.update m.2 (inner i) (R.fl (m.2 (inner i) + d)))

variable (dn : Fin 5 → K)

/-- `di`. -/
def distance : K := R.fl (dn (inner i) - m.2 (inner i))

/-- The direction of the move. -/
def direction : K := if distance R m i dn > 0 then 1 else -1

/-- Step 3 of `PsqStep` moves the inner marker. -/
def Moves : Prop :=
  (distance R m i dn ≥ 1 ∧ R.fl (m.2 (above i) - m.2 (inner i)) > 1) ∨
    (distance R m i dn ≤ -1 ∧ R.fl (m.2 (below i) - m.2 (inner i)) < -1)

instance : Decidable (Moves R m i dn) := inferInstanceAs (Decidable (_ ∨ _))

/-- Step 3 of `PsqStep` for one inner marker. -/
def psqAdjust : Markers K := if Moves R m i dn then move R m i (direction R m i dn) else m

/-- Steps 1 and 2 of `PsqStep`. -/
def counted (x : K) : Markers K :=
  ((psqCell m.1 x).1, fun j => if (psqCell m.1 x).2 < j.1 then R.fl (m.2 j + 1) else m.2 j)

/-- The markers when step 3 comes to an inner marker. -/
def adjusting (x : K) : Markers K :=
  ((List.finRange 3).take i.1).foldl (fun m j => psqAdjust R m j dn) (counted R m x)

/-- `PsqStep`. -/
def PsqStep (x : K) : Markers K :=
  (List.finRange 3).foldl (fun m j => psqAdjust R m j dn) (counted R m x)

end Step

/-- In exact arithmetic it is the step of the calibration engine. -/
theorem PsqStep_exact [IsStrictOrderedRing K] (m : Markers K) (dn : Fin 5 → K) (x : K) :
    PsqStep (.exact K) m dn x = Calibration.PsqStep m.1 m.2 dn x := rfl

/-! ## What the markers keep -/

/-- The markers among `N` observations, the positions being counts. -/
structure Ordered (R : Rounding K) (N : ℕ) (m : Markers K) : Prop where
  heights : Monotone m.1
  stored : ∀ i, R.fl (m.1 i) = m.1 i
  positions : ∃ p : Fin 5 → ℕ, StrictMono p ∧ p 0 = 1 ∧ p 4 = N ∧ ∀ i, m.2 i = p i

/-- The heights are nondecreasing, the positions strictly increasing, from 1 to the number of
    observations. -/
structure Sound (N : ℕ) (m : Markers K) : Prop where
  heights : Monotone m.1
  positions : StrictMono m.2
  first : m.2 0 = 1
  last : m.2 4 = N

/-- The denominators of both adjustments of an inner marker. -/
structure Divides (R : Rounding K) (m : Markers K) (i : Fin 3) (d : K) : Prop where
  gapAbove : gapAbove R m i ≠ 0
  gapBelow : gapBelow R m i ≠ 0
  sum : R.fl (FloatMarkers.gapAbove R m i + FloatMarkers.gapBelow R m i) ≠ 0
  gapTo : gapTo R m i d ≠ 0

/-- The naturals that are exact. -/
def ExactTo (R : Rounding K) (N : ℕ) : Prop := ∀ n : ℕ, n ≤ N → R.fl n = n

theorem monotone_update {q : Fin 5 → K} (h : Monotone q) {i : Fin 5} {v : K}
    (hlow : ∀ j < i, q j ≤ v) (hhigh : ∀ j, i < j → v ≤ q j) :
    Monotone (Function.update q i v) := by
  intro a b hab
  rcases eq_or_ne a i with rfl | ha
  · rcases eq_or_ne b a with rfl | hb
    · exact le_rfl
    · rw [Function.update_self, Function.update_of_ne hb]
      exact hhigh b (lt_of_le_of_ne hab hb.symm)
  · rw [Function.update_of_ne ha]
    rcases eq_or_ne b i with rfl | hb
    · rw [Function.update_self]
      exact hlow a (lt_of_le_of_ne hab ha)
    · rw [Function.update_of_ne hb]
      exact h hab

theorem below_lt_inner (i : Fin 3) : below i < inner i := Nat.lt_succ_self i.1

theorem inner_lt_above (i : Fin 3) : inner i < above i := Nat.lt_succ_self (i.1 + 1)

theorem le_below {i : Fin 3} {j : Fin 5} (h : j < inner i) : j ≤ below i := Nat.lt_succ_iff.1 h

theorem above_le {i : Fin 3} {j : Fin 5} (h : inner i < j) : above i ≤ j := h

variable [IsStrictOrderedRing K] {R : Rounding K} {N : ℕ} {m : Markers K}

theorem Ordered.sound (h : Ordered R N m) : Sound N m := by
  obtain ⟨p, hp, h0, h4, heq⟩ := h.positions
  refine ⟨h.heights, fun i j hij => ?_, by rw [heq, h0, Nat.cast_one], by rw [heq, h4]⟩
  rw [heq, heq]
  exact_mod_cast hp hij

namespace ExactTo

variable (hR : ExactTo R N) {a b : ℕ}
include hR

theorem sub (ha : a ≤ N) (hb : b ≤ N) : R.fl ((a : K) - b) = a - b := by
  rcases le_total b a with h | h
  · rw [← Nat.cast_sub h, hR _ (by omega)]
  · rw [← neg_sub, R.fl_neg, ← Nat.cast_sub h, hR _ (by omega)]

theorem add (h : a + b ≤ N) : R.fl ((a : K) + b) = a + b := by
  rw [← Nat.cast_add, hR _ h]

end ExactTo

/-- A step to the left or to the right of an exact position. -/
theorem ExactTo.divides (hR : ExactTo R N) (h : Ordered R N m) (i : Fin 3) (d : K) :
    Divides R m i d := by
  obtain ⟨p, hp, h0, h4, heq⟩ := h.positions
  have hle (j : Fin 5) : p j ≤ N := h4 ▸ hp.monotone (Fin.le_last j)
  have hsub (j k : Fin 5) : R.fl (m.2 j - m.2 k) = p j - p k := by
    rw [heq, heq, hR.sub (hle j) (hle k)]
  have hlow : p (below i) < p (inner i) := hp (below_lt_inner i)
  have hhigh : p (inner i) < p (above i) := hp (inner_lt_above i)
  have hlow' : (p (below i) : K) < p (inner i) := by exact_mod_cast hlow
  have hhigh' : (p (inner i) : K) < p (above i) := by exact_mod_cast hhigh
  refine ⟨?_, ?_, ?_, ?_⟩
  · rw [gapAbove, hsub]
    exact (sub_pos.2 hhigh').ne'
  · rw [gapBelow, hsub]
    exact (sub_pos.2 hlow').ne'
  · rw [gapAbove, gapBelow, hsub, hsub, sub_add_sub_cancel, hR.sub (hle _) (hle _)]
    exact (sub_pos.2 (hlow'.trans hhigh')).ne'
  · rw [gapTo, hsub, neighbour]
    split_ifs
    · exact (sub_pos.2 hhigh').ne'
    · exact (sub_neg.2 hlow').ne

/-! ## One step -/

/-- Room for a move of the inner marker in a direction. -/
def Room (p : Fin 5 → ℕ) (i : Fin 3) (d : K) : Prop :=
  (d = 1 ∧ p (inner i) + 1 < p (above i)) ∨ (d = -1 ∧ p (below i) + 1 < p (inner i))

theorem ExactTo.room (hR : ExactTo R N) {p : Fin 5 → ℕ} (hle : ∀ j, p j ≤ N)
    (heq : ∀ j, m.2 j = p j) {i : Fin 3} {dn : Fin 5 → K} (h : Moves R m i dn) :
    Room p i (direction R m i dn) := by
  unfold Moves at h
  rw [heq, heq, heq, hR.sub (hle _) (hle _), hR.sub (hle _) (hle _)] at h
  unfold direction Room
  by_cases hd : distance R m i dn > 0
  · rw [if_pos hd]
    rcases h with ⟨-, hroom⟩ | ⟨hback, -⟩
    · refine .inl ⟨rfl, ?_⟩
      have : (p (inner i) : K) + 1 < p (above i) := by linarith
      exact_mod_cast this
    · linarith
  · rw [if_neg hd]
    rcases h with ⟨hforth, -⟩ | ⟨-, hroom⟩
    · linarith
    · refine .inr ⟨rfl, ?_⟩
      have : (p (below i) : K) + 1 < p (inner i) := by linarith
      exact_mod_cast this

/-- The linear adjustment does not pass the neighbours. -/
theorem Ordered.linear_mem (h : Ordered R N m) (hR : ExactTo R N) {p : Fin 5 → ℕ}
    (hle : ∀ j, p j ≤ N) (heq : ∀ j, m.2 j = p j) {i : Fin 3} {d : K} (hroom : Room p i d) :
    m.1 (below i) ≤ PsqLinear R m i d ∧ PsqLinear R m i d ≤ m.1 (above i) := by
  have hlow := h.heights (below_lt_inner i).le
  have hhigh := h.heights (inner_lt_above i).le
  rcases hroom with ⟨rfl, hroom⟩ | ⟨rfl, hroom⟩
  · have hgap : gapTo R m i 1 = p (above i) - p (inner i) := by
      rw [gapTo, neighbour, if_pos zero_lt_one, heq, heq, hR.sub (hle _) (hle _)]
    have htwo : (2 : K) ≤ p (above i) - p (inner i) := by
      have : (p (inner i) : K) + 2 ≤ p (above i) := by exact_mod_cast hroom
      linarith
    rw [PsqLinear, hgap, neighbour, if_pos zero_lt_one, one_mul, R.fl_fl]
    obtain ⟨hge, hle⟩ := Rounding.toward_mem (h.stored _) (h.stored _) hhigh htwo
    exact ⟨hlow.trans hge, hle⟩
  · have hneg : ¬ ((-1 : K) > 0) := by norm_num
    have hgap : gapTo R m i (-1) = -(p (inner i) - p (below i)) := by
      rw [gapTo, neighbour, if_neg hneg, heq, heq, hR.sub (hle _) (hle _), neg_sub]
    have htwo : (2 : K) ≤ p (inner i) - p (below i) := by
      have : (p (below i) : K) + 2 ≤ p (inner i) := by exact_mod_cast hroom
      linarith
    rw [PsqLinear, hgap, neighbour, if_neg hneg, neg_one_mul, ← R.fl_neg, neg_sub, R.fl_fl,
      div_neg, R.fl_neg, ← sub_eq_add_neg]
    obtain ⟨hge, hle⟩ := Rounding.toward_mem' (h.stored _) (h.stored _) hlow htwo
    exact ⟨hge, hle.trans hhigh⟩

/-- A new height between the neighbours, and a new position. -/
theorem Ordered.update (h : Ordered R N m) {p : Fin 5 → ℕ} (hp : StrictMono p) (h0 : p 0 = 1)
    (h4 : p 4 = N) (heq : ∀ j, m.2 j = p j) {i : Fin 3} {v : K} {k : ℕ} (hv : R.fl v = v)
    (hlow : m.1 (below i) ≤ v) (hhigh : v ≤ m.1 (above i)) (hk : p (below i) < k)
    (hk' : k < p (above i)) :
    Ordered R N (Function.update m.1 (inner i) v, Function.update m.2 (inner i) (k : K)) where
  heights := monotone_update h.heights (fun j hj => (h.heights (le_below hj)).trans hlow)
    fun j hj => hhigh.trans (h.heights (above_le hj))
  stored := by
    intro j
    rcases eq_or_ne j (inner i) with rfl | hj
    · simpa using hv
    · simpa [hj] using h.stored j
  positions := by
    refine ⟨Function.update p (inner i) k, ?_, ?_, ?_, ?_⟩
    · intro a b hab
      rcases eq_or_ne a (inner i) with rfl | ha
      · rw [Function.update_self, Function.update_of_ne hab.ne']
        exact hk'.trans_le (hp.monotone (above_le hab))
      · rw [Function.update_of_ne ha]
        rcases eq_or_ne b (inner i) with rfl | hb
        · rw [Function.update_self]
          exact (hp.monotone (le_below hab)).trans_lt hk
        · rw [Function.update_of_ne hb]
          exact hp hab
    · rw [Function.update_of_ne (below_lt_inner i |>.trans_le' (Fin.zero_le _)).ne]
      exact h0
    · exact (Function.update_of_ne ((inner_lt_above i).trans_le (Fin.le_last _)).ne' ..).trans h4
    · intro j
      rcases eq_or_ne j (inner i) with rfl | hj
      · simp
      · simpa [hj] using heq j

theorem Ordered.adjust (h : Ordered R N m) (hR : ExactTo R N) (i : Fin 3) (dn : Fin 5 → K) :
    Ordered R N (psqAdjust R m i dn) := by
  obtain ⟨p, hp, h0, h4, heq⟩ := h.positions
  have hle (j : Fin 5) : p j ≤ N := h4 ▸ hp.monotone (Fin.le_last j)
  unfold psqAdjust
  split_ifs with hmoves
  · have hroom := hR.room hle heq hmoves
    generalize direction R m i dn = d at hroom
    have hlinear := h.linear_mem hR hle heq hroom
    have hlow : p (below i) < p (inner i) := hp (below_lt_inner i)
    have hhigh : p (inner i) < p (above i) := hp (inner_lt_above i)
    -- the position behind the move
    obtain ⟨k, hk, hbelow, habove⟩ : ∃ k : ℕ, R.fl (m.2 (inner i) + d) = k ∧
        p (below i) < k ∧ k < p (above i) := by
      rw [heq]
      rcases hroom with ⟨rfl, hroom⟩ | ⟨rfl, hroom⟩
      · refine ⟨p (inner i) + 1, ?_, by omega, hroom⟩
        have hadd := hR.add (a := p (inner i)) (b := 1) (by have := hle (above i); omega)
        rw [Nat.cast_one] at hadd
        rw [hadd]
        push_cast
        rfl
      · refine ⟨p (inner i) - 1, ?_, by omega, by omega⟩
        have hsub := hR.sub (hle (inner i)) (show 1 ≤ N by have := hle (inner i); omega)
        rw [Nat.cast_one] at hsub
        rw [← sub_eq_add_neg, hsub, Nat.cast_sub (by omega), Nat.cast_one]
    unfold move
    dsimp only
    rw [hk]
    split_ifs with hbetween
    · exact h.update hp h0 h4 heq (R.fl_fl _) hbetween.1.le hbetween.2.le hbelow habove
    · exact h.update hp h0 h4 heq (R.fl_fl _) hlinear.1 hlinear.2 hbelow habove
  · exact h

omit [Field K] [IsStrictOrderedRing K] in
/-- Only an observation outside the markers stretches an outer one. -/
theorem psqCell_cases (q : Fin 5 → K) (x : K) :
    (psqCell q x).1 = q ∨ (x < q 0 ∧ (psqCell q x).1 = Function.update q 0 x) ∨
      (q 4 < x ∧ (psqCell q x).1 = Function.update q 4 x) := by
  unfold psqCell
  split_ifs with h0 h1 h2 h3 h4
  · exact .inr (.inl ⟨h0, rfl⟩)
  · exact .inl rfl
  · exact .inl rfl
  · exact .inl rfl
  · exact .inl rfl
  · exact .inr (.inr ⟨not_le.1 h4, rfl⟩)

theorem Ordered.counted (h : Ordered R N m) (hR : ExactTo R (N + 1)) {x : K} (hx : R.fl x = x) :
    Ordered R (N + 1) (counted R m x) := by
  obtain ⟨p, hp, h0, h4, heq⟩ := h.positions
  have hle (j : Fin 5) : p j ≤ N := h4 ▸ hp.monotone (Fin.le_last j)
  have hcell := Calibration.psqCell_le m.1 x
  refine ⟨?_, ?_, ?_⟩
  · rcases psqCell_cases m.1 x with hc | ⟨hlt, hc⟩ | ⟨hlt, hc⟩ <;> rw [FloatMarkers.counted, hc]
    · exact h.heights
    · exact monotone_update h.heights (fun j hj => absurd hj (Fin.not_lt_zero j))
        fun j _ => hlt.le.trans (h.heights (Fin.zero_le j))
    · exact monotone_update h.heights (fun j _ => (h.heights (Fin.le_last j)).trans hlt.le)
        fun j hj => absurd hj (Fin.le_last j).not_gt
  · intro j
    rcases psqCell_cases m.1 x with hc | ⟨-, hc⟩ | ⟨-, hc⟩ <;> rw [FloatMarkers.counted, hc]
    · exact h.stored j
    · rcases eq_or_ne j 0 with rfl | hj
      · simpa using hx
      · simpa [hj] using h.stored j
    · rcases eq_or_ne j 4 with rfl | hj
      · simpa using hx
      · simpa [hj] using h.stored j
  · refine ⟨fun j => if (psqCell m.1 x).2 < j.1 then p j + 1 else p j, ?_, ?_, ?_, ?_⟩
    · intro a b hab
      have hlt := hp hab
      have hval : a.1 < b.1 := hab
      dsimp only
      split_ifs <;> omega
    · exact (if_neg (Nat.not_lt_zero _)).trans h0
    · exact (if_pos (Nat.lt_succ_of_le hcell)).trans (congrArg (· + 1) h4)
    · intro j
      unfold FloatMarkers.counted
      dsimp only
      split_ifs
      · have hadd := hR.add (a := p j) (b := 1) (by have := hle j; omega)
        rw [Nat.cast_one] at hadd
        rw [heq, hadd]
        push_cast
        rfl
      · exact heq j

theorem Ordered.adjusts (h : Ordered R N m) (hR : ExactTo R N) (dn : Fin 5 → K)
    (is : List (Fin 3)) : Ordered R N (is.foldl (fun m j => psqAdjust R m j dn) m) := by
  induction is generalizing m with
  | nil => exact h
  | cons i is ih => exact ih (h.adjust hR i dn)

/-- A step keeps the markers in order, and divides by no zero. -/
theorem Ordered.step (h : Ordered R N m) (hR : ExactTo R (N + 1)) (dn : Fin 5 → K) {x : K}
    (hx : R.fl x = x) :
    Ordered R (N + 1) (PsqStep R m dn x) ∧
      ∀ i d, Divides R (adjusting R m i dn x) i d :=
  have hcounted := h.counted hR hx
  ⟨hcounted.adjusts hR dn _, fun i d => hR.divides (hcounted.adjusts hR dn _) i d⟩

omit [IsStrictOrderedRing K] in
theorem PsqStep_last (m : Markers K) (dn : Fin 5 → K) (x : K) :
    (PsqStep R m dn x).2 4 = R.fl (m.2 4 + 1) := by
  have hkeep (m : Markers K) (i : Fin 3) : (psqAdjust R m i dn).2 4 = m.2 4 := by
    unfold psqAdjust
    split_ifs
    · exact Function.update_of_ne (by fin_cases i <;> decide) _ _
    · rfl
  have hfold (is : List (Fin 3)) (m : Markers K) :
      (is.foldl (fun m j => psqAdjust R m j dn) m).2 4 = m.2 4 := by
    induction is generalizing m with
    | nil => rfl
    | cons i is ih => rw [List.foldl_cons, ih, hkeep]
  rw [PsqStep, hfold]
  exact if_pos (Nat.lt_succ_of_le (Calibration.psqCell_le m.1 x))

/-! ## Streams -/

/-- `float` arithmetic. -/
def float : Rounding ℚ := binary32.rounding

/-- The markers of a new `ShapeCalib`. -/
def initial : Markers ℚ := (fun i => float.fl (ShapeCalib.initial.q i), ShapeCalib.initial.n)

/-- `dn` of a new `ShapeCalib`, which nothing changes. -/
def increments (i : Fin 5) : ℚ := float.fl (ShapeCalib.initial.dn i)

/-- The markers behind a stream of observations. -/
def behind (xs : List binary32.Number) : Markers ℚ :=
  xs.foldl (fun m x => PsqStep float m increments x.val) initial

/-- At every observation of the stream the markers are in order, and no denominator is zero. -/
def MarkerInvariant (xs : List binary32.Number) : Prop :=
  ∀ seen, seen <+: xs → Sound (seen.length + 5) (behind seen) ∧
    ∀ x, seen ++ [x] <+: xs →
      ∀ i d, Divides float (adjusting float (behind seen) i increments x.val) i d

theorem behind_snoc (xs : List binary32.Number) (x : binary32.Number) :
    behind (xs ++ [x]) = PsqStep float (behind xs) increments x.val := List.foldl_concat ..

theorem exactTo_pow : ExactTo float (2 ^ 24) := fun _ hn =>
  Format.round_natCast (f := binary32) hn (by decide)

theorem initial_ordered : Ordered float 5 initial where
  heights := by
    intro i j hij
    refine float.mono ?_
    have hmono : Monotone (ShapeCalib.initial (K := ℚ)).q := by
      rw [Fin.monotone_iff_le_succ]
      decide +kernel
    exact hmono hij
  stored i := float.fl_fl _
  positions := ⟨fun i => i.1 + 1, fun _ _ hij => Nat.succ_lt_succ hij, rfl, rfl, fun i => by
    rw [Nat.cast_succ]
    rfl⟩

theorem ordered_behind {xs : List binary32.Number} (h : xs.length + 5 ≤ 2 ^ 24) :
    Ordered float (xs.length + 5) (behind xs) := by
  induction xs using List.reverseRecOn with
  | nil => exact initial_ordered
  | append_singleton xs x ih =>
    rw [List.length_append, List.length_singleton] at h ⊢
    rw [behind_snoc, Nat.add_right_comm]
    have hexact : ExactTo float (xs.length + 5 + 1) := fun n hn => exactTo_pow n (by omega)
    exact ((ih (by omega)).step hexact increments x.rounded).1

/-- The last position does not count past `2 ^ 24`. -/
theorem not_invariant_past {xs : List binary32.Number} (h : 2 ^ 24 < xs.length + 5) :
    ¬ MarkerInvariant xs := by
  intro hinv
  -- the observation that is not counted
  obtain ⟨seen, x, rest, hxs, hlen⟩ : ∃ seen x rest,
      xs = seen ++ x :: rest ∧ seen.length + 5 = 2 ^ 24 := by
    have hlt : 2 ^ 24 - 5 < xs.length := by omega
    refine ⟨xs.take (2 ^ 24 - 5), xs[2 ^ 24 - 5], xs.drop (2 ^ 24 - 5 + 1), ?_, ?_⟩
    · rw [List.getElem_cons_drop, List.take_append_drop]
    · rw [List.length_take, min_eq_left hlt.le]
      norm_num
  have hseen := (hinv seen (hxs ▸ List.prefix_append _ _)).1
  have hnext := (hinv (seen ++ [x]) (by
    rw [hxs, List.append_cons seen x rest]
    exact List.prefix_append _ _)).1
  have hlast := hnext.last
  have hround : float.fl ((2 ^ 24 + 1 : ℕ) : ℚ) = ((2 ^ 24 : ℕ) : ℚ) :=
    Format.round_succ_pow (f := binary32) (by decide) (by decide)
  rw [behind_snoc, PsqStep_last, hseen.last, hlen, ← Nat.cast_succ, hround, List.length_append,
    List.length_singleton, Nat.add_right_comm, hlen, Nat.cast_inj] at hlast
  exact absurd hlast (by norm_num)

/-- **Along every stream the heights are nondecreasing, the positions strictly increasing from 1 to
    the number of observations, and no denominator is zero, at every observation, exactly when there
    are at most `2 ^ 24` observations, the five initial markers counted.** -/
theorem marker_invariant_iff (xs : List binary32.Number) :
    MarkerInvariant xs ↔ xs.length + 5 ≤ 2 ^ 24 := by
  constructor
  · intro hinv
    by_contra hlen
    exact not_invariant_past (not_le.1 hlen) hinv
  · intro hlen seen hseen
    have hseenlen := hseen.length_le
    have hordered : Ordered float (seen.length + 5) (behind seen) := ordered_behind (by omega)
    refine ⟨hordered.sound, fun x hx i d => ?_⟩
    have hxlen := hx.length_le
    rw [List.length_append, List.length_singleton] at hxlen
    have hexact : ExactTo float (seen.length + 5 + 1) := fun n hn => exactTo_pow n (by omega)
    exact (hordered.step hexact increments x.rounded).2 i d

/-- A stream of that many zeros. -/
theorem zeros_not_invariant :
    ¬ MarkerInvariant (List.replicate (2 ^ 24) (binary32.narrow 0)) :=
  not_invariant_past (by rw [List.length_replicate]; omega)

end WKPairDriver.FaceTracking.FloatMarkers
