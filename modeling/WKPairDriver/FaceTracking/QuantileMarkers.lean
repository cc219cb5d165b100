import Mathlib
import WKPairDriver.FaceTracking.CalibrationEngine

/-!
# The quantile markers and their desired positions

The P-square algorithm moves an interior marker when it is a whole position away from where it
should be, that desired position moves on with every observation, and the new height is taken from
the parabola through the marker and its neighbours.  `PsqStep` compares with the increments
themselves, which do not move, and weights the two slopes of the parabola by the gaps before the
move instead of those behind it.

* `markerStep` — what the two share, the parabola left open; `PsqStep_eq`, `pSquare`.
* `MovesAlike` — the gaps around a marker for which the two parabolas take it to the same height.
* `markers_agree_iff` — the markers are those of the algorithm for at most three observations, the
  first of which moves every marker above it alike, and the others in the top cell.
* `seeded_agree_iff` — from the heights that `PsqStep` starts with, at most three observations in
  the top cell.
* `lowObservation_differs` — two observations.
-/

set_option autoImplicit false

namespace WKPairDriver.FaceTracking.Calibration

variable {K : Type} [Field K] [LinearOrder K]

/-- Heights and positions. -/
abbrev Markers (K : Type) := (Fin 5 → K) × (Fin 5 → K)

/-- The increments of the desired positions, which `ShapeCalib` calls `dn`. -/
def increments : Fin 5 → K := ShapeCalib.initial.dn

/-- The first five observations in order, or the heights that stand for them. -/
structure FirstFive (K : Type) [LinearOrder K] where
  heights : Fin 5 → K
  sorted : Monotone heights

/-- The markers behind the first five observations. -/
def FirstFive.markers (first : FirstFive K) : Markers K :=
  (first.heights, fun i => (i.1 : K) + 1)

/-- The markers that `PsqStep` keeps. -/
def markersKept (m : Markers K) (xs : List K) : Markers K :=
  xs.foldl (fun m x => PsqStep m.1 m.2 increments x) m

/-! ## The algorithm -/

/-- The height to which a parabola takes a marker that moves by `d` positions. -/
abbrev Parabola (K : Type) := (q n : Fin 5 → K) → Fin 3 → (d : K) → K

/-- The parabolic formula of the P-square algorithm. -/
def parabolic : Parabola K := fun q n i d =>
  q (inner i) + d / (n (above i) - n (below i)) *
    ((n (inner i) - n (below i) + d) * (q (above i) - q (inner i)) / (n (above i) - n (inner i)) +
      (n (above i) - n (inner i) - d) * (q (inner i) - q (below i)) / (n (inner i) - n (below i)))

/-- The new height of a marker: by the parabola where that keeps the heights in order, else
    linearly. -/
def newHeight (curve : Parabola K) (m : Markers K) (i : Fin 3) (d : K) : K :=
  if m.1 (below i) < curve m.1 m.2 i d ∧ curve m.1 m.2 i d < m.1 (above i) then curve m.1 m.2 i d
  else PsqLinear m.1 m.2 i d

/-- A marker is moved by one position. -/
def moveMarker (curve : Parabola K) (m : Markers K) (i : Fin 3) (d : K) : Markers K :=
  (Function.update m.1 (inner i) (newHeight curve m i d),
    Function.update m.2 (inner i) (m.2 (inner i) + d))

/-- An interior marker follows its desired position. -/
def adjust (curve : Parabola K) (desired : Fin 5 → K) (m : Markers K) (i : Fin 3) : Markers K :=
  let d := desired (inner i) - m.2 (inner i)
  if (d ≥ 1 ∧ m.2 (above i) - m.2 (inner i) > 1) ∨
      (d ≤ -1 ∧ m.2 (below i) - m.2 (inner i) < -1) then
    moveMarker curve m i (if d > 0 then 1 else -1)
  else m

/-- The heights with the outer markers stretched, and the positions above the cell counted up. -/
def counted (m : Markers K) (x : K) : Markers K :=
  ((psqCell m.1 x).1, fun i => if (psqCell m.1 x).2 < i.1 then m.2 i + 1 else m.2 i)

/-- One observation. -/
def markerStep (curve : Parabola K) (desired : Fin 5 → K) (m : Markers K) (x : K) : Markers K :=
  (List.finRange 3).foldl (adjust curve desired) (counted m x)

/-- The desired position of each marker among `N` observations. -/
def desiredPosition (N : ℕ) (i : Fin 5) : K := 1 + ((N : K) - 1) * increments i

/-- The P-square algorithm behind `N` observations: each further one is put into its cell, the
    positions above the cell and the desired positions move on, and the interior markers follow. -/
def pSquare : ℕ → Markers K → List K → Markers K
  | _, m, [] => m
  | N, m, x :: xs => pSquare (N + 1) (markerStep parabolic (desiredPosition (N + 1)) m x) xs

/-- Behind each observation of the stream the markers kept are those of the algorithm. -/
def MarkersAgree (N : ℕ) (m : Markers K) (xs : List K) : Prop :=
  ∀ seen, seen <+: xs → markersKept m seen = pSquare N m seen

theorem psqAdjust_eq (t : Fin 5 → K) (m : Markers K) (i : Fin 3) :
    psqAdjust t m i = adjust PsqUpdate t m i := by
  unfold psqAdjust adjust moveMarker newHeight
  dsimp only
  split_ifs <;> rfl

/-- `PsqStep` has the algorithm's step with another parabola. -/
theorem PsqStep_eq (m : Markers K) (t : Fin 5 → K) (x : K) :
    PsqStep m.1 m.2 t x = markerStep PsqUpdate t m x := by
  have hadjust : psqAdjust t = adjust PsqUpdate t := by
    funext m i
    exact psqAdjust_eq t m i
  show (List.finRange 3).foldl (psqAdjust t) (counted m x) = _
  rw [hadjust, markerStep]

/-! ## What the two agree on -/

/-- The gaps below and above a marker for which both parabolas, or neither, take it halfway down. -/
def MovesAlike (a b : K) : Prop := b + b = a ∨ a + a ≤ b

/-- A marker above the observation is moved halfway down to the one below it. -/
def halfway (x low q : K) : K := if x < q then 0.5 * (low + q) else q

/-- The heights behind an observation that moves every marker above it halfway down. -/
def halved (q : Fin 5 → K) (x : K) : Fin 5 → K :=
  (List.finRange 3).foldl
    (fun h i => Function.update h (inner i) (halfway x (h (below i)) (q (inner i))))
    fun j => if j.1 = 0 then min x (q j) else max x (q j)

/-- A marker above the observation is moved alike, the gap below measured behind the move of the
    marker there. -/
def AlikeAt (q : Fin 5 → K) (x : K) (i : Fin 3) : Prop :=
  x < q (inner i) → MovesAlike (q (inner i) - halved q x (below i)) (q (above i) - q (inner i))

/-- At most three observations: the first moves the markers alike, and none behind it is below the
    last interior marker. -/
def ExactOn (q : Fin 5 → K) : List K → Prop
  | [] => True
  | x :: xs =>
    (∀ i, AlikeAt q x i) ∧ xs.length ≤ 2 ∧ ∀ y ∈ xs, halved q x (inner (Fin.last 2)) ≤ y

instance (a b : K) : Decidable (MovesAlike a b) := inferInstanceAs (Decidable (_ ∨ _))

instance (q : Fin 5 → K) (x : K) (i : Fin 3) : Decidable (AlikeAt q x i) :=
  inferInstanceAs (Decidable (_ → _))

instance (q : Fin 5 → K) : (xs : List K) → Decidable (ExactOn q xs)
  | [] => .isTrue trivial
  | _ :: _ => inferInstanceAs (Decidable (_ ∧ _))

/-- The observation falls into the cell below the last marker. -/
def InTopCell (m : Markers K) (x : K) : Prop := (psqCell m.1 x).2 = 3

instance (m : Markers K) (x : K) : Decidable (InTopCell m x) := inferInstanceAs (Decidable (_ = _))

/-! ## One marker -/

variable {curve curve' : Parabola K} {m : Markers K} {i : Fin 3}

/-- The marker moves back whenever there is room. -/
def moveBack (curve : Parabola K) (m : Markers K) (i : Fin 3) : Markers K :=
  if m.2 (below i) - m.2 (inner i) < -1 then moveMarker curve m i (-1) else m

theorem moveBack_height_other {j : Fin 5} (h : j ≠ inner i) :
    (moveBack curve m i).1 j = m.1 j := by
  unfold moveBack
  split_ifs
  · exact Function.update_of_ne h ..
  · rfl

theorem moveBack_other {j : Fin 5} (h : j ≠ inner i) : (moveBack curve m i).2 j = m.2 j := by
  unfold moveBack
  split_ifs
  · exact Function.update_of_ne h ..
  · rfl

/-- The parabola decides about one height. -/
theorem moveBack_eq_iff :
    moveBack curve m i = moveBack curve' m i ↔
      (moveBack curve m i).1 (inner i) = (moveBack curve' m i).1 (inner i) := by
  refine ⟨fun h => by rw [h], fun h => ?_⟩
  unfold moveBack at h ⊢
  split_ifs at h ⊢ with hroom
  · simp only [moveMarker, Function.update_self] at h
    rw [moveMarker, moveMarker, h]
  · rfl

variable [IsStrictOrderedRing K]

/-- A target that is not above the place of a marker moves it back where there is room. -/
theorem adjust_moveBack {t : Fin 5 → K} {p : K} (hbelow : m.2 (below i) = p)
    (hinner : m.2 (inner i) = p + 1 ∨ m.2 (inner i) = p + 2) (ht : t (inner i) ≤ p + 1) :
    adjust curve t m i = moveBack curve m i := by
  have hright : ¬ t (inner i) - m.2 (inner i) ≥ 1 := by
    rcases hinner with h | h <;> rw [h] <;> intro hge <;> linarith
  unfold adjust moveBack
  by_cases hroom : m.2 (below i) - m.2 (inner i) < -1
  · have hleft : t (inner i) - m.2 (inner i) ≤ -1 := by
      rcases hinner with h | h
      · rw [hbelow, h] at hroom
        linarith
      · rw [h]
        linarith
    rw [if_pos (.inr ⟨hleft, hroom⟩), if_pos hroom, if_neg (by linarith)]
  · rw [if_neg hroom, if_neg]
    rintro (⟨h, -⟩ | ⟨-, h⟩)
    · exact hright h
    · exact hroom h

/-- A marker next to the one below it stays. -/
theorem moveBack_stays {p : K} (hbelow : m.2 (below i) = p) (hinner : m.2 (inner i) = p + 1) :
    moveBack curve m i = m := by
  rw [moveBack, hbelow, hinner, if_neg (by linarith)]

/-- A marker with a free position below it moves. -/
theorem moveBack_moves {p : K} (hbelow : m.2 (below i) = p) (hinner : m.2 (inner i) = p + 2) :
    moveBack curve m i = moveMarker curve m i (-1) := by
  rw [moveBack, hbelow, hinner, if_pos (by linarith)]

/-- Moved back, a marker is next to the one below it. -/
theorem moveBack_inner (curve : Parabola K) {p : K} (hbelow : m.2 (below i) = p)
    (hinner : m.2 (inner i) = p + 1 ∨ m.2 (inner i) = p + 2) :
    (moveBack curve m i).2 (inner i) = p + 1 := by
  rcases hinner with h | h
  · rw [moveBack_stays hbelow h]
    exact h
  · rw [moveBack_moves hbelow h]
    show Function.update m.2 (inner i) (m.2 (inner i) + -1) (inner i) = p + 1
    rw [Function.update_self, h]
    ring

section Heights

variable {p : K} (hbelow : m.2 (below i) = p) (hinner : m.2 (inner i) = p + 2)
  (habove : m.2 (above i) = p + 3)

include hbelow hinner

theorem PsqLinear_back :
    PsqLinear m.1 m.2 i (-1) = m.1 (inner i) - (m.1 (inner i) - m.1 (below i)) / 2 := by
  unfold PsqLinear
  dsimp only
  rw [if_neg (by norm_num), hbelow, hinner, show p - (p + 2) = -2 by ring]
  ring

include habove

theorem PsqUpdate_back :
    PsqUpdate m.1 m.2 i (-1) = m.1 (inner i) -
      (2 * (m.1 (above i) - m.1 (inner i)) + (m.1 (inner i) - m.1 (below i)) / 2) / 3 := by
  unfold PsqUpdate
  dsimp only
  rw [hbelow, hinner, habove, show p + 3 - (p + 2) = 1 by ring, show p + 2 - p = 2 by ring]
  ring

theorem parabolic_back :
    parabolic m.1 m.2 i (-1) = m.1 (inner i) -
      ((m.1 (above i) - m.1 (inner i)) + (m.1 (inner i) - m.1 (below i))) / 3 := by
  unfold parabolic
  rw [hbelow, hinner, habove, show p + 3 - (p + 2) = 1 by ring, show p + 2 - p = 2 by ring,
    show p + 3 - p = 3 by ring]
  ring

/-- `PsqStep` takes the marker halfway down where the gaps say so. -/
theorem newHeight_alike
    (halike : MovesAlike (m.1 (inner i) - m.1 (below i)) (m.1 (above i) - m.1 (inner i)))
    (hhigh : m.1 (inner i) ≤ m.1 (above i)) :
    newHeight PsqUpdate m i (-1) = 0.5 * (m.1 (below i) + m.1 (inner i)) := by
  rw [newHeight, PsqUpdate_back hbelow hinner habove, PsqLinear_back hbelow hinner]
  rcases halike with h | h
  · split_ifs <;> linarith
  · rw [if_neg]
    · ring
    · rintro ⟨hlow, -⟩
      linarith

/-- **The two parabolas agree** about a marker between these gaps, and about no other. -/
theorem newHeight_eq_iff (hhigh : m.1 (inner i) ≤ m.1 (above i)) :
    newHeight PsqUpdate m i (-1) = newHeight parabolic m i (-1) ↔
      MovesAlike (m.1 (inner i) - m.1 (below i)) (m.1 (above i) - m.1 (inner i)) := by
  rw [newHeight, newHeight, PsqUpdate_back hbelow hinner habove,
    parabolic_back hbelow hinner habove, PsqLinear_back hbelow hinner]
  unfold MovesAlike
  constructor
  · intro heq
    split_ifs at heq with hcode hpaper hpaper
    · exact .inl (by linarith)
    · -- the code's parabola keeps the order only where the algorithm's does
      refine .inr (not_lt.1 fun hlt => hpaper ⟨by linarith, by linarith [hcode.1]⟩)
    · by_contra hnot
      rw [not_or, not_le] at hnot
      exact hcode ⟨by linarith [hnot.2], by linarith [hpaper.1, hpaper.2]⟩
    · refine .inr (not_lt.1 fun hlt => hpaper ⟨by linarith, ?_⟩)
      linarith
  · rintro (h | h)
    · split_ifs <;> linarith
    · rw [if_neg, if_neg]
      · rintro ⟨hlt, -⟩
        linarith
      · rintro ⟨hlt, -⟩
        linarith

end Heights

/-! ## One observation -/

/-- The positions of markers that were moved back at every observation so far. -/
structure Packed (N : ℕ) (n : Fin 5 → K) : Prop where
  p0 : n 0 = 1
  p1 : n 1 = 2
  p2 : n 2 = 3
  p3 : n 3 = 4
  p4 : n 4 = N

/-- The markers behind one observation that moves every marker back, before the last interior one
    and behind it. -/
def lower (curve : Parabola K) (m : Markers K) (x : K) : Markers K :=
  ((List.finRange 3).take 2).foldl (moveBack curve) (counted m x)

def lowest (curve : Parabola K) (m : Markers K) (x : K) : Markers K :=
  (List.finRange 3).foldl (moveBack curve) (counted m x)

omit [IsStrictOrderedRing K] in
theorem lower_eq (curve : Parabola K) (m : Markers K) (x : K) :
    lower curve m x = moveBack curve (moveBack curve (counted m x) 0) 1 := rfl

omit [IsStrictOrderedRing K] in
theorem lowest_eq (curve : Parabola K) (m : Markers K) (x : K) :
    lowest curve m x = moveBack curve (lower curve m x) 2 := rfl

omit [Field K] [IsStrictOrderedRing K] in
theorem psqCell_le (q : Fin 5 → K) (x : K) : (psqCell q x).2 ≤ 3 := by
  unfold psqCell
  split_ifs <;> simp

omit [Field K] [IsStrictOrderedRing K] in
/-- The cell of an observation among heights in order: the markers above it are above the cell. -/
theorem cell_lt_iff {q : Fin 5 → K} (hq : Monotone q) (x : K) (i : Fin 3) :
    (psqCell q x).2 < (inner i).1 ↔ x < q (inner i) := by
  have h01 : q 0 ≤ q 1 := hq (by decide)
  have h12 : q 1 ≤ q 2 := hq (by decide)
  have h23 : q 2 ≤ q 3 := hq (by decide)
  unfold psqCell
  split_ifs with h0 h1 h2 h3 h4
  · fin_cases i <;> simp only [inner] <;> refine iff_of_true (by norm_num) ?_
    exacts [h0.trans_le h01, h0.trans_le (h01.trans h12), h0.trans_le (h01.trans (h12.trans h23))]
  · fin_cases i <;> simp only [inner] <;> refine iff_of_true (by norm_num) ?_
    exacts [h1, h1.trans_le h12, h1.trans_le (h12.trans h23)]
  · fin_cases i <;> simp only [inner]
    exacts [iff_of_false (by norm_num) h1, iff_of_true (by norm_num) h2,
      iff_of_true (by norm_num) (h2.trans_le h23)]
  · fin_cases i <;> simp only [inner]
    exacts [iff_of_false (by norm_num) h1, iff_of_false (by norm_num) h2,
      iff_of_true (by norm_num) h3]
  all_goals
    fin_cases i <;> simp only [inner]
    exacts [iff_of_false (by norm_num) h1, iff_of_false (by norm_num) h2,
      iff_of_false (by norm_num) h3]

omit [Field K] [IsStrictOrderedRing K] in
/-- An observation is in the top cell if and only if it is not below the last interior marker. -/
theorem inTopCell_iff {m : Markers K} (hq : Monotone m.1) (x : K) :
    InTopCell m x ↔ m.1 3 ≤ x := by
  have hlt := cell_lt_iff hq x 2
  have hle := psqCell_le m.1 x
  rw [show inner 2 = 3 from rfl] at hlt
  rw [← not_lt, ← hlt, InTopCell]
  show _ ↔ ¬ (psqCell m.1 x).2 < 3
  omega

omit [IsStrictOrderedRing K] in
theorem counted_above {m : Markers K} {x : K} {j : Fin 5} (h : (psqCell m.1 x).2 < j.1) :
    (counted m x).2 j = m.2 j + 1 := if_pos h

omit [IsStrictOrderedRing K] in
theorem counted_below {m : Markers K} {x : K} {j : Fin 5} (h : ¬ (psqCell m.1 x).2 < j.1) :
    (counted m x).2 j = m.2 j := if_neg h

omit [IsStrictOrderedRing K] in
/-- The positions above the cell, counted up. -/
theorem counted_position (m : Markers K) (x : K) (j : Fin 5) :
    (counted m x).2 j = m.2 j ∨ (counted m x).2 j = m.2 j + 1 := by
  by_cases habove : (psqCell m.1 x).2 < j.1
  · exact .inr (counted_above habove)
  · exact .inl (counted_below habove)

theorem inner_ne (i : Fin 3) : inner i ≠ 0 ∧ inner i ≠ 4 := by fin_cases i <;> decide

omit [IsStrictOrderedRing K] in
/-- An observation stretches the outer markers only. -/
theorem counted_heights {m : Markers K} (hq : Monotone m.1) (x : K) :
    (counted m x).1 0 = min x (m.1 0) ∧ (∀ i, (counted m x).1 (inner i) = m.1 (inner i)) ∧
      (counted m x).1 4 = max x (m.1 4) := by
  have hle : ∀ j, m.1 0 ≤ m.1 j := fun j => hq (Fin.zero_le j)
  have hge : ∀ j, m.1 j ≤ m.1 4 := fun j => hq (Fin.le_last j)
  show (psqCell m.1 x).1 0 = _ ∧ (∀ i, (psqCell m.1 x).1 (inner i) = _) ∧ (psqCell m.1 x).1 4 = _
  unfold psqCell
  split_ifs with h0 h1 h2 h3 h4
  · show Function.update m.1 0 x 0 = _ ∧ (∀ i, Function.update m.1 0 x (inner i) = _) ∧
      Function.update m.1 0 x 4 = _
    rw [Function.update_self, Function.update_of_ne (by decide), min_eq_left h0.le,
      max_eq_right (h0.le.trans (hle 4))]
    exact ⟨rfl, fun i => Function.update_of_ne (inner_ne i).1 .., rfl⟩
  · exact ⟨(min_eq_right (not_lt.1 h0)).symm, fun _ => rfl,
      (max_eq_right (h1.le.trans (hge 1))).symm⟩
  · exact ⟨(min_eq_right (not_lt.1 h0)).symm, fun _ => rfl,
      (max_eq_right (h2.le.trans (hge 2))).symm⟩
  · exact ⟨(min_eq_right (not_lt.1 h0)).symm, fun _ => rfl,
      (max_eq_right (h3.le.trans (hge 3))).symm⟩
  · exact ⟨(min_eq_right (not_lt.1 h0)).symm, fun _ => rfl, (max_eq_right h4).symm⟩
  · show Function.update m.1 4 x 0 = _ ∧ (∀ i, Function.update m.1 4 x (inner i) = _) ∧
      Function.update m.1 4 x 4 = _
    rw [Function.update_self, Function.update_of_ne (by decide), min_eq_right (not_lt.1 h0),
      max_eq_left (not_le.1 h4).le]
    exact ⟨rfl, fun i => Function.update_of_ne (inner_ne i).2 .., rfl⟩

/-- What is left to the last interior marker, which is at 5 unless the top cell was hit. -/
structure Lowered (N : ℕ) (m : Markers K) (x : K) (m' : Markers K) : Prop where
  p0 : m'.2 0 = 1
  p1 : m'.2 1 = 2
  p2 : m'.2 2 = 3
  p3 : m'.2 3 = if InTopCell m x then 4 else 5
  p4 : m'.2 4 = ((N + 1 : ℕ) : K)

variable {N : ℕ} {m : Markers K} {x : K}

omit [IsStrictOrderedRing K] in
theorem Packed.counted (h : Packed N m.2) (x : K) :
    (counted m x).2 0 = 1 ∧ (counted m x).2 3 = (if InTopCell m x then 4 else 5) ∧
      (counted m x).2 4 = ((N + 1 : ℕ) : K) := by
  have hle := psqCell_le m.1 x
  refine ⟨?_, ?_, ?_⟩
  · rw [counted_below (Nat.not_lt_zero _), h.p0]
  · by_cases htop : InTopCell m x
    · have hcell : (psqCell m.1 x).2 = 3 := htop
      rw [if_pos htop, counted_below (by rw [hcell]; decide), h.p3]
    · have hlt : (psqCell m.1 x).2 < 3 := lt_of_le_of_ne hle htop
      rw [if_neg htop, counted_above hlt, h.p3]
      norm_num
  · rw [counted_above (show (psqCell m.1 x).2 < 4 by omega), h.p4]
    push_cast
    rfl

omit [LinearOrder K] [IsStrictOrderedRing K] in
/-- A position that was counted is one or two above the one below it. -/
theorem counted_inner {n c p : K} (hn : n = p + 1) (hc : c = n ∨ c = n + 1) :
    c = p + 1 ∨ c = p + 2 := by
  rcases hc with h | h
  · exact .inl (h.trans hn)
  · exact .inr (by rw [h, hn]; ring)

/-- The positions before the first two interior markers are looked at. -/
theorem positions_before (curve : Parabola K) (h : Packed N m.2) (x : K) :
    (counted m x).2 (below 0) = 1 ∧
      ((counted m x).2 (inner 0) = 1 + 1 ∨ (counted m x).2 (inner 0) = 1 + 2) ∧
      (moveBack curve (counted m x) 0).2 (below 1) = 2 ∧
      ((moveBack curve (counted m x) 0).2 (inner 1) = 2 + 1 ∨
        (moveBack curve (counted m x) 0).2 (inner 1) = 2 + 2) := by
  have h0 : (counted m x).2 (below 0) = 1 := (h.counted x).1
  have hinner0 : (counted m x).2 (inner 0) = 1 + 1 ∨ (counted m x).2 (inner 0) = 1 + 2 :=
    counted_inner (by rw [h.p1]; norm_num) (counted_position m x 1)
  refine ⟨h0, hinner0, ?_, ?_⟩
  · have hback := moveBack_inner curve h0 hinner0
    rw [show (2 : K) = 1 + 1 by norm_num]
    exact hback
  · rw [moveBack_other (by decide)]
    exact counted_inner (by rw [h.p2]; norm_num) (counted_position m x 2)

theorem lower_lowered (curve : Parabola K) (h : Packed N m.2) (x : K) :
    Lowered N m x (lower curve m x) := by
  obtain ⟨h0, h3, h4⟩ := h.counted x
  obtain ⟨-, -, hm1, hinner1⟩ := positions_before curve h x
  refine ⟨?_, ?_, ?_, ?_, ?_⟩
  · rw [lower_eq, moveBack_other (by decide), moveBack_other (by decide)]
    exact h0
  · rw [lower_eq, moveBack_other (by decide)]
    exact hm1
  · have hback := moveBack_inner curve hm1 hinner1
    rw [show (3 : K) = 2 + 1 by norm_num]
    exact hback
  · rw [lower_eq, moveBack_other (by decide), moveBack_other (by decide)]
    exact h3
  · rw [lower_eq, moveBack_other (by decide), moveBack_other (by decide)]
    exact h4

/-- Targets that are not above the first two interior markers move them back. -/
theorem markerStep_lower (curve : Parabola K) (h : Packed N m.2) (x : K) {t : Fin 5 → K}
    (ht1 : t 1 ≤ 2) (ht2 : t 2 ≤ 3) :
    markerStep curve t m x = adjust curve t (lower curve m x) 2 := by
  obtain ⟨h0, hinner0, hm1, hinner1⟩ := positions_before curve h x
  have hfirst : adjust curve t (counted m x) 0 = moveBack curve (counted m x) 0 :=
    adjust_moveBack h0 hinner0 (by rw [show t (inner 0) = t 1 from rfl]; linarith)
  have hnext : adjust curve t (moveBack curve (counted m x) 0) 1 = lower curve m x :=
    adjust_moveBack hm1 hinner1 (by rw [show t (inner 1) = t 2 from rfl]; linarith)
  show adjust curve t (adjust curve t (adjust curve t (counted m x) 0) 1) 2 = _
  rw [hfirst, hnext]

omit [IsStrictOrderedRing K] in
theorem Lowered.inner {m' : Markers K} (h : Lowered N m x m') :
    m'.2 (inner 2) = 3 + 1 ∨ m'.2 (inner 2) = 3 + 2 := by
  rw [show m'.2 (Calibration.inner 2) = _ from h.p3]
  split_ifs
  · exact .inl (by norm_num)
  · exact .inr (by norm_num)

/-- Targets that are not above any place move every interior marker back. -/
theorem markerStep_lowest (curve : Parabola K) (h : Packed N m.2) (x : K) {t : Fin 5 → K}
    (ht1 : t 1 ≤ 2) (ht2 : t 2 ≤ 3) (ht3 : t 3 ≤ 4) :
    markerStep curve t m x = lowest curve m x := by
  have hlow := lower_lowered curve h x
  rw [markerStep_lower curve h x ht1 ht2]
  exact adjust_moveBack hlow.p2 hlow.inner
    (by rw [show t (inner 2) = t 3 from rfl]; linarith)

theorem lowest_packed (curve : Parabola K) (h : Packed N m.2) (x : K) :
    Packed (N + 1) (lowest curve m x).2 := by
  have hlow := lower_lowered curve h x
  have hback := moveBack_inner curve hlow.p2 hlow.inner
  refine ⟨?_, ?_, ?_, ?_, ?_⟩
  · rw [lowest_eq, moveBack_other (by decide)]
    exact hlow.p0
  · rw [lowest_eq, moveBack_other (by decide)]
    exact hlow.p1
  · rw [lowest_eq, moveBack_other (by decide)]
    exact hlow.p2
  · rw [show (4 : K) = 3 + 1 by norm_num]
    exact hback
  · rw [lowest_eq, moveBack_other (by decide)]
    exact hlow.p4

omit [LinearOrder K] [IsStrictOrderedRing K] in
theorem increments_eq : (increments : Fin 5 → K) 1 = 0.01 ∧ (increments : Fin 5 → K) 2 = 0.02 ∧
    (increments : Fin 5 → K) 3 = 0.51 := ⟨rfl, rfl, rfl⟩

/-- `PsqStep` moves every interior marker back. -/
theorem PsqStep_increments (h : Packed N m.2) (x : K) :
    PsqStep m.1 m.2 increments x = lowest PsqUpdate m x := by
  obtain ⟨hi1, hi2, hi3⟩ := @increments_eq K _
  rw [PsqStep_eq]
  exact markerStep_lowest PsqUpdate h x (by rw [hi1]; norm_num) (by rw [hi2]; norm_num)
    (by rw [hi3]; norm_num)

/-- An observation in the top cell moves no interior marker. -/
theorem lowest_top (curve : Parabola K) (h : Packed N m.2) (htop : InTopCell m x) :
    lower curve m x = counted m x ∧ lowest curve m x = counted m x := by
  have hcell : (psqCell m.1 x).2 = 3 := htop
  have h0 : (counted m x).2 0 = 1 := (h.counted x).1
  have h1 : (counted m x).2 1 = 2 := by rw [counted_below (by rw [hcell]; decide), h.p1]
  have h2 : (counted m x).2 2 = 3 := by rw [counted_below (by rw [hcell]; decide), h.p2]
  have h3 : (counted m x).2 3 = 4 := by rw [counted_below (by rw [hcell]; decide), h.p3]
  have hfirst : moveBack curve (counted m x) 0 = counted m x :=
    moveBack_stays h0 (by rw [show (counted m x).2 (inner 0) = _ from h1]; norm_num)
  have hsecond : moveBack curve (counted m x) 1 = counted m x :=
    moveBack_stays h1 (by rw [show (counted m x).2 (inner 1) = _ from h2]; norm_num)
  have hthird : moveBack curve (counted m x) 2 = counted m x :=
    moveBack_stays h2 (by rw [show (counted m x).2 (inner 2) = _ from h3]; norm_num)
  rw [lowest_eq, lower_eq, hfirst, hsecond]
  exact ⟨rfl, hthird⟩

/-! ## The first observation -/

/-- An interior marker, with the heights `q` before the observation, when it is looked at. -/
structure Before (q : Fin 5 → K) (x p : K) (m : Markers K) (i : Fin 3) : Prop where
  low : m.2 (below i) = p
  place : m.2 (inner i) = if x < q (inner i) then p + 2 else p + 1
  high : x < q (inner i) → m.2 (above i) = p + 3
  height_low : m.1 (below i) = halved q x (below i)
  height : m.1 (inner i) = q (inner i)
  height_high : x < q (inner i) → m.1 (above i) = q (above i)
  sorted : q (inner i) ≤ q (above i)

omit [IsStrictOrderedRing K] in
theorem halved_inner (q : Fin 5 → K) (x : K) (i : Fin 3) :
    halved q x (inner i) = halfway x (halved q x (below i)) (q (inner i)) := by
  fin_cases i <;> rfl

section Marker

variable {q : Fin 5 → K} {p : K} {m : Markers K} {i : Fin 3} (h : Before q x p m i)

include h

/-- The two parabolas agree about a marker if and only if it is moved alike. -/
theorem Before.agree_iff :
    moveBack PsqUpdate m i = moveBack parabolic m i ↔ AlikeAt q x i := by
  by_cases hx : x < q (inner i)
  · have hplace : m.2 (inner i) = p + 2 := h.place.trans (if_pos hx)
    have hsorted : m.1 (inner i) ≤ m.1 (above i) := by
      rw [h.height, h.height_high hx]
      exact h.sorted
    have hiff := newHeight_eq_iff h.low hplace (h.high hx) hsorted
    rw [h.height, h.height_low, h.height_high hx] at hiff
    rw [moveBack_eq_iff, moveBack_moves h.low hplace, moveBack_moves h.low hplace, AlikeAt, ← hiff]
    simp only [moveMarker, Function.update_self, hx, true_imp_iff]
  · have hplace : m.2 (inner i) = p + 1 := h.place.trans (if_neg hx)
    rw [moveBack_stays h.low hplace, moveBack_stays h.low hplace]
    exact iff_of_true rfl fun hlt => absurd hlt hx

/-- Where a marker is that is moved alike. -/
theorem Before.moved_height (halike : AlikeAt q x i) :
    (moveBack PsqUpdate m i).1 (inner i) = halved q x (inner i) := by
  rw [halved_inner]
  by_cases hx : x < q (inner i)
  · have hplace : m.2 (inner i) = p + 2 := h.place.trans (if_pos hx)
    have hgaps := halike hx
    have hsorted := h.sorted
    rw [← h.height, ← h.height_high hx] at hgaps hsorted
    rw [← h.height_low] at hgaps
    rw [moveBack_moves h.low hplace, halfway, if_pos hx, ← h.height, ← h.height_low,
      ← newHeight_alike h.low hplace (h.high hx) hgaps hsorted]
    simp only [moveMarker, Function.update_self]
  · have hplace : m.2 (inner i) = p + 1 := h.place.trans (if_neg hx)
    rw [moveBack_stays h.low hplace, halfway, if_neg hx, h.height]

end Marker

omit [IsStrictOrderedRing K] in
/-- Two rounds of moves agree if and only if they do so marker by marker. -/
theorem lowest_eq_iff (curve curve' : Parabola K) (m : Markers K) (x : K) :
    lowest curve m x = lowest curve' m x ↔
      moveBack curve (counted m x) 0 = moveBack curve' (counted m x) 0 ∧
        moveBack curve (moveBack curve (counted m x) 0) 1 =
          moveBack curve' (moveBack curve (counted m x) 0) 1 ∧
        moveBack curve (lower curve m x) 2 = moveBack curve' (lower curve m x) 2 := by
  constructor
  · intro heq
    have hheight := fun j => congrFun (congrArg Prod.fst heq) j
    simp only [lowest_eq, lower_eq] at hheight ⊢
    -- a later move leaves the height of an earlier marker
    have hfirst : moveBack curve (counted m x) 0 = moveBack curve' (counted m x) 0 := by
      rw [moveBack_eq_iff]
      have h1 := hheight 1
      rwa [moveBack_height_other (i := 2) (by decide), moveBack_height_other (i := 2) (by decide),
        moveBack_height_other (i := 1) (by decide), moveBack_height_other (i := 1) (by decide)] at h1
    have hsecond : moveBack curve (moveBack curve (counted m x) 0) 1 =
        moveBack curve' (moveBack curve (counted m x) 0) 1 := by
      rw [moveBack_eq_iff]
      have h2 := hheight 2
      rwa [moveBack_height_other (i := 2) (by decide), moveBack_height_other (i := 2) (by decide),
        ← hfirst] at h2
    refine ⟨hfirst, hsecond, ?_⟩
    rw [moveBack_eq_iff]
    have h3 := hheight 3
    rwa [← hfirst, ← hsecond] at h3
  · rintro ⟨hfirst, hsecond, hthird⟩
    rw [lowest_eq, hthird, lowest_eq, lower_eq, lower_eq, ← hfirst, hsecond]

omit [IsStrictOrderedRing K] in
/-- The positions of the markers above the observation are counted up. -/
theorem counted_inner_position {m : Markers K} (hq : Monotone m.1) (x : K) (i : Fin 3) :
    (counted m x).2 (inner i) = if x < m.1 (inner i) then m.2 (inner i) + 1 else m.2 (inner i) := by
  by_cases hx : x < m.1 (inner i)
  · rw [if_pos hx, counted_above ((cell_lt_iff hq x i).2 hx)]
  · rw [if_neg hx, counted_below fun hlt => hx ((cell_lt_iff hq x i).1 hlt)]

section First

variable (h : Packed 5 m.2) (hq : Monotone m.1)

include h hq

omit [IsStrictOrderedRing K] in
theorem before_first : Before m.1 x 1 (counted m x) 0 := by
  obtain ⟨hmin, hheight, -⟩ := counted_heights hq x
  have h12 : m.1 (inner 0) ≤ m.1 (inner 1) := hq (by decide)
  refine ⟨(h.counted x).1, ?_, fun hx => ?_, hmin, hheight 0, fun _ => hheight 1, h12⟩
  · rw [counted_inner_position hq x 0, show m.2 (inner 0) = _ from h.p1]
    split_ifs <;> norm_num
  · have hpos := counted_inner_position hq x 1
    rw [if_pos (hx.trans_le h12), show m.2 (inner 1) = _ from h.p2] at hpos
    rw [show (counted m x).2 (above 0) = _ from hpos]
    norm_num

theorem before_second (h0 : AlikeAt m.1 x 0) :
    Before m.1 x 2 (moveBack PsqUpdate (counted m x) 0) 1 := by
  obtain ⟨-, hheight, -⟩ := counted_heights hq x
  obtain ⟨-, -, hm1, -⟩ := positions_before PsqUpdate h x
  have h23 : m.1 (inner 1) ≤ m.1 (inner 2) := hq (by decide)
  refine ⟨hm1, ?_, fun hx => ?_, (before_first h hq).moved_height h0, ?_, fun _ => ?_, h23⟩
  · rw [moveBack_other (by decide), counted_inner_position hq x 1,
      show m.2 (inner 1) = _ from h.p2]
    split_ifs <;> norm_num
  · have hpos := counted_inner_position hq x 2
    rw [if_pos (hx.trans_le h23), show m.2 (inner 2) = _ from h.p3] at hpos
    rw [moveBack_other (by decide), show (counted m x).2 (above 1) = _ from hpos]
    norm_num
  · rw [moveBack_height_other (by decide), hheight]
  · rw [moveBack_height_other (by decide)]
    exact hheight 2

theorem before_third (h0 : AlikeAt m.1 x 0) (h1 : AlikeAt m.1 x 1) :
    Before m.1 x 3 (lower PsqUpdate m x) 2 := by
  obtain ⟨-, hheight, hlast⟩ := counted_heights hq x
  have hlow := lower_lowered PsqUpdate h x
  have h34 : m.1 (inner 2) ≤ m.1 (above 2) := hq (by decide)
  refine ⟨hlow.p2, ?_, fun _ => ?_, (before_second h hq h0).moved_height h1, ?_, fun hx => ?_, h34⟩
  · rw [show (lower PsqUpdate m x).2 (inner 2) = _ from hlow.p3]
    by_cases hx : x < m.1 (inner 2)
    · rw [if_pos hx, if_neg fun htop => not_lt.2 ((inTopCell_iff hq x).1 htop) hx]
      norm_num
    · rw [if_neg hx, if_pos ((inTopCell_iff hq x).2 (not_lt.1 hx))]
      norm_num
  · rw [show (lower PsqUpdate m x).2 (above 2) = _ from hlow.p4]
    norm_num
  · rw [lower_eq, moveBack_height_other (by decide), moveBack_height_other (by decide), hheight]
  · rw [lower_eq, moveBack_height_other (by decide), moveBack_height_other (by decide),
      show (counted m x).1 (above 2) = _ from hlast]
    exact max_eq_right (hx.le.trans h34)

/-- **The first observation**: the markers agree if and only if each one is moved alike. -/
theorem first_agrees_iff :
    lowest PsqUpdate m x = lowest parabolic m x ↔ ∀ i, AlikeAt m.1 x i := by
  rw [lowest_eq_iff]
  constructor
  · rintro ⟨hfirst, hsecond, hthird⟩
    have h0 := (before_first h hq).agree_iff.1 hfirst
    have h1 := (before_second h hq h0).agree_iff.1 hsecond
    have h2 := (before_third h hq h0 h1).agree_iff.1 hthird
    intro i
    fin_cases i
    exacts [h0, h1, h2]
  · intro halike
    exact ⟨(before_first h hq).agree_iff.2 (halike 0),
      (before_second h hq (halike 0)).agree_iff.2 (halike 1),
      (before_third h hq (halike 0) (halike 1)).agree_iff.2 (halike 2)⟩

/-- The heights behind markers that are moved alike. -/
theorem lowest_halved (halike : ∀ i, AlikeAt m.1 x i) :
    (lowest PsqUpdate m x).1 = halved m.1 x := by
  obtain ⟨hmin, -, hlast⟩ := counted_heights hq x
  have h1 := (before_first h hq).moved_height (halike 0)
  have h2 := (before_second h hq (halike 0)).moved_height (halike 1)
  have h3 := (before_third h hq (halike 0) (halike 1)).moved_height (halike 2)
  funext j
  fin_cases j
  · show (lowest PsqUpdate m x).1 0 = _
    rw [lowest_eq, lower_eq, moveBack_height_other (by decide), moveBack_height_other (by decide),
      moveBack_height_other (by decide), hmin]
    rfl
  · show (lowest PsqUpdate m x).1 1 = _
    rw [lowest_eq, lower_eq, moveBack_height_other (by decide), moveBack_height_other (by decide)]
    exact h1
  · show (lowest PsqUpdate m x).1 2 = _
    rw [lowest_eq, moveBack_height_other (by decide)]
    exact h2
  · exact h3
  · show (lowest PsqUpdate m x).1 4 = _
    rw [lowest_eq, lower_eq, moveBack_height_other (by decide), moveBack_height_other (by decide),
      moveBack_height_other (by decide), hlast]
    rfl

end First

/-- Halved heights stay in order. -/
theorem halved_sorted {q : Fin 5 → K} (hq : Monotone q) (x : K) : Monotone (halved q x) := by
  -- a halved height is between the one below it and where it was
  have hbetween : ∀ i : Fin 3, halved q x (below i) ≤ q (inner i) →
      halved q x (below i) ≤ halved q x (inner i) ∧ halved q x (inner i) ≤ q (inner i) := by
    intro i hle
    rw [halved_inner, halfway]
    split_ifs
    · exact ⟨by linarith, by linarith⟩
    · exact ⟨hle, le_rfl⟩
  have h0 := hbetween 0 ((min_le_right x (q 0)).trans (hq (by decide)))
  have h1 := hbetween 1 (h0.2.trans (hq (by decide)))
  have h2 := hbetween 2 (h1.2.trans (hq (by decide)))
  have h3 : halved q x 3 ≤ halved q x 4 :=
    h2.2.trans ((hq (by decide : (3 : Fin 5) ≤ 4)).trans (le_max_right _ _))
  refine Fin.monotone_iff_le_succ.2 fun j => ?_
  fin_cases j
  exacts [h0.1, h1.1, h2.1, h3]

/-- The sixth observation: the desired positions are not above the places of the markers. -/
theorem sixth_step (curve : Parabola K) (h : Packed 5 m.2) (x : K) :
    markerStep curve (desiredPosition 6) m x = lowest curve m x := by
  obtain ⟨hi1, hi2, hi3⟩ := @increments_eq K _
  refine markerStep_lowest curve h x ?_ ?_ ?_
  · rw [desiredPosition, hi1]
    norm_num
  · rw [desiredPosition, hi2]
    norm_num
  · rw [desiredPosition, hi3]
    norm_num

/-! ## The observations behind it -/

/-- A desired position within one of 4 and of 5 leaves the last interior marker where it is. -/
theorem markerStep_stays (curve : Parabola K) (h : Packed N m.2) (x : K) {t : Fin 5 → K}
    (ht1 : t 1 ≤ 2) (ht2 : t 2 ≤ 3) (ht3 : 4 < t 3 ∧ t 3 < 5) :
    markerStep curve t m x = lower curve m x := by
  have hlow := lower_lowered curve h x
  have hp3 : (lower curve m x).2 (inner 2) = 4 ∨ (lower curve m x).2 (inner 2) = 5 := by
    rw [show (lower curve m x).2 (inner 2) = _ from hlow.p3]
    split_ifs
    · exact .inl rfl
    · exact .inr rfl
  rw [markerStep_lower curve h x ht1 ht2, adjust, show t (inner 2) = t 3 from rfl, if_neg]
  rintro (⟨hge, -⟩ | ⟨hle, -⟩)
  · rcases hp3 with hp | hp <;> rw [hp] at hge <;> linarith
  · rcases hp3 with hp | hp <;> rw [hp] at hle <;> linarith

/-- A desired position among 7 or 8 observations. -/
theorem desiredPosition_between (hN : N = 7 ∨ N = 8) :
    (desiredPosition N : Fin 5 → K) 1 ≤ 2 ∧ (desiredPosition N : Fin 5 → K) 2 ≤ 3 ∧
      (4 < (desiredPosition N : Fin 5 → K) 3 ∧ (desiredPosition N : Fin 5 → K) 3 < 5) := by
  obtain ⟨hi1, hi2, hi3⟩ := @increments_eq K _
  simp only [desiredPosition, hi1, hi2, hi3]
  rcases hN with rfl | rfl <;> norm_num

/-- The seventh and the eighth observation: the markers agree in the top cell only. -/
theorem later_agrees_iff (h : Packed N m.2) (hN : N + 1 = 7 ∨ N + 1 = 8) (x : K) :
    lowest PsqUpdate m x = markerStep parabolic (desiredPosition (N + 1)) m x ↔
      InTopCell m x := by
  obtain ⟨ht1, ht2, ht3⟩ := desiredPosition_between (K := K) hN
  rw [markerStep_stays parabolic h x ht1 ht2 ht3]
  constructor
  · intro heq
    have hp3 := (lowest_packed PsqUpdate h x).p3
    rw [heq, (lower_lowered parabolic h x).p3] at hp3
    by_contra htop
    rw [if_neg htop] at hp3
    norm_num at hp3
  · intro htop
    rw [(lowest_top PsqUpdate h htop).2, (lowest_top parabolic h htop).1]

/-- The ninth observation: the last interior marker belongs to 5. -/
theorem ninth_differs (h : Packed 8 m.2) (x : K) :
    lowest PsqUpdate m x ≠ markerStep parabolic (desiredPosition 9) m x := by
  have hlow := lower_lowered parabolic h x
  obtain ⟨hi1, hi2, hi3⟩ := @increments_eq K _
  have hd1 : (desiredPosition 9 : Fin 5 → K) 1 ≤ 2 := by
    rw [desiredPosition, hi1]
    norm_num
  have hd2 : (desiredPosition 9 : Fin 5 → K) 2 ≤ 3 := by
    rw [desiredPosition, hi2]
    norm_num
  have hd3 : (desiredPosition 9 : Fin 5 → K) (inner 2) = 5.08 := by
    rw [show inner 2 = 3 from rfl, desiredPosition, hi3]
    norm_num
  have habove : (lower parabolic m x).2 (above 2) = 9 := by
    rw [show (lower parabolic m x).2 (above 2) = _ from hlow.p4]
    norm_num
  have hfive : (adjust parabolic (desiredPosition 9) (lower parabolic m x) 2).2 3 = 5 := by
    unfold adjust
    dsimp only
    rw [hd3, habove, show (lower parabolic m x).2 (inner 2) = _ from hlow.p3]
    by_cases htop : InTopCell m x
    · rw [if_pos htop, if_pos (.inl ⟨by norm_num, by norm_num⟩), if_pos (by norm_num)]
      show Function.update (lower parabolic m x).2 3 ((lower parabolic m x).2 3 + 1) 3 = 5
      rw [Function.update_self, hlow.p3, if_pos htop]
      norm_num
    · rw [if_neg htop, if_neg (by norm_num), hlow.p3, if_neg htop]
  intro heq
  have hp3 := (lowest_packed PsqUpdate h x).p3
  rw [heq, markerStep_lower parabolic h x hd1 hd2, hfive] at hp3
  norm_num at hp3

/-- An observation in the top cell keeps the heights but the last one. -/
theorem top_heights (h : Packed N m.2) (hq : Monotone m.1) (hx : m.1 3 ≤ x) :
    Monotone (lowest PsqUpdate m x).1 ∧ (lowest PsqUpdate m x).1 3 = m.1 3 := by
  obtain ⟨hmin, hheight, hlast⟩ := counted_heights hq x
  have htop := (inTopCell_iff hq x).2 hx
  rw [(lowest_top PsqUpdate h htop).2]
  refine ⟨Fin.monotone_iff_le_succ.2 fun j => ?_, hheight 2⟩
  fin_cases j
  · show (counted m x).1 0 ≤ (counted m x).1 (inner 0)
    rw [hmin, hheight]
    exact (min_le_right _ _).trans (hq (by decide))
  · show (counted m x).1 (inner 0) ≤ (counted m x).1 (inner 1)
    rw [hheight, hheight]
    exact hq (by decide)
  · show (counted m x).1 (inner 1) ≤ (counted m x).1 (inner 2)
    rw [hheight, hheight]
    exact hq (by decide)
  · show (counted m x).1 (inner 2) ≤ (counted m x).1 4
    rw [hheight, hlast]
    exact (hq (by decide : (3 : Fin 5) ≤ 4)).trans (le_max_right _ _)

/-- Agreement is decided observation by observation. -/
theorem markersAgree_cons (h : Packed N m.2) {xs : List K} :
    MarkersAgree N m (x :: xs) ↔
      lowest PsqUpdate m x = markerStep parabolic (desiredPosition (N + 1)) m x ∧
        MarkersAgree (N + 1) (lowest PsqUpdate m x) xs := by
  have hkept : ∀ seen, markersKept m (x :: seen) = markersKept (lowest PsqUpdate m x) seen := by
    intro seen
    rw [← PsqStep_increments h x]
    rfl
  constructor
  · intro hagree
    have hone : lowest PsqUpdate m x = markerStep parabolic (desiredPosition (N + 1)) m x := by
      have h1 := hagree [x] ⟨xs, rfl⟩
      rw [hkept] at h1
      exact h1
    refine ⟨hone, fun seen hseen => ?_⟩
    have hnext := hagree (x :: seen) (List.cons_prefix_cons.2 ⟨rfl, hseen⟩)
    rw [hkept, pSquare, ← hone] at hnext
    exact hnext
  · rintro ⟨hone, hrest⟩ seen hseen
    cases seen with
    | nil => rfl
    | cons y seen =>
      obtain ⟨rfl, htail⟩ := List.cons_prefix_cons.1 hseen
      rw [hkept, pSquare, ← hone]
      exact hrest seen htail

omit [IsStrictOrderedRing K] in
theorem markersAgree_nil (N : ℕ) (m : Markers K) : MarkersAgree N m [] := by
  intro seen hseen
  rw [List.prefix_nil.1 hseen]
  rfl

/-- Behind the sixth observation the markers agree for two more in the top cell. -/
theorem rest_agrees_iff (h : Packed 6 m.2) (hq : Monotone m.1) (xs : List K) :
    MarkersAgree 6 m xs ↔ xs.length ≤ 2 ∧ ∀ x ∈ xs, m.1 3 ≤ x := by
  cases xs with
  | nil => exact iff_of_true (markersAgree_nil _ _) ⟨by simp, by simp⟩
  | cons x xs =>
    have h7 := lowest_packed PsqUpdate h x
    rw [markersAgree_cons h, later_agrees_iff h (.inl rfl), inTopCell_iff hq, List.forall_mem_cons]
    by_cases hx : m.1 3 ≤ x
    swap
    · exact iff_of_false (fun hagree => hx hagree.1) fun hexact => hx hexact.2.1
    obtain ⟨hq7, hkeep⟩ := top_heights h hq hx
    cases xs with
    | nil => exact iff_of_true ⟨hx, markersAgree_nil _ _⟩ ⟨by simp, hx, by simp⟩
    | cons y xs =>
      have h8 := lowest_packed PsqUpdate h7 y
      rw [markersAgree_cons h7, later_agrees_iff h7 (.inr rfl), inTopCell_iff hq7, hkeep,
        List.forall_mem_cons]
      cases xs with
      | nil =>
        refine ⟨fun hagree => ⟨by simp, hx, hagree.2.1, by simp⟩, fun hexact => ?_⟩
        exact ⟨hx, hexact.2.2.1, markersAgree_nil _ _⟩
      | cons z xs =>
        rw [markersAgree_cons h8]
        refine iff_of_false (fun hagree => ninth_differs h8 z hagree.2.2.1) fun hexact => ?_
        have hlength : xs.length + 1 + 1 + 1 ≤ 2 := hexact.1
        omega

omit [IsStrictOrderedRing K] in
theorem FirstFive.packed (first : FirstFive K) : Packed 5 first.markers.2 := by
  refine ⟨?_, ?_, ?_, ?_, ?_⟩ <;> simp [FirstFive.markers] <;> norm_num

/-- A first observation and those behind it. -/
theorem markersAgree_first (first : FirstFive K) (x : K) (xs : List K) :
    MarkersAgree 5 first.markers (x :: xs) ↔ ExactOn first.heights (x :: xs) := by
  have h5 := first.packed
  rw [markersAgree_cons h5, sixth_step parabolic h5, first_agrees_iff h5 first.sorted]
  refine and_congr_right fun halike => ?_
  have hheights : (lowest PsqUpdate first.markers x).1 = halved first.heights x :=
    lowest_halved h5 first.sorted halike
  have hsorted : Monotone (lowest PsqUpdate first.markers x).1 := by
    rw [hheights]
    exact halved_sorted first.sorted x
  rw [rest_agrees_iff (lowest_packed PsqUpdate h5 x) hsorted, hheights]
  rfl

/-- **The markers of the algorithm**, for every five first observations and every stream behind
    them: `PsqStep` keeps them if and only if the stream is at most three observations long, its
    first moves every marker above it alike, and none behind that falls below the top cell. -/
theorem markers_agree_iff (first : FirstFive K) (xs : List K) :
    MarkersAgree 5 first.markers xs ↔ ExactOn first.heights xs := by
  cases xs with
  | nil => exact iff_of_true (markersAgree_nil _ _) trivial
  | cons x xs => exact markersAgree_first first x xs

/-! ## The heights it starts with -/

omit [LinearOrder K] [IsStrictOrderedRing K] in
theorem initial_heights : (ShapeCalib.initial.q : Fin 5 → K) 0 = 0 ∧
    (ShapeCalib.initial.q : Fin 5 → K) 1 = 0.005 ∧ (ShapeCalib.initial.q : Fin 5 → K) 2 = 0.02 ∧
    (ShapeCalib.initial.q : Fin 5 → K) 3 = 0.5 ∧ (ShapeCalib.initial.q : Fin 5 → K) 4 = 1 :=
  ⟨rfl, rfl, rfl, rfl, rfl⟩

/-- `q_init` -/
def seeded : FirstFive K where
  heights := ShapeCalib.initial.q
  sorted := by
    obtain ⟨h0, h1, h2, h3, h4⟩ := @initial_heights K _
    refine Fin.monotone_iff_le_succ.2 fun j => ?_
    fin_cases j
    · show ShapeCalib.initial.q 0 ≤ (ShapeCalib.initial.q : Fin 5 → K) 1
      rw [h0, h1]
      norm_num
    · show ShapeCalib.initial.q 1 ≤ (ShapeCalib.initial.q : Fin 5 → K) 2
      rw [h1, h2]
      norm_num
    · show ShapeCalib.initial.q 2 ≤ (ShapeCalib.initial.q : Fin 5 → K) 3
      rw [h2, h3]
      norm_num
    · show ShapeCalib.initial.q 3 ≤ (ShapeCalib.initial.q : Fin 5 → K) 4
      rw [h3, h4]
      norm_num

/-- An observation below 0.5 moves the last interior marker, and not alike. -/
theorem seeded_alike_iff (x : K) :
    (∀ i, AlikeAt (seeded : FirstFive K).heights x i) ↔ 0.5 ≤ x := by
  obtain ⟨h0, h1, h2, h3, h4⟩ := @initial_heights K _
  have hlow : halved (seeded : FirstFive K).heights x 1 = halfway x (min x 0) 0.005 := by
    show halfway x (min x (ShapeCalib.initial.q 0)) (ShapeCalib.initial.q 1) = _
    rw [h0, h1]
  have hmid : halved (seeded : FirstFive K).heights x 2 =
      halfway x (halfway x (min x 0) 0.005) 0.02 := by
    rw [← hlow, ← h2]
    rfl
  constructor
  · intro halike
    by_contra hlt
    rw [not_le] at hlt
    have hlast : MovesAlike (0.5 - halfway x (halfway x (min x 0) 0.005) 0.02) (1 - 0.5 : K) := by
      have h := halike 2 (by show x < ShapeCalib.initial.q 3; rwa [h3])
      rw [show below 2 = 2 from rfl, hmid] at h
      rwa [show (seeded : FirstFive K).heights (inner 2) = 0.5 from h3,
        show (seeded : FirstFive K).heights (above 2) = 1 from h4] at h
    -- the marker below is not above 0.02, and far below only where the first one is not alike
    have hfirst : x < 0.005 → MovesAlike (0.005 - min x 0) (0.02 - 0.005 : K) := by
      intro hx
      have h := halike 0 (by show x < ShapeCalib.initial.q 1; rwa [h1])
      rw [show halved (seeded : FirstFive K).heights x (below 0) =
        min x (ShapeCalib.initial.q 0) from rfl, h0] at h
      rwa [show (seeded : FirstFive K).heights (inner 0) = 0.005 from h1,
        show (seeded : FirstFive K).heights (above 0) = 0.02 from h2] at h
    have hmin : min x 0 ≤ (0 : K) := min_le_right _ _
    unfold MovesAlike halfway at hlast
    by_cases hx : x < 0.005
    · have halike0 := hfirst hx
      unfold MovesAlike at halike0
      rw [if_pos hx, if_pos (by linarith)] at hlast
      rcases hlast with h | h <;> rcases halike0 with h' | h' <;> linarith
    · rw [if_neg hx] at hlast
      split_ifs at hlast <;> rcases hlast with h | h <;> linarith
  · intro hle i hx
    have hplace : inner i ≤ 3 := by fin_cases i <;> decide
    have hheight : (seeded : FirstFive K).heights (inner i) ≤ 0.5 :=
      (seeded.sorted hplace).trans_eq h3
    exact absurd hx (not_lt.2 (hheight.trans hle))

/-- From the heights that it starts with, `PsqStep` keeps the markers of the algorithm for at most
    three observations, none of them below 0.5. -/
theorem seeded_agree_iff (xs : List K) :
    MarkersAgree 5 (seeded : FirstFive K).markers xs ↔ xs.length ≤ 3 ∧ ∀ x ∈ xs, 0.5 ≤ x := by
  have h3 : (seeded : FirstFive K).heights 3 = 0.5 := (@initial_heights K _).2.2.2.1
  cases xs with
  | nil => exact iff_of_true (markersAgree_nil _ _) ⟨by simp, by simp⟩
  | cons x xs =>
    rw [markersAgree_first, ExactOn, seeded_alike_iff, List.forall_mem_cons, List.length_cons]
    by_cases hx : 0.5 ≤ x
    · have hkept : halved (seeded : FirstFive K).heights x (inner (Fin.last 2)) = 0.5 := by
        rw [halved_inner,
          show (seeded : FirstFive K).heights (inner (Fin.last 2)) = _ from h3,
          halfway, if_neg (not_lt.2 hx)]
      rw [hkept]
      simp only [hx, true_and]
      refine and_congr_left fun _ => ?_
      omega
    · exact iff_of_false (fun h => hx h.1) fun h => hx h.2.1

/-- Heights between which the first observation moves one marker halfway down. -/
def halvingHeights : FirstFive ℚ where
  heights := ![0, 1, 2, 6, 8]
  sorted := by decide

/-- An observation that moves a marker, and two in the top cell. -/
theorem halvingHeights_agree : MarkersAgree 5 halvingHeights.markers [3, 5, 9] :=
  (markers_agree_iff halvingHeights _).2 (by decide +kernel)

-- the parabola of a first observation in the middle takes the marker to 13/75, not to 13/150
example : (markersKept (seeded : FirstFive ℚ).markers [0.3]).1 3 = 13 / 150 ∧
    (pSquare 5 (seeded : FirstFive ℚ).markers [0.3]).1 3 = 13 / 75 := by
  decide +kernel

/-- **A seventh observation at the bottom** is one too many: the algorithm leaves a marker at 5,
    `PsqStep` at 4. -/
theorem lowObservation_differs :
    ¬ MarkersAgree 5 (seeded : FirstFive ℚ).markers [0, 0] := by
  intro h
  have hpositions := congrFun (congrArg Prod.snd (h [0, 0] (List.prefix_refl _))) 3
  revert hpositions
  decide +kernel

end WKPairDriver.FaceTracking.Calibration
