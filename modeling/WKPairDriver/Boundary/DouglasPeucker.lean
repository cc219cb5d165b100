import Mathlib
import WKPairDriver.Boundary.BoundaryCapture

/-!
# The error of the simplification: `SimplifyDouglasPeucker`

The recursion measures the vertices of an interval against its ends, and the result is read off the
flags it leaves: where it drops a whole interval, the ends are neighbours among the kept vertices.

* `Evaluates` — the recursion as the source has it, without fuel; `DouglasPeuckerRec_evaluates`.
* `Evaluates.thinned` — what a call leaves of its interval.
* `simplify_error` — the indices that are kept and the error of the others.
-/

set_option autoImplicit false

namespace WKPairDriver.Boundary.Capture

variable {K : Type} [Field K] [LinearOrder K]

/-! ## Distance from a segment -/

/-- As the simplification has it; `SegmentDistanceSq` clamps `t` in two steps. -/
def PerpendicularDistanceSq (p a b : BoundaryVertex K) : K :=
  let dx := b.x - a.x
  let dy := b.y - a.y
  let dz := b.z - a.z
  let lenSq := dx * dx + dy * dy + dz * dz
  let px := p.x - a.x
  let py := p.y - a.y
  let pz := p.z - a.z
  if lenSq < 1e-20 then px * px + py * py + pz * pz
  else
    let t := (px * dx + py * dy + pz * dz) / lenSq
    let t := max 0.0 (min 1.0 t)
    let rx := px - t * dx
    let ry := py - t * dy
    let rz := pz - t * dz
    rx * rx + ry * ry + rz * rz

/-- The point of the segment at the parameter `t`. -/
def alongSegment (a b : BoundaryVertex K) (t : K) : BoundaryVertex K :=
  ⟨a.x + t * (b.x - a.x), a.y + t * (b.y - a.y), a.z + t * (b.z - a.z)⟩

/-- Some point of the segment from `a` to `b` is at most `epsilon` away. -/
def NearSegment (epsilon : K) (p a b : BoundaryVertex K) : Prop :=
  ∃ t, 0 ≤ t ∧ t ≤ 1 ∧ DistanceSq p (alongSegment a b t) ≤ epsilon * epsilon

omit [LinearOrder K] in
theorem DistanceSq_alongSegment (p a b : BoundaryVertex K) (t : K) :
    DistanceSq p (alongSegment a b t) =
      (p.x - a.x - t * (b.x - a.x)) * (p.x - a.x - t * (b.x - a.x)) +
        (p.y - a.y - t * (b.y - a.y)) * (p.y - a.y - t * (b.y - a.y)) +
        (p.z - a.z - t * (b.z - a.z)) * (p.z - a.z - t * (b.z - a.z)) := by
  simp only [DistanceSq, alongSegment]
  ring

section Segment

variable [IsStrictOrderedRing K]

theorem PerpendicularDistanceSq_eq (p a b : BoundaryVertex K) :
    PerpendicularDistanceSq p a b = SegmentDistanceSq p a b := by
  have hclamp : ∀ t : K, max 0.0 (min 1.0 t) =
      if 1 < (if t < 0 then 0 else t) then 1 else if t < 0 then 0 else t := by
    intro t
    have h0 : (0.0 : K) = 0 := by norm_num
    have h1 : (1.0 : K) = 1 := by norm_num
    rw [h0, h1]
    split_ifs with hneg hone hone
    · exact absurd hone (by norm_num)
    · rw [min_eq_right (hneg.le.trans zero_le_one), max_eq_left hneg.le]
    · rw [min_eq_left hone.le, max_eq_right zero_le_one]
    · rw [min_eq_right (not_lt.1 hone), max_eq_right (not_lt.1 hneg)]
  simp only [PerpendicularDistanceSq, SegmentDistanceSq, hclamp]

/-- The distance is that of a point of the segment, of the first end if the segment is short. -/
theorem exists_alongSegment (p a b : BoundaryVertex K) :
    ∃ t, 0 ≤ t ∧ t ≤ 1 ∧ SegmentDistanceSq p a b = DistanceSq p (alongSegment a b t) := by
  simp only [← PerpendicularDistanceSq_eq, DistanceSq_alongSegment]
  unfold PerpendicularDistanceSq
  dsimp only
  split_ifs with hshort
  · exact ⟨0, le_rfl, zero_le_one, by ring⟩
  · refine ⟨_, ?_, ?_, rfl⟩
    · exact le_max_of_le_left (by norm_num)
    · exact max_le (by norm_num) (min_le_of_left_le (by norm_num))

theorem nearSegment_of_le {epsilon : K} {p a b : BoundaryVertex K}
    (h : SegmentDistanceSq p a b ≤ epsilon * epsilon) : NearSegment epsilon p a b := by
  obtain ⟨t, h0, h1, heq⟩ := exists_alongSegment p a b
  exact ⟨t, h0, h1, heq ▸ h⟩

end Segment

/-! ## The recursion -/

variable (path : List (BoundaryVertex K)) (epsilonSq : K)

/-- A call on an interval ends, and changes the flags from the first to the second. -/
inductive Evaluates : ℕ → ℕ → (ℕ → Bool) → (ℕ → Bool) → Prop where
  | short {lo hi : ℕ} {keep : ℕ → Bool} (h : hi ≤ lo + 1) : Evaluates lo hi keep keep
  | flat {lo hi : ℕ} {keep : ℕ → Bool} (h : ¬hi ≤ lo + 1)
      (hflat : ¬(farthest path lo hi).1 > epsilonSq) : Evaluates lo hi keep keep
  | split {lo hi : ℕ} {keep keep' keep'' : ℕ → Bool} (h : ¬hi ≤ lo + 1)
      (hfar : (farthest path lo hi).1 > epsilonSq)
      (left : Evaluates lo (farthest path lo hi).2
        (Function.update keep (farthest path lo hi).2 true) keep')
      (right : Evaluates (farthest path lo hi).2 hi keep' keep'') : Evaluates lo hi keep keep''

/-- **The recursion ends**: the fuel is never what stops it. -/
theorem DouglasPeuckerRec_evaluates : ∀ (fuel lo hi : ℕ) (keep : ℕ → Bool), hi - lo ≤ fuel →
    Evaluates path epsilonSq lo hi keep (DouglasPeuckerRec path epsilonSq fuel lo hi keep)
  | 0, lo, hi, keep, h => .short (by omega)
  | fuel + 1, lo, hi, keep, h => by
    unfold DouglasPeuckerRec
    dsimp only
    split_ifs with hends hfar
    · exact .short hends
    · -- the farthest vertex is strictly inside, so both halves are shorter
      have hbounds := farthest_bounds path hends
      exact .split hends hfar
        (DouglasPeuckerRec_evaluates fuel _ _ _ (by omega))
        (DouglasPeuckerRec_evaluates fuel _ _ _ (by omega))
    · exact .flat hends hfar

/-! ## What a call leaves -/

omit [Field K] in
/-- The search for the largest of some distances, from any best so far. -/
theorem le_foldl_farther (d : ℕ → K) (js : List ℕ) (best : K × ℕ) :
    best.1 ≤ (js.foldl (fun best i => if d i > best.1 then (d i, i) else best) best).1 ∧
      ∀ i ∈ js, d i ≤ (js.foldl (fun best i => if d i > best.1 then (d i, i) else best) best).1 := by
  induction js generalizing best with
  | nil => exact ⟨le_rfl, fun i hi => absurd hi List.not_mem_nil⟩
  | cons j js ih =>
    rw [List.foldl_cons]
    obtain ⟨hbest, hrest⟩ := ih (if d j > best.1 then (d j, j) else best)
    have hstep : best.1 ≤ (if d j > best.1 then (d j, j) else best).1 ∧
        d j ≤ (if d j > best.1 then (d j, j) else best).1 := by
      split_ifs with h
      · exact ⟨le_of_lt h, le_rfl⟩
      · exact ⟨le_rfl, not_lt.1 h⟩
    refine ⟨hstep.1.trans hbest, fun i hi => ?_⟩
    rcases List.mem_cons.1 hi with rfl | hi
    · exact hstep.2.trans hbest
    · exact hrest i hi

variable {path epsilonSq}

/-- No vertex of the interval is farther than the farthest. -/
theorem le_farthest {lo hi i : ℕ} (hlo : lo < i) (hhi : i < hi) :
    SegmentDistanceSq (vertexAt path i) (vertexAt path lo) (vertexAt path hi) ≤
      (farthest path lo hi).1 := by
  have hmem : i ∈ List.range' (lo + 1) (hi - (lo + 1)) := by
    rw [List.mem_range'_1]
    omega
  exact (le_foldl_farther
    (fun i => SegmentDistanceSq (vertexAt path i) (vertexAt path lo) (vertexAt path hi)) _ _).2 i hmem

/-- `l` and `h` are neighbours among the ends of the interval and the kept vertices inside. -/
structure Neighbours (lo hi : ℕ) (keep : ℕ → Bool) (l h : ℕ) : Prop where
  lower : l = lo ∨ lo < l ∧ keep l = true
  upper : h = hi ∨ h < hi ∧ keep h = true
  between : ∀ k, l < k → k < h → keep k = false

variable (path epsilonSq)

/-- What a call on an interval leaves: nothing outside is changed, and what is dropped inside is
    close to the segment of its neighbours. -/
structure Thinned (lo hi : ℕ) (keep keep' : ℕ → Bool) : Prop where
  frame : ∀ i, i ≤ lo ∨ hi ≤ i → keep' i = keep i
  dropped : ∀ i, lo < i → i < hi → keep' i = false → ∃ l h, l < i ∧ i < h ∧
    Neighbours lo hi keep' l h ∧
      SegmentDistanceSq (vertexAt path i) (vertexAt path l) (vertexAt path h) ≤ epsilonSq

variable {path epsilonSq}

theorem Thinned.of_flat {lo hi : ℕ} {keep : ℕ → Bool}
    (hnew : ∀ k, lo < k → k < hi → keep k = false)
    (hflat : ¬(farthest path lo hi).1 > epsilonSq) : Thinned path epsilonSq lo hi keep keep where
  frame _ _ := rfl
  dropped _ hlo hhi _ :=
    ⟨lo, hi, hlo, hhi, ⟨.inl rfl, .inl rfl, hnew⟩, (le_farthest hlo hhi).trans (not_lt.1 hflat)⟩

/-- Two calls, one behind the other, with the vertex between them kept. -/
theorem Thinned.split {lo hi mid : ℕ} {keep keep' keep'' : ℕ → Bool} (hlo : lo < mid)
    (hhi : mid < hi) (hmid : keep mid = true) (left : Thinned path epsilonSq lo mid keep keep')
    (right : Thinned path epsilonSq mid hi keep' keep'') :
    Thinned path epsilonSq lo hi keep keep'' where
  frame i hi' := by
    rw [right.frame i (by omega), left.frame i (by omega)]
  dropped i hlo' hhi' hdrop := by
    have hkept : keep'' mid = true := by
      rw [right.frame mid (.inl le_rfl), left.frame mid (.inr le_rfl), hmid]
    rcases lt_trichotomy i mid with hlt | rfl | hgt
    · -- the left call decided, and the right one has not changed its half
      rw [right.frame i (.inl hlt.le)] at hdrop
      obtain ⟨l, h, hl, hh, hnext, hdist⟩ := left.dropped i hlo' hlt hdrop
      have hle : h ≤ mid := by
        rcases hnext.upper with rfl | ⟨hlt', -⟩ <;> omega
      refine ⟨l, h, hl, hh, ⟨?_, ?_, ?_⟩, hdist⟩
      · rw [right.frame l (by omega)]
        exact hnext.lower
      · rcases hnext.upper with rfl | ⟨hlt', hkeep⟩
        · exact .inr ⟨hhi, hkept⟩
        · rw [right.frame h (.inl hle)]
          exact .inr ⟨hlt'.trans hhi, hkeep⟩
      · intro k hlk hkh
        rw [right.frame k (by omega)]
        exact hnext.between k hlk hkh
    · rw [hkept] at hdrop
      cases hdrop
    · obtain ⟨l, h, hl, hh, hnext, hdist⟩ := right.dropped i hgt hhi' hdrop
      refine ⟨l, h, hl, hh, ⟨?_, hnext.upper, hnext.between⟩, hdist⟩
      rcases hnext.lower with rfl | ⟨hlt', hkeep⟩
      · exact .inr ⟨hlo, hkept⟩
      · exact .inr ⟨hlo.trans hlt', hkeep⟩

/-- **What the recursion leaves** of an interval of which nothing is kept yet. -/
theorem Evaluates.thinned {lo hi : ℕ} {keep keep' : ℕ → Bool}
    (h : Evaluates path epsilonSq lo hi keep keep')
    (hnew : ∀ k, lo < k → k < hi → keep k = false) : Thinned path epsilonSq lo hi keep keep' := by
  induction h with
  | short hshort => exact ⟨fun _ _ => rfl, fun i hlo hhi _ => absurd hshort (by omega)⟩
  | flat _ hflat => exact .of_flat hnew hflat
  | split hends _ _ _ ihleft ihright =>
    obtain ⟨hlo, hhi⟩ := farthest_bounds path hends
    have left := ihleft fun k hk hk' => by
      rw [Function.update_of_ne hk'.ne]
      exact hnew k hk (hk'.trans hhi)
    have right := ihright fun k hk hk' => by
      rw [left.frame k (.inr hk.le), Function.update_of_ne hk.ne']
      exact hnew k (hlo.trans hk) hk'
    obtain ⟨hframe, hdropped⟩ := Thinned.split hlo hhi (Function.update_self ..) left right
    refine ⟨fun i hi' => ?_, hdropped⟩
    rw [hframe i hi', Function.update_of_ne (by omega)]

/-! ## The simplification -/

theorem SimplifyDouglasPeucker_short (epsilonMeters : K) (h : path.length ≤ 2) :
    SimplifyDouglasPeucker path epsilonMeters = List.range path.length := if_pos h

/-- The flags that the recursion starts with. -/
def endsKept (path : List (BoundaryVertex K)) (i : ℕ) : Bool := i == 0 || i == path.length - 1

/-- A longer path is thinned between its ends. -/
theorem mem_SimplifyDouglasPeucker_iff (epsilonMeters : K) (h : ¬path.length ≤ 2) :
    ∃ keep, Evaluates path (epsilonMeters * epsilonMeters) 0 (path.length - 1) (endsKept path) keep ∧
      ∀ i, i ∈ SimplifyDouglasPeucker path epsilonMeters ↔ i < path.length ∧ keep i = true := by
  refine ⟨_, DouglasPeuckerRec_evaluates path _ path.length _ _ _ (by omega), fun i => ?_⟩
  rw [SimplifyDouglasPeucker, if_neg h, List.mem_filter, List.mem_range]
  rfl

theorem SimplifyDouglasPeucker_pairwise (path : List (BoundaryVertex K)) (epsilonMeters : K) :
    (SimplifyDouglasPeucker path epsilonMeters).Pairwise (· < ·) := by
  unfold SimplifyDouglasPeucker
  dsimp only
  split_ifs
  · exact List.pairwise_lt_range
  · exact List.pairwise_lt_range.filter _

/-- Indices into the path that stand for it up to `epsilon`. -/
structure Simplifies (path : List (BoundaryVertex K)) (epsilon : K) (kept : List ℕ) : Prop where
  increasing : kept.Pairwise (· < ·)
  inside : ∀ i ∈ kept, i < path.length
  ends : path ≠ [] → 0 ∈ kept ∧ path.length - 1 ∈ kept
  dropped : ∀ i < path.length, i ∉ kept → ∃ l ∈ kept, ∃ h ∈ kept, l < i ∧ i < h ∧
    (∀ k ∈ kept, ¬(l < k ∧ k < h)) ∧
      NearSegment epsilon (vertexAt path i) (vertexAt path l) (vertexAt path h)

theorem simplifies_of_short (epsilon : K) (h : path.length ≤ 2) :
    Simplifies path epsilon (SimplifyDouglasPeucker path epsilon) where
  increasing := SimplifyDouglasPeucker_pairwise path epsilon
  inside i hi := by
    rw [SimplifyDouglasPeucker_short epsilon h] at hi
    exact List.mem_range.1 hi
  ends hne := by
    have hpos := List.length_pos_of_ne_nil hne
    rw [SimplifyDouglasPeucker_short epsilon h, List.mem_range, List.mem_range]
    omega
  dropped i hi hdrop := by
    rw [SimplifyDouglasPeucker_short epsilon h] at hdrop
    exact absurd (List.mem_range.2 hi) hdrop

theorem simplifies_of_long [IsStrictOrderedRing K] (epsilon : K) (h : ¬path.length ≤ 2) :
    Simplifies path epsilon (SimplifyDouglasPeucker path epsilon) := by
  obtain ⟨keep, heval, hmem⟩ := mem_SimplifyDouglasPeucker_iff epsilon h
  have hthin := heval.thinned fun k hk hk' => by
    simp only [endsKept, Bool.or_eq_false_iff, beq_eq_false_iff_ne]
    omega
  have hends : keep 0 = true ∧ keep (path.length - 1) = true := by
    rw [hthin.frame 0 (.inl le_rfl), hthin.frame _ (.inr le_rfl)]
    simp [endsKept]
  refine ⟨SimplifyDouglasPeucker_pairwise path epsilon, fun i hi => ((hmem i).1 hi).1, ?_, ?_⟩
  · exact fun _ => ⟨(hmem _).2 ⟨by omega, hends.1⟩, (hmem _).2 ⟨by omega, hends.2⟩⟩
  · intro i hi hdrop
    have hflag : keep i = false := by
      rw [← Bool.not_eq_true]
      exact fun hkeep => hdrop ((hmem i).2 ⟨hi, hkeep⟩)
    have h0 : i ≠ 0 := by
      rintro rfl
      rw [hends.1] at hflag
      cases hflag
    have hlast : i ≠ path.length - 1 := by
      rintro rfl
      rw [hends.2] at hflag
      cases hflag
    obtain ⟨l, u, hl, hu, hnext, hdist⟩ := hthin.dropped i (by omega) (by omega) hflag
    have hlkept : keep l = true := by
      rcases hnext.lower with rfl | ⟨-, hkeep⟩
      exacts [hends.1, hkeep]
    have hukept : keep u = true ∧ u < path.length := by
      rcases hnext.upper with rfl | ⟨hlt, hkeep⟩
      exacts [⟨hends.2, by omega⟩, ⟨hkeep, by omega⟩]
    refine ⟨l, (hmem l).2 ⟨by omega, hlkept⟩, u, (hmem u).2 ⟨hukept.2, hukept.1⟩, hl, hu, ?_,
      nearSegment_of_le hdist⟩
    intro k hk hbetween
    have hfalse := hnext.between k hbetween.1 hbetween.2
    rw [((hmem k).1 hk).2] at hfalse
    cases hfalse

/-- **The error bound.**  Every call of the recursion ends, and what is kept of a path simplifies
    it. -/
theorem simplify_error [IsStrictOrderedRing K] (path : List (BoundaryVertex K)) (epsilon : K) :
    (∀ lo hi keep, ∃ keep', Evaluates path (epsilon * epsilon) lo hi keep keep') ∧
      Simplifies path epsilon (SimplifyDouglasPeucker path epsilon) := by
  refine ⟨fun lo hi keep => ⟨_, DouglasPeuckerRec_evaluates path _ (hi - lo) lo hi keep le_rfl⟩, ?_⟩
  by_cases hshort : path.length ≤ 2
  · exact simplifies_of_short epsilon hshort
  · exact simplifies_of_long epsilon hshort

/-- A bent path, with a vertex that is dropped on each side of the bend. -/
def bentPath : List (BoundaryVertex ℚ) := [⟨0, 0, 0⟩, ⟨0.5, 0, 0.01⟩, ⟨1, 0, 0⟩, ⟨1, 0, 0.5⟩, ⟨1, 0, 1⟩]

theorem bentPath_error :
    SimplifyDouglasPeucker bentPath 0.05 = [0, 2, 4] ∧
      (∀ lo hi keep, ∃ keep', Evaluates bentPath (0.05 * 0.05) lo hi keep keep') ∧
      Simplifies bentPath 0.05 (SimplifyDouglasPeucker bentPath 0.05) :=
  ⟨by decide +kernel, simplify_error bentPath 0.05⟩

end WKPairDriver.Boundary.Capture
