import Mathlib
import WKPairDriver.Lib.RigidMotion

/-!
# The head-mount offset solver

`Solver` collects pairs of a headset pose and a tracker pose in one frame while the user moves, and
`Finish` solves for the offset of the headset from the tracker: the relative rotations are averaged
as quaternions, the translation is the mean of the relative ones.

* `ComputeSolve`, `readiness`, `Solver.Finish` — the solver; Eigen is its parameter.
* `AverageQuaternions_of_same` — the average of quaternions that agree up to sign.
* `ComputeSolve_exact` — pairs with one offset are solved for that offset, with no residual.
* `Solver.Finish_exact` — and so `Finish` ends in `Done` if it has samples and motion enough.

The poses are over the reals, so all of them are finite.
-/

set_option autoImplicit false

namespace WKPairDriver.Calibration.OffsetSolver

open Lib Quaternion Matrix

/-! ## Eigen -/

/-- Pitch, yaw and roll. -/
structure Axes where
  pitch : ℝ
  yaw : ℝ
  roll : ℝ

def Axes.map (f : ℝ → ℝ) (a : Axes) : Axes := ⟨f a.pitch, f a.yaw, f a.roll⟩

def Axes.map₂ (f : ℝ → ℝ → ℝ) (a b : Axes) : Axes :=
  ⟨f a.pitch b.pitch, f a.yaw b.yaw, f a.roll b.roll⟩

def Axes.least (a : Axes) : ℝ := min a.pitch (min a.yaw a.roll)

/-- What the solver uses of Eigen. -/
structure Eigen where
  /-- `Affine3d::rotation()` -/
  rotation : Affine ℝ → Matrix (Fin 3) (Fin 3) ℝ
  /-- `Quaterniond(R)` -/
  quaternion : Matrix (Fin 3) (Fin 3) ℝ → ℍ[ℝ]
  /-- `SelfAdjointEigenSolver(M).eigenvectors().col(3)` -/
  lastEigenvector : Matrix (Fin 4) (Fin 4) ℝ → Fin 4 → ℝ
  /-- `aa.axis() * aa.angle()` of `AngleAxisd aa(R)` -/
  rotationVector : Matrix (Fin 3) (Fin 3) ℝ → Axes

/-- `lambda` is the largest eigenvalue of `m`, and `v` a unit eigenvector for it. -/
structure IsTop (m : Matrix (Fin 4) (Fin 4) ℝ) (v : Fin 4 → ℝ) (lambda : ℝ) : Prop where
  unit : v ⬝ᵥ v = 1
  eigen : m *ᵥ v = lambda • v
  largest : ∀ w mu, w ≠ 0 → m *ᵥ w = mu • w → mu ≤ lambda

/-- The documented behaviour. -/
structure Eigen.Meets (eigen : Eigen) : Prop where
  rotation : ∀ m : RigidMotion ℝ, eigen.rotation m.affine = m.affine.linear
  quaternion : ∀ q : ℍ[ℝ], normSq q = 1 →
    normSq (eigen.quaternion (toMatrix q)) = 1 ∧
      toMatrix (eigen.quaternion (toMatrix q)) = toMatrix q
  lastEigenvector : ∀ m : Matrix (Fin 4) (Fin 4) ℝ, mᵀ = m →
    ∃ lambda, IsTop m (eigen.lastEigenvector m) lambda

def squaredNorm (v : Fin 3 → ℝ) : ℝ := v ⬝ᵥ v

/-! ## The solve -/

noncomputable section

/-- A headset pose and a tracker pose. -/
abbrev Pair := Affine ℝ × Affine ℝ

structure ComputedSolve where
  headFromTracker : Affine ℝ := 1
  residualMm : WithTop ℝ := ⊤

variable (eigen : Eigen)

def AverageQuaternions (qs : List ℍ[ℝ]) : ℍ[ℝ] :=
  let outer := qs.map fun q => vecMulVec (equivTuple ℝ q) (equivTuple ℝ q)
  let m := (qs.length : ℝ)⁻¹ • outer.sum
  normalized ((equivTuple ℝ).symm (eigen.lastEigenvector m))

/-- The relative rotation of a pair, in one hemisphere. -/
def relRotation (pair : Pair) : ℍ[ℝ] :=
  let rel := pair.2⁻¹ * pair.1
  let q := eigen.quaternion (eigen.rotation rel)
  normalized (if q.re < 0 then -q else q)

def relTranslation (pair : Pair) : Fin 3 → ℝ :=
  (eigen.rotation pair.2)ᵀ *ᵥ (pair.1.translation - pair.2.translation)

def ComputeSolve (pairs : List Pair) : ComputedSolve :=
  if pairs = [] then {}
  else
    let r := toMatrix (AverageQuaternions eigen (pairs.map (relRotation eigen)))
    let t := (pairs.length : ℝ)⁻¹ • (pairs.map (relTranslation eigen)).sum
    let headFromTracker : Affine ℝ := ⟨r, t⟩
    let residualSq := pairs.map fun pair =>
      squaredNorm (pair.1.translation - (pair.2 * headFromTracker).translation)
    { headFromTracker := headFromTracker
      residualMm := ((√(residualSq.sum / pairs.length) * 1000 : ℝ) : WithTop ℝ) }

/-- The rotation of a pair's tracker since the first pair, in degrees. -/
def rotVecDeg (first pair : Pair) : Axes :=
  (eigen.rotationVector ((eigen.rotation first.2)ᵀ * eigen.rotation pair.2)).map
    fun x => x * (180 / Real.pi)

def RotationAxisRangesDeg : List Pair → Axes
  | [] => ⟨0, 0, 0⟩
  | [_] => ⟨0, 0, 0⟩
  | first :: rest =>
    let v0 := rotVecDeg eigen first first
    let vs := rest.map (rotVecDeg eigen first)
    let minV := vs.foldl (Axes.map₂ min) v0
    let maxV := vs.foldl (Axes.map₂ max) v0
    maxV.map₂ (fun hi lo => hi - lo) minV

/-! ## The solver -/

inductive SolveState where
  | Idle
  | Collecting
  | Solving
  | Done
  | Failed
deriving DecidableEq

structure SolveResult where
  headFromTracker : Affine ℝ := 1
  residualMm : WithTop ℝ := ((0 : ℝ) : WithTop ℝ)
  samplesUsed : ℕ := 0
  failReason : String := ""

def kMinHmdSpeedMps : ℝ := 0.02

def kMinReadySampleCount : ℕ := 60

def kAxisRangeTargetDeg : ℝ := 20

def kResidualThresholdMm : ℝ := 5.0

structure CollectionReadiness where
  samplesUsed : ℕ
  sampleScore : ℝ
  motionScore : ℝ
  residualScore : ℝ
  overallScore : ℝ
  residualMm : WithTop ℝ
  axisRangeDeg : Axes
  axisScore : Axes
  enoughSamples : Bool
  enoughMotion : Bool
  residualGood : Bool
  ready : Bool

/-- Of the residual, if it is finite. -/
def residualScore : WithTop ℝ → ℝ
  | ⊤ => 0
  | (r : ℝ) => max 0 (min ((kResidualThresholdMm * 2.0 - r) / kResidualThresholdMm) 1)

open Classical in
def readiness (pairs : List Pair) : CollectionReadiness :=
  let sampleScore := min 1 ((pairs.length : ℝ) / kMinReadySampleCount)
  let enoughSamples := decide (pairs.length ≥ kMinReadySampleCount)
  let axisRangeDeg := RotationAxisRangesDeg eigen pairs
  let axisScore := axisRangeDeg.map fun range => min 1 (range / kAxisRangeTargetDeg)
  let motionScore := axisScore.least
  let enoughMotion := decide (motionScore ≥ 1)
  let residualMm : WithTop ℝ :=
    if pairs.length ≥ 2 then (ComputeSolve eigen pairs).residualMm else ((0 : ℝ) : WithTop ℝ)
  let score := if pairs.length ≥ 2 then residualScore residualMm else 0
  let residualGood := decide (pairs.length ≥ 2 ∧ residualMm ≤ (kResidualThresholdMm : WithTop ℝ))
  { samplesUsed := pairs.length
    sampleScore := sampleScore
    motionScore := motionScore
    residualScore := score
    overallScore := min sampleScore (min motionScore score)
    residualMm := residualMm
    axisRangeDeg := axisRangeDeg
    axisScore := axisScore
    enoughSamples := enoughSamples
    enoughMotion := enoughMotion
    residualGood := residualGood
    ready := enoughSamples && enoughMotion && residualGood }

structure Solver where
  state : SolveState := .Idle
  pairs : List Pair := []
  result : SolveResult := {}

namespace Solver

def Start (_ : Solver) : Solver := { state := .Collecting, pairs := [], result := {} }

def Cancel (_ : Solver) : Solver := { state := .Idle, pairs := [], result := {} }

open Classical in
/-- A sample is accepted while collecting, if the headset moves. -/
def Tick (s : Solver) (hmdPose trackerPose : Affine ℝ) (hmdSpeedMps : ℝ) : Solver × Bool :=
  if s.state ≠ .Collecting then (s, false)
  else if hmdSpeedMps < kMinHmdSpeedMps then (s, false)
  else ({ s with pairs := s.pairs ++ [(hmdPose, trackerPose)] }, true)

open Classical in
def Finish (s : Solver) : Solver :=
  if s.state ≠ .Collecting then s
  else
    let r := readiness eigen s.pairs
    if !r.enoughSamples || !r.enoughMotion then
      { s with
        state := .Failed
        result := { s.result with
          failReason := "not enough motion"
          samplesUsed := s.pairs.length } }
    else
      let solve := ComputeSolve eigen s.pairs
      if solve.residualMm > (kResidualThresholdMm : WithTop ℝ) then
        { s with
          state := .Failed
          result := { s.result with
            failReason := "mount may be slipping"
            residualMm := solve.residualMm
            samplesUsed := s.pairs.length } }
      else
        { s with
          state := .Done
          result :=
            { headFromTracker := solve.headFromTracker
              residualMm := solve.residualMm
              samplesUsed := s.pairs.length
              failReason := "" } }

end Solver

/-! ## Averages of what agrees -/

/-- The mean of one value. -/
theorem mean_of_const {α V : Type} [AddCommGroup V] [Module ℝ V] {l : List α} (hl : l ≠ [])
    {f : α → V} {c : V} (h : ∀ a ∈ l, f a = c) : (l.length : ℝ)⁻¹ • (l.map f).sum = c := by
  have hlen : (l.length : ℝ) ≠ 0 := by
    exact_mod_cast (List.length_pos_iff.2 hl).ne'
  have hconst : l.map f = List.replicate l.length c := by
    rw [List.map_congr_left h, List.map_const']
  rw [hconst, List.sum_replicate, ← Nat.cast_smul_eq_nsmul ℝ, inv_smul_smul₀ hlen]

theorem equivTuple_neg (q : ℍ[ℝ]) : equivTuple ℝ (-q) = -equivTuple ℝ q := by
  funext i
  fin_cases i <;> rfl

theorem equivTuple_dot (q : ℍ[ℝ]) : equivTuple ℝ q ⬝ᵥ equivTuple ℝ q = normSq q := by
  rw [normSq_def', dotProduct, Fin.sum_univ_four]
  simp [sq]

/-- The only eigenvalue of `u uᵀ` that is not zero belongs to `u`. -/
theorem IsTop.of_outer {u v : Fin 4 → ℝ} {lambda : ℝ} (hu : u ⬝ᵥ u = 1)
    (h : IsTop (vecMulVec u u) v lambda) : v = u ∨ v = -u := by
  have happly : ∀ w, vecMulVec u u *ᵥ w = (u ⬝ᵥ w) • u := by
    intro w
    rw [vecMulVec_mulVec, op_smul_eq_smul]
  have hu0 : u ≠ 0 := by
    rintro rfl
    simp at hu
  have hone : 1 ≤ lambda := by
    apply h.largest u 1 hu0
    rw [happly, hu]
  have hv : v = (lambda⁻¹ * (u ⬝ᵥ v)) • u := by
    have heigen := h.eigen
    rw [happly] at heigen
    rw [mul_smul, heigen, inv_smul_smul₀ (by linarith)]
  have hunit := h.unit
  rw [hv, smul_dotProduct, dotProduct_smul, hu, smul_eq_mul, smul_eq_mul, mul_one] at hunit
  rcases mul_self_eq_one_iff.1 hunit with h1 | h1
  · exact .inl (by rw [hv, h1, one_smul])
  · exact .inr (by rw [hv, h1, neg_one_smul])

variable {eigen}

/-- **The average of unit quaternions that agree up to sign is one of them.** -/
theorem AverageQuaternions_of_same (heigen : eigen.Meets) {p : ℍ[ℝ]} (hp : normSq p = 1)
    {qs : List ℍ[ℝ]} (hqs : qs ≠ []) (h : ∀ q ∈ qs, q = p ∨ q = -p) :
    AverageQuaternions eigen qs = p ∨ AverageQuaternions eigen qs = -p := by
  set u := equivTuple ℝ p
  have houter : ∀ q ∈ qs, vecMulVec (equivTuple ℝ q) (equivTuple ℝ q) = vecMulVec u u := by
    intro q hq
    rcases h q hq with rfl | rfl
    · rfl
    · rw [equivTuple_neg, neg_vecMulVec, vecMulVec_neg, neg_neg]
  have hsymm : (vecMulVec u u)ᵀ = vecMulVec u u := transpose_vecMulVec u u
  obtain ⟨lambda, htop⟩ := heigen.lastEigenvector _ hsymm
  rw [AverageQuaternions, mean_of_const hqs houter]
  rcases htop.of_outer ((equivTuple_dot p).trans hp) with hv | hv
  · left
    rw [hv, Equiv.symm_apply_apply, normalized_of_unit hp]
  · right
    have hneg := hp
    rw [← normSq_neg] at hneg
    rw [hv, ← equivTuple_neg, Equiv.symm_apply_apply, normalized_of_unit hneg]

/-! ## Pairs with one offset -/

/-- The headset is at the offset `m` from the tracker. -/
def Offset (m : RigidMotion ℝ) (pair : Pair) : Prop :=
  ∃ tracker : RigidMotion ℝ, pair = (tracker.affine * m.affine, tracker.affine)

theorem relRotation_of_offset (heigen : eigen.Meets) {m : RigidMotion ℝ} {pair : Pair}
    (h : Offset m pair) :
    relRotation eigen pair = m.rotation ∨ relRotation eigen pair = -m.rotation := by
  obtain ⟨tracker, rfl⟩ := h
  obtain ⟨hunit, hmatrix⟩ := heigen.quaternion m.rotation m.unit
  have hsame : ∀ p, p = eigen.quaternion (toMatrix m.rotation) ∨
      p = -eigen.quaternion (toMatrix m.rotation) →
      normalized p = m.rotation ∨ normalized p = -m.rotation := by
    rintro p (rfl | rfl)
    · rw [normalized_of_unit hunit]
      exact (toMatrix_eq_iff hunit m.unit).1 hmatrix
    · have hneg := hunit
      rw [← normSq_neg] at hneg
      rw [normalized_of_unit hneg]
      exact (toMatrix_eq_iff hneg m.unit).1 ((toMatrix_neg _).trans hmatrix)
  rw [relRotation, tracker.affine_inv_mul_cancel, heigen.rotation]
  apply hsame
  by_cases hre : (eigen.quaternion (toMatrix m.rotation)).re < 0
  · exact .inr (if_pos hre)
  · exact .inl (if_neg hre)

theorem relTranslation_of_offset (heigen : eigen.Meets) {m : RigidMotion ℝ} {pair : Pair}
    (h : Offset m pair) : relTranslation eigen pair = m.translation := by
  obtain ⟨tracker, rfl⟩ := h
  have hback : (toMatrix tracker.rotation)ᵀ * toMatrix tracker.rotation = 1 :=
    mul_eq_one_comm.1 (toMatrix_mul_transpose tracker.unit)
  rw [relTranslation, heigen.rotation]
  simp only [Affine.translation_mul, add_sub_cancel_right, RigidMotion.affine,
    Matrix.mulVec_mulVec, hback, Matrix.one_mulVec]

/-- **Pairs with one offset are solved for it**, with no residual. -/
theorem ComputeSolve_exact (heigen : eigen.Meets) {m : RigidMotion ℝ} {pairs : List Pair}
    (hpairs : pairs ≠ []) (h : ∀ pair ∈ pairs, Offset m pair) :
    ComputeSolve eigen pairs = ⟨m.affine, ((0 : ℝ) : WithTop ℝ)⟩ := by
  have hrotation : toMatrix (AverageQuaternions eigen (pairs.map (relRotation eigen))) =
      toMatrix m.rotation := by
    have hmap : pairs.map (relRotation eigen) ≠ [] := by simpa using hpairs
    have hsame : ∀ q ∈ pairs.map (relRotation eigen), q = m.rotation ∨ q = -m.rotation := by
      intro q hq
      obtain ⟨pair, hmem, rfl⟩ := List.mem_map.1 hq
      exact relRotation_of_offset heigen (h pair hmem)
    rcases AverageQuaternions_of_same heigen m.unit hmap hsame with havg | havg
    · rw [havg]
    · rw [havg, toMatrix_neg]
  have htranslation : (pairs.length : ℝ)⁻¹ • (pairs.map (relTranslation eigen)).sum =
      m.translation :=
    mean_of_const hpairs fun pair hmem => relTranslation_of_offset heigen (h pair hmem)
  have hresidual : pairs.map (fun pair =>
      squaredNorm (pair.1.translation - (pair.2 * m.affine).translation)) =
      List.replicate pairs.length 0 := by
    rw [← List.map_const']
    apply List.map_congr_left
    intro pair hmem
    obtain ⟨tracker, rfl⟩ := h pair hmem
    rw [sub_self, squaredNorm, zero_dotProduct]
  rw [ComputeSolve, if_neg hpairs]
  simp only [hrotation, htranslation]
  rw [show (⟨toMatrix m.rotation, m.translation⟩ : Affine ℝ) = m.affine from rfl, hresidual,
    List.sum_replicate, smul_zero, zero_div, Real.sqrt_zero, zero_mul]

/-- **`Finish` ends in `Done` with the offset**, if it has samples and motion enough. -/
theorem Solver.Finish_exact (heigen : eigen.Meets) {m : RigidMotion ℝ} {s : Solver}
    (hstate : s.state = .Collecting) (h : ∀ pair ∈ s.pairs, Offset m pair)
    (hsamples : (readiness eigen s.pairs).enoughSamples)
    (hmotion : (readiness eigen s.pairs).enoughMotion) :
    s.Finish eigen =
      { s with
        state := .Done
        result :=
          { headFromTracker := m.affine
            residualMm := ((0 : ℝ) : WithTop ℝ)
            samplesUsed := s.pairs.length
            failReason := "" } } := by
  have hlen : s.pairs.length ≥ kMinReadySampleCount := of_decide_eq_true hsamples
  have hpairs : s.pairs ≠ [] := by
    rintro hnil
    rw [hnil] at hlen
    exact absurd hlen (by decide)
  have hsmall : ¬ ((0 : ℝ) : WithTop ℝ) > (kResidualThresholdMm : WithTop ℝ) := by
    rw [gt_iff_lt, WithTop.coe_lt_coe, kResidualThresholdMm]
    norm_num
  rw [Solver.Finish, if_neg (not_not.2 hstate)]
  simp only [hsamples, hmotion, Bool.not_true, Bool.or_self, Bool.false_eq_true, if_false,
    ComputeSolve_exact heigen hpairs h, if_neg hsmall]

/-! ## The ranges of the axes -/

/-- Axis by axis. -/
structure Axes.Le (a b : Axes) : Prop where
  pitch : a.pitch ≤ b.pitch
  yaw : a.yaw ≤ b.yaw
  roll : a.roll ≤ b.roll

theorem Axes.Le.refl (a : Axes) : a.Le a := ⟨le_rfl, le_rfl, le_rfl⟩

theorem Axes.Le.trans {a b c : Axes} (hab : a.Le b) (hbc : b.Le c) : a.Le c :=
  ⟨hab.pitch.trans hbc.pitch, hab.yaw.trans hbc.yaw, hab.roll.trans hbc.roll⟩

/-- A fold with an operation that bounds its arguments bounds the list. -/
theorem rel_foldl {α : Type} {R : α → α → Prop} (hrefl : ∀ a, R a a)
    (htrans : ∀ a b c, R a b → R b c → R a c) {op : α → α → α} (hleft : ∀ a b, R a (op a b))
    (hright : ∀ a b, R b (op a b)) (vs : List α) : ∀ v0, ∀ a ∈ v0 :: vs, R a (vs.foldl op v0) := by
  induction vs with
  | nil =>
    intro v0 a ha
    rw [List.mem_singleton.1 ha]
    exact hrefl v0
  | cons v vs ih =>
    intro v0 a ha
    have hhead := ih (op v0 v) _ List.mem_cons_self
    rcases List.mem_cons.1 ha with rfl | ha
    · exact htrans _ _ _ (hleft a v) hhead
    rcases List.mem_cons.1 ha with rfl | ha
    · exact htrans _ _ _ (hright v0 a) hhead
    · exact ih _ a (List.mem_cons_of_mem _ ha)

theorem le_foldl_max_axes (vs : List Axes) :
    ∀ v0, ∀ a ∈ v0 :: vs, a.Le (vs.foldl (Axes.map₂ max) v0) :=
  rel_foldl .refl (fun _ _ _ => .trans)
    (fun _ _ => ⟨le_max_left _ _, le_max_left _ _, le_max_left _ _⟩)
    (fun _ _ => ⟨le_max_right _ _, le_max_right _ _, le_max_right _ _⟩) vs

theorem foldl_min_axes_le (vs : List Axes) :
    ∀ v0, ∀ a ∈ v0 :: vs, (vs.foldl (Axes.map₂ min) v0).Le a :=
  rel_foldl (R := fun a b => b.Le a) .refl (fun _ _ _ hab hbc => hbc.trans hab)
    (fun _ _ => ⟨min_le_left _ _, min_le_left _ _, min_le_left _ _⟩)
    (fun _ _ => ⟨min_le_right _ _, min_le_right _ _, min_le_right _ _⟩) vs

variable (eigen) in
/-- The range of an axis covers any two pairs. -/
theorem RotationAxisRangesDeg_ge {first second : Pair} {rest : List Pair} {a b : Pair}
    (ha : a ∈ first :: second :: rest) (hb : b ∈ first :: second :: rest) :
    ((rotVecDeg eigen first a).map₂ (fun hi lo => hi - lo) (rotVecDeg eigen first b)).Le
      (RotationAxisRangesDeg eigen (first :: second :: rest)) := by
  have hmem : ∀ pair ∈ first :: second :: rest,
      rotVecDeg eigen first pair ∈
        rotVecDeg eigen first first :: (second :: rest).map (rotVecDeg eigen first) := by
    intro pair hpair
    rw [← List.map_cons]
    exact List.mem_map_of_mem hpair
  have hmax := le_foldl_max_axes _ _ _ (hmem a ha)
  have hmin := foldl_min_axes_le _ _ _ (hmem b hb)
  exact ⟨sub_le_sub hmax.pitch hmin.pitch, sub_le_sub hmax.yaw hmin.yaw,
    sub_le_sub hmax.roll hmin.roll⟩

/-- Twenty degrees about every axis are motion enough. -/
theorem readiness_enoughMotion {pairs : List Pair}
    (h : Axes.Le ⟨kAxisRangeTargetDeg, kAxisRangeTargetDeg, kAxisRangeTargetDeg⟩
      (RotationAxisRangesDeg eigen pairs)) : (readiness eigen pairs).enoughMotion = true := by
  have hscore : ∀ {range : ℝ}, kAxisRangeTargetDeg ≤ range →
      1 ≤ min 1 (range / kAxisRangeTargetDeg) := by
    intro range hrange
    have hpos : 0 < kAxisRangeTargetDeg := by norm_num [kAxisRangeTargetDeg]
    exact le_min le_rfl ((one_le_div hpos).2 hrange)
  exact decide_eq_true (le_min (hscore h.pitch) (le_min (hscore h.yaw) (hscore h.roll)))

end

end WKPairDriver.Calibration.OffsetSolver
