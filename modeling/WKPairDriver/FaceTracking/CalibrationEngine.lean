import Mathlib

/-!
# The face calibration engine: `CalibrationEngine`

One `ShapeCalib` for each of the 63 expressions, the two eyelids and the two pupils.  A `float` is a
number of an ordered field and `sqrt` a parameter, so rounding is left out.

* `Normalize_eq_iff` — two states normalise every frame alike exactly when, shape by shape, neither
  normalises or both do with the same bounds.
* `LoadLocked_SaveLocked` — the file keeps everything but the hold streaks.
* `UpdateShape_steady_iterate` — a shape that stays at one half gets warm with a range to normalise.
-/

set_option autoImplicit false

namespace WKPairDriver.FaceTracking.Calibration

variable {K : Type} [Field K] [LinearOrder K] [IsStrictOrderedRing K]

/-! ## One shape -/

structure ShapeCalib (K : Type) where
  q : Fin 5 → K
  n : Fin 5 → K
  dn : Fin 5 → K
  p02 : K
  p98 : K
  ema_min : K
  ema_max : K
  ema_value : K
  ema_var : K
  hold_count : ℕ
  hold_first_qpc : ℕ
  samples : ℕ
  warm : Bool

/-- `ShapeCalib::ShapeCalib()`. -/
def ShapeCalib.initial : ShapeCalib K where
  q := ![0, 0.005, 0.02, 0.5, 1]
  n := fun i => (i.1 : K) + 1
  dn := ![0, 0.01, 0.02, 0.51, 1]
  p02 := 0
  p98 := 1
  ema_min := 0
  ema_max := 1
  ema_value := 0.5
  ema_var := 0.04
  hold_count := 0
  hold_first_qpc := 0
  samples := 0
  warm := false

/-! ### The five markers

The inner markers are `i + 1` for `i : Fin 3`, between the markers `i` and `i + 2`. -/

def below (i : Fin 3) : Fin 5 := ⟨i.1, by omega⟩

def inner (i : Fin 3) : Fin 5 := ⟨i.1 + 1, by omega⟩

def above (i : Fin 3) : Fin 5 := ⟨i.1 + 2, by omega⟩

def PsqUpdate (q n : Fin 5 → K) (i : Fin 3) (d : K) : K :=
  let h1 := n (above i) - n (inner i)
  let h2 := n (inner i) - n (below i)
  q (inner i) + d / (h1 + h2) *
    ((h2 / h1) * (q (above i) - q (inner i)) + (h1 / h2) * (q (inner i) - q (below i)))

def PsqLinear (q n : Fin 5 → K) (i : Fin 3) (d : K) : K :=
  let j := if d > 0 then above i else below i
  q (inner i) + d * (q j - q (inner i)) / (n j - n (inner i))

/-- Step 1 of `PsqStep`: the cell of the observation, the outer markers stretched to it. -/
def psqCell (q : Fin 5 → K) (xn : K) : (Fin 5 → K) × ℕ :=
  if xn < q 0 then (Function.update q 0 xn, 0)
  else if xn < q 1 then (q, 0)
  else if xn < q 2 then (q, 1)
  else if xn < q 3 then (q, 2)
  else if xn ≤ q 4 then (q, 3)
  else (Function.update q 4 xn, 3)

/-- Step 3 of `PsqStep` for one inner marker. -/
def psqAdjust (dn : Fin 5 → K) (m : (Fin 5 → K) × (Fin 5 → K)) (i : Fin 3) :
    (Fin 5 → K) × (Fin 5 → K) :=
  let (q, n) := m
  let di := dn (inner i) - n (inner i)
  if (di ≥ 1 ∧ n (above i) - n (inner i) > 1) ∨ (di ≤ -1 ∧ n (below i) - n (inner i) < -1) then
    let d : K := if di > 0 then 1 else -1
    let q_new := PsqUpdate q n i d
    let q := if q_new > q (below i) ∧ q_new < q (above i) then Function.update q (inner i) q_new
      else Function.update q (inner i) (PsqLinear q n i d)
    (q, Function.update n (inner i) (n (inner i) + d))
  else (q, n)

/-- `PsqStep`: the new markers; the estimate it returns is marker 2. -/
def PsqStep (q n dn : Fin 5 → K) (xn : K) : (Fin 5 → K) × (Fin 5 → K) :=
  let (q, k) := psqCell q xn
  let n := fun i : Fin 5 => if k < i.1 then n i + 1 else n i
  (List.finRange 3).foldl (psqAdjust dn) (q, n)

def kAlphaUp : K := 0.02
def kAlphaDown : K := 0.0005
def kVelocityGateSigmas : K := (4 : ℕ)
def kWarmThreshold : ℕ := 200
def kHoldCountMin : ℕ := 6
def kHoldTimeMs : K := (80 : ℕ)
def kFrameAgeMaxMs : K := (33 : ℕ)
def kNormEps : K := 0.000001

variable (sqrt : K → K) (qpc_freq : ℕ)

/-- Milliseconds from one counter value to a later one, zero if it is not later. -/
def elapsedMs (first now : ℕ) : K :=
  if now > first then ((now - first : ℕ) : K) * (1000 : ℕ) / (qpc_freq : K) else 0

/-- The envelope and the hold streak. -/
def updateEnvelope (s : ShapeCalib K) (raw : K) (now_qpc : ℕ) : ShapeCalib K :=
  if raw > s.ema_max then
    let s := if s.hold_count = 0 then { s with hold_first_qpc := now_qpc } else s
    let s := { s with hold_count := s.hold_count + 1 }
    if s.hold_count ≥ kHoldCountMin ∧ elapsedMs qpc_freq s.hold_first_qpc now_qpc ≥ (kHoldTimeMs : K)
    then { s with ema_max := raw, hold_count := 0, hold_first_qpc := 0 }
    else s
  else
    { s with
      hold_count := 0
      hold_first_qpc := 0
      ema_min := if raw < s.ema_min then (1 - kAlphaUp) * s.ema_min + kAlphaUp * raw
        else (1 - kAlphaDown) * s.ema_min + kAlphaDown * raw
      ema_max := (1 - kAlphaDown) * s.ema_max + kAlphaDown * raw }

/-- The two quantiles and the warm-up counter. -/
def updateQuantiles (s : ShapeCalib K) (raw : K) : ShapeCalib K :=
  let m := PsqStep s.q s.n s.dn raw
  { s with
    q := m.1
    n := m.2
    p02 := m.1 2
    p98 := s.ema_max
    samples := s.samples + 1
    warm := s.warm || decide (s.samples + 1 ≥ kWarmThreshold) }

def UpdateShape (s : ShapeCalib K) (raw : K) (now_qpc : ℕ) : ShapeCalib K :=
  let dev := raw - s.ema_value
  let gate := kVelocityGateSigmas * sqrt (s.ema_var + kNormEps)
  if |dev| > gate then s
  else
    let ema_value := s.ema_value + kAlphaUp * dev
    let s := { s with
      ema_value := ema_value
      ema_var := (1 - 0.05) * s.ema_var + 0.05 * ((raw - ema_value) * (raw - ema_value)) }
    updateQuantiles (updateEnvelope qpc_freq s raw now_qpc) raw

def NormalizeOne (s : ShapeCalib K) (raw : K) : K :=
  let range := s.p98 - s.p02
  if range < kNormEps then raw else max 0 (min 1 ((raw - s.p02) / range))

/-! ## Frames -/

/-- The fields of `FaceTrackingFrameBody` the engine reads and writes. -/
structure Frame (K : Type) where
  qpc_sample_time : ℕ
  eye_openness_l : K
  eye_openness_r : K
  pupil_dilation_l : K
  pupil_dilation_r : K
  expressions : Fin 63 → K
  flags : UInt32

def Frame.eyeValid (f : Frame K) : Bool := f.flags &&& 1 != 0

def Frame.exprValid (f : Frame K) : Bool := f.flags &&& 2 != 0

/-- `FACETRACKING_EXPRESSION_COUNT + 4`. -/
abbrev kTotalShapes : ℕ := 67

def kIdxOpenL : Fin kTotalShapes := ⟨63, by decide⟩
def kIdxOpenR : Fin kTotalShapes := ⟨64, by decide⟩
def kIdxPupilL : Fin kTotalShapes := ⟨65, by decide⟩
def kIdxPupilR : Fin kTotalShapes := ⟨66, by decide⟩

def expressionIdx (i : Fin 63) : Fin kTotalShapes := ⟨i.1, i.2.trans (by decide)⟩

abbrev Shapes (K : Type) := Fin kTotalShapes → ShapeCalib K

def Shapes.initial : Shapes K := fun _ => .initial

/-- The value a frame carries for a shape. -/
def Frame.raw (f : Frame K) (i : Fin kTotalShapes) : K :=
  if h : i.1 < 63 then f.expressions ⟨i.1, h⟩
  else if i = kIdxOpenL then f.eye_openness_l
  else if i = kIdxOpenR then f.eye_openness_r
  else if i = kIdxPupilL then f.pupil_dilation_l
  else f.pupil_dilation_r

def Frame.valid (f : Frame K) (i : Fin kTotalShapes) : Bool :=
  if i.1 < 63 then f.exprValid else f.eyeValid

/-- `IngestFrame` at the time `now`; every shape is updated on its own. -/
def IngestFrame (shapes : Shapes K) (f : Frame K) (now : ℕ) : Shapes K :=
  if elapsedMs qpc_freq f.qpc_sample_time now > (kFrameAgeMaxMs : K) then shapes
  else fun i => if f.valid i then UpdateShape sqrt qpc_freq (shapes i) (f.raw i) now else shapes i

/-- Normalisation of one field: warm-up passes it through. -/
def normalizeShape (s : ShapeCalib K) (raw : K) : K := if s.warm then NormalizeOne s raw else raw

def Normalize (shapes : Shapes K) (f : Frame K) : Frame K where
  qpc_sample_time := f.qpc_sample_time
  eye_openness_l :=
    if f.eyeValid then normalizeShape (shapes kIdxOpenL) f.eye_openness_l else f.eye_openness_l
  eye_openness_r :=
    if f.eyeValid then normalizeShape (shapes kIdxOpenR) f.eye_openness_r else f.eye_openness_r
  pupil_dilation_l :=
    if f.eyeValid then normalizeShape (shapes kIdxPupilL) f.pupil_dilation_l else f.pupil_dilation_l
  pupil_dilation_r :=
    if f.eyeValid then normalizeShape (shapes kIdxPupilR) f.pupil_dilation_r else f.pupil_dilation_r
  expressions := fun i =>
    if f.exprValid then normalizeShape (shapes (expressionIdx i)) (f.expressions i)
    else f.expressions i
  flags := f.flags

/-! ## When two states normalise alike -/

omit [LinearOrder K] [IsStrictOrderedRing K] in
theorem kNormEps_eq : (kNormEps : K) = 0.000001 := rfl

theorem kNormEps_pos : 0 < (kNormEps : K) := by
  rw [kNormEps_eq]
  norm_num

/-- The shape is warm and has learned a range. -/
def ShapeCalib.Normalises (s : ShapeCalib K) : Prop := s.warm = true ∧ kNormEps ≤ s.p98 - s.p02

/-- Neither shape normalises, or both do with the same bounds. -/
def SameNormalisation (a b : ShapeCalib K) : Prop :=
  (¬ a.Normalises ∧ ¬ b.Normalises) ∨
    (a.Normalises ∧ b.Normalises ∧ a.p02 = b.p02 ∧ a.p98 = b.p98)

omit [IsStrictOrderedRing K] in
theorem normalizeShape_idle {s : ShapeCalib K} (h : ¬ s.Normalises) (raw : K) :
    normalizeShape s raw = raw := by
  unfold normalizeShape
  cases hw : s.warm with
  | false => rfl
  | true =>
    have hlt : s.p98 - s.p02 < kNormEps := by
      rw [ShapeCalib.Normalises, not_and, not_le] at h
      exact h hw
    simp only [if_true, NormalizeOne, if_pos hlt]

omit [IsStrictOrderedRing K] in
theorem normalizeShape_busy {s : ShapeCalib K} (h : s.Normalises) (raw : K) :
    normalizeShape s raw = max 0 (min 1 ((raw - s.p02) / (s.p98 - s.p02))) := by
  rw [normalizeShape, if_pos h.1, NormalizeOne, if_neg h.2.not_gt]

theorem ShapeCalib.Normalises.range_pos {s : ShapeCalib K} (h : s.Normalises) :
    0 < s.p98 - s.p02 :=
  kNormEps_pos.trans_le h.2

/-- The values that are mapped to zero end at `p02`. -/
theorem normalizeShape_eq_zero_iff {s : ShapeCalib K} (h : s.Normalises) (raw : K) :
    normalizeShape s raw = 0 ↔ raw ≤ s.p02 := by
  have hpos := h.range_pos
  rw [normalizeShape_busy h]
  constructor
  · intro h0
    have hmin := max_eq_left_iff.1 h0
    rcases min_le_iff.1 hmin with h1 | h1
    · exact absurd h1 (by norm_num)
    · rw [div_nonpos_iff] at h1
      rcases h1 with ⟨_, h2⟩ | ⟨h2, _⟩
      · exact absurd hpos h2.not_gt
      · linarith
  · intro hle
    have hdiv : (raw - s.p02) / (s.p98 - s.p02) ≤ 0 :=
      div_nonpos_of_nonpos_of_nonneg (by linarith) hpos.le
    exact max_eq_left (min_le_of_right_le hdiv)

/-- The values that are mapped to one begin at `p98`. -/
theorem normalizeShape_eq_one_iff {s : ShapeCalib K} (h : s.Normalises) (raw : K) :
    normalizeShape s raw = 1 ↔ s.p98 ≤ raw := by
  have hpos := h.range_pos
  have hge : 1 ≤ (raw - s.p02) / (s.p98 - s.p02) ↔ s.p98 ≤ raw := by
    rw [le_div_iff₀ hpos]
    constructor <;> intro h1 <;> linarith
  rw [normalizeShape_busy h, ← hge]
  constructor
  · intro h1
    by_contra hlt
    rw [not_le] at hlt
    have : max 0 (min 1 ((raw - s.p02) / (s.p98 - s.p02))) < 1 :=
      max_lt one_pos (min_lt_of_right_lt hlt)
    exact absurd h1 this.ne
  · intro h1
    rw [min_eq_left h1, max_eq_right zero_le_one]

theorem normalizeShape_le_one {s : ShapeCalib K} (h : s.Normalises) (raw : K) :
    normalizeShape s raw ≤ 1 := by
  rw [normalizeShape_busy h]
  exact max_le zero_le_one (min_le_left _ _)

/-- **One shape.** -/
theorem normalizeShape_eq_iff (a b : ShapeCalib K) :
    (∀ raw, normalizeShape a raw = normalizeShape b raw) ↔ SameNormalisation a b := by
  -- a state that normalises never gives two
  have hmixed : ∀ {a b : ShapeCalib K}, a.Normalises → ¬ b.Normalises →
      (∀ raw, normalizeShape a raw = normalizeShape b raw) → False := by
    intro a b ha hb h
    have h2 := normalizeShape_le_one ha ((2 : ℕ) : K)
    rw [h, normalizeShape_idle hb] at h2
    norm_num at h2
  constructor
  · intro h
    by_cases ha : a.Normalises
    · by_cases hb : b.Normalises
      · refine .inr ⟨ha, hb, ?_, ?_⟩
        · have h1 := (normalizeShape_eq_zero_iff hb a.p02).1
            (by rw [← h]; exact (normalizeShape_eq_zero_iff ha _).2 le_rfl)
          have h2 := (normalizeShape_eq_zero_iff ha b.p02).1
            (by rw [h]; exact (normalizeShape_eq_zero_iff hb _).2 le_rfl)
          exact le_antisymm h1 h2
        · have h1 := (normalizeShape_eq_one_iff hb a.p98).1
            (by rw [← h]; exact (normalizeShape_eq_one_iff ha _).2 le_rfl)
          have h2 := (normalizeShape_eq_one_iff ha b.p98).1
            (by rw [h]; exact (normalizeShape_eq_one_iff hb _).2 le_rfl)
          exact le_antisymm h2 h1
      · exact (hmixed ha hb h).elim
    · by_cases hb : b.Normalises
      · exact (hmixed hb ha fun raw => (h raw).symm).elim
      · exact .inl ⟨ha, hb⟩
  · rintro (⟨ha, hb⟩ | ⟨ha, hb, hlo, hhi⟩) raw
    · rw [normalizeShape_idle ha, normalizeShape_idle hb]
    · rw [normalizeShape_busy ha, normalizeShape_busy hb, hlo, hhi]

/-- A frame with both groups valid and one value everywhere. -/
def Frame.constant (raw : K) : Frame K := ⟨0, raw, raw, raw, raw, fun _ => raw, 3⟩

omit [Field K] [LinearOrder K] [IsStrictOrderedRing K] in
@[simp] theorem Frame.constant_eyeValid (raw : K) : (Frame.constant raw).eyeValid = true := by
  show ((3 : UInt32) &&& 1 != 0) = true
  decide

omit [Field K] [LinearOrder K] [IsStrictOrderedRing K] in
@[simp] theorem Frame.constant_exprValid (raw : K) : (Frame.constant raw).exprValid = true := by
  show ((3 : UInt32) &&& 2 != 0) = true
  decide

/-- **Two states normalise every frame alike** exactly when every shape does. -/
theorem Normalize_eq_iff (a b : Shapes K) :
    (∀ f, Normalize a f = Normalize b f) ↔ ∀ i, SameNormalisation (a i) (b i) := by
  constructor
  · intro h i
    rw [← normalizeShape_eq_iff]
    intro raw
    have hf := h (Frame.constant raw)
    simp only [Normalize, Frame.constant_eyeValid, Frame.constant_exprValid, if_true,
      Frame.mk.injEq] at hf
    obtain ⟨-, hol, hor, hpl, hpr, hexpr, -⟩ := hf
    by_cases hi : i.1 < 63
    · exact congrFun hexpr ⟨i.1, hi⟩
    · have hlt : i.1 < 67 := i.2
      have hcases : i = kIdxOpenL ∨ i = kIdxOpenR ∨ i = kIdxPupilL ∨ i = kIdxPupilR := by
        simp only [Fin.ext_iff, kIdxOpenL, kIdxOpenR, kIdxPupilL, kIdxPupilR]
        omega
      rcases hcases with rfl | rfl | rfl | rfl
      · exact hol
      · exact hor
      · exact hpl
      · exact hpr
  · intro h f
    have hone : ∀ i raw, normalizeShape (a i) raw = normalizeShape (b i) raw := by
      intro i
      exact (normalizeShape_eq_iff (a i) (b i)).2 (h i)
    unfold Normalize
    simp only [hone]

/-! ## Persistence -/

/-- One entry of `shapes` in the file; a field of the wrong type counts as missing. -/
structure StoredShape (K : Type) where
  p02 : Option K
  p98 : Option K
  ema_min : Option K
  ema_max : Option K
  ema_value : Option K
  ema_var : Option K
  samples : Option ℕ
  warm : Option Bool
  q : List (Option K)
  n : List (Option K)

/-- A file that parses: `module_uuid` and the entries, `none` for one that is no object. -/
structure CalibFile (K : Type) where
  module_uuid : String
  shapes : List (Option (StoredShape K))

structure Engine (K : Type) where
  shapes : Shapes K
  module_uuid_ : String

/-- `CalibrationEngine()`. -/
def Engine.created : Engine K := ⟨Shapes.initial, ""⟩

/-- The profiles folder: a file for each module. -/
abbrev Disk (K : Type) := String → Option (CalibFile K)

/-- `CalibFilePath`: the file is named after the module. -/
def Engine.CalibFilePath (e : Engine K) : Option String :=
  if e.module_uuid_ = "" then none else some e.module_uuid_

def storeShape (s : ShapeCalib K) : StoredShape K where
  p02 := some s.p02
  p98 := some s.p98
  ema_min := some s.ema_min
  ema_max := some s.ema_max
  ema_value := some s.ema_value
  ema_var := some s.ema_var
  samples := some s.samples
  warm := some s.warm
  q := List.ofFn fun k => some (s.q k)
  n := List.ofFn fun k => some (s.n k)

def calibFile (uuid : String) (shapes : Shapes K) : CalibFile K :=
  ⟨uuid, List.ofFn fun i => some (storeShape (shapes i))⟩

def Engine.SaveLocked (e : Engine K) (disk : Disk K) : Disk K :=
  match e.CalibFilePath with
  | none => disk
  | some path => Function.update disk path (some (calibFile e.module_uuid_ e.shapes))

/-- A field that is not found keeps what it was. -/
def loadMarkers (stored : List (Option K)) (old : Fin 5 → K) : Fin 5 → K :=
  fun k => (stored[k.1]?.getD none).getD (old k)

def loadShape (o : StoredShape K) (s : ShapeCalib K) : ShapeCalib K :=
  { s with
    p02 := o.p02.getD s.p02
    p98 := o.p98.getD s.p98
    ema_min := o.ema_min.getD s.ema_min
    ema_max := o.ema_max.getD s.ema_max
    ema_value := o.ema_value.getD s.ema_value
    ema_var := o.ema_var.getD s.ema_var
    samples := o.samples.getD s.samples
    warm := o.warm.getD s.warm
    q := loadMarkers o.q s.q
    n := loadMarkers o.n s.n }

def loadShapes (file : CalibFile K) (shapes : Shapes K) : Shapes K := fun i =>
  match file.shapes[i.1]? with
  | some (some o) => loadShape o (shapes i)
  | _ => shapes i

def Engine.LoadLocked (e : Engine K) (disk : Disk K) (uuid : String) : Engine K :=
  let e := { e with module_uuid_ := uuid }
  match e.CalibFilePath with
  | none => e
  | some path =>
    match disk path with
    | none => e
    | some file => { e with shapes := loadShapes file e.shapes }

/-- Without the streak counters, which are not stored, and the constant marker targets. -/
def ShapeCalib.learned (s : ShapeCalib K) : ShapeCalib K :=
  { s with hold_count := 0, hold_first_qpc := 0, dn := ShapeCalib.initial.dn }

omit [LinearOrder K] [IsStrictOrderedRing K] in
theorem loadShape_storeShape (s t : ShapeCalib K) :
    (loadShape (storeShape s) t).learned = s.learned := by
  have hmarkers : ∀ q old : Fin 5 → K, loadMarkers (List.ofFn fun k => some (q k)) old = q := by
    intro q old
    funext k
    simp only [loadMarkers, List.getElem?_ofFn, dif_pos k.2, Option.getD_some]
  simp only [loadShape, storeShape, ShapeCalib.learned, hmarkers, Option.getD_some]

omit [LinearOrder K] [IsStrictOrderedRing K] in
/-- **What is saved under a module is loaded for it**, but for the hold streaks. -/
theorem LoadLocked_SaveLocked (e f : Engine K) (disk : Disk K) (h : e.module_uuid_ ≠ "")
    (i : Fin kTotalShapes) :
    ((f.LoadLocked (e.SaveLocked disk) e.module_uuid_).shapes i).learned =
      (e.shapes i).learned := by
  have hi : (calibFile e.module_uuid_ e.shapes).shapes[i.1]? =
      some (some (storeShape (e.shapes i))) := by
    simp only [calibFile, List.getElem?_ofFn, dif_pos i.2]
  simp only [Engine.LoadLocked, Engine.SaveLocked, Engine.CalibFilePath, if_neg h,
    Function.update_self, loadShapes, hi]
  exact loadShape_storeShape _ _

/-! ## A steady shape -/

/-- A shape that has seen `k` values of one half: only the upper end of its range has moved. -/
structure Steady (k : ℕ) (s : ShapeCalib K) : Prop where
  q : s.q = ShapeCalib.initial.q
  dn : s.dn = ShapeCalib.initial.dn
  n : ∀ i : Fin 5, i.1 < 4 → s.n i = (i.1 : K) + 1
  ema_value : s.ema_value = 0.5
  ema_max : 0.5 ≤ s.ema_max
  ema_var : 0 ≤ s.ema_var
  samples : s.samples = k
  warm : s.warm = decide (kWarmThreshold ≤ k)
  bounds : 0 < k → s.p02 = 0.02 ∧ 0.5 ≤ s.p98

theorem Steady.initial : Steady 0 (ShapeCalib.initial : ShapeCalib K) := by
  refine ⟨rfl, rfl, fun _ _ => rfl, rfl, ?_, ?_, rfl, rfl, fun h => absurd h (lt_irrefl 0)⟩
  · show (0.5 : K) ≤ 1
    norm_num
  · show (0 : K) ≤ 0.04
    norm_num

/-- Markers at their initial counts stay. -/
theorem psqAdjust_steady {dn n : Fin 5 → K} (q : Fin 5 → K) (hdn : dn = ShapeCalib.initial.dn)
    (hn : ∀ i : Fin 5, i.1 < 4 → n i = (i.1 : K) + 1) (i : Fin 3) :
    psqAdjust dn (q, n) i = (q, n) := by
  have hbelow : n (below i) = (i.1 : K) + 1 := hn (below i) (by show i.1 < 4; omega)
  have hinner : n (inner i) = ((i.1 + 1 : ℕ) : K) + 1 := hn (inner i) (by show i.1 + 1 < 4; omega)
  have hdi : dn (inner i) ≤ 0.51 := by
    rw [hdn]
    fin_cases i <;> simp [ShapeCalib.initial, inner] <;> norm_num
  have hi : (0 : K) ≤ i.1 := Nat.cast_nonneg _
  push_cast at hinner
  have hstay : ¬ ((dn (inner i) - n (inner i) ≥ 1 ∧ n (above i) - n (inner i) > 1) ∨
      (dn (inner i) - n (inner i) ≤ -1 ∧ n (below i) - n (inner i) < -1)) := by
    rintro (⟨h, -⟩ | ⟨-, h⟩)
    · rw [hinner] at h
      norm_num at hdi h
      linarith
    · rw [hbelow, hinner] at h
      linarith
  simp only [psqAdjust, if_neg hstay]

/-- The markers do not move. -/
theorem PsqStep_steady {k : ℕ} {s : ShapeCalib K} (h : Steady k s) :
    (PsqStep s.q s.n s.dn 0.5).1 = s.q ∧
      ∀ i : Fin 5, i.1 < 4 → (PsqStep s.q s.n s.dn 0.5).2 i = (i.1 : K) + 1 := by
  have hcell : psqCell s.q (0.5 : K) = (s.q, 3) := by
    have h0 : ¬ (0.5 : K) < s.q 0 := by rw [h.q]; simp [ShapeCalib.initial]; norm_num
    have h1 : ¬ (0.5 : K) < s.q 1 := by rw [h.q]; simp [ShapeCalib.initial]; norm_num
    have h2 : ¬ (0.5 : K) < s.q 2 := by rw [h.q]; simp [ShapeCalib.initial]; norm_num
    have h3 : ¬ (0.5 : K) < s.q 3 := by rw [h.q]; simp [ShapeCalib.initial]
    have h4 : (0.5 : K) ≤ s.q 4 := by rw [h.q]; simp [ShapeCalib.initial]; norm_num
    rw [psqCell, if_neg h0, if_neg h1, if_neg h2, if_neg h3, if_pos h4]
  have hn : ∀ i : Fin 5, i.1 < 4 → (if 3 < i.1 then s.n i + 1 else s.n i) = (i.1 : K) + 1 := by
    intro i hi
    rw [if_neg (by omega), h.n i hi]
  have hstep : PsqStep s.q s.n s.dn 0.5 =
      (s.q, fun i : Fin 5 => if 3 < i.1 then s.n i + 1 else s.n i) := by
    simp only [PsqStep, hcell]
    have hfold : ∀ l : List (Fin 3), l.foldl (psqAdjust s.dn)
        (s.q, fun i : Fin 5 => if 3 < i.1 then s.n i + 1 else s.n i) =
          (s.q, fun i : Fin 5 => if 3 < i.1 then s.n i + 1 else s.n i) := by
      intro l
      induction l with
      | nil => rfl
      | cons i l ih => rw [List.foldl_cons, psqAdjust_steady s.q h.dn hn, ih]
    exact hfold _
  rw [hstep]
  exact ⟨rfl, hn⟩

/-- **One more value** of one half. -/
theorem UpdateShape_steady (hsqrt : ∀ x : K, 0 ≤ x → 0 ≤ sqrt x) {k : ℕ} {s : ShapeCalib K}
    (h : Steady k s) (now : ℕ) : Steady (k + 1) (UpdateShape sqrt qpc_freq s 0.5 now) := by
  have hgate : ¬ |(0.5 : K) - s.ema_value| > kVelocityGateSigmas * sqrt (s.ema_var + kNormEps) := by
    have hpos := hsqrt _ (add_nonneg h.ema_var kNormEps_pos.le)
    have hgate : (0 : K) ≤ kVelocityGateSigmas * sqrt (s.ema_var + kNormEps) :=
      mul_nonneg (Nat.cast_nonneg _) hpos
    rw [h.ema_value, sub_self, abs_zero]
    exact hgate.not_gt
  have hmax : ¬ (0.5 : K) > s.ema_max := h.ema_max.not_gt
  have hpsq := PsqStep_steady h
  have hmax' : (0.5 : K) ≤ (1 - kAlphaDown) * s.ema_max + kAlphaDown * 0.5 := by
    have ha : (kAlphaDown : K) ≤ 1 := by
      show (0.0005 : K) ≤ 1
      norm_num
    nlinarith [h.ema_max]
  simp only [UpdateShape, if_neg hgate, updateEnvelope, if_neg hmax, updateQuantiles]
  refine ⟨?_, h.dn, hpsq.2, ?_, hmax', ?_, ?_, ?_, ?_⟩
  · exact hpsq.1.trans h.q
  · rw [h.ema_value, sub_self, mul_zero, add_zero]
  · rw [h.ema_value, sub_self, mul_zero, add_zero, sub_self, mul_zero, mul_zero, add_zero]
    apply mul_nonneg _ h.ema_var
    norm_num
  · rw [h.samples]
  · rw [h.warm, h.samples]
    rcases Nat.lt_or_ge k kWarmThreshold with hk | hk
    · simp [hk]
    · have hk' : kWarmThreshold ≤ k + 1 := by omega
      simp [hk, hk']
  · intro _
    refine ⟨?_, hmax'⟩
    rw [hpsq.1, h.q]
    rfl

theorem UpdateShape_steady_iterate (hsqrt : ∀ x : K, 0 ≤ x → 0 ≤ sqrt x) (now k : ℕ) :
    Steady k ((fun s => UpdateShape sqrt qpc_freq s 0.5 now)^[k] ShapeCalib.initial) := by
  induction k with
  | zero => exact Steady.initial
  | succ k ih =>
    rw [Function.iterate_succ_apply']
    exact UpdateShape_steady sqrt qpc_freq hsqrt ih now

/-- After the warm-up it normalises. -/
theorem Steady.normalises {k : ℕ} {s : ShapeCalib K} (h : Steady k s) (hk : kWarmThreshold ≤ k) :
    s.Normalises := by
  have hpos : 0 < k := lt_of_lt_of_le (by decide) hk
  obtain ⟨hlo, hhi⟩ := h.bounds hpos
  refine ⟨?_, ?_⟩
  · rw [h.warm]
    simpa using hk
  · rw [hlo, kNormEps_eq]
    norm_num at hhi ⊢
    linarith

end WKPairDriver.FaceTracking.Calibration
