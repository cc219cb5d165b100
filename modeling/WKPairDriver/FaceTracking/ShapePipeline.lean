import WKPairDriver.Lib.BinaryFloat
import WKPairDriver.Shmem.FaceFrame

/-!
# From a `ReplyUpdate` snapshot to the driver's expression slots

The module host copies the 88 weights of the newest snapshot into a frame, replaces what is not
finite, and writes the frame into the ring; the driver reads it back, drops what is not finite and
clamps the rest into its own 63 slots.  A weight that the module never wrote is reported as
`0xFFFFFFFF`, which is finite.

* `TryRead_pull` — what the driver reads after a pass of the pull loop: every mapped slot is
  `expressionOf` its upstream weight.
* `unsetShapes_rest_iff` — the slots of unset shapes rest and the valid ones follow exactly when no
  shape that has a slot is unset.
* `unsetFace_wide_open` — a module that wrote nothing yet, and a face with every slot at one.
-/

set_option autoImplicit false

namespace WKPairDriver.FaceTracking

open Lib.BinaryFloat Lib.BinaryFloat.Format FaceFrame

/-! ## Single precision -/

/-- `float`. -/
abbrev Single := binary32.Datum

def zeroNumber : binary32.Number := binary32.narrow (0 : ℤ)

def oneNumber : binary32.Number := binary32.narrow (1 : ℤ)

def zero : Single := .num zeroNumber

def one : Single := .num oneNumber

/-- `unchecked((float)0xFFFFFFFF)`, the runtime's mark of a value that was never written. -/
def kInvalid : Single := .num (binary32.narrow (0xFFFFFFFF : ℤ))

@[simp] theorem zeroNumber_val : zeroNumber.val = 0 := by
  rw [zeroNumber, narrow_intCast (by decide) (by decide), Int.cast_zero]

@[simp] theorem oneNumber_val : oneNumber.val = 1 := by
  rw [oneNumber, narrow_intCast (by decide) (by decide), Int.cast_one]

/-! ## The host -/

/-- `protocol::FACETRACKING_UPSTREAM_EXPRESSION_COUNT`, `FrameWriter.UpstreamShapeCount`,
    `kUpstreamShapeCount`. -/
abbrev UpstreamShapeCount : ℕ := 88

/-- `protocol::FACETRACKING_EXPRESSION_COUNT`. -/
abbrev FACETRACKING_EXPRESSION_COUNT : ℕ := 63

abbrev Vector3 := Fin 3 → Single

def Vector3.zero : Vector3 := fun _ => FaceTracking.zero

structure EyeGaze where
  OriginHmd : Vector3 := .zero
  DirHmd : Vector3 := .zero
  Confidence : Single := zero

structure EyeFrameSink where
  Left : EyeGaze := {}
  Right : EyeGaze := {}
  LeftOpenness : Single := zero
  RightOpenness : Single := zero
  PupilDilationLeft : Single := zero
  PupilDilationRight : Single := zero

/-- The part of a decoded `ReplyUpdate` that the pull loop reads. -/
structure UpdateDataContiguous where
  Eye_Left_Openness : Single
  Eye_Right_Openness : Single
  Expression_Shapes : Option (List Single)

/-- `Array.Clear` and `Array.Copy` into `upstreamShapes`. -/
def copyShapes (shapes : Option (List Single)) : Fin UpstreamShapeCount → Single :=
  match shapes with
  | none => fun _ => zero
  | some shapes =>
    let n := min shapes.length UpstreamShapeCount
    fun i => if h : i.1 < n then shapes.get ⟨i.1, lt_of_lt_of_le h (min_le_left _ _)⟩ else zero

/-- The eye fields keep their last valid value. -/
def updateEyes (eyeSink : EyeFrameSink) (decoded : UpdateDataContiguous) : EyeFrameSink :=
  let leftOpen := decoded.Eye_Left_Openness
  let eyeSink := if leftOpen ≠ kInvalid then { eyeSink with LeftOpenness := leftOpen } else eyeSink
  let rightOpen := decoded.Eye_Right_Openness
  if rightOpen ≠ kInvalid then { eyeSink with RightOpenness := rightOpen } else eyeSink

/-- `FaceTrackingFrameBodyWire`, `FaceTrackingFrameBodyNative`, and with another number of
    expressions `FaceTrackingFrameBody`. -/
structure FrameBody (shapes : ℕ) where
  qpc_sample_time : UInt64
  source_module_uuid_hash : UInt64
  eye_origin_l : Vector3
  eye_origin_r : Vector3
  eye_gaze_l : Vector3
  eye_gaze_r : Vector3
  eye_openness_l : Single
  eye_openness_r : Single
  pupil_dilation_l : Single
  pupil_dilation_r : Single
  eye_confidence_l : Single
  eye_confidence_r : Single
  expressions : Fin shapes → Single
  flags : UInt32
  head_yaw : Single
  head_pitch : Single
  head_roll : Single
  head_pos_x : Single
  head_pos_y : Single
  head_pos_z : Single
  head_flags : UInt32

abbrev FaceTrackingFrameBodyWire := FrameBody UpstreamShapeCount

abbrev FaceTrackingFrameBody := FrameBody FACETRACKING_EXPRESSION_COUNT

/-- The frame `FrameWriter.PublishAsync` builds. -/
def frameBody (qpc : UInt64) (eye : EyeFrameSink) (upstreamShapes : Fin UpstreamShapeCount → Single)
    (eyeValid exprValid : Bool) (moduleUuidHash : UInt64) : FaceTrackingFrameBodyWire where
  qpc_sample_time := qpc
  source_module_uuid_hash := moduleUuidHash
  eye_origin_l := eye.Left.OriginHmd
  eye_origin_r := eye.Right.OriginHmd
  eye_gaze_l := eye.Left.DirHmd
  eye_gaze_r := eye.Right.DirHmd
  eye_openness_l := eye.LeftOpenness
  eye_openness_r := eye.RightOpenness
  pupil_dilation_l := eye.PupilDilationLeft
  pupil_dilation_r := eye.PupilDilationRight
  eye_confidence_l := eye.Left.Confidence
  eye_confidence_r := eye.Right.Confidence
  expressions := upstreamShapes
  flags := (if eyeValid then 1 else 0) ||| (if exprValid then 2 else 0)
  head_yaw := zero
  head_pitch := zero
  head_roll := zero
  head_pos_x := zero
  head_pos_y := zero
  head_pos_z := zero
  head_flags := 0

/-- One check of `SanitizeNonFinite`. -/
def finiteOrZero (v : Single) : Single := if v.isFinite then v else zero

/-- `FrameWriter.SanitizeNonFinite`. -/
def SanitizeNonFinite (body : FaceTrackingFrameBodyWire) : FaceTrackingFrameBodyWire :=
  { body with
    eye_openness_l := finiteOrZero body.eye_openness_l
    eye_openness_r := finiteOrZero body.eye_openness_r
    pupil_dilation_l := finiteOrZero body.pupil_dilation_l
    pupil_dilation_r := finiteOrZero body.pupil_dilation_r
    eye_confidence_l := finiteOrZero body.eye_confidence_l
    eye_confidence_r := finiteOrZero body.eye_confidence_r
    eye_origin_l := fun i => finiteOrZero (body.eye_origin_l i)
    eye_origin_r := fun i => finiteOrZero (body.eye_origin_r i)
    eye_gaze_l := fun i => finiteOrZero (body.eye_gaze_l i)
    eye_gaze_r := fun i => finiteOrZero (body.eye_gaze_r i)
    expressions := fun i => finiteOrZero (body.expressions i)
    head_yaw := finiteOrZero body.head_yaw
    head_pitch := finiteOrZero body.head_pitch
    head_roll := finiteOrZero body.head_roll
    head_pos_x := finiteOrZero body.head_pos_x
    head_pos_y := finiteOrZero body.head_pos_y
    head_pos_z := finiteOrZero body.head_pos_z }

/-! ## The driver -/

/-- `kUpstreamToOurs`. -/
def kUpstreamToOurs : Vector ℤ UpstreamShapeCount := ⟨#[11, 10, 9, 8, 19, 18, 13, 12, 15, 14, 17, 16, -1, -1, -1, -1,
    -1, -1, 21, 20, 23, 22, 26, 29, 28, 27, -1, -1, -1, 40, 31, 30,
    33, 32, -1, -1, 35, 34, 37, 36, 39, 38, -1, -1, -1, -1, -1, -1,
    25, 24, -1, -1, 42, 41, 44, 43, 46, 45, -1, -1, 48, 47, 50, 49,
    52, 51, 53, 54, 56, 55, 58, 57, 59, 60, 61, -1, 62, -1, -1, -1,
    -1, -1, -1, -1, -1, -1, -1, -1], rfl⟩

/-- The slot of an upstream shape, if it has one. -/
def ourSlot (u : Fin UpstreamShapeCount) : Option (Fin FACETRACKING_EXPRESSION_COUNT) :=
  let o := kUpstreamToOurs.get u
  if h : 0 ≤ o ∧ o < FACETRACKING_EXPRESSION_COUNT then some ⟨o.toNat, by omega⟩ else none

/-- One pass of the loop of `RemapUpstreamShapes`. -/
def remapShape (src : Fin UpstreamShapeCount → Single)
    (dst : Fin FACETRACKING_EXPRESSION_COUNT → Single) (u : Fin UpstreamShapeCount) :
    Fin FACETRACKING_EXPRESSION_COUNT → Single :=
  match ourSlot u, src u with
  | some o, .num v => Function.update dst o (.num (v.clamp zeroNumber oneNumber))
  | _, _ => dst

def RemapUpstreamShapes (src : Fin UpstreamShapeCount → Single)
    (dst : Fin FACETRACKING_EXPRESSION_COUNT → Single) :
    Fin FACETRACKING_EXPRESSION_COUNT → Single :=
  (List.finRange UpstreamShapeCount).foldl (remapShape src) dst

def TranslateWireBody (wire : FaceTrackingFrameBodyWire) : FaceTrackingFrameBody :=
  { wire with expressions := RemapUpstreamShapes wire.expressions fun _ => zero }

/-- The body as the `n` words that `memcpy` moves. -/
structure Layout (n : ℕ) (α : Type) where
  store : FaceTrackingFrameBodyWire → Fin n → α
  load : (Fin n → α) → FaceTrackingFrameBodyWire
  load_store : ∀ wire, load (store wire) = wire

variable {n : ℕ} {α : Type}

/-- `FaceFrameReader::TryRead`; `buffer` is what the local `wire` holds before. -/
def TryRead (layout : Layout n α) (m : ShmemData n α) (buffer : Fin n → α) :
    Option FaceTrackingFrameBody :=
  (m.TryReadLatestWire 8 buffer).map fun words => TranslateWireBody (layout.load words)

/-! ## A run of the pull loop -/

/-- What one pass of the pull loop works on: the newest snapshot and the time of the publish. -/
structure Pull where
  snap : UpdateDataContiguous
  qpc : UInt64

/-- The pull loop of one subprocess between two passes.  No slot of the ring is in the middle of a
    write. -/
structure PullLoop (n : ℕ) (α : Type) where
  eyeSink : EyeFrameSink
  localPublishIndex : ℕ
  mem : ShmemData n α
  stable : ∀ k, Even (mem.slots k).generation

/-- What the modules of a run agree on: `initReply` and the hash of the module. -/
structure ModuleRun where
  eyeSuccess : Bool
  expressionSuccess : Bool
  UuidHash : UInt64

/-- The frame of one pass. -/
def pullBody (run : ModuleRun) (eyeSink : EyeFrameSink) (p : Pull) : FaceTrackingFrameBodyWire :=
  SanitizeNonFinite (frameBody p.qpc (updateEyes eyeSink p.snap) (copyShapes p.snap.Expression_Shapes)
    run.eyeSuccess run.expressionSuccess run.UuidHash)

theorem publish_stable {m : ShmemData n α} (hm : ∀ k, Even (m.slots k).generation) (next : ℕ)
    (body : Fin n → α) (k : Fin RING_SIZE) : Even ((m.publish next body).slots k).generation := by
  obtain ⟨s, hs, -, hpub⟩ := ShmemData.publish_eq body (hm (slotOf next))
  rw [hpub]
  by_cases hk : k = slotOf next
  · rw [hk]
    simpa using hs
  · have hne := m.setSlot_of_ne s hk
    change Even ((m.setSlot (slotOf next) s).slots k).generation
    rw [hne]
    exact hm k

/-- One pass with a snapshot. -/
def pull (layout : Layout n α) (run : ModuleRun) (l : PullLoop n α) (p : Pull) : PullLoop n α where
  eyeSink := updateEyes l.eyeSink p.snap
  localPublishIndex := l.localPublishIndex + 1
  mem := l.mem.publish (l.localPublishIndex + 1) (layout.store (pullBody run l.eyeSink p))
  stable := publish_stable l.stable _ _

/-- **What the driver reads after a pass** is the frame of that pass. -/
theorem TryRead_pull (layout : Layout n α) (run : ModuleRun) (l : PullLoop n α) (p : Pull)
    (buffer : Fin n → α) :
    TryRead layout (pull layout run l p).mem buffer =
      some (TranslateWireBody (pullBody run l.eyeSink p)) := by
  obtain ⟨s, hs, hbody, hpub⟩ := ShmemData.publish_eq
    (layout.store (pullBody run l.eyeSink p)) (l.stable (slotOf (l.localPublishIndex + 1)))
  have hmem : (pull layout run l p).mem = { l.mem.setSlot (slotOf (l.localPublishIndex + 1)) s with
      publish_index := l.localPublishIndex + 1 } := hpub
  have hslot : latestSlot (pull layout run l p).mem = some (slotOf (l.localPublishIndex + 1)) := by
    rw [hmem, latestSlot, if_neg (Nat.succ_ne_zero _)]
  have hself : (pull layout run l p).mem.slots (slotOf (l.localPublishIndex + 1)) = s := by
    rw [hmem]
    exact l.mem.setSlot_self ..
  have hread := ShmemData.TryReadLatestWire_eq (by decide : 0 < 8) buffer hslot (by rw [hself]; exact hs)
  rw [TryRead, hread, hself, hbody, Option.map_some, layout.load_store]

/-! ## One slot -/

/-- The weight the snapshot reports for an upstream shape. -/
def reported (snap : UpdateDataContiguous) (u : Fin UpstreamShapeCount) : Option Single :=
  snap.Expression_Shapes.bind fun shapes => shapes[u.1]?

/-- What arrives in the slot of a shape. -/
def expressionOf (weight : Option Single) : Single :=
  match weight with
  | some (.num v) => .num (v.clamp zeroNumber oneNumber)
  | _ => zero

theorem copyShapes_eq (snap : UpdateDataContiguous) (u : Fin UpstreamShapeCount) :
    copyShapes snap.Expression_Shapes u = (reported snap u).getD zero := by
  cases h : snap.Expression_Shapes with
  | none => simp [copyShapes, reported, h]
  | some shapes =>
    by_cases hu : u.1 < shapes.length
    · simp [copyShapes, reported, h, hu]
    · simp [copyShapes, reported, h, hu]

/-- Two shapes never share a slot. -/
theorem ourSlot_injective (u v : Fin UpstreamShapeCount) (h : ourSlot u = ourSlot v) :
    ourSlot u = none ∨ u = v := by
  revert u v
  decide +kernel

/-- What one upstream value writes. -/
def remapped : Single → Option Single
  | .num v => some (.num (v.clamp zeroNumber oneNumber))
  | _ => none

theorem remapShape_self (src : Fin UpstreamShapeCount → Single)
    (dst : Fin FACETRACKING_EXPRESSION_COUNT → Single) {u : Fin UpstreamShapeCount}
    {o : Fin FACETRACKING_EXPRESSION_COUNT} (hu : ourSlot u = some o) :
    remapShape src dst u o = (remapped (src u)).getD (dst o) := by
  unfold remapShape remapped
  cases src u <;> simp [hu]

theorem remapShape_of_ne (src : Fin UpstreamShapeCount → Single)
    (dst : Fin FACETRACKING_EXPRESSION_COUNT → Single) {u v : Fin UpstreamShapeCount}
    {o : Fin FACETRACKING_EXPRESSION_COUNT} (hu : ourSlot u = some o) (hne : v ≠ u) :
    remapShape src dst v o = dst o := by
  have hslot : ourSlot v ≠ some o := by
    intro hv
    rcases ourSlot_injective v u (hv.trans hu.symm) with h | h
    · rw [hv] at h
      cases h
    · exact hne h
  unfold remapShape
  cases hv : ourSlot v with
  | none => rfl
  | some o' =>
    have ho : o ≠ o' := by
      intro ho
      rw [ho] at hslot
      exact hslot hv
    cases src v with
    | num x => exact Function.update_of_ne ho ..
    | _ => rfl

/-- The loop over any part of the shapes; the induction is on that part. -/
theorem remapShape_foldl (src : Fin UpstreamShapeCount → Single) {u : Fin UpstreamShapeCount}
    {o : Fin FACETRACKING_EXPRESSION_COUNT} (hu : ourSlot u = some o)
    (l : List (Fin UpstreamShapeCount)) (dst : Fin FACETRACKING_EXPRESSION_COUNT → Single) :
    l.foldl (remapShape src) dst o =
      if u ∈ l then (remapped (src u)).getD (dst o) else dst o := by
  induction l generalizing dst with
  | nil => simp
  | cons v l ih =>
    rw [List.foldl_cons, ih]
    by_cases hv : v = u
    · subst hv
      rw [remapShape_self src dst hu]
      cases remapped (src v) <;> simp
    · rw [remapShape_of_ne src dst hu hv]
      have hmem : u ∈ v :: l ↔ u ∈ l := by
        simp only [List.mem_cons, or_iff_right_iff_imp]
        intro h
        exact absurd h.symm hv
      simp only [hmem]

/-- **The slot of a shape** depends on the weight of that shape alone. -/
theorem expressions_pull (run : ModuleRun) (eyeSink : EyeFrameSink) (p : Pull)
    {u : Fin UpstreamShapeCount} {o : Fin FACETRACKING_EXPRESSION_COUNT}
    (hu : ourSlot u = some o) :
    (TranslateWireBody (pullBody run eyeSink p)).expressions o =
      expressionOf (reported p.snap u) := by
  change RemapUpstreamShapes (fun i => finiteOrZero (copyShapes p.snap.Expression_Shapes i))
    (fun _ => zero) o = _
  rw [RemapUpstreamShapes, remapShape_foldl _ hu, if_pos (List.mem_finRange u), copyShapes_eq]
  have hzero : zeroNumber.clamp zeroNumber oneNumber = zeroNumber :=
    Number.clamp_of_mem le_rfl (by simp)
  cases reported p.snap u with
  | none => simp [finiteOrZero, remapped, expressionOf, zero, Datum.isFinite, hzero]
  | some w => cases w <;>
      simp [finiteOrZero, remapped, expressionOf, zero, Datum.isFinite, hzero]

/-! ## Unset shapes -/

/-- The shape carries the runtime's mark of a value that was never written. -/
def Unset (snap : UpdateDataContiguous) (u : Fin UpstreamShapeCount) : Prop :=
  reported snap u = some kInvalid

/-- The last value a module reported for a shape that was not the mark. -/
def lastValid (before : List Pull) (u : Fin UpstreamShapeCount) : Option Single :=
  before.reverse.findSome? fun p => (reported p.snap u).filter (· ≠ kInvalid)

/-- Unset shapes rest at zero or keep their last valid value, and never show as one; valid weights
    in `[0, 1]` are carried exactly. -/
def ShapesFollow (before : List Pull) (snap : UpdateDataContiguous)
    (frame : FaceTrackingFrameBody) : Prop :=
  ∀ u o, ourSlot u = some o →
    (Unset snap u → (frame.expressions o = zero ∨ lastValid before u = some (frame.expressions o)) ∧
      frame.expressions o ≠ one) ∧
    ∀ v : binary32.Number, reported snap u = some (.num v) → 0 ≤ v.val → v.val ≤ 1 →
      frame.expressions o = .num v

/-- As a `float` the mark is `2 ^ 32`. -/
theorem kInvalid_val : (binary32.narrow (0xFFFFFFFF : ℤ)).val = 4294967296 := by
  have hlog : Int.log 2 |((0xFFFFFFFF : ℤ) : ℚ)| = 31 := by
    have hnat : Nat.log 2 0xFFFFFFFF = 31 := by
      rw [Nat.log_eq_iff (by decide)]
      norm_num
    have habs : |((0xFFFFFFFF : ℤ) : ℚ)| = ((0xFFFFFFFF : ℕ) : ℚ) := by norm_num
    rw [habs, Int.log_natCast, hnat]
    rfl
  have hexp : binary32.exponent ((0xFFFFFFFF : ℤ) : ℚ) = 8 := by
    rw [exponent, hlog]
    decide
  have hround : roundHalfEven (((0xFFFFFFFF : ℤ) : ℚ) / 2 ^ (8 : ℤ)) = 16777216 := by
    have hfloor : ⌊((0xFFFFFFFF : ℤ) : ℚ) / 2 ^ (8 : ℤ)⌋ = 16777215 := by
      rw [Int.floor_eq_iff]
      norm_num
    rw [roundHalfEven, hfloor]
    norm_num
  change binary32.round _ = _
  rw [Format.round, hexp, hround]
  norm_num

/-- **Unset shapes open wide.** -/
theorem expressionOf_unset : expressionOf (some kInvalid) = one := by
  have hle : zeroNumber.val ≤ oneNumber.val := by simp
  have hlt : oneNumber.val < (binary32.narrow (0xFFFFFFFF : ℤ)).val := by
    rw [oneNumber_val, kInvalid_val]
    norm_num
  simp only [expressionOf, kInvalid, one, Number.clamp_of_gt hle hlt]

/-- The loop after the passes of a run. -/
def pullRun (layout : Layout n α) (run : ModuleRun) (l : PullLoop n α) (ps : List Pull) :
    PullLoop n α :=
  ps.foldl (pull layout run) l

/-- What the driver reads after a run is the frame of its last pass. -/
theorem TryRead_pullRun (layout : Layout n α) (run : ModuleRun) (l : PullLoop n α)
    (before : List Pull) (p : Pull) (buffer : Fin n → α) :
    TryRead layout (pullRun layout run l (before ++ [p])).mem buffer =
      some (TranslateWireBody (pullBody run (pullRun layout run l before).eyeSink p)) := by
  have hlast : pullRun layout run l (before ++ [p]) =
      pull layout run (pullRun layout run l before) p := by
    simp only [pullRun, List.foldl_append, List.foldl_cons, List.foldl_nil]
  rw [hlast, TryRead_pull]

/-- **Shapes a module never wrote rest exactly when none of them has a slot.** -/
theorem unsetShapes_rest_iff (layout : Layout n α) (run : ModuleRun) (l : PullLoop n α)
    (before : List Pull) (p : Pull) (buffer : Fin n → α) :
    (∃ frame, TryRead layout (pullRun layout run l (before ++ [p])).mem buffer = some frame ∧
      ShapesFollow before p.snap frame) ↔ ∀ u, (ourSlot u).isSome → ¬ Unset p.snap u := by
  rw [TryRead_pullRun]
  constructor
  · rintro ⟨frame, hframe, hfollow⟩ u hslot hunset
    obtain ⟨o, ho⟩ := Option.isSome_iff_exists.1 hslot
    cases hframe
    apply ((hfollow u o ho).1 hunset).2
    rw [expressions_pull _ _ _ ho, show reported p.snap u = some kInvalid from hunset]
    exact expressionOf_unset
  · intro hset
    refine ⟨_, rfl, ?_⟩
    intro u o ho
    refine ⟨?_, ?_⟩
    · intro hunset
      exact absurd hunset (hset u (by rw [ho]; rfl))
    · intro v hv h0 h1
      rw [expressions_pull _ _ _ ho, hv]
      simp only [expressionOf]
      rw [Number.clamp_of_mem (by simpa using h0) (by simpa using h1)]

/-- A snapshot of a module that wrote nothing yet. -/
def unsetFace : Pull := ⟨⟨kInvalid, kInvalid, some (List.replicate 89 kInvalid)⟩, 1⟩

/-- The body as one word. -/
def oneWord : Layout 1 FaceTrackingFrameBodyWire :=
  ⟨fun wire _ => wire, fun words => words (Fin.last 0), fun _ => rfl⟩

/-- The pull loop on a new segment. -/
def freshLoop : PullLoop 1 FaceTrackingFrameBodyWire :=
  ⟨{}, 0, .created fun _ => frameBody 0 {} (fun _ => zero) false false 0, fun _ => ⟨0, rfl⟩⟩

/-- **The jaw of a face nobody has moved** is wide open. -/
theorem unsetFace_wide_open :
    ¬ ∃ frame, TryRead oneWord (pullRun oneWord ⟨true, true, 7⟩ freshLoop ([] ++ [unsetFace])).mem
      (fun _ => frameBody 0 {} (fun _ => zero) false false 0) = some frame ∧
      ShapesFollow [] unsetFace.snap frame := by
  rw [TryRead_pullRun]
  rintro ⟨frame, hframe, hfollow⟩
  have hjaw : ourSlot ⟨22, by decide⟩ = some ⟨26, by decide⟩ := by decide
  have hunset : Unset unsetFace.snap ⟨22, by decide⟩ := rfl
  cases hframe
  apply ((hfollow _ _ hjaw).1 hunset).2
  rw [expressions_pull _ _ _ hjaw, show reported unsetFace.snap _ = some kInvalid from hunset]
  exact expressionOf_unset

end WKPairDriver.FaceTracking
