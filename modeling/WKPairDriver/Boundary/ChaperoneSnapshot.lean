import Mathlib
import WKPairDriver.Lib.Pod

/-!
# The chaperone snapshot: `SerializeChaperoneSnapshot`, `DeserializeChaperoneSnapshot`

A blob of the current version is magic, version, flags, the flagged fields, and two counted arrays.
A legacy blob is a count and that many quads.  A `float` is its 32 bits.  Every access to the bytes
is checked: `Stop.fault` is a read outside of them.

* `DeserializeChaperoneSnapshot_serialize` — the round trip.
* `deserializeV2_yields` — the vectors a blob of the current version leaves behind have the lengths
  it announces: they are sized before the elements are looked for.
* `readsSafely_iff` — arbitrary bytes are read without a fault, legacy blobs are accepted as they
  should be, and the vectors fit the bytes exactly when the announced counts do.
-/

set_option autoImplicit false

namespace WKPairDriver.Boundary

open Lib Lib.Bytes Lib.Slice

/-! ## The data -/

/-- The bits of a `float`. -/
abbrev Float32 := UInt32

structure HmdVector2_t where
  v : Vector Float32 2
deriving DecidableEq

structure HmdVector3_t where
  v : Vector Float32 3
deriving DecidableEq

structure HmdQuad_t where
  vCorners : Vector HmdVector3_t 4
deriving DecidableEq

structure HmdMatrix34_t where
  m : Vector (Vector Float32 4) 3
deriving DecidableEq

def HmdVector2_t.zero : HmdVector2_t := ⟨.replicate 2 0⟩
def HmdVector3_t.zero : HmdVector3_t := ⟨.replicate 3 0⟩
def HmdQuad_t.zero : HmdQuad_t := ⟨.replicate 4 .zero⟩
def HmdMatrix34_t.zero : HmdMatrix34_t := ⟨.replicate 3 (.replicate 4 0)⟩

def podVector2 : Pod HmdVector2_t := (Pod.u32.vector 2).iso .mk HmdVector2_t.v fun _ => rfl
def podVector3 : Pod HmdVector3_t := (Pod.u32.vector 3).iso .mk HmdVector3_t.v fun _ => rfl
def podQuad : Pod HmdQuad_t := (podVector3.vector 4).iso .mk HmdQuad_t.vCorners fun _ => rfl
def podMatrix34 : Pod HmdMatrix34_t :=
  ((Pod.u32.vector 4).vector 3).iso .mk HmdMatrix34_t.m fun _ => rfl

def kVector2Bytes : ℕ := podVector2.size
def kQuadBytes : ℕ := podQuad.size
def kMatrix34Bytes : ℕ := podMatrix34.size

@[simp] theorem podVector2_size : podVector2.size = 8 := rfl
@[simp] theorem podQuad_size : podQuad.size = 48 := rfl
@[simp] theorem podMatrix34_size : podMatrix34.size = 48 := rfl
@[simp] theorem podU32_size : Pod.u32.size = 4 := rfl

structure ChaperoneSnapshot where
  legacyCollisionBoundsOnly : Bool := false
  hasPlayArea : Bool := false
  playAreaX : Float32 := 0
  playAreaZ : Float32 := 0
  hasStandingZero : Bool := false
  standingZeroToRaw : HmdMatrix34_t := .zero
  hasSeatedZero : Bool := false
  seatedZeroToRaw : HmdMatrix34_t := .zero
  perimeter : List HmdVector2_t := []
  collisionBounds : List HmdQuad_t := []
deriving DecidableEq

/-! ## Writing -/

def kSnapshotMagic : UInt32 := 0x43424B57
def kSnapshotVersion : UInt32 := 2
def kSnapshotFlagPlayArea : UInt32 := 1
def kSnapshotFlagStandingZero : UInt32 := 2
def kSnapshotFlagSeatedZero : UInt32 := 4

def snapshotFlags (snapshot : ChaperoneSnapshot) : UInt32 :=
  (if snapshot.hasPlayArea then kSnapshotFlagPlayArea else 0) |||
    (if snapshot.hasStandingZero then kSnapshotFlagStandingZero else 0) |||
    (if snapshot.hasSeatedZero then kSnapshotFlagSeatedZero else 0)

def Write32LE (v : UInt32) : List UInt8 := Pod.u32.put v

def SerializeChaperoneSnapshot (snapshot : ChaperoneSnapshot) : List UInt8 :=
  List.flatten [
    Write32LE kSnapshotMagic,
    Write32LE kSnapshotVersion,
    Write32LE (snapshotFlags snapshot),
    if snapshot.hasPlayArea then
      Pod.u32.put snapshot.playAreaX ++ Pod.u32.put snapshot.playAreaZ
    else [],
    if snapshot.hasStandingZero then podMatrix34.put snapshot.standingZeroToRaw else [],
    if snapshot.hasSeatedZero then podMatrix34.put snapshot.seatedZeroToRaw else [],
    Write32LE (UInt32.ofNat snapshot.perimeter.length),
    podVector2.putAll snapshot.perimeter,
    Write32LE (UInt32.ofNat snapshot.collisionBounds.length),
    podQuad.putAll snapshot.collisionBounds]

/-! ## Reading -/

/-- Why no snapshot is returned: the code read outside of the bytes, or it returned false with this
    message and the snapshot filled as far as it got. -/
inductive Stop where
  | fault (e : Fault)
  | fail (snapshot : ChaperoneSnapshot) (message : String)
deriving DecidableEq

section

variable {α : Type} (bytes : List UInt8)

/-- `ReadBytes` into a value, with the offset behind it; `Read32LEAdvance` for words. -/
def ReadBytes (p : Pod α) (offset : ℕ) : Except Fault (Option (α × ℕ)) :=
  if offset + p.size > bytes.length then .ok none
  else
    match load bytes offset p.size with
    | .error e => .error e
    | .ok b => .ok (some (p.get b, offset + p.size))

/-- The loop over the elements of a vector of `n` value-initialized ones: the vector as it is left,
    and the offset behind it unless an element was missing. -/
def readElements (p : Pod α) (zero : α) : ℕ → ℕ → Except Fault (List α × Option ℕ)
  | 0, offset => .ok ([], some offset)
  | n + 1, offset =>
    match ReadBytes bytes p offset with
    | .error e => .error e
    | .ok none => .ok (List.replicate (n + 1) zero, none)
    | .ok (some (a, offset)) =>
      match readElements p zero n offset with
      | .error e => .error e
      | .ok (as, behind) => .ok (a :: as, behind)

/-- A read whose failure makes the function return false. -/
def orFail {β : Type} (snapshot : ChaperoneSnapshot) (message : String) :
    Except Fault (Option β) → Except Stop β
  | .error e => .error (.fault e)
  | .ok none => .error (.fail snapshot message)
  | .ok (some b) => .ok b

def readPlayArea (snapshot : ChaperoneSnapshot) (offset : ℕ) :
    Except Stop (ChaperoneSnapshot × ℕ) :=
  if snapshot.hasPlayArea then do
    let (x, offset) ← orFail snapshot "truncated_play_area" (ReadBytes bytes Pod.u32 offset)
    let snapshot := { snapshot with playAreaX := x }
    let (z, offset) ← orFail snapshot "truncated_play_area" (ReadBytes bytes Pod.u32 offset)
    return ({ snapshot with playAreaZ := z }, offset)
  else return (snapshot, offset)

def readStandingZero (snapshot : ChaperoneSnapshot) (offset : ℕ) :
    Except Stop (ChaperoneSnapshot × ℕ) :=
  if snapshot.hasStandingZero then do
    let (m, offset) ← orFail snapshot "truncated_standing_zero"
      (ReadBytes bytes podMatrix34 offset)
    return ({ snapshot with standingZeroToRaw := m }, offset)
  else return (snapshot, offset)

def readSeatedZero (snapshot : ChaperoneSnapshot) (offset : ℕ) :
    Except Stop (ChaperoneSnapshot × ℕ) :=
  if snapshot.hasSeatedZero then do
    let (m, offset) ← orFail snapshot "truncated_seated_zero"
      (ReadBytes bytes podMatrix34 offset)
    return ({ snapshot with seatedZeroToRaw := m }, offset)
  else return (snapshot, offset)

/-- The snapshot with the vector as the loop left it; a missing element makes the function return
    false. -/
def keepElements (filled : List α → ChaperoneSnapshot) (message : String) :
    Except Fault (List α × Option ℕ) → Except Stop (ChaperoneSnapshot × ℕ)
  | .error e => .error (.fault e)
  | .ok (as, none) => .error (.fail (filled as) message)
  | .ok (as, some offset) => .ok (filled as, offset)

def readPerimeter (snapshot : ChaperoneSnapshot) (offset : ℕ) :
    Except Stop (ChaperoneSnapshot × ℕ) := do
  let (perimeterCount, offset) ← orFail snapshot "truncated_perimeter_count"
    (ReadBytes bytes Pod.u32 offset)
  keepElements (fun perimeter => { snapshot with perimeter := perimeter }) "truncated_perimeter"
    (readElements bytes podVector2 .zero perimeterCount.toNat offset)

def readCollisionBounds (snapshot : ChaperoneSnapshot) (offset : ℕ) :
    Except Stop (ChaperoneSnapshot × ℕ) := do
  let (quadCount, offset) ← orFail snapshot "truncated_collision_count"
    (ReadBytes bytes Pod.u32 offset)
  keepElements (fun quads => { snapshot with collisionBounds := quads })
    "truncated_collision_bounds"
    (readElements bytes podQuad .zero quadCount.toNat offset)

def DerivePerimeterFromCollisionBounds (quads : List HmdQuad_t) : List HmdVector2_t :=
  quads.map fun quad =>
    let corner := quad.vCorners.get ⟨0, by decide⟩
    ⟨#v[corner.v.get ⟨0, by decide⟩, corner.v.get ⟨2, by decide⟩]⟩

/-- A blob that does not start with the magic number: its first word is a count of quads. -/
def deserializeLegacy (count : UInt32) : Except Stop ChaperoneSnapshot :=
  if count = 0 then .error (.fail {} "legacy_empty")
  else
    let expected := 4 + count.toNat * kQuadBytes
    if bytes.length < expected then .error (.fail {} "legacy_truncated")
    else
      match load bytes 4 (count.toNat * kQuadBytes) with
      | .error e => .error (.fault e)
      | .ok b =>
        let quads := (List.range count.toNat).map fun i =>
          podQuad.get ((b.drop (i * kQuadBytes)).take kQuadBytes)
        .ok {
          legacyCollisionBoundsOnly := true
          collisionBounds := quads
          perimeter := DerivePerimeterFromCollisionBounds quads }

/-- What the flags of a blob say. -/
def flaggedSnapshot (flags : UInt32) : ChaperoneSnapshot where
  hasPlayArea := flags &&& kSnapshotFlagPlayArea != 0
  hasStandingZero := flags &&& kSnapshotFlagStandingZero != 0
  hasSeatedZero := flags &&& kSnapshotFlagSeatedZero != 0

/-- The optional fields and the arrays of a blob of the current version. -/
def deserializeSections (flags : UInt32) (offset : ℕ) : Except Stop ChaperoneSnapshot := do
  let (snapshot, offset) ← readPlayArea bytes (flaggedSnapshot flags) offset
  let (snapshot, offset) ← readStandingZero bytes snapshot offset
  let (snapshot, offset) ← readSeatedZero bytes snapshot offset
  let (snapshot, offset) ← readPerimeter bytes snapshot offset
  let (snapshot, _) ← readCollisionBounds bytes snapshot offset
  return snapshot

/-- A blob of the current version, behind its magic number. -/
def deserializeV2 : Except Stop ChaperoneSnapshot := do
  let (version, offset) ← orFail {} "truncated_v2_header" (ReadBytes bytes Pod.u32 4)
  let (flags, offset) ← orFail {} "truncated_v2_header" (ReadBytes bytes Pod.u32 offset)
  if version ≠ kSnapshotVersion then .error (.fail {} "unsupported_version")
  else deserializeSections bytes flags offset

def DeserializeChaperoneSnapshot : Except Stop ChaperoneSnapshot :=
  if bytes.isEmpty then .error (.fail {} "empty")
  else do
    let (first, _) ← orFail {} "truncated_header" (ReadBytes bytes Pod.u32 0)
    if first ≠ kSnapshotMagic then deserializeLegacy bytes first else deserializeV2 bytes

/-! ## Single reads -/

def word (offset : ℕ) : UInt32 := Pod.u32.get ((bytes.drop offset).take 4)

variable {bytes}

theorem ReadBytes_eq (p : Pod α) (offset : ℕ) : ReadBytes bytes p offset =
    .ok (if offset + p.size ≤ bytes.length then
      some (p.get ((bytes.drop offset).take p.size), offset + p.size) else none) := by
  simp only [ReadBytes]
  by_cases h : offset + p.size ≤ bytes.length
  · rw [if_neg (by omega), if_pos h, load_ok h]
  · rw [if_pos (by omega), if_neg h]

theorem ReadBytes_word (offset : ℕ) : ReadBytes bytes Pod.u32 offset =
    .ok (if offset + 4 ≤ bytes.length then some (word bytes offset, offset + 4) else none) :=
  ReadBytes_eq Pod.u32 offset

theorem ReadBytes_matrix34 (offset : ℕ) : ReadBytes bytes podMatrix34 offset =
    .ok (if offset + 48 ≤ bytes.length then
      some (podMatrix34.get ((bytes.drop offset).take 48), offset + 48) else none) :=
  ReadBytes_eq podMatrix34 offset

theorem ReadBytes_put {p : Pod α} {pre rest : List UInt8} {a : α}
    (hb : bytes = pre ++ (p.put a ++ rest)) :
    ReadBytes bytes p pre.length = .ok (some (a, (pre ++ p.put a).length)) := by
  have hlen : (p.put a).length = p.size := p.put_length a
  have hfit : pre.length + p.size ≤ bytes.length := by
    rw [hb, List.length_append, List.length_append]
    omega
  rw [ReadBytes, if_neg (by omega), Pod.load_put p hb rfl]
  simp only [p.get_put, List.length_append, hlen]

/-- The loop leaves a vector of the announced length, whatever the bytes are. -/
theorem readElements_spec (p : Pod α) (zero : α) (n offset : ℕ) (h : offset ≤ bytes.length) :
    ∃ as, as.length = n ∧ readElements bytes p zero n offset =
      .ok (as, if offset + n * p.size ≤ bytes.length then some (offset + n * p.size) else none) := by
  induction n generalizing offset with
  | zero => exact ⟨[], rfl, by rw [if_pos (by omega)]; simp [readElements]⟩
  | succ n ih =>
    rw [readElements, ReadBytes_eq]
    by_cases hfit : offset + p.size ≤ bytes.length
    · obtain ⟨as, has, hread⟩ := ih (offset + p.size) hfit
      rw [if_pos hfit]
      simp only [hread]
      have hmul : offset + (n + 1) * p.size = offset + p.size + n * p.size := by ring
      exact ⟨p.get ((bytes.drop offset).take p.size) :: as, by rw [List.length_cons, has],
        by rw [hmul]⟩
    · rw [if_neg hfit, if_neg]
      · exact ⟨List.replicate (n + 1) zero, List.length_replicate, rfl⟩
      · have : (n + 1) * p.size = n * p.size + p.size := by ring
        omega

theorem readElements_putAll {p : Pod α} (zero : α) {pre rest : List UInt8} {as : List α}
    (hb : bytes = pre ++ (p.putAll as ++ rest)) :
    readElements bytes p zero as.length pre.length =
      .ok (as, some (pre ++ p.putAll as).length) := by
  induction as generalizing pre with
  | nil => simp [readElements]
  | cons a as ih =>
    rw [Pod.putAll_cons, List.append_assoc] at hb
    rw [List.length_cons, readElements, ReadBytes_put hb]
    rw [← List.append_assoc] at hb
    simp only [ih hb, Pod.putAll_cons, List.append_assoc]

/-! ## The round trip -/

variable {t : ChaperoneSnapshot} {pre rest : List UInt8}

theorem readPlayArea_put {x z : Float32} (hflag : t.hasPlayArea = true)
    (hb : bytes = pre ++ ((Pod.u32.put x ++ Pod.u32.put z) ++ rest)) :
    readPlayArea bytes t pre.length =
      .ok ({ t with playAreaX := x, playAreaZ := z },
        (pre ++ (Pod.u32.put x ++ Pod.u32.put z)).length) := by
  rw [List.append_assoc] at hb
  have hx := ReadBytes_put hb
  rw [← List.append_assoc] at hb
  have hz := ReadBytes_put hb
  simp only [readPlayArea, if_pos hflag, hx, hz, orFail, bind, Except.bind, pure, Except.pure,
    List.append_assoc]

/-- An optional matrix, kept by `keep`: the stages for the two zero poses. -/
def readOptionalMatrix (bytes : List UInt8) (flag : Bool) (message : String)
    (keep : HmdMatrix34_t → ChaperoneSnapshot) (snapshot : ChaperoneSnapshot) (offset : ℕ) :
    Except Stop (ChaperoneSnapshot × ℕ) :=
  if flag then do
    let (m, offset) ← orFail snapshot message (ReadBytes bytes podMatrix34 offset)
    return (keep m, offset)
  else return (snapshot, offset)

theorem readStandingZero_eq (offset : ℕ) :
    readStandingZero bytes t offset = readOptionalMatrix bytes t.hasStandingZero
      "truncated_standing_zero" (fun m => { t with standingZeroToRaw := m }) t offset := rfl

theorem readSeatedZero_eq (offset : ℕ) :
    readSeatedZero bytes t offset = readOptionalMatrix bytes t.hasSeatedZero
      "truncated_seated_zero" (fun m => { t with seatedZeroToRaw := m }) t offset := rfl

/-- A snapshot that has the default keeps it when nothing was written. -/
theorem readOptionalMatrix_written {flag : Bool} {message : String}
    {keep : HmdMatrix34_t → ChaperoneSnapshot} {m zero : HmdMatrix34_t} (hzero : keep zero = t)
    (hb : bytes = pre ++ ((if flag then podMatrix34.put m else []) ++ rest)) :
    readOptionalMatrix bytes flag message keep t pre.length =
      .ok (keep (if flag then m else zero),
        (pre ++ if flag then podMatrix34.put m else []).length) := by
  cases flag with
  | true =>
    rw [if_pos rfl] at hb
    simp only [readOptionalMatrix, if_true, ReadBytes_put hb, orFail, bind, Except.bind, pure,
      Except.pure]
  | false =>
    simp only [readOptionalMatrix, Bool.false_eq_true, if_false, List.append_nil, hzero, pure,
      Except.pure]

theorem readPerimeter_put {ps : List HmdVector2_t} (hlen : ps.length < 2 ^ 32)
    (hb : bytes = pre ++ (Write32LE (UInt32.ofNat ps.length) ++ (podVector2.putAll ps ++ rest))) :
    readPerimeter bytes t pre.length =
      .ok ({ t with perimeter := ps },
        (pre ++ (Write32LE (UInt32.ofNat ps.length) ++ podVector2.putAll ps)).length) := by
  have hcount := ReadBytes_put hb
  rw [← List.append_assoc] at hb
  have hread := readElements_putAll .zero hb
  have hnat : (UInt32.ofNat ps.length).toNat = ps.length := by
    rw [UInt32.toNat_ofNat']
    exact Nat.mod_eq_of_lt hlen
  simp only [readPerimeter, hcount, orFail, bind, Except.bind, hnat]
  rw [Write32LE] at hread
  rw [hread, Write32LE, List.append_assoc, keepElements]

theorem readCollisionBounds_put {qs : List HmdQuad_t} (hlen : qs.length < 2 ^ 32)
    (hb : bytes = pre ++ (Write32LE (UInt32.ofNat qs.length) ++ (podQuad.putAll qs ++ rest))) :
    readCollisionBounds bytes t pre.length =
      .ok ({ t with collisionBounds := qs },
        (pre ++ (Write32LE (UInt32.ofNat qs.length) ++ podQuad.putAll qs)).length) := by
  have hcount := ReadBytes_put hb
  rw [← List.append_assoc] at hb
  have hread := readElements_putAll .zero hb
  have hnat : (UInt32.ofNat qs.length).toNat = qs.length := by
    rw [UInt32.toNat_ofNat']
    exact Nat.mod_eq_of_lt hlen
  simp only [readCollisionBounds, hcount, orFail, bind, Except.bind, hnat]
  rw [Write32LE] at hread
  rw [hread, Write32LE, List.append_assoc, keepElements]

end

/-- A snapshot as the current version writes it: not legacy, with counts that fit their words. -/
structure CurrentSnapshot where
  snapshot : ChaperoneSnapshot
  not_legacy : snapshot.legacyCollisionBoundsOnly = false
  perimeter_lt : snapshot.perimeter.length < 2 ^ 32
  collisionBounds_lt : snapshot.collisionBounds.length < 2 ^ 32

/-- Nothing but the flags. -/
def ChaperoneSnapshot.flagsOnly (s : ChaperoneSnapshot) : ChaperoneSnapshot where
  hasPlayArea := s.hasPlayArea
  hasStandingZero := s.hasStandingZero
  hasSeatedZero := s.hasSeatedZero

theorem flaggedSnapshot_snapshotFlags (s : ChaperoneSnapshot) :
    flaggedSnapshot (snapshotFlags s) = s.flagsOnly := by
  simp only [flaggedSnapshot, snapshotFlags, ChaperoneSnapshot.flagsOnly]
  cases s.hasPlayArea <;> cases s.hasStandingZero <;> cases s.hasSeatedZero <;> decide

/-- The fields that are not flagged have their defaults. -/
def ChaperoneSnapshot.flaggedOnly (s : ChaperoneSnapshot) : ChaperoneSnapshot :=
  { s with
    playAreaX := if s.hasPlayArea then s.playAreaX else 0
    playAreaZ := if s.hasPlayArea then s.playAreaZ else 0
    standingZeroToRaw := if s.hasStandingZero then s.standingZeroToRaw else .zero
    seatedZeroToRaw := if s.hasSeatedZero then s.seatedZeroToRaw else .zero }

section

variable {bytes pre rest : List UInt8} {s t : ChaperoneSnapshot}

/-- The stages for the optional fields, flagged or not. -/
theorem readPlayArea_written (hflag : t.hasPlayArea = s.hasPlayArea)
    (hx : t.playAreaX = 0) (hz : t.playAreaZ = 0)
    (hb : bytes = pre ++ ((if s.hasPlayArea then
      Pod.u32.put s.playAreaX ++ Pod.u32.put s.playAreaZ else []) ++ rest)) :
    readPlayArea bytes t pre.length =
      .ok ({ t with
          playAreaX := s.flaggedOnly.playAreaX, playAreaZ := s.flaggedOnly.playAreaZ },
        (pre ++ if s.hasPlayArea then
          Pod.u32.put s.playAreaX ++ Pod.u32.put s.playAreaZ else []).length) := by
  by_cases h : s.hasPlayArea = true
  · rw [if_pos h] at hb ⊢
    rw [readPlayArea_put (hflag.trans h) hb]
    simp only [ChaperoneSnapshot.flaggedOnly, if_pos h]
  · rw [if_neg h, List.append_nil]
    simp only [readPlayArea, hflag, if_neg h, ChaperoneSnapshot.flaggedOnly]
    cases t
    cases hx
    cases hz
    cases hflag
    rfl

theorem readStandingZero_written (hflag : t.hasStandingZero = s.hasStandingZero)
    (hm : t.standingZeroToRaw = .zero)
    (hb : bytes = pre ++ ((if s.hasStandingZero then
      podMatrix34.put s.standingZeroToRaw else []) ++ rest)) :
    readStandingZero bytes t pre.length =
      .ok ({ t with standingZeroToRaw := s.flaggedOnly.standingZeroToRaw },
        (pre ++ if s.hasStandingZero then
          podMatrix34.put s.standingZeroToRaw else []).length) := by
  rw [← hflag] at hb ⊢
  rw [readStandingZero_eq]
  simp only [ChaperoneSnapshot.flaggedOnly, ← hflag]
  refine readOptionalMatrix_written ?_ hb
  rw [← hm]

theorem readSeatedZero_written (hflag : t.hasSeatedZero = s.hasSeatedZero)
    (hm : t.seatedZeroToRaw = .zero)
    (hb : bytes = pre ++ ((if s.hasSeatedZero then
      podMatrix34.put s.seatedZeroToRaw else []) ++ rest)) :
    readSeatedZero bytes t pre.length =
      .ok ({ t with seatedZeroToRaw := s.flaggedOnly.seatedZeroToRaw },
        (pre ++ if s.hasSeatedZero then
          podMatrix34.put s.seatedZeroToRaw else []).length) := by
  rw [← hflag] at hb ⊢
  rw [readSeatedZero_eq]
  simp only [ChaperoneSnapshot.flaggedOnly, ← hflag]
  refine readOptionalMatrix_written ?_ hb
  rw [← hm]

end

/-- **The round trip**: all that is lost are values that no flag announces. -/
theorem DeserializeChaperoneSnapshot_serialize (s : CurrentSnapshot) :
    DeserializeChaperoneSnapshot (SerializeChaperoneSnapshot s.snapshot) =
      .ok s.snapshot.flaggedOnly := by
  obtain ⟨s, hlegacy, hperimeter, hquads⟩ := s
  obtain ⟨bytes, hbytes⟩ : ∃ bytes, bytes = SerializeChaperoneSnapshot s := ⟨_, rfl⟩
  rw [← hbytes]
  simp only [SerializeChaperoneSnapshot, List.flatten_cons, List.flatten_nil] at hbytes
  -- Each stage reads the next piece; what is in front of it grows by that piece.
  have hb := hbytes
  rw [← List.nil_append (Write32LE kSnapshotMagic ++ _)] at hb
  have hmagic : ReadBytes bytes Pod.u32 0 = .ok (some (kSnapshotMagic, 4)) :=
    ReadBytes_put (p := Pod.u32) hb
  rw [← List.append_assoc] at hb
  have hversion : ReadBytes bytes Pod.u32 4 = .ok (some (kSnapshotVersion, 8)) :=
    ReadBytes_put (p := Pod.u32) hb
  rw [← List.append_assoc] at hb
  have hflags : ReadBytes bytes Pod.u32 8 = .ok (some (snapshotFlags s, 12)) :=
    ReadBytes_put (p := Pod.u32) hb
  rw [← List.append_assoc] at hb
  have hplay : readPlayArea bytes s.flagsOnly 12 = _ :=
    readPlayArea_written (s := s) (t := s.flagsOnly) rfl rfl rfl hb
  rw [← List.append_assoc] at hb
  have hstanding := readStandingZero_written (s := s) (t := { s.flagsOnly with
    playAreaX := s.flaggedOnly.playAreaX
    playAreaZ := s.flaggedOnly.playAreaZ }) rfl rfl hb
  rw [← List.append_assoc] at hb
  have hseated := readSeatedZero_written (s := s) (t := { s.flagsOnly with
    playAreaX := s.flaggedOnly.playAreaX
    playAreaZ := s.flaggedOnly.playAreaZ
    standingZeroToRaw := s.flaggedOnly.standingZeroToRaw }) rfl rfl hb
  rw [← List.append_assoc] at hb
  have hper := readPerimeter_put (t := { s.flagsOnly with
    playAreaX := s.flaggedOnly.playAreaX
    playAreaZ := s.flaggedOnly.playAreaZ
    standingZeroToRaw := s.flaggedOnly.standingZeroToRaw
    seatedZeroToRaw := s.flaggedOnly.seatedZeroToRaw }) hperimeter hb
  rw [← List.append_assoc (Write32LE _), ← List.append_assoc] at hb
  have hcol := readCollisionBounds_put (t := { s.flagsOnly with
    playAreaX := s.flaggedOnly.playAreaX
    playAreaZ := s.flaggedOnly.playAreaZ
    standingZeroToRaw := s.flaggedOnly.standingZeroToRaw
    seatedZeroToRaw := s.flaggedOnly.seatedZeroToRaw
    perimeter := s.perimeter }) hquads hb
  have hne : bytes.isEmpty = false := by
    rw [hbytes]
    rfl
  have hresult : deserializeV2 bytes = .ok s.flaggedOnly := by
    simp only [deserializeV2, hversion, hflags, orFail, bind, Except.bind, ne_eq,
      not_true_eq_false, if_false, deserializeSections, flaggedSnapshot_snapshotFlags]
    rw [hplay]
    simp only [hstanding, hseated, hper, hcol]
    rw [ChaperoneSnapshot.flaggedOnly, hlegacy]
    rfl
  rw [DeserializeChaperoneSnapshot, hne, if_neg Bool.false_ne_true]
  simp only [hmagic, orFail, bind, Except.bind, ne_eq, not_true_eq_false, if_false, hresult]

/-! ## Arbitrary bytes -/

section

variable (bytes : List UInt8)

/-- Where the count of the perimeter stands. -/
def sectionsEnd (flags : UInt32) : ℕ :=
  12 + (if (flaggedSnapshot flags).hasPlayArea then 8 else 0) +
    (if (flaggedSnapshot flags).hasStandingZero then 48 else 0) +
    (if (flaggedSnapshot flags).hasSeatedZero then 48 else 0)

/-- The counts of points and quads a blob of the current version announces, as far as it holds the
    words for them. -/
def announcedCounts : ℕ × ℕ :=
  if bytes.length < 12 ∨ word bytes 4 ≠ kSnapshotVersion then (0, 0)
  else
    let offset := sectionsEnd (word bytes 8)
    if bytes.length < offset + 4 then (0, 0)
    else
      let count := (word bytes offset).toNat
      let behind := offset + 4 + count * kVector2Bytes
      (count, if bytes.length < behind + 4 then 0 else (word bytes behind).toNat)

/-- The snapshot the caller is left with, whether the function returned true or false. -/
def produced : Except Stop ChaperoneSnapshot → ChaperoneSnapshot
  | .ok s => s
  | .error (.fail s _) => s
  | .error (.fault _) => {}

/-- No read left the bytes, and the vectors have these lengths. -/
structure Yields (counts : ℕ × ℕ) (r : Except Stop ChaperoneSnapshot) : Prop where
  inside : ∀ e, r ≠ .error (.fault e)
  perimeter : (produced r).perimeter.length = counts.1
  collisionBounds : (produced r).collisionBounds.length = counts.2

/-- The fields that the stages for the optional fields leave alone. -/
structure Kept (s t : ChaperoneSnapshot) : Prop where
  hasPlayArea : t.hasPlayArea = s.hasPlayArea
  hasStandingZero : t.hasStandingZero = s.hasStandingZero
  hasSeatedZero : t.hasSeatedZero = s.hasSeatedZero
  perimeter : t.perimeter = s.perimeter
  collisionBounds : t.collisionBounds = s.collisionBounds

theorem Kept.trans {s t u : ChaperoneSnapshot} (h : Kept s t) (h' : Kept t u) : Kept s u where
  hasPlayArea := h'.hasPlayArea.trans h.hasPlayArea
  hasStandingZero := h'.hasStandingZero.trans h.hasStandingZero
  hasSeatedZero := h'.hasSeatedZero.trans h.hasSeatedZero
  perimeter := h'.perimeter.trans h.perimeter
  collisionBounds := h'.collisionBounds.trans h.collisionBounds

/-- A stage over the `n` bytes at `offset`: it succeeds exactly when they are there. -/
def StageSpec (s : ChaperoneSnapshot) (offset n : ℕ) (r : Except Stop (ChaperoneSnapshot × ℕ)) :
    Prop :=
  (offset + n ≤ bytes.length ∧ ∃ t, r = .ok (t, offset + n) ∧ Kept s t) ∨
    (bytes.length < offset + n ∧ ∃ t m, r = .error (.fail t m) ∧ Kept s t)

variable {bytes} (s : ChaperoneSnapshot) {offset : ℕ} (h : offset ≤ bytes.length)
include h

theorem readPlayArea_spec :
    StageSpec bytes s offset (if s.hasPlayArea then 8 else 0) (readPlayArea bytes s offset) := by
  by_cases hflag : s.hasPlayArea = true
  · simp only [readPlayArea, if_pos hflag, ReadBytes_word]
    by_cases h4 : offset + 4 ≤ bytes.length
    · by_cases h8 : offset + 4 + 4 ≤ bytes.length
      · left
        refine ⟨h8, ?_⟩
        simp only [if_pos h4, if_pos h8, orFail, bind, Except.bind]
        exact ⟨_, rfl, rfl, rfl, rfl, rfl, rfl⟩
      · right
        simp only [if_pos h4, if_neg h8, orFail, bind, Except.bind]
        exact ⟨by omega, _, _, rfl, rfl, rfl, rfl, rfl, rfl⟩
    · right
      simp only [if_neg h4, orFail, bind, Except.bind]
      exact ⟨by omega, _, _, rfl, rfl, rfl, rfl, rfl, rfl⟩
  · left
    simp only [readPlayArea, if_neg hflag]
    exact ⟨h, _, rfl, rfl, rfl, rfl, rfl, rfl⟩

theorem readOptionalMatrix_spec (flag : Bool) (message : String)
    {keep : HmdMatrix34_t → ChaperoneSnapshot} (hkeep : ∀ m, Kept s (keep m)) :
    StageSpec bytes s offset (if flag then 48 else 0)
      (readOptionalMatrix bytes flag message keep s offset) := by
  have hs : Kept s s := ⟨rfl, rfl, rfl, rfl, rfl⟩
  by_cases hflag : flag = true
  · simp only [readOptionalMatrix, if_pos hflag, ReadBytes_matrix34]
    by_cases h48 : offset + 48 ≤ bytes.length
    · left
      refine ⟨h48, ?_⟩
      simp only [if_pos h48, orFail, bind, Except.bind]
      exact ⟨_, rfl, hkeep _⟩
    · right
      simp only [if_neg h48, orFail, bind, Except.bind]
      exact ⟨by omega, _, _, rfl, hs⟩
  · left
    simp only [readOptionalMatrix, if_neg hflag]
    exact ⟨h, _, rfl, hs⟩

theorem readStandingZero_spec :
    StageSpec bytes s offset (if s.hasStandingZero then 48 else 0)
      (readStandingZero bytes s offset) := by
  rw [readStandingZero_eq]
  exact readOptionalMatrix_spec s h _ _ fun _ => ⟨rfl, rfl, rfl, rfl, rfl⟩

theorem readSeatedZero_spec :
    StageSpec bytes s offset (if s.hasSeatedZero then 48 else 0)
      (readSeatedZero bytes s offset) := by
  rw [readSeatedZero_eq]
  exact readOptionalMatrix_spec s h _ _ fun _ => ⟨rfl, rfl, rfl, rfl, rfl⟩

/-- A counted array at `offset`: it is kept at the announced length, and the elements are there or
    not. -/
theorem keepElements_spec {α : Type} (p : Pod α) (zero : α)
    (filled : List α → ChaperoneSnapshot) (message : String) (n : ℕ) :
    ∃ as, as.length = n ∧
      keepElements filled message (readElements bytes p zero n offset) =
        if offset + n * p.size ≤ bytes.length then .ok (filled as, offset + n * p.size)
        else .error (.fail (filled as) message) := by
  obtain ⟨as, has, hread⟩ := readElements_spec p zero n offset h
  refine ⟨as, has, ?_⟩
  rw [hread]
  by_cases hfit : offset + n * p.size ≤ bytes.length
  · rw [if_pos hfit, if_pos hfit, keepElements]
  · rw [if_neg hfit, if_neg hfit, keepElements]

omit h in
theorem readPerimeter_eq : readPerimeter bytes s offset =
    if offset + 4 ≤ bytes.length then
      keepElements (fun perimeter => { s with perimeter := perimeter }) "truncated_perimeter"
        (readElements bytes podVector2 .zero (word bytes offset).toNat (offset + 4))
    else .error (.fail s "truncated_perimeter_count") := by
  simp only [readPerimeter, ReadBytes_word]
  by_cases h4 : offset + 4 ≤ bytes.length
  · simp only [if_pos h4, orFail, bind, Except.bind]
  · simp only [if_neg h4, orFail, bind, Except.bind]

omit h in
theorem readCollisionBounds_eq : readCollisionBounds bytes s offset =
    if offset + 4 ≤ bytes.length then
      keepElements (fun quads => { s with collisionBounds := quads }) "truncated_collision_bounds"
        (readElements bytes podQuad .zero (word bytes offset).toNat (offset + 4))
    else .error (.fail s "truncated_collision_count") := by
  simp only [readCollisionBounds, ReadBytes_word]
  by_cases h4 : offset + 4 ≤ bytes.length
  · simp only [if_pos h4, orFail, bind, Except.bind]
  · simp only [if_neg h4, orFail, bind, Except.bind]

theorem readCollisionBounds_yields (hc : s.collisionBounds = []) :
    Yields (s.perimeter.length,
        if bytes.length < offset + 4 then 0 else (word bytes offset).toNat)
      ((readCollisionBounds bytes s offset).map Prod.fst) := by
  rw [readCollisionBounds_eq]
  by_cases h4 : offset + 4 ≤ bytes.length
  · rw [if_pos h4, if_neg (by omega)]
    obtain ⟨quads, hquads, hkeep⟩ := keepElements_spec h4 podQuad .zero
      (fun quads => { s with collisionBounds := quads }) "truncated_collision_bounds"
      (word bytes offset).toNat
    rw [hkeep]
    split_ifs
    · exact ⟨fun e he => (by cases he), rfl, hquads⟩
    · exact ⟨fun e he => (by cases he), rfl, hquads⟩
  · rw [if_neg h4, if_pos (by omega)]
    refine ⟨fun e he => (by cases he), rfl, ?_⟩
    show s.collisionBounds.length = 0
    rw [hc, List.length_nil]

/-- The two arrays behind the optional fields. -/
theorem readArrays_yields (hp : s.perimeter = []) (hc : s.collisionBounds = []) :
    Yields (if bytes.length < offset + 4 then (0, 0)
        else ((word bytes offset).toNat,
          if bytes.length < offset + 4 + (word bytes offset).toNat * kVector2Bytes + 4 then 0
          else (word bytes (offset + 4 + (word bytes offset).toNat * kVector2Bytes)).toNat))
      ((readPerimeter bytes s offset).bind fun r =>
        (readCollisionBounds bytes r.1 r.2).map Prod.fst) := by
  rw [readPerimeter_eq, kVector2Bytes]
  by_cases h4 : offset + 4 ≤ bytes.length
  · rw [if_pos h4, if_neg (by omega)]
    obtain ⟨n, hn⟩ : ∃ n, n = (word bytes offset).toNat := ⟨_, rfl⟩
    rw [← hn]
    obtain ⟨ps, hps, hkeep⟩ := keepElements_spec h4 podVector2 .zero
      (fun perimeter => { s with perimeter := perimeter }) "truncated_perimeter" n
    rw [hkeep]
    by_cases hfit : offset + 4 + n * podVector2.size ≤ bytes.length
    · rw [if_pos hfit]
      have hbehind := readCollisionBounds_yields { s with perimeter := ps } hfit hc
      simp only [hps] at hbehind
      simp only [Except.bind]
      exact hbehind
    · rw [if_neg hfit, if_pos (by omega)]
      refine ⟨fun e he => (by cases he), hps, ?_⟩
      show s.collisionBounds.length = 0
      rw [hc, List.length_nil]
  · rw [if_neg h4, if_pos (by omega)]
    refine ⟨fun e he => (by cases he), ?_, ?_⟩
    · show s.perimeter.length = 0
      rw [hp, List.length_nil]
    · show s.collisionBounds.length = 0
      rw [hc, List.length_nil]

end

theorem yields_fail {s : ChaperoneSnapshot} {m : String} (hp : s.perimeter = [])
    (hc : s.collisionBounds = []) : Yields (0, 0) (.error (.fail s m)) := by
  refine ⟨fun e he => (by cases he), ?_, ?_⟩
  · show s.perimeter.length = 0
    rw [hp, List.length_nil]
  · show s.collisionBounds.length = 0
    rw [hc, List.length_nil]

theorem deserializeV2_eq (bytes : List UInt8) : deserializeV2 bytes =
    if bytes.length < 12 then .error (.fail {} "truncated_v2_header")
    else if word bytes 4 ≠ kSnapshotVersion then .error (.fail {} "unsupported_version")
    else deserializeSections bytes (word bytes 8) 12 := by
  simp only [deserializeV2, ReadBytes_word]
  by_cases h12 : bytes.length < 12
  · rw [if_pos h12]
    by_cases h8 : 4 + 4 ≤ bytes.length
    · have hno : ¬4 + 4 + 4 ≤ bytes.length := by omega
      simp only [if_pos h8, if_neg hno, orFail, bind, Except.bind]
    · simp only [if_neg h8, orFail, bind, Except.bind]
  · have h8 : 4 + 4 ≤ bytes.length := by omega
    have h12' : 4 + 4 + 4 ≤ bytes.length := by omega
    simp only [if_pos h8, if_pos h12', if_neg h12, orFail, bind, Except.bind, Nat.reduceAdd]

/-- The optional fields are read up to `sectionsEnd`, or the function returns false before it has
    sized a vector. -/
theorem deserializeSections_cases {bytes : List UInt8} (flags : UInt32) (h : 12 ≤ bytes.length) :
    (sectionsEnd flags ≤ bytes.length ∧ ∃ t, Kept (flaggedSnapshot flags) t ∧
      deserializeSections bytes flags 12 = (readPerimeter bytes t (sectionsEnd flags)).bind fun r =>
        (readCollisionBounds bytes r.1 r.2).map Prod.fst) ∨
    (bytes.length < sectionsEnd flags ∧ ∃ t m, Kept (flaggedSnapshot flags) t ∧
      deserializeSections bytes flags 12 = .error (.fail t m)) := by
  simp only [sectionsEnd]
  rcases readPlayArea_spec (flaggedSnapshot flags) h with
    ⟨hfit, t, hread, hkept⟩ | ⟨hlt, t, m, hread, hkept⟩
  swap
  · right
    refine ⟨by omega, t, m, hkept, ?_⟩
    simp only [deserializeSections, hread, bind, Except.bind]
  rcases readStandingZero_spec t hfit with
    ⟨hfit2, t2, hread2, hkept2⟩ | ⟨hlt, t2, m, hread2, hkept2⟩
  swap
  · right
    rw [hkept.hasStandingZero] at hlt
    refine ⟨by omega, t2, m, hkept.trans hkept2, ?_⟩
    simp only [deserializeSections, hread, hread2, bind, Except.bind]
  have hkept' := hkept.trans hkept2
  rw [hkept.hasStandingZero] at hfit2 hread2
  rcases readSeatedZero_spec t2 hfit2 with
    ⟨hfit3, t3, hread3, hkept3⟩ | ⟨hlt, t3, m, hread3, hkept3⟩
  · left
    rw [hkept'.hasSeatedZero] at hfit3 hread3
    refine ⟨hfit3, t3, hkept'.trans hkept3, ?_⟩
    simp only [deserializeSections, hread, hread2, hread3, bind, Except.bind]
    rfl
  · right
    rw [hkept'.hasSeatedZero] at hlt
    refine ⟨hlt, t3, m, hkept'.trans hkept3, ?_⟩
    simp only [deserializeSections, hread, hread2, hread3, bind, Except.bind]

/-- What a blob of the current version leaves behind, whatever follows its magic number. -/
theorem deserializeV2_yields (bytes : List UInt8) :
    Yields (announcedCounts bytes) (deserializeV2 bytes) := by
  rw [deserializeV2_eq, announcedCounts]
  by_cases h12 : bytes.length < 12
  · rw [if_pos h12, if_pos (Or.inl h12)]
    exact yields_fail rfl rfl
  by_cases hversion : word bytes 4 ≠ kSnapshotVersion
  · rw [if_neg h12, if_pos hversion, if_pos (Or.inr hversion)]
    exact yields_fail rfl rfl
  rw [if_neg h12, if_neg hversion, if_neg (not_or.2 ⟨h12, hversion⟩)]
  rcases deserializeSections_cases (word bytes 8) (not_lt.1 h12) with
    ⟨hfit, t, hkept, hrest⟩ | ⟨hlt, t, m, hkept, hfail⟩
  · rw [hrest]
    exact readArrays_yields t hfit hkept.perimeter hkept.collisionBounds
  · rw [hfail, if_pos (by omega)]
    exact yields_fail hkept.perimeter hkept.collisionBounds

theorem deserializeLegacy_eq {bytes : List UInt8} {count : UInt32} (h0 : count ≠ 0)
    (hfit : 4 + count.toNat * kQuadBytes ≤ bytes.length) :
    ∃ s, deserializeLegacy bytes count = .ok s ∧ s.legacyCollisionBoundsOnly = true ∧
      s.perimeter.length = count.toNat ∧ s.collisionBounds.length = count.toNat := by
  rw [deserializeLegacy, if_neg h0, if_neg (not_lt.2 hfit), load_ok hfit]
  refine ⟨_, rfl, rfl, ?_, ?_⟩
  · show (List.map _ (List.map _ (List.range count.toNat))).length = count.toNat
    rw [List.length_map, List.length_map, List.length_range]
  · show (List.map _ (List.range count.toNat)).length = count.toNat
    rw [List.length_map, List.length_range]

theorem deserializeLegacy_fail {bytes : List UInt8} {count : UInt32}
    (h : count = 0 ∨ bytes.length < 4 + count.toNat * kQuadBytes) :
    ∃ m, deserializeLegacy bytes count = .error (.fail {} m) := by
  rw [deserializeLegacy]
  by_cases h0 : count = 0
  · rw [if_pos h0]
    exact ⟨_, rfl⟩
  · rw [if_neg h0, if_pos (h.resolve_left h0)]
    exact ⟨_, rfl⟩

/-- The words at the front of a blob decide how it is read. -/
theorem DeserializeChaperoneSnapshot_eq (bytes : List UInt8) :
    DeserializeChaperoneSnapshot bytes =
      if bytes.isEmpty then .error (.fail {} "empty")
      else if bytes.length < 4 then .error (.fail {} "truncated_header")
      else if word bytes 0 ≠ kSnapshotMagic then deserializeLegacy bytes (word bytes 0)
      else deserializeV2 bytes := by
  simp only [DeserializeChaperoneSnapshot, ReadBytes_word]
  by_cases h4 : 0 + 4 ≤ bytes.length
  · have hlt : ¬bytes.length < 4 := by omega
    simp only [if_pos h4, if_neg hlt, orFail, bind, Except.bind]
  · have hlt : bytes.length < 4 := by omega
    simp only [if_neg h4, if_pos hlt, orFail, bind, Except.bind]

/-! ## Every byte string -/

/-- A blob whose first word is not the magic number. -/
def IsLegacyBlob (bytes : List UInt8) : Prop := 4 ≤ bytes.length ∧ word bytes 0 ≠ kSnapshotMagic

/-- It announces at least one quad and holds as many as it announces. -/
def HoldsAnnouncedQuads (bytes : List UInt8) : Prop :=
  word bytes 0 ≠ 0 ∧ 4 + (word bytes 0).toNat * kQuadBytes ≤ bytes.length

def succeeds (r : Except Stop ChaperoneSnapshot) : Prop := ∃ s, r = .ok s

/-- As many elements as so many bytes can encode. -/
def VectorsEncodable (bytes : List UInt8) (s : ChaperoneSnapshot) : Prop :=
  s.perimeter.length * kVector2Bytes ≤ bytes.length ∧
    s.collisionBounds.length * kQuadBytes ≤ bytes.length

/-- A blob of the current version announces no more elements than so many bytes can encode. -/
def CountsEncodable (bytes : List UInt8) : Prop :=
  4 ≤ bytes.length → word bytes 0 = kSnapshotMagic →
    (announcedCounts bytes).1 * kVector2Bytes ≤ bytes.length ∧
      (announcedCounts bytes).2 * kQuadBytes ≤ bytes.length

/-- No read leaves the bytes, legacy blobs are accepted as they should be, and no vector is longer
    than the bytes can encode. -/
structure ReadsSafely (bytes : List UInt8) : Prop where
  inside : ∀ e, DeserializeChaperoneSnapshot bytes ≠ .error (.fault e)
  legacy : IsLegacyBlob bytes →
    (succeeds (DeserializeChaperoneSnapshot bytes) ↔ HoldsAnnouncedQuads bytes)
  vectors : VectorsEncodable bytes (produced (DeserializeChaperoneSnapshot bytes))

theorem deserialize_legacy {bytes : List UInt8} (h : IsLegacyBlob bytes) :
    DeserializeChaperoneSnapshot bytes = deserializeLegacy bytes (word bytes 0) := by
  have hne : bytes.isEmpty = false := by
    cases bytes with
    | nil => exact absurd h.1 (by decide)
    | cons b bytes => rfl
  rw [DeserializeChaperoneSnapshot_eq, hne, if_neg Bool.false_ne_true,
    if_neg (not_lt.2 h.1), if_pos h.2]

theorem deserialize_v2 {bytes : List UInt8} (h : 4 ≤ bytes.length)
    (hmagic : word bytes 0 = kSnapshotMagic) :
    DeserializeChaperoneSnapshot bytes = deserializeV2 bytes := by
  have hne : bytes.isEmpty = false := by
    cases bytes with
    | nil => exact absurd h (by decide)
    | cons b bytes => rfl
  rw [DeserializeChaperoneSnapshot_eq, hne, if_neg Bool.false_ne_true,
    if_neg (not_lt.2 h), if_neg (not_not.2 hmagic)]

theorem deserialize_short {bytes : List UInt8} (h : bytes.length < 4) :
    ∃ m, DeserializeChaperoneSnapshot bytes = .error (.fail {} m) := by
  rw [DeserializeChaperoneSnapshot_eq, if_pos h]
  split_ifs
  · exact ⟨_, rfl⟩
  · exact ⟨_, rfl⟩

/-- A legacy blob is read safely whatever it announces. -/
theorem readsSafely_legacy {bytes : List UInt8} (h : IsLegacyBlob bytes) : ReadsSafely bytes := by
  by_cases hq : HoldsAnnouncedQuads bytes
  · obtain ⟨s, hs, -, hp, hc⟩ := deserializeLegacy_eq hq.1 hq.2
    rw [← deserialize_legacy h] at hs
    refine ⟨fun e he => ?_, fun _ => iff_of_true ⟨s, hs⟩ hq, ?_⟩
    · rw [hs] at he
      cases he
    · have hfit := hq.2
      rw [hs]
      show s.perimeter.length * 8 ≤ bytes.length ∧ s.collisionBounds.length * 48 ≤ bytes.length
      rw [hp, hc]
      simp only [kQuadBytes, podQuad_size] at hfit
      omega
  · have hno : word bytes 0 = 0 ∨ bytes.length < 4 + (word bytes 0).toNat * kQuadBytes := by
      rw [HoldsAnnouncedQuads, not_and_or, not_not, not_le] at hq
      exact hq
    obtain ⟨m, hm⟩ := deserializeLegacy_fail hno
    rw [← deserialize_legacy h] at hm
    refine ⟨fun e he => ?_, fun _ => iff_of_false ?_ hq, ?_⟩
    · rw [hm] at he
      cases he
    · rintro ⟨s, hs⟩
      rw [hm] at hs
      cases hs
    · rw [hm]
      exact ⟨Nat.zero_le _, Nat.zero_le _⟩

/-- **Arbitrary bytes are read safely** exactly when no count of a blob of the current version
    announces more than the bytes can encode. -/
theorem readsSafely_iff (bytes : List UInt8) : ReadsSafely bytes ↔ CountsEncodable bytes := by
  by_cases h4 : 4 ≤ bytes.length
  swap
  · obtain ⟨m, hm⟩ := deserialize_short (not_le.1 h4)
    refine iff_of_true ⟨fun e he => ?_, fun h => absurd h.1 h4, ?_⟩ fun h => absurd h h4
    · rw [hm] at he
      cases he
    · rw [hm]
      exact ⟨Nat.zero_le _, Nat.zero_le _⟩
  by_cases hmagic : word bytes 0 = kSnapshotMagic
  swap
  · exact iff_of_true (readsSafely_legacy ⟨h4, hmagic⟩) fun _ h => absurd h hmagic
  have hyields := deserializeV2_yields bytes
  rw [← deserialize_v2 h4 hmagic] at hyields
  constructor
  · intro h _ _
    rw [← hyields.perimeter, ← hyields.collisionBounds]
    exact h.vectors
  · intro h
    refine ⟨hyields.inside, fun hl => absurd hmagic hl.2, ?_⟩
    rw [VectorsEncodable, hyields.perimeter, hyields.collisionBounds]
    exact h h4 hmagic

/-- **The snapshot codec**: every current snapshot survives the round trip up to values that no
    flag announces, and bytes are read safely exactly when their counts are encodable. -/
theorem chaperoneSnapshot_codec (s : CurrentSnapshot) (bytes : List UInt8) :
    DeserializeChaperoneSnapshot (SerializeChaperoneSnapshot s.snapshot) =
        .ok s.snapshot.flaggedOnly ∧
      (ReadsSafely bytes ↔ CountsEncodable bytes) :=
  ⟨DeserializeChaperoneSnapshot_serialize s, readsSafely_iff bytes⟩

/-- Sixteen bytes that announce a hundred points. -/
def hostileBlob : List UInt8 :=
  List.flatten [Write32LE kSnapshotMagic, Write32LE kSnapshotVersion, Write32LE 0, Write32LE 100]

theorem hostileBlob_oversized :
    (produced (DeserializeChaperoneSnapshot hostileBlob)).perimeter.length = 100 ∧
      ¬ReadsSafely hostileBlob := by
  have hlen : (produced (DeserializeChaperoneSnapshot hostileBlob)).perimeter.length = 100 := by
    decide +kernel
  refine ⟨hlen, fun h => ?_⟩
  have hvectors := h.vectors.1
  rw [hlen] at hvectors
  exact absurd hvectors (by decide)

end WKPairDriver.Boundary
