import Mathlib
import WKPairDriver.Lib.Bytes
import WKPairDriver.Lib.Slice
import WKPairDriver.Osc.Wire

/-!
# Reading OSC packets: `OscReader`, `OscParseMessage`

A reader over `[data, data + size)`.  A field that does not fit makes it invalid, and every later
read fails.  Each access to the data is checked, so that a result `.ok` says that no byte outside
of it was read.

* `Inside` — a reader that has the bytes it says, at a position among them.
* `readStr_ok`, `readInt32_ok`, `readBlob_ok`, `oscParseMessage_ok` — no read leaves the data.
* `readStr_of_eq`, `readInt32_of_eq`, `readBlob_of_eq` — what is read where the data is known.
-/

set_option autoImplicit false

namespace WKPairDriver.Osc

open Lib.Bytes Lib.Slice

structure OscReader where
  data : List UInt8
  size : ℕ
  pos : ℕ
  valid : Bool

namespace OscReader

def new (data : List UInt8) (size : ℕ) : OscReader := ⟨data, size, 0, decide (size > 0)⟩

variable (r : OscReader)

def invalid : OscReader := { r with valid := false }

def advance (n : ℕ) : OscReader := { r with pos := r.pos + n }

def atEnd : Bool := decide (r.pos ≥ r.size)

def remaining : ℕ := r.size - r.pos

/-- `ReadStr`: the C string at the pointer it returns. -/
def readStr : Except Fault (OscReader × Option (List UInt8)) :=
  if !r.valid then .ok (r, none)
  else
    match strnlen r.data r.pos r.remaining with
    | .error e => .error e
    | .ok len =>
      if len = r.remaining then .ok (r.invalid, none)
      else if r.pos + oscPad4 (len + 1) > r.size then .ok (r.invalid, none)
      else .ok (r.advance (oscPad4 (len + 1)), some (cstr (r.data.drop r.pos)))

def readBytes (n : ℕ) : Except Fault (OscReader × Option (List UInt8)) :=
  if !r.valid then .ok (r, none)
  else if r.pos + n > r.size then .ok (r.invalid, none)
  else
    match load r.data r.pos n with
    | .error e => .error e
    | .ok b => .ok (r.advance n, some b)

/-- `ReadInt32`: 0 where it fails. -/
def readInt32 : Except Fault (OscReader × BitVec 32) :=
  match r.readBytes 4 with
  | .error e => .error e
  | .ok (r, none) => .ok (r, 0)
  | .ok (r, some b) => .ok (r, BitVec.ofNat 32 (ofBe32 b))

/-- `ReadFloat`: the bits of the float. -/
def readFloat : Except Fault (OscReader × BitVec 32) := r.readInt32

/-- `ReadBlob`: the bytes at the pointer it returns, as many as `len_out` says. -/
def readBlob : Except Fault (OscReader × Option (List UInt8)) :=
  match r.readInt32 with
  | .error e => .error e
  | .ok (r, raw) =>
    if !r.valid || raw.toInt < 0 then .ok (r.invalid, none)
    else
      let len := raw.toNat
      if r.pos + len > r.size then .ok (r.invalid, none)
      else
        let ptr := (r.data.drop r.pos).take len
        let r := r.advance (oscPad4 len)
        if r.pos > r.size then .ok (r.invalid, none) else .ok (r, some ptr)

end OscReader

/-- `OscMessage`; pointers are the strings and bytes they point to. -/
structure OscMessage where
  address : Option (List UInt8)
  typetag : Option (List UInt8)
  arg_data : List UInt8
  arg_size : ℕ
  valid : Bool

def oscParseMessage (data : List UInt8) (size : ℕ) : Except Fault OscMessage :=
  match (OscReader.new data size).readStr with
  | .error e => .error e
  | .ok (r, address) =>
    match r.readStr with
    | .error e => .error e
    | .ok (r, typetag) =>
      if !r.valid || address.isNone || typetag.isNone then .ok ⟨address, typetag, [], 0, false⟩
      else .ok ⟨address, typetag, (data.drop r.pos).take r.remaining, r.remaining, true⟩

/-! ## No read leaves the data -/

/-- The reader has the bytes it says, and stands among them while it is valid. -/
structure OscReader.Inside (r : OscReader) : Prop where
  size : r.data.length = r.size
  pos : r.valid = true → r.pos ≤ r.size

namespace OscReader

variable {r : OscReader}

theorem inside_new (data : List UInt8) : (new data data.length).Inside :=
  ⟨rfl, fun _ => Nat.zero_le _⟩

theorem Inside.invalid (h : r.Inside) : r.invalid.Inside :=
  ⟨h.size, fun hv => by cases hv⟩

theorem Inside.advance (h : r.Inside) {n : ℕ} (hn : r.pos + n ≤ r.size) : (r.advance n).Inside :=
  ⟨h.size, fun _ => hn⟩

theorem readStr_ok (h : r.Inside) :
    ∃ r' str, r.readStr = .ok (r', str) ∧ r'.Inside ∧ r'.data = r.data ∧ r'.size = r.size := by
  unfold readStr
  split
  · exact ⟨r, none, rfl, h, rfl, rfl⟩
  · rename_i hv
    have hpos := h.pos (by simpa using hv)
    rw [strnlen_ok (by rw [h.size, remaining]; omega)]
    dsimp only
    split
    · exact ⟨_, _, rfl, h.invalid, rfl, rfl⟩
    · split
      · exact ⟨_, _, rfl, h.invalid, rfl, rfl⟩
      · rename_i hfits
        exact ⟨_, _, rfl, h.advance (not_lt.1 hfits), rfl, rfl⟩

theorem readBytes_ok (h : r.Inside) (n : ℕ) :
    ∃ r' b, r.readBytes n = .ok (r', b) ∧ r'.Inside := by
  unfold readBytes
  split
  · exact ⟨_, _, rfl, h⟩
  · split
    · exact ⟨_, _, rfl, h.invalid⟩
    · rename_i hfits
      have hle := not_lt.1 hfits
      rw [load_ok (by rwa [h.size])]
      exact ⟨_, _, rfl, h.advance hle⟩

theorem readInt32_ok (h : r.Inside) : ∃ r' v, r.readInt32 = .ok (r', v) ∧ r'.Inside := by
  obtain ⟨r', b, hread, hr'⟩ := readBytes_ok h 4
  rw [readInt32, hread]
  cases b with
  | none => exact ⟨_, _, rfl, hr'⟩
  | some b => exact ⟨_, _, rfl, hr'⟩

theorem readBlob_ok (h : r.Inside) : ∃ r' b, r.readBlob = .ok (r', b) ∧ r'.Inside := by
  obtain ⟨r', raw, hread, hr'⟩ := readInt32_ok h
  rw [readBlob, hread]
  dsimp only
  split
  · exact ⟨_, _, rfl, hr'.invalid⟩
  · split
    · exact ⟨_, _, rfl, hr'.invalid⟩
    · split
      · exact ⟨_, _, rfl, hr'.size, fun hv => by cases hv⟩
      · rename_i hfits
        exact ⟨_, _, rfl, hr'.advance (not_lt.1 hfits)⟩

end OscReader

open OscReader in
/-- **Parsing a message reads its bytes only.** -/
theorem oscParseMessage_ok (data : List UInt8) :
    ∃ msg, oscParseMessage data data.length = .ok msg := by
  obtain ⟨r, address, hread, hr, -, -⟩ := readStr_ok (inside_new data)
  obtain ⟨r', typetag, hread', hr', -, -⟩ := readStr_ok hr
  unfold oscParseMessage
  rw [hread]
  dsimp only
  rw [hread']
  dsimp only
  split <;> exact ⟨_, rfl⟩

/-! ## What is read where the data is known -/

theorem oscPad4_of_lt {n : ℕ} (h : n + 3 < 2 ^ 32) : oscPad4 n = (n + 3) / 4 * 4 := by
  rw [oscPad4, Nat.mod_eq_of_lt h]

namespace OscReader

/-- A valid reader behind `before`, with `rest` ahead of it. -/
structure At (r : OscReader) (before rest : List UInt8) : Prop where
  data : r.data = before ++ rest
  size : r.size = r.data.length
  pos : r.pos = before.length
  valid : r.valid = true

variable {r : OscReader} {before rest : List UInt8}

theorem at_new {data : List UInt8} (h : data ≠ []) : (new data data.length).At [] data :=
  ⟨rfl, rfl, rfl, decide_eq_true (List.length_pos_iff.2 h)⟩

theorem At.remaining (h : r.At before rest) : r.remaining = rest.length := by
  rw [OscReader.remaining, h.size, h.pos, h.data, List.length_append]
  omega

theorem At.atEnd (h : r.At before []) : r.atEnd = true := by
  simp [OscReader.atEnd, h.size, h.pos, h.data]

/-- The reader moves over a field. -/
theorem At.advance {field : List UInt8} (h : r.At before (field ++ rest)) :
    (r.advance field.length).At (before ++ field) rest :=
  ⟨by rw [List.append_assoc]; exact h.data, h.size,
    by rw [List.length_append]; exact congrArg (· + field.length) h.pos, h.valid⟩

/-- A string whose bytes and NUL are ahead is returned, if there is room for its padding. -/
theorem readStr_text {s : List UInt8} (h : r.At before (s ++ 0 :: rest)) (hs : 0 ∉ s)
    (hfits : oscPad4 (s.length + 1) ≤ (s ++ 0 :: rest).length) :
    r.readStr = .ok (r.advance (oscPad4 (s.length + 1)), some s) := by
  have hlen : r.pos + oscPad4 (s.length + 1) ≤ r.size := by
    rw [h.size, h.pos, h.data, List.length_append]
    omega
  have hlt : s.length < r.remaining := by
    rw [h.remaining]
    simp
  have hscan : strnlen r.data r.pos r.remaining = .ok s.length := by
    apply strnlen_of_eq h.data hs h.pos _ hlt
    rw [h.remaining, h.pos, h.data, ← List.length_append]
  have hstr : cstr (r.data.drop r.pos) = s := by
    rw [h.data, h.pos, List.drop_left]
    apply cstr_append hs
    simp
  rw [readStr, h.valid, hscan]
  simp only [Bool.not_true, Bool.false_eq_true, if_false, if_neg hlt.ne, if_neg (not_lt.2 hlen), hstr]

theorem readStr_of_eq {s pad : List UInt8} (h : r.At before (s ++ 0 :: pad ++ rest)) (hs : 0 ∉ s)
    (hpad : (s ++ 0 :: pad).length = oscPad4 (s.length + 1)) :
    ∃ r', r.readStr = .ok (r', some s) ∧ r'.At (before ++ (s ++ 0 :: pad)) rest := by
  refine ⟨r.advance (oscPad4 (s.length + 1)), ?_, hpad ▸ h.advance⟩
  rw [List.append_assoc, List.cons_append] at h
  apply readStr_text h hs
  rw [← hpad]
  simp

theorem readBytes_of_eq {field : List UInt8} (h : r.At before (field ++ rest)) :
    ∃ r', r.readBytes field.length = .ok (r', some field) ∧ r'.At (before ++ field) rest := by
  have hlen : r.pos + field.length ≤ r.size := by
    rw [h.size, h.pos, h.data]
    simp
  refine ⟨r.advance field.length, ?_, h.advance⟩
  rw [readBytes, load_of_eq h.data h.pos rfl]
  simp only [h.valid, Bool.not_true, Bool.false_eq_true, if_false, if_neg (not_lt.2 hlen)]

theorem readInt32_of_eq {v : BitVec 32} (h : r.At before (be32 v.toNat ++ rest)) :
    ∃ r', r.readInt32 = .ok (r', v) ∧ r'.At (before ++ be32 v.toNat) rest := by
  obtain ⟨r', hread, hr'⟩ := readBytes_of_eq h
  rw [be32_length] at hread
  refine ⟨r', ?_, hr'⟩
  rw [readInt32, hread]
  simp only [ofBe32_be32 v.isLt, BitVec.ofNat_toNat, BitVec.setWidth_eq]

theorem readBlob_of_eq {b pad : List UInt8}
    (h : r.At before (be32 b.length ++ (b ++ pad) ++ rest)) (hb : b.length < 2 ^ 31)
    (hpad : (b ++ pad).length = oscPad4 b.length) :
    ∃ r', r.readBlob = .ok (r', some b) ∧ r'.At (before ++ (be32 b.length ++ (b ++ pad))) rest := by
  have htoNat : (BitVec.ofNat 32 b.length).toNat = b.length := by
    rw [BitVec.toNat_ofNat, Nat.mod_eq_of_lt (by omega)]
  have hraw : ¬ (BitVec.ofNat 32 b.length).toInt < 0 := by
    rw [BitVec.toInt_eq_toNat_cond, htoNat]
    split <;> omega
  rw [List.append_assoc, ← htoNat] at h
  obtain ⟨r', hread, hr'⟩ := readInt32_of_eq h
  rw [htoNat] at hr'
  have hlen : r'.pos + oscPad4 b.length ≤ r'.size := by
    rw [hr'.size, hr'.pos, hr'.data, ← hpad]
    simp
    omega
  have hptr : (r'.data.drop r'.pos).take b.length = b := by
    rw [hr'.data, hr'.pos, List.drop_left, List.append_assoc, List.take_left]
  refine ⟨r'.advance (oscPad4 b.length), ?_, ?_⟩
  · have hle : b.length ≤ oscPad4 b.length := by
      rw [← hpad, List.length_append]
      omega
    rw [readBlob, hread]
    simp only [hr'.valid, hraw, htoNat, hptr]
    simp [show ¬ r'.pos + b.length > r'.size by omega, OscReader.advance,
      show ¬ r'.pos + oscPad4 b.length > r'.size by omega]
  · rw [← hpad, ← List.append_assoc]
    exact hr'.advance

end OscReader

end WKPairDriver.Osc
