import Mathlib

/-!
# Reading CBOR

The head of a data item: the major type in the upper three bits of the first byte, the argument in
the lower five or in the bytes behind it, most significant first.

* `readHead`, `readTextString` — a head, a text string; `none` is data that is not well formed.
* `textString` — a text string of fewer than 256 bytes.
* `readTextString_textString` — it is read back, whatever stands behind it.
-/

set_option autoImplicit false

namespace Lib.Cbor

/-- An unsigned number, most significant byte first. -/
def ofBytes (bytes : List UInt8) : ℕ := bytes.foldl (fun n b => 256 * n + b.toNat) 0

/-- A head; no argument is an indefinite length. -/
structure Head where
  majorType : ℕ
  argument : Option ℕ
  deriving DecidableEq

/-- The number of argument bytes behind the first, by its lower five bits. -/
def argumentBytes : ℕ → Option ℕ
  | 24 => some 1
  | 25 => some 2
  | 26 => some 4
  | 27 => some 8
  | _ => none

def readHead : List UInt8 → Option (Head × List UInt8)
  | [] => none
  | first :: data =>
    let majorType := first.toNat / 32
    let info := first.toNat % 32
    if info < 24 then some (⟨majorType, some info⟩, data)
    else if info = 31 then some (⟨majorType, none⟩, data)
    else do
      let n ← argumentBytes info
      if n ≤ data.length then some (⟨majorType, some (ofBytes (data.take n))⟩, data.drop n) else none

/-- The chunks of a text string of indefinite length. -/
def readChunks : ℕ → List UInt8 → Option (List UInt8 × List UInt8)
  | 0, _ => none
  | fuel + 1, data =>
    match readHead data with
    | some (⟨7, none⟩, data) => some ([], data)
    | some (⟨3, some n⟩, data) =>
      if n ≤ data.length then
        (readChunks fuel (data.drop n)).map fun later => (data.take n ++ later.1, later.2)
      else none
    | _ => none

/-- The bytes of a text string, and the data behind it. -/
def readTextString (data : List UInt8) : Option (List UInt8 × List UInt8) :=
  match readHead data with
  | some (⟨3, some n⟩, data) => if n ≤ data.length then some (data.take n, data.drop n) else none
  | some (⟨3, none⟩, data) => readChunks (data.length + 1) data
  | _ => none

/-- The start of a map: the number of pairs, or `none` for an indefinite one. -/
def readStartMap (data : List UInt8) : Option (Option ℕ × List UInt8) :=
  match readHead data with
  | some (⟨5, pairs⟩, data) => some (pairs, data)
  | _ => none

/-- A text string of fewer than 256 bytes. -/
def textString (s : List UInt8) : List UInt8 :=
  if s.length < 24 then UInt8.ofNat (0x60 + s.length) :: s
  else 0x78 :: UInt8.ofNat s.length :: s

theorem readHead_short {majorType info : ℕ} (hmajor : majorType < 8) (hinfo : info < 24)
    (data : List UInt8) :
    readHead (UInt8.ofNat (32 * majorType + info) :: data) = some (⟨majorType, some info⟩, data) := by
  have hfirst : (UInt8.ofNat (32 * majorType + info)).toNat = 32 * majorType + info := by
    rw [UInt8.toNat_ofNat']
    omega
  have hmajorType : (32 * majorType + info) / 32 = majorType := by omega
  have hlow : (32 * majorType + info) % 32 = info := by omega
  simp only [readHead, hfirst, hmajorType, hlow, if_pos hinfo]

theorem readHead_byte {majorType : ℕ} (hmajor : majorType < 8) (b : UInt8) (data : List UInt8) :
    readHead (UInt8.ofNat (32 * majorType + 24) :: b :: data) =
      some (⟨majorType, some b.toNat⟩, data) := by
  have hfirst : (UInt8.ofNat (32 * majorType + 24)).toNat = 32 * majorType + 24 := by
    rw [UInt8.toNat_ofNat']
    omega
  have hmajorType : (32 * majorType + 24) / 32 = majorType := by omega
  have hlow : (32 * majorType + 24) % 32 = 24 := by omega
  simp only [readHead, hfirst, hmajorType, hlow]
  rw [if_neg (by decide), if_neg (by decide)]
  simp [argumentBytes, ofBytes]

/-- **A text string is read back**, whatever stands behind it. -/
theorem readTextString_textString {s : List UInt8} (h : s.length < 256) (rest : List UInt8) :
    readTextString (textString s ++ rest) = some (s, rest) := by
  have hlen : s.length ≤ (s ++ rest).length := by
    rw [List.length_append]
    exact Nat.le_add_right _ _
  rw [textString]
  split
  next hshort =>
    have hhead := readHead_short (show 3 < 8 by decide) hshort (s ++ rest)
    rw [List.cons_append, readTextString, hhead]
    simp only [if_pos hlen, List.take_left, List.drop_left]
  next =>
    have hhead := readHead_byte (show 3 < 8 by decide) (UInt8.ofNat s.length) (s ++ rest)
    have hbyte : (UInt8.ofNat s.length).toNat = s.length := by
      rw [UInt8.toNat_ofNat']
      omega
    rw [hbyte] at hhead
    have hcons : (0x78 :: UInt8.ofNat s.length :: s) ++ rest =
        UInt8.ofNat (32 * 3 + 24) :: UInt8.ofNat s.length :: (s ++ rest) := rfl
    rw [hcons, readTextString, hhead]
    simp only [if_pos hlen, List.take_left, List.drop_left]

theorem textString_length (s : List UInt8) : (textString s).length ≤ s.length + 2 := by
  rw [textString]
  split <;> simp

end Lib.Cbor
