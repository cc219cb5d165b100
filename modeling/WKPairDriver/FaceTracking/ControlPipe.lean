import Mathlib
import WKPairDriver.Lib.Bytes
import WKPairDriver.Lib.Cbor
import WKPairDriver.Lib.Utf8

/-!
# The control pipe of the face module host

The driver tells the host which module to run: a message is its length and a CBOR map.

* `EncodeSelectModule` — the driver's encoder.
* `HandleConnection` — the host's loop over the messages of a connection.
* `select_delivered` — the host selects the modules the driver sent, each once and in that order, and
  nothing for a message that a lost connection cut off.
-/

set_option autoImplicit false

namespace WKPairDriver.FaceTracking.ControlPipe

open Lib.Bytes Lib.Cbor Lib.Utf8

/-! ## The driver -/

def CborAppendTextString (out s : List UInt8) : List UInt8 :=
  if s.length < 24 then out ++ [0x60 ||| UInt8.ofNat s.length] ++ s
  else out ++ [0x78] ++ [UInt8.ofNat (s.length % 256)] ++ s

/-- The map of `EncodeSelectModule`. -/
def selectModuleBody (uuid : List UInt8) : List UInt8 :=
  let body : List UInt8 := [0xA2]
  let body := CborAppendTextString body (ascii "type")
  let body := CborAppendTextString body (ascii "SelectModule")
  let body := CborAppendTextString body (ascii "uuid")
  CborAppendTextString body uuid

def EncodeSelectModule (uuid : List UInt8) : List UInt8 :=
  le32 (selectModuleBody uuid).length ++ selectModuleBody uuid

/-! ## The host -/

/-- What the model does not know of the reader: the text of bytes that are no UTF-8, and how
    `SkipValue` steps over a value. -/
structure Reader where
  replaced : List UInt8 → List Char
  SkipValue : List UInt8 → Option (List UInt8)

def Reader.text (C : Reader) (bytes : List UInt8) : List Char :=
  match bytes.toByteArray.utf8Decode? with
  | some cs => cs.toList
  | none => C.replaced bytes

/-- `ReadTextString`; `none` is an exception. -/
def Reader.ReadTextString (C : Reader) (data : List UInt8) : Option (List Char × List UInt8) :=
  (readTextString data).map fun read => (C.text read.1, read.2)

structure Message where
  msgType : Option (List Char)
  uuid : Option (List Char)

/-- The loop over the pairs of a map; `remaining` is the number of pairs to come, `none` in a map of
    indefinite length. -/
def readPairs (C : Reader) : ℕ → Option ℕ → Message → List UInt8 → Option Message
  | 0, _, _, _ => none
  | fuel + 1, remaining, message, data =>
    if remaining = some 0 ∨ (remaining = none ∧ data.head? = some 0xFF) then some message
    else do
      let (key, data) ← C.ReadTextString data
      let remaining := remaining.map (· - 1)
      if key = "type".toList then
        let (msgType, data) ← C.ReadTextString data
        readPairs C fuel remaining { message with msgType := some msgType } data
      else if key = "uuid".toList then
        let (uuid, data) ← C.ReadTextString data
        readPairs C fuel remaining { message with uuid := some uuid } data
      else
        let data ← C.SkipValue data
        readPairs C fuel remaining message data

/-- What a message makes the host do. -/
inductive Command where
  | SelectActive (uuid : List Char)
  | Shutdown
  deriving DecidableEq

/-- `DispatchMessage`; an exception is logged by the caller, and the connection goes on. -/
def DispatchMessage (C : Reader) (data : List UInt8) : List Command :=
  match readStartMap data with
  | none => []
  | some (pairs, data) =>
    match readPairs C (data.length + 1) pairs ⟨none, none⟩ data with
    | none => []
    | some ⟨msgType, uuid⟩ =>
      if msgType = some "SelectModule".toList ∧ uuid.isSome = true then
        (uuid.map Command.SelectActive).toList
      else if msgType = some "Shutdown".toList then [.Shutdown]
      else []

/-- `HandleConnectionAsync` on the bytes of a connection. -/
def messages (C : Reader) : ℕ → List UInt8 → List Command
  | 0, _ => []
  | fuel + 1, data =>
    if data.length < 4 then []
    else
      let msgLen := ofLe32 (data.take 4)
      if msgLen = 0 ∨ msgLen > 65536 then []
      else if (data.drop 4).length < msgLen then []
      else
        let commands := DispatchMessage C ((data.drop 4).take msgLen)
        if .Shutdown ∈ commands then commands
        else commands ++ messages C fuel ((data.drop 4).drop msgLen)

/-- Every message takes bytes, so the length bounds their number. -/
def HandleConnection (C : Reader) (data : List UInt8) : List Command :=
  messages C (data.length + 1) data

/-! ## One message -/

variable {C : Reader}

theorem text_encode (cs : List Char) : C.text (encode cs) = cs := by
  rw [Reader.text, ← utf8Encode_eq, List.utf8Decode?_utf8Encode]

theorem CborAppendTextString_eq (out : List UInt8) {s : List UInt8} (h : s.length < 256) :
    CborAppendTextString out s = out ++ textString s := by
  rw [CborAppendTextString, textString]
  split
  next hshort =>
    have hor : ∀ n < 24, (0x60 : UInt8) ||| UInt8.ofNat n = UInt8.ofNat (0x60 + n) := by decide
    rw [hor s.length hshort, List.append_assoc, List.singleton_append]
  next =>
    rw [Nat.mod_eq_of_lt h]
    simp only [List.append_assoc, List.cons_append, List.nil_append]

theorem selectModuleBody_eq {uuid : List UInt8} (h : uuid.length < 256) :
    selectModuleBody uuid = 0xA2 :: (textString (ascii "type") ++ (textString (ascii "SelectModule") ++
      (textString (ascii "uuid") ++ textString uuid))) := by
  have htype : (ascii "type").length < 256 := by decide
  have hselect : (ascii "SelectModule").length < 256 := by decide
  have huuid : (ascii "uuid").length < 256 := by decide
  rw [selectModuleBody, CborAppendTextString_eq _ h, CborAppendTextString_eq _ huuid,
    CborAppendTextString_eq _ hselect, CborAppendTextString_eq _ htype]
  simp only [List.append_assoc, List.cons_append, List.nil_append]

theorem ReadTextString_textString {cs : List Char} (h : (encode cs).length < 256)
    (rest : List UInt8) : C.ReadTextString (textString (encode cs) ++ rest) = some (cs, rest) := by
  rw [Reader.ReadTextString, readTextString_textString h, Option.map_some, text_encode]

/-- A pair whose key is `type`. -/
theorem readPairs_type {v : List Char} (hv : (encode v).length < 256) (fuel n : ℕ) (m : Message)
    (rest : List UInt8) :
    readPairs C (fuel + 1) (some (n + 1)) m
        (textString (ascii "type") ++ (textString (encode v) ++ rest)) =
      readPairs C fuel (some n) { m with msgType := some v } rest := by
  have hkey : ascii "type" = encode "type".toList := by decide
  have hmore : ¬ (some (n + 1) = some 0 ∨ (some (n + 1) = none ∧
      (textString (encode "type".toList) ++ (textString (encode v) ++ rest)).head? = some 0xFF)) := by
    simp
  rw [hkey, readPairs, if_neg hmore, ReadTextString_textString (by decide), Option.bind_eq_bind,
    Option.bind_some]
  simp only [if_true, ReadTextString_textString hv]
  rfl

/-- A pair whose key is `uuid`. -/
theorem readPairs_uuid {v : List Char} (hv : (encode v).length < 256) (fuel n : ℕ) (m : Message)
    (rest : List UInt8) :
    readPairs C (fuel + 1) (some (n + 1)) m
        (textString (ascii "uuid") ++ (textString (encode v) ++ rest)) =
      readPairs C fuel (some n) { m with uuid := some v } rest := by
  have hkey : ascii "uuid" = encode "uuid".toList := by decide
  have hmore : ¬ (some (n + 1) = some 0 ∨ (some (n + 1) = none ∧
      (textString (encode "uuid".toList) ++ (textString (encode v) ++ rest)).head? = some 0xFF)) := by
    simp
  have hother : ¬ "uuid".toList = "type".toList := by decide
  rw [hkey, readPairs, if_neg hmore, ReadTextString_textString (by decide), Option.bind_eq_bind,
    Option.bind_some]
  simp only [if_neg hother, if_true, ReadTextString_textString hv]
  rfl

theorem selectModuleBody_length {uuid : List UInt8} (h : uuid.length < 256) :
    0 < (selectModuleBody uuid).length ∧ (selectModuleBody uuid).length ≤ 65536 := by
  have hlen := textString_length uuid
  have htype : (textString (ascii "type")).length = 5 := by decide
  have hselect : (textString (ascii "SelectModule")).length = 13 := by decide
  have huuid : (textString (ascii "uuid")).length = 5 := by decide
  rw [selectModuleBody_eq h, List.length_cons, List.length_append, List.length_append,
    List.length_append, htype, hselect, huuid]
  omega

/-- The host dispatches what the driver encoded. -/
theorem DispatchMessage_select {uuid : List Char} (h : (encode uuid).length < 256) :
    DispatchMessage C (selectModuleBody (encode uuid)) = [.SelectActive uuid] := by
  have hselect : ascii "SelectModule" = encode "SelectModule".toList := by decide
  have hstart : ∀ rest, readStartMap (0xA2 :: rest) = some (some 2, rest) := fun rest => by
    have hhead := readHead_short (show 5 < 8 by decide) (show 2 < 24 by decide) rest
    have hfirst : UInt8.ofNat (32 * 5 + 2) = 0xA2 := by decide
    rw [hfirst] at hhead
    rw [readStartMap, hhead]
    rfl
  have hlong : ∃ fuel, (textString (ascii "type") ++ (textString (ascii "SelectModule") ++
      (textString (ascii "uuid") ++ textString (encode uuid)))).length + 1 = fuel + 3 := by
    have htype : (textString (ascii "type")).length = 5 := by decide
    refine ⟨_, (Nat.sub_add_cancel ?_).symm⟩
    rw [List.length_append, htype]
    omega
  obtain ⟨fuel, hfuel⟩ := hlong
  have hpairs : readPairs C (fuel + 3) (some 2) ⟨none, none⟩ (textString (ascii "type") ++
      (textString (ascii "SelectModule") ++ (textString (ascii "uuid") ++
        textString (encode uuid)))) = some ⟨some "SelectModule".toList, some uuid⟩ := by
    have hend := readPairs_uuid (C := C) h (fuel + 1) 0 ⟨some "SelectModule".toList, none⟩ []
    rw [List.append_nil] at hend
    rw [hselect, readPairs_type (by decide), hend, readPairs, if_pos (.inl rfl)]
  rw [DispatchMessage, selectModuleBody_eq h, hstart]
  simp only [hfuel, hpairs]
  rfl

/-! ## A connection -/

theorem messages_select {uuid : List Char} (h : (encode uuid).length < 256) (fuel : ℕ)
    (rest : List UInt8) : messages C (fuel + 1) (EncodeSelectModule (encode uuid) ++ rest) =
      .SelectActive uuid :: messages C fuel rest := by
  obtain ⟨hpos, hmax⟩ := selectModuleBody_length h
  have htake : (EncodeSelectModule (encode uuid) ++ rest).take 4 =
      le32 (selectModuleBody (encode uuid)).length := rfl
  have hdrop : (EncodeSelectModule (encode uuid) ++ rest).drop 4 =
      selectModuleBody (encode uuid) ++ rest := rfl
  have hlong : ¬ (EncodeSelectModule (encode uuid) ++ rest).length < 4 := by
    rw [EncodeSelectModule, List.length_append, List.length_append, le32_length]
    omega
  have hvalid : ¬ ((selectModuleBody (encode uuid)).length = 0 ∨
      (selectModuleBody (encode uuid)).length > 65536) := by omega
  have hwhole : ¬ (selectModuleBody (encode uuid) ++ rest).length <
      (selectModuleBody (encode uuid)).length := by
    rw [List.length_append]
    omega
  rw [messages, if_neg hlong, htake, hdrop, ofLe32_le32 (by omega), if_neg hvalid, if_neg hwhole,
    List.take_left, List.drop_left, DispatchMessage_select h]
  rfl

/-- A message cut off has no effect. -/
theorem messages_cut {uuid : List Char} (h : (encode uuid).length < 256) {cut rest : List UInt8}
    (hcut : cut ++ rest = EncodeSelectModule (encode uuid)) (hrest : rest ≠ []) (fuel : ℕ) :
    messages C fuel cut = [] := by
  obtain ⟨hpos, hmax⟩ := selectModuleBody_length h
  cases fuel with
  | zero => rfl
  | succ fuel =>
    rw [messages]
    by_cases hshort : cut.length < 4
    · rw [if_pos hshort]
    · have htake : cut.take 4 = le32 (selectModuleBody (encode uuid)).length := by
        have hfour : (cut ++ rest).take 4 = cut.take 4 :=
          List.take_append_of_le_length (not_lt.1 hshort)
        rw [← hfour, hcut]
        rfl
      have hlen := congrArg List.length hcut
      rw [EncodeSelectModule, List.length_append, List.length_append, le32_length] at hlen
      have hmissing := List.length_pos_iff.2 hrest
      have hpart : (cut.drop 4).length < (selectModuleBody (encode uuid)).length := by
        rw [List.length_drop]
        omega
      rw [if_neg hshort, htake, ofLe32_le32 (by omega), if_neg (by omega), if_pos hpart]

/-- **The host selects what the driver sent**: of any messages on a connection, the last of them cut
    off anywhere, each whole one selects its module, in the order sent. -/
theorem select_delivered (C : Reader) {uuids : List (List Char)}
    (h : ∀ uuid ∈ uuids, (encode uuid).length < 256) {last : List Char}
    (hlast : (encode last).length < 256) {cut rest : List UInt8}
    (hcut : cut ++ rest = EncodeSelectModule (encode last)) (hrest : rest ≠ []) :
    HandleConnection C ((uuids.flatMap fun uuid => EncodeSelectModule (encode uuid)) ++ cut) =
      uuids.map .SelectActive := by
  have hmany : ∀ (uuids : List (List Char)), (∀ uuid ∈ uuids, (encode uuid).length < 256) →
      ∀ fuel, uuids.length ≤ fuel →
      messages C fuel ((uuids.flatMap fun uuid => EncodeSelectModule (encode uuid)) ++ cut) =
        uuids.map .SelectActive := by
    intro uuids
    induction uuids with
    | nil => exact fun _ fuel _ => messages_cut hlast hcut hrest fuel
    | cons uuid uuids ih =>
      intro hall fuel hfuel
      obtain ⟨hfirst, hlater⟩ := List.forall_mem_cons.1 hall
      obtain ⟨fuel, rfl⟩ := Nat.exists_eq_add_of_le' (show 1 ≤ fuel by simp at hfuel; omega)
      rw [List.flatMap_cons, List.append_assoc, messages_select hfirst, ih hlater fuel
        (by simpa using hfuel), List.map_cons]
  refine hmany uuids h _ ?_
  have hcount : uuids.length ≤
      (uuids.flatMap fun uuid => EncodeSelectModule (encode uuid)).length := by
    rw [List.length_flatMap]
    refine (List.length_le_sum_of_one_le (uuids.map fun uuid =>
      (EncodeSelectModule (encode uuid)).length) fun n hn => ?_).trans' (by simp)
    obtain ⟨uuid, -, rfl⟩ := List.mem_map.1 hn
    rw [EncodeSelectModule, List.length_append, le32_length]
    omega
  rw [List.length_append]
  omega

/-- Two modules, and a third message of which three bytes arrived. -/
theorem twoModules_selected :
    HandleConnection ⟨fun _ => [], fun _ => none⟩
        ((["a".toList, "b".toList].flatMap fun uuid => EncodeSelectModule (encode uuid)) ++
          (EncodeSelectModule (encode "c".toList)).take 3) =
      [.SelectActive "a".toList, .SelectActive "b".toList] := by
  have hlast : (encode "c".toList).length < 256 := by decide
  exact select_delivered _ (by decide) hlast (List.take_append_drop 3 _) (by decide)

end WKPairDriver.FaceTracking.ControlPipe
