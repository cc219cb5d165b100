import Mathlib
import WKPairDriver.Lib.Bytes
import WKPairDriver.Lib.Pod
import WKPairDriver.Lib.Utf8
import WKPairDriver.Sandbox.PartialPacket

/-!
# The packets of the module sandbox

The host process and a module process exchange packets: the magic, the type, and the body of that
type.

* `IpcPacket`, `GetBytes` — the packet classes and what each writes.
* `TryDecodePacket` — the decoder: every read that `BitConverter`, `Encoding.UTF8` or `Marshal`
  refuses is a thrown exception.
* `TryDecodePacket_GetBytes` — every packet is read back as it was written, an update with the data
  of the time it was written.
-/

set_option autoImplicit false

namespace WKPairDriver.Sandbox

open Lib Lib.Bytes Lib.Utf8

/-! ## Packets -/

inductive PacketType where
  | Unknown | Handshake | SplitPacketChunk
  | MetadataUpdate | LipUpdate | EyeUpdate
  | EventGetSupported | EventInit | EventTeardown | EventUpdate | EventUpdateStatus | EventLog
  | ReplyGetSupported | ReplyInit | ReplyUpdate | ReplyTeardown
  | DebugStreamFrame
  deriving DecidableEq

namespace PacketType

def value : PacketType → UInt32
  | Unknown => 0
  | Handshake => 1
  | SplitPacketChunk => Sandbox.SplitPacketChunk
  | MetadataUpdate => 100
  | LipUpdate => 101
  | EyeUpdate => 102
  | EventGetSupported => 200
  | EventInit => 201
  | EventTeardown => 202
  | EventUpdate => 203
  | EventUpdateStatus => 204
  | EventLog => 205
  | ReplyGetSupported => 300
  | ReplyInit => 301
  | ReplyUpdate => 302
  | ReplyTeardown => 303
  | DebugStreamFrame => 1000

def all : List PacketType :=
  [Unknown, Handshake, SplitPacketChunk, MetadataUpdate, LipUpdate, EyeUpdate, EventGetSupported,
    EventInit, EventTeardown, EventUpdate, EventUpdateStatus, EventLog, ReplyGetSupported, ReplyInit,
    ReplyUpdate, ReplyTeardown, DebugStreamFrame]

/-- The cast of a number to the enumeration.  A number of no member falls through every case. -/
def ofValue (v : UInt32) : PacketType := (all.find? fun t => decide (t.value = v)).getD Unknown

@[simp] theorem ofValue_value (t : PacketType) : ofValue t.value = t := by
  cases t <;> decide

end PacketType

/-- `(int)UnifiedExpressions.Max + 1`. -/
def EXPRESSION_COUNT : ℕ := 89

/-- One eye in `UnifiedTracking.Data`; floats are their bits. -/
structure UnifiedSingleEyeData where
  GazeX : UInt32
  GazeY : UInt32
  PupilDiameter_MM : UInt32
  Openness : UInt32

structure UnifiedEyeData where
  Left : UnifiedSingleEyeData
  Right : UnifiedSingleEyeData
  maxDilation : UInt32
  minDilation : UInt32

structure UnifiedHeadData where
  HeadYaw : UInt32
  HeadPitch : UInt32
  HeadRoll : UInt32
  HeadPosX : UInt32
  HeadPosY : UInt32
  HeadPosZ : UInt32

/-- What is read of the static `UnifiedTracking.Data`, which the module goes on writing meanwhile. -/
structure UnifiedTrackingData where
  Eye : UnifiedEyeData
  Shapes : Vector UInt32 EXPRESSION_COUNT
  Head : UnifiedHeadData

/-- The floats of an update by their bits. -/
structure UpdateDataContiguous where
  Eye_MaxDilation : UInt32
  Eye_MinDilation : UInt32
  Eye_Left_GazeX : UInt32
  Eye_Left_GazeY : UInt32
  Eye_Left_PupilDiameter_MM : UInt32
  Eye_Left_Openness : UInt32
  Eye_Right_GazeX : UInt32
  Eye_Right_GazeY : UInt32
  Eye_Right_PupilDiameter_MM : UInt32
  Eye_Right_Openness : UInt32
  Head_Yaw : UInt32
  Head_Pitch : UInt32
  Head_Roll : UInt32
  Head_PosX : UInt32
  Head_PosY : UInt32
  Head_PosZ : UInt32
  Expression_Shapes : Vector UInt32 EXPRESSION_COUNT

namespace UpdateDataContiguous

/-- The words of the structure, in the order of its layout. -/
def words (d : UpdateDataContiguous) : Vector UInt32 (16 + EXPRESSION_COUNT) :=
  #v[d.Eye_MaxDilation, d.Eye_MinDilation, d.Eye_Left_GazeX, d.Eye_Left_GazeY,
    d.Eye_Left_PupilDiameter_MM, d.Eye_Left_Openness, d.Eye_Right_GazeX, d.Eye_Right_GazeY,
    d.Eye_Right_PupilDiameter_MM, d.Eye_Right_Openness, d.Head_Yaw, d.Head_Pitch, d.Head_Roll,
    d.Head_PosX, d.Head_PosY, d.Head_PosZ] ++ d.Expression_Shapes

def ofWords (w : Vector UInt32 (16 + EXPRESSION_COUNT)) : UpdateDataContiguous where
  Eye_MaxDilation := w[0]
  Eye_MinDilation := w[1]
  Eye_Left_GazeX := w[2]
  Eye_Left_GazeY := w[3]
  Eye_Left_PupilDiameter_MM := w[4]
  Eye_Left_Openness := w[5]
  Eye_Right_GazeX := w[6]
  Eye_Right_GazeY := w[7]
  Eye_Right_PupilDiameter_MM := w[8]
  Eye_Right_Openness := w[9]
  Head_Yaw := w[10]
  Head_Pitch := w[11]
  Head_Roll := w[12]
  Head_PosX := w[13]
  Head_PosY := w[14]
  Head_PosZ := w[15]
  Expression_Shapes := Vector.ofFn fun i => w[16 + i.1]

theorem ofWords_words (d : UpdateDataContiguous) : ofWords d.words = d := by
  have hshapes : (Vector.ofFn fun i : Fin EXPRESSION_COUNT => d.words[16 + i.1]) =
      d.Expression_Shapes := by
    ext i hi
    rw [Vector.getElem_ofFn]
    simp [words]
  rw [ofWords, hshapes]
  cases d
  simp [words]

/-- The structure as `GetBytes` fills it. -/
def filled (Data : UnifiedTrackingData) : UpdateDataContiguous where
  Eye_Left_GazeX := Data.Eye.Left.GazeX
  Eye_Left_GazeY := Data.Eye.Left.GazeY
  Eye_Left_PupilDiameter_MM := Data.Eye.Left.PupilDiameter_MM
  Eye_Left_Openness := Data.Eye.Left.Openness
  Eye_Right_GazeX := Data.Eye.Right.GazeX
  Eye_Right_GazeY := Data.Eye.Right.GazeY
  Eye_Right_PupilDiameter_MM := Data.Eye.Right.PupilDiameter_MM
  Eye_Right_Openness := Data.Eye.Right.Openness
  Eye_MaxDilation := Data.Eye.maxDilation
  Eye_MinDilation := Data.Eye.minDilation
  Head_Yaw := Data.Head.HeadYaw
  Head_Pitch := Data.Head.HeadPitch
  Head_Roll := Data.Head.HeadRoll
  Head_PosX := Data.Head.HeadPosX
  Head_PosY := Data.Head.HeadPosY
  Head_PosZ := Data.Head.HeadPosZ
  Expression_Shapes := Data.Shapes

/-- `Marshal.StructureToPtr` and `Marshal.PtrToStructure`. -/
def pod : Pod UpdateDataContiguous :=
  (Pod.u32.vector (16 + EXPRESSION_COUNT)).iso ofWords words ofWords_words

end UpdateDataContiguous

/-- The packet classes.  An `int` or an enumeration is its 32 bits. -/
inductive IpcPacket where
  | HandshakePacket (isValid : Bool) (pid : UInt32) (modulePath : List Char)
  | PartialPacket
  | EventInitGetSupported
  | EventInitPacket (eyeAvailable expressionAvailable : Bool)
  | EventTeardownPacket
  | EventUpdatePacket
  | EventStatusUpdatePacket (moduleState : UInt32)
  | EventLogPacket (logLevel : UInt32) (message : List Char)
  | ReplySupportedPacket (eyeAvailable expressionAvailable : Bool)
  | ReplyInitPacket (eyeSuccess expressionSuccess : Bool) (moduleInformationName : List Char)
      (iconDataStreams : List (List UInt8))
  | ReplyUpdatePacket (contiguousUnifiedData : UpdateDataContiguous)
  | ReplyTeardownPacket

namespace IpcPacket

def GetPacketType : IpcPacket → PacketType
  | HandshakePacket .. => .Handshake
  | PartialPacket => .SplitPacketChunk
  | EventInitGetSupported => .EventGetSupported
  | EventInitPacket .. => .EventInit
  | EventTeardownPacket => .EventTeardown
  | EventUpdatePacket => .EventUpdate
  | EventStatusUpdatePacket .. => .EventUpdateStatus
  | EventLogPacket .. => .EventLog
  | ReplySupportedPacket .. => .ReplyGetSupported
  | ReplyInitPacket .. => .ReplyInit
  | ReplyUpdatePacket .. => .ReplyUpdate
  | ReplyTeardownPacket => .ReplyTeardown

end IpcPacket

/-! ## Writing -/

def HANDSHAKE_CHALLENGE : List UInt8 := [0xDE, 0xC1, 0xCA, 0x12, 0xD0]

/-- A length as an `int`. -/
def lengthBytes {α : Type} (s : List α) : List UInt8 := GetBytes32 (UInt32.ofNat s.length)

/-- A length in front of the bytes. -/
def counted (bytes : List UInt8) : List UInt8 := lengthBytes bytes ++ bytes

/-- `packedDataByte`. -/
def packedDataByte (first second : Bool) : UInt8 :=
  (if first then 1 else 0) ||| (if second then 2 else 0)

/-- The most bytes an array holds. -/
def MaxLength : ℕ := 0x7FFFFFC7

/-- What a packet writes behind its type. -/
def IpcPacket.body (Data : UnifiedTrackingData) : IpcPacket → List UInt8
  | HandshakePacket _ pid modulePath =>
    HANDSHAKE_CHALLENGE ++ (GetBytes32 pid ++ counted (encode modulePath))
  | PartialPacket => []
  | EventInitGetSupported => []
  | EventInitPacket eye expression => [packedDataByte eye expression]
  | EventTeardownPacket => []
  | EventUpdatePacket => []
  | EventStatusUpdatePacket moduleState => GetBytes32 moduleState
  | EventLogPacket logLevel message => GetBytes32 logLevel ++ counted (encode message)
  | ReplySupportedPacket eye expression => [packedDataByte eye expression]
  | ReplyInitPacket eye expression name streams =>
    packedDataByte eye expression :: (counted (encode name) ++
      (lengthBytes streams ++ streams.flatMap counted))
  | ReplyUpdatePacket _ =>
    -- what the packet holds is overwritten
    GetBytes32 (UInt32.ofNat UpdateDataContiguous.pod.size) ++
      UpdateDataContiguous.pod.put (.filled Data)
  | ReplyTeardownPacket => []

/-- The magic, a type and what follows. -/
def framed (t : PacketType) (rest : List UInt8) : List UInt8 :=
  HANDSHAKE_MAGIC ++ (GetBytes32 t.value ++ rest)

/-- The bytes of a packet; `none` is the exception of an array that would be too long, or of a
    `packetSize` that has overflowed.  `PartialPacket` leaves its writing to
    `SplitPacketIntoChunks`. -/
def IpcPacket.GetBytes (Data : UnifiedTrackingData) (p : IpcPacket) : Option (List UInt8) :=
  match p with
  | PartialPacket => some []
  | p =>
    let finalDataStream := framed p.GetPacketType (p.body Data)
    if finalDataStream.length ≤ MaxLength then some finalDataStream else none

/-- The packet as it is read: every handshake that is read is valid, an update has the data of the
    time it was written. -/
def IpcPacket.asRead (Data : UnifiedTrackingData) : IpcPacket → IpcPacket
  | HandshakePacket _ pid modulePath => .HandshakePacket true pid modulePath
  | ReplyUpdatePacket _ => .ReplyUpdatePacket (.filled Data)
  | p => p

/-! ## Reading -/

/-- What the model does not know of the runtime: the text of bytes that are no UTF-8, and the heap
    behind an allocation. -/
structure Runtime where
  replaced : List UInt8 → List Char
  beyond : List UInt8

/-- `Encoding.UTF8.GetString` of some bytes. -/
def Runtime.GetString (R : Runtime) (bytes : List UInt8) : List Char :=
  match bytes.toByteArray.utf8Decode? with
  | some cs => cs.toList
  | none => R.replaced bytes

/-- `BitConverter.ToInt32`, which throws where the four bytes are not all there. -/
def ToInt32 (data : List UInt8) (startIndex : ℕ) : Option UInt32 :=
  if startIndex + 4 ≤ data.length then some (ToUInt32 data startIndex) else none

/-- A range of the array, refused where it is negative or leaves the array. -/
def readRange (data : List UInt8) (index : ℕ) (count : UInt32) : Option (List UInt8) :=
  if count.toNat < 2 ^ 31 ∧ index + count.toNat ≤ data.length then
    some ((data.drop index).take count.toNat)
  else none

/-- The loop over the icon streams. -/
def readStreams (data : List UInt8) : ℕ → ℕ → Option (List (List UInt8))
  | 0, _ => some []
  | n + 1, offset => do
    let imageStreamSize ← ToInt32 data offset
    let imageStream ← readRange data (offset + 4) imageStreamSize
    let later ← readStreams data n (offset + 4 + imageStreamSize.toNat)
    some (imageStream :: later)

/-- The number of rounds of `for (int i = 0; i < count; i++)`. -/
def rounds (count : UInt32) : ℕ := if count.toNat < 2 ^ 31 then count.toNat else 0

/-- `Decode` of the class of each type. -/
def decodeBody (R : Runtime) (data : List UInt8) : PacketType → Option (Option IpcPacket)
  | .Handshake => do
    -- a challenge that differs is noted, and the note overwritten at the end
    let pid ← ToInt32 data 13
    let modulePathLength ← ToInt32 data 17
    let modulePath ← readRange data 21 modulePathLength
    some (some (.HandshakePacket true pid (R.GetString modulePath)))
  | .SplitPacketChunk => some (some .PartialPacket)
  | .EventGetSupported => some (some .EventInitGetSupported)
  | .EventInit => do
    let packedData ← data[8]?
    some (some (.EventInitPacket (packedData &&& 1 = 1) (packedData &&& 2 = 2)))
  | .EventTeardown => some (some .EventTeardownPacket)
  | .EventUpdate => some (some .EventUpdatePacket)
  | .EventUpdateStatus => do
    let moduleState ← ToInt32 data 8
    some (some (.EventStatusUpdatePacket moduleState))
  | .EventLog => do
    let logLevel ← ToInt32 data 8
    let stringLength ← ToInt32 data 12
    let message ← readRange data 16 stringLength
    some (some (.EventLogPacket logLevel (R.GetString message)))
  | .ReplyGetSupported => do
    let packedData ← data[8]?
    some (some (.ReplySupportedPacket (packedData &&& 1 = 1) (packedData &&& 2 = 2)))
  | .ReplyInit => do
    let packedData ← data[8]?
    let moduleInfoStringLength ← ToInt32 data 9
    let name ← readRange data 13 moduleInfoStringLength
    let streamCount ← ToInt32 data (13 + moduleInfoStringLength.toNat)
    let streams ← readStreams data (rounds streamCount) (13 + moduleInfoStringLength.toNat + 4)
    some (some (.ReplyInitPacket (packedData &&& 1 = 1) (packedData &&& 2 = 2) (R.GetString name)
      streams))
  | .ReplyUpdate => do
    let structSize ← ToInt32 data 8
    let copied ← readRange data 12 structSize
    -- a structure shorter than the class is read on into the heap
    some (some (.ReplyUpdatePacket (UpdateDataContiguous.pod.get
      ((copied ++ R.beyond).take UpdateDataContiguous.pod.size))))
  | .ReplyTeardown => some (some .ReplyTeardownPacket)
  | .Unknown | .MetadataUpdate | .LipUpdate | .EyeUpdate | .DebugStreamFrame => some none

/-- The loop over the magic numbers: an index behind the array throws. -/
def checkMagic : List UInt8 → List UInt8 → Option Bool
  | [], _ => some true
  | _ :: _, [] => none
  | m :: magic, b :: data => if b ≠ m then some false else checkMagic magic data

/-- `TryDecodePacket`: `none` is an exception, `some none` the answer false. -/
def TryDecodePacket (R : Runtime) (data : List UInt8) : Option (Option IpcPacket) := do
  let magic ← checkMagic HANDSHAKE_MAGIC data
  if magic then
    let packetType ← ToInt32 data 4
    decodeBody R data (PacketType.ofValue packetType)
  else some none

/-! ## What was written is read back -/

/-- Every length is an `int`. -/
def IpcPacket.Fits : IpcPacket → Prop
  | HandshakePacket _ _ modulePath => (encode modulePath).length < 2 ^ 31
  | EventLogPacket _ message => (encode message).length < 2 ^ 31
  | ReplyInitPacket _ _ name streams => (encode name).length < 2 ^ 31 ∧ streams.length < 2 ^ 31 ∧
      ∀ stream ∈ streams, stream.length < 2 ^ 31
  | _ => True

theorem GetString_encode (R : Runtime) (cs : List Char) : R.GetString (encode cs) = cs := by
  rw [Runtime.GetString, ← utf8Encode_eq, List.utf8Decode?_utf8Encode]

theorem ToInt32_append {data pre rest : List UInt8} {n : UInt32} {i : ℕ}
    (hdata : data = pre ++ (GetBytes32 n ++ rest)) (hi : i = pre.length) :
    ToInt32 data i = some n := by
  have hlen : i + 4 ≤ data.length := by
    rw [hdata, hi, List.length_append, List.length_append, GetBytes32, le32_length]
    omega
  rw [ToInt32, if_pos hlen, hdata, ToUInt32_append hi]

theorem toNat_length {α : Type} {s : List α} (h : s.length < 2 ^ 31) :
    (UInt32.ofNat s.length).toNat = s.length := by
  rw [UInt32.toNat_ofNat']
  omega

theorem readRange_append {data pre bytes rest : List UInt8} {i : ℕ}
    (hdata : data = pre ++ (bytes ++ rest)) (hi : i = pre.length) (h : bytes.length < 2 ^ 31) :
    readRange data i (UInt32.ofNat bytes.length) = some bytes := by
  have hin : (UInt32.ofNat bytes.length).toNat < 2 ^ 31 ∧
      i + (UInt32.ofNat bytes.length).toNat ≤ data.length := by
    rw [toNat_length h, hdata, hi, List.length_append, List.length_append]
    omega
  rw [readRange, if_pos hin, toNat_length h, hdata, hi, List.drop_left, List.take_left]

theorem packedDataByte_first (first second : Bool) :
    decide (packedDataByte first second &&& 1 = 1) = first := by
  cases first <;> cases second <;> decide

theorem packedDataByte_second (first second : Bool) :
    decide (packedDataByte first second &&& 2 = 2) = second := by
  cases first <;> cases second <;> decide

/-- The streams from where they start. -/
theorem readStreams_append : ∀ (streams : List (List UInt8)) {data pre rest : List UInt8} {i : ℕ},
    data = pre ++ (streams.flatMap counted ++ rest) → i = pre.length →
    (∀ stream ∈ streams, stream.length < 2 ^ 31) →
    readStreams data streams.length i = some streams
  | [], _, _, _, _, _, _, _ => rfl
  | stream :: streams, data, pre, rest, i, hdata, hi, h => by
    obtain ⟨hstream, hlater⟩ := List.forall_mem_cons.1 h
    have hcut : data = pre ++ (lengthBytes stream ++
        (stream ++ (streams.flatMap counted ++ rest))) := by
      rw [hdata, List.flatMap_cons, counted]
      simp only [List.append_assoc]
    have hsize : ToInt32 data i = some (UInt32.ofNat stream.length) := ToInt32_append hcut hi
    have hbehind : data = (pre ++ lengthBytes stream) ++
        (stream ++ (streams.flatMap counted ++ rest)) := by
      rw [hcut, List.append_assoc]
    have hbytes : readRange data (i + 4) (UInt32.ofNat stream.length) = some stream := by
      refine readRange_append hbehind ?_ hstream
      rw [hi, List.length_append, lengthBytes, GetBytes32, le32_length]
    have hnext : data = (pre ++ (lengthBytes stream ++ stream)) ++
        (streams.flatMap counted ++ rest) := by
      rw [hcut]
      simp only [List.append_assoc]
    have hrest : readStreams data streams.length (i + 4 + stream.length) = some streams := by
      refine readStreams_append streams hnext ?_ hlater
      rw [hi, List.length_append, List.length_append, lengthBytes, GetBytes32, le32_length]
      omega
    rw [List.length_cons, readStreams, hsize, Option.bind_eq_bind, Option.bind_some, hbytes,
      Option.bind_eq_bind, Option.bind_some, toNat_length hstream, hrest]
    rfl

theorem TryDecodePacket_framed (R : Runtime) (t : PacketType) (body : List UInt8) :
    TryDecodePacket R (framed t body) = decodeBody R (framed t body) t := by
  have hmagic : checkMagic HANDSHAKE_MAGIC (framed t body) = some true := by
    simp [checkMagic, HANDSHAKE_MAGIC, framed]
  have htype : ToInt32 (framed t body) 4 = some t.value := ToInt32_append rfl rfl
  rw [TryDecodePacket, hmagic, Option.bind_eq_bind, Option.bind_some, if_pos rfl, htype,
    Option.bind_eq_bind, Option.bind_some, PacketType.ofValue_value]

/-- The byte behind the type. -/
theorem framed_getElem (t : PacketType) (b : UInt8) (rest : List UInt8) :
    (framed t (b :: rest))[8]? = some b := rfl

/-- A length in front of its bytes, read at `i` and `i + 4`. -/
theorem counted_read {data pre bytes rest : List UInt8} {i : ℕ}
    (hdata : data = pre ++ (counted bytes ++ rest)) (hi : i = pre.length)
    (h : bytes.length < 2 ^ 31) :
    ToInt32 data i = some (UInt32.ofNat bytes.length) ∧
      readRange data (i + 4) (UInt32.ofNat bytes.length) = some bytes := by
  have hlength : data = pre ++ (GetBytes32 (UInt32.ofNat bytes.length) ++ (bytes ++ rest)) := by
    rw [hdata, counted, lengthBytes, List.append_assoc]
  have hbytes : data = (pre ++ GetBytes32 (UInt32.ofNat bytes.length)) ++ (bytes ++ rest) := by
    rw [hlength, List.append_assoc]
  refine ⟨ToInt32_append hlength hi, readRange_append hbytes ?_ h⟩
  rw [hi, List.length_append, GetBytes32, le32_length]

theorem handshake_read (R : Runtime) (pid : UInt32) {path : List Char} (trailing : List UInt8)
    (h : (encode path).length < 2 ^ 31) :
    decodeBody R (framed .Handshake (HANDSHAKE_CHALLENGE ++
      (GetBytes32 pid ++ counted (encode path)) ++ trailing)) .Handshake =
      some (some (.HandshakePacket true pid path)) := by
  have hdata : framed .Handshake (HANDSHAKE_CHALLENGE ++
      (GetBytes32 pid ++ counted (encode path)) ++ trailing) =
      (HANDSHAKE_MAGIC ++ GetBytes32 PacketType.Handshake.value ++ HANDSHAKE_CHALLENGE) ++
        (GetBytes32 pid ++ (counted (encode path) ++ trailing)) := by
    simp only [framed, List.append_assoc]
  have hpath : framed .Handshake (HANDSHAKE_CHALLENGE ++
      (GetBytes32 pid ++ counted (encode path)) ++ trailing) =
      (HANDSHAKE_MAGIC ++ GetBytes32 PacketType.Handshake.value ++ HANDSHAKE_CHALLENGE ++
        GetBytes32 pid) ++ (counted (encode path) ++ trailing) := by
    simp only [framed, List.append_assoc]
  obtain ⟨hlen, hbytes⟩ := counted_read hpath (i := 17) rfl h
  rw [decodeBody, ToInt32_append hdata (i := 13) rfl, Option.bind_eq_bind, Option.bind_some, hlen,
    Option.bind_eq_bind, Option.bind_some, hbytes, Option.bind_some, GetString_encode]

theorem eventLog_read (R : Runtime) (level : UInt32) {message : List Char} (trailing : List UInt8)
    (h : (encode message).length < 2 ^ 31) :
    decodeBody R (framed .EventLog (GetBytes32 level ++ counted (encode message) ++ trailing))
      .EventLog = some (some (.EventLogPacket level message)) := by
  have hlevel : framed .EventLog (GetBytes32 level ++ counted (encode message) ++ trailing) =
      (HANDSHAKE_MAGIC ++ GetBytes32 PacketType.EventLog.value) ++
        (GetBytes32 level ++ (counted (encode message) ++ trailing)) := by
    simp only [framed, List.append_assoc]
  have hmessage : framed .EventLog (GetBytes32 level ++ counted (encode message) ++ trailing) =
      (HANDSHAKE_MAGIC ++ GetBytes32 PacketType.EventLog.value ++ GetBytes32 level) ++
        (counted (encode message) ++ trailing) := by
    simp only [framed, List.append_assoc]
  obtain ⟨hlen, hbytes⟩ := counted_read hmessage (i := 12) rfl h
  rw [decodeBody, ToInt32_append hlevel (i := 8) rfl, Option.bind_eq_bind, Option.bind_some, hlen,
    Option.bind_eq_bind, Option.bind_some, hbytes, Option.bind_some, GetString_encode]

theorem replyInit_read (R : Runtime) (eye expression : Bool) {name : List Char}
    {streams : List (List UInt8)} (trailing : List UInt8) (hname : (encode name).length < 2 ^ 31)
    (hcount : streams.length < 2 ^ 31) (hstreams : ∀ stream ∈ streams, stream.length < 2 ^ 31) :
    decodeBody R (framed .ReplyInit (packedDataByte eye expression :: (counted (encode name) ++
      (lengthBytes streams ++ streams.flatMap counted)) ++ trailing)) .ReplyInit =
      some (some (.ReplyInitPacket eye expression name streams)) := by
  have hfirst : framed .ReplyInit (packedDataByte eye expression :: (counted (encode name) ++
      (lengthBytes streams ++ streams.flatMap counted)) ++ trailing) =
      (HANDSHAKE_MAGIC ++ GetBytes32 PacketType.ReplyInit.value ++
        [packedDataByte eye expression]) ++
        (counted (encode name) ++ (lengthBytes streams ++ (streams.flatMap counted ++ trailing))) := by
    simp only [framed, List.append_assoc, List.cons_append, List.nil_append]
  have hsecond : framed .ReplyInit (packedDataByte eye expression :: (counted (encode name) ++
      (lengthBytes streams ++ streams.flatMap counted)) ++ trailing) =
      (HANDSHAKE_MAGIC ++ GetBytes32 PacketType.ReplyInit.value ++
        [packedDataByte eye expression] ++ counted (encode name)) ++
        (lengthBytes streams ++ (streams.flatMap counted ++ trailing)) := by
    simp only [framed, List.append_assoc, List.cons_append, List.nil_append]
  have hthird : framed .ReplyInit (packedDataByte eye expression :: (counted (encode name) ++
      (lengthBytes streams ++ streams.flatMap counted)) ++ trailing) =
      (HANDSHAKE_MAGIC ++ GetBytes32 PacketType.ReplyInit.value ++
        [packedDataByte eye expression] ++ counted (encode name) ++ lengthBytes streams) ++
        (streams.flatMap counted ++ trailing) := by
    simp only [framed, List.append_assoc, List.cons_append, List.nil_append]
  have hcounted : (counted (encode name)).length = 4 + (encode name).length := by
    rw [counted, List.length_append, lengthBytes, GetBytes32, le32_length]
  obtain ⟨hlen, hbytes⟩ := counted_read hfirst (i := 9) rfl hname
  have hnumber : ToInt32 _ (13 + (encode name).length) = some (UInt32.ofNat streams.length) :=
    ToInt32_append hsecond (by
      rw [List.length_append, hcounted]
      simp only [HANDSHAKE_MAGIC, GetBytes32, List.length_append, le32_length, List.length_cons,
        List.length_nil]
      omega)
  have hread : readStreams _ streams.length (13 + (encode name).length + 4) = some streams :=
    readStreams_append streams hthird (by
      rw [List.length_append, List.length_append, hcounted]
      simp only [HANDSHAKE_MAGIC, lengthBytes, GetBytes32, List.length_append, le32_length,
        List.length_cons, List.length_nil]
      omega) hstreams
  have hrounds : rounds (UInt32.ofNat streams.length) = streams.length := by
    rw [rounds, toNat_length hcount, if_pos hcount]
  rw [decodeBody, List.cons_append, framed_getElem, ← List.cons_append, Option.bind_eq_bind,
    Option.bind_some, hlen, Option.bind_eq_bind, Option.bind_some, hbytes, Option.bind_eq_bind,
    Option.bind_some, toNat_length hname, hnumber, Option.bind_eq_bind, Option.bind_some, hrounds,
    hread, Option.bind_some, GetString_encode, packedDataByte_first, packedDataByte_second]

theorem replyUpdate_read (R : Runtime) (d : UpdateDataContiguous) (trailing : List UInt8) :
    decodeBody R (framed .ReplyUpdate (GetBytes32 (UInt32.ofNat UpdateDataContiguous.pod.size) ++
      UpdateDataContiguous.pod.put d ++ trailing)) .ReplyUpdate =
      some (some (.ReplyUpdatePacket d)) := by
  have hsize : UpdateDataContiguous.pod.size = (UpdateDataContiguous.pod.put d).length :=
    (UpdateDataContiguous.pod.put_length d).symm
  have hsmall : (UpdateDataContiguous.pod.put d).length < 2 ^ 31 := by
    rw [← hsize]
    decide
  have hdata : framed .ReplyUpdate (GetBytes32 (UInt32.ofNat UpdateDataContiguous.pod.size) ++
      UpdateDataContiguous.pod.put d ++ trailing) =
      (HANDSHAKE_MAGIC ++ GetBytes32 PacketType.ReplyUpdate.value) ++
        (counted (UpdateDataContiguous.pod.put d) ++ trailing) := by
    simp only [framed, counted, lengthBytes, hsize, List.append_assoc]
  obtain ⟨hlen, hbytes⟩ := counted_read hdata (i := 8) rfl hsmall
  rw [decodeBody, hlen, Option.bind_eq_bind, Option.bind_some, hbytes, Option.bind_eq_bind,
    Option.bind_some, hsize, List.take_left, UpdateDataContiguous.pod.get_put]

/-- What `GetBytes` has written, where it has not thrown. -/
theorem GetBytes_eq {Data : UnifiedTrackingData} {p : IpcPacket} {bytes : List UInt8}
    (h : p.GetBytes Data = some bytes) (hp : p ≠ .PartialPacket) :
    bytes = framed p.GetPacketType (p.body Data) ∧ bytes.length ≤ MaxLength := by
  have hwritten : (if (framed p.GetPacketType (p.body Data)).length ≤ MaxLength then
      some (framed p.GetPacketType (p.body Data)) else none) = some bytes := by
    cases p with
    | PartialPacket => exact absurd rfl hp
    | _ => exact h
  split_ifs at hwritten with hlength
  cases hwritten
  exact ⟨rfl, hlength⟩

theorem counted_length (bytes : List UInt8) : (counted bytes).length = 4 + bytes.length := by
  rw [counted, List.length_append, lengthBytes, GetBytes32, le32_length]

theorem length_le_flatMap_counted : ∀ streams : List (List UInt8),
    streams.length ≤ (streams.flatMap counted).length
  | [] => le_rfl
  | stream :: streams => by
    have hrest := length_le_flatMap_counted streams
    rw [List.flatMap_cons, List.length_append, counted_length, List.length_cons]
    omega

theorem stream_length_le {stream : List UInt8} {streams : List (List UInt8)}
    (h : stream ∈ streams) : stream.length ≤ (streams.flatMap counted).length := by
  obtain ⟨l, r, rfl⟩ := List.append_of_mem h
  rw [List.flatMap_append, List.flatMap_cons, List.length_append, List.length_append,
    counted_length]
  omega

/-- The lengths in an array are `int`s. -/
theorem fits_of_length {Data : UnifiedTrackingData} {p : IpcPacket}
    (h : (framed p.GetPacketType (p.body Data)).length ≤ MaxLength) : p.Fits := by
  have hbody : (p.body Data).length ≤ MaxLength := by
    refine le_trans ?_ h
    rw [framed, List.length_append, List.length_append]
    omega
  have hmax : MaxLength < 2 ^ 31 := by decide
  cases p with
  | HandshakePacket isValid pid path =>
    rw [IpcPacket.body, List.length_append, List.length_append, counted_length] at hbody
    show (encode path).length < 2 ^ 31
    omega
  | EventLogPacket level message =>
    rw [IpcPacket.body, List.length_append, counted_length] at hbody
    show (encode message).length < 2 ^ 31
    omega
  | ReplyInitPacket eye expression name streams =>
    rw [IpcPacket.body, List.length_cons, List.length_append, List.length_append,
      counted_length] at hbody
    have hcount := length_le_flatMap_counted streams
    refine ⟨by omega, by omega, fun stream hstream => ?_⟩
    have hstream := stream_length_le hstream
    omega
  | _ => trivial

/-- Every `Decode` reads what `GetBytes` of its class wrote. -/
theorem decodeBody_written (R : Runtime) (Data : UnifiedTrackingData) {p : IpcPacket}
    (h : p.Fits) (trailing : List UInt8) :
    decodeBody R (framed p.GetPacketType (p.body Data ++ trailing)) p.GetPacketType =
      some (some (p.asRead Data)) := by
  cases p with
  | HandshakePacket isValid pid path => exact handshake_read R pid trailing h
  | PartialPacket => rfl
  | EventInitGetSupported => rfl
  | EventInitPacket eye expression =>
    rw [IpcPacket.GetPacketType, IpcPacket.body, decodeBody, List.singleton_append,
      framed_getElem, Option.bind_eq_bind, Option.bind_some, packedDataByte_first,
      packedDataByte_second]
    rfl
  | EventTeardownPacket => rfl
  | EventUpdatePacket => rfl
  | EventStatusUpdatePacket state =>
    have hstate : ToInt32 (framed .EventUpdateStatus (GetBytes32 state ++ trailing)) 8 =
        some state := ToInt32_append (by
      rw [framed, ← List.append_assoc]) rfl
    rw [IpcPacket.GetPacketType, IpcPacket.body, decodeBody, hstate]
    rfl
  | EventLogPacket level message => exact eventLog_read R level trailing h
  | ReplySupportedPacket eye expression =>
    rw [IpcPacket.GetPacketType, IpcPacket.body, decodeBody, List.singleton_append,
      framed_getElem, Option.bind_eq_bind, Option.bind_some, packedDataByte_first,
      packedDataByte_second]
    rfl
  | ReplyInitPacket eye expression name streams =>
    obtain ⟨hname, hcount, hstreams⟩ := h
    exact replyInit_read R eye expression trailing hname hcount hstreams
  | ReplyUpdatePacket d => exact replyUpdate_read R (.filled Data) trailing
  | ReplyTeardownPacket => rfl

/-- A packet is read back as it was written. -/
theorem TryDecodePacket_written (R : Runtime) {Data : UnifiedTrackingData} {p : IpcPacket}
    {bytes : List UInt8} (h : p.GetBytes Data = some bytes) (hp : p ≠ .PartialPacket)
    (trailing : List UInt8) :
    TryDecodePacket R (bytes ++ trailing) = some (some (p.asRead Data)) := by
  obtain ⟨rfl, hlength⟩ := GetBytes_eq h hp
  have hframed : framed p.GetPacketType (p.body Data) ++ trailing =
      framed p.GetPacketType (p.body Data ++ trailing) := by
    simp only [framed, List.append_assoc]
  rw [hframed, TryDecodePacket_framed]
  exact decodeBody_written R Data (fits_of_length hlength) trailing

theorem TryDecodePacket_chunk (R : Runtime) (s : Send) (q : Lib.Reassembly.Piece UInt8)
    (trailing : List UInt8) :
    TryDecodePacket R (s.chunk q ++ trailing) = some (some .PartialPacket) := by
  have hchunk : s.chunk q ++ trailing = framed .SplitPacketChunk
      (GetBytes32 (partBits s.pieces.length q.1) ++ (GetBytes32 s.packetId ++ q.2) ++ trailing) := by
    rfl
  rw [hchunk, TryDecodePacket_framed]
  rfl

/-- What a module sees that looks straight ahead. -/
def restingData : UnifiedTrackingData where
  Eye := ⟨⟨0, 0, 5, 1⟩, ⟨0, 0, 6, 1⟩, 9, 2⟩
  Shapes := Vector.replicate EXPRESSION_COUNT 0
  Head := ⟨1, 2, 3, 4, 5, 6⟩

end WKPairDriver.Sandbox
