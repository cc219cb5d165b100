import Mathlib
import WKPairDriver.Lib.Bytes
import WKPairDriver.Lib.Reassembly

/-!
# Packets too long for one datagram

`PartialPacket` of the module sandbox cuts a packet into chunks of at most the MTU and puts chunks
that arrive in any order together again.

* `SplitPacketIntoChunks`, `SplitPacketIntoChunks_eq` — the loop of the sender, and what it sends.
* `DecodePacket`, `combinePackets` — one chunk at the receiver, and the copy at the end.
* `decodeAll_eq` — the chunks of one packet id do not see those of another.
* `decodeAll_reassembles` — a packet comes out once, whole, with the last of its chunks.
-/

set_option autoImplicit false

namespace WKPairDriver.Sandbox

open Lib.Bytes Lib.Reassembly

def HANDSHAKE_MAGIC : List UInt8 := [0xAF, 0xEC, 0x00, 0x8D]

/-- `PacketType.SplitPacketChunk`. -/
def SplitPacketChunk : UInt32 := 2

def PACKET_PART_EOF_BIT : UInt32 := 0x80000000

def PACKET_NON_DATA_SIZE_BYTES : ℕ := 16

def PACKET_COUNT_INVALID : UInt32 := 0xFFFFFFFF

/-- `BitConverter.GetBytes` of a 32-bit number. -/
def GetBytes32 (n : UInt32) : List UInt8 := le32 n.toNat

/-- `BitConverter.ToUInt32` where four bytes are left. -/
def ToUInt32 (data : List UInt8) (startIndex : ℕ) : UInt32 :=
  UInt32.ofNat (ofLe32 (data.drop startIndex))

theorem ToUInt32_append {pre rest : List UInt8} {n : UInt32} {i : ℕ} (hi : i = pre.length) :
    ToUInt32 (pre ++ (GetBytes32 n ++ rest)) i = n := by
  have hle : ofLe32 (GetBytes32 n ++ rest) = ofLe32 (le32 n.toNat) := rfl
  rw [ToUInt32, hi, List.drop_left, hle, ofLe32_le32 n.toNat_lt, UInt32.ofNat_toNat]

/-! ## The end-of-packet bit -/

theorem and_eof_iff (part : UInt32) :
    part &&& PACKET_PART_EOF_BIT = PACKET_PART_EOF_BIT ↔ 2 ^ 31 ≤ part.toNat := by
  have hlt := part.toNat_lt
  have heof : PACKET_PART_EOF_BIT.toNat = 2 ^ 31 := rfl
  have hbit : (part &&& PACKET_PART_EOF_BIT).toNat = (part.toNat.testBit 31).toNat * 2 ^ 31 := by
    rw [UInt32.toNat_and, heof, Nat.and_two_pow]
  have hdiv : part.toNat.testBit 31 = decide (part.toNat / 2 ^ 31 % 2 = 1) :=
    Nat.testBit_eq_decide_div_mod_eq
  have hdigit : part.toNat / 2 ^ 31 % 2 = part.toNat / 2 ^ 31 := Nat.mod_eq_of_lt (by omega)
  rw [← UInt32.toNat_inj, hbit, hdiv, hdigit, heof]
  by_cases h : part.toNat / 2 ^ 31 = 1
  · rw [decide_eq_true h, Bool.toNat_true]
    omega
  · rw [decide_eq_false h, Bool.toNat_false]
    omega

theorem toNat_unmarked (part : UInt32) :
    (part &&& ~~~PACKET_PART_EOF_BIT).toNat = part.toNat % 2 ^ 31 := by
  rw [UInt32.toNat_and]
  exact Nat.and_two_pow_sub_one_eq_mod _ 31

/-- The number of a piece as the sender writes it: the last one is marked. -/
def partBits (count i : ℕ) : UInt32 :=
  if i = count - 1 then UInt32.ofNat i ||| PACKET_PART_EOF_BIT else UInt32.ofNat i

theorem partBits_toNat {count i : ℕ} (hi : i < 2 ^ 31) :
    (partBits count i).toNat = if i = count - 1 then i + 2 ^ 31 else i := by
  have hsmall : (UInt32.ofNat i).toNat = i := by
    rw [UInt32.toNat_ofNat']
    omega
  rw [partBits]
  split
  next =>
    have hor := Nat.two_pow_add_eq_or_of_lt hi 1
    have heof : PACKET_PART_EOF_BIT.toNat = 2 ^ 31 * 1 := rfl
    rw [UInt32.toNat_or, hsmall, heof, Nat.or_comm, ← hor]
    omega
  next => exact hsmall

/-! ## The sender -/

/-- A chunk as it goes over the wire. -/
def chunkPacket (packetId packetPart : UInt32) (data : List UInt8) : List UInt8 :=
  HANDSHAKE_MAGIC ++ (GetBytes32 SplitPacketChunk ++ (GetBytes32 packetPart ++
    (GetBytes32 packetId ++ data)))

@[simp] theorem chunkPacket_length (packetId packetPart : UInt32) (data : List UInt8) :
    (chunkPacket packetId packetPart data).length = 16 + data.length := by
  simp only [chunkPacket, HANDSHAKE_MAGIC, GetBytes32, List.length_append, le32_length,
    List.length_cons, List.length_nil]
  omega

theorem chunkPacket_part (packetId packetPart : UInt32) (data : List UInt8) :
    ToUInt32 (chunkPacket packetId packetPart data) 8 = packetPart := by
  rw [chunkPacket, ← List.append_assoc]
  exact ToUInt32_append rfl

theorem chunkPacket_id (packetId packetPart : UInt32) (data : List UInt8) :
    ToUInt32 (chunkPacket packetId packetPart data) 12 = packetId := by
  rw [chunkPacket, ← List.append_assoc, ← List.append_assoc]
  exact ToUInt32_append rfl

theorem chunkPacket_data (packetId packetPart : UInt32) (data : List UInt8) :
    (chunkPacket packetId packetPart data).drop PACKET_NON_DATA_SIZE_BYTES = data := rfl

/-- What the loop keeps between two chunks. -/
structure Split where
  bytesLeftToPack : ℕ
  bytesSent : ℕ
  packetCollection : List (List UInt8)

/-- Chunk `i` of the loop. -/
def splitStep (packetData : List UInt8) (mtu : ℕ) (packetId : UInt32) (partialPacketCount : ℕ)
    (s : Split) (i : ℕ) : Split :=
  let packetSize := min (s.bytesLeftToPack + PACKET_NON_DATA_SIZE_BYTES) mtu
  let packetSizeNoOverhead := packetSize - PACKET_NON_DATA_SIZE_BYTES
  let finalDataStream := chunkPacket packetId (partBits partialPacketCount i)
    ((packetData.drop s.bytesSent).take packetSizeNoOverhead)
  { bytesLeftToPack := s.bytesLeftToPack - packetSizeNoOverhead
    bytesSent := s.bytesSent + packetSizeNoOverhead
    packetCollection := s.packetCollection ++ [finalDataStream] }

/-- The MTU, less 128 bytes if possible. -/
def reducedMtu (mtu : ℕ) : ℕ := if mtu > 128 then mtu - 128 else mtu

/-- The packets of a call that drew `packetId`.  The quotient is rounded up. -/
def SplitPacketIntoChunks (packetId : UInt32) (packetData : List UInt8) (mtu : ℕ) :
    List (List UInt8) :=
  let mtu := reducedMtu mtu
  let partialPacketCount := pieceCount (mtu - PACKET_NON_DATA_SIZE_BYTES) packetData.length
  ((List.range partialPacketCount).foldl
    (splitStep packetData mtu packetId partialPacketCount) ⟨packetData.length, 0, []⟩).packetCollection

/-- A packet a sender splits. -/
structure Send where
  packetId : UInt32
  packetData : List UInt8
  mtu : ℕ

/-- The data bytes of a full chunk. -/
def Send.chunkSize (s : Send) : ℕ := reducedMtu s.mtu - PACKET_NON_DATA_SIZE_BYTES

/-- The chunks have room for data, and an array has at most `int.MaxValue` bytes. -/
structure Send.Valid (s : Send) : Prop where
  nonempty : s.packetData ≠ []
  room : PACKET_NON_DATA_SIZE_BYTES < reducedMtu s.mtu
  length_lt : s.packetData.length < 2 ^ 31

def Send.chunks (s : Send) : List (List UInt8) :=
  SplitPacketIntoChunks s.packetId s.packetData s.mtu

def Send.pieces (s : Send) : List (List UInt8) := cut s.chunkSize s.packetData

/-- The chunk that carries a piece. -/
def Send.chunk (s : Send) (p : Piece UInt8) : List UInt8 :=
  chunkPacket s.packetId (partBits s.pieces.length p.1) p.2

variable {s : Send}

theorem Send.Valid.chunkSize_pos (h : s.Valid) : 0 < s.chunkSize := by
  have := h.room
  rw [Send.chunkSize]
  omega

theorem Send.Valid.pieces_length_lt (h : s.Valid) : s.pieces.length < 2 ^ 31 := by
  have hlen := h.length_lt
  rw [Send.pieces, cut_length, pieceCount]
  refine lt_of_le_of_lt ?_ hlen
  refine Nat.div_le_of_le_mul ?_
  have hpos : 1 ≤ s.chunkSize := h.chunkSize_pos
  have hdata : 1 ≤ s.packetData.length := List.length_pos_iff.2 h.nonempty
  nlinarith [Nat.sub_le (s.packetData.length + s.chunkSize) 1,
    Nat.le_mul_of_pos_left s.packetData.length hpos, Nat.le_mul_of_pos_right s.chunkSize hdata,
    Nat.sub_add_cancel (show 1 ≤ s.packetData.length + s.chunkSize by omega),
    Nat.mul_le_mul (Nat.sub_le s.chunkSize 1) (Nat.sub_le s.packetData.length 1)]

/-- The first `k` rounds of the loop send the first `k` pieces. -/
theorem splitSteps_eq (h : s.Valid) : ∀ k ≤ s.pieces.length,
    (List.range k).foldl (splitStep s.packetData (reducedMtu s.mtu) s.packetId s.pieces.length)
        ⟨s.packetData.length, 0, []⟩ =
      ⟨s.packetData.length - k * s.chunkSize, min (k * s.chunkSize) s.packetData.length,
        (List.range k).map fun i => s.chunk (i, piece s.chunkSize s.packetData i)⟩
  | 0, _ => by simp
  | k + 1, hk => by
    have hroom := h.room
    have hsize : s.chunkSize = reducedMtu s.mtu - PACKET_NON_DATA_SIZE_BYTES := rfl
    have hlt : k * s.chunkSize < s.packetData.length := by
      refine (lt_pieceCount_iff h.chunkSize_pos).1 ?_
      rw [Send.pieces, cut_length] at hk
      omega
    have hnext : (k + 1) * s.chunkSize = k * s.chunkSize + s.chunkSize := by ring
    have hmin : min (k * s.chunkSize) s.packetData.length = k * s.chunkSize := by omega
    have hover : min (s.packetData.length - k * s.chunkSize + PACKET_NON_DATA_SIZE_BYTES)
        (reducedMtu s.mtu) - PACKET_NON_DATA_SIZE_BYTES =
        min s.chunkSize (s.packetData.length - k * s.chunkSize) := by omega
    have htake : (s.packetData.drop (k * s.chunkSize)).take
        (min s.chunkSize (s.packetData.length - k * s.chunkSize)) =
        piece s.chunkSize s.packetData k := by
      rw [piece, ← List.length_drop, List.take_eq_take_iff]
      omega
    rw [List.range_succ, List.foldl_append, splitSteps_eq h k (by omega), List.foldl_cons,
      List.foldl_nil, splitStep, List.map_append]
    simp only [hmin, hover, htake, hnext]
    refine congr (congr (congrArg Split.mk ?_) ?_) rfl <;> omega

/-- **What a split packet goes out as**: its pieces, numbered, the last one marked. -/
theorem SplitPacketIntoChunks_eq (h : s.Valid) : s.chunks = (numbered s.pieces).map s.chunk := by
  have hlen : s.pieces.length = pieceCount s.chunkSize s.packetData.length := cut_length _ _
  have hcount : pieceCount (reducedMtu s.mtu - PACKET_NON_DATA_SIZE_BYTES) s.packetData.length =
      s.pieces.length := hlen.symm
  have hrun := splitSteps_eq h _ le_rfl
  have hchunks : s.chunks =
      (List.range s.pieces.length).map fun i => s.chunk (i, piece s.chunkSize s.packetData i) := by
    rw [Send.chunks, SplitPacketIntoChunks, hcount, hrun]
  rw [hchunks]
  refine List.ext_getElem (by simp) fun i hi hi' => ?_
  simp only [List.getElem_map, List.getElem_range, numbered, List.getElem_zipIdx, Nat.zero_add,
    Prod.swap_prod_mk]
  congr 2
  simp only [Send.pieces, cut, List.getElem_map, List.getElem_range]

/-! ## The receiver -/

structure PartialPacketChunk where
  Data : List UInt8
  PacketPart : UInt32

structure PartialPacketChunkTemporaryBuffer where
  Chunks : List PartialPacketChunk
  PacketCount : UInt32

def PartialPacketChunkTemporaryBuffer.new : PartialPacketChunkTemporaryBuffer :=
  ⟨[], PACKET_COUNT_INVALID⟩

/-- `_packetBuffers`: nothing is ever removed. -/
abbrev PacketBuffers := UInt32 → Option PartialPacketChunkTemporaryBuffer

/-- `Buffer.BlockCopy` of a whole array. -/
def blockCopy (src dst : List UInt8) (dstOffset : ℕ) : List UInt8 :=
  dst.take dstOffset ++ src ++ dst.drop (dstOffset + src.length)

/-- One round of the loop over `copiedPartCounter`: the chunk with that number, if there is one, is
    copied to `copyOffset`. -/
def copyPart (chunks : List PartialPacketChunk) (s : List UInt8 × ℕ) (copiedPartCounter : ℕ) :
    List UInt8 × ℕ :=
  match chunks.find? fun c => decide (c.PacketPart.toNat = copiedPartCounter) with
  | some c => (blockCopy c.Data s.1 s.2, s.2 + c.Data.length)
  | none => s

/-- From the label `combinePackets` on. -/
def combinePackets (chunks : List PartialPacketChunk) : List UInt8 :=
  let computedPacketSize := (chunks.map fun c => c.Data.length).sum
  ((List.range chunks.length).foldl (copyPart chunks)
    (List.replicate computedPacketSize 0, 0)).1

/-- The chunk in a datagram. -/
def chunkOf (data : List UInt8) : PartialPacketChunk :=
  ⟨data.drop PACKET_NON_DATA_SIZE_BYTES, ToUInt32 data 8 &&& ~~~PACKET_PART_EOF_BIT⟩

/-- The datagram is of the last chunk. -/
abbrev IsEof (data : List UInt8) : Prop :=
  ToUInt32 data 8 &&& PACKET_PART_EOF_BIT = PACKET_PART_EOF_BIT

/-- The buffer of the packet id with the chunk added. -/
def addChunk (buffer : Option PartialPacketChunkTemporaryBuffer) (data : List UInt8) :
    PartialPacketChunkTemporaryBuffer :=
  let buffer := buffer.getD .new
  let buffer := { buffer with Chunks := buffer.Chunks ++ [chunkOf data] }
  if IsEof data then { buffer with PacketCount := (chunkOf data).PacketPart + 1 } else buffer

/-- `packetData` of the call, from the buffer the chunk went to. -/
def packetDataOf (buffer : PartialPacketChunkTemporaryBuffer) (data : List UInt8) : List UInt8 :=
  if (IsEof data ∧ buffer.PacketCount.toNat = buffer.Chunks.length) ∨
      (buffer.PacketCount ≠ PACKET_COUNT_INVALID ∧
        buffer.PacketCount.toNat = buffer.Chunks.length) then
    combinePackets buffer.Chunks
  else []

def packetIdOf (data : List UInt8) : UInt32 := ToUInt32 data 12

/-- `DecodePacket`.  `BitConverter` throws where the header is cut short. -/
def DecodePacket (buffers : PacketBuffers) (data : List UInt8) :
    Option (PacketBuffers × List UInt8) :=
  if data.length < PACKET_NON_DATA_SIZE_BYTES then none
  else
    let buffer := addChunk (buffers (packetIdOf data)) data
    some (Function.update buffers (packetIdOf data) (some buffer), packetDataOf buffer data)

/-- One datagram after the other. -/
def decodeAll : PacketBuffers → List (List UInt8) → Option (PacketBuffers × List (List UInt8))
  | buffers, [] => some (buffers, [])
  | buffers, data :: rest => do
    let (buffers, packetData) ← DecodePacket buffers data
    let (buffers, later) ← decodeAll buffers rest
    some (buffers, packetData :: later)

/-! ### The final copy -/

/-- A chunk as a numbered piece. -/
def PartialPacketChunk.piece (c : PartialPacketChunk) : Piece UInt8 := (c.PacketPart.toNat, c.Data)

theorem pieceAt_map (chunks : List PartialPacketChunk) (k : ℕ) :
    pieceAt (chunks.map PartialPacketChunk.piece) k =
      ((chunks.find? fun c => decide (c.PacketPart.toNat = k)).map PartialPacketChunk.Data).getD
        [] := by
  rw [pieceAt, List.find?_map, Option.map_map]
  rfl

/-- A round copies behind what is there. -/
theorem copyPart_eq (chunks : List PartialPacketChunk) (written : List UInt8) (room k : ℕ) :
    copyPart chunks (written ++ List.replicate
        ((pieceAt (chunks.map PartialPacketChunk.piece) k).length + room) 0, written.length) k =
      (written ++ pieceAt (chunks.map PartialPacketChunk.piece) k ++ List.replicate room 0,
        (written ++ pieceAt (chunks.map PartialPacketChunk.piece) k).length) := by
  rw [pieceAt_map, copyPart]
  cases chunks.find? fun c => decide (c.PacketPart.toNat = k) with
  | none => simp
  | some c =>
    simp only [Option.map_some, Option.getD_some, blockCopy, List.length_append, Prod.mk.injEq,
      and_true]
    rw [List.take_left, List.drop_append, List.drop_of_length_le (by omega), List.drop_replicate,
      List.nil_append]
    congr 2
    omega

/-- The whole loop. -/
theorem copyParts_eq (chunks : List PartialPacketChunk) (room : ℕ) :
    ∀ (ks : List ℕ) (written : List UInt8),
      ks.foldl (copyPart chunks) (written ++ List.replicate
          ((ks.flatMap (pieceAt (chunks.map PartialPacketChunk.piece))).length + room) 0,
          written.length) =
        (written ++ ks.flatMap (pieceAt (chunks.map PartialPacketChunk.piece)) ++
          List.replicate room 0,
          (written ++ ks.flatMap (pieceAt (chunks.map PartialPacketChunk.piece))).length)
  | [], written => by simp
  | k :: ks, written => by
    rw [List.flatMap_cons, List.length_append, Nat.add_assoc, List.foldl_cons, copyPart_eq,
      copyParts_eq chunks room ks, List.append_assoc written]

/-- **The copy puts the chunks together by number**, if they fill the array. -/
theorem combinePackets_eq {chunks : List PartialPacketChunk}
    (h : (chunks.map fun c => c.Data.length).sum =
      (ordered (chunks.map PartialPacketChunk.piece)).length) :
    combinePackets chunks = ordered (chunks.map PartialPacketChunk.piece) := by
  have hcopy := copyParts_eq chunks 0 (List.range chunks.length) []
  have hordered : ordered (chunks.map PartialPacketChunk.piece) =
      (List.range chunks.length).flatMap (pieceAt (chunks.map PartialPacketChunk.piece)) := by
    rw [ordered, List.length_map]
  rw [← hordered, ← h, Nat.add_zero, List.nil_append, List.nil_append, List.replicate_zero,
    List.append_nil] at hcopy
  exact congrArg Prod.fst hcopy

/-! ### One packet id does not see another -/

/-- What the chunks of one id leave in its buffer. -/
def addTo (buffer : Option PartialPacketChunkTemporaryBuffer) (data : List UInt8) :
    Option PartialPacketChunkTemporaryBuffer := some (addChunk buffer data)

/-- **The answer to a chunk** depends on the earlier chunks of its own id only. -/
theorem decodeAll_eq : ∀ (arrivals : List (List UInt8)) (buffers : PacketBuffers),
    (∀ x ∈ arrivals, PACKET_NON_DATA_SIZE_BYTES ≤ x.length) →
    ∃ after outs, decodeAll buffers arrivals = some (after, outs) ∧
      outs.length = arrivals.length ∧
      ∀ past x rest, arrivals = past ++ x :: rest →
        outs[past.length]? = some (packetDataOf (addChunk
          ((past.filter fun y => decide (packetIdOf y = packetIdOf x)).foldl addTo
            (buffers (packetIdOf x))) x) x)
  | [], buffers, _ => ⟨buffers, [], rfl, rfl, fun past x rest h => by simp at h⟩
  | data :: arrivals, buffers, hlong => by
    obtain ⟨hdata, hrest⟩ := List.forall_mem_cons.1 hlong
    obtain ⟨after, outs, hrun, hlen, houts⟩ := decodeAll_eq arrivals
      (Function.update buffers (packetIdOf data) (addTo (buffers (packetIdOf data)) data)) hrest
    refine ⟨after, packetDataOf (addChunk (buffers (packetIdOf data)) data) data :: outs, ?_,
      by simp [hlen], fun past x rest h => ?_⟩
    · rw [decodeAll, DecodePacket, if_neg (not_lt.2 hdata)]
      simp only [Option.bind_eq_bind, Option.bind_some]
      rw [← addTo, hrun]
      rfl
    · cases past with
      | nil =>
        obtain ⟨rfl, -⟩ := List.cons.inj h
        rfl
      | cons y past =>
        obtain ⟨rfl, hbehind⟩ := List.cons.inj h
        rw [List.length_cons, List.getElem?_cons_succ, houts past x rest hbehind]
        by_cases hid : packetIdOf data = packetIdOf x
        · rw [List.filter_cons_of_pos (by simpa using hid), List.foldl_cons, ← hid,
            Function.update_self]
        · rw [List.filter_cons_of_neg (by simpa using hid),
            Function.update_of_ne (fun heq => hid heq.symm)]

/-! ### The chunks of a packet -/

theorem exists_chunk (h : s.Valid) {x : List UInt8} (hx : x ∈ s.chunks) :
    ∃ i d, s.pieces[i]? = some d ∧ x = s.chunk (i, d) := by
  rw [SplitPacketIntoChunks_eq h, List.mem_map] at hx
  obtain ⟨⟨i, d⟩, hmem, rfl⟩ := hx
  exact ⟨i, d, mem_numbered.1 hmem, rfl⟩

theorem index_lt (h : s.Valid) {i : ℕ} {d : List UInt8} (hi : s.pieces[i]? = some d) :
    i < s.pieces.length ∧ i < 2 ^ 31 := by
  obtain ⟨hlt, -⟩ := List.getElem?_eq_some_iff.1 hi
  have := h.pieces_length_lt
  omega

theorem isEof_chunk (h : s.Valid) {i : ℕ} {d : List UInt8} (hi : s.pieces[i]? = some d) :
    IsEof (s.chunk (i, d)) ↔ i = s.pieces.length - 1 := by
  have hlt := (index_lt h hi).2
  rw [IsEof, Send.chunk, chunkPacket_part, and_eof_iff, partBits_toNat hlt]
  split <;> omega

/-- A chunk is read back as the piece it was made of. -/
theorem chunkOf_chunk (h : s.Valid) {i : ℕ} {d : List UInt8} (hi : s.pieces[i]? = some d) :
    (chunkOf (s.chunk (i, d))).piece = (i, d) := by
  have hlt := (index_lt h hi).2
  rw [chunkOf, Send.chunk, chunkPacket_part, chunkPacket_data, PartialPacketChunk.piece,
    toNat_unmarked, partBits_toNat hlt]
  congr 1
  split <;> omega

theorem packetIdOf_chunk (p : Piece UInt8) : packetIdOf (s.chunk p) = s.packetId :=
  chunkPacket_id _ _ _

/-- The number of chunks, as the receiver counts them. -/
def Send.count (s : Send) : UInt32 := UInt32.ofNat s.pieces.length

theorem Send.Valid.count_toNat (h : s.Valid) : s.count.toNat = s.pieces.length := by
  have := h.pieces_length_lt
  rw [Send.count, UInt32.toNat_ofNat']
  omega

theorem Send.Valid.pieces_pos (h : s.Valid) : 0 < s.pieces.length := by
  rw [Send.pieces, cut_length]
  exact pieceCount_pos h.chunkSize_pos (List.length_pos_iff.2 h.nonempty)

theorem count_of_isEof (h : s.Valid) {x : List UInt8} (hx : x ∈ s.chunks) (heof : IsEof x) :
    (chunkOf x).PacketPart + 1 = s.count := by
  obtain ⟨i, d, hi, rfl⟩ := exists_chunk h hx
  have hlast := (isEof_chunk h hi).1 heof
  have hpart : (chunkOf (s.chunk (i, d))).PacketPart.toNat = i :=
    congrArg Prod.fst (chunkOf_chunk h hi)
  have hlen := h.pieces_length_lt
  have hpos := h.pieces_pos
  rw [← UInt32.toNat_inj, UInt32.toNat_add, hpart, h.count_toNat]
  have hone : (1 : UInt32).toNat = 1 := rfl
  rw [hone]
  omega

/-- **The buffer of a packet** behind some of its chunks: the chunks as they came, and the number of
    all chunks as soon as the marked one is among them. -/
theorem buffer_eq (h : s.Valid) (l : List (List UInt8)) : (∀ x ∈ l, x ∈ s.chunks) →
    (l.foldl addTo none).getD .new =
      ⟨l.map chunkOf, if ∃ x ∈ l, IsEof x then s.count else PACKET_COUNT_INVALID⟩ := by
  induction l using List.reverseRecOn with
  | nil => simp [PartialPacketChunkTemporaryBuffer.new]
  | append_singleton l x ih =>
    intro hl
    have hpast := ih fun y hy => hl y (List.mem_append_left _ hy)
    have hx : x ∈ s.chunks := hl x (by simp)
    rw [List.foldl_append, List.foldl_cons, List.foldl_nil, addTo, Option.getD_some, addChunk,
      hpast]
    by_cases heof : IsEof x
    · have hsome : ∃ y ∈ l ++ [x], IsEof y := ⟨x, by simp, heof⟩
      rw [if_pos heof, if_pos hsome, count_of_isEof h hx heof, List.map_append]
      rfl
    · have hiff : (∃ y ∈ l ++ [x], IsEof y) ↔ ∃ y ∈ l, IsEof y := by
        simp only [List.mem_append, List.mem_singleton]
        constructor
        · rintro ⟨y, hy | rfl, hyeof⟩
          · exact ⟨y, hy, hyeof⟩
          · exact absurd hyeof heof
        · rintro ⟨y, hy, hyeof⟩
          exact ⟨y, .inl hy, hyeof⟩
      rw [if_neg heof, List.map_append]
      simp only [hiff]
      rfl

/-- All chunks, in any order, give the packet. -/
theorem combinePackets_of_perm (h : s.Valid) {l : List (List UInt8)} (hl : l.Perm s.chunks) :
    combinePackets (l.map chunkOf) = s.packetData := by
  have hpieces : ((l.map chunkOf).map PartialPacketChunk.piece).Perm (numbered s.pieces) := by
    have hmap := (hl.map chunkOf).map PartialPacketChunk.piece
    rw [SplitPacketIntoChunks_eq h] at hmap
    have hid : (((numbered s.pieces).map s.chunk).map chunkOf).map PartialPacketChunk.piece =
        numbered s.pieces := by
      rw [List.map_map, List.map_map]
      conv_rhs => rw [← List.map_id (numbered s.pieces)]
      refine List.map_congr_left fun p hp => ?_
      exact chunkOf_chunk h (mem_numbered.1 hp)
    rwa [hid] at hmap
  have hflat : s.pieces.flatten = s.packetData := cut_flatten h.chunkSize_pos _
  have hordered := ordered_of_perm hpieces
  rw [hflat] at hordered
  have hlengths : ((l.map chunkOf).map fun c => c.Data.length).sum = s.packetData.length := by
    have hsum := (hpieces.map fun p => p.2.length).sum_eq
    have hnum : (numbered s.pieces).map (fun p => p.2.length) = s.pieces.map List.length := by
      rw [numbered, List.map_map]
      have hzip := List.zipIdx_map_fst 0 s.pieces
      conv_rhs => rw [← hzip, List.map_map]
      rfl
    rw [hnum, ← List.length_flatten, hflat, List.map_map] at hsum
    exact hsum
  rw [combinePackets_eq (by rw [hordered, hlengths]), hordered]

/-- The answer to a chunk of a packet, the chunks `l` of it before and `r` behind. -/
theorem packetDataOf_chunk (h : s.Valid) {l r : List (List UInt8)} {x : List UInt8}
    (hperm : (l ++ x :: r).Perm s.chunks) :
    packetDataOf (addChunk (l.foldl addTo none) x) x = if r = [] then s.packetData else [] := by
  have hmem : ∀ y ∈ l ++ [x], y ∈ s.chunks := fun y hy => hperm.subset (by
    rcases List.mem_append.1 hy with hy | hy
    · exact List.mem_append_left _ hy
    · rw [List.mem_singleton.1 hy]
      simp)
  have hbuffer := buffer_eq h (l ++ [x]) hmem
  rw [List.foldl_append, List.foldl_cons, List.foldl_nil, addTo, Option.getD_some] at hbuffer
  have hlen : l.length + (r.length + 1) = s.pieces.length := by
    have hlength := hperm.length_eq
    rw [SplitPacketIntoChunks_eq h, List.length_map, numbered_length, List.length_append,
      List.length_cons] at hlength
    exact hlength
  have hsmall := h.pieces_length_lt
  have hinvalid : PACKET_COUNT_INVALID.toNat = 2 ^ 32 - 1 := rfl
  rw [packetDataOf, hbuffer]
  by_cases hr : r = []
  · subst hr
    -- the marked chunk is among them
    have heof : ∃ y ∈ l ++ [x], IsEof y := by
      have hpos := h.pieces_pos
      obtain ⟨d, hd⟩ : ∃ d, s.pieces[s.pieces.length - 1]? = some d :=
        ⟨_, List.getElem?_eq_getElem (by omega)⟩
      refine ⟨s.chunk (s.pieces.length - 1, d), hperm.mem_iff.2 ?_, (isEof_chunk h hd).2 rfl⟩
      rw [SplitPacketIntoChunks_eq h]
      exact List.mem_map_of_mem (mem_numbered.2 hd)
    have hne : s.count ≠ PACKET_COUNT_INVALID := by
      intro heq
      have hnat := congrArg UInt32.toNat heq
      rw [h.count_toNat, hinvalid] at hnat
      omega
    have hcount : s.count.toNat = ((l ++ [x]).map chunkOf).length := by
      rw [h.count_toNat, List.length_map, List.length_append, List.length_singleton]
      simpa using hlen.symm
    rw [if_pos heof, if_pos (.inr ⟨hne, hcount⟩), if_pos rfl]
    exact combinePackets_of_perm h hperm
  · have hrpos : 0 < r.length := List.length_pos_iff.2 hr
    have hcount : (if ∃ y ∈ l ++ [x], IsEof y then s.count else PACKET_COUNT_INVALID).toNat ≠
        ((l ++ [x]).map chunkOf).length := by
      rw [List.length_map, List.length_append, List.length_singleton]
      split
      next => rw [h.count_toNat]; omega
      next => rw [hinvalid]; omega
    rw [if_neg (by rintro (⟨-, heq⟩ | ⟨-, heq⟩) <;> exact hcount heq), if_neg hr]

/-- **A packet comes out once, whole, with the last of its chunks.**  Whatever datagrams of other
    packet ids arrive in between, and in whatever order its chunks do, each once: the call for the
    last of them returns the packet, the calls for the others nothing. -/
theorem decodeAll_reassembles (h : s.Valid) {buffers : PacketBuffers}
    (hfresh : buffers s.packetId = none) {arrivals : List (List UInt8)}
    (hlong : ∀ x ∈ arrivals, PACKET_NON_DATA_SIZE_BYTES ≤ x.length)
    (honce : (arrivals.filter fun x => decide (packetIdOf x = s.packetId)).Perm s.chunks) :
    ∃ after outs, decodeAll buffers arrivals = some (after, outs) ∧
      ∀ past x rest, arrivals = past ++ x :: rest → packetIdOf x = s.packetId →
        outs[past.length]? =
          some (if ∀ y ∈ rest, packetIdOf y ≠ s.packetId then s.packetData else []) := by
  obtain ⟨after, outs, hrun, -, houts⟩ := decodeAll_eq arrivals buffers hlong
  refine ⟨after, outs, hrun, fun past x rest harr hid => ?_⟩
  rw [houts past x rest harr]
  have hperm : ((past.filter fun y => decide (packetIdOf y = packetIdOf x)) ++
      x :: rest.filter fun y => decide (packetIdOf y = packetIdOf x)).Perm s.chunks := by
    rw [harr, List.filter_append, List.filter_cons_of_pos (by simpa using hid), ← hid] at honce
    exact honce
  rw [hid, hfresh, ← hid, packetDataOf_chunk h hperm]
  congr 2
  rw [List.filter_eq_nil_iff, hid]
  simp

/-- Two chunks of two bytes. -/
def threeBytes : Send := ⟨7, [1, 2, 3], 18⟩

/-- The last chunk first, one of another packet in between. -/
theorem threeBytes_reassembles : ∃ after outs,
    decodeAll (fun _ => none) [chunkPacket 7 (partBits 2 1) [3], chunkPacket 9 0 [5],
      chunkPacket 7 (partBits 2 0) [1, 2]] = some (after, outs) ∧
    outs[0]? = some [] ∧ outs[2]? = some [1, 2, 3] := by
  have hvalid : threeBytes.Valid := ⟨by decide, by decide, by decide⟩
  obtain ⟨after, outs, hrun, houts⟩ := @decodeAll_reassembles threeBytes hvalid
    (fun _ => none) rfl [chunkPacket 7 (partBits 2 1) [3], chunkPacket 9 0 [5],
      chunkPacket 7 (partBits 2 0) [1, 2]] (by decide) (by decide)
  exact ⟨after, outs, hrun, houts [] _ _ rfl (by decide),
    houts [chunkPacket 7 (partBits 2 1) [3], chunkPacket 9 0 [5]] _ [] rfl (by decide)⟩

end WKPairDriver.Sandbox
