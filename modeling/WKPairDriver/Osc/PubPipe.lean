import WKPairDriver.Lib.Bytes

/-!
# The publish pipe of the OSC router: `OscRouter::PubPipeWorkerMain`

The router's end of the pipe.  Each frame is `[32-byte source-id][4-byte LE length][OSC packet]`;
the worker reads one frame after another until a read falls short or a length is out of range.

* `readFrame` — one iteration of the frame loop, up to the enqueue.
* `frames` — all the frames the loop reads from a client that wrote the given stream and left.
* `readFrame_append` — a well-formed frame at the front of a stream is read back whole.
* `frames_source` — the source id of the first frame read is the first 32 bytes of the stream.
-/

set_option autoImplicit false

namespace WKPairDriver.Osc

open Lib.Bytes

/-- `kSendQueueEntryMaxSize`. -/
def kSendQueueEntryMaxSize : ℕ := 512

/-- `ReadFile` of up to `size` bytes; it fails at the end of the stream. -/
def readFile (size : ℕ) : List UInt8 → Option (List UInt8 × List UInt8)
  | [] => none
  | b :: s => some ((b :: s).take size, (b :: s).drop size)

theorem readFile_eq {size : ℕ} {s : List UInt8} (h : s ≠ []) :
    readFile size s = some (s.take size, s.drop size) := by
  cases s with
  | nil => exact absurd rfl h
  | cons b s => rfl

theorem readFile_spec {size : ℕ} {s got rest : List UInt8} (h : readFile size s = some (got, rest)) :
    s ≠ [] ∧ got = s.take size ∧ rest = s.drop size := by
  cases s with
  | nil => cases h
  | cons b s => cases h; exact ⟨List.cons_ne_nil _ _, rfl, rfl⟩

/-- `!ReadFile(.., size, ..) || got != size` ends the connection. -/
def readExact (size : ℕ) (s : List UInt8) : Option (List UInt8 × List UInt8) :=
  match readFile size s with
  | none => none
  | some (got, rest) => if got.length = size then some (got, rest) else none

theorem readExact_append {size : ℕ} {a : List UInt8} (b : List UInt8) (h0 : size ≠ 0)
    (h : a.length = size) : readExact size (a ++ b) = some (a, b) := by
  subst h
  have ha : a ≠ [] := fun h' => h0 (List.length_eq_zero_iff.2 h')
  rw [readExact, readFile_eq (by simp [ha]), List.take_left, List.drop_left]
  exact if_pos rfl

theorem readExact_spec {size : ℕ} {s got rest : List UInt8}
    (h : readExact size s = some (got, rest)) :
    got = s.take size ∧ got.length = size ∧ rest = s.drop size := by
  unfold readExact at h
  split at h
  · cases h
  · rename_i got' rest' hr
    split at h
    · rename_i hlen
      cases h
      exact ⟨(readFile_spec hr).2.1, hlen, (readFile_spec hr).2.2⟩
    · cases h

/-- The chunk loop: read until `need` more bytes are in `frameBuf`. -/
def readBody (need : ℕ) (frameBuf s : List UInt8) : Option (List UInt8 × List UInt8) :=
  if need = 0 then some (frameBuf, s)
  else
    match _h : readFile need s with
    | none => none
    | some (chunk, rest) => readBody (need - chunk.length) (frameBuf ++ chunk) rest
termination_by s.length
decreasing_by
  obtain ⟨hs, -, hrest⟩ := readFile_spec _h
  have : 0 < s.length := List.length_pos_iff.2 hs
  rw [hrest, List.length_drop]
  omega

theorem readBody_zero (frameBuf s : List UInt8) : readBody 0 frameBuf s = some (frameBuf, s) := by
  rw [readBody, if_pos rfl]

/-- The chunk loop takes exactly the bytes it needs. -/
theorem readBody_append (frameBuf : List UInt8) {body : List UInt8} (s : List UInt8)
    (h : body ≠ []) : readBody body.length frameBuf (body ++ s) = some (frameBuf ++ body, s) := by
  have hlen : body.length ≠ 0 := fun h' => h (List.length_eq_zero_iff.1 h')
  have hread : readFile body.length (body ++ s) = some (body, s) := by
    rw [readFile_eq (by simp [h]), List.take_left, List.drop_left]
  rw [readBody, if_neg hlen]
  split
  · rename_i h'
    rw [hread] at h'
    cases h'
  · rename_i chunk rest h'
    rw [hread] at h'
    cases h'
    rw [Nat.sub_self, readBody_zero]

/-- It fills the buffer by the bytes it needs and never reads more than there is. -/
theorem readBody_length {need : ℕ} {frameBuf s buf rest : List UInt8}
    (h : readBody need frameBuf s = some (buf, rest)) :
    buf.length = frameBuf.length + need ∧ rest.length ≤ s.length := by
  fun_induction readBody need frameBuf s with
  | case1 =>
    rename_i hneed
    cases h
    exact ⟨by omega, Nat.le_refl _⟩
  | case2 => cases h
  | case3 need frameBuf s hneed chunk rest' hr ih =>
    obtain ⟨hbuf, hrest⟩ := ih h
    obtain ⟨-, hchunk, hrest'⟩ := readFile_spec hr
    have hle : chunk.length ≤ need := by
      rw [hchunk, List.length_take]
      omega
    rw [hrest', List.length_drop] at hrest
    rw [List.length_append] at hbuf
    exact ⟨by omega, by omega⟩

/-- A source id and an OSC packet. -/
abbrev Frame := List UInt8 × List UInt8

/-- One frame of the stream; `none` leaves the frame loop. -/
def readFrame (s : List UInt8) : Option (Frame × List UInt8) :=
  match readExact 32 s with
  | none => none
  | some (source_id, s) =>
    match readExact 4 s with
    | none => none
    | some (lenBuf, s) =>
      let frameLen := ofLe32 lenBuf
      if frameLen = 0 ∨ frameLen > kSendQueueEntryMaxSize then none
      else
        match readBody frameLen [] s with
        | none => none
        | some (frameBuf, s) => some ((source_id, frameBuf), s)

/-- **A well-formed frame is read back whole**, and the rest of the stream is left for the next
    one. -/
theorem readFrame_append {source_id packet : List UInt8} (s : List UInt8)
    (hid : source_id.length = 32) (h0 : packet ≠ [])
    (hmax : packet.length ≤ kSendQueueEntryMaxSize) :
    readFrame (source_id ++ (le32 packet.length ++ (packet ++ s))) =
      some ((source_id, packet), s) := by
  have hlen : ofLe32 (le32 packet.length) = packet.length :=
    ofLe32_le32 (Nat.lt_of_le_of_lt hmax (by decide))
  have h0' : ¬(packet.length = 0 ∨ packet.length > kSendQueueEntryMaxSize) := by
    have := List.length_pos_iff.2 h0
    omega
  have h1 := readExact_append (le32 packet.length ++ (packet ++ s)) (by decide) hid
  have h2 := readExact_append (packet ++ s) (by decide) (le32_length packet.length)
  simp only [readFrame, h1, h2, hlen, if_neg h0', readBody_append [] s h0, List.nil_append]

/-- **What the worker accepts**: the source id is the first 32 bytes, the packet is not empty and
    fits an entry of the send queue. -/
theorem readFrame_spec {s rest : List UInt8} {f : Frame} (h : readFrame s = some (f, rest)) :
    f.1 = s.take 32 ∧ 0 < f.2.length ∧ f.2.length ≤ kSendQueueEntryMaxSize ∧
      rest.length < s.length := by
  unfold readFrame at h
  split at h
  · cases h
  · rename_i source_id s1 h1
    obtain ⟨hsrc, hlen, hs1⟩ := readExact_spec h1
    split at h
    · cases h
    · rename_i lenBuf s2 h2
      obtain ⟨-, -, hs2⟩ := readExact_spec h2
      simp only at h
      split at h
      · cases h
      · rename_i hframeLen
        split at h
        · cases h
        · rename_i frameBuf s3 h3
          cases h
          obtain ⟨hbuf, hrest⟩ := readBody_length h3
          rw [List.length_nil, Nat.zero_add] at hbuf
          rw [hsrc, List.length_take] at hlen
          rw [hs2, hs1, List.length_drop, List.length_drop] at hrest
          exact ⟨hsrc, (by omega : 0 < frameBuf.length),
            (by omega : frameBuf.length ≤ kSendQueueEntryMaxSize), by omega⟩

/-- The frames the worker reads from one client. -/
def frames (s : List UInt8) : List Frame :=
  match _h : readFrame s with
  | none => []
  | some (f, rest) => f :: frames rest
termination_by s.length
decreasing_by exact (readFrame_spec _h).2.2.2

theorem frames_none {s : List UInt8} (h : readFrame s = none) : frames s = [] := by
  rw [frames]
  split
  · rfl
  · rename_i h'
    rw [h] at h'
    cases h'

theorem frames_some {s rest : List UInt8} {f : Frame} (h : readFrame s = some (f, rest)) :
    frames s = f :: frames rest := by
  rw [frames]
  split
  · rename_i h'
    rw [h] at h'
    cases h'
  · rename_i h'
    rw [h] at h'
    cases h'
    rfl

@[simp] theorem frames_nil : frames [] = [] := frames_none rfl

theorem frames_source {s : List UInt8} {f : Frame} {fs : List Frame} (h : frames s = f :: fs) :
    f.1 = s.take 32 := by
  cases hr : readFrame s with
  | none => rw [frames_none hr] at h; cases h
  | some p =>
    obtain ⟨f', rest⟩ := p
    rw [frames_some hr] at h
    cases h
    exact (readFrame_spec hr).1

end WKPairDriver.Osc
