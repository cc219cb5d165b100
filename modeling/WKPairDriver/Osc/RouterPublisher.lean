import Mathlib
import WKPairDriver.Osc.PubPipe
import WKPairDriver.Osc.Wire

/-!
# The captions host's end of the publish pipe: `RouterPublisher`

The publisher writes its 32-byte source id once, when it connects, and then for each packet the
4-byte length and the packet; the router's worker expects the source id before every length.
Every operating-system call the publisher makes may fail; its outcome is an input.

* `run_inv` — on an open connection the stream is the source id and then one length and packet for
  each call made on it.
* `frames_streamOf_iff`, `framingAgrees_iff` — the router reads the calls of a connection back
  exactly when at most one call was made on it.
* `secondCall_misread` — two calls, of which the second is read with a source id made of its own
  length and address.
-/

set_option autoImplicit false

namespace WKPairDriver.Osc.RouterPublisher

open Lib.Bytes

/-! ## Encoding -/

/-- `kSourceId`: "translator" and NULs up to 32 bytes. -/
def kSourceId : List UInt8 := ascii "translator" ++ List.replicate 22 0

theorem kSourceId_length : kSourceId.length = 32 := by decide

/-- `Pad4`, the same computation as `OscPad4`. -/
def pad4 (n : ℕ) : ℕ := oscPad4 n

/-- What `WriteOscString` appends: the C string, its NUL and the padding. -/
def writeOscString (s : List UInt8) : List UInt8 := oscString s

/-- `kLimit`. -/
def kLimit : ℕ := 144

/-- `kMaxBackoffMs`. -/
def kMaxBackoffMs : ℕ := 15000

/-- The search for a whitespace at or before byte `cut`. -/
def findCut (text : List UInt8) : ℕ → ℕ
  | 0 => 0
  | cut + 1 =>
    if text.getD (cut + 1) 0 ∈ ascii " \t\r\n" then cut + 1 else findCut text cut

theorem findCut_le (text : List UInt8) : ∀ cut, findCut text cut ≤ cut
  | 0 => Nat.le_refl _
  | cut + 1 => by
    unfold findCut
    split
    · exact Nat.le_refl _
    · exact Nat.le_succ_of_le (findCut_le text cut)

/-- `TruncateToVrchatLimit`. -/
def truncateToVrchatLimit (text : List UInt8) : List UInt8 :=
  if text.length ≤ kLimit then text
  else
    let cut := findCut text kLimit
    let cut := if cut = 0 then kLimit else cut
    text.take cut ++ ascii "..."

theorem truncateToVrchatLimit_length (text : List UInt8) :
    (truncateToVrchatLimit text).length ≤ kLimit + 3 := by
  have hcut := findCut_le text kLimit
  have hdots : (ascii "...").length = 3 := by decide
  unfold truncateToVrchatLimit
  split
  · omega
  · simp only [List.length_append, List.length_take, hdots]
    split <;> omega

/-- The arguments of `PublishChatbox`. -/
structure Message where
  text : List UInt8
  send_immediate : Bool
  notify : Bool

/-- The type tag `",s%c%c"`. -/
def typetag (send_immediate notify : Bool) : List UInt8 :=
  ascii ",s" ++ (if send_immediate then ascii "T" else ascii "F") ++
    (if notify then ascii "T" else ascii "F")

/-- `EncodeChatboxPacket` of a C string; the empty result is its error. -/
def encodeChatboxPacket (buf_size : ℕ) (text : List UInt8) (send_immediate notify : Bool) :
    List UInt8 :=
  let tag := typetag send_immediate notify
  let total := pad4 ((ascii "/chatbox/input").length + 1) + pad4 (tag.length + 1) +
    pad4 (text.length + 1)
  if total > buf_size then []
  else writeOscString (ascii "/chatbox/input") ++ writeOscString tag ++ writeOscString text

/-- The packet of a call: the text truncated and handed on as a C string, in a buffer of 1024. -/
def packet (m : Message) : List UInt8 :=
  encodeChatboxPacket 1024 (cstr (truncateToVrchatLimit m.text)) m.send_immediate m.notify

/-- Every packet fits the buffer and the router's entries; none is shorter than the 28 bytes of an
    empty text. -/
theorem packet_length (m : Message) : 28 ≤ (packet m).length ∧ (packet m).length ≤ 172 := by
  have ht : (cstr (truncateToVrchatLimit m.text)).length ≤ 147 :=
    (cstr_length_le _).trans (truncateToVrchatLimit_length m.text)
  have ha : (ascii "/chatbox/input").length = 14 := by decide
  have htag : (typetag m.send_immediate m.notify).length = 4 := by
    cases m.send_immediate <;> cases m.notify <;> decide
  have hpad : oscPad4 (14 + 1) = 16 ∧ oscPad4 (4 + 1) = 8 := by decide
  have htext : 4 ≤ oscPad4 ((cstr (truncateToVrchatLimit m.text)).length + 1) ∧
      oscPad4 ((cstr (truncateToVrchatLimit m.text)).length + 1) ≤ 148 := by
    unfold oscPad4
    omega
  simp only [packet, encodeChatboxPacket, pad4, writeOscString, ha, htag, hpad.1, hpad.2]
  rw [if_neg (by omega)]
  simp only [List.length_append]
  rw [oscString_length (by omega), oscString_length (by omega), oscString_length (by omega), ha,
    htag, hpad.1, hpad.2]
  omega

/-! ## The connection -/

/-- An open pipe: the bytes written to it and, as history, the calls that were made on it. -/
structure Connection where
  stream : List UInt8
  calls : List Message

/-- The members of the class. -/
structure Publisher where
  pipe_ : Option Connection
  identified_ : Bool
  backoff_ms_ : ℕ

def Publisher.new : Publisher := ⟨none, false, 500⟩

/-- `Disconnect`. -/
def Publisher.disconnect (p : Publisher) : Publisher :=
  { p with pipe_ := none, identified_ := false }

/-- What the operating system does in one attempt: whether `CreateFileA` opens the pipe, and for
    each `Write` whether it completes (`none`) or fails after some bytes. -/
structure Os where
  createFile : Bool
  writeId : Option ℕ
  writeLen : Option ℕ
  writePkt : Option ℕ

/-- `Write`: the bytes that reached the pipe, and whether all of them did. -/
def write (data : List UInt8) (failure : Option ℕ) (stream : List UInt8) : List UInt8 × Bool :=
  match failure with
  | none => (stream ++ data, true)
  | some written => (stream ++ data.take written, false)

/-- `Connect`. -/
def Publisher.connect (os : Os) (p : Publisher) : Publisher × Bool :=
  let p := p.disconnect
  if os.createFile then
    match write kSourceId os.writeId [] with
    | (stream, true) =>
      ({ pipe_ := some ⟨stream, []⟩, identified_ := true, backoff_ms_ := 500 }, true)
    | (_, false) => (p.disconnect, false)
  else (p, false)

/-- The two writes of an attempt; a failure disconnects and goes round the loop again. -/
def Publisher.writePacket (os : Os) (m : Message) (p : Publisher) (c : Connection) :
    Publisher × Option Bool :=
  if packet m = [] then (p, some false)
  else
    match write (le32 (packet m).length) os.writeLen c.stream with
    | (_, false) => (p.disconnect, none)
    | (stream, true) =>
      match write (packet m) os.writePkt stream with
      | (_, false) => (p.disconnect, none)
      | (stream, true) => ({ p with pipe_ := some ⟨stream, c.calls ++ [m]⟩ }, some true)

/-- One round of the loop of `PublishChatbox`; the right value is its return, if it returns. -/
def Publisher.attempt (os : Os) (m : Message) (p : Publisher) : Publisher × Option Bool :=
  match p.pipe_, p.identified_ with
  | some c, true => p.writePacket os m c
  | _, _ =>
    match p.connect os with
    | (p, false) => ({ p with backoff_ms_ := min (p.backoff_ms_ * 2) kMaxBackoffMs }, some false)
    | (p, true) =>
      match p.pipe_ with
      | none => (p, none)
      | some c => p.writePacket os m c

/-- `PublishChatbox`: two attempts, then back off. -/
def Publisher.publishChatbox (m : Message) (os₁ os₂ : Os) (p : Publisher) : Publisher × Bool :=
  match p.attempt os₁ m with
  | (p, some r) => (p, r)
  | (p, none) =>
    match p.attempt os₂ m with
    | (p, some r) => (p, r)
    | (p, none) => ({ p with backoff_ms_ := min (p.backoff_ms_ * 2) kMaxBackoffMs }, false)

inductive Action where
  | publishChatbox (m : Message) (os₁ os₂ : Os)
  | disconnect

def step (p : Publisher) : Action → Publisher
  | .publishChatbox m os₁ os₂ => (p.publishChatbox m os₁ os₂).1
  | .disconnect => p.disconnect

/-- A publisher after any calls, with any outcome of the system calls inside them. -/
def run (as : List Action) : Publisher := as.foldl step Publisher.new

/-- The calls made on the connection that is open. -/
def Publisher.calls (p : Publisher) : List Message :=
  match p.pipe_ with
  | none => []
  | some c => c.calls

/-- The router reads from the open connection the packets of its calls, in order, each under the
    announced source id. -/
def FramingAgrees (p : Publisher) : Prop :=
  ∀ c ∈ p.pipe_, frames c.stream = c.calls.map fun m => (kSourceId, packet m)

/-! ## The stream of a connection -/

/-- The stream the calls on one connection make. -/
def streamOf (calls : List Message) : List UInt8 :=
  kSourceId ++ calls.flatMap fun m => le32 (packet m).length ++ packet m

/-- On an open pipe the source id has been written and every call has left a whole frame. -/
def Inv (p : Publisher) : Prop :=
  ∀ c ∈ p.pipe_, p.identified_ = true ∧ c.stream = streamOf c.calls

theorem Inv.disconnect (p : Publisher) : Inv p.disconnect := by
  intro c hc
  cases hc

theorem Inv.writePacket {p : Publisher} {c : Connection} (hs : Inv p) (hc : c ∈ p.pipe_) (os : Os)
    (m : Message) : Inv (p.writePacket os m c).1 := by
  obtain ⟨hid, hstream⟩ := hs c hc
  unfold Publisher.writePacket
  split
  · exact hs
  · cases hlen : os.writeLen with
    | some written => exact Inv.disconnect p
    | none =>
      cases hpkt : os.writePkt with
      | some written => exact Inv.disconnect p
      | none =>
        intro c' hc'
        cases hc'
        refine ⟨hid, ?_⟩
        simp only [hstream, streamOf, List.flatMap_append, List.flatMap_cons, List.flatMap_nil,
          List.append_nil, List.append_assoc]

/-- A connection that `Connect` opened carries the source id and nothing else. -/
theorem connect_spec {p p' : Publisher} {os : Os} {ok : Bool} (h : p.connect os = (p', ok)) :
    (ok = false ∧ p'.pipe_ = none) ∨
      (ok = true ∧ p'.pipe_ = some ⟨kSourceId, []⟩ ∧ p'.identified_ = true) := by
  unfold Publisher.connect at h
  split at h
  · cases hid : os.writeId with
    | some written => simp only [hid, write] at h; cases h; exact .inl ⟨rfl, rfl⟩
    | none => simp only [hid, write] at h; cases h; exact .inr ⟨rfl, rfl, rfl⟩
  · cases h; exact .inl ⟨rfl, rfl⟩

theorem Inv.attempt {p : Publisher} (hs : Inv p) (os : Os) (m : Message) :
    Inv (p.attempt os m).1 := by
  unfold Publisher.attempt
  split
  · rename_i c hc hid
    exact hs.writePacket hc os m
  · split
    · rename_i p' hconn
      rcases connect_spec hconn with ⟨-, hp⟩ | ⟨hok, -⟩
      · exact fun c hc => by rw [hp] at hc; cases hc
      · cases hok
    · rename_i p' hconn
      rcases connect_spec hconn with ⟨hok, -⟩ | ⟨-, hp, hid⟩
      · cases hok
      · have hs' : Inv p' := fun c hc => by
          rw [hp] at hc
          cases hc
          exact ⟨hid, by simp [streamOf]⟩
        split
        · exact hs'
        · rename_i c hc
          exact hs'.writePacket hc os m

theorem step_inv {p : Publisher} (hs : Inv p) (a : Action) : Inv (step p a) := by
  cases a with
  | disconnect => exact Inv.disconnect p
  | publishChatbox m os₁ os₂ =>
    simp only [step, Publisher.publishChatbox]
    have h₁ := hs.attempt os₁ m
    split
    · rename_i p₁ r heq
      rw [heq] at h₁
      exact h₁
    · rename_i p₁ heq
      rw [heq] at h₁
      have h₂ := Inv.attempt h₁ os₂ m
      split
      · rename_i p₂ r heq₂
        rw [heq₂] at h₂
        exact h₂
      · rename_i p₂ heq₂
        rw [heq₂] at h₂
        exact fun c hc => h₂ c hc

theorem run_inv (as : List Action) : Inv (run as) := by
  have h : ∀ p, Inv p → Inv (as.foldl step p) := by
    induction as with
    | nil => exact fun p hp => hp
    | cons a as ih => exact fun p hp => ih _ (step_inv hp a)
  apply h
  intro c hc
  cases hc

/-! ## Reading the stream -/

theorem packet_ne_nil (m : Message) : packet m ≠ [] := by
  have := (packet_length m).1
  intro h
  simp [h] at this

/-- The first call is read back under the announced id. -/
theorem frames_cons (m : Message) (calls : List Message) :
    frames (streamOf (m :: calls)) =
      (kSourceId, packet m) ::
        frames (calls.flatMap fun m => le32 (packet m).length ++ packet m) := by
  have hlen := packet_length m
  have hread := readFrame_append (calls.flatMap fun m => le32 (packet m).length ++ packet m)
    kSourceId_length (packet_ne_nil m) (by unfold kSendQueueEntryMaxSize; omega)
  rw [← frames_some hread]
  simp only [streamOf, List.flatMap_cons, List.append_assoc]

/-- The second frame starts with a length below 256, which no source id "translator" does. -/
theorem frames_second {m : Message} {rest : List UInt8} {f : Frame} {fs : List Frame}
    (h : frames (le32 (packet m).length ++ packet m ++ rest) = f :: fs) : f.1 ≠ kSourceId := by
  intro hid
  have h1 : f.1[1]? = some (UInt8.ofNat ((packet m).length / 2 ^ 8)) := by
    rw [frames_source h]
    rfl
  rw [hid, Nat.div_eq_of_lt (by have := (packet_length m).2; omega)] at h1
  exact absurd h1 (by decide)

/-- A stream of calls is read back as those calls exactly when there is at most one. -/
theorem frames_streamOf_iff (calls : List Message) :
    frames (streamOf calls) = calls.map (fun m => (kSourceId, packet m)) ↔ calls.length ≤ 1 := by
  match calls with
  | [] => exact ⟨fun _ => Nat.zero_le _, fun _ => frames_none (by decide +kernel)⟩
  | [m] =>
    refine ⟨fun _ => Nat.le_refl _, fun _ => ?_⟩
    rw [frames_cons, List.flatMap_nil, frames_nil]
    rfl
  | m :: m' :: calls =>
    refine ⟨fun h => ?_, fun h => by simp at h⟩
    rw [frames_cons] at h
    have h2 := (List.cons.inj h).2
    rw [List.flatMap_cons] at h2
    exact absurd rfl (frames_second h2)

/-- **Framing of one connection.**  Whatever calls were made and whatever failed in them, the
    router reads the open connection back as the calls made on it exactly when at most one was. -/
theorem framingAgrees_iff (as : List Action) :
    FramingAgrees (run as) ↔ (run as).calls.length ≤ 1 := by
  have hinv := run_inv as
  unfold FramingAgrees Publisher.calls
  cases hp : (run as).pipe_ with
  | none => exact iff_of_true (fun c hc => by cases hc) (Nat.zero_le _)
  | some c =>
    have hstream : c.stream = streamOf c.calls := (hinv c hp).2
    simp only [Option.mem_def, Option.some.injEq, forall_eq', hstream]
    exact frames_streamOf_iff c.calls

def allOk : Os := ⟨true, none, none, none⟩

/-- Two successful calls on one connection. -/
def secondCall : List Action :=
  [.publishChatbox ⟨ascii "hello", true, false⟩ allOk allOk,
   .publishChatbox ⟨ascii "world", true, false⟩ allOk allOk]

theorem secondCall_misread : ¬ FramingAgrees (run secondCall) := by
  intro h
  obtain ⟨c, hc, hlen⟩ : ∃ c ∈ (run secondCall).pipe_, c.calls.length = 2 :=
    ⟨_, rfl, rfl⟩
  have hread := h c hc
  rw [(run_inv secondCall c hc).2, frames_streamOf_iff] at hread
  omega

end WKPairDriver.Osc.RouterPublisher
