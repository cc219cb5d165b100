import Mathlib
import WKPairDriver.Lib.Ring
import WKPairDriver.Lib.Run
import WKPairDriver.Osc.PubPipe
import WKPairDriver.Osc.Wire

/-!
# The send queue of the OSC router

Producers append packets to a bounded ring under `queueMutex_`; the send worker takes them out one
at a time and hands them to the UDP socket.  The overflow counter `droppedCount_` counts the
packets the ring refused.  A packet the worker has taken is discarded, without a count, when the
socket is not open or the send fails.

* `Router` — the state, with the fate of every packet as history; `step` — one locked section of a
  producer or one stage of the worker's loop.
* `sendQueue_conserves` — over every interleaving, every accepted packet has exactly one fate, the
  refused ones are those counted, and the sent ones are a subsequence of the queued ones.
* `closedSocket_uncounted` — a packet that is neither sent, nor queued, nor counted.
-/

set_option autoImplicit false

namespace WKPairDriver.Osc

open Lib Lib.Bytes

/-- `kSendQueueCapacity`. -/
def kSendQueueCapacity : ℕ := 1024

instance : NeZero kSendQueueCapacity := ⟨by decide⟩

/-- `SendEntry`.  `seq` is history: the number of packets accepted before this one. -/
structure SendEntry where
  data : List UInt8
  seq : ℕ
deriving DecidableEq

/-- What became of a packet the send worker took from the queue. -/
inductive Fate where
  | sent
  | sendFailed
  | notOpen
  | empty
deriving DecidableEq

/-- Where the send worker stands in its loop. -/
inductive SendWorker where
  | loopHead
  | waiting
  | sending (entry : SendEntry)
  | stopped
deriving DecidableEq

/-- The global counters of the stats segment. -/
structure OscRouterStats where
  packets_sent : ℕ
  bytes_sent : ℕ
  packets_dropped : ℕ

/-- The members of `OscRouter` and `UdpSender` that decide the fate of a packet.  `accepted` and
    `taken` are history: the packets handed to `EnqueueLocked`, with its result, and the packets
    the worker is done with. -/
structure Router where
  queue : Ring kSendQueueCapacity SendEntry
  worker : SendWorker
  socketOpen : Bool
  sendPort_ : ℕ
  pendingSendPort_ : ℕ
  stop_ : Bool
  client : Option (List UInt8)
  droppedCount_ : ℕ
  packetsSent_ : ℕ
  bytesSent_ : ℕ
  statsShmem_ : Option OscRouterStats
  accepted : List (SendEntry × Bool)
  taken : List (SendEntry × Fate)

/-- After `Init`: the socket and the stats segment may each have failed to open. -/
def Router.init (socketOpen shmemReady : Bool) : Router where
  queue := Ring.empty ⟨[], 0⟩
  worker := .loopHead
  socketOpen := socketOpen
  sendPort_ := 9000
  pendingSendPort_ := 0
  stop_ := false
  client := none
  droppedCount_ := 0
  packetsSent_ := 0
  bytesSent_ := 0
  statsShmem_ := if shmemReady then some ⟨0, 0, 0⟩ else none
  accepted := []
  taken := []

/-! ## Producers -/

/-- `EnqueueLocked`. -/
def enqueueLocked (q : Ring kSendQueueCapacity SendEntry) (entry : SendEntry) :
    Option (Ring kSendQueueCapacity SendEntry) :=
  if entry.data.length > kSendQueueEntryMaxSize then none else q.push entry

/-- `AddDropped`. -/
def OscRouterStats.addDropped (st : OscRouterStats) : OscRouterStats :=
  { st with packets_dropped := st.packets_dropped + 1 }

/-- The locked section of both producers: enqueue, or count the packet as dropped. -/
def Router.enqueueOrCount (s : Router) (data : List UInt8) : Router :=
  let entry := ⟨data, s.accepted.length⟩
  match enqueueLocked s.queue entry with
  | some q => { s with queue := q, accepted := s.accepted ++ [(entry, true)] }
  | none => { s with
      droppedCount_ := s.droppedCount_ + 1
      statsShmem_ := s.statsShmem_.map OscRouterStats.addDropped
      accepted := s.accepted ++ [(entry, false)] }

/-- `BuildAndEnqueue`: a packet that does not fit its buffer is not accepted. -/
def Router.buildAndEnqueue (s : Router) (address typetag args : List UInt8) : Router :=
  let pkt := OscPacket.build kSendQueueEntryMaxSize address typetag args
  if pkt.ok then s.enqueueOrCount pkt.bytes else s

/-! ## The send worker -/

/-- `AddSent`. -/
def OscRouterStats.addSent (bytes : ℕ) (st : OscRouterStats) : OscRouterStats :=
  { st with packets_sent := st.packets_sent + 1, bytes_sent := st.bytes_sent + bytes }

/-- The loop head: leave when stopped, else reopen the socket on a pending port; `openOk` is the
    result of `UdpSender::Open`. -/
def Router.loopHead (s : Router) (openOk : Bool) : Router :=
  if s.stop_ then { s with worker := .stopped }
  else
    let newPort := s.pendingSendPort_
    let s := { s with pendingSendPort_ := 0, worker := .waiting }
    if newPort ≠ 0 ∧ newPort ≠ s.sendPort_ then
      if openOk then { s with socketOpen := true, sendPort_ := newPort }
      else { s with socketOpen := false }
    else s

/-- The locked section: take the oldest entry, or go round the loop. -/
def Router.dequeue (s : Router) : Router :=
  match s.queue.pop with
  | none => { s with worker := .loopHead }
  | some (entry, q) => { s with queue := q, worker := .sending entry }

/-- The send; `sent` is the result of `UdpSender::Send`, -1 on an error. -/
def Router.send (s : Router) (entry : SendEntry) (sent : ℤ) : Router :=
  let s := { s with worker := .loopHead }
  if s.socketOpen = true ∧ entry.data.length > 0 then
    if sent > 0 then { s with
      packetsSent_ := s.packetsSent_ + 1
      bytesSent_ := s.bytesSent_ + sent.toNat
      statsShmem_ := s.statsShmem_.map (OscRouterStats.addSent sent.toNat)
      taken := s.taken ++ [(entry, .sent)] }
    else { s with taken := s.taken ++ [(entry, .sendFailed)] }
  else if s.socketOpen = false then { s with taken := s.taken ++ [(entry, .notOpen)] }
  else { s with taken := s.taken ++ [(entry, .empty)] }

/-! ## Interleavings -/

inductive Action where
  | publishOsc (address typetag args : List UInt8)
  | handlePublish (address typetag args : List UInt8)
  | handleSetConfig (send_port : ℕ)
  | pubPipeConnect (stream : List UInt8)
  | pubPipeFrame
  | workerLoopHead (openOk : Bool)
  | workerDequeue
  | workerSend (sent : ℤ)
  | stop
  | closeSender

/-- One action of a producer, of the send worker or of `Shutdown`. -/
def step (s : Router) : Action → Option Router
  | .publishOsc address typetag args =>
    if s.stop_ then some s
    else some (s.buildAndEnqueue (cstr address) (cstr typetag) args)
  | .handlePublish address typetag args =>
    some (s.buildAndEnqueue (cstr address) (cstr typetag) args)
  | .handleSetConfig send_port =>
    if send_port = 0 then some s else some { s with pendingSendPort_ := send_port }
  | .pubPipeConnect stream =>
    match s.client with
    | some _ => none
    | none => if s.stop_ then none else some { s with client := some stream }
  | .pubPipeFrame =>
    match s.client with
    | none => none
    | some stream =>
      if s.stop_ then some { s with client := none }
      else
        match readFrame stream with
        | none => some { s with client := none }
        | some (f, rest) => some ({ s with client := some rest }.enqueueOrCount f.2)
  | .workerLoopHead openOk =>
    if s.worker = .loopHead then some (s.loopHead openOk) else none
  | .workerDequeue =>
    if s.worker = .waiting then some s.dequeue else none
  | .workerSend sent =>
    match s.worker with
    | .sending entry => some (s.send entry sent)
    | _ => none
  | .stop => some { s with stop_ := true }
  | .closeSender => if s.worker = .stopped then some { s with socketOpen := false } else none

/-! ## Where the packets are -/

/-- The entry the worker holds between its dequeue and its send. -/
def Router.held (s : Router) : List SendEntry :=
  match s.worker with
  | .sending entry => [entry]
  | _ => []

def Router.sent (s : Router) : List SendEntry := (s.taken.filter (·.2 = .sent)).map Prod.fst

/-- Taken from the queue and not sent. -/
def Router.discarded (s : Router) : List SendEntry :=
  (s.taken.filter fun x => ! decide (x.2 = .sent)).map Prod.fst

def Router.queued (s : Router) : List SendEntry := (s.accepted.filter (·.2)).map Prod.fst

/-- Turned away by `EnqueueLocked`. -/
def Router.refused (s : Router) : List SendEntry := (s.accepted.filter (! ·.2)).map Prod.fst

/-- The dropped counter of the stats segment, if there is one. -/
def Router.packetsDropped (s : Router) : Option ℕ := s.statsShmem_.map (·.packets_dropped)

/-- Every accepted packet is in one place and the counters and the order are right. -/
structure Conserved (s : Router) : Prop where
  one_fate : (s.sent ++ s.discarded ++ s.held ++ s.queue.contents ++ s.refused).Perm
    (s.accepted.map Prod.fst)
  distinct : (s.accepted.map Prod.fst).Nodup
  dropped : s.droppedCount_ = s.refused.length
  stats : ∀ dropped ∈ s.packetsDropped, dropped = s.droppedCount_
  discarded : ∀ x ∈ s.taken, x.2 ≠ .sent → x.2 = .sendFailed ∨ x.2 = .notOpen
  fifo : s.sent.Sublist s.queued
  count_le : s.queue.count ≤ kSendQueueCapacity
  tail_eq : s.queue.tail.1 = (s.queue.head.1 + s.queue.count) % kSendQueueCapacity

/-! ## Invariant -/

structure Inv (s : Router) : Prop where
  ring : s.queue.Wf
  order : s.queued = s.taken.map Prod.fst ++ s.held ++ s.queue.contents
  seq : s.accepted.map (·.1.seq) = List.range s.accepted.length
  dropped : s.droppedCount_ = s.refused.length
  stats : ∀ dropped ∈ s.packetsDropped, dropped = s.droppedCount_
  nonempty : ∀ x ∈ s.accepted, x.1.data ≠ []
  fates : ∀ x ∈ s.taken, x.2 ≠ .empty

theorem Inv.init (socketOpen shmemReady : Bool) : Inv (Router.init socketOpen shmemReady) := by
  refine ⟨Ring.empty_wf _, rfl, rfl, rfl, ?_, ?_, ?_⟩
  · intro n hn
    cases shmemReady <;> cases hn
    rfl
  · intro x hx
    cases hx
  · intro x hx
    cases hx

/-- What does not touch the queue, the counters and the histories keeps the invariant. -/
theorem Inv.frame {s t : Router} (hs : Inv s) (hq : t.queue = s.queue) (hh : t.held = s.held)
    (hd : t.droppedCount_ = s.droppedCount_) (hst : t.packetsDropped = s.packetsDropped)
    (ha : t.accepted = s.accepted) (ht : t.taken = s.taken) : Inv t where
  ring := hq ▸ hs.ring
  order := by
    have := hs.order
    unfold Router.queued at this ⊢
    rw [hh, ha, ht, hq, this]
  seq := ha ▸ hs.seq
  dropped := by
    have := hs.dropped
    unfold Router.refused at this ⊢
    rw [hd, ha, this]
  stats := by rw [hst, hd]; exact hs.stats
  nonempty := ha ▸ hs.nonempty
  fates := ht ▸ hs.fates

theorem enqueueLocked_some {q q' : Ring kSendQueueCapacity SendEntry} {entry : SendEntry}
    (h : enqueueLocked q entry = some q') : q.push entry = some q' := by
  unfold enqueueLocked at h
  split at h
  · cases h
  · exact h

theorem Inv.enqueueOrCount {s : Router} (hs : Inv s) {data : List UInt8} (hne : data ≠ []) :
    Inv (s.enqueueOrCount data) := by
  have hseq : ∀ queued : Bool, (s.accepted ++ [((⟨data, s.accepted.length⟩ : SendEntry), queued)]).map
      (fun x => x.1.seq) = List.range (s.accepted.length + 1) := fun queued => by
    rw [List.map_append, hs.seq, List.range_succ]
    rfl
  have hnonempty : ∀ queued : Bool, ∀ x ∈ s.accepted ++
      [((⟨data, s.accepted.length⟩ : SendEntry), queued)], x.1.data ≠ [] := fun queued x hx => by
    rcases List.mem_append.1 hx with hx | hx
    · exact hs.nonempty x hx
    · rw [List.mem_singleton.1 hx]; exact hne
  have horder := hs.order
  have hdropped := hs.dropped
  unfold Router.enqueueOrCount
  simp only
  split
  · rename_i q hq
    have hpush := enqueueLocked_some hq
    refine ⟨Ring.push_wf hs.ring hpush, ?_, by simpa using hseq true, ?_, hs.stats,
      hnonempty true, hs.fates⟩
    · simp only [Router.queued, Router.held, List.filter_append, List.map_append] at horder ⊢
      rw [horder, Ring.push_contents hs.ring hpush]
      simp
    · simpa [Router.refused] using hdropped
  · refine ⟨hs.ring, ?_, by simpa using hseq false, ?_, fun n hn => ?_, hnonempty false, hs.fates⟩
    · simpa [Router.queued, Router.held] using horder
    · simpa [Router.refused] using hdropped
    · have hstats := hs.stats
      cases hst : s.statsShmem_ with
      | none => simp [Router.packetsDropped, hst] at hn
      | some st =>
        simp only [Router.packetsDropped, hst, Option.map_some, Option.mem_some_iff] at hn hstats
        rw [← hn, ← hstats _ rfl]
        rfl

theorem Inv.buildAndEnqueue {s : Router} (hs : Inv s) (address typetag args : List UInt8) :
    Inv (s.buildAndEnqueue address typetag args) := by
  unfold Router.buildAndEnqueue
  simp only
  split
  · rename_i hok
    exact hs.enqueueOrCount (OscPacket.build_ne_nil hok)
  · exact hs

theorem Inv.loopHead {s : Router} (hs : Inv s) (hw : s.worker = .loopHead) (openOk : Bool) :
    Inv (s.loopHead openOk) := by
  have hheld : s.held = [] := by simp only [Router.held, hw]
  unfold Router.loopHead
  simp only
  split_ifs <;> exact hs.frame rfl hheld.symm rfl rfl rfl rfl

theorem Inv.dequeue {s : Router} (hs : Inv s) (hw : s.worker = .waiting) : Inv s.dequeue := by
  have hheld : s.held = [] := by simp only [Router.held, hw]
  unfold Router.dequeue
  split
  · exact hs.frame rfl hheld.symm rfl rfl rfl rfl
  · rename_i entry q hpop
    refine ⟨Ring.pop_wf hs.ring hpop, ?_, hs.seq, hs.dropped, hs.stats, hs.nonempty, hs.fates⟩
    have horder := hs.order
    rw [hheld, Ring.pop_contents hpop] at horder
    simpa [Router.queued, Router.held] using horder

/-- The worker is done with the entry it holds. -/
theorem Inv.done {s t : Router} {entry : SendEntry} (hs : Inv s) (fate : Fate)
    (hw : s.worker = .sending entry) (hfate : fate ≠ .empty) (hq : t.queue = s.queue)
    (hh : t.held = []) (hd : t.droppedCount_ = s.droppedCount_)
    (hst : t.packetsDropped = s.packetsDropped) (ha : t.accepted = s.accepted)
    (ht : t.taken = s.taken ++ [(entry, fate)]) : Inv t where
  ring := hq ▸ hs.ring
  order := by
    have horder := hs.order
    simp only [Router.queued, Router.held, hw] at horder
    simp only [Router.queued, ha, horder, hh, ht, hq, List.map_append, List.map_cons, List.map_nil,
      List.append_nil]
  seq := ha ▸ hs.seq
  dropped := by
    have := hs.dropped
    unfold Router.refused at this ⊢
    rw [hd, ha, this]
  stats := by rw [hst, hd]; exact hs.stats
  nonempty := ha ▸ hs.nonempty
  fates := fun x hx => by
    rw [ht] at hx
    rcases List.mem_append.1 hx with hx | hx
    · exact hs.fates x hx
    · rw [List.mem_singleton.1 hx]; exact hfate

/-- An entry the worker holds was accepted, so it is not empty. -/
theorem Inv.held_nonempty {s : Router} {entry : SendEntry} (hs : Inv s)
    (hw : s.worker = .sending entry) : entry.data ≠ [] := by
  have hmem : entry ∈ s.queued := by
    rw [hs.order]
    simp [Router.held, hw]
  obtain ⟨x, hx, rfl⟩ := List.mem_map.1 hmem
  exact hs.nonempty x (List.mem_of_mem_filter hx)

theorem Inv.send {s : Router} {entry : SendEntry} (hs : Inv s) (hw : s.worker = .sending entry)
    (sent : ℤ) : Inv (s.send entry sent) := by
  have hlen := List.length_pos_iff.2 (hs.held_nonempty hw)
  unfold Router.send
  simp only
  split_ifs with hopen hsent hclosed
  · refine hs.done .sent hw (by decide) rfl rfl rfl ?_ rfl rfl
    simp only [Router.packetsDropped, Option.map_map]
    rfl
  · exact hs.done .sendFailed hw (by decide) rfl rfl rfl rfl rfl rfl
  · exact hs.done .notOpen hw (by decide) rfl rfl rfl rfl rfl rfl
  · exact absurd ⟨by simpa using hclosed, hlen⟩ hopen

theorem step_inv {s t : Router} {a : Action} (hs : Inv s) (h : step s a = some t) : Inv t := by
  cases a with
  | publishOsc address typetag args =>
    simp only [step] at h
    split at h <;> cases h
    · exact hs
    · exact hs.buildAndEnqueue _ _ _
  | handlePublish address typetag args =>
    cases h
    exact hs.buildAndEnqueue _ _ _
  | handleSetConfig send_port =>
    simp only [step] at h
    split at h <;> cases h
    · exact hs
    · exact hs.frame rfl rfl rfl rfl rfl rfl
  | pubPipeConnect stream =>
    simp only [step] at h
    split at h
    · cases h
    · split at h <;> cases h
      exact hs.frame rfl rfl rfl rfl rfl rfl
  | pubPipeFrame =>
    simp only [step] at h
    split at h
    · cases h
    · split at h
      · cases h
        exact hs.frame rfl rfl rfl rfl rfl rfl
      · split at h
        · cases h
          exact hs.frame rfl rfl rfl rfl rfl rfl
        · rename_i f rest hread
          cases h
          have hs' : Inv { s with client := some rest } := hs.frame rfl rfl rfl rfl rfl rfl
          exact hs'.enqueueOrCount (List.length_pos_iff.1 (readFrame_spec hread).2.1)
  | workerLoopHead openOk =>
    simp only [step] at h
    split at h <;> cases h
    rename_i hw
    exact hs.loopHead hw openOk
  | workerDequeue =>
    simp only [step] at h
    split at h <;> cases h
    rename_i hw
    exact hs.dequeue hw
  | workerSend sent =>
    simp only [step] at h
    split at h <;> cases h
    rename_i hw
    exact hs.send hw sent
  | stop =>
    cases h
    exact hs.frame rfl rfl rfl rfl rfl rfl
  | closeSender =>
    simp only [step] at h
    split at h <;> cases h
    exact hs.frame rfl rfl rfl rfl rfl rfl

theorem Inv.conserved {s : Router} (hs : Inv s) : Conserved s where
  one_fate := by
    have htaken : (s.sent ++ s.discarded).Perm (s.taken.map Prod.fst) := by
      simp only [Router.sent, Router.discarded, ← List.map_append]
      exact (List.filter_append_perm _ _).map _
    have hqueued : (s.sent ++ s.discarded ++ s.held ++ s.queue.contents).Perm s.queued := by
      rw [hs.order]
      exact (htaken.append_right _).append_right _
    refine (hqueued.append_right _).trans ?_
    simp only [Router.queued, Router.refused, ← List.map_append]
    exact (List.filter_append_perm _ _).map _
  distinct := by
    have : ((s.accepted.map Prod.fst).map SendEntry.seq).Nodup := by
      rw [List.map_map]
      exact hs.seq ▸ List.nodup_range
    exact this.of_map
  dropped := hs.dropped
  stats := hs.stats
  discarded := fun x hx hsent => by
    have hempty := hs.fates x hx
    cases hx2 : x.2 with
    | sent => exact absurd hx2 hsent
    | sendFailed => exact .inl rfl
    | notOpen => exact .inr rfl
    | empty => exact absurd hx2 hempty
  fifo := by
    rw [hs.order]
    have hsub : s.sent.Sublist (s.taken.map Prod.fst) := List.filter_sublist.map _
    exact (hsub.trans (List.sublist_append_left _ _)).trans (List.sublist_append_left _ _)
  count_le := hs.ring.count_le
  tail_eq := hs.ring.tail_eq

/-- **Conservation of packets.**  Over every interleaving of the producers, the send worker, the
    socket and `Shutdown`, every accepted packet is exactly one of: sent, discarded by the worker
    because the socket was not open or the send failed, held by the worker, in the ring, or counted
    as dropped. -/
theorem sendQueue_conserves (socketOpen shmemReady : Bool) (as : List Action) :
    Always step Conserved (Router.init socketOpen shmemReady) as :=
  Always.of_inv' (fun _ _ _ hs h => step_inv hs h) (fun _ hs => hs.conserved)
    (Inv.init socketOpen shmemReady)

/-- No packet is lost silently: sent, in the ring or counted. -/
def NothingSilent (s : Router) : Prop :=
  s.sent.length + s.queue.count + s.droppedCount_ = s.accepted.length

instance : DecidablePred NothingSilent := fun s =>
  inferInstanceAs (Decidable (s.sent.length + s.queue.count + s.droppedCount_ = s.accepted.length))

/-- One packet is published while the socket is not open, and the worker takes it. -/
def closedSocket : List Action :=
  [.publishOsc (ascii "/avatar/parameters/JawOpen") (ascii ",f") [63, 128, 0, 0],
   .workerLoopHead false, .workerDequeue, .workerSend (-1)]

/-- In the last state the packet is neither sent, nor in the ring, nor counted. -/
theorem closedSocket_uncounted :
    ¬ Always step NothingSilent (Router.init false true) closedSocket := by
  decide +kernel

end WKPairDriver.Osc
