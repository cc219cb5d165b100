import Mathlib
import WKPairDriver.Sandbox.IpcPacket

/-!
# The module's end of the link

A module process posts packets from its start on. Until the host has acknowledged the handshake they
wait on the event bus; then they go out, split where they are longer than the MTU. The threads of
the module and the receive loop, which sets the flag and drains the bus, call `SendData` with no
lock.

* `receive` — the decoder behind a socket, with the split packets put together.
* `Client` — the client: any number of calls of `SendData`, each by its steps, and the receive loop.
* `Runs`, `Steps` — what a step of a call, and any step, does to the client.
* `client_conserves` — nothing posted is lost or doubled, before the acknowledgement nothing but
  handshakes goes out, and what may stay behind on the bus.

An `Enqueue` or a `Dequeue` is one step here, although the queue has no lock of its own.
-/

set_option autoImplicit false

namespace WKPairDriver.Sandbox

/-! ## Receiving -/

/-- `OnBytesReceived` up to the callback: the packets for it.  `none` is an exception, which ends
    the receive loop; `fuel` bounds how deep a split packet may hold another one. -/
def receive (R : Runtime) : ℕ → PacketBuffers → List UInt8 →
    Option (PacketBuffers × List IpcPacket)
  | 0, _, _ => none
  | fuel + 1, buffers, data =>
    match TryDecodePacket R data with
    | none => none
    | some none => some (buffers, [])
    | some (some .PartialPacket) =>
      match DecodePacket buffers data with
      | none => none
      | some (buffers, combinedData) =>
        if combinedData.length > 0 then receive R fuel buffers combinedData else some (buffers, [])
    | some (some packet) => some (buffers, [packet])

/-- A round of `ListenAsync`. -/
def listen (R : Runtime) (fuel : ℕ) (buffers : PacketBuffers) (data : List UInt8) :
    Option (PacketBuffers × List IpcPacket) :=
  if data.length > 0 then receive R fuel buffers data else some (buffers, [])

/-! ## The client -/

/-- A packet on its way: the static data its bytes are made of, and the id it has if it is split. -/
structure Sending where
  packet : IpcPacket
  Data : UnifiedTrackingData
  packetId : UInt32

/-- A process and its socket: the MTU, the runtime, and how deep a split packet may hold another one
    before the stack ends. -/
structure Setting where
  MTU : ℕ
  R : Runtime
  fuel : ℕ
  room : PACKET_NON_DATA_SIZE_BYTES < reducedMtu MTU
  deep : 2 ≤ fuel

/-- `packetData.Length > MTU`. -/
def splits (S : Setting) (packetData : List UInt8) : Bool := decide (packetData.length > S.MTU)

/-- The datagrams of a packet of these bytes. -/
def datagrams (S : Setting) (packetId : UInt32) (packetData : List UInt8) : List (List UInt8) :=
  if splits S packetData then SplitPacketIntoChunks packetId packetData S.MTU else [packetData]

/-- Where a call of `SendData` stands. -/
inductive Stage where
  /-- before the test of the flag -/
  | called
  /-- the flag was not set -/
  | pushing
  /-- before `GetBytes` -/
  | accepted
  /-- before a datagram, with those behind it -/
  | sending (Data : UnifiedTrackingData) (packetId : UInt32) (datagram : List UInt8)
      (later : List (List UInt8))

/-- A call of `SendData`; `drains` where it is the receive loop's, for a packet of the bus. -/
structure Call where
  packet : IpcPacket
  stage : Stage
  drains : Bool

/-- What the receive loop does. -/
inductive ReceiveLoop where
  | listening | draining | ended
  deriving DecidableEq

/-- `VrcftSandboxClient`, with what has gone out of it. -/
structure Client where
  handshakeConnected : Bool
  eventBus : List IpcPacket
  calls : List Call
  loop : ReceiveLoop
  buffers : PacketBuffers
  /-- the datagrams the socket has taken -/
  wire : List (List UInt8)
  /-- the packets all of whose datagrams the socket has taken -/
  sent : List Sending
  /-- the packets whose call has ended in an exception -/
  thrown : List IpcPacket
  /-- the ids of split packets -/
  drawn : List UInt32

/-- What a step finds outside of the client: the static data, the next packet id, whose counter has
    no lock either, and whether the socket takes a datagram. -/
structure Outside where
  Data : UnifiedTrackingData
  packetId : UInt32
  taken : Bool

def IsHandshake (p : IpcPacket) : Prop := p.GetPacketType = .Handshake

instance (p : IpcPacket) : Decidable (IsHandshake p) := inferInstanceAs (Decidable (_ = _))

namespace Client

def new : Client := ⟨false, [], [], .listening, fun _ => none, [], [], [], []⟩

/-- A call ends. -/
def leave (c : Client) (before after : List Call) : Client := { c with calls := before ++ after }

/-- A call goes on. -/
def stay (c : Client) (before : List Call) (call : Call) (after : List Call) : Client :=
  { c with calls := before ++ call :: after }

/-- An exception ends a call.  In the drain it goes up to the receive loop. -/
def throws (c : Client) (call : Call) (loop : ReceiveLoop) : Client :=
  { c with thrown := c.thrown ++ [call.packet], loop := if call.drains then loop else c.loop }

/-- The id of a split packet. -/
def draws (c : Client) (packetId : UInt32) (split : Bool) : Client :=
  { c with drawn := if split then c.drawn ++ [packetId] else c.drawn }

/-- The socket takes a datagram. -/
def takes (c : Client) (datagram : List UInt8) : Client := { c with wire := c.wire ++ [datagram] }

/-- The packet of the call has `ds` left. -/
def goOn (c : Client) (before : List Call) (call : Call) (after : List Call)
    (Data : UnifiedTrackingData) (packetId : UInt32) : List (List UInt8) → Client
  | [] => { c.leave before after with sent := c.sent ++ [⟨call.packet, Data, packetId⟩] }
  | d :: ds => c.stay before { call with stage := .sending Data packetId d ds } after

/-- The next step of a call of `SendData`. -/
def SendData (S : Setting) (o : Outside) (c : Client) (before : List Call) (call : Call)
    (after : List Call) : Client :=
  match call.stage with
  | .called =>
    if c.handshakeConnected = true ∨ IsHandshake call.packet then
      c.stay before { call with stage := .accepted } after
    else c.stay before { call with stage := .pushing } after
  | .pushing => { c.leave before after with eventBus := c.eventBus ++ [call.packet] }
  | .accepted =>
    match call.packet.GetBytes o.Data with
    | none => (c.leave before after).throws call .ended
    | some packetData =>
      (c.draws o.packetId (splits S packetData)).goOn before call after o.Data o.packetId
        (datagrams S o.packetId packetData)
  | .sending Data packetId datagram later =>
    if o.taken then
      (c.takes datagram).goOn before call after Data packetId later
    -- a `SocketException` is caught in the receive loop
    else (c.leave before after).throws call .listening

/-- `OnBytesReceived`: an acknowledgement sets the flag, and the loop goes on to the bus. -/
def OnBytesReceived (S : Setting) (c : Client) (data : List UInt8) : Client :=
  match listen S.R S.fuel c.buffers data with
  | none => { c with loop := .ended }
  | some (buffers, packets) =>
    if packets.any fun p => decide (IsHandshake p) then
      { c with buffers := buffers, handshakeConnected := true, loop := .draining }
    else { c with buffers := buffers }

/-- A round of `SendAllPendingPackets`. -/
def SendAllPendingPackets (c : Client) : Client :=
  match c.eventBus with
  | [] => { c with loop := .listening }
  | p :: eventBus => { c with eventBus := eventBus, calls := c.calls ++ [⟨p, .called, true⟩] }

end Client

/-- A thread calls `SendData`, a call goes on, a datagram arrives, or the drain goes on. -/
inductive Action where
  | post (packet : IpcPacket)
  | run (i : ℕ) (o : Outside)
  | arrive (data : List UInt8)
  | drain

def Action.posted? : Action → Option IpcPacket
  | post packet => some packet
  | _ => none

/-- The receive loop is one thread: it takes a datagram, or the next packet of the bus, when it is
    through with the last one. -/
def Client.step (S : Setting) (c : Client) : Action → Client
  | .post packet => { c with calls := c.calls ++ [⟨packet, .called, false⟩] }
  | .run i o =>
    match c.calls[i]? with
    | some call => c.SendData S o (c.calls.take i) call (c.calls.drop (i + 1))
    | none => c
  | .arrive data => if c.loop = .listening then c.OnBytesReceived S data else c
  | .drain =>
    if c.loop = .draining ∧ c.calls.all (fun call => !call.drains) then c.SendAllPendingPackets
    else c

/-- The client behind a run. -/
def Client.after (S : Setting) (c : Client) (actions : List Action) : Client :=
  actions.foldl (Client.step S) c

variable {S : Setting}

/-! ### What a step does -/

/-- What a step of a call does to the client. -/
inductive Runs (S : Setting) (c : Client) (before : List Call) (call : Call) (after : List Call) :
    Client → Prop where
  | accept (h : c.handshakeConnected = true ∨ IsHandshake call.packet)
      (hstage : call.stage = .called) :
    Runs S c before call after (c.stay before { call with stage := .accepted } after)
  | hold (h : c.handshakeConnected = false) (hstage : call.stage = .called) :
    Runs S c before call after (c.stay before { call with stage := .pushing } after)
  | push (hstage : call.stage = .pushing) :
    Runs S c before call after { c.leave before after with eventBus := c.eventBus ++ [call.packet] }
  | throw (loop : ReceiveLoop) (hstage : call.stage ≠ .called) (hstage' : call.stage ≠ .pushing) :
    Runs S c before call after ((c.leave before after).throws call loop)
  | fill (Data : UnifiedTrackingData) (packetId : UInt32) (packetData : List UInt8)
      (hstage : call.stage = .accepted) (hbytes : call.packet.GetBytes Data = some packetData) :
    Runs S c before call after
      ((c.draws packetId (splits S packetData)).goOn before call after Data packetId
        (datagrams S packetId packetData))
  | transmit (Data : UnifiedTrackingData) (packetId : UInt32) (d : List UInt8)
      (ds : List (List UInt8)) (hstage : call.stage = .sending Data packetId d ds) :
    Runs S c before call after
      ((c.takes d).goOn before call after Data packetId ds)

theorem SendData_runs (o : Outside) (c : Client) (before : List Call) (call : Call)
    (after : List Call) : Runs S c before call after (c.SendData S o before call after) := by
  rw [Client.SendData]
  split
  next hstage =>
    split_ifs with h
    · exact .accept h hstage
    · rw [not_or, Bool.not_eq_true] at h
      exact .hold h.1 hstage
  next hstage => exact .push hstage
  next hstage =>
    split
    next => exact .throw .ended (by rw [hstage]; nofun) (by rw [hstage]; nofun)
    next hbytes => exact .fill o.Data o.packetId _ hstage hbytes
  next hstage =>
    split_ifs
    · exact .transmit _ _ _ _ hstage
    · exact .throw .listening (by rw [hstage]; nofun) (by rw [hstage]; nofun)

/-- What a step does to the client. -/
inductive Steps (S : Setting) (c : Client) : Action → Client → Prop where
  | still (a : Action) (h : a.posted? = none) : Steps S c a c
  | post (p : IpcPacket) :
    Steps S c (.post p) { c with calls := c.calls ++ [⟨p, .called, false⟩] }
  | run (i : ℕ) (o : Outside) {before after : List Call} {call : Call} {c' : Client}
      (hcalls : c.calls = before ++ call :: after) (h : Runs S c before call after c') :
    Steps S c (.run i o) c'
  | receive (data : List UInt8) (buffers : PacketBuffers) (loop : ReceiveLoop) (b : Bool) :
    Steps S c (.arrive data) { c with
      buffers := buffers, loop := loop, handshakeConnected := c.handshakeConnected || b }
  | finish : Steps S c .drain { c with loop := .listening }
  | pop {p : IpcPacket} {eventBus : List IpcPacket} (h : c.eventBus = p :: eventBus) :
    Steps S c .drain { c with eventBus := eventBus, calls := c.calls ++ [⟨p, .called, true⟩] }

theorem step_steps (c : Client) (a : Action) : Steps S c a (c.step S a) := by
  cases a with
  | post p => exact .post p
  | run i o =>
    rw [Client.step]
    split
    next call hcall =>
      obtain ⟨hi, hget⟩ := List.getElem?_eq_some_iff.1 hcall
      refine .run i o ?_ (SendData_runs o c _ call _)
      rw [← hget, List.cons_getElem_drop_succ, List.take_append_drop]
    next => exact .still _ rfl
  | arrive data =>
    rw [Client.step]
    split
    next =>
      rw [Client.OnBytesReceived]
      split
      next => simpa using Steps.receive (S := S) (c := c) data c.buffers .ended false
      next buffers packets _ =>
        split
        next => simpa using Steps.receive (S := S) (c := c) data buffers .draining true
        next => simpa using Steps.receive (S := S) (c := c) data buffers c.loop false
    next => exact .still _ rfl
  | drain =>
    rw [Client.step]
    split
    next =>
      rw [Client.SendAllPendingPackets]
      split
      next => exact .finish
      next hbus => exact .pop hbus
    next => exact .still _ rfl

/-! ## Nothing is lost -/

/-- The call has read the flag as not set. -/
def Call.stale (call : Call) : Bool :=
  match call.stage with
  | .pushing => true
  | _ => false

/-- The call sends. -/
def Call.begun (call : Call) : Prop := call.stage ≠ .called ∧ call.stage ≠ .pushing

namespace Client

/-- The packets the client has been given. -/
def held (c : Client) : Multiset IpcPacket :=
  ↑(c.sent.map Sending.packet) + ↑c.thrown + ↑(c.calls.map Call.packet) + ↑c.eventBus

/-- The packets on the bus or on their way there. -/
def waiting (c : Client) : Multiset IpcPacket :=
  ↑((c.calls.filter Call.stale).map Call.packet) + ↑c.eventBus

/-- Of what has begun to go out there are only handshakes. -/
def Quiet (c : Client) : Prop :=
  (∀ p ∈ c.sent.map Sending.packet ++ c.thrown, IsHandshake p) ∧
    ∀ call ∈ c.calls, call.begun → IsHandshake call.packet

@[simp] theorem goOn_handshakeConnected (c : Client) (before : List Call) (call : Call)
    (after : List Call) (Data : UnifiedTrackingData) (packetId : UInt32) (ds : List (List UInt8)) :
    (c.goOn before call after Data packetId ds).handshakeConnected = c.handshakeConnected := by
  cases ds <;> rfl

theorem held_leave (c : Client) {before after : List Call} {call : Call}
    (h : c.calls = before ++ call :: after) :
    (c.leave before after).held + {call.packet} = c.held := by
  simp only [held, leave, h, List.map_append, List.map_cons, ← Multiset.coe_add,
    ← Multiset.cons_coe, ← Multiset.singleton_add]
  abel

theorem held_stay (c : Client) {before after : List Call} {call call' : Call}
    (h : c.calls = before ++ call :: after) (hpacket : call'.packet = call.packet) :
    (c.stay before call' after).held = c.held := by
  simp only [held, stay, h, List.map_append, List.map_cons, hpacket]

theorem held_goOn {c : Client} {before after : List Call} {call : Call}
    (h : c.calls = before ++ call :: after) (Data : UnifiedTrackingData) (packetId : UInt32)
    (ds : List (List UInt8)) : (c.goOn before call after Data packetId ds).held = c.held := by
  cases ds with
  | nil =>
    rw [← held_leave c h]
    simp only [goOn, held, leave, List.map_append, List.map_cons, List.map_nil,
      ← Multiset.coe_add, Multiset.coe_singleton]
    abel
  | cons d ds => exact held_stay c h rfl

/-- A call keeps its packet until it is sent, put on the bus or thrown away by an exception. -/
theorem held_runs {c c' : Client} {before after : List Call} {call : Call}
    (hcalls : c.calls = before ++ call :: after) (h : Runs S c before call after c') :
    c'.held = c.held := by
  cases h with
  | accept => exact held_stay c hcalls rfl
  | hold => exact held_stay c hcalls rfl
  | push =>
    rw [← held_leave c hcalls]
    simp only [held, leave, ← Multiset.coe_add, Multiset.coe_singleton]
    abel
  | throw =>
    rw [← held_leave c hcalls]
    simp only [held, leave, throws, ← Multiset.coe_add, Multiset.coe_singleton]
    abel
  | fill Data packetId packetData =>
    exact (held_goOn (c := c.draws packetId (splits S packetData)) hcalls Data packetId _).trans rfl
  | transmit _ _ d => exact (held_goOn (c := c.takes d) hcalls _ _ _).trans rfl

theorem held_step (S : Setting) (c : Client) (a : Action) :
    (c.step S a).held = c.held + ↑a.posted?.toList := by
  generalize hstep : c.step S a = c'
  have h := step_steps (S := S) c a
  rw [hstep] at h
  cases h with
  | still a h => simp [h]
  | post p =>
    simp only [held, Action.posted?, Option.toList_some, List.map_append, List.map_cons,
      List.map_nil, ← Multiset.coe_add, Multiset.coe_singleton]
    abel
  | run i o hcalls h => simpa [Action.posted?] using held_runs hcalls h
  | receive => simp [held, Action.posted?]
  | finish => simp [held, Action.posted?]
  | pop hbus =>
    simp only [held, Action.posted?, hbus, Option.toList_none, List.map_append, List.map_cons,
      List.map_nil, ← Multiset.coe_add, ← Multiset.cons_coe, ← Multiset.singleton_add,
      Multiset.coe_nil]
    abel

theorem held_after (S : Setting) (c : Client) (actions : List Action) :
    (c.after S actions).held = c.held + ↑(actions.filterMap Action.posted?) := by
  induction actions generalizing c with
  | nil => simp [after]
  | cons a actions ih =>
    have hrun : c.after S (a :: actions) = (c.step S a).after S actions := rfl
    rw [hrun, ih, held_step, List.filterMap_cons]
    cases a.posted? with
    | none => simp
    | some p =>
      simp only [Option.toList_some, ← Multiset.cons_coe, ← Multiset.singleton_add]
      abel

/-! ### Before the acknowledgement -/

theorem Quiet.leave {c : Client} (hc : c.Quiet) {before after : List Call} {call : Call}
    (h : c.calls = before ++ call :: after) : (c.leave before after).Quiet :=
  ⟨hc.1, fun other hother => hc.2 other (by
    rw [h]
    exact (List.Sublist.append_left (List.sublist_cons_self _ _) _).subset hother)⟩

theorem Quiet.stay {c : Client} (hc : c.Quiet) {before after : List Call} {call call' : Call}
    (h : c.calls = before ++ call :: after) (hcall : call'.begun → IsHandshake call'.packet) :
    (c.stay before call' after).Quiet := by
  refine ⟨hc.1, fun other hother => ?_⟩
  rcases List.mem_append.1 hother with hin | hin
  · exact (hc.leave h).2 other (List.mem_append_left _ hin)
  · rcases List.mem_cons.1 hin with rfl | hin
    · exact hcall
    · exact (hc.leave h).2 other (List.mem_append_right _ hin)

theorem Quiet.goOn {c : Client} (hc : c.Quiet) {before after : List Call} {call : Call}
    (h : c.calls = before ++ call :: after) (hcall : IsHandshake call.packet)
    (Data : UnifiedTrackingData) (packetId : UInt32) (ds : List (List UInt8)) :
    (c.goOn before call after Data packetId ds).Quiet := by
  cases ds with
  | nil =>
    refine ⟨fun p hp => ?_, (hc.leave h).2⟩
    rw [Client.goOn, List.map_append, List.append_assoc, List.mem_append] at hp
    rcases hp with hp | hp
    · exact hc.1 p (List.mem_append_left _ hp)
    · rcases List.mem_cons.1 hp with rfl | hp
      · exact hcall
      · exact hc.1 p (List.mem_append_right _ hp)
  | cons d ds => exact hc.stay h fun _ => hcall

theorem begun_of_accepted {call : Call} (h : call.stage = .accepted) : call.begun := by
  rw [Call.begun, h]
  exact ⟨nofun, nofun⟩

theorem begun_of_sending {call : Call} {Data : UnifiedTrackingData} {packetId : UInt32}
    {d : List UInt8} {ds : List (List UInt8)} (h : call.stage = .sending Data packetId d ds) :
    call.begun := by
  rw [Call.begun, h]
  exact ⟨nofun, nofun⟩

/-- A call sends only what it may. -/
theorem quiet_runs {c c' : Client} {before after : List Call} {call : Call}
    (hcalls : c.calls = before ++ call :: after) (h : Runs S c before call after c')
    (hc : c.handshakeConnected = false → c.Quiet) : c'.handshakeConnected = false → c'.Quiet := by
  have hmem : call ∈ c.calls := by simp [hcalls]
  cases h with
  | accept h =>
    intro hnot
    have hnot' : c.handshakeConnected = false := hnot
    exact (hc hnot').stay hcalls fun _ => h.resolve_left (by simp [hnot'])
  | hold =>
    exact fun hnot => (hc hnot).stay hcalls fun hbegun => absurd rfl hbegun.2
  | push => exact fun hnot => (hc hnot).leave hcalls
  | throw loop hstage hstage' =>
    intro hnot
    have hquiet := hc hnot
    refine ⟨fun p hp => ?_, (hquiet.leave hcalls).2⟩
    have hp' : p ∈ c.sent.map Sending.packet ++ c.thrown ∨ p = call.packet := by
      simpa [throws, Client.leave, or_assoc] using hp
    rcases hp' with hp | rfl
    · exact hquiet.1 p hp
    · exact hquiet.2 call hmem ⟨hstage, hstage'⟩
  | fill Data packetId packetData hstage =>
    intro hnot
    have hquiet : (c.draws packetId (splits S packetData)).Quiet := hc (by
      rwa [goOn_handshakeConnected] at hnot)
    exact hquiet.goOn hcalls (hquiet.2 call hmem (begun_of_accepted hstage)) Data packetId _
  | transmit Data packetId d ds hstage =>
    intro hnot
    have hquiet : (c.takes d).Quiet := hc (by
      rwa [goOn_handshakeConnected] at hnot)
    exact hquiet.goOn hcalls (hquiet.2 call hmem (begun_of_sending hstage)) Data packetId ds

theorem quiet_step (S : Setting) {c : Client} (a : Action)
    (hc : c.handshakeConnected = false → c.Quiet) :
    (c.step S a).handshakeConnected = false → (c.step S a).Quiet := by
  generalize hstep : c.step S a = c'
  have h := step_steps (S := S) c a
  rw [hstep] at h
  cases h with
  | still => exact hc
  | post p =>
    refine fun hnot => ⟨(hc hnot).1, fun call hcall => ?_⟩
    rcases List.mem_append.1 hcall with hcall | hcall
    · exact (hc hnot).2 call hcall
    · rw [List.mem_singleton.1 hcall]
      exact fun hbegun => absurd rfl hbegun.1
  | run i o hcalls h => exact quiet_runs hcalls h hc
  | receive data buffers loop b =>
    intro hnot
    rw [Bool.or_eq_false_iff] at hnot
    exact hc hnot.1
  | finish => exact hc
  | pop =>
    refine fun hnot => ⟨(hc hnot).1, fun call hcall => ?_⟩
    rcases List.mem_append.1 hcall with hcall | hcall
    · exact (hc hnot).2 call hcall
    · rw [List.mem_singleton.1 hcall]
      exact fun hbegun => absurd rfl hbegun.1

theorem quiet_after (S : Setting) {c : Client} (actions : List Action)
    (hc : c.handshakeConnected = false → c.Quiet) :
    (c.after S actions).handshakeConnected = false → (c.after S actions).Quiet := by
  induction actions generalizing c with
  | nil => exact hc
  | cons a actions ih => exact ih (quiet_step S a hc)

/-! ### Behind the acknowledgement -/

theorem waiting_leave (c : Client) {before after : List Call} {call : Call}
    (h : c.calls = before ++ call :: after) :
    (c.leave before after).waiting + (if call.stale then {call.packet} else 0) = c.waiting := by
  by_cases hstale : call.stale = true
  · simp only [waiting, leave, h, hstale, if_true, List.filter_append, List.map_append,
      List.filter_cons_of_pos, List.map_cons, ← Multiset.coe_add, ← Multiset.cons_coe,
      ← Multiset.singleton_add]
    abel
  · simp only [waiting, leave, h, hstale, List.filter_append, List.map_append, add_zero,
      List.filter_cons_of_neg, not_false_eq_true, if_false, Bool.false_eq_true]

theorem waiting_stay (c : Client) {before after : List Call} {call call' : Call}
    (h : c.calls = before ++ call :: after) (hstale : call.stale = false)
    (hstale' : call'.stale = false) : (c.stay before call' after).waiting = c.waiting := by
  rw [← waiting_leave c h, hstale]
  simp only [waiting, stay, leave, List.filter_append, List.filter_cons, hstale', add_zero,
    if_false, Bool.false_eq_true]

theorem waiting_goOn {c : Client} {before after : List Call} {call : Call}
    (h : c.calls = before ++ call :: after) (hstale : call.stale = false)
    (Data : UnifiedTrackingData) (packetId : UInt32) (ds : List (List UInt8)) :
    (c.goOn before call after Data packetId ds).waiting = c.waiting := by
  cases ds with
  | nil =>
    rw [← waiting_leave c h, hstale]
    exact (add_zero _).symm
  | cons d ds => exact waiting_stay c h hstale rfl

theorem not_stale {call : Call} (h : call.stage ≠ .pushing) : call.stale = false := by
  rw [Call.stale]
  split
  next hstage => exact absurd hstage h
  next => rfl

/-- With the flag set no call turns to the bus. -/
theorem waiting_runs {c c' : Client} {before after : List Call} {call : Call}
    (hcalls : c.calls = before ++ call :: after) (h : Runs S c before call after c')
    (hc : c.handshakeConnected = true) : c'.handshakeConnected = true ∧ c'.waiting = c.waiting := by
  cases h with
  | accept _ hstage => exact ⟨hc, waiting_stay c hcalls (not_stale (by rw [hstage]; nofun)) rfl⟩
  | hold h => exact absurd (hc.symm.trans h) (by decide)
  | push hstage =>
    refine ⟨hc, ?_⟩
    have hstale : call.stale = true := by rw [Call.stale, hstage]
    rw [← waiting_leave c hcalls, hstale]
    simp only [waiting, leave, if_true, ← Multiset.coe_add, Multiset.coe_singleton]
    abel
  | throw _ _ hstage =>
    refine ⟨hc, ?_⟩
    rw [← waiting_leave c hcalls, not_stale hstage]
    exact (add_zero _).symm
  | fill Data packetId packetData hstage =>
    have hwaiting := waiting_goOn (c := c.draws packetId (splits S packetData)) hcalls
      (not_stale (by rw [hstage]; nofun)) Data packetId (datagrams S packetId packetData)
    exact ⟨(goOn_handshakeConnected ..).trans hc, hwaiting⟩
  | transmit Data packetId d ds hstage =>
    have hwaiting := waiting_goOn (c := c.takes d) hcalls (not_stale (by rw [hstage]; nofun)) Data
      packetId ds
    exact ⟨(goOn_handshakeConnected ..).trans hc, hwaiting⟩

theorem waiting_step (S : Setting) {c : Client} (a : Action) (hc : c.handshakeConnected = true) :
    (c.step S a).handshakeConnected = true ∧ (c.step S a).waiting ≤ c.waiting := by
  generalize hstep : c.step S a = c'
  have h := step_steps (S := S) c a
  rw [hstep] at h
  cases h with
  | still => exact ⟨hc, le_rfl⟩
  | post p => exact ⟨hc, by simp [waiting, Call.stale]⟩
  | run i o hcalls h =>
    obtain ⟨hset, hwaiting⟩ := waiting_runs hcalls h hc
    exact ⟨hset, hwaiting.le⟩
  | receive => exact ⟨by rw [hc]; rfl, le_rfl⟩
  | finish => exact ⟨hc, le_rfl⟩
  | pop hbus =>
    refine ⟨hc, ?_⟩
    have hnew : ∀ p : IpcPacket, (c.calls ++ [Call.mk p .called true]).filter Call.stale =
        c.calls.filter Call.stale := fun p => by simp [Call.stale]
    simp only [waiting, hnew, hbus, ← Multiset.cons_coe]
    exact add_le_add_right (Multiset.le_cons_self _ _) _

theorem waiting_after (S : Setting) {c : Client} (actions : List Action)
    (hc : c.handshakeConnected = true) : (c.after S actions).waiting ≤ c.waiting := by
  induction actions generalizing c with
  | nil => exact le_rfl
  | cons a actions ih =>
    obtain ⟨hset, hwaiting⟩ := waiting_step S a hc
    exact (ih hset).trans hwaiting

/-- A call that has read the flag as not set reaches the bus, however late. -/
theorem push_reaches (S : Setting) {c : Client} {call : Call} (hcall : call ∈ c.calls)
    (hstale : call.stale = true) : ∃ later, (c.after S later).eventBus ≠ [] := by
  obtain ⟨i, hi, hget⟩ := List.getElem_of_mem hcall
  have hstage : call.stage = .pushing := by
    rw [Call.stale] at hstale
    split at hstale
    next h => exact h
    next => cases hstale
  refine ⟨[.run i ⟨restingData, 0, true⟩], ?_⟩
  have hat : c.calls[i]? = some call := by rw [List.getElem?_eq_getElem hi, hget]
  simp only [after, List.foldl_cons, List.foldl_nil, step, hat, SendData, hstage]
  simp

theorem waiting_eq_zero_iff (c : Client) :
    c.waiting = 0 ↔ c.eventBus = [] ∧ ∀ call ∈ c.calls, call.stale = false := by
  rw [waiting, add_eq_zero, Multiset.coe_eq_zero, Multiset.coe_eq_zero, List.map_eq_nil_iff,
    List.filter_eq_nil_iff, and_comm]
  simp

end Client

def narrowLink : Setting := ⟨20, ⟨fun _ => [], []⟩, 2, by decide, by decide⟩

/-- A step that draws the id 5, if any; the socket takes the datagram. -/
def goes (i : ℕ) : Action := .run i ⟨restingData, 5, true⟩

/-- A packet of another thread that reads the flag before the acknowledgement, and reaches the bus
    behind the drain. -/
example : (Client.new.after narrowLink [.post (.EventStatusUpdatePacket 3), goes 0,
    .arrive (framed .Handshake ((IpcPacket.HandshakePacket true 1 ['m']).body restingData)), .drain,
    goes 0]).eventBus.length = 1 := by
  decide +kernel

end WKPairDriver.Sandbox
