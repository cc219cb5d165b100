import Mathlib
import WKPairDriver.Sandbox.Client

/-!
# What a module posts arrives

The host puts the datagrams of a module together and hands the packets to its callback, however the
datagrams of the module's threads mix on the way.

* `listenAll`, `receive_written`, `receive_chunk` — what a socket makes of datagrams.
* `Server` — the host's end.
* `Linked` — what holds between the client and the datagrams on the wire; one lemma for each step.
* `link_delivers` — the host gets what the client put on the wire, each packet once.

A datagram the socket takes arrives, and the server's acknowledgement goes out.
-/

set_option autoImplicit false

namespace WKPairDriver.Sandbox

open Lib.Reassembly

variable {S : Setting} {R : Runtime} {fuel : ℕ}

/-! ## Datagrams -/

/-- One datagram after the other. -/
def listenAll (R : Runtime) (fuel : ℕ) : PacketBuffers → List (List UInt8) →
    Option (PacketBuffers × List IpcPacket)
  | buffers, [] => some (buffers, [])
  | buffers, data :: rest =>
    match listen R fuel buffers data with
    | none => none
    | some (buffers, packets) =>
      (listenAll R fuel buffers rest).map fun later => (later.1, packets ++ later.2)

theorem listenAll_snoc {buffers between after : PacketBuffers} {ds : List (List UInt8)}
    {d : List UInt8} {ps qs : List IpcPacket}
    (hds : listenAll R fuel buffers ds = some (between, ps))
    (hd : listen R fuel between d = some (after, qs)) :
    listenAll R fuel buffers (ds ++ [d]) = some (after, ps ++ qs) := by
  induction ds generalizing buffers ps with
  | nil =>
    obtain ⟨rfl, rfl⟩ := Prod.mk.inj (Option.some.inj hds)
    rw [List.nil_append, listenAll, hd]
    simp [listenAll]
  | cons e ds ih =>
    rw [listenAll] at hds
    rw [List.cons_append, listenAll]
    cases he : listen R fuel buffers e with
    | none => simp [he] at hds
    | some first =>
      obtain ⟨b, packets⟩ := first
      rw [he] at hds
      obtain ⟨⟨b', later⟩, hlater, heq⟩ := Option.map_eq_some_iff.1 hds
      obtain ⟨rfl, rfl⟩ := Prod.mk.inj heq
      simp only [ih hlater, Option.map_some, List.append_assoc]

/-- A datagram of no bytes is no packet either. -/
theorem listen_of_receive {buffers : PacketBuffers} {data : List UInt8}
    {result : PacketBuffers × List IpcPacket} (h : receive R fuel buffers data = some result) :
    listen R fuel buffers data = some result := by
  have hpos : data.length > 0 := by
    refine List.length_pos_iff.2 fun hnil => ?_
    subst hnil
    cases fuel with
    | zero => cases h
    | succ fuel => cases h
  rw [listen, if_pos hpos, h]

theorem asRead_ne (Data : UnifiedTrackingData) {p : IpcPacket} (h : p ≠ .PartialPacket) :
    p.asRead Data ≠ .PartialPacket := by
  cases p <;> simp_all [IpcPacket.asRead]

/-- A packet that is no chunk goes to the callback. -/
theorem receive_written {Data : UnifiedTrackingData} {p : IpcPacket} {bytes : List UInt8}
    (h : p.GetBytes Data = some bytes) (hp : p ≠ .PartialPacket) (buffers : PacketBuffers)
    (hfuel : 1 ≤ fuel) : receive R fuel buffers bytes = some (buffers, [p.asRead Data]) := by
  obtain ⟨fuel, rfl⟩ := Nat.exists_eq_add_of_le' hfuel
  have hread := TryDecodePacket_written R h hp []
  rw [List.append_nil] at hread
  have hne := asRead_ne Data hp
  rw [receive, hread]
  generalize p.asRead Data = q at hne
  cases q <;> first | exact absurd rfl hne | rfl

/-- A chunk of a split packet, the chunks `past` of it before and `later` behind. -/
theorem receive_chunk {s : Send} (hs : s.Valid) {Data : UnifiedTrackingData} {p : IpcPacket}
    (hwritten : p.GetBytes Data = some s.packetData) (hp : p ≠ .PartialPacket) (hfuel : 2 ≤ fuel)
    {buffers : PacketBuffers} {past later : List (List UInt8)} {x : List UInt8}
    (hchunks : s.chunks = past ++ x :: later)
    (hpast : buffers s.packetId = past.foldl addTo none) :
    receive R fuel buffers x =
      some (Function.update buffers s.packetId ((past ++ [x]).foldl addTo none),
        if later = [] then [p.asRead Data] else []) := by
  obtain ⟨deeper, rfl⟩ := Nat.exists_eq_add_of_le' (show 1 ≤ fuel by omega)
  have hperm : (past ++ x :: later).Perm s.chunks := by rw [hchunks]
  obtain ⟨i, d, -, rfl⟩ := exists_chunk hs (show x ∈ s.chunks by simp [hchunks])
  have hread := TryDecodePacket_chunk R s (i, d) []
  rw [List.append_nil] at hread
  have hlong : ¬(s.chunk (i, d)).length < PACKET_NON_DATA_SIZE_BYTES := by
    rw [Send.chunk, chunkPacket_length]
    exact not_lt.2 (Nat.le_add_right _ _)
  have hanswer := packetDataOf_chunk hs hperm
  rw [receive, hread]
  simp only [DecodePacket, if_neg hlong, packetIdOf_chunk, hpast, hanswer, List.foldl_append,
    List.foldl_cons, List.foldl_nil, addTo]
  by_cases hlater : later = []
  · have hpos : s.packetData.length > 0 := List.length_pos_iff.2 hs.nonempty
    rw [if_pos hlater, if_pos hlater, if_pos hpos]
    exact receive_written hwritten hp _ (by omega)
  · rw [if_neg hlater, if_neg hlater]
    rfl

/-! ## The server -/

/-- `VrcftSandboxServer`, as one client's datagrams change it. -/
structure Server where
  connectedClients : List ℕ
  buffers : PacketBuffers
  listening : Bool
  received : List (IpcPacket × ℕ)

namespace Server

def new : Server := ⟨[], fun _ => none, true, []⟩

/-- A packet: a valid handshake counts the client as connected, every packet goes to
    `OnPacketReceived`. -/
def onPacket (port : ℕ) (s : Server) (p : IpcPacket) : Server :=
  let s := match p with
    | .HandshakePacket true _ _ => { s with connectedClients := s.connectedClients ++ [port] }
    | _ => s
  { s with received := s.received ++ [(p, port)] }

/-- A datagram at the server's socket. -/
def OnBytesReceived (S : Setting) (port : ℕ) (s : Server) (data : List UInt8) : Server :=
  if s.listening = true then
    match listen S.R S.fuel s.buffers data with
    | none => { s with listening := false }
    | some (buffers, packets) => packets.foldl (onPacket port) { s with buffers := buffers }
  else s

theorem onPacket_frame (port : ℕ) (s : Server) (p : IpcPacket) :
    (s.onPacket port p).received = s.received ++ [(p, port)] ∧
      (s.onPacket port p).buffers = s.buffers ∧ (s.onPacket port p).listening = s.listening := by
  rw [onPacket.eq_def]
  split <;> exact ⟨rfl, rfl, rfl⟩

theorem onPackets_frame (port : ℕ) : ∀ (ps : List IpcPacket) (s : Server),
    (ps.foldl (onPacket port) s).received = s.received ++ ps.map (·, port) ∧
      (ps.foldl (onPacket port) s).buffers = s.buffers ∧
      (ps.foldl (onPacket port) s).listening = s.listening
  | [], s => ⟨by simp, rfl, rfl⟩
  | p :: ps, s => by
    obtain ⟨hreceived, hbuffers, hlistening⟩ := onPacket_frame port s p
    obtain ⟨hrest, hb, hl⟩ := onPackets_frame port ps (s.onPacket port p)
    rw [List.foldl_cons, hrest, hb, hl, hreceived, hbuffers, hlistening]
    simp

/-- The server does with datagrams what `listenAll` says. -/
theorem run_eq (port : ℕ) : ∀ (ds : List (List UInt8)) (s : Server) {after : PacketBuffers}
    {ps : List IpcPacket}, s.listening = true →
    listenAll S.R S.fuel s.buffers ds = some (after, ps) →
    (ds.foldl (OnBytesReceived S port) s).received = s.received ++ ps.map (·, port) ∧
      (ds.foldl (OnBytesReceived S port) s).listening = true
  | [], s, after, ps, hl, h => by
    obtain ⟨-, rfl⟩ := Prod.mk.inj (Option.some.inj h)
    exact ⟨by simp, hl⟩
  | d :: ds, s, after, ps, hl, h => by
    rw [listenAll] at h
    cases hd : listen S.R S.fuel s.buffers d with
    | none => simp [hd] at h
    | some first =>
      obtain ⟨b, packets⟩ := first
      rw [hd] at h
      obtain ⟨⟨b', later⟩, hlater, heq⟩ := Option.map_eq_some_iff.1 h
      obtain ⟨rfl, rfl⟩ := Prod.mk.inj heq
      have hone : OnBytesReceived S port s d =
          packets.foldl (onPacket port) { s with buffers := b } := by
        rw [OnBytesReceived, if_pos hl, hd]
      obtain ⟨hreceived, hbuffers, hlistening⟩ :=
        onPackets_frame port packets { s with buffers := b }
      rw [← hone] at hreceived hbuffers hlistening
      obtain ⟨hrest, hl'⟩ := run_eq port ds (OnBytesReceived S port s d)
        (hlistening.trans hl) (by rw [hbuffers]; exact hlater)
      rw [List.foldl_cons, hrest, hreceived]
      exact ⟨by simp, hl'⟩

end Server

/-! ## What goes on the wire arrives -/

/-- The packet as the host is to get it. -/
def Sending.asRead (s : Sending) : IpcPacket := s.packet.asRead s.Data

/-- The id of a call that sends the chunks of a split packet. -/
def Call.splitId (S : Setting) (call : Call) : Option UInt32 :=
  match call.stage with
  | .sending Data packetId _ _ =>
    match call.packet.GetBytes Data with
    | some packetData => if splits S packetData then some packetId else none
    | none => none
  | _ => none

/-- A packet in the middle of its datagrams, the server with `buffers`. -/
def Midway (S : Setting) (buffers : PacketBuffers) (packet : IpcPacket) (Data : UnifiedTrackingData)
    (packetId : UInt32) (d : List UInt8) (ds : List (List UInt8)) : Prop :=
  ∃ packetData past, packet.GetBytes Data = some packetData ∧
    datagrams S packetId packetData = past ++ d :: ds ∧
    (splits S packetData = true → buffers packetId = past.foldl addTo none)

/-- What holds between the client and the datagrams on the wire. -/
structure Linked (S : Setting) (c : Client) (buffers : PacketBuffers) : Prop where
  heard : listenAll S.R S.fuel (fun _ => none) c.wire = some (buffers, c.sent.map Sending.asRead)
  fresh : ∀ id ∉ c.drawn, buffers id = none
  midway : ∀ call ∈ c.calls, ∀ Data packetId d ds, call.stage = .sending Data packetId d ds →
    Midway S buffers call.packet Data packetId d ds
  ids : (c.calls.filterMap (Call.splitId S)).Nodup
  ids_drawn : ∀ id ∈ c.calls.filterMap (Call.splitId S), id ∈ c.drawn
  plain : ∀ call ∈ c.calls, call.packet ≠ .PartialPacket
  plain_bus : ∀ p ∈ c.eventBus, p ≠ .PartialPacket

/-- Bytes that are split are a packet of chunks. -/
theorem valid_of_splits {packetData : List UInt8} {Data : UnifiedTrackingData} {p : IpcPacket}
    (h : p.GetBytes Data = some packetData) (hp : p ≠ .PartialPacket)
    (hsplits : splits S packetData = true) (packetId : UInt32) :
    Send.Valid ⟨packetId, packetData, S.MTU⟩ := by
  have hlong : packetData.length > S.MTU := of_decide_eq_true hsplits
  refine ⟨List.length_pos_iff.1 (Nat.lt_of_le_of_lt (Nat.zero_le _) hlong), S.room, ?_⟩
  exact lt_of_le_of_lt (GetBytes_eq h hp).2 (by decide)

theorem datagrams_ne_nil {packetData : List UInt8} {Data : UnifiedTrackingData} {p : IpcPacket}
    (h : p.GetBytes Data = some packetData) (hp : p ≠ .PartialPacket) (packetId : UInt32) :
    datagrams S packetId packetData ≠ [] := by
  rw [datagrams]
  split_ifs with hsplits
  · have hvalid := valid_of_splits h hp hsplits packetId
    have hpos := hvalid.pieces_pos
    intro hnil
    have hlen := congrArg List.length (SplitPacketIntoChunks_eq hvalid)
    rw [List.length_map, numbered_length, Send.chunks, hnil] at hlen
    exact absurd hlen (by simp at hpos ⊢; omega)
  · exact List.cons_ne_nil _ _

/-- **One datagram**: what the server makes of the next datagram of a packet. -/
theorem listen_midway {buffers : PacketBuffers} {packet : IpcPacket} {Data : UnifiedTrackingData}
    {packetId : UInt32} {d : List UInt8} {ds : List (List UInt8)}
    (hp : packet ≠ .PartialPacket) (h : Midway S buffers packet Data packetId d ds) :
    ∃ after, listen S.R S.fuel buffers d =
        some (after, if ds = [] then [packet.asRead Data] else []) ∧
      (∀ id, (∀ packetData, packet.GetBytes Data = some packetData →
        splits S packetData = true → id ≠ packetId) → after id = buffers id) ∧
      ∀ e es, ds = e :: es → Midway S after packet Data packetId e es := by
  obtain ⟨packetData, past, hbytes, hdatagrams, hpast⟩ := h
  by_cases hsplits : splits S packetData = true
  · have hvalid := valid_of_splits hbytes hp hsplits packetId
    have hchunks : Send.chunks ⟨packetId, packetData, S.MTU⟩ = past ++ d :: ds := by
      rw [← hdatagrams, datagrams, if_pos hsplits]
      rfl
    refine ⟨_, listen_of_receive (receive_chunk hvalid hbytes hp S.deep hchunks (hpast hsplits)),
      fun id hid => ?_, fun e es hds => ⟨packetData, past ++ [d], hbytes, ?_, fun _ => ?_⟩⟩
    · exact Function.update_of_ne (hid packetData hbytes hsplits) _ _
    · rw [hdatagrams, hds, List.append_assoc, List.singleton_append]
    · exact Function.update_self ..
  · have hone : past ++ d :: ds = [packetData] := by
      rw [← hdatagrams, datagrams, if_neg hsplits]
    have hpast : past = [] := by
      cases past with
      | nil => rfl
      | cons x past => simp at hone
    subst hpast
    obtain ⟨rfl, rfl⟩ := List.cons.inj hone
    refine ⟨buffers, listen_of_receive ?_, fun _ _ => rfl, fun e es hds => absurd hds nofun⟩
    exact receive_written hbytes hp buffers (le_trans (by decide) S.deep)

theorem splitId_eq {call : Call} {Data : UnifiedTrackingData} {packetId : UInt32} {d : List UInt8}
    {ds : List (List UInt8)} (hstage : call.stage = .sending Data packetId d ds)
    {packetData : List UInt8} (hbytes : call.packet.GetBytes Data = some packetData)
    (hsplits : splits S packetData = true) : call.splitId S = some packetId := by
  rw [Call.splitId]
  simp only [hstage, hbytes, hsplits, if_true]

theorem splitId_eq_none {call : Call}
    (h : ∀ Data packetId d ds, call.stage ≠ .sending Data packetId d ds) :
    call.splitId S = none := by
  rw [Call.splitId]
  split
  next hstage => exact absurd hstage (h _ _ _ _)
  next => rfl

/-- Two members of a list have different values. -/
theorem ne_of_nodup_filterMap {α β : Type} {f : α → Option β} {l r : List α} {a b : α} {x y : β}
    (h : ((l ++ a :: r).filterMap f).Nodup) (ha : f a = some x) (hb : b ∈ l ++ r)
    (hfb : f b = some y) : y ≠ x := by
  rw [(List.perm_middle.filterMap f).nodup_iff, List.filterMap_cons_some ha,
    List.nodup_cons] at h
  rintro rfl
  exact h.1 (List.mem_filterMap.2 ⟨b, hb, hfb⟩)

/-- A call of a list with one more is that one, or of the others. -/
theorem mem_middle {before after : List Call} {call other : Call}
    (h : other ∈ before ++ call :: after) : other ∈ before ++ after ∨ other = call := by
  rw [List.perm_middle.mem_iff, List.mem_cons] at h
  exact h.symm

/-- The calls but one. -/
theorem rest_sublist {c : Client} {before after : List Call} {call : Call}
    (hcalls : c.calls = before ++ call :: after) : (before ++ after).Sublist c.calls := by
  rw [hcalls]
  exact (List.sublist_cons_self _ _).append_left _

/-- A server that keeps the buffer of a call's id. -/
theorem Midway.keep {buffers after : PacketBuffers} {call : Call} {Data : UnifiedTrackingData}
    {packetId : UInt32} {d : List UInt8} {ds : List (List UInt8)}
    (h : Midway S buffers call.packet Data packetId d ds)
    (hstage : call.stage = .sending Data packetId d ds)
    (hafter : call.splitId S = some packetId → after packetId = buffers packetId) :
    Midway S after call.packet Data packetId d ds := by
  obtain ⟨packetData, past, hbytes, hdatagrams, hpast⟩ := h
  exact ⟨packetData, past, hbytes, hdatagrams, fun hsplits =>
    (hafter (splitId_eq hstage hbytes hsplits)).trans (hpast hsplits)⟩

namespace Linked

variable {c c' : Client} {buffers : PacketBuffers}

theorem new : Linked S Client.new fun _ => none where
  heard := rfl
  fresh _ _ := rfl
  midway _ h := absurd h List.not_mem_nil
  ids := List.nodup_nil
  ids_drawn _ h := absurd h List.not_mem_nil
  plain _ h := absurd h List.not_mem_nil
  plain_bus _ h := absurd h List.not_mem_nil

/-- A step that puts no datagram on the wire and begins no packet. -/
theorem frame (h : Linked S c buffers) (hwire : c'.wire = c.wire) (hsent : c'.sent = c.sent)
    (hdrawn : c'.drawn = c.drawn)
    (hcalls : ∀ call ∈ c'.calls, call ∈ c.calls ∨ call.packet ≠ .PartialPacket ∧
      ∀ Data packetId d ds, call.stage ≠ .sending Data packetId d ds)
    (hids : (c'.calls.filterMap (Call.splitId S)).Sublist (c.calls.filterMap (Call.splitId S)))
    (hbus : ∀ p ∈ c'.eventBus, p ≠ .PartialPacket) : Linked S c' buffers where
  heard := by rw [hwire, hsent]; exact h.heard
  fresh := by rw [hdrawn]; exact h.fresh
  midway call hcall Data packetId d ds hstage := by
    rcases hcalls call hcall with hold | ⟨-, hnot⟩
    · exact h.midway call hold Data packetId d ds hstage
    · exact absurd hstage (hnot Data packetId d ds)
  ids := h.ids.sublist hids
  ids_drawn id hid := by
    rw [hdrawn]
    exact h.ids_drawn id (hids.subset hid)
  plain call hcall := by
    rcases hcalls call hcall with hold | ⟨hnew, -⟩
    · exact h.plain call hold
    · exact hnew
  plain_bus := hbus

/-- A call ends without a datagram. -/
theorem leave (h : Linked S c buffers) {before after : List Call} {call : Call}
    (hcalls : c.calls = before ++ call :: after) (hwire : c'.wire = c.wire)
    (hsent : c'.sent = c.sent) (hdrawn : c'.drawn = c.drawn) (hleft : c'.calls = before ++ after)
    (hbus : ∀ p ∈ c'.eventBus, p ≠ .PartialPacket) : Linked S c' buffers := by
  have hsub := rest_sublist hcalls
  rw [← hleft] at hsub
  exact h.frame hwire hsent hdrawn (fun other hother => .inl (hsub.subset hother))
    (hsub.filterMap _) hbus

/-- A call that sends nothing yet goes on to another such stage. -/
theorem stay (h : Linked S c buffers) {before after : List Call} {call call' : Call}
    (hcalls : c.calls = before ++ call :: after) (hpacket : call'.packet = call.packet)
    (hstage : ∀ Data packetId d ds, call'.stage ≠ .sending Data packetId d ds) :
    Linked S (c.stay before call' after) buffers := by
  have hids : (before ++ call' :: after).filterMap (Call.splitId S) =
      (before ++ after).filterMap (Call.splitId S) := by
    rw [List.filterMap_append, List.filterMap_cons_none (splitId_eq_none hstage),
      List.filterMap_append]
  have hsub := rest_sublist hcalls
  refine h.frame rfl rfl rfl (fun other hother => ?_) ?_ h.plain_bus
  · rcases mem_middle hother with hin | rfl
    · exact .inl (hsub.subset hin)
    · exact .inr ⟨by rw [hpacket]; exact h.plain call (by simp [hcalls]), hstage⟩
  · rw [Client.stay, hids]
    exact hsub.filterMap _

/-- A packet begins: its id, if it is split, is a new one. -/
theorem fill (h : Linked S c buffers) {before after : List Call} {call : Call}
    (hcalls : c.calls = before ++ call :: after) {Data : UnifiedTrackingData} {packetId : UInt32}
    {packetData d : List UInt8} {ds : List (List UInt8)}
    (hbytes : call.packet.GetBytes Data = some packetData)
    (hdatagrams : datagrams S packetId packetData = d :: ds)
    (hnew : splits S packetData = true → packetId ∉ c.drawn) :
    Linked S ((c.draws packetId (splits S packetData)).stay before
      { call with stage := .sending Data packetId d ds } after) buffers := by
  have hsub := rest_sublist hcalls
  have hdrawn : ∀ id ∈ c.drawn, id ∈ (c.draws packetId (splits S packetData)).drawn := by
    intro id hid
    rw [Client.draws]
    dsimp only
    split_ifs
    · exact List.mem_append_left _ hid
    · exact hid
  have hsubids := hsub.filterMap (Call.splitId S)
  have hold := h.ids.sublist hsubids
  have hid : Call.splitId S { call with stage := .sending Data packetId d ds } =
      if splits S packetData then some packetId else none := by
    simp only [Call.splitId, hbytes]
  have hperm : ((before ++ { call with stage := .sending Data packetId d ds } :: after).filterMap
      (Call.splitId S)).Perm ((if splits S packetData then [packetId] else []) ++
        (before ++ after).filterMap (Call.splitId S)) := by
    refine (List.perm_middle.filterMap (Call.splitId S)).trans ?_
    rw [List.filterMap_cons, hid]
    split_ifs <;> exact .refl _
  refine ⟨h.heard, fun id hid => h.fresh id fun hin => hid (hdrawn id hin), ?_, ?_, ?_, ?_,
    h.plain_bus⟩
  · intro other hother Data' packetId' d' ds' hstage
    rcases mem_middle hother with hin | rfl
    · exact h.midway other (hsub.subset hin) Data' packetId' d' ds' hstage
    · cases hstage
      exact ⟨packetData, [], hbytes, hdatagrams, fun hsplits => h.fresh packetId (hnew hsplits)⟩
  · refine hperm.nodup_iff.2 ?_
    split_ifs with hsplits
    · exact List.nodup_cons.2 ⟨fun hin => hnew hsplits (h.ids_drawn _ (hsubids.subset hin)), hold⟩
    · exact hold
  · intro id hid
    rcases List.mem_append.1 (hperm.subset hid) with hin | hin
    · split_ifs at hin with hsplits
      · rw [List.mem_singleton.1 hin, hsplits]
        exact List.mem_append_right _ (List.mem_singleton_self _)
      · exact absurd hin List.not_mem_nil
    · exact hdrawn id (h.ids_drawn id (hsubids.subset hin))
  · intro other hother
    rcases mem_middle hother with hin | rfl
    · exact h.plain other (hsub.subset hin)
    · exact h.plain call (by simp [hcalls])

/-- A datagram goes out. -/
theorem transmit (h : Linked S c buffers) {before after : List Call} {call : Call}
    (hcalls : c.calls = before ++ call :: after) {Data : UnifiedTrackingData} {packetId : UInt32}
    {d : List UInt8} {ds : List (List UInt8)}
    (hstage : call.stage = .sending Data packetId d ds) :
    ∃ next, Linked S ((c.takes d).goOn before call after Data packetId ds) next := by
  have hcall : call ∈ c.calls := by simp [hcalls]
  have hmidway := h.midway call hcall Data packetId d ds hstage
  obtain ⟨next, hlisten, hkeep, hnext⟩ := listen_midway (h.plain call hcall) hmidway
  have hsub := rest_sublist hcalls
  have hother : ∀ id, (call.splitId S = some packetId → id ≠ packetId) → next id = buffers id :=
    fun id hid => hkeep id fun packetData hbytes hsplits => hid (splitId_eq hstage hbytes hsplits)
  have hfresh : ∀ id ∉ c.drawn, next id = none := by
    intro id hid
    rw [hother id fun hsplit heq => hid ?_]
    · exact h.fresh id hid
    · rw [heq]
      exact h.ids_drawn packetId (List.mem_filterMap.2 ⟨call, hcall, hsplit⟩)
  -- the other calls have other ids
  have hmid : ∀ other ∈ before ++ after, ∀ Data' packetId' d' ds',
      other.stage = .sending Data' packetId' d' ds' →
      Midway S next other.packet Data' packetId' d' ds' := by
    intro other hin Data' packetId' d' ds' hstage'
    have hids := h.ids
    rw [hcalls] at hids
    exact (h.midway other (hsub.subset hin) Data' packetId' d' ds' hstage').keep hstage'
      fun hsplit' => hother packetId' fun hsplit => ne_of_nodup_filterMap hids hsplit hin hsplit'
  have hheard := listenAll_snoc h.heard hlisten
  cases ds with
  | nil =>
    refine ⟨next, ?_, hfresh, hmid, h.ids.sublist (hsub.filterMap _),
      fun id hid => h.ids_drawn id ((hsub.filterMap _).subset hid),
      fun other hin => h.plain other (hsub.subset hin), h.plain_bus⟩
    simpa [Client.goOn, Client.takes, Client.leave, Sending.asRead] using hheard
  | cons e es =>
    have hids : (before ++ { call with stage := .sending Data packetId e es } :: after).filterMap
        (Call.splitId S) = c.calls.filterMap (Call.splitId S) := by
      have hsame : Call.splitId S { call with stage := .sending Data packetId e es } =
          call.splitId S := by
        simp only [Call.splitId, hstage]
      rw [hcalls, List.filterMap_append, List.filterMap_append, List.filterMap_cons,
        List.filterMap_cons, hsame]
    refine ⟨next, ?_, hfresh, fun other hin => ?_, ?_, fun id hid => ?_, fun other hin => ?_,
      h.plain_bus⟩
    · simpa [Client.goOn, Client.takes, Client.stay] using hheard
    · rcases mem_middle hin with hin | rfl
      · exact hmid other hin
      · intro Data' packetId' d' ds' hstage'
        cases hstage'
        exact hnext e es rfl
    · exact hids ▸ h.ids
    · exact h.ids_drawn id (hids ▸ hid)
    · rcases mem_middle hin with hin | rfl
      · exact h.plain other (hsub.subset hin)
      · exact h.plain call hcall

theorem runs (h : Linked S c buffers) {before after : List Call} {call : Call}
    (hcalls : c.calls = before ++ call :: after) (hrun : Runs S c before call after c')
    (hdrawn : c'.drawn.Nodup) : ∃ next, Linked S c' next := by
  have hcall : call ∈ c.calls := by simp [hcalls]
  cases hrun with
  | accept => exact ⟨buffers, h.stay hcalls rfl fun _ _ _ _ => nofun⟩
  | hold => exact ⟨buffers, h.stay hcalls rfl fun _ _ _ _ => nofun⟩
  | push =>
    refine ⟨buffers, h.leave hcalls rfl rfl rfl rfl fun p hp => ?_⟩
    rcases List.mem_append.1 hp with hp | hp
    · exact h.plain_bus p hp
    · rw [List.mem_singleton.1 hp]
      exact h.plain call hcall
  | throw => exact ⟨buffers, h.leave hcalls rfl rfl rfl rfl h.plain_bus⟩
  | fill Data packetId packetData hstage hbytes =>
    obtain ⟨d, ds, hdatagrams⟩ :=
      List.exists_cons_of_ne_nil (datagrams_ne_nil hbytes (h.plain call hcall) packetId)
    rw [hdatagrams] at hdrawn ⊢
    refine ⟨buffers, h.fill hcalls hbytes hdatagrams fun hsplits => ?_⟩
    have hlast : (c.drawn ++ [packetId]).Nodup := by
      have hgoOn : ((c.draws packetId (splits S packetData)).goOn before call after Data packetId
          (d :: ds)).drawn = c.drawn ++ [packetId] := by
        rw [hsplits]
        rfl
      rwa [hgoOn] at hdrawn
    exact fun hin => (List.nodup_append.1 hlast).2.2 packetId hin packetId
      (List.mem_singleton_self _) rfl
  | transmit Data packetId d ds hstage => exact h.transmit hcalls hstage

theorem step (h : Linked S c buffers) (a : Action)
    (hposted : ∀ p, a.posted? = some p → p ≠ .PartialPacket)
    (hdrawn : (c.step S a).drawn.Nodup) : ∃ next, Linked S (c.step S a) next := by
  generalize hstep : c.step S a = c' at hdrawn ⊢
  have hsteps := step_steps (S := S) c a
  rw [hstep] at hsteps
  have hnew : ∀ p b, p ≠ IpcPacket.PartialPacket → (∀ q ∈ c'.eventBus, q ≠ .PartialPacket) →
      c' = { c with calls := c.calls ++ [⟨p, .called, b⟩], eventBus := c'.eventBus } →
      Linked S c' buffers := by
    intro p b hp hbus heq
    rw [heq]
    rw [heq] at hbus
    refine h.frame rfl rfl rfl (fun call hcall => ?_) ?_ hbus
    · rcases List.mem_append.1 hcall with hcall | hcall
      · exact .inl hcall
      · rw [List.mem_singleton.1 hcall]
        exact .inr ⟨hp, fun _ _ _ _ => nofun⟩
    · have hnone : Call.splitId S ⟨p, .called, b⟩ = none := rfl
      rw [List.filterMap_append, List.filterMap_cons_none hnone, List.filterMap_nil,
        List.append_nil]
  cases hsteps with
  | still => exact ⟨buffers, h⟩
  | post p => exact ⟨buffers, hnew p false (hposted p rfl) h.plain_bus rfl⟩
  | run i o hcalls hrun => exact h.runs hcalls hrun hdrawn
  | receive =>
    exact ⟨buffers, h.frame rfl rfl rfl (fun _ hcall => .inl hcall) (.refl _) h.plain_bus⟩
  | finish =>
    exact ⟨buffers, h.frame rfl rfl rfl (fun _ hcall => .inl hcall) (.refl _) h.plain_bus⟩
  | pop hbus =>
    have hplain := h.plain_bus
    rw [hbus] at hplain
    obtain ⟨hp, hrest⟩ := List.forall_mem_cons.1 hplain
    exact ⟨buffers, hnew _ true hp hrest rfl⟩

theorem drawn_of_step {c : Client} {a : Action} (h : (c.step S a).drawn.Nodup) :
    c.drawn.Nodup := by
  generalize hstep : c.step S a = c' at h
  have hsteps := step_steps (S := S) c a
  rw [hstep] at hsteps
  have hgoOn : ∀ (c₀ : Client) before call after Data packetId ds,
      (c₀.goOn before call after Data packetId ds).drawn = c₀.drawn := by
    intro c₀ before call after Data packetId ds
    cases ds <;> rfl
  cases hsteps with
  | run i o hcalls hrun =>
    cases hrun with
    | fill Data packetId packetData =>
      rw [hgoOn, Client.draws] at h
      dsimp only at h
      split_ifs at h
      · exact (List.nodup_append.1 h).1
      · exact h
    | transmit => rwa [hgoOn] at h
    | _ => exact h
  | _ => exact h

theorem run (S : Setting) (actions : List Action)
    (hposted : ∀ p ∈ actions.filterMap Action.posted?, p ≠ .PartialPacket)
    (hdrawn : (Client.new.after S actions).drawn.Nodup) :
    ∃ buffers, Linked S (Client.new.after S actions) buffers := by
  induction actions using List.reverseRecOn with
  | nil => exact ⟨_, .new⟩
  | append_singleton actions a ih =>
    have hlast : Client.new.after S (actions ++ [a]) = (Client.new.after S actions).step S a := by
      rw [Client.after, List.foldl_append]
      rfl
    rw [hlast] at hdrawn ⊢
    rw [List.filterMap_append] at hposted
    obtain ⟨buffers, h⟩ := ih (fun p hp => hposted p (List.mem_append_left _ hp))
      (drawn_of_step hdrawn)
    refine h.step a (fun p hp => hposted p (List.mem_append_right _ ?_)) hdrawn
    rw [List.mem_filterMap]
    exact ⟨a, List.mem_singleton_self a, hp⟩

end Linked

/-- A status, held back while the handshake goes out in six chunks; the acknowledgement, and a
    packet of another thread during the drain. -/
def mixedRun : List Action :=
  [.post (.EventStatusUpdatePacket 3), goes 0, .post (.HandshakePacket true 1 ['m']), goes 1,
    goes 1, goes 1, goes 1, goes 1, goes 0, goes 0, goes 0, goes 0,
    .arrive (framed .Handshake ((IpcPacket.HandshakePacket true 1 ['m']).body restingData)),
    .drain, .post .EventTeardownPacket, goes 0, goes 1, goes 1, goes 1, goes 0, goes 0, .drain]

end WKPairDriver.Sandbox
