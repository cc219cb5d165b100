import WKPairDriver.Lib.Run

/-!
# The frames of the face-module host: `SpawnAndRunCoreAsync` and `OnServerPacket`

Every pass of the host spawns a subprocess, goes through handshake, capabilities and initialization
with it, polls it for updates and publishes them under the hash of its module.  Packets come in on
one server for all subprocesses; those of an earlier one may come late.

* `Host` — the fields of the manager and the place of the pass; subprocesses are numbered by their
  passes, and packets carry the number of their sender, which the handler does not look at.
* `Faithful` — frames and protocol steps belong to the subprocess of their pass, and a silence of
  more than two seconds is noticed.
* `frames_faithful` — they are, over every run in which only the subprocess of the pass is heard
  from its reset on, and falls silent only before its first update.
* `lateUpdate_misattributed` — two runs in which they are not.
-/

set_option autoImplicit false

namespace WKPairDriver.FaceTracking.PublishedFrames

open Lib

universe u
variable {V : Type u}

/-! ## Packets and frames -/

/-- What the host reads of the data of a `ReplyUpdate`. -/
structure Update (V : Type u) where
  expressionShapes : Option (List V)
  eyeLeftOpenness : V
  eyeRightOpenness : V

structure ReplyInit where
  eyeSuccess : Bool
  expressionSuccess : Bool

inductive Packet (V : Type u) where
  | handshake
  | replyGetSupported
  | replyInit (reply : ReplyInit)
  | replyUpdate (data : Update V)
  | replyTeardown
  /-- log lines and unknown packets -/
  | other

structure EyeFrameSink (V : Type u) where
  LeftOpenness : V
  RightOpenness : V

/-- What `PublishAsync` is given. -/
structure Frame (V : Type u) where
  eye : EyeFrameSink V
  upstreamShapes : List V
  eyeValid : Bool
  exprValid : Bool
  moduleUuidHash : UInt64

/-- `FrameWriter.UpstreamShapeCount`. -/
def UpstreamShapeCount : ℕ := 88

/-- The shapes of an update in the cleared array. -/
def upstreamShapes [Zero V] (data : Update V) : List V :=
  let shapes := (data.expressionShapes.getD []).take UpstreamShapeCount
  shapes ++ List.replicate (UpstreamShapeCount - shapes.length) 0

/-- The openness of an eye, unless the update has none. -/
def EyeFrameSink.take [DecidableEq V] (kInvalid : V) (eye : EyeFrameSink V) (data : Update V) :
    EyeFrameSink V where
  LeftOpenness :=
    if data.eyeLeftOpenness = kInvalid then eye.LeftOpenness else data.eyeLeftOpenness
  RightOpenness :=
    if data.eyeRightOpenness = kInvalid then eye.RightOpenness else data.eyeRightOpenness

/-! ## The host -/

/-- Where a pass stands. -/
inductive Phase where
  | idle
  /-- the fields of the pass are reset, its subprocess is not spawned yet -/
  | reset
  | handshake
  | supported
  | init
  | pull (reply : ReplyInit)
  | teardown

/-- Between its reset and the end of its teardown. -/
def Phase.underWay : Phase → Bool
  | .idle => false
  | _ => true

/-- The steps of the protocol. -/
inductive ProtocolStep where
  | handshake
  | supported
  | init
  | teardown
deriving DecidableEq

/-- A protocol step of a pass, with the sender of the packet that completed it. -/
structure Completion where
  what : ProtocolStep
  run : ℕ
  sender : ℕ

/-- An iteration of the pull loop: for how long the subprocess has been silent, and what the host
    made of it. -/
structure Poll where
  silence : ℕ
  exited : Bool
  published : Bool
  detected : Bool

/-- The fields of `SubprocessManager` and the variables of the pull loop.  A completion source holds
    the sender of the packet that completed it.  Times are milliseconds. -/
structure Host (V : Type u) where
  phase : Phase
  _handshakeTcs : Option ℕ
  _supportedTcs : Option ℕ
  _initTcs : Option (ℕ × ReplyInit)
  _teardownTcs : Option ℕ
  _latestUpdate : Option (Update V)
  eyeSink : EyeFrameSink V
  now : ℕ
  lastUpdateTime : ℕ
  /-- history: the number of the pass and of its subprocess -/
  run : ℕ
  /-- history: the modules of the passes -/
  hashOf : ℕ → UInt64
  /-- history: the updates that arrived, with their senders -/
  received : List (ℕ × Update V)
  /-- history: when the subprocess of the pass was last heard with an update -/
  heard : ℕ
  /-- history: its silence since then has been noticed -/
  detected : Bool
  completions : List Completion
  frames : List (ℕ × Frame V)
  polls : List Poll

def Host.new [Zero V] : Host V where
  phase := .idle
  _handshakeTcs := none
  _supportedTcs := none
  _initTcs := none
  _teardownTcs := none
  _latestUpdate := none
  eyeSink := ⟨0, 0⟩
  now := 0
  lastUpdateTime := 0
  run := 0
  hashOf := fun _ => 0
  received := []
  heard := 0
  detected := false
  completions := []
  frames := []
  polls := []

/-- `OnServerPacket`; `TrySetResult` does nothing for a source that is complete. -/
def Host.OnServerPacket (s : Host V) (sender : ℕ) : Packet V → Host V
  | .handshake => { s with _handshakeTcs := s._handshakeTcs.or (some sender) }
  | .replyGetSupported => { s with _supportedTcs := s._supportedTcs.or (some sender) }
  | .replyInit reply => { s with _initTcs := s._initTcs.or (some (sender, reply)) }
  | .replyUpdate data =>
    { s with
      _latestUpdate := some data
      received := (sender, data) :: s.received
      heard := if sender = s.run then s.now else s.heard
      detected := if sender = s.run then false else s.detected }
  | .replyTeardown => { s with _teardownTcs := s._teardownTcs.or (some sender) }
  | .other => s

/-- A new pass: the per-run fields are reset. -/
def Host.beginRun (s : Host V) (hash : UInt64) : Host V :=
  { s with
    phase := .reset
    _handshakeTcs := none
    _supportedTcs := none
    _initTcs := none
    _teardownTcs := none
    _latestUpdate := none
    run := s.run + 1
    hashOf := Function.update s.hashOf (s.run + 1) hash }

def Host.complete (s : Host V) (what : ProtocolStep) (sender : ℕ) (next : Phase) : Host V :=
  { s with phase := next, completions := ⟨what, s.run, sender⟩ :: s.completions }

/-- A wait of the pass ends because its packet has come; behind the last one the pull loop begins. -/
def Host.proceed [Zero V] (s : Host V) : Option (Host V) :=
  match s.phase with
  | .handshake => s._handshakeTcs.map fun k => s.complete .handshake k .supported
  | .supported => s._supportedTcs.map fun k => s.complete .supported k .init
  | .init => s._initTcs.map fun kr =>
    { s.complete .init kr.1 (.pull kr.2) with
      eyeSink := ⟨0, 0⟩, lastUpdateTime := s.now, heard := s.now, detected := false }
  | _ => none

/-- One iteration of the pull loop, behind its delay: without an update the host warns after two
    seconds, with one it publishes it. -/
def Host.poll [Zero V] [DecidableEq V] (kInvalid : V) (s : Host V) (reply : ReplyInit)
    (exited : Bool) : Host V :=
  match s._latestUpdate with
  | none =>
    let warns := decide (s.lastUpdateTime + 2000 < s.now) && !exited
    let detected := s.detected || warns
    { s with
      lastUpdateTime := if warns then s.now else s.lastUpdateTime
      detected := detected
      polls := ⟨s.now - s.heard, exited, false, detected⟩ :: s.polls }
  | some data =>
    let eye := s.eyeSink.take kInvalid data
    { s with
      lastUpdateTime := s.now
      eyeSink := eye
      frames := (s.run, ⟨eye, upstreamShapes data, reply.eyeSuccess, reply.expressionSuccess,
        s.hashOf s.run⟩) :: s.frames
      polls := ⟨s.now - s.heard, exited, true, s.detected⟩ :: s.polls }

inductive Action (V : Type u) where
  /-- the head of `SpawnAndRunCoreAsync`, for a module -/
  | beginRun (hash : UInt64)
  /-- the subprocess is spawned, or an early return ends the pass -/
  | spawn (ok : Bool)
  /-- a packet of a subprocess of this or of an earlier pass arrives -/
  | packet (sender : ℕ) (p : Packet V)
  | proceed
  | poll (exited : Bool)
  /-- a timeout, an exception or the end of the pull loop -/
  | leave
  /-- the end of the teardown, with the reply or without -/
  | tornDown (replied : Bool)
  | tick (ms : ℕ)

def step [Zero V] [DecidableEq V] (kInvalid : V) (s : Host V) : Action V → Option (Host V)
  | .beginRun hash => match s.phase with
    | .idle => some (s.beginRun hash)
    | _ => none
  | .spawn ok => match s.phase with
    | .reset => some { s with phase := if ok then .handshake else .idle }
    | _ => none
  | .packet sender p => if sender ≤ s.run then some (s.OnServerPacket sender p) else none
  | .proceed => s.proceed
  | .poll exited => match s.phase with
    | .pull reply => some (s.poll kInvalid reply exited)
    | _ => none
  | .leave => match s.phase with
    | .handshake | .supported | .init | .pull _ => some { s with phase := .teardown }
    | _ => none
  | .tornDown replied => match s.phase with
    | .teardown =>
      if replied then s._teardownTcs.map fun k => s.complete .teardown k .idle
      else some { s with phase := .idle }
    | _ => none
  | .tick ms => some { s with now := s.now + ms }

/-! ## Frames come from the subprocess of their pass -/

/-- A value of an eye: what the sink begins with, or what the subprocess has sent. -/
def Sent [Zero V] (received : List (ℕ × Update V)) (run : ℕ) (of : Update V → V) (v : V) : Prop :=
  v = 0 ∨ ∃ r ∈ received, r.1 = run ∧ v = of r.2

/-- A frame under the hash of its pass, with the content of an update of its subprocess. -/
def Attributed [Zero V] (received : List (ℕ × Update V)) (hashOf : ℕ → UInt64) (run : ℕ)
    (f : Frame V) : Prop :=
  f.moduleUuidHash = hashOf run ∧
    (∃ r ∈ received, r.1 = run ∧ f.upstreamShapes = upstreamShapes r.2) ∧
    Sent received run Update.eyeLeftOpenness f.eye.LeftOpenness ∧
    Sent received run Update.eyeRightOpenness f.eye.RightOpenness

/-- A silence of more than two seconds is noticed, and nothing is published during it. -/
def Poll.Noticed (p : Poll) : Prop :=
  2000 < p.silence → p.exited = false → p.detected = true ∧ p.published = false

structure Faithful [Zero V] (s : Host V) : Prop where
  frames : ∀ f ∈ s.frames, Attributed s.received s.hashOf f.1 f.2
  completions : ∀ c ∈ s.completions, c.sender = c.run
  polls : ∀ p ∈ s.polls, p.Noticed

instance [Zero V] [DecidableEq V] (received : List (ℕ × Update V)) (run : ℕ) (of : Update V → V)
    (v : V) : Decidable (Sent received run of v) := by
  unfold Sent
  infer_instance

instance [Zero V] [DecidableEq V] (received : List (ℕ × Update V)) (hashOf : ℕ → UInt64) (run : ℕ)
    (f : Frame V) : Decidable (Attributed received hashOf run f) := by
  unfold Attributed
  infer_instance

instance : DecidablePred Poll.Noticed := fun p => by
  unfold Poll.Noticed
  infer_instance

instance [Zero V] [DecidableEq V] : DecidablePred (Faithful (V := V)) := fun s =>
  decidable_of_iff ((∀ f ∈ s.frames, Attributed s.received s.hashOf f.1 f.2) ∧
    (∀ c ∈ s.completions, c.sender = c.run) ∧ ∀ p ∈ s.polls, p.Noticed)
    ⟨fun h => ⟨h.1, h.2.1, h.2.2⟩, fun h => ⟨h.frames, h.completions, h.polls⟩⟩

/-- From the reset of a pass on, only its subprocess is heard, and it falls silent for more than
    two seconds only before its first update. -/
def OwnPackets (s : Host V) : Action V → Prop
  | .packet sender _ => s.phase.underWay = true → sender = s.run
  | .poll exited => s._latestUpdate.isSome = true → exited = false → s.now ≤ s.heard + 2000
  | _ => True

instance (s : Host V) : DecidablePred (OwnPackets s) := fun a => by
  unfold OwnPackets
  split <;> infer_instance

section Proofs

variable [Zero V]

theorem Sent.mono {received received' : List (ℕ × Update V)} {run : ℕ} {of : Update V → V} {v : V}
    (h : Sent received run of v) (hsub : received ⊆ received') : Sent received' run of v :=
  h.imp_right fun ⟨r, hr, hrun⟩ => ⟨r, hsub hr, hrun⟩

theorem Attributed.mono {received received' : List (ℕ × Update V)} {hashOf : ℕ → UInt64} {run : ℕ}
    {f : Frame V} (h : Attributed received hashOf run f) (hsub : received ⊆ received') :
    Attributed received' hashOf run f := by
  obtain ⟨hhash, ⟨r, hr, hrun⟩, hleft, hright⟩ := h
  exact ⟨hhash, ⟨r, hsub hr, hrun⟩, hleft.mono hsub, hright.mono hsub⟩

/-- The sink takes values of the subprocess or keeps its own. -/
theorem Sent.take [DecidableEq V] {received : List (ℕ × Update V)} {run : ℕ} (kInvalid : V)
    {eye : EyeFrameSink V} {data : Update V} (hdata : (run, data) ∈ received)
    (hleft : Sent received run Update.eyeLeftOpenness eye.LeftOpenness)
    (hright : Sent received run Update.eyeRightOpenness eye.RightOpenness) :
    Sent received run Update.eyeLeftOpenness (eye.take kInvalid data).LeftOpenness ∧
      Sent received run Update.eyeRightOpenness (eye.take kInvalid data).RightOpenness := by
  unfold EyeFrameSink.take
  constructor
  · simp only
    split
    · exact hleft
    · exact .inr ⟨_, hdata, rfl, rfl⟩
  · simp only
    split
    · exact hright
    · exact .inr ⟨_, hdata, rfl, rfl⟩

/-- What the host holds of the pass comes from its subprocess. -/
structure Own (s : Host V) : Prop where
  latest : ∀ data, s._latestUpdate = some data → (s.run, data) ∈ s.received
  handshake : ∀ k, s._handshakeTcs = some k → k = s.run
  supported : ∀ k, s._supportedTcs = some k → k = s.run
  init : ∀ k reply, s._initTcs = some (k, reply) → k = s.run
  teardown : ∀ k, s._teardownTcs = some k → k = s.run

/-- In the pull loop the sink holds values of the subprocess, and while there is no update the host
    compares the clock with the time it was last heard, or has warned. -/
structure Pulling (s : Host V) : Prop where
  left : Sent s.received s.run Update.eyeLeftOpenness s.eyeSink.LeftOpenness
  right : Sent s.received s.run Update.eyeRightOpenness s.eyeSink.RightOpenness
  silent : s._latestUpdate = none → s.detected = true ∨ s.lastUpdateTime = s.heard

structure Inv (s : Host V) : Prop where
  faithful : Faithful s
  old : ∀ f ∈ s.frames, f.1 ≤ s.run
  own : s.phase.underWay = true → Own s
  pulling : ∀ reply, s.phase = .pull reply → Pulling s

theorem new_inv : Inv (Host.new : Host V) := by
  refine ⟨⟨?_, ?_, ?_⟩, ?_, ?_, ?_⟩ <;> simp [Host.new, Phase.underWay]

/-- A step to a place in the same pass, outside the pull loop. -/
theorem Inv.move {s : Host V} (hs : Inv s) {next : Phase} (hnext : next.underWay = true →
    s.phase.underWay = true) (hpull : ∀ reply, next ≠ .pull reply) :
    Inv { s with phase := next } :=
  ⟨⟨hs.faithful.frames, hs.faithful.completions, hs.faithful.polls⟩, hs.old,
    fun h => ⟨(hs.own (hnext h)).latest, (hs.own (hnext h)).handshake,
      (hs.own (hnext h)).supported, (hs.own (hnext h)).init, (hs.own (hnext h)).teardown⟩,
    fun reply h => absurd h (hpull reply)⟩

/-- A protocol step with a packet of the subprocess of the pass. -/
theorem Inv.complete {s : Host V} (hs : Inv s) (what : ProtocolStep) (next : Phase)
    (hnext : next.underWay = true → s.phase.underWay = true)
    (hpull : ∀ reply, next ≠ .pull reply) : Inv (s.complete what s.run next) := by
  have hmove := hs.move hnext hpull
  refine ⟨⟨hs.faithful.frames, ?_, hs.faithful.polls⟩, hs.old, ?_,
    fun reply h => absurd h (hpull reply)⟩
  · intro c hc
    obtain rfl | hc := List.mem_cons.1 hc
    · rfl
    · exact hs.faithful.completions c hc
  · intro h
    have hown := hmove.own h
    exact ⟨hown.latest, hown.handshake, hown.supported, hown.init, hown.teardown⟩

theorem beginRun_inv {s : Host V} (hs : Inv s) (hash : UInt64) : Inv (s.beginRun hash) := by
  refine ⟨⟨?_, hs.faithful.completions, hs.faithful.polls⟩, ?_, ?_, ?_⟩
  · intro f hf
    obtain ⟨hhash, hrest⟩ := hs.faithful.frames f hf
    have := hs.old f hf
    refine ⟨?_, hrest⟩
    rw [hhash]
    exact (Function.update_of_ne (by omega) ..).symm
  · intro f hf
    exact (hs.old f hf).trans (Nat.le_succ _)
  · intro _
    constructor <;> simp [Host.beginRun]
  · intro reply h
    cases h

/-- A packet, which during a pass comes from its subprocess. -/
theorem OnServerPacket_inv {s : Host V} (hs : Inv s) {sender : ℕ}
    (hown : s.phase.underWay = true → sender = s.run) (p : Packet V) :
    Inv (s.OnServerPacket sender p) := by
  have hor : ∀ {tcs : Option ℕ}, (∀ k, tcs = some k → k = s.run) → s.phase.underWay = true →
      ∀ k, tcs.or (some sender) = some k → k = s.run := by
    intro tcs htcs hphase k hk
    cases tcs with
    | none =>
      cases hk
      exact hown hphase
    | some k' => exact htcs k hk
  have hkeep := hs.faithful
  cases p with
  | handshake =>
    refine ⟨⟨hkeep.frames, hkeep.completions, hkeep.polls⟩, hs.old, fun h => ?_, fun reply h => ?_⟩
    · obtain ⟨hl, hh, hsu, hi, ht⟩ := hs.own h
      exact ⟨hl, hor hh h, hsu, hi, ht⟩
    · obtain ⟨hleft, hright, hsilent⟩ := hs.pulling reply h
      exact ⟨hleft, hright, hsilent⟩
  | replyGetSupported =>
    refine ⟨⟨hkeep.frames, hkeep.completions, hkeep.polls⟩, hs.old, fun h => ?_, fun reply h => ?_⟩
    · obtain ⟨hl, hh, hsu, hi, ht⟩ := hs.own h
      exact ⟨hl, hh, hor hsu h, hi, ht⟩
    · obtain ⟨hleft, hright, hsilent⟩ := hs.pulling reply h
      exact ⟨hleft, hright, hsilent⟩
  | replyInit r =>
    refine ⟨⟨hkeep.frames, hkeep.completions, hkeep.polls⟩, hs.old, fun h => ?_, fun reply h => ?_⟩
    · obtain ⟨hl, hh, hsu, hi, ht⟩ := hs.own h
      refine ⟨hl, hh, hsu, fun k reply hk => ?_, ht⟩
      obtain hnone | ⟨kr, hsome⟩ := s._initTcs.eq_none_or_eq_some
      · simp only [Host.OnServerPacket, hnone, Option.none_or, Option.some.injEq,
          Prod.mk.injEq] at hk
        exact hk.1 ▸ hown h
      · simp only [Host.OnServerPacket, hsome, Option.some_or] at hk
        exact hi k reply (hsome.trans hk)
    · obtain ⟨hleft, hright, hsilent⟩ := hs.pulling reply h
      exact ⟨hleft, hright, hsilent⟩
  | replyUpdate data =>
    have hsub : s.received ⊆ (sender, data) :: s.received := List.subset_cons_self ..
    refine ⟨⟨fun f hf => (hkeep.frames f hf).mono hsub, hkeep.completions, hkeep.polls⟩, hs.old,
      fun h => ?_, fun reply h => ?_⟩
    · obtain ⟨-, hh, hsu, hi, ht⟩ := hs.own h
      refine ⟨fun data' hdata => ?_, hh, hsu, hi, ht⟩
      cases hdata
      rw [hown h]
      exact List.mem_cons_self
    · obtain ⟨hleft, hright, -⟩ := hs.pulling reply h
      exact ⟨hleft.mono hsub, hright.mono hsub, by simp [Host.OnServerPacket]⟩
  | replyTeardown =>
    refine ⟨⟨hkeep.frames, hkeep.completions, hkeep.polls⟩, hs.old, fun h => ?_, fun reply h => ?_⟩
    · obtain ⟨hl, hh, hsu, hi, ht⟩ := hs.own h
      exact ⟨hl, hh, hsu, hi, hor ht h⟩
    · obtain ⟨hleft, hright, hsilent⟩ := hs.pulling reply h
      exact ⟨hleft, hright, hsilent⟩
  | other => exact hs

theorem proceed_inv {s t : Host V} (hs : Inv s) (h : s.proceed = some t) : Inv t := by
  unfold Host.proceed at h
  split at h
  · next hphase =>
    obtain ⟨k, hk, rfl⟩ := Option.map_eq_some_iff.1 h
    have hrun := (hs.own (by rw [hphase]; rfl)).handshake k hk
    rw [hrun]
    exact hs.complete .handshake .supported (fun _ => by rw [hphase]; rfl) (by simp)
  · next hphase =>
    obtain ⟨k, hk, rfl⟩ := Option.map_eq_some_iff.1 h
    have hrun := (hs.own (by rw [hphase]; rfl)).supported k hk
    rw [hrun]
    exact hs.complete .supported .init (fun _ => by rw [hphase]; rfl) (by simp)
  · next hphase =>
    obtain ⟨⟨k, reply⟩, hk, rfl⟩ := Option.map_eq_some_iff.1 h
    have hown := hs.own (by rw [hphase]; rfl)
    have hrun := hown.init k reply hk
    refine ⟨⟨hs.faithful.frames, ?_, hs.faithful.polls⟩, hs.old, fun _ => ?_, fun _ _ => ?_⟩
    · intro c hc
      obtain rfl | hc := List.mem_cons.1 hc
      · exact hrun
      · exact hs.faithful.completions c hc
    · exact ⟨hown.latest, hown.handshake, hown.supported, hown.init, hown.teardown⟩
    · exact ⟨.inl rfl, .inl rfl, fun _ => .inr rfl⟩
  · cases h

theorem poll_inv [DecidableEq V] {kInvalid : V} {s : Host V} {reply : ReplyInit} {exited : Bool}
    (hs : Inv s) (hphase : s.phase = .pull reply)
    (hfresh : s._latestUpdate.isSome = true → exited = false → s.now ≤ s.heard + 2000) :
    Inv (s.poll kInvalid reply exited) := by
  have hown := hs.own (by rw [hphase]; rfl)
  obtain ⟨hleft, hright, hsilent⟩ := hs.pulling reply hphase
  have hkeep := hs.faithful
  unfold Host.poll
  split
  · next hnone =>
    refine ⟨⟨hkeep.frames, hkeep.completions, ?_⟩, hs.old, fun _ => ?_, fun _ _ => ?_⟩
    · intro p hp
      obtain rfl | hp := List.mem_cons.1 hp
      · -- silent for long: either noticed before, or the warning is due now
        intro hlong halive
        simp only at hlong halive
        refine ⟨?_, rfl⟩
        obtain hdetected | htime := hsilent hnone
        · simp [hdetected]
        · simp only [halive, htime, Bool.not_false, Bool.and_true, Bool.or_eq_true,
            decide_eq_true_eq]
          right
          omega
      · exact hkeep.polls p hp
    · exact ⟨hown.latest, hown.handshake, hown.supported, hown.init, hown.teardown⟩
    · refine ⟨hleft, hright, fun _ => ?_⟩
      simp only
      obtain hdetected | htime := hsilent hnone
      · simp [hdetected]
      · cases decide (s.lastUpdateTime + 2000 < s.now) && !exited
        · simp [htime]
        · simp
  · next data hdata =>
    have hmem := hown.latest data hdata
    obtain ⟨hleft', hright'⟩ := Sent.take kInvalid hmem hleft hright
    refine ⟨⟨?_, hkeep.completions, ?_⟩, ?_, fun _ => ?_, fun _ _ => ?_⟩
    · intro f hf
      obtain rfl | hf := List.mem_cons.1 hf
      · exact ⟨rfl, ⟨_, hmem, rfl, rfl⟩, hleft', hright'⟩
      · exact hkeep.frames f hf
    · intro p hp
      obtain rfl | hp := List.mem_cons.1 hp
      · intro hlong halive
        simp only at hlong halive
        have := hfresh (by rw [hdata]; rfl) halive
        omega
      · exact hkeep.polls p hp
    · intro f hf
      obtain rfl | hf := List.mem_cons.1 hf
      · exact Nat.le_refl _
      · exact hs.old f hf
    · exact ⟨hown.latest, hown.handshake, hown.supported, hown.init, hown.teardown⟩
    · exact ⟨hleft', hright', fun h => by rw [hdata] at h; cases h⟩

theorem step_inv [DecidableEq V] {kInvalid : V} {s t : Host V} {a : Action V} (hs : Inv s)
    (hc : OwnPackets s a) (h : step kInvalid s a = some t) : Inv t := by
  cases a with
  | beginRun hash =>
    simp only [step] at h
    split at h <;> cases h
    exact beginRun_inv hs hash
  | spawn ok =>
    simp only [step] at h
    split at h
    · next hphase =>
      cases h
      refine hs.move (fun _ => by rw [hphase]; rfl) ?_
      cases ok <;> simp
    · cases h
  | packet sender p =>
    simp only [step] at h
    split at h <;> cases h
    exact OnServerPacket_inv hs hc p
  | proceed => exact proceed_inv hs h
  | poll exited =>
    simp only [step] at h
    split at h
    · next reply hphase =>
      cases h
      exact poll_inv hs hphase hc
    · cases h
  | leave =>
    simp only [step] at h
    split at h <;> cases h
    all_goals
      next hphase => exact hs.move (fun _ => by rw [hphase]; rfl) (by simp)
  | tornDown replied =>
    simp only [step] at h
    split at h
    · next hphase =>
      split at h
      · obtain ⟨k, hk, rfl⟩ := Option.map_eq_some_iff.1 h
        have hrun := (hs.own (by rw [hphase]; rfl)).teardown k hk
        rw [hrun]
        exact hs.complete .teardown .idle (fun h => by cases h) (by simp)
      · cases h
        exact hs.move (fun h => by cases h) (by simp)
    · cases h
  | tick ms =>
    cases h
    refine ⟨⟨hs.faithful.frames, hs.faithful.completions, hs.faithful.polls⟩, hs.old, fun h => ?_,
      fun reply h => ?_⟩
    · obtain ⟨hl, hh, hsu, hi, ht⟩ := hs.own h
      exact ⟨hl, hh, hsu, hi, ht⟩
    · obtain ⟨hleft, hright, hsilent⟩ := hs.pulling reply h
      exact ⟨hleft, hright, hsilent⟩

end Proofs

/-- **Published frames**: over every run of passes, with any modules and any order and delay of
    packets, in which from its reset on only the subprocess of a pass is heard, and this falls
    silent only before its first update, each frame under a module's hash has the content of
    updates of the subprocess of its pass, each protocol step is completed by it, and its silence is
    noticed. -/
theorem frames_faithful [Zero V] [DecidableEq V] (kInvalid : V) (as : List (Action V))
    (h : AllSteps (step kInvalid) OwnPackets Host.new as) :
    Always (step kInvalid) Faithful Host.new as :=
  Always.of_inv (fun _ _ _ hs hc hstep => step_inv hs hc hstep) (fun _ hs => hs.faithful) new_inv h

/-! ## Two passes -/

/-- A pass of the subprocess `run` up to its pull loop. -/
def startPass (hash : UInt64) (run : ℕ) : List (Action ℤ) :=
  [.beginRun hash, .spawn true, .packet run .handshake, .proceed, .packet run .replyGetSupported,
    .proceed, .packet run (.replyInit ⟨true, true⟩), .proceed]

/-- An update with one shape. -/
def update (v : ℤ) : Packet ℤ := .replyUpdate ⟨some [v], 1, 1⟩

/-- Two modules, one after the other, each with an update of its own. -/
def twoPasses : List (Action ℤ) :=
  startPass 7 1 ++ [.packet 1 (update 3), .tick 8, .poll false, .leave, .packet 1 .replyTeardown,
    .tornDown true] ++
  startPass 9 2 ++ [.packet 2 (update 5), .tick 8, .poll false]

theorem twoPasses_faithful : AllSteps (step (-1)) OwnPackets Host.new twoPasses ∧
    Always (step (-1)) Faithful Host.new twoPasses := by
  have h : AllSteps (step (-1)) OwnPackets Host.new twoPasses := by decide +kernel
  exact ⟨h, frames_faithful (-1) twoPasses h⟩

/-- An update of the first subprocess comes in the pass of the second and is published under the
    hash of its module; and a subprocess that falls silent is published for ever. -/
theorem lateUpdate_misattributed :
    ¬ Always (step (-1)) Faithful Host.new
      (startPass 7 1 ++ [.leave, .tornDown false] ++ startPass 9 2 ++
        [.packet 1 (update 3), .tick 8, .poll false]) ∧
    ¬ Always (step (-1)) Faithful Host.new
      (startPass 7 1 ++ [.packet 1 (update 3), .tick 3000, .poll false]) := by
  constructor <;> decide +kernel

end WKPairDriver.FaceTracking.PublishedFrames
