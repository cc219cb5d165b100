import WKPairDriver.Ipc.Session

/-!
# The version gate of the pipe client

`Connect` compares the version in the answer to its handshake before any other request is sent.
Every way out of a failed exchange closes the pipe, except one: `Receive` throws behind an oversized
message with the pipe open, so a driver that answers the handshake with such a message is connected.

* `version_gate` — along every run whose handshakes are answered by messages that fit, a request is
  written only on a verified connection, and `Connect` throws with the pipe closed.
* `oversizedHandshake_passes` — behind an oversized answer the next request is written.
-/

set_option autoImplicit false
set_option mvcgen.warning false

namespace WKPairDriver.Ipc

open Lib Std.Do

variable (layout : Layout) (env : Environment)

/-- The newest event is the write of a handshake. -/
def handshakeWritten : List Event → Bool
  | .write request _ :: _ => request.type == RequestHandshake
  | _ => false

/-- A handshake on the open connection returned `ResponseHandshake` with the version of the
    overlay. -/
def verified : List Event → Bool
  | [] => false
  | .opened :: _ => false
  | .received message :: log =>
    (handshakeWritten log && decide (Accepted layout message.unread)) || verified log
  | .write _ _ :: log | .connectThrew _ :: log | .returned _ _ :: log => verified log

/-- **The version gate**: a request other than the handshake is written only on a verified
    connection, and the pipe is closed whenever `Connect` throws. -/
def VersionGate : List Event → Prop
  | [] => True
  | .write request _ :: log =>
    (request.type ≠ RequestHandshake → verified layout log = true) ∧ VersionGate log
  | .connectThrew connected :: log => connected = false ∧ VersionGate log
  | .opened :: log | .received _ :: log | .returned _ _ :: log => VersionGate log

instance decidableVersionGate : DecidablePred (VersionGate layout)
  | [] => isTrue trivial
  | .write _ _ :: log =>
    have := decidableVersionGate log
    inferInstanceAs (Decidable ((_ → _) ∧ VersionGate layout log))
  | .connectThrew _ :: log =>
    have := decidableVersionGate log
    inferInstanceAs (Decidable (_ ∧ VersionGate layout log))
  | .opened :: log | .received _ :: log | .returned _ _ :: log => decidableVersionGate log

/-- No handshake of `Connect` is answered by a message that is larger than a response, unless it is
    never read to its end because the pipe breaks. -/
def HandshakesFit : Prop :=
  ∀ n, layout.sizeofResponse < (env.answer n .connect handshake).length →
    env.readFile (n + 1) = none →
      DrainBreaks env (n + 2) ((env.answer n .connect handshake).length - layout.sizeofResponse)

/-! ## One exchange -/

/-- Where a call of `SendBlocking` starts. -/
def Ready (caller : Caller) (s : Client) : Prop :=
  match caller with
  | .overlay => s.pipe_.isSome = true → verified layout s.log = true
  | .connect => s.pipe_ = none ∨ s.pipe_ = some []

/-- Where a call of `SendBlocking` that throws leaves the connection. -/
def Settled (caller : Caller) (s : Client) : Prop :=
  match caller with
  | .overlay => s.pipe_.isSome = true → verified layout s.log = true
  | .connect => s.pipe_ = none

/-- What a call of `SendBlocking` that returns has done for the gate. -/
def Answered (caller : Caller) (request : Request) (s : Client) (response : List UInt8) : Prop :=
  s.pipe_.isSome = true ∧
  match caller with
  | .overlay => verified layout s.log = true
  | .connect => s.pipe_ = some [] ∧
      (request.type = RequestHandshake → Accepted layout response → verified layout s.log = true)

variable {layout env}

/-- The write of one exchange passes the gate. -/
theorem write_gate {caller : Caller} {request : Request} {s : Client} {answer : Option (List UInt8)}
    (hc : caller = .connect → request = handshake) (hs : VersionGate layout s.log)
    (hready : Ready layout caller s) (hopen : s.pipe_.isSome = true) :
    VersionGate layout (.write request answer :: s.log) := by
  refine ⟨fun hno => ?_, hs⟩
  cases caller with
  | overlay => exact hready hopen
  | connect =>
    rw [hc rfl] at hno
    exact absurd rfl hno

theorem sendFailed_gate {caller : Caller} {request : Request} {s t : Client}
    (hc : caller = .connect → request = handshake) (hs : VersionGate layout s.log)
    (hready : Ready layout caller s) (h : SendFailed request s t) :
    VersionGate layout t.log ∧ t.pipe_ = none := by
  refine ⟨?_, h.2.1⟩
  rcases h.2.2 with hlog | ⟨hopen, answer, hlog⟩
  · rw [hlog]
    exact hs
  · rw [hlog]
    exact write_gate hc hs hready hopen

theorem sent_gate {caller : Caller} {request : Request} {s t : Client}
    (hc : caller = .connect → request = handshake) (hs : VersionGate layout s.log)
    (hready : Ready layout caller s) (h : Sent env caller request s t) :
    VersionGate layout t.log := by
  obtain ⟨_, _, hlog, messages, hpipe, _⟩ := h
  rw [hlog]
  exact write_gate hc hs hready (by rw [hpipe]; rfl)

theorem received_gate {caller : Caller} {request : Request} {s t u : Client}
    {response : List UInt8} (hready : Ready layout caller s) (hsent : Sent env caller request s t)
    (ht : VersionGate layout t.log) (h : Received t u response) :
    VersionGate layout u.log ∧ Answered layout caller request u response := by
  obtain ⟨_, _, htlog, messages, hpipe, htpipe⟩ := hsent
  obtain ⟨_, message, rest, htpipe', rfl, hupipe, hulog⟩ := h
  rw [hulog]
  refine ⟨ht, by rw [hupipe]; rfl, ?_⟩
  cases caller with
  | overlay =>
    have hverified : verified layout s.log = true := hready (by rw [hpipe]; rfl)
    simp [hulog, htlog, verified, hverified]
  | connect =>
    refine ⟨?_, fun htype hacc => ?_⟩
    · rcases hready with hnone | hnil
      · rw [hpipe] at hnone
        cases hnone
      · rw [hpipe] at hnil
        cases hnil
        rw [htpipe] at htpipe'
        cases htpipe'
        exact hupipe
    · simp [hulog, htlog, verified, handshakeWritten, htype, hacc]

theorem receiveFailed_gate (hfit : HandshakesFit layout env) {caller : Caller} {request : Request}
    {s t u : Client} (hc : caller = .connect → request = handshake)
    (hready : Ready layout caller s) (hsent : Sent env caller request s t)
    (ht : VersionGate layout t.log) (h : ReceiveFailed layout env t u) :
    VersionGate layout u.log ∧ Settled layout caller u := by
  obtain ⟨_, hclock, htlog, messages, hpipe, htpipe⟩ := hsent
  obtain ⟨_, hulog, hfail⟩ := h
  rw [hulog]
  refine ⟨ht, ?_⟩
  cases caller with
  | overlay =>
    intro _
    have hverified : verified layout s.log = true := hready (by rw [hpipe]; rfl)
    rw [hulog, htlog]
    exact hverified
  | connect =>
    rcases hfail with hnone | ⟨message, rest, htpipe', hlt, hfault, hno, _⟩
    · exact hnone
    · exfalso
      rcases hready with hnone | hnil
      · rw [hpipe] at hnone
        cases hnone
      · rw [hpipe] at hnil
        cases hnil
        rw [htpipe] at htpipe'
        cases htpipe'
        rw [hclock] at hfault hno
        rw [hc rfl] at hno hlt
        exact hno (hfit s.clock hlt hfault)

/-! ## Connect and SendBlocking -/

variable (layout env)

/-- What the gate needs of a `Connect`. -/
def ConnectGate (connect : String → IpcClientConnectOptions → ClientM Unit) : Prop :=
  ∀ pipeName options, ⦃fun s => ⌜VersionGate layout s.log⌝⦄ connect pipeName options
    ⦃post⟨fun _ t => ⌜VersionGate layout t.log ∧ t.pipe_ = some [] ∧
        verified layout t.log = true⌝,
      fun _ t => ⌜VersionGate layout t.log ∧ t.pipe_ = none⌝⟩⦄

/-- What the gate needs of a `SendBlocking`. -/
def SendBlockingGate (caller : Caller) (sendBlocking : Request → ClientM (List UInt8)) : Prop :=
  ∀ request, (caller = .connect → request = handshake) →
    ⦃fun s => ⌜VersionGate layout s.log ∧ Ready layout caller s⌝⦄ sendBlocking request
    ⦃post⟨fun r t => ⌜VersionGate layout t.log ∧ Answered layout caller request t r⌝,
      fun _ t => ⌜VersionGate layout t.log ∧ Settled layout caller t⌝⟩⦄

variable {layout env}

theorem settled_of_closed {caller : Caller} {s : Client} (h : s.pipe_ = none) :
    Settled layout caller s := by
  cases caller with
  | overlay =>
    intro hopen
    rw [h] at hopen
    cases hopen
  | connect => exact h

theorem ready_of_closed {caller : Caller} {s : Client} (h : s.pipe_ = none) :
    Ready layout caller s := by
  cases caller with
  | overlay =>
    intro hopen
    rw [h] at hopen
    cases hopen
  | connect => exact .inl h

theorem ready_of_verified {caller : Caller} {s : Client} (h : s.pipe_ = some [])
    (hv : verified layout s.log = true) : Ready layout caller s := by
  cases caller with
  | overlay => exact fun _ => hv
  | connect => exact .inr h

theorem exchange_gate (hfit : HandshakesFit layout env) (caller : Caller) :
    SendBlockingGate layout caller (exchange layout env caller) := by
  intro request hc
  mvcgen [exchange]
  case vc1.post.success.post.success hs _ _ hsent _ _ =>
    exact received_gate hs.2 hsent (sent_gate hc hs.1 hs.2 hsent)
  case vc2.post.success.post.except.handle hs _ _ hsent _ _ =>
    exact receiveFailed_gate hfit hc hs.2 hsent (sent_gate hc hs.1 hs.2 hsent)
  case vc3.post.except.handle hs _ _ =>
    intro hfailed
    obtain ⟨hgate, hclosed⟩ := sendFailed_gate hc hs.1 hs.2 hfailed
    exact ⟨hgate, settled_of_closed hclosed⟩

theorem connectIfClosed_gate {connect : String → IpcClientConnectOptions → ClientM Unit}
    (hconnect : ConnectGate layout connect) (caller : Caller) :
    ⦃fun s => ⌜VersionGate layout s.log ∧ Ready layout caller s⌝⦄ connectIfClosed connect
    ⦃post⟨fun _ t => ⌜VersionGate layout t.log ∧ Ready layout caller t⌝,
      fun _ t => ⌜VersionGate layout t.log ∧ t.pipe_ = none⌝⟩⦄ := by
  unfold ConnectGate at hconnect
  mvcgen [connectIfClosed, hconnect]
  case vc1.isTrue.isTrue hs hclosed _ => exact ⟨hs.1, by simpa using hclosed⟩
  case vc2.isTrue.isFalse.pre hs _ _ => exact hs.1
  case vc3.isTrue.isFalse.post.success =>
    intro hgate hpipe hv
    exact ⟨hgate, ready_of_verified hpipe hv⟩

theorem reconnect_gate {connect : String → IpcClientConnectOptions → ClientM Unit}
    (hconnect : ConnectGate layout connect) :
    ⦃fun s => ⌜VersionGate layout s.log⌝⦄ reconnect connect
    ⦃post⟨fun _ t => ⌜VersionGate layout t.log ∧ t.pipe_ = some [] ∧
        verified layout t.log = true⌝,
      fun _ t => ⌜VersionGate layout t.log ∧ t.pipe_ = none⌝⟩⦄ := by
  unfold ConnectGate at hconnect
  mvcgen [reconnect, hconnect]
  case vc1.post.success.pre hs _ _ hclose _ =>
    show VersionGate layout _
    rw [hclose.2.2]
    exact hs

theorem sendBlockingWith_gate (hfit : HandshakesFit layout env)
    {connect : String → IpcClientConnectOptions → ClientM Unit}
    (hconnect : ConnectGate layout connect) (caller : Caller) :
    SendBlockingGate layout caller (sendBlockingWith layout env connect caller) := by
  intro request hc
  have hif := connectIfClosed_gate hconnect caller
  have hexchange := exchange_gate hfit caller request hc
  have hreconnect := reconnect_gate hconnect
  mvcgen [sendBlockingWith, hif, hexchange, hreconnect]
  case vc3.post.success.post.success => exact fun hgate hanswered => ⟨hgate, hanswered⟩
  case vc6.post.success.post.except.handle.h_2.isFalse.pre hleft _ => exact hleft.1
  case vc7.post.success.post.except.handle.h_2.isFalse.post.success _ _ h =>
    exact ⟨h.1, ready_of_verified h.2.1 h.2.2⟩
  case vc8.post.success.post.except.handle.h_2.isFalse.post.except.handle =>
    exact fun hgate hclosed => ⟨hgate, settled_of_closed hclosed⟩
  case vc9.post.except.handle => exact fun hgate hclosed => ⟨hgate, settled_of_closed hclosed⟩

theorem connectBody_gate {sendBlocking : Request → ClientM (List UInt8)}
    (hsend : SendBlockingGate layout .connect sendBlocking) :
    ConnectGate layout (connectBody layout env sendBlocking) := by
  intro pipeName options
  have hhandshake := hsend handshake fun _ => rfl
  mvcgen [connectBody, hhandshake]
  case vc1.post.success.pre hs _ _ hopen =>
    rw [hopen.2.2]
    exact ⟨hs, .inr hopen.2.1⟩
  case vc2.post.success.post.success.post.success hanswered _ _ =>
    intro _ hpipe hlog haccepted
    rw [hpipe, hlog]
    exact ⟨hanswered.1, hanswered.2.2.1, hanswered.2.2.2 rfl haccepted⟩
  case vc3.post.success.post.success.post.except.handle hanswered _ _ =>
    intro _ hclosed hlog
    rw [hlog]
    exact ⟨hanswered.1, hclosed⟩
  case vc4.post.except.handle hs _ _ =>
    intro _ hclosed hlog
    refine ⟨?_, hclosed⟩
    rcases hlog with hlog | hlog
    all_goals
      rw [hlog]
      exact hs

theorem connectWith_gate {sendBlocking : Request → ClientM (List UInt8)}
    (hsend : SendBlockingGate layout .connect sendBlocking) :
    ConnectGate layout (connectWith layout env sendBlocking) := by
  intro pipeName options
  have hbody := @connectBody_gate layout env sendBlocking hsend pipeName options
  mvcgen [connectWith, hbody]
  case vc2.post.success => exact fun hgate hpipe hv => ⟨hgate, hpipe, hv⟩
  case vc3.post.except.handle.post.success hbody _ _ hrecord =>
    rw [hrecord.2.2, hrecord.2.1, hbody.2]
    exact ⟨⟨rfl, hbody.1⟩, rfl⟩

theorem sendBlocking_gate (hfit : HandshakesFit layout env) (depth : Nat) (caller : Caller) :
    SendBlockingGate layout caller (sendBlocking layout env depth caller) := by
  induction depth generalizing caller with
  | zero =>
    intro request hc
    mvcgen [sendBlocking]
    case vc1.zero.post.success hs _ _ hclose =>
      rw [hclose.2.2]
      exact ⟨hs.1, settled_of_closed hclose.2.1⟩
  | succ depth ih =>
    intro request hc
    exact sendBlockingWith_gate hfit (connectWith_gate (ih .connect)) caller request hc

theorem connect_gate (hfit : HandshakesFit layout env) (depth : Nat) :
    ConnectGate layout (connect layout env depth) :=
  connectWith_gate (sendBlocking_gate hfit depth .connect)

/-! ## Sessions -/

variable (layout)

/-- Between two calls: the gate was kept, and an open connection is verified. -/
def GateInv (s : Client) : Prop := VersionGate layout s.log ∧ Ready layout .overlay s

theorem callStep_gate (s : Client) (call : Call) (t : Client) (hs : GateInv layout s)
    (hfit : HandshakesFit layout call.env) (ht : callStep layout s call = some t) :
    GateInv layout t := by
  obtain ⟨env, op⟩ := call
  cases op with
  | connect pipeName options =>
    have h := run_of_triple (connect_gate hfit nesting pipeName options)
      (s := { s with clock := 0 }) hs.1
    cases ht
    split at h
    · next heq =>
      rw [heq]
      exact ⟨h.1, ready_of_verified h.2.1 h.2.2⟩
    · next heq =>
      rw [heq]
      exact ⟨h.1, ready_of_closed h.2⟩
  | sendBlocking request =>
    have h := run_of_triple
      (sendBlocking_gate hfit nesting .overlay request fun hno => by cases hno)
      (s := { s with clock := 0 }) hs
    simp only [callStep] at ht
    split at ht
    · next heq =>
      rw [heq] at h
      cases ht
      exact ⟨h.1, fun _ => h.2.2⟩
    · next heq =>
      rw [heq] at h
      cases ht
      exact h
  | close =>
    cases ht
    exact ⟨hs.1, ready_of_closed rfl⟩

/-- **The version gate** along a session: if every handshake of `Connect` is answered by a message
    that fits (or that is not read to its end because the pipe breaks), a request other than the
    handshake is written only on a verified connection, and `Connect` throws with the pipe closed. -/
theorem version_gate (calls : List Call)
    (h : AllSteps (callStep layout) (fun _ call => HandshakesFit layout call.env) .new calls) :
    Always (callStep layout) (fun s => VersionGate layout s.log) .new calls :=
  Always.of_inv (I := GateInv layout) (callStep_gate layout) (fun _ hs => hs.1)
    ⟨trivial, fun hopen => by cases hopen⟩ h

/-! ## A driver with a larger response -/

theorem version_gate_small :
    Always (callStep smallLayout) (fun s => VersionGate smallLayout s.log) .new
      (connectAndSend (calm (handshakeResponse Version 0))) :=
  have fits : HandshakesFit smallLayout (calm (handshakeResponse Version 0)) :=
    fun _ h => absurd h (show ¬ 12 < (handshakeResponse Version 0).length by decide)
  version_gate smallLayout _ fun _ _ => ⟨fits, fun _ _ => ⟨fits, trivial⟩⟩

/-- The requests of type 2 in the log that were written and answered. -/
def answered (log : List Event) : Nat := log.countP fun e => e matches .write ⟨2, _⟩ (some _)

/-- A newer driver answers with a response that has grown by four bytes: `Connect` throws with the
    pipe open, and the next request is written to the unverified connection. -/
theorem oversizedHandshake_passes :
    ¬ Always (callStep smallLayout) (fun s => VersionGate smallLayout s.log) .new
      (connectAndSend (calm (handshakeResponse (Version + 1) 4))) ∧
    (runTo (callStep smallLayout) .new
      (connectAndSend (calm (handshakeResponse (Version + 1) 4)))).map
        (fun s => (answered s.log, verified smallLayout s.log)) = some (1, false) := by
  decide +kernel

end WKPairDriver.Ipc
