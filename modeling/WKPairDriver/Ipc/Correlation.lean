import WKPairDriver.Ipc.Session

/-!
# Requests and responses of the pipe client

The driver answers the requests of a connection in order, and `Receive` takes the next answer
whatever it answers.  So a response belongs to the request that was sent with it only if nothing is
outstanding when a request is written: every exchange that fails has to leave the pipe closed, or
its answer taken from the pipe to the end.

* `responses_correlated` — every response `SendBlocking` returns is the whole answer to the very
  write of the request it was called with, and between two calls nothing is outstanding, as long as
  the reads that drain an oversized response fail only because the pipe breaks.
-/

set_option autoImplicit false
set_option mvcgen.warning false

namespace WKPairDriver.Ipc

open Lib Std.Do

variable (layout : Layout) (env : Environment)

/-- The newest events are the write of this request and the whole of its own answer. -/
def Answers (request : Request) (response : List UInt8) (log : List Event) : Prop :=
  ∃ message rest, log = .received message :: .write request (some response) :: rest ∧
    message.request = rest.length ∧ message.whole = response ∧ message.unread = response

/-- Every response that `SendBlocking` returned is the answer to the last write of its request. -/
def Correlated : List Event → Prop
  | [] => True
  | .returned request response :: log => Answers request response log ∧ Correlated log
  | .opened :: log | .write _ _ :: log | .received _ :: log | .connectThrew _ :: log =>
    Correlated log

/-- No answer is outstanding on the connection. -/
def Quiet (s : Client) : Prop := ∀ messages, s.pipe_ = some messages → messages = []

/-- The reads that drain an oversized response fail only because the pipe breaks. -/
def DrainsBreak : Prop := ∀ n e, env.drainRead n = some e → isBrokenPipeError e.val = true

/-- Between two exchanges. -/
def Idle (s : Client) : Prop := Correlated s.log ∧ Quiet s

theorem quiet_of_closed {s : Client} (h : s.pipe_ = none) : Quiet s := by
  intro messages hm
  rw [h] at hm
  cases hm

theorem quiet_of_nil {s : Client} (h : s.pipe_ = some []) : Quiet s := by
  intro messages hm
  rw [h] at hm
  cases hm
  rfl

theorem Idle.of_same {s t : Client} (hs : Idle s) (hlog : t.log = s.log) (hpipe : t.pipe_ = s.pipe_) :
    Idle t := by
  refine ⟨hlog ▸ hs.1, fun messages hm => hs.2 messages ?_⟩
  rw [← hpipe, hm]

/-! ## One exchange -/

variable {layout env}

theorem sendFailed_idle {request : Request} {s t : Client} (hs : Idle s)
    (h : SendFailed request s t) : Idle t := by
  refine ⟨?_, quiet_of_closed h.2.1⟩
  rcases h.2.2 with hlog | ⟨_, answer, hlog⟩
  · rw [hlog]
    exact hs.1
  · rw [hlog]
    exact hs.1

/-- On a quiet connection the answer to the request is all there is to read. -/
theorem sent_only {caller : Caller} {request : Request} {s t : Client} (hs : Idle s)
    (h : Sent env caller request s t) : t.pipe_ = some [answerTo env s caller request] := by
  obtain ⟨_, _, _, messages, hpipe, htpipe⟩ := h
  rw [htpipe, hs.2 messages hpipe]
  rfl

theorem received_idle {caller : Caller} {request : Request} {s t u : Client}
    {response : List UInt8} (hs : Idle s) (hsent : Sent env caller request s t)
    (h : Received t u response) : Idle u ∧ Answers request response u.log := by
  obtain ⟨_, message, messages, htpipe, rfl, hupipe, hulog⟩ := h
  rw [sent_only hs hsent] at htpipe
  cases htpipe
  rw [hsent.2.2.1] at hulog
  refine ⟨⟨?_, quiet_of_nil hupipe⟩, ?_⟩
  · rw [hulog]
    exact hs.1
  · exact ⟨_, s.log, hulog, rfl, rfl, rfl⟩

theorem receiveFailed_idle (hdrain : DrainsBreak env) {caller : Caller} {request : Request}
    {s t u : Client} (hs : Idle s) (hsent : Sent env caller request s t)
    (h : ReceiveFailed layout env t u) : Idle u := by
  obtain ⟨_, hulog, hclosed | ⟨message, messages, htpipe, _, _, _, hrest | ⟨_, n, e, he, hno⟩⟩⟩ := h
  · refine ⟨?_, quiet_of_closed hclosed⟩
    rw [hulog, hsent.2.2.1]
    exact hs.1
  · -- the oversized answer has been drained
    rw [sent_only hs hsent] at htpipe
    cases htpipe
    refine ⟨?_, quiet_of_nil hrest⟩
    rw [hulog, hsent.2.2.1]
    exact hs.1
  · rw [hdrain n e he] at hno
    cases hno

/-! ## Connect and SendBlocking -/

/-- What the correlation needs of a `Connect`. -/
def ConnectIdle (connect : String → IpcClientConnectOptions → ClientM Unit) : Prop :=
  ∀ pipeName options, ⦃fun s => ⌜Idle s⌝⦄ connect pipeName options
    ⦃post⟨fun _ t => ⌜Idle t⌝, fun _ t => ⌜Idle t⌝⟩⦄

/-- What the correlation needs of a `SendBlocking`. -/
def SendBlockingIdle (sendBlocking : Request → ClientM (List UInt8)) : Prop :=
  ∀ request, ⦃fun s => ⌜Idle s⌝⦄ sendBlocking request
    ⦃post⟨fun r t => ⌜Idle t ∧ Answers request r t.log⌝, fun _ t => ⌜Idle t⌝⟩⦄

theorem exchange_idle (hdrain : DrainsBreak env) (caller : Caller) :
    SendBlockingIdle (exchange layout env caller) := by
  intro request
  mvcgen [exchange]
  case vc1.post.success.post.success hs _ _ hsent _ _ => exact received_idle hs hsent
  case vc2.post.success.post.except.handle hs _ _ hsent _ _ =>
    exact receiveFailed_idle hdrain hs hsent
  case vc3.post.except.handle hs _ _ => exact sendFailed_idle hs

theorem connectIfClosed_idle {connect : String → IpcClientConnectOptions → ClientM Unit}
    (hconnect : ConnectIdle connect) :
    ⦃fun s => ⌜Idle s⌝⦄ connectIfClosed connect
    ⦃post⟨fun _ t => ⌜Idle t⌝, fun _ t => ⌜Idle t⌝⟩⦄ := by
  unfold ConnectIdle at hconnect
  mvcgen [connectIfClosed, hconnect]

theorem reconnect_idle {connect : String → IpcClientConnectOptions → ClientM Unit}
    (hconnect : ConnectIdle connect) :
    ⦃fun s => ⌜Idle s⌝⦄ reconnect connect
    ⦃post⟨fun _ t => ⌜Idle t⌝, fun _ t => ⌜Idle t⌝⟩⦄ := by
  unfold ConnectIdle at hconnect
  mvcgen [reconnect, hconnect]
  case vc1.post.success.pre hs _ _ hclose _ =>
    exact ⟨hclose.2.2.symm ▸ hs.1, quiet_of_closed hclose.2.1⟩

theorem sendBlockingWith_idle (hdrain : DrainsBreak env)
    {connect : String → IpcClientConnectOptions → ClientM Unit}
    (hconnect : ConnectIdle connect) (caller : Caller) :
    SendBlockingIdle (sendBlockingWith layout env connect caller) := by
  intro request
  have hif := connectIfClosed_idle hconnect
  have hexchange := @exchange_idle layout _ hdrain caller request
  have hreconnect := reconnect_idle hconnect
  mvcgen [sendBlockingWith, hif, hexchange, hreconnect]
  case vc3.post.success.post.success => exact fun hidle hanswers => ⟨hidle, hanswers⟩

theorem connectBody_idle {sendBlocking : Request → ClientM (List UInt8)}
    (hsend : SendBlockingIdle sendBlocking) : ConnectIdle (connectBody layout env sendBlocking) := by
  intro pipeName options
  have hhandshake := hsend handshake
  mvcgen [connectBody, hhandshake]
  case vc1.post.success.pre hs _ _ hopen =>
    exact ⟨hopen.2.2.symm ▸ hs.1, quiet_of_nil hopen.2.1⟩
  case vc2.post.success.post.success.post.success hanswered _ _ =>
    intro _ hpipe hlog _
    exact hanswered.1.of_same hlog hpipe
  case vc3.post.success.post.success.post.except.handle hanswered _ _ =>
    intro _ hclosed hlog
    exact ⟨hlog.symm ▸ hanswered.1.1, quiet_of_closed hclosed⟩
  case vc4.post.except.handle hs _ _ =>
    intro _ hclosed hlog
    refine ⟨?_, quiet_of_closed hclosed⟩
    rcases hlog with hlog | hlog
    all_goals
      rw [hlog]
      exact hs.1

theorem connectWith_idle {sendBlocking : Request → ClientM (List UInt8)}
    (hsend : SendBlockingIdle sendBlocking) : ConnectIdle (connectWith layout env sendBlocking) := by
  intro pipeName options
  have hbody := @connectBody_idle layout env _ hsend pipeName options
  mvcgen [connectWith, hbody]

theorem sendBlocking_idle (hdrain : DrainsBreak env) (depth : Nat) (caller : Caller) :
    SendBlockingIdle (sendBlocking layout env depth caller) := by
  induction depth generalizing caller with
  | zero =>
    intro request
    mvcgen [sendBlocking]
    case vc1.zero.post.success hs _ _ hclose =>
      exact ⟨hclose.2.2.symm ▸ hs.1, quiet_of_closed hclose.2.1⟩
  | succ depth ih =>
    exact sendBlockingWith_idle hdrain (connectWith_idle (ih .connect)) caller

theorem connect_idle (hdrain : DrainsBreak env) (depth : Nat) :
    ConnectIdle (connect layout env depth) :=
  connectWith_idle (sendBlocking_idle hdrain depth .connect)

/-! ## Sessions -/

variable (layout)

theorem callStep_idle (s : Client) (call : Call) (t : Client) (hs : Idle s)
    (hdrain : DrainsBreak call.env) (ht : callStep layout s call = some t) : Idle t := by
  obtain ⟨env, op⟩ := call
  have hs' : Idle { s with clock := 0 } := hs
  cases op with
  | connect pipeName options =>
    have h := run_of_triple (@connect_idle layout _ hdrain nesting pipeName options) hs'
    cases ht
    split at h
    all_goals
      next heq =>
        rw [heq]
        exact h
  | sendBlocking request =>
    have h := run_of_triple
      (@sendBlocking_idle layout _ hdrain nesting .overlay request) hs'
    simp only [callStep] at ht
    split at ht
    · next heq =>
      rw [heq] at h
      cases ht
      exact ⟨⟨h.2, h.1.1⟩, h.1.2⟩
    · next heq =>
      rw [heq] at h
      cases ht
      exact h
  | close =>
    cases ht
    exact ⟨hs.1, quiet_of_closed rfl⟩

/-- **Responses answer their requests** along a session in which the reads that drain an oversized
    response fail only because the pipe breaks: every response that `SendBlocking` has returned is
    the whole answer to the last write of the request it was called with, and whatever has happened
    no answer is outstanding between two calls. -/
theorem responses_correlated (calls : List Call)
    (h : AllSteps (callStep layout) (fun _ call => DrainsBreak call.env) .new calls) :
    Always (callStep layout) (fun s => Correlated s.log ∧ Quiet s) .new calls :=
  Always.of_inv (callStep_idle layout) (fun _ hs => hs)
    ⟨trivial, quiet_of_closed rfl⟩ h

/-- The session of `connectAndSend`, a request whose answer has four bytes too many, and one more
    request. -/
def oversizedBetween : List Call :=
  let env := calm (handshakeResponse Version 0)
  connectAndSend env ++
    [⟨{ env with answer := fun _ _ _ => List.replicate 16 0 }, .sendBlocking ⟨2, []⟩⟩,
     ⟨env, .sendBlocking ⟨2, []⟩⟩]

theorem responses_correlated_small :
    Always (callStep smallLayout) (fun s => Correlated s.log ∧ Quiet s) .new oversizedBetween :=
  responses_correlated smallLayout _ <| AllSteps.of_forall <| by
    intro call hcall n e he
    simp only [oversizedBetween, connectAndSend, List.cons_append, List.nil_append, List.mem_cons,
      List.not_mem_nil, or_false] at hcall
    rcases hcall with rfl | rfl | rfl | rfl <;> cases he

end WKPairDriver.Ipc
