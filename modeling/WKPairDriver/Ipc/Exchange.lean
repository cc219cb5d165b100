import WKPairDriver.Ipc.Client
import Mathlib

/-!
# What Send and Receive do to a connection

One specification for each function below `Connect` and `SendBlocking`: from the state before the
call to the answer, the connection and the log behind it.

* `send_spec` — a request is written and answered, or the pipe is closed.
* `receive_spec` — the next message is returned, or the pipe is closed, or the message is larger
  than a response and `Receive` throws with the pipe open.
-/

set_option autoImplicit false
set_option mvcgen.warning false

namespace WKPairDriver.Ipc

open Std.Do

variable (layout : Layout) (env : Environment)

/-! ## The API calls -/

/-- The connection, the log and the number of calls may change, what a reconnect reads may not. -/
def SameSettings (s t : Client) : Prop :=
  t.reconnecting_ = s.reconnecting_ ∧ t.pipeName_ = s.pipeName_

theorem SameSettings.trans {s t u : Client} (h : SameSettings s t) (h' : SameSettings t u) :
    SameSettings s u :=
  ⟨h'.1.trans h.1, h'.2.trans h.2⟩

@[spec]
theorem nextCall_spec (s₀ : Client) :
    ⦃fun s => ⌜s = s₀⌝⦄ nextCall
    ⦃post⟨fun n t => ⌜n = s₀.clock ∧ SameSettings s₀ t ∧ t.clock = s₀.clock + 1 ∧
        t.pipe_ = s₀.pipe_ ∧ t.log = s₀.log⌝,
      fun _ _ => ⌜False⌝⟩⦄ := by
  mvcgen [nextCall]
  simp_all [SameSettings]

@[spec]
theorem close_spec (s₀ : Client) :
    ⦃fun s => ⌜s = s₀⌝⦄ close
    ⦃post⟨fun _ t => ⌜SameSettings s₀ t ∧ t.pipe_ = none ∧ t.log = s₀.log⌝,
      fun _ _ => ⌜False⌝⟩⦄ := by
  mvcgen [close]
  next s hs _ =>
    subst hs
    exact ⟨⟨rfl, rfl⟩, rfl, rfl⟩

@[spec]
theorem record_spec (e : Event) (s₀ : Client) :
    ⦃fun s => ⌜s = s₀⌝⦄ record e
    ⦃post⟨fun _ t => ⌜SameSettings s₀ t ∧ t.pipe_ = s₀.pipe_ ∧ t.log = e :: s₀.log⌝,
      fun _ _ => ⌜False⌝⟩⦄ := by
  mvcgen [record]
  next s hs _ =>
    subst hs
    exact ⟨⟨rfl, rfl⟩, rfl, rfl⟩

/-- The message with which the driver answers a request that is written now. -/
def answerTo (s : Client) (caller : Caller) (request : Request) : Message :=
  .fresh s.log.length (env.answer s.clock caller request)

/-- A write that is complete is answered; any other leaves the connection alone. -/
@[spec]
theorem writeFile_spec (caller : Caller) (request : Request) (s₀ : Client) :
    ⦃fun s => ⌜s = s₀⌝⦄ writeFile layout env caller request
    ⦃post⟨fun r t => ⌜SameSettings s₀ t ∧ t.clock = s₀.clock + 1 ∧
      ((r = .wrote layout.sizeofRequest ∧
        t.log = .write request (some (answerTo env s₀ caller request).whole) :: s₀.log ∧
        t.pipe_ = s₀.pipe_.map (· ++ [answerTo env s₀ caller request])) ∨
       (r ≠ .wrote layout.sizeofRequest ∧ t.log = .write request none :: s₀.log))⌝,
      fun _ _ => ⌜False⌝⟩⦄ := by
  mvcgen [writeFile]
  all_goals simp_all [SameSettings, answerTo, Message.fresh]

/-- What `ReadFile` finds on the pipe and leaves there. -/
def ReadPost (fault : Option ReadError) (size : Nat) (s t : Client) : ReadResult → Prop
  | .failed error => t.pipe_ = s.pipe_ ∧ ((∃ e, fault = some e ∧ e.val = error) ∨
      fault = none ∧ ∀ message messages, s.pipe_ ≠ some (message :: messages))
  | .moreData => fault = none ∧ ∃ message messages, s.pipe_ = some (message :: messages) ∧
      size < message.unread.length ∧
      t.pipe_ = some ({ message with unread := message.unread.drop size } :: messages)
  | .read message => fault = none ∧ ∃ messages, s.pipe_ = some (message :: messages) ∧
      message.unread.length ≤ size ∧ t.pipe_ = some messages

theorem ReadPost.of_pipe {fault : Option ReadError} {size : Nat} {s s' t : Client} {r : ReadResult}
    (h : ReadPost fault size s t r) (hpipe : s.pipe_ = s'.pipe_) : ReadPost fault size s' t r := by
  cases r <;> simpa only [ReadPost, hpipe] using h

/-- A read fails, takes the beginning of a message, or takes the rest of it. -/
@[spec]
theorem readFile_spec (fault : Option ReadError) (size : Nat) (s₀ : Client) :
    ⦃fun s => ⌜s = s₀⌝⦄ readFile fault size
    ⦃post⟨fun r t => ⌜SameSettings s₀ t ∧ t.clock = s₀.clock ∧ t.log = s₀.log ∧
        ReadPost fault size s₀ t r⌝,
      fun _ _ => ⌜False⌝⟩⦄ := by
  mvcgen [readFile]
  all_goals simp_all [SameSettings, ReadPost]

/-- The reads that drain so many bytes from call `n` on end with a broken pipe. -/
def DrainBreaks (n unread : Nat) : Prop :=
  ∃ k, k * drainBufferSize < unread ∧ (∀ j < k, env.drainRead (n + j) = none) ∧
    ∃ error, env.drainRead (n + k) = some error ∧ isBrokenPipeError error.val = true

/-- A read that takes a part of the message leaves the break to the reads behind it. -/
theorem DrainBreaks.tail {n unread : Nat} (h : DrainBreaks env n unread)
    (hn : env.drainRead n = none) : DrainBreaks env (n + 1) (unread - drainBufferSize) := by
  obtain ⟨k, hk, hbefore, error, herror, hbroken⟩ := h
  cases k with
  | zero =>
    rw [Nat.add_zero, hn] at herror
    cases herror
  | succ k =>
    have hk' : k * drainBufferSize < unread - drainBufferSize := by
      rw [Nat.add_mul, Nat.one_mul] at hk
      omega
    refine ⟨k, hk', fun j hj => ?_, error, ?_, hbroken⟩
    · rw [Nat.add_assoc, Nat.add_comm 1]
      exact hbefore (j + 1) (by omega)
    · rw [Nat.add_assoc, Nat.add_comm 1]
      exact herror

/-- A message that the first read takes whole does not break. -/
theorem DrainBreaks.not_of_le {n unread : Nat} (h : DrainBreaks env n unread)
    (hn : env.drainRead n = none) : drainBufferSize < unread := by
  obtain ⟨k, hk, -⟩ := DrainBreaks.tail env h hn
  omega

theorem outstanding_of_pipe {s : Client} {message : Message} {messages : List Message}
    (h : s.pipe_ = some (message :: messages)) : outstanding s = message.unread.length := by
  unfold outstanding
  rw [h]

/-- How the drain loop ends, and what it leaves of the message. -/
def DrainPost (s t : Client) : Drained → Prop
  | .broken _ => True
  | .finished => t.pipe_ = s.pipe_.map List.tail ∧ ¬ DrainBreaks env s.clock (outstanding s)
  | .failed => t.pipe_.isSome = true ∧ ¬ DrainBreaks env s.clock (outstanding s) ∧
      ∃ n e, env.drainRead n = some e ∧ isBrokenPipeError e.val = false

/-- What the loop leaves behind a read that took a part of the message. -/
theorem DrainPost.of_moreData {s t u : Client} {r : Drained} {message : Message}
    {messages : List Message} (hfault : env.drainRead s.clock = none)
    (hpipe : s.pipe_ = some (message :: messages)) (hclock : t.clock = s.clock + 1)
    (htpipe : t.pipe_ = some
      ({ message with unread := message.unread.drop drainBufferSize } :: messages))
    (h : DrainPost env t u r) : DrainPost env s u r := by
  have hs : outstanding s = message.unread.length := outstanding_of_pipe hpipe
  have ht : outstanding t = outstanding s - drainBufferSize := by
    rw [outstanding_of_pipe htpipe, hs, List.length_drop]
  have hbreaks : DrainBreaks env s.clock (outstanding s) →
      DrainBreaks env t.clock (outstanding t) := by
    intro hb
    rw [hclock, ht]
    exact hb.tail env hfault
  cases r with
  | broken error => trivial
  | finished => exact ⟨by rw [h.1, htpipe, hpipe]; rfl, fun hb => h.2 (hbreaks hb)⟩
  | failed => exact ⟨h.1, fun hb => h.2.1 (hbreaks hb), h.2.2⟩

/-- A read that fails otherwise than by a broken pipe ends the loop before the message does. -/
theorem DrainPost.of_failed {s t : Client} {error : Nat} (hpos : 0 < outstanding s)
    (hpipe : t.pipe_ = s.pipe_) (hbroken : ¬ isBrokenPipeError error = true)
    (h : (∃ e, env.drainRead s.clock = some e ∧ e.val = error) ∨
      env.drainRead s.clock = none ∧
        ∀ message messages, s.pipe_ ≠ some (message :: messages)) :
    DrainPost env s t .failed := by
  obtain ⟨message, messages, hs⟩ : ∃ message messages, s.pipe_ = some (message :: messages) := by
    unfold outstanding at hpos
    split at hpos
    · exact ⟨_, _, ‹_›⟩
    · omega
  rcases h with ⟨e, he, rfl⟩ | ⟨_, hno⟩
  · refine ⟨by rw [hpipe, hs]; rfl, ?_, s.clock, e, he, by simpa using hbroken⟩
    rintro ⟨k, _, hbefore, e', he', hb'⟩
    cases k with
    | zero =>
      rw [Nat.add_zero, he] at he'
      cases he'
      exact hbroken hb'
    | succ k =>
      rw [← Nat.add_zero s.clock, hbefore 0 (by omega)] at he
      cases he
  · exact absurd hs (hno message messages)

/-- The drain loop ends before its number of reads does, since each takes bytes of the message. -/
@[spec]
theorem drain_spec (reads : Nat) (s₀ : Client) :
    ⦃fun s => ⌜s = s₀⌝⦄ drain env reads
    ⦃post⟨fun r t => ⌜SameSettings s₀ t ∧ t.log = s₀.log ∧
        (0 < outstanding s₀ → outstanding s₀ ≤ reads → DrainPost env s₀ t r)⌝,
      fun _ _ => ⌜False⌝⟩⦄ := by
  induction reads generalizing s₀ with
  | zero =>
    mvcgen [drain]
    next s hs =>
      subst hs
      exact ⟨⟨rfl, rfl⟩, rfl, fun hpos hle => by omega⟩
  | succ reads ih =>
    mvcgen [drain, ih]
    case vc1.succ.post.success.post.success.h_1 hs _ _ hcall _ _ hr _ hread =>
      subst hs hr
      obtain ⟨rfl, hsame, _, hpipe, hlog⟩ := hcall
      obtain ⟨hsame', _, hlog', hfault, messages, hmessage, hle, htail⟩ := hread
      refine ⟨hsame.trans hsame', hlog'.trans hlog, fun _ _ => ⟨?_, fun hb => ?_⟩⟩
      · rw [htail, ← hpipe, hmessage]
        rfl
      · have hlt := hb.not_of_le env hfault
        rw [outstanding_of_pipe (hpipe ▸ hmessage)] at hlt
        omega
    case vc2.succ.post.success.post.success.h_2.post.success hs _ _ hcall _ hr _ hread _ _ =>
      subst hs hr
      obtain ⟨rfl, hsame, hclock, hpipe, hlog⟩ := hcall
      obtain ⟨hsame', hclock', hlog', hfault, message, messages, hmessage, hlt, hrest⟩ := hread
      intro hsame'' hlog'' hpost
      refine ⟨(hsame.trans hsame').trans hsame'', (hlog''.trans hlog').trans hlog, ?_⟩
      intro _ hreads
      rw [hpipe] at hmessage
      rw [outstanding_of_pipe hmessage] at hreads
      have hout := outstanding_of_pipe hrest
      rw [List.length_drop] at hout
      refine (hpost ?_ ?_).of_moreData env hfault hmessage (hclock'.trans hclock) hrest
      · omega
      · have : 0 < drainBufferSize := by decide
        omega
    case vc3.succ.post.success.post.success.h_3.isTrue hs _ _ hcall _ _ hr _ _ hread =>
      subst hs hr
      exact ⟨hcall.2.1.trans hread.1, hread.2.2.1.trans hcall.2.2.2.2, fun _ _ => trivial⟩
    case vc4.succ.post.success.post.success.h_3.isFalse hs _ _ hcall _ _ hr hbroken _ hread =>
      subst hs hr
      obtain ⟨rfl, hsame, hclock, hpipe, hlog⟩ := hcall
      obtain ⟨hsame', _, hlog', hpipe', hcause⟩ := hread
      rw [hpipe] at hcause
      exact ⟨hsame.trans hsame', hlog'.trans hlog,
        fun hpos _ => .of_failed env hpos (hpipe'.trans hpipe) hbroken hcause⟩

/-! ## Send and Receive -/

/-- The request is written, and the driver has answered. -/
def Sent (caller : Caller) (request : Request) (s t : Client) : Prop :=
  SameSettings s t ∧ t.clock = s.clock + 1 ∧
  t.log = .write request (some (answerTo env s caller request).whole) :: s.log ∧
  ∃ messages, s.pipe_ = some messages ∧
    t.pipe_ = some (messages ++ [answerTo env s caller request])

/-- `Send` has thrown. -/
def SendFailed (request : Request) (s t : Client) : Prop :=
  SameSettings s t ∧ t.pipe_ = none ∧
  (t.log = s.log ∨ s.pipe_.isSome = true ∧ ∃ answer, t.log = .write request answer :: s.log)

/-- `Send` writes and is answered, or throws with the pipe closed. -/
@[spec]
theorem send_spec (caller : Caller) (request : Request) (s₀ : Client) :
    ⦃fun s => ⌜s = s₀⌝⦄ send layout env caller request
    ⦃post⟨fun _ t => ⌜Sent env caller request s₀ t⌝, fun _ t => ⌜SendFailed request s₀ t⌝⟩⦄ := by
  mvcgen [send]
  case vc5.isFalse.post.success.h_2.isFalse hs hopen _ _ hr hsize _ ht =>
    subst hs hr
    obtain ⟨hsame, hclock, ⟨_, hlog, hpipe⟩ | ⟨hno, _⟩⟩ := ht
    · obtain ⟨messages, hmessages⟩ := Option.ne_none_iff_exists'.1 (by simpa using hopen)
      exact ⟨hsame, hclock, hlog, messages, hmessages, by rw [hpipe, hmessages]; rfl⟩
    · exact absurd (by simpa using hsize) hno
  all_goals
    grind [SendFailed, SameSettings, Option.isNone_iff_eq_none, Option.isSome_iff_ne_none]

/-- The next message is read, and it is larger than a response: what `Receive` leaves open. -/
def Oversized (s t : Client) : Prop :=
  ∃ message messages, s.pipe_ = some (message :: messages) ∧
    layout.sizeofResponse < message.unread.length ∧ env.readFile s.clock = none ∧
    ¬ DrainBreaks env (s.clock + 1) (message.unread.length - layout.sizeofResponse) ∧
    (t.pipe_ = some messages ∨
      t.pipe_.isSome = true ∧ ∃ n e, env.drainRead n = some e ∧ isBrokenPipeError e.val = false)

theorem Oversized.of_drained {s t u : Client} {r : Drained} (hr : ∀ error, r ≠ .broken error)
    (hclock : t.clock = s.clock + 1)
    (hread : ReadPost (env.readFile s.clock) layout.sizeofResponse s t .moreData)
    (hdrain : 0 < outstanding t → outstanding t ≤ outstanding t → DrainPost env t u r) :
    Oversized layout env s u := by
  obtain ⟨hfault, message, messages, hmessage, hlt, hrest⟩ := hread
  have hout := outstanding_of_pipe hrest
  rw [List.length_drop] at hout
  have hpost := hdrain (by omega) le_rfl
  refine ⟨message, messages, hmessage, hlt, hfault, ?_⟩
  rw [← hclock, ← hout]
  cases r with
  | broken error => exact absurd rfl (hr error)
  | finished => exact ⟨hpost.2, .inl (by rw [hpost.1, hrest]; rfl)⟩
  | failed => exact ⟨hpost.2.1, .inr ⟨hpost.1, hpost.2.2⟩⟩

/-- `Receive` has returned the bytes of the next message. -/
def Received (s t : Client) (response : List UInt8) : Prop :=
  SameSettings s t ∧ ∃ message messages, s.pipe_ = some (message :: messages) ∧
    response = message.unread ∧ t.pipe_ = some messages ∧ t.log = .received message :: s.log

/-- `Receive` has thrown. -/
def ReceiveFailed (s t : Client) : Prop :=
  SameSettings s t ∧ t.log = s.log ∧ (t.pipe_ = none ∨ Oversized layout env s t)

/-- The way out behind a drain that does not find the pipe broken. -/
theorem ReceiveFailed.of_drained {s t u v : Client} {r : Drained} (hr : ∀ error, r ≠ .broken error)
    (hcall : SameSettings s t ∧ t.clock = s.clock + 1 ∧ t.pipe_ = s.pipe_ ∧ t.log = s.log)
    (hread : SameSettings t u ∧ u.clock = t.clock ∧ u.log = t.log ∧
      ReadPost (env.readFile s.clock) layout.sizeofResponse t u .moreData)
    (hdrain : SameSettings u v ∧ v.log = u.log ∧
      (0 < outstanding u → outstanding u ≤ outstanding u → DrainPost env u v r)) :
    ReceiveFailed layout env s v := by
  obtain ⟨hsame, hclock, hpipe, hlog⟩ := hcall
  obtain ⟨hsame', hclock', hlog', hpost⟩ := hread
  exact ⟨(hsame.trans hsame').trans hdrain.1, (hdrain.2.1.trans hlog').trans hlog,
    .inr (.of_drained layout env hr (hclock'.trans hclock) (hpost.of_pipe hpipe) hdrain.2.2)⟩

/-- `Receive` returns the next message whole, or throws: with the pipe closed, or with the pipe
    open behind an oversized message. -/
@[spec]
theorem receive_spec (s₀ : Client) :
    ⦃fun s => ⌜s = s₀⌝⦄ receive layout env
    ⦃post⟨fun r t => ⌜Received s₀ t r⌝, fun _ t => ⌜ReceiveFailed layout env s₀ t⌝⟩⦄ := by
  mvcgen [receive]
  case vc1.isTrue hs hclosed =>
    subst hs
    exact ⟨⟨rfl, rfl⟩, rfl, .inl (by simpa using hclosed)⟩
  case vc2.isFalse.post.success.post.success.h_1.post.success.h_1.post.success
      hs _ _ _ hcall _ hr _ hread _ _ hr' _ hdrain _ _ hclose =>
    subst hs hr hr'
    exact ⟨((hcall.2.1.trans hread.1).trans hdrain.1).trans hclose.1,
      ((hclose.2.2.trans hdrain.2.1).trans hread.2.2.1).trans hcall.2.2.2.2, .inl hclose.2.1⟩
  case vc3.isFalse.post.success.post.success.h_1.post.success.h_2
      hs _ _ _ hcall _ hr _ hread _ hr' _ hdrain =>
    subst hs hr hr'
    obtain ⟨rfl, hcall⟩ := hcall
    exact .of_drained layout env (fun _ h => by cases h) hcall hread hdrain
  case vc4.isFalse.post.success.post.success.h_1.post.success.h_3
      hs _ _ _ hcall _ hr _ hread _ hr' _ hdrain =>
    subst hs hr hr'
    obtain ⟨rfl, hcall⟩ := hcall
    exact .of_drained layout env (fun _ h => by cases h) hcall hread hdrain
  case vc8.isFalse.post.success.post.success.h_3.isFalse.post.success
      hs _ _ _ hcall _ message hr _ _ hread _ _ hrecord =>
    subst hs hr
    obtain ⟨rfl, hsame, _, hpipe, hlog⟩ := hcall
    obtain ⟨hsame', _, hlog', _, messages, hmessage, _, htail⟩ := hread
    exact ⟨(hsame.trans hsame').trans hrecord.1, message, messages, hpipe ▸ hmessage, rfl,
      hrecord.2.1.trans htail, by rw [hrecord.2.2, hlog', hlog]⟩
  -- the other ways out close the pipe
  all_goals grind [ReceiveFailed, SameSettings]

/-! ## The two ends of Connect -/

/-- `Connect` opens a new connection before its handshake, or throws with the pipe closed. -/
@[spec]
theorem openPipe_spec (pipeName : String) (options : IpcClientConnectOptions) (s₀ : Client) :
    ⦃fun s => ⌜s = s₀⌝⦄ openPipe env pipeName options
    ⦃post⟨fun _ t => ⌜t.reconnecting_ = s₀.reconnecting_ ∧ t.pipe_ = some [] ∧
        t.log = .opened :: s₀.log⌝,
      fun _ t => ⌜t.reconnecting_ = s₀.reconnecting_ ∧ t.pipe_ = none ∧
        (t.log = s₀.log ∨ t.log = .opened :: s₀.log)⌝⟩⦄ := by
  mvcgen [openPipe]
  all_goals grind [SameSettings]

/-- `Connect` is content with the answer to its handshake, or throws with the pipe closed. -/
@[spec]
theorem checkHandshake_spec (options : IpcClientConnectOptions) (response : List UInt8)
    (s₀ : Client) :
    ⦃fun s => ⌜s = s₀⌝⦄ checkHandshake layout options response
    ⦃post⟨fun _ t => ⌜SameSettings s₀ t ∧ t.pipe_ = s₀.pipe_ ∧ t.log = s₀.log ∧
        Accepted layout response⌝,
      fun _ t => ⌜SameSettings s₀ t ∧ t.pipe_ = none ∧ t.log = s₀.log⌝⟩⦄ := by
  mvcgen [checkHandshake]
  case vc1.isTrue haccepted _ hs _ =>
    subst hs
    exact ⟨⟨rfl, rfl⟩, rfl, rfl, haccepted⟩
  case vc2.isFalse.post.success _ _ hs _ _ _ hclose =>
    subst hs
    exact hclose

end WKPairDriver.Ipc
