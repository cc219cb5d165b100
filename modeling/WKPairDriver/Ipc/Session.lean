import WKPairDriver.Ipc.Exchange
import WKPairDriver.Lib.Bytes
import WKPairDriver.Lib.Run

/-!
# A session of the pipe client

The overlay calls `Connect`, `SendBlocking` and `Close` from one thread, each call against its own
environment.  `SendBlocking` calls `Connect` to connect, which calls `SendBlocking` for its
handshake, which may reconnect once more; the flag `reconnecting_` ends it there.

* `sendBlocking_depth`, `connect_depth` — no call nests deeper than `nesting`.
* `run_of_triple` — from the triple of a function to the state a call leaves.
-/

set_option autoImplicit false
set_option mvcgen.warning false

namespace WKPairDriver.Ipc

open Std.Do

variable (layout : Layout) (env : Environment)

theorem wp_run {T : Type} (x : ClientM T) (Q : PostCond T (.except IpcError (.arg Client .pure)))
    (s : Client) : wp⟦x⟧ Q s = match x s with
      | (.ok r, t) => Q.1 r t
      | (.error e, t) => Q.2.1 e t := by
  have hrun : (StateT.run (ExceptT.run x) s).run = x s := rfl
  simp only [WP.wp, PredTrans.apply_pushExcept, PredTrans.apply_pushArg, hrun]
  rcases x s with ⟨e | r, t⟩ <;> rfl

/-- A triple, read at one state. -/
theorem run_of_triple {T : Type} {x : ClientM T} {P : Client → Prop} {Q : T → Client → Prop}
    {E : IpcError → Client → Prop}
    (h : ⦃fun s => ⌜P s⌝⦄ x ⦃post⟨fun r t => ⌜Q r t⌝, fun e t => ⌜E e t⌝⟩⦄) {s : Client}
    (hs : P s) :
    match x s with
    | (.ok r, t) => Q r t
    | (.error e, t) => E e t := by
  have hwp := h s hs
  rw [wp_run] at hwp
  rcases hx : x s with ⟨e | r, t⟩ <;>
  · rw [hx] at hwp
    exact hwp

theorem bind_run {T U : Type} (x : ClientM T) (f : T → ClientM U) (s : Client) :
    (x >>= f) s = match x s with
      | (.ok r, t) => f r t
      | (.error e, t) => (.error e, t) := by
  show (match x s with | (r, t) => ExceptT.bindCont f r t : Except IpcError U × Client) = _
  rcases x s with ⟨e | r, t⟩ <;> rfl

theorem tryCatch_run {T : Type} (x : ClientM T) (f : IpcError → ClientM T) (s : Client) :
    (tryCatch x f) s = match x s with
      | (.ok r, t) => (.ok r, t)
      | (.error e, t) => f e t := by
  simp only [tryCatch, tryCatchThe, MonadExceptOf.tryCatch, ExceptT.tryCatch, ExceptT.mk, bind,
    StateT.bind]
  rcases x s with ⟨e | r, t⟩ <;> rfl

/-! ## The depth of the calls -/

/-- Two functions do the same in the states that `P` allows. -/
def AgreeOn {T : Type} (P : Client → Prop) (x y : ClientM T) : Prop := ∀ s, P s → x s = y s

theorem AgreeOn.bind {T U : Type} {P Q : Client → Prop} {x y : ClientM T} {f g : T → ClientM U}
    (h : AgreeOn P x y) (hQ : ∀ s, P s → ∀ r t, x s = (.ok r, t) → Q t)
    (hfg : ∀ r, AgreeOn Q (f r) (g r)) : AgreeOn P (x >>= f) (y >>= g) := by
  intro s hs
  rw [bind_run, bind_run, ← h s hs]
  rcases hx : x s with ⟨e | r, t⟩
  · rfl
  · exact hfg r t (hQ s hs r t hx)

theorem AgreeOn.tryCatch {T : Type} {P Q : Client → Prop} {x y : ClientM T}
    {f g : IpcError → ClientM T} (h : AgreeOn P x y)
    (hQ : ∀ s, P s → ∀ e t, x s = (.error e, t) → Q t) (hfg : ∀ e, AgreeOn Q (f e) (g e)) :
    AgreeOn P (tryCatch x f) (tryCatch y g) := by
  intro s hs
  rw [tryCatch_run, tryCatch_run, ← h s hs]
  rcases hx : x s with ⟨e | r, t⟩
  · exact hfg e t (hQ s hs e t hx)
  · rfl

theorem AgreeOn.rfl {T : Type} {P : Client → Prop} {x : ClientM T} : AgreeOn P x x :=
  fun _ _ => Eq.refl _

theorem AgreeOn.mono {T : Type} {P Q : Client → Prop} {x y : ClientM T} (h : AgreeOn Q x y)
    (hPQ : ∀ s, P s → Q s) : AgreeOn P x y := fun s hs => h s (hPQ s hs)

/-- `Connect` does the same over two functions that do the same for its handshake. -/
theorem connectWith_agree {P : Bool → Prop} {sb sb' : Request → ClientM (List UInt8)}
    (h : AgreeOn (fun s => s.pipe_.isSome = true ∧ P s.reconnecting_) (sb handshake)
      (sb' handshake)) (pipeName : String) (options : IpcClientConnectOptions) :
    AgreeOn (fun s => P s.reconnecting_) (connectWith layout env sb pipeName options)
      (connectWith layout env sb' pipeName options) := by
  refine AgreeOn.tryCatch (Q := fun _ => True) ?_ (fun _ _ _ _ _ => trivial) fun _ => .rfl
  refine AgreeOn.bind (Q := fun s => s.pipe_.isSome = true ∧ P s.reconnecting_) .rfl ?_ fun _ =>
    AgreeOn.bind (Q := fun _ => True) h (fun _ _ _ _ _ => trivial) fun _ => .rfl
  intro s hs r t ht
  have hopen := run_of_triple (openPipe_spec env pipeName options s) (Eq.refl s)
  rw [ht] at hopen
  obtain ⟨hrec, hpipe, _⟩ := hopen
  exact ⟨by rw [hpipe]; exact Eq.refl _, hrec ▸ hs⟩

theorem exchange_settings (caller : Caller) (request : Request) (s₀ : Client) :
    ⦃fun s => ⌜s = s₀⌝⦄ exchange layout env caller request
    ⦃post⟨fun _ t => ⌜SameSettings s₀ t⌝, fun _ t => ⌜SameSettings s₀ t⌝⟩⦄ := by
  mvcgen [exchange]
  all_goals grind [Sent, SendFailed, Received, ReceiveFailed, SameSettings]

theorem connectIfClosed_run (connect : String → IpcClientConnectOptions → ClientM Unit)
    (s : Client) : connectIfClosed connect s =
      if s.pipe_.isNone = true then
        if s.pipeName_ = "" then (.error (.runtime "IPC pipe is not connected."), s)
        else connect s.pipeName_ s.options_ s
      else (.ok (), s) := by
  unfold connectIfClosed
  rw [bind_run]
  show (if _ then (if _ then _ else _) else _ : ClientM Unit) s = _
  split
  · split <;> rfl
  · rfl

/-- `reconnect` does the same over two functions that do the same while `reconnecting_` is set. -/
theorem reconnect_agree {connect connect' : String → IpcClientConnectOptions → ClientM Unit}
    (h : ∀ pipeName options, AgreeOn (fun s => s.reconnecting_ = true)
      (connect pipeName options) (connect' pipeName options)) :
    AgreeOn (fun _ => True) (reconnect connect) (reconnect connect') := by
  refine AgreeOn.bind (Q := fun _ => True) .rfl (fun _ _ _ _ _ => trivial) fun _ => ?_
  refine AgreeOn.bind (Q := fun s => s.reconnecting_ = true) .rfl ?_ fun _ => ?_
  · intro s _ r t ht
    cases ht
    rfl
  refine AgreeOn.bind (Q := fun s => s.reconnecting_ = true) .rfl ?_ fun s => ?_
  · intro s hs r t ht
    cases ht
    exact hs
  refine AgreeOn.tryCatch (Q := fun _ => True) ?_ (fun _ _ _ _ _ => trivial) fun _ => .rfl
  exact AgreeOn.bind (Q := fun _ => True) (h _ _) (fun _ _ _ _ _ => trivial) fun _ => .rfl

/-- `SendBlocking` does the same over two functions that do the same where it calls them: while the
    pipe is closed, and to reconnect. -/
theorem sendBlockingWith_agree {P : Client → Prop}
    {connect connect' : String → IpcClientConnectOptions → ClientM Unit}
    (hclosed : ∀ pipeName options, AgreeOn (fun s => P s ∧ s.pipe_ = none)
      (connect pipeName options) (connect' pipeName options))
    (hbroken : (∀ s, P s → s.pipe_.isSome = true ∧ s.reconnecting_ = true) ∨
      ∀ pipeName options, AgreeOn (fun s => s.reconnecting_ = true)
        (connect pipeName options) (connect' pipeName options)) (caller : Caller)
    (request : Request) :
    AgreeOn P (sendBlockingWith layout env connect caller request)
      (sendBlockingWith layout env connect' caller request) := by
  have hif : AgreeOn P (connectIfClosed connect) (connectIfClosed connect') := by
    intro s hs
    rw [connectIfClosed_run, connectIfClosed_run]
    split
    · next hnone =>
      split
      · rfl
      · exact hclosed _ _ s ⟨hs, by simpa using hnone⟩
    · rfl
  -- behind the first line, and behind the exchange, the flag still forbids to reconnect
  rcases hbroken with hnever | hagree
  · refine AgreeOn.bind (Q := fun s => s.reconnecting_ = true) hif ?_ fun _ => ?_
    · intro s hs r t ht
      have hopen := Option.isSome_iff_ne_none.1 (hnever s hs).1
      rw [connectIfClosed_run, if_neg (by simpa using hopen)] at ht
      cases ht
      exact (hnever s hs).2
    refine AgreeOn.tryCatch (Q := fun s => s.reconnecting_ = true) .rfl ?_ fun e => ?_
    · intro s hs e t ht
      have hsame := run_of_triple (exchange_settings layout env caller request s) (Eq.refl s)
      rw [ht] at hsame
      exact hsame.1.trans hs
    · cases e with
      | runtime message => exact .rfl
      | brokenPipe message error =>
        intro s hs
        dsimp only
        rw [bind_run, bind_run]
        show (if _ then _ else _ : ClientM (List UInt8)) s = (if _ then _ else _ : ClientM _) s
        rw [if_pos (.inl hs), if_pos (.inl hs)]
  · refine AgreeOn.bind (Q := fun _ => True) hif (fun _ _ _ _ _ => trivial) fun _ => ?_
    refine AgreeOn.tryCatch (Q := fun _ => True) .rfl (fun _ _ _ _ _ => trivial) fun e => ?_
    cases e with
    | runtime message => exact .rfl
    | brokenPipe message error =>
      refine AgreeOn.bind (Q := fun _ => True) .rfl (fun _ _ _ _ _ => trivial) fun s => ?_
      split
      · exact .rfl
      · exact AgreeOn.bind (Q := fun _ => True) (reconnect_agree hagree) (fun _ _ _ _ _ => trivial)
          fun _ => .rfl

/-- The depth of the calls: `SendBlocking` to connect, its handshake, and the handshake of the
    reconnect. -/
def nesting : Nat := 3

/-- **No call nests deeper**: with more depth `SendBlocking` does the same. -/
theorem sendBlocking_depth (depth : Nat) (caller : Caller) (request : Request) :
    sendBlocking layout env (nesting + depth) caller request =
      sendBlocking layout env nesting caller request := by
  have one : ∀ d, AgreeOn (fun s => s.pipe_.isSome = true ∧ s.reconnecting_ = true)
      (sendBlocking layout env (d + 1) .connect handshake)
      (sendBlocking layout env 1 .connect handshake) := fun d =>
    sendBlockingWith_agree layout env
      (fun _ _ s hs => by
        obtain ⟨⟨hopen, _⟩, hnone⟩ := hs
        rw [hnone] at hopen
        cases hopen)
      (.inl fun _ hs => hs) .connect handshake
  have two : ∀ d, AgreeOn (fun s => s.pipe_.isSome = true ∧ True)
      (sendBlocking layout env (d + 2) .connect handshake)
      (sendBlocking layout env 2 .connect handshake) := fun d =>
    sendBlockingWith_agree layout env
      (fun _ _ s hs => by
        obtain ⟨⟨hopen, _⟩, hnone⟩ := hs
        rw [hnone] at hopen
        cases hopen)
      (.inr fun pipeName options =>
        connectWith_agree layout env (P := fun b => b = true) (one d) pipeName options)
      .connect handshake
  funext s
  rw [Nat.add_comm]
  refine sendBlockingWith_agree layout env (P := fun _ => True) (fun pipeName options => ?_)
    (.inr fun pipeName options => ?_) caller request s trivial
  · exact (connectWith_agree layout env (P := fun _ => True) (two depth) pipeName options).mono
      fun _ _ => trivial
  · exact (connectWith_agree layout env (P := fun _ => True) (two depth) pipeName options).mono
      fun _ _ => trivial

theorem connect_depth (depth : Nat) (pipeName : String) (options : IpcClientConnectOptions) :
    connect layout env (nesting + depth) pipeName options =
      connect layout env nesting pipeName options := by
  unfold connect
  congr 1
  funext request
  exact sendBlocking_depth layout env depth .connect request

/-! ## Calls of the overlay -/

/-- What the overlay calls. -/
inductive Op where
  | connect (pipeName : String) (options : IpcClientConnectOptions)
  | sendBlocking (request : Request)
  | close

/-- A call with the environment it meets. -/
structure Call where
  env : Environment
  op : Op

/-- One call of the overlay; whether it throws shows in the log only. -/
def callStep (s : Client) (call : Call) : Option Client :=
  let s := { s with clock := 0 }
  match call.op with
  | .connect pipeName options => some (connect layout call.env nesting pipeName options s).2
  | .sendBlocking request =>
    match sendBlocking layout call.env nesting .overlay request s with
    | (.ok response, t) => some { t with log := .returned request response :: t.log }
    | (.error _, t) => some t
  | .close => some (close s).2

/-! ## A small session -/

/-- A layout with four bytes of payload. -/
def smallLayout : Layout where
  sizeofRequest := 8
  sizeofResponse := 12
  responseType := fun response => Lib.Bytes.ofLe32 (response.take 4)
  protocolVersion := fun response => Lib.Bytes.ofLe32 ((response.drop 8).take 4)

/-- Nothing fails, and the driver answers so. -/
def calm (handshakeAnswer : List UInt8) : Environment where
  createFile := fun _ => none
  setNamedPipeHandleState := fun _ => none
  writeFile := fun _ => .wrote 8
  answer := fun _ _ request =>
    if request.type = RequestHandshake then handshakeAnswer
    else Lib.Bytes.le32 2 ++ List.replicate 8 0
  readFile := fun _ => none
  drainRead := fun _ => none
  formatWin32Error := fun _ => ""

/-- `ResponseHandshake` with a version, and with so many bytes behind it. -/
def handshakeResponse (version more : Nat) : List UInt8 :=
  Lib.Bytes.le32 ResponseHandshake ++ Lib.Bytes.le32 0 ++ Lib.Bytes.le32 version ++ List.replicate more 0

/-- Connect, and send one request. -/
def connectAndSend (env : Environment) : List Call :=
  [⟨env, .connect "pipe" {}⟩, ⟨env, .sendBlocking ⟨2, []⟩⟩]

end WKPairDriver.Ipc
