import WKPairDriver.Lib.Run

/-!
# The pipe server of the driver

`IPCServer::RunThread` keeps one instance of the named pipe waiting for a client and serves the
connected ones from the completion routines of their reads and writes.  It blocks in
`WaitForSingleObjectEx` on `connectEvent`, a manual-reset event that `ConnectNamedPipe` clears and
that a completed connect, or the thread itself, sets again.

A run is a list of actions: the start of the thread, a client that connects to the pending
instance, a wake-up of the thread by its event, a completion routine, a failed wait.  What Windows
answers to the calls of an action is part of the action.

* `server_keeps_listening` — the thread never blocks without a pending instance exactly when every
  `ConnectNamedPipe` of the run reports a pending or an already connected client.
* `starved_forever` — once it does, no client connects any more.
* `responses_answer_requests` — every connected instance has written one response for each request
  it has read.
-/

set_option autoImplicit false

namespace WKPairDriver.Ipc.Server

open Lib

/-- What `GetLastError` holds behind `ConnectNamedPipe`.  A client that came between the creation
    of the instance and the call is reported as connected if it is still there (the thread then
    sets the event itself, which may fail), and as no data if it has left. -/
inductive ConnectResult where
  | ioPending
  | pipeConnected (setEvent : Bool)
  | noData
  | other (error : Nat)
  deriving DecidableEq, Repr

/-- What Windows answers to the calls of one `CreateAndConnectInstance`. -/
structure Listen where
  /-- `CreateNamedPipeA` returns a handle. -/
  created : Bool
  connect : ConnectResult
  deriving DecidableEq, Repr

/-- The overlapped operation of a connected instance. -/
inductive Outstanding where
  | read
  | write
  deriving DecidableEq, Repr

/-- `PipeInstance`, with the messages that passed over it: the requests read and the responses
    whose write was started.  `none` is `INVALID_HANDLE_VALUE`. -/
structure PipeInstance where
  pipe : Option Nat
  outstanding : Outstanding
  requests : Nat
  responses : Nat
  deriving DecidableEq, Repr

inductive Thread where
  | starting
  | waiting
  | exited
  deriving DecidableEq, Repr

/-- The server and what Windows holds for it: the event, and the instances whose overlapped
    connect is pending. -/
structure State where
  thread : Thread
  connectEvent : Bool
  connectPending : Bool
  nextPipe : Option Nat
  pipes : List PipeInstance
  pending : List Nat
  /-- The next handle value. -/
  handles : Nat
  deriving DecidableEq, Repr

/-- The server before its thread runs. -/
def initial : State where
  thread := .starting
  connectEvent := false
  connectPending := false
  nextPipe := none
  pipes := []
  pending := []
  handles := 0

/-! ## The functions of the server -/

/-- `CreateAndConnectInstance`: `connectPending` is its return value, `nextPipe` its reference
    argument.  A failed creation does not touch the event; `ConnectNamedPipe` clears it. -/
def createAndConnectInstance (l : Listen) (s : State) : State :=
  if l.created = false then { s with connectPending := false, nextPipe := none }
  else
    let pipe := s.handles
    let s := { s with connectEvent := false, handles := s.handles + 1 }
    match l.connect with
    | .ioPending =>
      { s with connectPending := true, nextPipe := some pipe, pending := pipe :: s.pending }
    | .pipeConnected true =>
      { s with connectEvent := true, connectPending := false, nextPipe := some pipe }
    -- the pipe is closed again, and nothing sets the event
    | .pipeConnected false | .noData | .other _ =>
      { s with connectPending := false, nextPipe := none }

/-- `ClosePipeInstance`. -/
def closePipeInstance (inst : PipeInstance) (s : State) : State :=
  { s with pipes := s.pipes.filter (·.pipe ≠ inst.pipe) }

/-- The instance replaces the one with its handle. -/
def setInstance (inst : PipeInstance) (s : State) : State :=
  { s with pipes := inst :: s.pipes.filter (·.pipe ≠ inst.pipe) }

/-- `CreatePipeInstance`. -/
def createPipeInstance (pipe : Option Nat) : PipeInstance where
  pipe := pipe
  outstanding := .write
  requests := 0
  responses := 0

/-- `CompletedWriteCallback`: the next read is started, or the instance is closed.  `readStarted` is
    the answer of `ReadFileEx`, which fails on an invalid handle. -/
def completedWriteCallback (responseSize err bytesWritten : Nat) (readStarted : Bool)
    (inst : PipeInstance) (s : State) : State :=
  if err = 0 ∧ bytesWritten = responseSize ∧ inst.pipe.isSome ∧ readStarted = true then
    setInstance { inst with outstanding := .read } s
  else closePipeInstance inst s

/-- `CompletedReadCallback`: a whole request is handled and its response is written, anything else
    closes the instance.  `writeStarted` is the answer of `WriteFileEx`. -/
def completedReadCallback (requestSize err bytesRead : Nat) (writeStarted : Bool)
    (inst : PipeInstance) (s : State) : State :=
  if err = 0 ∧ bytesRead = requestSize ∧ inst.pipe.isSome ∧ writeStarted = true then
    setInstance { inst with
      outstanding := .write, requests := inst.requests + 1, responses := inst.responses + 1 } s
  else closePipeInstance inst s

/-- The end of `RunThread`, with its `ThreadGuard`: the instances of the connected clients and the
    event are closed. -/
def exitThread (s : State) : State :=
  { s with thread := .exited, pipes := [], connectEvent := false }

/-- The body of the loop of `RunThread` behind a wait that returned 0.  `overlapped` is the answer
    of `GetOverlappedResult`, `readStarted` that of the `ReadFileEx` in the completion routine that
    is called for the new client. -/
def onConnectEvent (responseSize : Nat) (overlapped readStarted : Bool) (l : Listen) (s : State) :
    State :=
  if s.connectPending = true ∧ overlapped = false then exitThread { s with nextPipe := none }
  else
    let inst := createPipeInstance s.nextPipe
    createAndConnectInstance l <|
      completedWriteCallback responseSize 0 responseSize readStarted inst (setInstance inst s)

/-! ## The server as a system -/

inductive Action where
  /-- The thread is scheduled for the first time; `CreateEvent` may fail. -/
  | start (eventCreated : Bool) (l : Listen)
  /-- The pending connect of an instance completes. -/
  | clientConnects (pipe : Nat)
  /-- The wait returns because the event is set. -/
  | wake (overlapped readStarted : Bool) (l : Listen)
  /-- The wait runs the completion routine of a read. -/
  | readCompleted (inst : PipeInstance) (err bytesRead : Nat) (writeStarted : Bool)
  /-- The wait runs the completion routine of a write. -/
  | writeCompleted (inst : PipeInstance) (err bytesWritten : Nat) (readStarted : Bool)
  /-- `WaitForSingleObjectEx` fails. -/
  | waitFailed
  deriving DecidableEq, Repr

variable (requestSize responseSize : Nat)

/-- **One action of the server**, before `Stop`.  The event is created set, so the thread passes its
    first wait at once. -/
def step (s : State) : Action → Option State
  | .start eventCreated l =>
    if s.thread = .starting then
      if eventCreated = true then
        some (createAndConnectInstance l { s with thread := .waiting, connectEvent := true })
      else some (exitThread s)
    else none
  | .clientConnects pipe =>
    if pipe ∈ s.pending then
      some { s with connectEvent := true, pending := s.pending.erase pipe }
    else none
  | .wake overlapped readStarted l =>
    if s.thread = .waiting ∧ s.connectEvent = true then
      some (onConnectEvent responseSize overlapped readStarted l s)
    else none
  | .readCompleted inst err bytesRead writeStarted =>
    if s.thread = .waiting ∧ inst ∈ s.pipes ∧ inst.outstanding = .read then
      some (completedReadCallback requestSize err bytesRead writeStarted inst s)
    else none
  | .writeCompleted inst err bytesWritten readStarted =>
    if s.thread = .waiting ∧ inst ∈ s.pipes ∧ inst.outstanding = .write then
      some (completedWriteCallback responseSize err bytesWritten readStarted inst s)
    else none
  | .waitFailed => if s.thread = .waiting then some (exitThread s) else none

/-- When the thread blocks on its event, some instance of the pipe is pending connection. -/
def Listening (s : State) : Prop :=
  s.thread = .waiting → s.connectEvent = false → ∃ pipe, pipe ∈ s.pending

instance : DecidablePred Listening := fun s =>
  decidable_of_iff (s.thread = .waiting → s.connectEvent = false → s.pending ≠ [])
    (forall_congr' fun _ => forall_congr' fun _ =>
      ⟨List.exists_mem_of_ne_nil _, fun ⟨_, hp⟩ => List.ne_nil_of_mem hp⟩)

/-- `ConnectNamedPipe`, if it is called, reports a pending client, or a connected one for whom the
    event is then set. -/
def Listen.Answered (l : Listen) : Prop :=
  l.created = true → l.connect = .ioPending ∨ l.connect = .pipeConnected true

instance : DecidablePred Listen.Answered := fun _ =>
  inferInstanceAs (Decidable (_ → _))

/-- The action calls `CreateAndConnectInstance` only with a `ConnectNamedPipe` that reports a
    client, pending or connected. -/
def ConnectAnswered (s : State) : Action → Prop
  | .start eventCreated l => eventCreated = true → l.Answered
  | .wake overlapped _ l => (s.connectPending = true ∧ overlapped = false) ∨ l.Answered
  | _ => True

/-! ## What the functions leave alone -/

section Frame
variable (inst : PipeInstance) (s : State)

@[simp] theorem closePipeInstance_thread : (closePipeInstance inst s).thread = s.thread := rfl
@[simp] theorem closePipeInstance_connectEvent :
    (closePipeInstance inst s).connectEvent = s.connectEvent := rfl
@[simp] theorem closePipeInstance_connectPending :
    (closePipeInstance inst s).connectPending = s.connectPending := rfl
@[simp] theorem closePipeInstance_nextPipe :
    (closePipeInstance inst s).nextPipe = s.nextPipe := rfl
@[simp] theorem closePipeInstance_pending : (closePipeInstance inst s).pending = s.pending := rfl
@[simp] theorem setInstance_thread : (setInstance inst s).thread = s.thread := rfl
@[simp] theorem setInstance_connectEvent :
    (setInstance inst s).connectEvent = s.connectEvent := rfl
@[simp] theorem setInstance_connectPending :
    (setInstance inst s).connectPending = s.connectPending := rfl
@[simp] theorem setInstance_nextPipe : (setInstance inst s).nextPipe = s.nextPipe := rfl
@[simp] theorem setInstance_pending : (setInstance inst s).pending = s.pending := rfl

end Frame

/-- What decides whether the thread can be woken. -/
structure SameListener (s t : State) : Prop where
  thread : t.thread = s.thread
  connectEvent : t.connectEvent = s.connectEvent
  connectPending : t.connectPending = s.connectPending
  nextPipe : t.nextPipe = s.nextPipe
  pending : t.pending = s.pending

theorem completedWriteCallback_listener (err bytesWritten : Nat) (readStarted : Bool)
    (inst : PipeInstance) (s : State) :
    SameListener s (completedWriteCallback responseSize err bytesWritten readStarted inst s) := by
  unfold completedWriteCallback
  split <;> constructor <;> simp

theorem completedReadCallback_listener (err bytesRead : Nat) (writeStarted : Bool)
    (inst : PipeInstance) (s : State) :
    SameListener s (completedReadCallback requestSize err bytesRead writeStarted inst s) := by
  unfold completedReadCallback
  split <;> constructor <;> simp

/-! ## The listener -/

/-- The event is set, or the one pending instance is the next to be served. -/
def Armed (s : State) : Prop :=
  (s.connectEvent = true ∧ s.pending = []) ∨
    ∃ pipe, s.connectEvent = false ∧ s.pending = [pipe] ∧ s.nextPipe = some pipe ∧
      s.connectPending = true

/-- Before the thread starts nothing is pending; while it waits, the listener is armed. -/
def Inv (s : State) : Prop :=
  (s.thread = .starting → s.pending = []) ∧ (s.thread = .waiting → Armed s)

theorem SameListener.armed {s t : State} (h : SameListener s t) (hs : Armed s) : Armed t := by
  unfold Armed at *
  rw [h.connectEvent, h.pending, h.nextPipe, h.connectPending]
  exact hs

theorem SameListener.inv {s t : State} (h : SameListener s t) (hs : Inv s) : Inv t := by
  refine ⟨fun ht => ?_, fun ht => ?_⟩
  · rw [h.pending]
    exact hs.1 (h.thread ▸ ht)
  · exact h.armed (hs.2 (h.thread ▸ ht))

theorem Inv.listening {s : State} (hs : Inv s) : Listening s := by
  intro hw he
  rcases hs.2 hw with ⟨het, _⟩ | ⟨pipe, _, hp, _⟩
  · rw [he] at het
    cases het
  · exact ⟨pipe, by rw [hp]; exact List.mem_singleton_self pipe⟩

@[simp] theorem createAndConnectInstance_thread (l : Listen) (s : State) :
    (createAndConnectInstance l s).thread = s.thread := by
  unfold createAndConnectInstance
  split
  · rfl
  · dsimp only
    split <;> rfl

/-- An answered `CreateAndConnectInstance` arms the listener. -/
theorem createAndConnectInstance_armed {l : Listen} {s : State} (hl : l.Answered)
    (he : s.connectEvent = true) (hp : s.pending = []) :
    Armed (createAndConnectInstance l s) := by
  unfold createAndConnectInstance
  split
  · exact .inl ⟨he, hp⟩
  · next hc =>
    rcases hl (by simpa using hc) with hpend | hconn
    · rw [hpend]
      exact .inr ⟨s.handles, rfl, by simp [hp], rfl, rfl⟩
    · rw [hconn]
      exact .inl ⟨rfl, hp⟩

/-- One that is not answered leaves the event cleared and nothing pending. -/
theorem createAndConnectInstance_starved {l : Listen} {s : State} (hl : ¬ l.Answered) :
    (createAndConnectInstance l s).connectEvent = false ∧
      (createAndConnectInstance l s).pending = s.pending := by
  unfold Listen.Answered at hl
  push Not at hl
  obtain ⟨hc, hpend, hconn⟩ := hl
  unfold createAndConnectInstance
  rw [if_neg (by simp [hc])]
  dsimp only
  split
  · contradiction
  · contradiction
  all_goals exact ⟨rfl, rfl⟩

/-- What a wake-up of the thread does to the listener. -/
theorem onConnectEvent_cases (overlapped readStarted : Bool) (l : Listen) (s : State) :
    (s.connectPending = true ∧ overlapped = false ∧
      (onConnectEvent responseSize overlapped readStarted l s).thread = .exited) ∨
    (¬ (s.connectPending = true ∧ overlapped = false) ∧ ∃ t, SameListener s t ∧
      onConnectEvent responseSize overlapped readStarted l s = createAndConnectInstance l t) := by
  unfold onConnectEvent
  by_cases h : s.connectPending = true ∧ overlapped = false
  · rw [if_pos h]
    exact .inl ⟨h.1, h.2, rfl⟩
  · rw [if_neg h]
    refine .inr ⟨h, _, ?_, rfl⟩
    have hset : SameListener s (setInstance (createPipeInstance s.nextPipe) s) := by
      constructor <;> simp
    have hcb := completedWriteCallback_listener responseSize 0 responseSize readStarted
      (createPipeInstance s.nextPipe) (setInstance (createPipeInstance s.nextPipe) s)
    exact ⟨hcb.thread.trans hset.thread, hcb.connectEvent.trans hset.connectEvent,
      hcb.connectPending.trans hset.connectPending, hcb.nextPipe.trans hset.nextPipe,
      hcb.pending.trans hset.pending⟩

theorem inv_of_exited {s : State} (h : s.thread = .exited) : Inv s := by
  refine ⟨fun ht => ?_, fun ht => ?_⟩ <;>
  · rw [h] at ht
    cases ht

/-- An event that is set while the thread waits leaves nothing pending. -/
theorem Inv.pending_nil {s : State} (hs : Inv s) (hw : s.thread = .waiting)
    (he : s.connectEvent = true) : s.pending = [] := by
  rcases hs.2 hw with ⟨_, hp⟩ | ⟨_, he', _⟩
  · exact hp
  · rw [he] at he'
    cases he'

/-- A step whose `ConnectNamedPipe` is answered keeps the listener armed. -/
theorem step_inv (s : State) (a : Action) (t : State) (hs : Inv s) (ha : ConnectAnswered s a)
    (ht : step requestSize responseSize s a = some t) : Inv t := by
  cases a with
  | start eventCreated l =>
    simp only [step] at ht
    split at ht
    · next hstart =>
      split at ht
      · next hev =>
        cases ht
        refine ⟨fun h => by simp at h, fun _ => ?_⟩
        exact createAndConnectInstance_armed (ha hev) rfl (hs.1 hstart)
      · cases ht
        exact inv_of_exited rfl
    · cases ht
  | clientConnects pipe =>
    simp only [step] at ht
    split at ht
    · next hmem =>
      cases ht
      refine ⟨fun h => ?_, fun h => ?_⟩
      · rw [hs.1 h] at hmem
        cases hmem
      · rcases hs.2 h with ⟨_, hp⟩ | ⟨q, _, hp, _⟩
        · rw [hp] at hmem
          cases hmem
        · rw [hp] at hmem
          obtain rfl := List.mem_singleton.1 hmem
          exact .inl ⟨rfl, by simp [hp]⟩
    · cases ht
  | wake overlapped readStarted l =>
    simp only [step] at ht
    split at ht
    · next hw =>
      cases ht
      rcases onConnectEvent_cases responseSize overlapped readStarted l s with
        ⟨_, _, hex⟩ | ⟨hno, t, hst, heq⟩
      · exact inv_of_exited hex
      · rw [heq]
        refine ⟨fun h => ?_, fun _ => ?_⟩
        · rw [createAndConnectInstance_thread, hst.thread, hw.1] at h
          cases h
        · exact createAndConnectInstance_armed (ha.resolve_left hno)
            (hst.connectEvent.trans hw.2) (hst.pending.trans (hs.pending_nil hw.1 hw.2))
    · cases ht
  | readCompleted inst err bytesRead writeStarted =>
    simp only [step] at ht
    split at ht
    · cases ht
      exact (completedReadCallback_listener requestSize _ _ _ _ s).inv hs
    · cases ht
  | writeCompleted inst err bytesWritten readStarted =>
    simp only [step] at ht
    split at ht
    · cases ht
      exact (completedWriteCallback_listener responseSize _ _ _ _ s).inv hs
    · cases ht
  | waitFailed =>
    simp only [step] at ht
    split at ht
    · cases ht
      exact inv_of_exited rfl
    · cases ht

/-- A step behind which the thread does not starve had its `ConnectNamedPipe` answered. -/
theorem answered_of_step (s : State) (a : Action) (t : State) (hs : Inv s)
    (ht : step requestSize responseSize s a = some t) (hl : Listening t) :
    ConnectAnswered s a := by
  cases a with
  | start eventCreated l =>
    intro hev
    simp only [step, hev, if_true] at ht
    split at ht
    · next hstart =>
      cases ht
      by_contra hno
      obtain ⟨he, hp⟩ := createAndConnectInstance_starved
        (s := { s with thread := .waiting, connectEvent := true }) hno
      obtain ⟨pipe, hmem⟩ := hl (by simp) he
      rw [hp, hs.1 hstart] at hmem
      cases hmem
    · cases ht
  | wake overlapped readStarted l =>
    simp only [step] at ht
    split at ht
    · next hw =>
      cases ht
      rcases onConnectEvent_cases responseSize overlapped readStarted l s with
        ⟨hc, ho, _⟩ | ⟨_, u, hsu, heq⟩
      · exact .inl ⟨hc, ho⟩
      · refine .inr ?_
        by_contra hno
        rw [heq] at hl
        obtain ⟨he, hp⟩ := createAndConnectInstance_starved (s := u) hno
        obtain ⟨pipe, hmem⟩ := hl (by rw [createAndConnectInstance_thread, hsu.thread, hw.1]) he
        rw [hp, hsu.pending, hs.pending_nil hw.1 hw.2] at hmem
        cases hmem
    · cases ht
  | clientConnects pipe => trivial
  | readCompleted inst err bytesRead writeStarted => trivial
  | writeCompleted inst err bytesWritten readStarted => trivial
  | waitFailed => trivial

theorem inv_initial : Inv initial := ⟨fun _ => rfl, fun h => by cases h⟩

/-- **The server keeps listening** along a run exactly when every `ConnectNamedPipe` of the run
    reports a client, pending or connected: a client that has come and left between the creation of
    an instance and its connect is enough to starve the thread. -/
theorem server_keeps_listening (acts : List Action) :
    Always (step requestSize responseSize) Listening initial acts ↔
      AllSteps (step requestSize responseSize) ConnectAnswered initial acts :=
  Always.iff_of_inv (step_inv requestSize responseSize) (fun _ => Inv.listening)
    (answered_of_step requestSize responseSize) inv_initial

/-- A client is served; when the thread listens for the next one, a client comes and leaves before
    `ConnectNamedPipe` is called. -/
def cameAndLeft : List Action :=
  [.start true ⟨true, .ioPending⟩, .clientConnects 0, .wake true true ⟨true, .noData⟩]

theorem cameAndLeft_starves : ¬ Always (step 8 8) Listening initial cameAndLeft := by decide

/-- **Starvation is final.** Once the thread blocks without a pending instance, it does so in every
    later state until its wait fails. -/
theorem starved_forever {s : State} (hs : ¬ Listening s) (acts : List Action)
    (hacts : Action.waitFailed ∉ acts) :
    Always (step requestSize responseSize) (fun t => ¬ Listening t) s acts := by
  induction acts generalizing s with
  | nil => exact hs
  | cons a acts ih =>
    refine ⟨hs, fun t ht => ih ?_ fun h => hacts (List.mem_cons_of_mem a h)⟩
    unfold Listening at hs
    push Not at hs
    obtain ⟨hw, he, hp⟩ := hs
    have same : ∀ u, SameListener s u → ¬ Listening u := by
      intro u hu hlist
      obtain ⟨pipe, hmem⟩ := hlist (hu.thread.trans hw) (hu.connectEvent.trans he)
      exact hp pipe (hu.pending ▸ hmem)
    cases a with
    | start eventCreated l => simp [step, hw] at ht
    | clientConnects pipe => simp [step, hp pipe] at ht
    | wake overlapped readStarted l => simp [step, he] at ht
    | readCompleted inst err bytesRead writeStarted =>
      simp only [step] at ht
      split at ht
      · cases ht
        exact same _ (completedReadCallback_listener requestSize _ _ _ _ s)
      · cases ht
    | writeCompleted inst err bytesWritten readStarted =>
      simp only [step] at ht
      split at ht
      · cases ht
        exact same _ (completedWriteCallback_listener responseSize _ _ _ _ s)
      · cases ht
    | waitFailed => exact absurd (List.mem_cons_self ..) hacts

/-! ## The connected clients -/

/-- Every instance has started one response for each request it has read. -/
def Answering (s : State) : Prop := ∀ inst ∈ s.pipes, inst.responses = inst.requests

theorem closePipeInstance_answering {s : State} (hs : Answering s) (inst : PipeInstance) :
    Answering (closePipeInstance inst s) := fun i hi => hs i (List.mem_of_mem_filter hi)

theorem setInstance_answering {s : State} (hs : Answering s) {inst : PipeInstance}
    (hi : inst.responses = inst.requests) : Answering (setInstance inst s) := by
  intro i hmem
  rcases List.mem_cons.1 hmem with rfl | hmem
  · exact hi
  · exact hs i (List.mem_of_mem_filter hmem)

theorem completedWriteCallback_answering {s : State} (hs : Answering s) (err bytesWritten : Nat)
    (readStarted : Bool) {inst : PipeInstance} (hi : inst.responses = inst.requests) :
    Answering (completedWriteCallback responseSize err bytesWritten readStarted inst s) := by
  unfold completedWriteCallback
  split
  · exact setInstance_answering hs hi
  · exact closePipeInstance_answering hs inst

theorem createAndConnectInstance_pipes (l : Listen) (s : State) :
    (createAndConnectInstance l s).pipes = s.pipes := by
  unfold createAndConnectInstance
  split
  · rfl
  · dsimp only
    split <;> rfl

theorem step_answering (s : State) (a : Action) (t : State) (hs : Answering s)
    (ht : step requestSize responseSize s a = some t) : Answering t := by
  have exited : ∀ u, Answering (exitThread u) := fun u i hi => by cases hi
  cases a with
  | start eventCreated l =>
    simp only [step] at ht
    split at ht
    · split at ht
      · cases ht
        intro i hi
        rw [createAndConnectInstance_pipes] at hi
        exact hs i hi
      · cases ht
        exact exited s
    · cases ht
  | clientConnects pipe =>
    simp only [step] at ht
    split at ht
    · cases ht
      exact hs
    · cases ht
  | wake overlapped readStarted l =>
    simp only [step, onConnectEvent] at ht
    split at ht
    · split at ht
      · cases ht
        exact exited _
      · cases ht
        intro i hi
        rw [createAndConnectInstance_pipes] at hi
        refine completedWriteCallback_answering responseSize ?_ 0 responseSize readStarted rfl i hi
        exact setInstance_answering hs rfl
    · cases ht
  | readCompleted inst err bytesRead writeStarted =>
    simp only [step, completedReadCallback] at ht
    split at ht
    · next h =>
      split at ht <;> cases ht
      · exact setInstance_answering hs (by simp [hs inst h.2.1])
      · exact closePipeInstance_answering hs inst
    · cases ht
  | writeCompleted inst err bytesWritten readStarted =>
    simp only [step] at ht
    split at ht
    · next h =>
      cases ht
      exact completedWriteCallback_answering responseSize hs err bytesWritten readStarted
        (hs inst h.2.1)
    · cases ht
  | waitFailed =>
    simp only [step] at ht
    split at ht
    · cases ht
      exact exited s
    · cases ht

/-- **One response for each request**, on every connection and along every run. -/
theorem responses_answer_requests (acts : List Action) :
    Always (step requestSize responseSize) Answering initial acts :=
  Always.of_inv' (step_answering requestSize responseSize) (fun _ h => h)
    (fun i hi => by cases hi)

end WKPairDriver.Ipc.Server
