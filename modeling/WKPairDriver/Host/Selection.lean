import Mathlib
import WKPairDriver.Lib.Bytes
import WKPairDriver.Lib.Run

/-!
# The pending selection of a host supervisor

The face-tracking supervisor keeps the uuid of the selected module, the captions supervisor the
config command.  Both store it under a mutex, write it to the control pipe of the host with the
mutex released, and take the mutex again to note that it was sent.  Threads are at one of three
places: outside, about to write, or between the write and the note.

* `encodeSelectModule` — the message of the face-tracking supervisor.
* `step` — one locked section, one pipe write, or one event in the life of the host.
* `selection_received` — while no note is overtaken and only the pending selection is written, to
  a host whose end has not been handled yet, a selection noted as sent is the last one the running
  host received.
* `lateNote_masks` — the note of a send to a host that has since been replaced.
-/

set_option autoImplicit false

namespace WKPairDriver.Host.Selection

open Lib Lib.Bytes

/-! ## Messages -/

/-- `CborAppendTextString`. -/
def cborAppendTextString (out s : List UInt8) : List UInt8 :=
  if s.length < 24 then out ++ [0x60 ||| UInt8.ofNat s.length] ++ s
  else out ++ [0x78, UInt8.ofNat s.length] ++ s

/-- `EncodeSelectModule`: a CBOR map with the two pairs `type` and `uuid` behind its length. -/
def encodeSelectModule (uuid : List UInt8) : List UInt8 :=
  let body := [0xA2]
  let body := cborAppendTextString body (ascii "type")
  let body := cborAppendTextString body (ascii "SelectModule")
  let body := cborAppendTextString body (ascii "uuid")
  let body := cborAppendTextString body uuid
  le32 body.length ++ body

/-- The two supervisors. -/
inductive Flavour where
  | facetracking
  | captions
deriving DecidableEq

/-- The bytes a selection is sent as. -/
def Flavour.encode : Flavour → List UInt8 → List UInt8
  | .facetracking, uuid => encodeSelectModule uuid
  | .captions, command => command

/-! ## States and steps -/

/-- Where a thread stands in a send. -/
inductive Sender where
  | idle
  | ready (selection : List UInt8)
  | written (selection : List UInt8)
deriving DecidableEq

/-- A host process and the last selection message it received. -/
structure HostProcess where
  lastMessage : Option (List UInt8)
deriving DecidableEq

/-- The members of the supervisor, its threads and the host.  `exitHandled` is history: whether
    `OnHostExited` has been called since the running host, or the last one, came up. -/
structure State (n : ℕ) where
  pending_ : List UInt8
  has_pending_ : Bool
  sent_ : Bool
  senders : Fin n → Sender
  host : Option HostProcess
  exitHandled : Bool

variable {n : ℕ}

def State.new (n : ℕ) : State n := ⟨[], false, false, fun _ => .idle, none, true⟩

def State.setSender (s : State n) (t : Fin n) (p : Sender) : State n :=
  { s with senders := Function.update s.senders t p }

/-- A thread after the change of one thread is that one or as before. -/
theorem State.setSender_cases (s : State n) (t : Fin n) (p : Sender) (t' : Fin n) :
    (s.setSender t p).senders t' = p ∨ (s.setSender t p).senders t' = s.senders t' := by
  by_cases h : t' = t
  · exact .inl (by rw [h]; exact Function.update_self ..)
  · exact .inr (Function.update_of_ne h ..)

/-- The locked section of `SetActiveModuleUuid` and of `SetHostConfigCommand`. -/
def State.store (f : Flavour) (selection : List UInt8) (s : State n) : State n :=
  { s with
    pending_ := selection
    has_pending_ := match f with
      | .facetracking => true
      | .captions => !selection.isEmpty
    sent_ := false }

/-- The locked section behind a successful write: face tracking notes every send, captions only
    that of the command still pending. -/
def State.noteSent (f : Flavour) (selection : List UInt8) (s : State n) : State n :=
  match f with
  | .facetracking => { s with sent_ := true }
  | .captions => if s.pending_ = selection then { s with sent_ := true } else s

inductive Action (n : ℕ) where
  | select (t : Fin n) (selection : List UInt8)
  | onHostReady (t : Fin n)
  | write (t : Fin n) (ok : Bool)
  | noteSent (t : Fin n)
  | onHostExited
  | hostDown
  | hostUp (lastMessage : Option (List UInt8))

/-- One step.  A host comes up (spawned, or found running) only after `OnHostExited` was called for
    the one before it. -/
def step (f : Flavour) (s : State n) : Action n → Option (State n)
  | .select t selection =>
    if s.senders t = .idle then
      if f = .captions ∧ selection = [] then some (s.store f selection)
      else some ((s.store f selection).setSender t (.ready selection))
    else none
  | .onHostReady t =>
    if s.senders t = .idle then
      if s.has_pending_ = true ∧ s.sent_ = false then some (s.setSender t (.ready s.pending_))
      else some s
    else none
  | .write t ok =>
    match s.senders t with
    | .ready selection =>
      if ok then
        match s.host with
        | none => none
        | some _ => some ({ s with host := some ⟨some (f.encode selection)⟩ }.setSender t
            (.written selection))
      else some (s.setSender t .idle)
    | _ => none
  | .noteSent t =>
    match s.senders t with
    | .written selection => some ((s.noteSent f selection).setSender t .idle)
    | _ => none
  | .onHostExited =>
    some { s with sent_ := if s.has_pending_ then false else s.sent_, exitHandled := true }
  | .hostDown =>
    match s.host with
    | none => none
    | some _ => some { s with host := none }
  | .hostUp lastMessage =>
    if s.host = none ∧ s.exitHandled = true then
      some { s with host := some ⟨lastMessage⟩, exitHandled := false }
    else none

/-- With no send in flight, a selection noted as sent is the last one the running host received. -/
def Received (f : Flavour) (s : State n) : Prop :=
  (∀ t, s.senders t = .idle) → s.sent_ = true →
    ∀ h ∈ s.host, h.lastMessage = some (f.encode s.pending_)

instance (f : Flavour) : DecidablePred (Received (n := n) f) := fun s =>
  inferInstanceAs (Decidable ((∀ t, s.senders t = .idle) → s.sent_ = true →
    ∀ h ∈ s.host, h.lastMessage = some (f.encode s.pending_)))

def Sender.isWritten : Sender → Bool
  | .written _ => true
  | _ => false

/-- No selection changes, and no exit is handled, between the write of a send and its note; and
    what a host receives is the pending selection, before its exit is handled. -/
def Undisturbed (s : State n) : Action n → Prop
  | .select _ _ | .onHostExited => ∀ t, (s.senders t).isWritten = false
  | .write t true => s.senders t = .ready s.pending_ ∧ s.exitHandled = false
  | _ => True

instance (s : State n) (a : Action n) : Decidable (Undisturbed s a) := by
  unfold Undisturbed
  split <;> infer_instance

/-! ## Invariant -/

/-- What the running host, if there is one, received last. -/
def State.HostHas (f : Flavour) (s : State n) : Prop :=
  s.exitHandled = false ∧ ∀ h ∈ s.host, h.lastMessage = some (f.encode s.pending_)

structure Inv (f : Flavour) (s : State n) : Prop where
  written : ∀ t selection, s.senders t = .written selection →
    selection = s.pending_ ∧ s.has_pending_ = true ∧ s.HostHas f
  sent : s.sent_ = true → s.has_pending_ = true ∧ s.HostHas f
  -- only what is pending is sent: never the empty command, and no uuid before the first
  captions : f = .captions → (s.has_pending_ = true ↔ s.pending_ ≠ []) ∧
    ∀ t selection, s.senders t = .ready selection → selection ≠ []
  facetracking : f = .facetracking → s.has_pending_ = false → ∀ t, s.senders t = .idle

variable {f : Flavour} {s : State n}

theorem Inv.new (f : Flavour) (n : ℕ) : Inv f (State.new n) := by
  refine ⟨?_, ?_, ?_, fun _ _ _ => rfl⟩
  · intro t selection h
    cases h
  · intro h
    cases h
  · intro _
    refine ⟨by simp [State.new], ?_⟩
    intro t selection h
    cases h

/-- A send of the pending selection is of one there is. -/
theorem Inv.has_pending (hs : Inv f s) {t : Fin n} (ht : s.senders t = .ready s.pending_) :
    s.has_pending_ = true := by
  cases f with
  | captions => exact (hs.captions rfl).1.2 ((hs.captions rfl).2 t _ ht)
  | facetracking =>
    by_contra hpending
    rw [hs.facetracking rfl (by simpa using hpending) t] at ht
    cases ht

/-- A change of one thread, to a place that the invariant allows. -/
theorem Inv.setSender (hs : Inv f s) (t : Fin n) {p : Sender}
    (hwritten : ∀ selection, p = .written selection →
      selection = s.pending_ ∧ s.has_pending_ = true ∧ s.HostHas f)
    (hready : f = .captions → ∀ selection, p = .ready selection → selection ≠ [])
    (hidle : f = .facetracking → s.has_pending_ = false → p = .idle) :
    Inv f (s.setSender t p) := by
  have hcases := s.setSender_cases t p
  refine ⟨?_, hs.sent, ?_, ?_⟩
  · intro t' selection h
    rcases hcases t' with h' | h'
    · exact hwritten selection (h'.symm.trans h)
    · exact hs.written t' selection (h'.symm.trans h)
  · intro hf
    refine ⟨(hs.captions hf).1, ?_⟩
    intro t' selection h
    rcases hcases t' with h' | h'
    · exact hready hf selection (h'.symm.trans h)
    · exact (hs.captions hf).2 t' selection (h'.symm.trans h)
  · intro hf hp t'
    rcases hcases t' with h' | h'
    · exact h'.trans (hidle hf hp)
    · exact h'.trans (hs.facetracking hf hp t')

/-- A thread that goes back outside. -/
theorem Inv.setIdle (hs : Inv f s) (t : Fin n) : Inv f (s.setSender t .idle) := by
  refine hs.setSender t ?_ ?_ fun _ _ => rfl
  · intro selection h
    cases h
  · intro _ selection h
    cases h

/-- A thread that is about to write a selection there is. -/
theorem Inv.setReady (hs : Inv f s) (t : Fin n) {selection : List UInt8}
    (hsel : f = .captions → selection ≠ []) (hp : s.has_pending_ = true) :
    Inv f (s.setSender t (.ready selection)) := by
  refine hs.setSender t ?_ ?_ ?_
  · intro selection' h
    cases h
  · intro hf selection' h
    cases h
    exact hsel hf
  · intro _ hnone
    rw [hp] at hnone
    cases hnone

/-- A change of the selection while no send waits for its note. -/
theorem Inv.store (hs : Inv f s) (hc : ∀ t, (s.senders t).isWritten = false)
    (selection : List UInt8) : Inv f (s.store f selection) := by
  refine ⟨?_, ?_, ?_, ?_⟩
  · intro t selection' h
    have := hc t
    rw [show s.senders t = .written selection' from h] at this
    cases this
  · intro h
    cases h
  · intro hf
    subst hf
    exact ⟨by simp [State.store], (hs.captions rfl).2⟩
  · intro hf hp
    subst hf
    cases hp

theorem Inv.select (hs : Inv f s) (hc : ∀ t, (s.senders t).isWritten = false) {t : Fin n}
    {selection : List UInt8} {s' : State n} (h : step f s (.select t selection) = some s') :
    Inv f s' := by
  have hstore := hs.store hc selection
  simp only [step] at h
  split_ifs at h with hidle hempty
  · cases h
    exact hstore
  · cases h
    refine hstore.setReady t (fun hf hnil => hempty ⟨hf, hnil⟩) ?_
    cases f with
    | facetracking => rfl
    | captions =>
      have hne : selection ≠ [] := fun hnil => hempty ⟨rfl, hnil⟩
      simpa [State.store] using hne

/-- A write of the pending selection to a host whose exit has not been handled. -/
theorem Inv.write (hs : Inv f s) {t : Fin n} (ht : s.senders t = .ready s.pending_)
    (he : s.exitHandled = false) :
    Inv f ({ s with host := some ⟨some (f.encode s.pending_)⟩ }.setSender t
      (.written s.pending_)) := by
  have hp := hs.has_pending ht
  have hhost : State.HostHas f { s with host := some ⟨some (f.encode s.pending_)⟩ } := by
    refine ⟨he, ?_⟩
    intro h hh
    cases hh
    rfl
  have hreceived : Inv f { s with host := some ⟨some (f.encode s.pending_)⟩ } :=
    ⟨fun t' selection h => ⟨(hs.written t' selection h).1, hp, hhost⟩,
     fun h => ⟨(hs.sent h).1, hhost⟩, hs.captions, hs.facetracking⟩
  refine hreceived.setSender t ?_ ?_ ?_
  · intro selection h
    cases h
    exact ⟨rfl, hp, hhost⟩
  · intro _ selection h
    cases h
  · intro _ hnone
    rw [show s.has_pending_ = false from hnone] at hp
    cases hp

/-- The note of a send: its selection is still pending and the host has it. -/
theorem Inv.noteSent (hs : Inv f s) {t : Fin n} {selection : List UInt8}
    (ht : s.senders t = .written selection) :
    Inv f ((s.noteSent f selection).setSender t .idle) := by
  obtain ⟨rfl, hp, hhost⟩ := hs.written t selection ht
  have hnote : s.noteSent f s.pending_ = { s with sent_ := true } := by
    cases f with
    | facetracking => rfl
    | captions => exact if_pos rfl
  have hsent : Inv f { s with sent_ := true } :=
    ⟨hs.written, fun _ => ⟨hp, hhost⟩, hs.captions, hs.facetracking⟩
  rw [hnote]
  exact hsent.setIdle t

/-- The end of a host is handled while no send waits for its note: what is pending is unsent. -/
theorem Inv.onHostExited (hs : Inv f s) (hc : ∀ t, (s.senders t).isWritten = false) :
    Inv f { s with
      sent_ := if s.has_pending_ then false else s.sent_
      exitHandled := true } := by
  refine ⟨?_, ?_, hs.captions, hs.facetracking⟩
  · intro t selection ht
    have := hc t
    rw [show s.senders t = .written selection from ht] at this
    cases this
  · intro hsent
    simp only at hsent
    split at hsent
    · cases hsent
    · rename_i hp
      exact absurd (hs.sent hsent).1 hp

theorem Inv.hostDown (hs : Inv f s) : Inv f { s with host := none } := by
  have hdown : s.HostHas f → State.HostHas f { s with host := none } := by
    rintro ⟨he, -⟩
    refine ⟨he, ?_⟩
    intro h hh
    cases hh
  refine ⟨?_, ?_, hs.captions, hs.facetracking⟩
  · intro t selection ht
    obtain ⟨hsel, hp, hhost⟩ := hs.written t selection ht
    exact ⟨hsel, hp, hdown hhost⟩
  · intro hsent
    exact ⟨(hs.sent hsent).1, hdown (hs.sent hsent).2⟩

/-- The exit of the last host was handled, so nothing is noted and no note is due. -/
theorem Inv.hostUp (hs : Inv f s) (he : s.exitHandled = true) (host : Option HostProcess) :
    Inv f { s with host := host, exitHandled := false } := by
  have hnone : ¬ s.HostHas f := by
    rintro ⟨he', -⟩
    rw [he] at he'
    cases he'
  refine ⟨?_, ?_, hs.captions, hs.facetracking⟩
  · intro t selection ht
    exact absurd (hs.written t selection ht).2.2 hnone
  · intro hsent
    exact absurd (hs.sent hsent).2 hnone

theorem step_inv {s' : State n} {a : Action n} (hs : Inv f s) (hc : Undisturbed s a)
    (h : step f s a = some s') : Inv f s' := by
  cases a with
  | select t selection => exact hs.select hc h
  | onHostReady t =>
    simp only [step] at h
    split_ifs at h with hidle hsend
    · cases h
      exact hs.setReady t (fun hf => (hs.captions hf).1.1 hsend.1) hsend.1
    · cases h
      exact hs
  | write t ok =>
    simp only [step] at h
    split at h
    · rename_i selection ht
      cases ok with
      | true =>
        simp only [if_true] at h
        split at h
        · cases h
        · cases h
          obtain ⟨hpending, he⟩ := hc
          rw [hpending] at ht
          cases ht
          exact hs.write hpending he
      | false =>
        cases h
        exact hs.setIdle t
    · cases h
  | noteSent t =>
    simp only [step] at h
    split at h
    · rename_i selection ht
      cases h
      exact hs.noteSent ht
    · cases h
  | onHostExited =>
    cases h
    exact hs.onHostExited hc
  | hostDown =>
    simp only [step] at h
    split at h
    · cases h
    · cases h
      exact hs.hostDown
  | hostUp lastMessage =>
    simp only [step] at h
    split at h
    · rename_i hup
      cases h
      exact hs.hostUp hup.2 _
    · cases h

theorem Inv.received (hs : Inv f s) : Received f s := fun _ hsent => (hs.sent hsent).2.2

/-- **The running host has the selection.**  Along every interleaving of selection changes, sends
    and the lives of the hosts in which no change and no handling of an exit comes between the
    write of a send and its note, and only the pending selection is written, to a host whose exit
    has not been handled, a selection noted as sent with no send in flight is the last one the
    running host received. -/
theorem selection_received (f : Flavour) (n : ℕ) (as : List (Action n))
    (h : AllSteps (step f) Undisturbed (State.new n) as) :
    Always (step f) (Received f) (State.new n) as :=
  Always.of_inv (fun _ _ _ hs hc hst => step_inv hs hc hst) (fun _ hs => hs.received)
    (Inv.new f n) h

/-- A selection before the first host is up, its delivery, and its delivery to the next host. -/
def respawnRun : List (Action 2) :=
  [.select 0 (ascii "a1b2"), .write 0 false, .hostUp none, .onHostReady 1, .write 1 true,
   .noteSent 1, .hostDown, .onHostExited, .hostUp none, .onHostReady 1, .write 1 true, .noteSent 1]

theorem respawnRun_received :
    AllSteps (step .facetracking) Undisturbed (State.new 2) respawnRun ∧
      Always (step .facetracking) (Received .facetracking) (State.new 2) respawnRun := by
  have h : AllSteps (step .facetracking) Undisturbed (State.new 2) respawnRun := by decide +kernel
  exact ⟨h, selection_received .facetracking 2 respawnRun h⟩

/-- A send is overtaken by the end of its host, the handling of the exit and the next host. -/
def lateNote : List (Action 2) :=
  [.hostUp none, .select 0 (ascii "a1b2"), .write 0 true, .hostDown, .onHostExited, .hostUp none,
   .noteSent 0]

/-- The selection is noted as sent and the running host received none, in both supervisors. -/
theorem lateNote_masks :
    ¬ Always (step .facetracking) (Received .facetracking) (State.new 2) lateNote ∧
      ¬ Always (step .captions) (Received .captions) (State.new 2) lateNote := by
  constructor <;> decide +kernel

end WKPairDriver.Host.Selection
