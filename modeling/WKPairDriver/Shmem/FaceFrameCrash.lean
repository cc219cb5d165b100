import Mathlib
import WKPairDriver.Lib.Run
import WKPairDriver.Shmem.FaceFrame

/-!
# Face frames across host crashes

The frame writer lives in a host process that the supervisor may terminate between any two of its
stores (`HostSupervisorBase::Kill`).  The segment outlives it: the next host opens the same
mapping, starts its own frame count at zero and derives both generation values of a slot from
whatever the slot holds.  A host that dies between its two generation stores leaves an odd
generation behind; the host that writes the slot next then shows an even generation while it copies
and an odd one when it is done.

* `tryReadLatestWire_whole` — while every write finds an even generation in its slot, every body
  `TryReadLatestWire` returns was completely written by some host.
* `deadHostsTear_torn` — three hosts, and a reader that returns half of one body and half of
  another.
-/

set_option autoImplicit false

namespace WKPairDriver.FaceFrame.Crash

open Lib Lib.Seqlock

universe u
variable {n : ℕ} {α : Type u}

/-- The `FrameWriter` of one host process.  `mapped` stands for the guard of `WriteUnderSeqlock`
    (not disposed, pointer acquired); a frame that fails it is counted and dropped. -/
structure Host (n : ℕ) (α : Type u) where
  localPublishIndex : ℕ
  mapped : Bool
  droppedFrameLogCounter : ℕ
  publisher : Publisher n α

/-- A new process: its own frame count starts at zero. -/
def Host.fresh : Host n α := ⟨0, false, 0, .idle⟩

/-- The segment, the host process if one runs, and one reader.  `completed` is history: the bodies
    whose writer reached the closing generation store ("mark even (complete)"). -/
structure State (n : ℕ) (α : Type u) where
  mem : ShmemData n α
  host : Option (Host n α)
  reader : Reader n α
  completed : List (Fin n → α)

def State.created (zero : Fin n → α) : State n α := ⟨ShmemData.created zero, none, .idle, []⟩

inductive Action (n : ℕ) (α : Type u) where
  | startHost
  | openAsync
  | dispose
  | kill
  | writeUnderSeqlock (body : Fin n → α)
  | store
  | tryReadLatestWire (out : Fin n → α) (max_retries : ℕ)
  | load

/-- The body a writer has just marked complete, if its last store was the closing one. -/
def justCompleted : Publisher n α → List (Fin n → α)
  | .writing _ (.closed body) => [body]
  | _ => []

/-- One step of the host process, of the supervisor or of the reader. -/
def step (s : State n α) : Action n α → Option (State n α)
  | .startHost =>
    match s.host with
    | none => some { s with host := some Host.fresh }
    | some _ => none
  | .openAsync =>
    match s.host with
    | some host => some { s with host := some { host with mapped := true } }
    | none => none
  | .dispose =>
    match s.host with
    | some ⟨count, _, dropped, .idle⟩ => some { s with host := some ⟨count, false, dropped, .idle⟩ }
    | _ => none
  | .kill =>
    match s.host with
    | some _ => some { s with host := none }
    | none => none
  | .writeUnderSeqlock body =>
    match s.host with
    | some ⟨count, mapped, dropped, .idle⟩ =>
      if mapped then
        some { s with host := some ⟨count + 1, mapped, dropped, Publisher.start s.mem (count + 1) body⟩ }
      else some { s with host := some ⟨count, mapped, dropped + 1, .idle⟩ }
    | _ => none
  | .store =>
    match s.host with
    | some ⟨count, mapped, dropped, .writing next w⟩ =>
      let r := (Publisher.writing next w).step s.mem
      some { s with
        mem := r.1
        host := some ⟨count, mapped, dropped, r.2⟩
        completed := s.completed ++ justCompleted r.2 }
    | _ => none
  | .tryReadLatestWire out max_retries =>
    match s.reader with
    | .reading _ _ => none
    | _ => some { s with reader := Reader.call (latestSlot s.mem) max_retries out }
  | .load =>
    match s.reader with
    | .reading k r => some { s with reader := (Reader.reading k r).step s.mem }
    | _ => none

/-- Whenever the last `TryReadLatestWire` returned true, its body was completely written by some
    host. -/
def WholeBodies (s : State n α) : Prop := ∀ out ∈ s.reader.result, out ∈ s.completed

instance [DecidableEq α] : DecidablePred (WholeBodies (n := n) (α := α)) := fun s =>
  inferInstanceAs (Decidable (∀ out ∈ s.reader.result, out ∈ s.completed))

def Action.isWrite : Action n α → Bool
  | .writeUnderSeqlock _ => true
  | _ => false

/-- A host that begins a write finds an even generation in the slot. -/
def FindsEven (s : State n α) (a : Action n α) : Prop :=
  a.isWrite = true → ∀ host ∈ s.host, host.mapped = true →
    Even (s.mem.slots (slotOf (host.localPublishIndex + 1))).generation

instance (s : State n α) (a : Action n α) : Decidable (FindsEven s a) :=
  inferInstanceAs (Decidable (a.isWrite = true → ∀ host ∈ s.host, host.mapped = true →
    Even (s.mem.slots (slotOf (host.localPublishIndex + 1))).generation))

/-! ## Invariant -/

/-- The reader's part of the invariant. -/
def ReaderInv (s : State n α) : Prop :=
  match s.reader with
  | .idle => True
  | .reading k r => (s.mem.slots k).generation ≠ 0 ∧ r.Ok (fun _ => True) (s.mem.slots k)
  | .returned result => ∀ out ∈ result, out ∈ s.completed

structure Inv (s : State n α) : Prop where
  publisher : ∀ host, s.host = some host → host.publisher.Ok s.mem
  stable : ∀ k, Even (s.mem.slots k).generation → (s.mem.slots k).generation ≠ 0 →
    (s.mem.slots k).body ∈ s.completed
  newest : s.mem.publish_index ≠ 0 →
    (s.mem.slots (slotOf s.mem.publish_index)).generation ≠ 0
  reader : ReaderInv s

theorem Inv.created (zero : Fin n → α) : Inv (State.created zero) := by
  refine ⟨?_, fun _ _ h => absurd rfl h, fun h => absurd rfl h, trivial⟩
  intro host hh
  cases hh

/-- Only the host changes: the segment, the reader and the history stay. -/
theorem Inv.withHost {s : State n α} (hs : Inv s) (host : Option (Host n α))
    (h : ∀ h', host = some h' → h'.publisher.Ok s.mem) : Inv { s with host := host } :=
  ⟨h, hs.stable, hs.newest, hs.reader⟩

/-- After a store of the host, an even slot is one some host has completed. -/
theorem stable_store {s : State n α} {next : ℕ} {w : Write n α} (hs : Inv s)
    (hok : (Publisher.writing next w).Ok s.mem) (k : Fin RING_SIZE)
    (he : Even (((Publisher.writing next w).step s.mem).1.slots k).generation)
    (hne : (((Publisher.writing next w).step s.mem).1.slots k).generation ≠ 0) :
    (((Publisher.writing next w).step s.mem).1.slots k).body ∈
      s.completed ++ justCompleted ((Publisher.writing next w).step s.mem).2 := by
  rcases Publisher.step_cases s.mem next w with ⟨body, -, hst⟩ | ⟨hw, hst⟩
  · rw [hst] at he hne ⊢
    exact List.mem_append_left _ (hs.stable k he hne)
  · rw [hst] at he hne ⊢
    by_cases hk : k = slotOf next
    · subst hk
      simp only [ShmemData.setSlot_self] at he ⊢
      rw [Write.step_stable hok hw he]
      exact List.mem_append_right _ (List.mem_singleton_self _)
    · simp only [s.mem.setSlot_of_ne _ hk] at he hne ⊢
      exact List.mem_append_left _ (hs.stable k he hne)

/-- A store of the host keeps the invariant. -/
theorem Inv.store {s : State n α} {next : ℕ} {w : Write n α} {count dropped : ℕ} {mapped : Bool}
    (hs : Inv s) (hh : s.host = some ⟨count, mapped, dropped, .writing next w⟩) :
    Inv { s with
      mem := ((Publisher.writing next w).step s.mem).1
      host := some ⟨count, mapped, dropped, ((Publisher.writing next w).step s.mem).2⟩
      completed := s.completed ++ justCompleted ((Publisher.writing next w).step s.mem).2 } := by
  have hok : (Publisher.writing next w).Ok s.mem := hs.publisher _ hh
  have hguard := Publisher.step_guarded hok
  have hpos : ∀ k, (s.mem.slots k).generation ≠ 0 →
      (((Publisher.writing next w).step s.mem).1.slots k).generation ≠ 0 := by
    intro k hk
    have := (hguard k).1
    omega
  refine ⟨fun host hhost => ?_, stable_store hs hok, fun hidx => ?_, ?_⟩
  · cases hhost
    exact Publisher.step_ok hok
  · rcases Publisher.step_cases s.mem next w with ⟨body, hw, hst⟩ | ⟨-, hst⟩
    · -- the index store: the slot it names was closed just before
      subst hw
      rw [hst]
      exact hok.2.1
    · have hsame : ((Publisher.writing next w).step s.mem).1.publish_index = s.mem.publish_index := by
        rw [hst]; rfl
      simp only [hsame] at hidx ⊢
      exact hpos _ (hs.newest hidx)
  · have hr := hs.reader
    unfold ReaderInv at hr ⊢
    cases hrd : s.reader with
    | idle => trivial
    | reading k r =>
      simp only [hrd] at hr ⊢
      exact ⟨hpos k hr.1, hr.2.guarded (hguard k)⟩
    | returned result =>
      simp only [hrd] at hr ⊢
      exact fun out hout => List.mem_append_left _ (hr out hout)

/-- A load of the reader keeps the invariant. -/
theorem Inv.load {s : State n α} {k : Fin RING_SIZE} {r : Read n α} (hs : Inv s)
    (hrd : s.reader = .reading k r) :
    Inv { s with reader := (Reader.reading k r).step s.mem } := by
  have hr := hs.reader
  simp only [ReaderInv, hrd] at hr
  refine ⟨hs.publisher, hs.stable, hs.newest, ?_⟩
  simp only [ReaderInv, Reader.step]
  cases hstep : r.step (s.mem.slots k) with
  | inl r' => exact ⟨hr.1, Read.step_ok hr.2 (fun _ _ _ _ => trivial) hstep⟩
  | inr result =>
    intro out hout
    have hres : result = some out := hout
    subst hres
    obtain ⟨he, hout', -⟩ := Read.step_done hr.2 hstep
    rw [hout']
    exact hs.stable k he hr.1

theorem step_inv {s t : State n α} {a : Action n α} (hs : Inv s) (hc : FindsEven s a)
    (h : step s a = some t) : Inv t := by
  cases a with
  | startHost =>
    simp only [step] at h
    split at h
    · cases h
      exact hs.withHost _ fun _ hh => by cases hh; trivial
    · cases h
  | openAsync =>
    simp only [step] at h
    split at h
    · rename_i host hh
      cases h
      exact hs.withHost _ fun _ h' => by cases h'; exact hs.publisher host hh
    · cases h
  | dispose =>
    simp only [step] at h
    split at h
    · cases h
      exact hs.withHost _ fun _ hh => by cases hh; trivial
    · cases h
  | kill =>
    simp only [step] at h
    split at h
    · cases h
      exact hs.withHost _ fun _ hh => by cases hh
    · cases h
  | writeUnderSeqlock body =>
    simp only [step] at h
    split at h
    · rename_i count mapped dropped hh
      split at h
      · rename_i hmapped
        cases h
        have he := hc rfl _ hh hmapped
        exact hs.withHost _ fun _ h' => by cases h'; exact Write.start_ok he body
      · cases h
        exact hs.withHost _ fun _ h' => by cases h'; trivial
    · cases h
  | store =>
    simp only [step] at h
    split at h
    · rename_i count mapped dropped next w hh
      cases h
      exact hs.store hh
    · cases h
  | tryReadLatestWire out max_retries =>
    simp only [step] at h
    split at h
    · cases h
    · cases h
      refine ⟨hs.publisher, hs.stable, hs.newest, ?_⟩
      simp only [ReaderInv, latestSlot]
      split_ifs with hidx
      · exact fun _ ho => by cases ho
      · exact ⟨hs.newest hidx, trivial⟩
  | load =>
    simp only [step] at h
    split at h
    · rename_i k r hrd
      cases h
      exact hs.load hrd
    · cases h

theorem Inv.wholeBodies {s : State n α} (hs : Inv s) : WholeBodies s := by
  intro out hout
  have hr := hs.reader
  unfold ReaderInv at hr
  cases hrd : s.reader with
  | idle => rw [hrd] at hout; cases hout
  | reading k r => rw [hrd] at hout; cases hout
  | returned result =>
    simp only [hrd] at hr hout
    exact hr out hout

/-- **Whole bodies across crashes.**  Along every interleaving of the hosts, their deaths and a
    reader in which each write finds an even generation in its slot, every body
    `TryReadLatestWire` returns is one that some host completely wrote. -/
theorem tryReadLatestWire_whole (zero : Fin n → α) (as : List (Action n α))
    (h : AllSteps step FindsEven (State.created zero) as) :
    Always step WholeBodies (State.created zero) as :=
  Always.of_inv (fun _ _ _ hs hc hst => step_inv hs hc hst) (fun _ hs => hs.wholeBodies)
    (Inv.created zero) h

/-- A host publishes one frame and is killed in its second; the next host is killed right after
    the reader has read the frame it rewrites. -/
def killBetweenSlots : List (Action 2 ℕ) :=
  [.startHost, .openAsync, .writeUnderSeqlock ![1, 1], .store, .store, .store, .store, .store,
   .writeUnderSeqlock ![2, 2], .store, .store, .kill,
   .startHost, .openAsync, .writeUnderSeqlock ![3, 3], .store, .store, .store, .store,
   .tryReadLatestWire ![0, 0] 8, .load, .load, .load, .load, .kill]

theorem killBetweenSlots_whole : AllSteps step FindsEven (State.created ![0, 0]) killBetweenSlots ∧
    Always step WholeBodies (State.created ![0, 0]) killBetweenSlots := by
  have h : AllSteps step FindsEven (State.created ![0, 0]) killBetweenSlots := by decide
  exact ⟨h, tryReadLatestWire_whole ![0, 0] killBetweenSlots h⟩

/-- The first host dies inside its first frame and leaves slot 0 odd; the second completes one
    frame there, odd again, and dies; the third shows an even generation while it copies. -/
def deadHostsTear : List (Action 2 ℕ) :=
  [.startHost, .openAsync, .writeUnderSeqlock ![1, 1], .store, .kill,
   .startHost, .openAsync, .writeUnderSeqlock ![2, 2], .store, .store, .store, .store, .store, .kill,
   .startHost, .openAsync, .writeUnderSeqlock ![3, 3], .store, .store,
   .tryReadLatestWire ![0, 0] 8, .load, .load, .load, .load]

/-- The reader returns the first word of the third host's body and the second of the second's. -/
theorem deadHostsTear_torn :
    ¬ Always step WholeBodies (State.created ![0, 0]) deadHostsTear := by
  decide

end WKPairDriver.FaceFrame.Crash
