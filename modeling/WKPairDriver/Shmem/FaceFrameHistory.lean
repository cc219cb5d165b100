import Mathlib
import WKPairDriver.Lib.Run
import WKPairDriver.Shmem.FaceFrame

/-!
# Reading a face frame by its index

`TryReadWireByIndex` checks the age of the index once, before its retry loop, and inside the loop
checks only that the generation of the slot does not change during one attempt.  A writer that laps
the slot after the age check and before an attempt leaves it stable again, with a later frame in it.

* `lastOpened` — the newest frame whose slot the writer has opened (stored odd).
* `tryReadWireByIndex_indexed` — if no attempt starts on a stable slot that the writer has opened
  for a later frame, every body returned is the one published under the index.
* `lapBeforeAttempt_wrong` — a reader that asked for frame 1 and returns frame 33.
-/

set_option autoImplicit false

namespace WKPairDriver.FaceFrame.History

open Lib Lib.Seqlock

universe u
variable {n : ℕ} {α : Type u}

/-- The segment, a writer that never dies, one reader and the index it last asked for.
    `published` is history: the bodies in the order of their index stores, so that frame `t` is
    entry `t - 1`. -/
structure State (n : ℕ) (α : Type u) where
  mem : ShmemData n α
  publisher : Publisher n α
  reader : Reader n α
  target_index : ℕ
  published : List (Fin n → α)

def State.created (zero : Fin n → α) : State n α :=
  ⟨ShmemData.created zero, .idle, .idle, 0, []⟩

inductive Action (n : ℕ) (α : Type u) where
  | publish (body : Fin n → α)
  | store
  | tryReadWireByIndex (target_index : ℕ) (out : Fin n → α) (max_retries : ℕ)
  | load

def Action.isLoad : Action n α → Bool
  | .load => true
  | _ => false

/-- The body whose index the writer is about to store. -/
def aboutToPublish : Write n α → List (Fin n → α)
  | .closed body => [body]
  | _ => []

/-- One access of the writer or of the reader. -/
def step (s : State n α) : Action n α → Option (State n α)
  | .publish body =>
    match s.publisher with
    | .idle => some { s with publisher := Publisher.start s.mem (s.mem.publish_index + 1) body }
    | .writing _ _ => none
  | .store =>
    match s.publisher with
    | .idle => none
    | .writing next w =>
      let r := (Publisher.writing next w).step s.mem
      some { s with mem := r.1, publisher := r.2, published := s.published ++ aboutToPublish w }
  | .tryReadWireByIndex target_index out max_retries =>
    match s.reader with
    | .reading _ _ => none
    | _ => some { s with
        reader := Reader.call (slotByIndex s.mem target_index) max_retries out
        target_index := target_index }
  | .load =>
    match s.reader with
    | .reading k r => some { s with reader := (Reader.reading k r).step s.mem }
    | _ => none

/-- Whenever the last `TryReadWireByIndex` returned true, its body is the one published under the
    index it was asked for. -/
def ReadsIndexed (s : State n α) : Prop :=
  ∀ out ∈ s.reader.result, s.published[s.target_index - 1]? = some out

instance [DecidableEq α] : DecidablePred (ReadsIndexed (n := n) (α := α)) := fun s =>
  inferInstanceAs (Decidable (∀ out ∈ s.reader.result, s.published[s.target_index - 1]? = some out))

/-- The newest frame whose opening generation the writer has stored. -/
def lastOpened (s : State n α) : ℕ :=
  match s.publisher with
  | .idle => s.mem.publish_index
  | .writing _ (.loaded _ _) => s.mem.publish_index
  | .writing next _ => next

theorem lastOpened_idle {s : State n α} (h : s.publisher = .idle) :
    lastOpened s = s.mem.publish_index := by
  simp only [lastOpened, h]

theorem lastOpened_loaded {s : State n α} {next prev : ℕ} {body : Fin n → α}
    (h : s.publisher = .writing next (.loaded prev body)) :
    lastOpened s = s.mem.publish_index := by
  simp only [lastOpened, h]

theorem lastOpened_opened {s : State n α} {next : ℕ} {w : Write n α}
    (h : s.publisher = .writing next w) (hw : ∀ prev body, w ≠ .loaded prev body) :
    lastOpened s = next := by
  cases w with
  | loaded prev body => exact absurd rfl (hw prev body)
  | _ => simp only [lastOpened, h]

/-- An attempt that starts on a stable slot finds it not yet opened for a frame after the one it
    was asked for. -/
def NotLapped (s : State n α) (a : Action n α) : Prop :=
  a.isLoad = true → ∀ k ∈ s.reader.attempting, Even (s.mem.slots k).generation →
    lastOpened s < s.target_index + RING_SIZE

instance (s : State n α) (a : Action n α) : Decidable (NotLapped s a) :=
  inferInstanceAs (Decidable (a.isLoad = true → ∀ k ∈ s.reader.attempting,
    Even (s.mem.slots k).generation → lastOpened s < s.target_index + RING_SIZE))

/-! ## Invariant -/

/-- The reader's part of the invariant. -/
def ReaderInv (s : State n α) : Prop :=
  match s.reader with
  | .idle => True
  | .reading k r =>
    k = slotOf s.target_index ∧ 0 < s.target_index ∧ s.target_index ≤ s.mem.publish_index ∧
      r.Ok (fun b => s.published[s.target_index - 1]? = some b) (s.mem.slots k)
  | .returned result => ∀ out ∈ result, s.published[s.target_index - 1]? = some out

structure Inv (s : State n α) : Prop where
  next : ∀ next w, s.publisher = .writing next w → next = s.mem.publish_index + 1
  publisher : s.publisher.Ok s.mem
  -- the writer never dies, so it leaves no slot odd but the one it is in
  even : ∀ k, (∀ next w, s.publisher = .writing next w → k ≠ slotOf next) →
    Even (s.mem.slots k).generation
  length : s.published.length = s.mem.publish_index
  -- a frame whose slot has not been opened again is still there
  live : ∀ t, 0 < t → t ≤ s.mem.publish_index → lastOpened s < t + RING_SIZE →
    s.published[t - 1]? = some (s.mem.slots (slotOf t)).body
  reader : ReaderInv s

theorem Inv.created (zero : Fin n → α) : Inv (State.created zero) := by
  refine ⟨?_, trivial, ?_, rfl, ?_, trivial⟩
  · intro next w hw
    cases hw
  · intro k _
    exact ⟨0, rfl⟩
  · intro t h0 h1
    simp only [State.created, ShmemData.created] at h1
    omega

/-- A guarded change of the segment that keeps the published prefix keeps the reader's part. -/
theorem ReaderInv.guarded {s t : State n α} (hs : ReaderInv s) (hrd : t.reader = s.reader)
    (htg : t.target_index = s.target_index) (hidx : s.mem.publish_index ≤ t.mem.publish_index)
    (hpub : ∀ (i : ℕ) (b : Fin n → α), s.published[i]? = some b → t.published[i]? = some b)
    (hmem : ∀ k, Guarded (s.mem.slots k) (t.mem.slots k)) : ReaderInv t := by
  unfold ReaderInv at hs ⊢
  rw [hrd, htg]
  cases hr : s.reader with
  | idle => trivial
  | reading k r =>
    simp only [hr] at hs ⊢
    obtain ⟨h1, h2, h3, h4⟩ := hs
    exact ⟨h1, h2, h3.trans hidx, (h4.mono fun b => hpub _ b).guarded (hmem k)⟩
  | returned result =>
    simp only [hr] at hs ⊢
    exact fun out hout => hpub _ out (hs out hout)

/-- The index store: the frame just closed is published and live. -/
theorem Inv.storeIndex {s : State n α} {next : ℕ} {body : Fin n → α} (hs : Inv s)
    (hp : s.publisher = .writing next (.closed body)) :
    Inv { s with
      mem := { s.mem with publish_index := next }
      publisher := .idle
      published := s.published ++ [body] } := by
  have hn := hs.next _ _ hp
  have hok := hs.publisher
  rw [hp] at hok
  have hlen := hs.length
  refine ⟨?_, trivial, ?_, by simp [hlen, hn], ?_, ?_⟩
  · intro next' w' hw
    cases hw
  · intro k _
    by_cases hk : k = slotOf next
    · rw [hk]
      exact hok.1
    · apply hs.even k
      intro next' w' hw
      rw [hp] at hw
      cases hw
      exact hk
  · intro t h0 h1 h2
    rw [lastOpened_idle rfl] at h2
    simp only at h1 h2
    by_cases ht : t = next
    · subst ht
      rw [List.getElem?_append_right (by omega), show t - 1 - s.published.length = 0 by omega]
      exact congrArg some hok.2.2.symm
    · have hopened : lastOpened s = next := lastOpened_opened hp fun _ _ h => by cases h
      have := hs.live t h0 (by omega) (by rwa [hopened])
      rw [List.getElem?_append_left (by omega)]
      exact this
  · refine ReaderInv.guarded hs.reader rfl rfl (by simp only [hn]; omega) (fun i b hb => ?_)
      fun k => Guarded.refl _
    exact List.getElem?_append_left (List.getElem?_eq_some_iff.1 hb).1 ▸ hb

/-- A store into the slot being written: only frames a lap older lived there. -/
theorem Inv.storeSlot {s : State n α} {next : ℕ} {w : Write n α} (hs : Inv s)
    (hp : s.publisher = .writing next w) (hw : ∀ body, w ≠ .closed body) :
    Inv { s with
      mem := s.mem.setSlot (slotOf next) (w.step (s.mem.slots (slotOf next))).1
      publisher := .writing next (w.step (s.mem.slots (slotOf next))).2 } := by
  have hn := hs.next _ _ hp
  have hok : (Publisher.writing next w).Ok s.mem := hp ▸ hs.publisher
  refine ⟨?_, ?_, ?_, hs.length, ?_, ?_⟩
  · intro next' w' hw
    cases hw
    exact hn
  · simp only [Publisher.Ok, ShmemData.setSlot_self]
    exact Write.step_ok hok
  · intro k hk
    have hk := hk _ _ rfl
    rw [s.mem.setSlot_of_ne _ hk]
    apply hs.even k
    intro next' w' hw
    rw [hp] at hw
    cases hw
    exact hk
  · intro t h0 h1 h2
    rw [lastOpened_opened rfl (Write.step_ne_loaded _ w)] at h2
    have hle : lastOpened s ≤ next := by
      cases w with
      | loaded prev body => rw [lastOpened_loaded hp]; omega
      | _ => rw [lastOpened_opened hp fun _ _ h => by cases h]
    have ht : t < next := by simp only [ShmemData.setSlot_publish_index] at h1; omega
    rw [s.mem.setSlot_of_ne _ (slotOf_ne h0 ht h2)]
    exact hs.live t h0 h1 (by omega)
  · refine ReaderInv.guarded hs.reader rfl rfl le_rfl (fun _ _ hb => hb) ?_
    intro k
    by_cases hk : k = slotOf next
    · rw [hk, ShmemData.setSlot_self]
      exact Write.step_guarded hok
    · rw [s.mem.setSlot_of_ne _ hk]
      exact Guarded.refl _

/-- A load of the reader keeps the invariant if its attempt is not lapped. -/
theorem Inv.load {s : State n α} {k : Fin RING_SIZE} {r : Read n α} (hs : Inv s)
    (hc : NotLapped s .load) (hrd : s.reader = .reading k r) :
    Inv { s with reader := (Reader.reading k r).step s.mem } := by
  have hr := hs.reader
  simp only [ReaderInv, hrd] at hr
  obtain ⟨hk, h0, h1, hr⟩ := hr
  refine ⟨hs.next, hs.publisher, hs.even, hs.length, hs.live, ?_⟩
  simp only [ReaderInv, Reader.step]
  cases hstep : r.step (s.mem.slots k) with
  | inl r' =>
    refine ⟨hk, h0, h1, Read.step_ok hr (fun left out hatt he => ?_) hstep⟩
    have hlast := hc rfl k (by rw [hrd, hatt]; rfl) he
    rw [hk]
    exact hs.live _ h0 h1 hlast
  | inr result =>
    intro out hout
    have hres : result = some out := hout
    subst hres
    obtain ⟨-, hbody, hB⟩ := Read.step_done hr hstep
    rw [hbody]
    exact hB

/-- The head of a publish: every slot is even, and none is opened yet. -/
theorem Inv.publish {s : State n α} (hs : Inv s) (hp : s.publisher = .idle) (body : Fin n → α) :
    Inv { s with publisher := Publisher.start s.mem (s.mem.publish_index + 1) body } := by
  have heven : ∀ k, Even (s.mem.slots k).generation := by
    intro k
    refine hs.even k ?_
    intro next w hw
    rw [hp] at hw
    cases hw
  refine ⟨?_, Write.start_ok (heven _) body, fun k _ => heven k, hs.length, ?_, hs.reader⟩
  · intro next w hw
    cases hw
    rfl
  · intro t h0 h1 h2
    rw [lastOpened_loaded rfl] at h2
    exact hs.live t h0 h1 (by rwa [lastOpened_idle hp])

theorem step_inv {s t : State n α} {a : Action n α} (hs : Inv s) (hc : NotLapped s a)
    (h : step s a = some t) : Inv t := by
  cases a with
  | publish body =>
    simp only [step] at h
    split at h
    · rename_i hp
      cases h
      exact hs.publish hp body
    · cases h
  | store =>
    simp only [step] at h
    split at h
    · cases h
    · rename_i next w hp
      cases h
      rcases Publisher.step_cases s.mem next w with ⟨body, hw, hst⟩ | ⟨hw, hst⟩
      · subst hw
        rw [hst]
        exact hs.storeIndex hp
      · rw [hst]
        have hnil : aboutToPublish w = [] := by
          cases w with
          | closed body => exact absurd rfl (hw body)
          | _ => rfl
        rw [hnil, List.append_nil]
        exact hs.storeSlot hp hw
  | tryReadWireByIndex target_index out max_retries =>
    simp only [step] at h
    split at h
    · cases h
    · cases h
      refine ⟨hs.next, hs.publisher, hs.even, hs.length, hs.live, ?_⟩
      simp only [ReaderInv, slotByIndex]
      split_ifs with h0 h1 h2
      · intro body hbody
        cases hbody
      · intro body hbody
        cases hbody
      · intro body hbody
        cases hbody
      · exact ⟨rfl, by omega, by omega, trivial⟩
  | load =>
    simp only [step] at h
    split at h
    · rename_i k r hrd
      cases h
      exact hs.load hc hrd
    · cases h

theorem Inv.readsIndexed {s : State n α} (hs : Inv s) : ReadsIndexed s := by
  intro out hout
  have hr := hs.reader
  unfold ReaderInv at hr
  cases hrd : s.reader with
  | idle => rw [hrd] at hout; cases hout
  | reading k r => rw [hrd] at hout; cases hout
  | returned result =>
    simp only [hrd] at hr hout
    exact hr out hout

/-- **History reads.**  Along every interleaving of a writer that does not die and a reader in
    which no attempt starts on a slot already opened for a later frame, every body
    `TryReadWireByIndex` returns is the one published under the index it was asked for. -/
theorem tryReadWireByIndex_indexed (zero : Fin n → α) (as : List (Action n α))
    (h : AllSteps step NotLapped (State.created zero) as) :
    Always step ReadsIndexed (State.created zero) as :=
  Always.of_inv (fun _ _ _ hs hc hst => step_inv hs hc hst) (fun _ hs => hs.readsIndexed)
    (Inv.created zero) h

/-- A whole publish of a one-word body. -/
def publishRun (i : ℕ) : List (Action 1 ℕ) := [.publish ![i], .store, .store, .store, .store]

/-- Frames 1 to 31, a read of frame 1, and a publish in the middle of the read. -/
def readDuringPublish : List (Action 1 ℕ) :=
  (List.range 31).flatMap publishRun ++
    [.tryReadWireByIndex 1 ![0] 8, .load, .publish ![31], .store, .load, .store, .load]

theorem readDuringPublish_indexed :
    AllSteps step NotLapped (State.created ![0]) readDuringPublish ∧
      Always step ReadsIndexed (State.created ![0]) readDuringPublish := by
  have h : AllSteps step NotLapped (State.created ![0]) readDuringPublish := by decide +kernel
  exact ⟨h, tryReadWireByIndex_indexed ![0] readDuringPublish h⟩

/-- The reader asks for frame 1 while it is the newest, and 32 frames are published between its
    age check and its first load. -/
def lapBeforeAttempt : List (Action 1 ℕ) :=
  publishRun 1 ++ [.tryReadWireByIndex 1 ![0] 8] ++
    (List.range 32).flatMap (fun i => publishRun (i + 2)) ++ [.load, .load, .load]

/-- It returns the body of frame 33. -/
theorem lapBeforeAttempt_wrong :
    ¬ Always step ReadsIndexed (State.created ![0]) lapBeforeAttempt := by
  decide +kernel

end WKPairDriver.FaceFrame.History
