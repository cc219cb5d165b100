import Mathlib
import WKPairDriver.Lib.Run

/-!
# The driver's pose ring: `DriverPoseShmem`

The driver publishes every device pose into a ring of `BUFFERED_SAMPLES` slots in shared memory
(`SetPose`: store the slot, then store the index), and the overlay drains it once a tick
(`ReadNewPoses`: load the index, then hand every slot from its cursor up to that index to a
callback).  The model interleaves the two: every store to and every load from the segment is one
action.

The writer stores pose number `k` in slot `k % BUFFERED_SAMPLES` and then publishes the index `k`;
the reader walks the slots from its cursor up to but not including the index.  So a call that
loads the index `k` never reaches the slot of pose `k`, and the first call on a fresh segment hands
over slot 0, which nobody has written.

* `Inv` — what holds in every reachable state, whatever the schedule.
* `delivers_iff_nothing_published` — the callbacks got exactly what was published if and only if no
  call ever had anything to hand over.
-/

set_option autoImplicit false

namespace WKPairDriver.PoseRing

open Lib

universe u
variable {π : Type u}

/-- `DriverPoseShmem::BUFFERED_SAMPLES`. -/
def BUFFERED_SAMPLES : ℕ := 64 * 1024

/-- `vr::k_unMaxTrackedDeviceCount`. -/
def k_unMaxTrackedDeviceCount : ℕ := 64

/-- `DriverPoseShmem::AugmentedPose`; `π` is `vr::DriverPose_t`. -/
structure AugmentedPose (π : Type u) where
  sample_time : ℤ
  deviceId : ℤ
  pose : π
  deriving DecidableEq

/-- A pose together with its publication number, the value `index` takes when it is published.
    The number is not stored in the segment: it tells two equal poses apart. -/
structure Publication (π : Type u) where
  number : ℕ
  pose : AugmentedPose π
  deriving DecidableEq

/-- Where the reader is: `walking cur_index first` is inside `ReadNewPoses`, after the index load
    gave `cur_index` and the lap clamp left the cursor at `first`. -/
inductive Reader where
  | closed
  | ready
  | walking (cur_index first : ℕ)
  deriving DecidableEq

/-- The segment, its writer and one reader.  A slot is `none` until it is first written.  The last
    four fields are history: the index at which the reader opened the segment, the poses published
    since, those of them published before the latest call's index load, and what the callbacks
    have been handed since. -/
structure State (π : Type u) where
  index : ℕ
  poses : ℕ → Option (Publication π)
  writing : Option (Publication π)
  cursor : ℕ
  reader : Reader
  opened : ℕ
  published : List (Publication π)
  due : List (Publication π)
  delivered : List (Option (Publication π))

/-- After `Create` on a new mapping, with a reader object that has not opened it yet. -/
def State.created : State π where
  index := 0
  poses := fun _ => none
  writing := none
  cursor := 0
  reader := .closed
  opened := 0
  published := []
  due := []
  delivered := []

inductive Action (π : Type u) where
  | setPoseSlot (deviceId : ℤ) (pose : π) (sample_time : ℤ)
  | setPoseIndex
  | openSegment
  | loadIndex
  | handOver
  | ret
  deriving DecidableEq

/-- The lap clamp at the top of `ReadNewPoses`. -/
def clampCursor (cursor cur_index : ℕ) : ℕ :=
  if cur_index < cursor ∨ cur_index - cursor > BUFFERED_SAMPLES / 2 then
    if cur_index < BUFFERED_SAMPLES / 2 then cur_index else cur_index - BUFFERED_SAMPLES / 2
  else cursor

theorem clampCursor_le (cursor cur_index : ℕ) : clampCursor cursor cur_index ≤ cur_index := by
  unfold clampCursor
  split_ifs <;> omega

/-- One access to the segment. -/
def step (s : State π) : Action π → Option (State π)
  -- `SetPose` up to the slot store; an out-of-range device returns at once
  | .setPoseSlot deviceId pose sample_time =>
    match s.writing with
    | some _ => none
    | none =>
      if deviceId < 0 ∨ k_unMaxTrackedDeviceCount ≤ deviceId then some s
      else
        let pub : Publication π := ⟨s.index + 1, ⟨sample_time, deviceId, pose⟩⟩
        some { s with
          poses := Function.update s.poses (pub.number % BUFFERED_SAMPLES) (some pub)
          writing := some pub }
  -- `pData->index.store(cur_index)`
  | .setPoseIndex =>
    match s.writing with
    | none => none
    | some pub =>
      some { s with index := pub.number, writing := none, published := s.published ++ [pub] }
  -- `Open`: the cursor keeps its value
  | .openSegment =>
    match s.reader with
    | .walking _ _ => none
    | _ => some { s with reader := .ready, opened := s.index, published := [], due := [], delivered := [] }
  | .loadIndex =>
    match s.reader with
    | .ready =>
      let first := clampCursor s.cursor s.index
      some { s with cursor := first, reader := .walking s.index first, due := s.published }
    | _ => none
  -- one round of the `while (cursor < cur_index)` loop
  | .handOver =>
    match s.reader with
    | .walking cur_index _ =>
      if s.cursor < cur_index then
        some { s with
          delivered := s.delivered ++ [s.poses (s.cursor % BUFFERED_SAMPLES)]
          cursor := s.cursor + 1 }
      else none
    | _ => none
  | .ret =>
    match s.reader with
    | .walking cur_index _ => if s.cursor < cur_index then none else some { s with reader := .ready }
    | _ => none

/-- Whenever the reader is between two calls, the callbacks have been handed exactly the poses
    published before the last call's index load: each once, in order, and no unwritten slot. -/
def Delivers (s : State π) : Prop :=
  s.reader = .ready → s.delivered = s.due.map some

/-- The reader is at most the buffer length behind. -/
def WithinBuffer (s : State π) : Prop := s.index ≤ s.cursor + BUFFERED_SAMPLES

instance [DecidableEq π] : DecidablePred (Delivers (π := π)) := fun s =>
  inferInstanceAs (Decidable (s.reader = .ready → s.delivered = s.due.map some))

instance : DecidablePred (WithinBuffer (π := π)) := fun s =>
  inferInstanceAs (Decidable (s.index ≤ s.cursor + BUFFERED_SAMPLES))

/-- A call that returns had loaded the index the segment was opened at, with its cursor already
    there: nothing had been published to it, and it handed nothing over. -/
def NothingPublished (s : State π) : Action π → Prop
  | .ret =>
    match s.reader with
    | .walking cur_index first => cur_index = s.opened ∧ first = cur_index
    | _ => True
  | _ => True

/-! ## Invariant -/

/-- The reader's part of the invariant.  While it walks, the last slot it handed over held a
    publication whose number is congruent to the position it was read from. -/
def ReaderInv (s : State π) : Prop :=
  match s.reader with
  | .closed => True
  | .ready => s.due = [] ∧ s.delivered = []
  | .walking cur_index first =>
    s.opened ≤ cur_index ∧ first ≤ s.cursor ∧ s.cursor ≤ cur_index ∧
      s.due.map (·.number) = List.range' (s.opened + 1) (cur_index - s.opened) ∧
      s.delivered.length = s.cursor - first ∧
      ∀ pub, s.delivered.getLast? = some (some pub) →
        0 < s.cursor ∧ pub.number % BUFFERED_SAMPLES = (s.cursor - 1) % BUFFERED_SAMPLES

structure Inv (s : State π) : Prop where
  slot : ∀ k pub, s.poses k = some pub → pub.number % BUFFERED_SAMPLES = k
  writing : ∀ pub, s.writing = some pub → pub.number = s.index + 1
  opened_le : s.opened ≤ s.index
  published : s.published.map (·.number) = List.range' (s.opened + 1) (s.index - s.opened)
  reader : ReaderInv s

theorem Inv.created : Inv (State.created : State π) := by
  refine ⟨?_, ?_, le_rfl, rfl, trivial⟩
  · intro k pub h
    simp [State.created] at h
  · intro pub h
    simp [State.created] at h

/-- Storing a slot keeps every slot's publication on its own residue. -/
theorem slot_update {poses : ℕ → Option (Publication π)} (new : Publication π)
    (h : ∀ k pub, poses k = some pub → pub.number % BUFFERED_SAMPLES = k) (k : ℕ)
    (pub : Publication π)
    (hk : Function.update poses (new.number % BUFFERED_SAMPLES) (some new) k = some pub) :
    pub.number % BUFFERED_SAMPLES = k := by
  by_cases hkn : k = new.number % BUFFERED_SAMPLES
  · rw [hkn, Function.update_self] at hk
    cases hk
    exact hkn.symm
  · rw [Function.update_of_ne hkn] at hk
    exact h k pub hk

/-- The index store: the pose of the slot just stored is published. -/
theorem Inv.setPoseIndex {s : State π} {pub : Publication π} (hs : Inv s)
    (hwr : s.writing = some pub) :
    Inv { s with index := pub.number, writing := none, published := s.published ++ [pub] } := by
  have hn : pub.number = s.index + 1 := hs.writing pub hwr
  have hle := hs.opened_le
  refine ⟨hs.slot, ?_, by simp only [hn]; omega, ?_, hs.reader⟩
  · intro pub' hp
    cases hp
  · simp only [List.map_append, List.map_cons, List.map_nil, hs.published, hn]
    rw [show s.index + 1 - s.opened = (s.index - s.opened) + 1 by omega, List.range'_concat]
    congr 2
    omega

/-- The index load of a call: what has been published since the segment was opened is due. -/
theorem Inv.loadIndex {s : State π} (hs : Inv s) (hr : s.reader = .ready) :
    Inv { s with
      cursor := clampCursor s.cursor s.index
      reader := .walking s.index (clampCursor s.cursor s.index)
      due := s.published } := by
  have hw := hs.reader
  simp only [ReaderInv, hr] at hw
  refine ⟨hs.slot, hs.writing, hs.opened_le, hs.published, ?_⟩
  refine ⟨hs.opened_le, le_rfl, clampCursor_le _ _, hs.published, by simp [hw.2], ?_⟩
  intro pub hp
  simp [hw.2] at hp

theorem Inv.handOver {s : State π} {cur_index first : ℕ} (hs : Inv s)
    (hr : s.reader = .walking cur_index first) (hlt : s.cursor < cur_index) :
    Inv { s with
      delivered := s.delivered ++ [s.poses (s.cursor % BUFFERED_SAMPLES)]
      cursor := s.cursor + 1 } := by
  have hw := hs.reader
  simp only [ReaderInv, hr] at hw
  obtain ⟨h1, h2, h3, h4, h5, -⟩ := hw
  refine ⟨hs.slot, hs.writing, hs.opened_le, hs.published, ?_⟩
  simp only [ReaderInv, hr]
  refine ⟨h1, by omega, by omega, h4, by simp [h5]; omega, ?_⟩
  intro pub hp
  refine ⟨by omega, ?_⟩
  have hlast : s.poses (s.cursor % BUFFERED_SAMPLES) = some pub := by simpa using hp
  simpa using hs.slot _ _ hlast

/-- The return of a call to which nothing had been published. -/
theorem Inv.ret {s : State π} {cur_index first : ℕ} (hs : Inv s)
    (hr : s.reader = .walking cur_index first) (hcur : cur_index = s.opened)
    (hfirst : first = cur_index) : Inv { s with reader := .ready } := by
  have hw := hs.reader
  simp only [ReaderInv, hr] at hw
  obtain ⟨-, -, h3, h4, h5, -⟩ := hw
  refine ⟨hs.slot, hs.writing, hs.opened_le, hs.published, ?_, ?_⟩
  · rw [hcur, Nat.sub_self] at h4
    exact List.map_eq_nil_iff.1 h4
  · apply List.eq_nil_of_length_eq_zero
    show s.delivered.length = 0
    omega

theorem step_inv {s t : State π} {a : Action π} (hs : Inv s) (hc : NothingPublished s a)
    (h : step s a = some t) : Inv t := by
  cases a with
  | setPoseSlot deviceId pose sample_time =>
    simp only [step] at h
    split at h
    · cases h
    · rename_i hwr
      split at h
      · cases h; exact hs
      · cases h
        exact ⟨slot_update ⟨s.index + 1, ⟨sample_time, deviceId, pose⟩⟩ hs.slot,
          fun pub hp => by cases hp; rfl, hs.opened_le, hs.published, hs.reader⟩
  | setPoseIndex =>
    simp only [step] at h
    split at h
    · cases h
    · rename_i pub hwr
      cases h
      exact hs.setPoseIndex hwr
  | openSegment =>
    simp only [step] at h
    split at h
    · cases h
    · cases h
      exact ⟨hs.slot, hs.writing, le_rfl, by simp, rfl, rfl⟩
  | loadIndex =>
    simp only [step] at h
    split at h
    · rename_i hr
      cases h
      exact hs.loadIndex hr
    · cases h
  | handOver =>
    simp only [step] at h
    split at h
    · rename_i cur_index first hr
      split at h
      · rename_i hlt
        cases h
        exact hs.handOver hr hlt
      · cases h
    · cases h
  | ret =>
    simp only [step] at h
    split at h
    · rename_i cur_index first hr
      split at h
      · cases h
      · cases h
        simp only [NothingPublished, hr] at hc
        exact hs.ret hr hc.1 hc.2
    · cases h

/-- A call that hands over anything at all ends on a slot other than that of the newest pose: if
    the callbacks got what was due, nothing was due. -/
theorem Inv.nothing_due {s : State π} {cur_index first : ℕ} (hs : Inv s)
    (hr : s.reader = .walking cur_index first) (hend : cur_index ≤ s.cursor)
    (hd : s.delivered = s.due.map some) : cur_index = s.opened := by
  have hw := hs.reader
  simp only [ReaderInv, hr] at hw
  obtain ⟨h1, -, h3, h4, h5, h6⟩ := hw
  by_contra hne
  obtain ⟨m, hm⟩ : ∃ m, cur_index - s.opened = m + 1 := ⟨cur_index - s.opened - 1, by omega⟩
  rw [hm, List.range'_concat, List.map_eq_append_iff] at h4
  obtain ⟨init, last, hdue, -, hlast⟩ := h4
  obtain ⟨pub, rfl, hpub⟩ : ∃ pub, last = [pub] ∧ pub.number = s.opened + 1 + 1 * m := by
    simpa [List.map_eq_singleton_iff] using hlast
  obtain ⟨hpos, hmod⟩ := h6 pub (by simp [hd, hdue])
  -- the walk has stopped at `cur_index`, whose slot it did not reach
  have hcur : s.cursor = cur_index := by omega
  have hnum : pub.number = cur_index := by omega
  rw [hnum, hcur] at hmod
  simp only [BUFFERED_SAMPLES] at hmod
  omega

/-! ## Delivery -/

theorem Inv.delivers {s : State π} (hs : Inv s) : Delivers s := by
  intro hr
  have hw := hs.reader
  simp only [ReaderInv, hr] at hw
  simp [hw.1, hw.2]

/-- A call that returns with the callbacks exactly served had nothing to serve. -/
theorem Inv.nothingPublished {s t : State π} {a : Action π} (hs : Inv s)
    (h : step s a = some t) (ht : Delivers t) : NothingPublished s a := by
  cases a with
  | ret =>
    simp only [step] at h
    split at h
    · rename_i cur_index first hr
      split at h
      · cases h
      · rename_i hend
        cases h
        have hd : s.delivered = s.due.map some := ht rfl
        have hcur := hs.nothing_due hr (by omega) hd
        have hw := hs.reader
        simp only [ReaderInv, hr] at hw
        obtain ⟨-, h2, h3, h4, h5, -⟩ := hw
        rw [hcur, Nat.sub_self, List.range'_zero, List.map_eq_nil_iff] at h4
        have hlen : s.delivered.length = 0 := by rw [hd, h4]; rfl
        simp only [NothingPublished, hr]
        exact ⟨hcur, by omega⟩
    · cases h
  | _ => trivial

/-- **The callbacks get exactly what is published only while there is nothing to get.**  Along any
    interleaving of the writer and the reader, every call leaves the callbacks with exactly the
    poses published up to its index load if and only if every call that returns had loaded the
    index at which the segment was opened, with the cursor already there. -/
theorem delivers_iff_nothing_published (as : List (Action π)) :
    Always step Delivers State.created as ↔ AllSteps step NothingPublished State.created as :=
  Always.iff_of_inv (fun _ _ _ hs hc h => step_inv hs hc h) (fun _ hs => hs.delivers)
    (fun _ _ _ hs h ht => hs.nothingPublished h ht) Inv.created

/-- One pose published after the segment was opened, and one call: it hands over slot 0, which was
    never written, and not the pose. -/
def oneSampleLag : List (Action Bool) :=
  [.openSegment, .setPoseSlot 1 true 7, .setPoseIndex, .loadIndex, .handOver, .ret]

/-- The reader is one pose behind at most, and still misses it. -/
theorem oneSampleLag_not_delivered :
    Always step WithinBuffer State.created oneSampleLag ∧
      ¬ Always step Delivers State.created oneSampleLag := by
  decide

end WKPairDriver.PoseRing
