import WKPairDriver.Lib.Seqlock

/-!
# The face-tracking frame ring: `FaceTrackingFrameShmem`

A ring of `RING_SIZE` seqlock slots plus the index of the newest frame.  A body is `n` words of
type `α`; the code copies `FaceTrackingFrameBodyWire` with `memcpy`.

* `Publisher` — one publish, as the C++ `Publish` and the C# `FrameWriter.WriteUnderSeqlock` both
  do it: load the slot's generation, store it odd, copy the body, store it even, store the index.
* `latestSlot`, `slotByIndex` — what `TryReadLatestWire` and `TryReadWireByIndex` do before their
  common retry loop, which is `Lib.Seqlock.Read`.
* `ShmemData.publish_eq`, `ShmemData.TryReadLatestWire_eq` — a whole publish and a whole read that
  nothing disturbs.
* `Publisher.step_ok`, `Publisher.step_guarded` — a publisher that loaded an even generation keeps
  that discipline on its own slot and leaves every other slot alone.
-/

set_option autoImplicit false

namespace WKPairDriver.FaceFrame

open Lib Lib.Seqlock

universe u
variable {n : ℕ} {α : Type u}

/-- `FaceTrackingFrameShmem::RING_SIZE`, `FrameWriter.RingSize`. -/
def RING_SIZE : ℕ := 32

theorem RING_SIZE_pos : 0 < RING_SIZE := by decide

/-- `ShmemData`: the publish counter and the slots. -/
structure ShmemData (n : ℕ) (α : Type u) where
  publish_index : ℕ
  slots : Fin RING_SIZE → Slot n α

/-- A new mapping is zero-filled; `zero` is the zero body. -/
def ShmemData.created (zero : Fin n → α) : ShmemData n α := ⟨0, fun _ => ⟨0, zero⟩⟩

/-- `(index - 1) % RING_SIZE`, the slot of the frame published under `index`. -/
def slotOf (index : ℕ) : Fin RING_SIZE := ⟨(index - 1) % RING_SIZE, Nat.mod_lt _ RING_SIZE_pos⟩

/-- Two indices less than a lap apart live in different slots. -/
theorem slotOf_ne {s t : ℕ} (hs : 0 < s) (hst : s < t) (hlap : t < s + RING_SIZE) :
    slotOf s ≠ slotOf t := by
  intro h
  have := Fin.mk.inj_iff.1 h
  simp only [RING_SIZE] at this hlap
  omega

/-- Replace one slot. -/
def ShmemData.setSlot (m : ShmemData n α) (k : Fin RING_SIZE) (s : Slot n α) : ShmemData n α :=
  { m with slots := Function.update m.slots k s }

@[simp] theorem ShmemData.setSlot_publish_index (m : ShmemData n α) (k : Fin RING_SIZE)
    (s : Slot n α) : (m.setSlot k s).publish_index = m.publish_index := rfl

@[simp] theorem ShmemData.setSlot_self (m : ShmemData n α) (k : Fin RING_SIZE) (s : Slot n α) :
    (m.setSlot k s).slots k = s :=
  Function.update_self ..

theorem ShmemData.setSlot_of_ne (m : ShmemData n α) {k j : Fin RING_SIZE} (s : Slot n α)
    (h : j ≠ k) : (m.setSlot k s).slots j = m.slots j :=
  Function.update_of_ne h ..

/-! ## Publishing -/

/-- A writer between two publishes, or inside the publish of frame number `next`. -/
inductive Publisher (n : ℕ) (α : Type u) where
  | idle
  | writing (next : ℕ) (w : Write n α)

/-- The head of a publish: choose the slot and load its generation. -/
def Publisher.start (m : ShmemData n α) (next : ℕ) (body : Fin n → α) : Publisher n α :=
  .writing next (Write.start (m.slots (slotOf next)) body)

/-- The writer's next store: into the slot, and last into the publish counter. -/
def Publisher.step (m : ShmemData n α) : Publisher n α → ShmemData n α × Publisher n α
  | .idle => (m, .idle)
  | .writing next (.closed _) => ({ m with publish_index := next }, .idle)
  | .writing next w =>
    (m.setSlot (slotOf next) (w.step (m.slots (slotOf next))).1,
     .writing next (w.step (m.slots (slotOf next))).2)

/-- The writer's view of its own slot. -/
def Publisher.Ok (m : ShmemData n α) : Publisher n α → Prop
  | .idle => True
  | .writing next w => w.Ok (m.slots (slotOf next))

/-- The two kinds of store: into the slot of the frame being written, or the publish counter. -/
theorem Publisher.step_cases (m : ShmemData n α) (next : ℕ) (w : Write n α) :
    (∃ body, w = .closed body ∧
      (Publisher.writing next w).step m = ({ m with publish_index := next }, .idle)) ∨
    ((∀ body, w ≠ .closed body) ∧ (Publisher.writing next w).step m =
      (m.setSlot (slotOf next) (w.step (m.slots (slotOf next))).1,
       .writing next (w.step (m.slots (slotOf next))).2)) := by
  cases w with
  | closed body => exact .inl ⟨body, rfl, rfl⟩
  | loaded prev body =>
    refine .inr ⟨?_, rfl⟩
    intro body' h
    cases h
  | copying prev body pos =>
    refine .inr ⟨?_, rfl⟩
    intro body' h
    cases h

theorem Publisher.step_ok {m : ShmemData n α} {p : Publisher n α} (h : p.Ok m) :
    (p.step m).2.Ok (p.step m).1 := by
  cases p with
  | idle => trivial
  | writing next w =>
    rcases Publisher.step_cases m next w with ⟨body, -, hs⟩ | ⟨-, hs⟩
    · rw [hs]; trivial
    · rw [hs]
      simp only [Publisher.Ok, ShmemData.setSlot_self]
      exact Write.step_ok h

/-- **A publish makes guarded changes only.** -/
theorem Publisher.step_guarded {m : ShmemData n α} {p : Publisher n α} (h : p.Ok m)
    (k : Fin RING_SIZE) : Guarded (m.slots k) ((p.step m).1.slots k) := by
  cases p with
  | idle => exact Guarded.refl _
  | writing next w =>
    rcases Publisher.step_cases m next w with ⟨body, -, hs⟩ | ⟨-, hs⟩
    · rw [hs]; exact Guarded.refl _
    · rw [hs]
      by_cases hk : k = slotOf next
      · rw [hk, ShmemData.setSlot_self]
        exact Write.step_guarded h
      · rw [m.setSlot_of_ne _ hk]
        exact Guarded.refl _

/-! ## Reading -/

/-- `TryReadLatestWire` up to its retry loop; `none` returns false. -/
def latestSlot (m : ShmemData n α) : Option (Fin RING_SIZE) :=
  if m.publish_index = 0 then none else some (slotOf m.publish_index)

/-- `TryReadWireByIndex` up to its retry loop; `none` returns false. -/
def slotByIndex (m : ShmemData n α) (target_index : ℕ) : Option (Fin RING_SIZE) :=
  if target_index = 0 then none
  else if target_index > m.publish_index then none
  else if m.publish_index - target_index ≥ RING_SIZE then none
  else some (slotOf target_index)

/-- A reader between two calls, inside one, or just returned. -/
inductive Reader (n : ℕ) (α : Type u) where
  | idle
  | reading (k : Fin RING_SIZE) (r : Read n α)
  | returned (result : Option (Fin n → α))

/-- Enter the retry loop on the chosen slot, or return false. -/
def Reader.call (slot : Option (Fin RING_SIZE)) (max_retries : ℕ) (out : Fin n → α) : Reader n α :=
  match slot with
  | none => .returned none
  | some k => .reading k (.attempt max_retries out)

/-- The reader's next load. -/
def Reader.step (m : ShmemData n α) : Reader n α → Reader n α
  | .idle => .idle
  | .returned result => .returned result
  | .reading k r =>
    match r.step (m.slots k) with
    | .inl r' => .reading k r'
    | .inr result => .returned result

/-- The slot whose first generation the reader is about to load. -/
def Reader.attempting : Reader n α → Option (Fin RING_SIZE)
  | .reading k (.attempt _ _) => some k
  | _ => none

/-- What the last call returned in `out`, if it returned true. -/
def Reader.result : Reader n α → Option (Fin n → α)
  | .returned result => result
  | _ => none

/-! ## Undisturbed calls -/

/-- A writer and its segment after `k` stores with nobody between them. -/
def Publisher.run (k : ℕ) (m : ShmemData n α) (p : Publisher n α) :
    ShmemData n α × Publisher n α :=
  (fun x : ShmemData n α × Publisher n α => x.2.step x.1)^[k] (m, p)

theorem Publisher.run_succ (k : ℕ) (m : ShmemData n α) (p : Publisher n α) :
    p.run (k + 1) m = (p.step m).2.run k (p.step m).1 :=
  Function.iterate_succ_apply ..

/-- A whole publish: the opening generation, `n` words, the closing generation, the index. -/
def ShmemData.publish (m : ShmemData n α) (next : ℕ) (body : Fin n → α) : ShmemData n α :=
  ((Publisher.start m next body).run (n + 3) m).1

/-- From the middle of the copy on, by induction on the words that are left. -/
theorem Publisher.run_copying (next prev : ℕ) (body : Fin n → α) (d : ℕ) :
    ∀ (m : ShmemData n α) (pos : ℕ), pos + d = n →
      (Publisher.writing next (.copying prev body pos)).Ok m →
      ∃ s : Slot n α, Even s.generation ∧ s.body = body ∧
        ((Publisher.writing next (.copying prev body pos)).run (d + 2) m).1 =
          { m.setSlot (slotOf next) s with publish_index := next } := by
  induction d with
  | zero =>
    intro m pos hpos hok
    have hstep := Publisher.step_ok hok
    have hn : ¬ pos < n := by omega
    simp only [Publisher.step, Write.step, dif_neg hn, Publisher.Ok, ShmemData.setSlot_self,
      Write.Ok] at hstep
    refine ⟨{ m.slots (slotOf next) with generation := prev + 2 }, hstep.1, hstep.2.2, ?_⟩
    simp only [Publisher.run, Function.iterate_succ, Function.iterate_zero, Function.comp_apply,
      id_eq, Publisher.step, Write.step, dif_neg hn]
  | succ d ih =>
    intro m pos hpos hok
    have hn : pos < n := by omega
    have hok' := Publisher.step_ok hok
    have hstep : (Publisher.writing next (.copying prev body pos)).step m =
        (m.setSlot (slotOf next) ((m.slots (slotOf next)).store ⟨pos, hn⟩ (body ⟨pos, hn⟩)),
          .writing next (.copying prev body (pos + 1))) := by
      simp only [Publisher.step, Write.step, dif_pos hn]
    rw [hstep] at hok'
    obtain ⟨s, hev, hbody, hrun⟩ := ih _ (pos + 1) (by omega) hok'
    refine ⟨s, hev, hbody, ?_⟩
    rw [show d + 1 + 2 = (d + 2) + 1 by omega, Publisher.run_succ, hstep, hrun]
    simp [ShmemData.setSlot]

/-- **A publish that finds an even generation** leaves its body stable in its slot, its index as
    the newest, and the other slots as they were. -/
theorem ShmemData.publish_eq {m : ShmemData n α} {next : ℕ} (body : Fin n → α)
    (h : Even (m.slots (slotOf next)).generation) :
    ∃ s : Slot n α, Even s.generation ∧ s.body = body ∧
      m.publish next body = { m.setSlot (slotOf next) s with publish_index := next } := by
  have hok : (Publisher.start m next body).Ok m := Write.start_ok h body
  obtain ⟨s, hev, hbody, hrun⟩ :=
    Publisher.run_copying next _ body n _ 0 (Nat.zero_add n) (Publisher.step_ok hok)
  refine ⟨s, hev, hbody, ?_⟩
  rw [ShmemData.publish, show n + 3 = (n + 2) + 1 by omega, Publisher.run_succ]
  refine hrun.trans ?_
  simp [Publisher.start, Publisher.step, Write.step, Write.start, ShmemData.setSlot]

/-- A whole call: each attempt loads the generation, `n` words and the generation again. -/
def ShmemData.TryReadLatestWire (m : ShmemData n α) (max_retries : ℕ) (out : Fin n → α) :
    Option (Fin n → α) :=
  ((Reader.step m)^[max_retries * (n + 2)] (Reader.call (latestSlot m) max_retries out)).result

theorem Reader.iterate_returned (m : ShmemData n α) (result : Option (Fin n → α)) (k : ℕ) :
    (Reader.step m)^[k] (.returned result) = .returned result := by
  induction k with
  | zero => rfl
  | succ k ih =>
    rw [Function.iterate_succ_apply]
    exact ih

theorem Reader.iterate_copying (m : ShmemData n α) (k : Fin RING_SIZE) (left d : ℕ) :
    ∀ (pos : ℕ) (out : Fin n → α), pos + d = n →
      (Read.copying left (m.slots k).generation pos out).Ok (fun _ => True) (m.slots k) →
      (Reader.step m)^[d + 1]
        (.reading k (.copying left (m.slots k).generation pos out)) =
          .returned (some (m.slots k).body) := by
  induction d with
  | zero =>
    intro pos out hpos hok
    have hn : ¬ pos < n := by omega
    have hdone : (Read.copying left (m.slots k).generation pos out).step (m.slots k) =
        .inr (some out) := by
      simp only [Read.step, dif_neg hn, if_true]
    have hout := (Read.step_done hok hdone).2.1
    rw [Function.iterate_one, Reader.step, hdone, hout]
  | succ d ih =>
    intro pos out hpos hok
    have hn : pos < n := by omega
    have hstep : (Read.copying left (m.slots k).generation pos out).step (m.slots k) =
        .inl (.copying left (m.slots k).generation (pos + 1)
          (Function.update out ⟨pos, hn⟩ ((m.slots k).body ⟨pos, hn⟩))) := by
      simp only [Read.step, dif_pos hn]
    have hok' := Read.step_ok hok (fun _ _ h _ => by cases h) hstep
    rw [Function.iterate_succ_apply, Reader.step, hstep]
    exact ih (pos + 1) _ (by omega) hok'

/-- **A reader that nothing disturbs** returns the newest frame if its slot is stable. -/
theorem ShmemData.TryReadLatestWire_eq {m : ShmemData n α} {max_retries : ℕ}
    (hretries : 0 < max_retries) (out : Fin n → α) {k : Fin RING_SIZE} (hk : latestSlot m = some k)
    (h : Even (m.slots k).generation) :
    m.TryReadLatestWire max_retries out = some (m.slots k).body := by
  obtain ⟨left, rfl⟩ := Nat.exists_eq_add_of_lt hretries
  have hodd : ¬ (m.slots k).generation % 2 = 1 := by
    have := Nat.even_iff.1 h
    omega
  have hstep : (Read.attempt (left + 1) out).step (m.slots k) =
      .inl (.copying left (m.slots k).generation 0 out) := by
    simp only [Read.step, if_neg hodd]
  have hok := Read.step_ok (B := fun _ => True) (r := .attempt (left + 1) out) trivial
    (fun _ _ _ _ => trivial) hstep
  have hcopy := Reader.iterate_copying m k left n 0 out (Nat.zero_add n) hok
  rw [ShmemData.TryReadLatestWire, hk, show 0 + left + 1 = left + 1 by omega,
    show (left + 1) * (n + 2) = left * (n + 2) + (n + 1) + 1 by ring,
    Function.iterate_succ_apply, Reader.call, Reader.step, hstep, Function.iterate_add_apply, hcopy,
    Reader.iterate_returned]
  rfl

end WKPairDriver.FaceFrame
