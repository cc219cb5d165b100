import Mathlib

/-!
# Seqlock-guarded slots, one memory access at a time

A slot is a generation counter in front of a body of `n` words.  A writer brackets its copy of
a new body between two stores of the generation, odd while it copies and even when it is done; a
reader copies the body between two loads and keeps the copy only if both loads gave the same even
value.  Every `step` below performs at most one access to the slot, so interleaving these steps
gives every sequentially consistent schedule.

* `Write.step_guarded` — a writer that loaded an even generation only touches body words while
  the generation is odd (`Guarded`).
* `Read.step_ok`, `Read.Ok.guarded` — the reader's invariant `Read.Ok` is kept by its own steps
  and by every guarded step of the writer.
* `Read.step_done` — a read that ends with equal generations returns the body the slot holds at
  that moment, whole, and the slot is stable there.
-/

set_option autoImplicit false

namespace Lib.Seqlock

universe u
variable {n : ℕ} {α : Type u}

/-- A generation counter and the body it guards. -/
structure Slot (n : ℕ) (α : Type u) where
  generation : ℕ
  body : Fin n → α

/-- Store one word of the body. -/
def Slot.store (s : Slot n α) (i : Fin n) (v : α) : Slot n α :=
  { s with body := Function.update s.body i v }

@[simp] theorem Slot.store_generation (s : Slot n α) (i : Fin n) (v : α) :
    (s.store i v).generation = s.generation := rfl

theorem Slot.store_self (s : Slot n α) (i : Fin n) (v : α) : (s.store i v).body i = v :=
  Function.update_self ..

theorem Slot.store_of_ne (s : Slot n α) {i j : Fin n} (v : α) (h : j ≠ i) :
    (s.store i v).body j = s.body j :=
  Function.update_of_ne h ..

/-! ## The writer -/

/-- A writer inside one bracketed copy.  `prev` is the generation it loaded first. -/
inductive Write (n : ℕ) (α : Type u) where
  | loaded (prev : ℕ) (body : Fin n → α)
  | copying (prev : ℕ) (body : Fin n → α) (pos : ℕ)
  | closed (body : Fin n → α)

/-- Begin a write: load the slot's generation. -/
def Write.start (s : Slot n α) (body : Fin n → α) : Write n α := .loaded s.generation body

/-- The writer's next store: the opening generation, one body word, or the closing generation. -/
def Write.step (s : Slot n α) : Write n α → Slot n α × Write n α
  | .loaded prev body => ({ s with generation := prev + 1 }, .copying prev body 0)
  | .copying prev body pos =>
    if h : pos < n then (s.store ⟨pos, h⟩ (body ⟨pos, h⟩), .copying prev body (pos + 1))
    else ({ s with generation := prev + 2 }, .closed body)
  | .closed body => (s, .closed body)

/-- A store never leads back to the head of the write. -/
theorem Write.step_ne_loaded (s : Slot n α) (w : Write n α) (prev : ℕ) (body : Fin n → α) :
    (w.step s).2 ≠ .loaded prev body := by
  cases w with
  | copying prev' body' pos =>
    simp only [Write.step]
    split <;> simp
  | _ => simp [Write.step]

/-- What the slot looks like to its only writer, which loaded an even generation. -/
def Write.Ok (s : Slot n α) : Write n α → Prop
  | .loaded prev _ => s.generation = prev ∧ Even prev
  | .copying prev body pos =>
    s.generation = prev + 1 ∧ Even prev ∧ ∀ i : Fin n, i.1 < pos → s.body i = body i
  | .closed body => Even s.generation ∧ s.generation ≠ 0 ∧ s.body = body

theorem Write.start_ok {s : Slot n α} (h : Even s.generation) (body : Fin n → α) :
    (Write.start s body).Ok s := ⟨rfl, h⟩

theorem Write.step_ok {s : Slot n α} {w : Write n α} (h : w.Ok s) :
    (w.step s).2.Ok (w.step s).1 := by
  cases w with
  | loaded prev body => exact ⟨rfl, h.2, fun i hi => absurd hi (Nat.not_lt_zero _)⟩
  | copying prev body pos =>
    obtain ⟨hg, he, hb⟩ := h
    simp only [Write.step]
    split
    · rename_i hpos
      refine ⟨hg, he, fun i hi => ?_⟩
      by_cases hip : i = ⟨pos, hpos⟩
      · rw [hip]; exact s.store_self ..
      · have hlt : i.1 < pos := by
          have : i.1 ≠ pos := fun h' => hip (Fin.ext h')
          omega
        rw [← hb i hlt]
        exact s.store_of_ne _ hip
    · rename_i hpos
      refine ⟨he.add ⟨1, rfl⟩, Nat.succ_ne_zero _, ?_⟩
      funext i
      exact hb i (by omega)
  | closed body => exact h

/-- The change a well-behaved step makes to a slot: the generation does not go back, and while it
    keeps an even value the body keeps its words. -/
def Guarded (s t : Slot n α) : Prop :=
  s.generation ≤ t.generation ∧
    (t.generation = s.generation → Even s.generation → t.body = s.body)

theorem Guarded.refl (s : Slot n α) : Guarded s s := ⟨le_rfl, fun _ _ => rfl⟩

/-- **A writer that loaded an even generation makes guarded steps only.** -/
theorem Write.step_guarded {s : Slot n α} {w : Write n α} (h : w.Ok s) :
    Guarded s (w.step s).1 := by
  cases w with
  | loaded prev body =>
    have hg : s.generation = prev := h.1
    exact ⟨by simp [Write.step, hg], fun he => by simp [Write.step, hg] at he⟩
  | copying prev body pos =>
    obtain ⟨hg, he, -⟩ := h
    simp only [Write.step]
    split
    · refine ⟨le_rfl, fun _ hev => ?_⟩
      rw [hg] at hev
      exact absurd he (Nat.even_add_one.1 hev)
    · exact ⟨by simp [hg], fun h' => by simp [hg] at h'⟩
  | closed body => exact Guarded.refl s

/-- If a writer's store leaves the slot even, it was the closing store of its own body. -/
theorem Write.step_stable {s : Slot n α} {w : Write n α} (h : w.Ok s)
    (hw : ∀ body, w ≠ .closed body) (he : Even (w.step s).1.generation) :
    (w.step s).2 = .closed (w.step s).1.body := by
  have hok := Write.step_ok h
  cases w with
  | loaded prev body =>
    simp only [Write.step] at he
    exact absurd h.2 (Nat.even_add_one.1 he)
  | copying prev body pos =>
    simp only [Write.step] at he hok ⊢
    split at he
    · rw [Slot.store_generation, h.1] at he
      exact absurd h.2.1 (Nat.even_add_one.1 he)
    · rename_i hpos
      simp only [dif_neg hpos] at hok ⊢
      rw [hok.2.2]
  | closed body => exact absurd rfl (hw body)

/-! ## The reader -/

/-- A reader inside its retry loop: `left` attempts remain, `out` is the caller's buffer. -/
inductive Read (n : ℕ) (α : Type u) where
  | attempt (left : ℕ) (out : Fin n → α)
  | copying (left : ℕ) (g1 : ℕ) (pos : ℕ) (out : Fin n → α)

/-- The reader's next load: the first generation, one body word, or the second generation.  The
    right side is the end of the call: the body if it succeeds, `none` if the attempts ran out. -/
def Read.step (s : Slot n α) : Read n α → Read n α ⊕ Option (Fin n → α)
  | .attempt 0 _ => .inr none
  | .attempt (left + 1) out =>
    if s.generation % 2 = 1 then .inl (.attempt left out)
    else .inl (.copying left s.generation 0 out)
  | .copying left g1 pos out =>
    if h : pos < n then
      .inl (.copying left g1 (pos + 1) (Function.update out ⟨pos, h⟩ (s.body ⟨pos, h⟩)))
    else if s.generation = g1 then .inr (some out)
    else .inl (.attempt left out)

/-- The reader's invariant: if the slot still carries the generation it loaded, the words copied
    so far are the slot's, and the body satisfies `B`. -/
def Read.Ok (B : (Fin n → α) → Prop) (s : Slot n α) : Read n α → Prop
  | .attempt _ _ => True
  | .copying _ g1 pos out =>
    Even g1 ∧ g1 ≤ s.generation ∧
      (s.generation = g1 → B s.body ∧ ∀ i : Fin n, i.1 < pos → out i = s.body i)

theorem Read.Ok.mono {B B' : (Fin n → α) → Prop} (hB : ∀ b, B b → B' b) {s : Slot n α}
    {r : Read n α} (h : r.Ok B s) : r.Ok B' s := by
  cases r with
  | attempt left out => trivial
  | copying left g1 pos out => exact ⟨h.1, h.2.1, fun hg => ⟨hB _ (h.2.2 hg).1, (h.2.2 hg).2⟩⟩

theorem Read.Ok.guarded {B : (Fin n → α) → Prop} {s t : Slot n α} {r : Read n α}
    (h : r.Ok B s) (hst : Guarded s t) : r.Ok B t := by
  cases r with
  | attempt left out => trivial
  | copying left g1 pos out =>
    obtain ⟨he, hle, hout⟩ := h
    refine ⟨he, hle.trans hst.1, fun ht => ?_⟩
    have hs : s.generation = g1 := le_antisymm (ht ▸ hst.1) hle
    rw [hst.2 (ht.trans hs.symm) (hs ▸ he)]
    exact hout hs

/-- A load keeps the invariant; a new attempt establishes it if `B` holds of the body it starts
    on. -/
theorem Read.step_ok {B : (Fin n → α) → Prop} {s : Slot n α} {r r' : Read n α} (h : r.Ok B s)
    (hB : ∀ left out, r = .attempt left out → Even s.generation → B s.body)
    (hs : r.step s = .inl r') : r'.Ok B s := by
  match r, h, hB, hs with
  | .attempt 0 _, _, _, hs => cases hs
  | .attempt (left + 1) out, _, hB, hs =>
    simp only [Read.step] at hs
    split at hs
    · cases hs; trivial
    · rename_i hodd
      cases hs
      have he : Even s.generation := Nat.even_iff.2 (by omega)
      exact ⟨he, le_rfl, fun _ => ⟨hB _ _ rfl he, fun i hi => absurd hi (Nat.not_lt_zero _)⟩⟩
  | .copying left g1 pos out, h, _, hs =>
    obtain ⟨he, hle, hout⟩ := h
    simp only [Read.step] at hs
    split at hs
    · rename_i hpos
      cases hs
      refine ⟨he, hle, fun hg => ⟨(hout hg).1, fun i hi => ?_⟩⟩
      by_cases hip : i = ⟨pos, hpos⟩
      · rw [hip, Function.update_self]
      · have hlt : i.1 < pos := by
          have : i.1 ≠ pos := fun h' => hip (Fin.ext h')
          omega
        rw [Function.update_of_ne hip]
        exact (hout hg).2 i hlt
    · split at hs <;> cases hs
      trivial

/-- **A successful read returns the whole body of a stable slot.** -/
theorem Read.step_done {B : (Fin n → α) → Prop} {s : Slot n α} {r : Read n α}
    {out : Fin n → α} (h : r.Ok B s) (hs : r.step s = .inr (some out)) :
    Even s.generation ∧ out = s.body ∧ B s.body := by
  match r, h, hs with
  | .attempt 0 _, _, hs => cases hs
  | .attempt (left + 1) _, _, hs =>
    simp only [Read.step] at hs
    split at hs <;> cases hs
  | .copying left g1 pos buf, h, hs =>
    obtain ⟨he, -, hout⟩ := h
    simp only [Read.step] at hs
    split at hs
    · cases hs
    · rename_i hpos
      split at hs
      · rename_i hg
        cases hs
        refine ⟨hg ▸ he, ?_, (hout hg).1⟩
        funext i
        exact (hout hg).2 i (by omega)
      · cases hs

end Lib.Seqlock
