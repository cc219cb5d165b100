import Mathlib

/-!
# Stores that requests write to

A store has places with values.  A request writes some of them and leaves the others alone.  Someone
who wants the store to have certain values, and does not know which requests have been lost, sends
all of them again.

* `Mirrors` — every place has the value that is wanted.
* `Covered` — every place that is not as in a fresh store is written by the requests of a replay.
* `Covered.mirrors_foldl` — a replay makes a covered store mirror what is wanted.
* `Mirrors.edit`, `Covered.edit_applied`, `Covered.edit_lost` — what an edit does to both, if its
  request arrives and if not.
-/

set_option autoImplicit false

namespace Lib

universe u v w x

structure Store (M : Type u) (R : Type v) (P : Type w) (V : P → Type x) where
  fresh : M
  handle : M → R → M
  read : M → (p : P) → V p
  /-- What a request writes to a place, if it does. -/
  write : R → (p : P) → Option (V p)
  read_handle : ∀ m r p, read (handle m r) p = (write r p).getD (read m p)

namespace Store

variable {M : Type u} {R : Type v} {P : Type w} {V : P → Type x} (S : Store M R P V)

def Mirrors (want : (p : P) → V p) (m : M) : Prop := ∀ p, S.read m p = want p

/-- One of the requests writes the place. -/
def Replayed (reqs : List R) (p : P) : Prop := ∃ r ∈ reqs, (S.write r p).isSome

/-- The requests bring what is wanted, and all of it that a fresh store does not have. -/
structure Tells (reqs : List R) (want : (p : P) → V p) : Prop where
  agree : ∀ r ∈ reqs, ∀ p v, S.write r p = some v → v = want p
  complete : ∀ p, want p ≠ S.read S.fresh p → S.Replayed reqs p

def Covered (reqs : List R) (m : M) : Prop :=
  ∀ p, S.read m p ≠ S.read S.fresh p → S.Replayed reqs p

/-- The request turns what was wanted into what is wanted now. -/
def Edits (r : R) (want want' : (p : P) → V p) : Prop := ∀ p, want' p = (S.write r p).getD (want p)

variable {S} {reqs reqs' : List R} {want want' : (p : P) → V p} {m : M} {r : R}

theorem covered_of_fresh (h : ∀ p, S.read m p = S.read S.fresh p) : S.Covered reqs m :=
  fun p hp => absurd (h p) hp

theorem Mirrors.covered (h : S.Mirrors want m) (ht : S.Tells reqs want) : S.Covered reqs m := by
  intro p hp
  rw [h p] at hp
  exact ht.complete p hp

theorem Mirrors.edit (h : S.Mirrors want m) (he : S.Edits r want want') :
    S.Mirrors want' (S.handle m r) := by
  intro p
  rw [S.read_handle, he p, h p]

theorem Covered.handle (h : S.Covered reqs m) (hr : r ∈ reqs) : S.Covered reqs (S.handle m r) := by
  intro p hp
  by_cases hw : (S.write r p).isSome
  · exact ⟨r, hr, hw⟩
  · rw [S.read_handle, Option.not_isSome_iff_eq_none.1 hw, Option.getD_none] at hp
    exact h p hp

/-- Requests that agree on a place leave what they say there, or the place alone. -/
theorem read_foldl {p : P} {v : V p} (rs : List R)
    (hagree : ∀ r ∈ rs, ∀ v', S.write r p = some v' → v' = v) (m : M) :
    S.read (rs.foldl S.handle m) p = v ∨
      (∀ r ∈ rs, S.write r p = none) ∧ S.read (rs.foldl S.handle m) p = S.read m p := by
  induction rs generalizing m with
  | nil => exact .inr ⟨fun _ h => (List.not_mem_nil h).elim, rfl⟩
  | cons r rs ih =>
    have hrest := ih (fun r' hr' => hagree r' (List.mem_cons_of_mem r hr')) (S.handle m r)
    rw [List.foldl_cons]
    rcases hrest with hv | ⟨hnone, hread⟩
    · exact .inl hv
    · rw [S.read_handle] at hread
      cases hw : S.write r p with
      | none =>
        rw [hw, Option.getD_none] at hread
        exact .inr ⟨List.forall_mem_cons.2 ⟨hw, hnone⟩, hread⟩
      | some v' =>
        rw [hw, Option.getD_some, hagree r List.mem_cons_self v' hw] at hread
        exact .inl hread

/-- **A replay makes a covered store mirror what is wanted.** -/
theorem Covered.mirrors_foldl (h : S.Covered reqs m) (ht : S.Tells reqs want) :
    S.Mirrors want (reqs.foldl S.handle m) := by
  intro p
  rcases read_foldl reqs (fun r hr v hv => ht.agree r hr p v hv) m with hp | ⟨hnone, hp⟩
  · exact hp
  · -- nothing writes the place, so both sides are as in a fresh store
    have hnot : ¬ S.Replayed reqs p := by
      rintro ⟨r, hr, hw⟩
      rw [hnone r hr] at hw
      cases hw
    rw [hp, not_imp_comm.1 (h p) hnot]
    exact (not_imp_comm.1 (ht.complete p) hnot).symm

/-- The places of the old replay are in the new one, up to those of the edit. -/
def Extends (S : Store M R P V) (r : R) (reqs reqs' : List R) : Prop :=
  ∀ p, S.Replayed reqs p → S.Replayed reqs' p ∨ (S.write r p).isSome

theorem Covered.edit_applied (h : S.Covered reqs m) (he : S.Edits r want want')
    (ht : S.Tells reqs' want') (hext : S.Extends r reqs reqs') :
    S.Covered reqs' (S.handle m r) := by
  intro p hp
  cases hw : S.write r p with
  | none =>
    rw [S.read_handle, hw, Option.getD_none] at hp
    rcases hext p (h p hp) with hp' | hp'
    · exact hp'
    · rw [hw] at hp'
      cases hp'
  | some v =>
    have hv := he p
    rw [hw, Option.getD_some] at hv
    rw [S.read_handle, hw, Option.getD_some, ← hv] at hp
    exact ht.complete p hp

theorem Covered.edit_lost (h : S.Covered reqs m) (hext : S.Extends r reqs reqs')
    (hlost : ∀ p, (S.write r p).isSome → S.Replayed reqs' p ∨ S.read m p = S.read S.fresh p) :
    S.Covered reqs' m := by
  intro p hp
  rcases hext p (h p hp) with hp' | hw
  · exact hp'
  · exact (hlost p hw).resolve_right hp

end Store

end Lib
