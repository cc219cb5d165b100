import Mathlib

/-!
# Bounded ring queues

A ring of `cap` cells with a head, a tail and a count, as C code keeps them.  `Ring.Wf` relates the
three indices; `Ring.contents` is the queue the ring stands for.

* `Ring.push_wf`, `Ring.pop_wf` — the two operations keep the indices related.
* `Ring.push_contents` — a push that finds room appends to the queue.
* `Ring.pop_contents` — a pop of a non-empty ring takes its first element.
-/

set_option autoImplicit false

namespace Lib

universe u
variable {α : Type u} {cap : ℕ} [NeZero cap]

structure Ring (cap : ℕ) (α : Type u) where
  buf : Fin cap → α
  head : Fin cap
  tail : Fin cap
  count : ℕ

namespace Ring

/-- An index modulo the capacity. -/
def wrap (cap : ℕ) [NeZero cap] (n : ℕ) : Fin cap := ⟨n % cap, Nat.mod_lt _ (Nat.pos_of_neZero cap)⟩

def empty (a : α) : Ring cap α := ⟨fun _ => a, wrap cap 0, wrap cap 0, 0⟩

/-- Append an element; `none` when the ring is full. -/
def push (r : Ring cap α) (a : α) : Option (Ring cap α) :=
  if r.count ≥ cap then none
  else some { r with
    buf := Function.update r.buf r.tail a
    tail := wrap cap (r.tail + 1)
    count := r.count + 1 }

/-- Take the element at the head; `none` when the ring is empty. -/
def pop (r : Ring cap α) : Option (α × Ring cap α) :=
  if r.count = 0 then none
  else some (r.buf r.head, { r with head := wrap cap (r.head + 1), count := r.count - 1 })

structure Wf (r : Ring cap α) : Prop where
  count_le : r.count ≤ cap
  tail_eq : r.tail.1 = (r.head.1 + r.count) % cap

/-- The cell of the `i`-th element of the queue. -/
def cell (r : Ring cap α) (i : ℕ) : Fin cap := wrap cap (r.head + i)

/-- The queue, oldest element first. -/
def contents (r : Ring cap α) : List α := (List.range r.count).map fun i => r.buf (r.cell i)

theorem empty_wf (a : α) : (empty a : Ring cap α).Wf :=
  ⟨Nat.zero_le _, by simp [empty, wrap]⟩

/-- Cells less than a lap apart are different. -/
theorem cell_ne (r : Ring cap α) {i j : ℕ} (hij : i < j) (hj : j < cap) : r.cell i ≠ r.cell j := by
  intro h
  have hmod : (r.head.1 + i) % cap = (r.head.1 + j) % cap := Fin.mk.inj_iff.1 h
  have hdvd : cap ∣ j - i := by
    have := Nat.sub_mod_eq_zero_of_mod_eq hmod.symm
    rw [Nat.add_sub_add_left] at this
    exact Nat.dvd_of_mod_eq_zero this
  exact absurd (Nat.le_of_dvd (by omega) hdvd) (by omega)

theorem Wf.tail_cell {r : Ring cap α} (h : r.Wf) : r.tail = r.cell r.count := Fin.ext h.tail_eq

theorem push_wf {r s : Ring cap α} {a : α} (h : r.Wf) (hs : r.push a = some s) : s.Wf := by
  unfold push at hs
  split at hs
  · cases hs
  · cases hs
    refine ⟨by simp only; omega, ?_⟩
    simp only [wrap, h.tail_eq, Nat.mod_add_mod, Nat.add_assoc]

theorem pop_wf {r s : Ring cap α} {a : α} (h : r.Wf) (hs : r.pop = some (a, s)) : s.Wf := by
  unfold pop at hs
  split at hs
  · cases hs
  · cases hs
    have hle := h.count_le
    refine ⟨by simp only; omega, ?_⟩
    simp only [wrap, h.tail_eq, Nat.mod_add_mod]
    congr 1
    omega

/-- **A push appends.** -/
theorem push_contents {r s : Ring cap α} {a : α} (h : r.Wf) (hs : r.push a = some s) :
    s.contents = r.contents ++ [a] := by
  unfold push at hs
  split at hs
  · cases hs
  · rename_i hroom
    cases hs
    simp only [contents, List.range_succ, List.map_append, List.map_cons, List.map_nil]
    congr 1
    · apply List.map_congr_left
      intro i hi
      have hi := List.mem_range.1 hi
      rw [h.tail_cell]
      exact Function.update_of_ne (r.cell_ne hi (by omega)) ..
    · rw [h.tail_cell]
      exact congrArg (· :: []) (Function.update_self ..)

/-- **A pop takes the oldest element.** -/
theorem pop_contents {r s : Ring cap α} {a : α} (hs : r.pop = some (a, s)) :
    r.contents = a :: s.contents := by
  unfold pop at hs
  split at hs
  · cases hs
  · rename_i hcount
    cases hs
    obtain ⟨n, hn⟩ := Nat.exists_eq_succ_of_ne_zero hcount
    have hhead : r.cell 0 = r.head := Fin.ext (Nat.mod_eq_of_lt (by simp))
    simp only [contents, hn, List.range_succ_eq_map, List.map_cons, List.map_map, hhead,
      Nat.succ_sub_one]
    congr 1
    refine List.map_congr_left fun i _ => congrArg r.buf (Fin.ext ?_)
    simp only [cell, wrap, Nat.mod_add_mod]
    congr 1
    omega

end Ring

end Lib
