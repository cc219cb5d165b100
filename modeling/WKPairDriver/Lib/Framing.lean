import Mathlib

/-!
# Cutting a stream into frames

Elements are collected until there are as many as a frame has, and handed on together.

* `flatten_foldl_push` — the frames and what is still collected are the stream.
* `getElem?_frames` — an element with a frame's length behind it has been handed on at its place.
-/

set_option autoImplicit false

namespace Lib

universe u
variable {α : Type u}

/-- What is being collected, and the frames handed on, the oldest first. -/
structure Framing (α : Type u) where
  pending : List α
  frames : List (List α)
  deriving DecidableEq, Repr

namespace Framing

/-- Nothing collected and nothing handed on. -/
def empty : Framing α := ⟨[], []⟩

/-- One more element, where a frame has `n`. -/
def push (n : Nat) (s : Framing α) (x : α) : Framing α :=
  let pending := s.pending ++ [x]
  if n ≤ pending.length then ⟨[], s.frames ++ [pending.take n]⟩ else ⟨pending, s.frames⟩

variable {n : Nat}

/-- The elements so far. -/
def stream (s : Framing α) : List α := s.frames.flatten ++ s.pending

theorem push_stream {s : Framing α} (hs : s.pending.length < n) (x : α) :
    (s.push n x).stream = s.stream ++ [x] ∧ (s.push n x).pending.length < n := by
  unfold push stream
  dsimp only
  rw [List.length_append, List.length_singleton]
  split_ifs with h
  · have hlen : (s.pending ++ [x]).length = n := by
      rw [List.length_append, List.length_singleton]
      omega
    rw [List.take_of_length_le hlen.le]
    exact ⟨by simp, by simp only [List.length_nil]; omega⟩
  · exact ⟨by simp, by simp only [List.length_append, List.length_singleton]; omega⟩

theorem foldl_push {s : Framing α} (hs : s.pending.length < n) (xs : List α) :
    (xs.foldl (push n) s).stream = s.stream ++ xs ∧
      (xs.foldl (push n) s).pending.length < n := by
  induction xs generalizing s with
  | nil => exact ⟨by simp, hs⟩
  | cons x xs ih =>
    obtain ⟨hstream, hlen⟩ := push_stream hs x
    obtain ⟨hfold, hrest⟩ := ih hlen
    exact ⟨by rw [List.foldl_cons, hfold, hstream, List.append_assoc]; rfl, hrest⟩

/-- An element with `n` more behind it is in a frame, at its place. -/
theorem getElem?_frames (hn : 0 < n) {xs : List α} {k : Nat} (hk : k + n ≤ xs.length) :
    (xs.foldl (push n) empty).frames.flatten[k]? = xs[k]? := by
  obtain ⟨hstream, hlen⟩ := foldl_push (s := empty) hn xs
  have hlength : xs.length = (xs.foldl (push n) empty).frames.flatten.length +
      (xs.foldl (push n) empty).pending.length := by
    rw [← List.length_append]
    exact congrArg List.length hstream.symm
  calc (xs.foldl (push n) empty).frames.flatten[k]?
      = (xs.foldl (push n) empty).stream[k]? := (List.getElem?_append_left (by omega)).symm
    _ = xs[k]? := by rw [hstream]; rfl

end Framing

end Lib
