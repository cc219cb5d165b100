import Mathlib

/-!
# Numbered pieces

A text is cut into pieces, the pieces are numbered from zero, and a receiver that got them in any
order puts them together by their numbers.

* `cut` — the pieces of a text, each of `n` items but for the last; `cut_flatten` joins them again.
* `ordered` — for every number in turn, the first piece received under it.
* `ordered_of_perm` — a receiver that got every piece once has the text.
-/

set_option autoImplicit false

namespace Lib.Reassembly

universe u
variable {α : Type u}

/-! ## Cutting -/

/-- The number of pieces. -/
def pieceCount (n length : ℕ) : ℕ := (length + n - 1) / n

theorem pieceCount_pos {n length : ℕ} (hn : 0 < n) (h : 0 < length) : 0 < pieceCount n length :=
  Nat.div_pos (by omega) hn

theorem lt_pieceCount_iff {n length i : ℕ} (hn : 0 < n) :
    i < pieceCount n length ↔ i * n < length := by
  rw [pieceCount, Nat.lt_div_iff_mul_lt hn]
  omega

/-- Piece `i`. -/
def piece (n : ℕ) (text : List α) (i : ℕ) : List α := (text.drop (i * n)).take n

def cut (n : ℕ) (text : List α) : List (List α) :=
  (List.range (pieceCount n text.length)).map (piece n text)

@[simp] theorem cut_length (n : ℕ) (text : List α) :
    (cut n text).length = pieceCount n text.length := by
  rw [cut, List.length_map, List.length_range]

/-- The first `k` pieces are the front of the text. -/
theorem flatMap_piece (n : ℕ) (text : List α) (k : ℕ) :
    (List.range k).flatMap (piece n text) = text.take (k * n) := by
  induction k with
  | zero => simp
  | succ k ih =>
    rw [List.range_succ, List.flatMap_append, ih, List.flatMap_singleton, piece, Nat.add_mul,
      Nat.one_mul, List.take_add]

theorem cut_flatten {n : ℕ} (hn : 0 < n) (text : List α) : (cut n text).flatten = text := by
  have hall : text.length ≤ pieceCount n text.length * n := by
    by_contra hlt
    exact absurd ((lt_pieceCount_iff hn).2 (not_le.1 hlt)) (lt_irrefl _)
  rw [cut, ← List.flatMap_def, flatMap_piece, List.take_of_length_le hall]

/-! ## Putting together -/

/-- A piece with its number. -/
abbrev Piece (α : Type u) := ℕ × List α

/-- The pieces numbered from zero. -/
def numbered (pieces : List (List α)) : List (Piece α) := pieces.zipIdx.map Prod.swap

/-- The first piece received under a number. -/
def pieceAt (received : List (Piece α)) (k : ℕ) : List α :=
  ((received.find? fun p => decide (p.1 = k)).map Prod.snd).getD []

def ordered (received : List (Piece α)) : List α :=
  (List.range received.length).flatMap (pieceAt received)

@[simp] theorem numbered_length (pieces : List (List α)) :
    (numbered pieces).length = pieces.length := by
  rw [numbered, List.length_map, List.length_zipIdx]

theorem mem_numbered {pieces : List (List α)} {k : ℕ} {d : List α} :
    (k, d) ∈ numbered pieces ↔ pieces[k]? = some d := by
  rw [numbered, List.mem_map]
  constructor
  · rintro ⟨⟨x, i⟩, hx, hswap⟩
    obtain ⟨rfl, rfl⟩ := Prod.mk.inj hswap
    exact List.mem_zipIdx_iff_getElem?.1 hx
  · intro h
    exact ⟨(d, k), List.mem_zipIdx_iff_getElem?.2 h, rfl⟩

theorem pieceAt_of_perm {received : List (Piece α)} {pieces : List (List α)}
    (h : received.Perm (numbered pieces)) {k : ℕ} {d : List α} (hk : pieces[k]? = some d) :
    pieceAt received k = d := by
  have hmem : (k, d) ∈ received := h.mem_iff.2 (mem_numbered.2 hk)
  have hfound : (received.find? fun p => decide (p.1 = k)).isSome := by
    rw [List.find?_isSome]
    exact ⟨(k, d), hmem, by simp⟩
  obtain ⟨⟨i, x⟩, hx⟩ := Option.isSome_iff_exists.1 hfound
  have hi : i = k := by simpa using List.find?_some hx
  have hnum : (i, x) ∈ numbered pieces := h.mem_iff.1 (List.mem_of_find?_eq_some hx)
  rw [mem_numbered, hi, hk] at hnum
  rw [pieceAt, hx]
  exact (Option.some.inj hnum).symm

/-- **A receiver that got every piece once, in whatever order, has the text.** -/
theorem ordered_of_perm {received : List (Piece α)} {pieces : List (List α)}
    (h : received.Perm (numbered pieces)) : ordered received = pieces.flatten := by
  have hlen : received.length = pieces.length := by rw [h.length_eq, numbered_length]
  rw [ordered, hlen, List.flatMap_def]
  congr 1
  refine List.ext_getElem (by simp) fun k hk hk' => ?_
  rw [List.getElem_map, List.getElem_range]
  exact pieceAt_of_perm h (List.getElem?_eq_getElem hk')

end Lib.Reassembly
