import Mathlib

/-!
# Lines through a bounded buffer

A reader takes a text line by line into a buffer of limited length: a line ends behind the symbol
that ends lines, or where the buffer is full.

* `flatten_split` — no symbol is lost.
* `split_line` — a line that fits is read whole, whatever follows.
* `split_full` — a line without an end that fills the buffer is cut there.
* `dropLast_split` — an end of line stands last only.
-/

set_option autoImplicit false

namespace Lib.BoundedLines

universe u

variable {α : Type u} (isEnd : α → Bool) (limit : ℕ)

/-- The pieces a reader of `limit` symbols takes, behind the symbols already taken. -/
def splitFrom : List α → List α → List (List α)
  | [], [] => []
  | [], cur => [cur]
  | c :: text, cur =>
    if isEnd c = true ∨ limit ≤ cur.length + 1 then (cur ++ [c]) :: splitFrom text []
    else splitFrom text (cur ++ [c])

/-- The pieces of a text. -/
def split (text : List α) : List (List α) := splitFrom isEnd limit text []

variable {isEnd limit}

theorem splitFrom_nil (cur : List α) : (splitFrom isEnd limit [] cur).flatten = cur := by
  cases cur <;> simp [splitFrom]

theorem flatten_splitFrom : ∀ text cur : List α,
    (splitFrom isEnd limit text cur).flatten = cur ++ text
  | [], cur => by rw [splitFrom_nil, List.append_nil]
  | c :: text, cur => by
    rw [splitFrom]
    split
    next => rw [List.flatten_cons, flatten_splitFrom text, List.nil_append, List.append_assoc]; rfl
    next => rw [flatten_splitFrom text, List.append_assoc]; rfl

/-- No symbol is lost. -/
theorem flatten_split (text : List α) : (split isEnd limit text).flatten = text :=
  flatten_splitFrom text []

theorem splitFrom_append (s : List α) : ∀ (line cur : List α), (∀ c ∈ line, isEnd c = false) →
    cur.length + line.length < limit →
    splitFrom isEnd limit (line ++ s) cur = splitFrom isEnd limit s (cur ++ line)
  | [], cur, _, _ => by rw [List.nil_append, List.append_nil]
  | c :: line, cur, h, hlen => by
    have hc : isEnd c = false := h c List.mem_cons_self
    rw [List.length_cons] at hlen
    rw [List.cons_append, splitFrom, if_neg (by simp [hc]; omega),
      splitFrom_append s line _ (fun d hd => h d (List.mem_cons_of_mem _ hd))
        (by rw [List.length_append, List.length_singleton]; omega), List.append_assoc]
    rfl

/-- A line that fits is read whole, whatever follows. -/
theorem split_line {line : List α} {e : α} (h : ∀ c ∈ line, isEnd c = false) (he : isEnd e = true)
    (hlen : line.length < limit) (s : List α) :
    split isEnd limit (line ++ e :: s) = (line ++ [e]) :: split isEnd limit s := by
  rw [split, splitFrom_append _ _ _ h (by simpa using hlen), List.nil_append, splitFrom,
    if_pos (Or.inl he)]
  rfl

/-- A line without an end that fills the buffer is cut there. -/
theorem split_full {line : List α} (h : ∀ c ∈ line, isEnd c = false) (hpos : 0 < limit)
    (hlen : line.length = limit) (s : List α) :
    split isEnd limit (line ++ s) = line :: split isEnd limit s := by
  obtain rfl | ⟨line, c, rfl⟩ := line.eq_nil_or_concat'
  · simp at hlen
    omega
  · rw [List.length_append, List.length_singleton] at hlen
    rw [split, List.append_assoc,
      splitFrom_append _ _ _ (fun d hd => h d (List.mem_append_left _ hd)) (by simp; omega),
      List.nil_append, List.singleton_append, splitFrom, if_pos (Or.inr (by omega))]
    rfl

theorem exists_splitFrom (s : List α) : ∀ cur : List α, cur ≠ [] →
    ∃ r pieces, splitFrom isEnd limit s cur = (cur ++ r) :: pieces := by
  induction s with
  | nil =>
    intro cur hcur
    obtain ⟨c, cur, rfl⟩ := List.exists_cons_of_ne_nil hcur
    exact ⟨[], [], by simp [splitFrom]⟩
  | cons c s ih =>
    intro cur hcur
    rw [splitFrom]
    split
    next => exact ⟨[c], _, rfl⟩
    next =>
      obtain ⟨r, pieces, h⟩ := ih (cur ++ [c]) (by simp)
      exact ⟨c :: r, pieces, by rw [h, List.append_assoc]; rfl⟩

/-- The first piece starts with what fits of the first line. -/
theorem exists_split {line : List α} (h : ∀ c ∈ line, isEnd c = false) (hne : line ≠ [])
    (hlen : line.length ≤ limit) (s : List α) :
    ∃ r pieces, split isEnd limit (line ++ s) = (line ++ r) :: pieces := by
  obtain rfl | ⟨line, c, rfl⟩ := line.eq_nil_or_concat'
  · exact absurd rfl hne
  · rw [List.length_append, List.length_singleton] at hlen
    rw [split, List.append_assoc, splitFrom_append _ _ _
      (fun d hd => h d (List.mem_append_left _ hd)) (by simp; omega), List.nil_append,
      List.singleton_append, splitFrom]
    split
    next => exact ⟨[], _, by rw [List.append_nil]⟩
    next => exact exists_splitFrom s _ (by simp)

/-- An end of line stands last only. -/
theorem dropLast_splitFrom : ∀ (text cur : List α), (∀ c ∈ cur, isEnd c = false) →
    ∀ piece ∈ splitFrom isEnd limit text cur, ∀ c ∈ piece.dropLast, isEnd c = false
  | [], cur, hcur, piece, hp, c, hc => by
    cases cur with
    | nil => simp [splitFrom] at hp
    | cons d cur =>
      simp only [splitFrom, List.mem_singleton] at hp
      exact hcur c (hp ▸ List.dropLast_subset _ hc)
  | d :: text, cur, hcur, piece, hp, c, hc => by
    rw [splitFrom] at hp
    split at hp
    next =>
      rcases List.mem_cons.1 hp with rfl | hp
      · rw [List.dropLast_concat] at hc
        exact hcur c hc
      · exact dropLast_splitFrom text [] (by simp) piece hp c hc
    next hd =>
      refine dropLast_splitFrom text (cur ++ [d]) (fun x hx => ?_) piece hp c hc
      rcases List.mem_append.1 hx with hx | hx
      · exact hcur x hx
      · rw [List.mem_singleton.1 hx]
        simpa using (not_or.1 hd).1

theorem dropLast_split (text : List α) : ∀ piece ∈ split isEnd limit text,
    ∀ c ∈ piece.dropLast, isEnd c = false :=
  dropLast_splitFrom text [] (by simp)

theorem mem_of_mem_split {text piece : List α} (h : piece ∈ split isEnd limit text) {c : α}
    (hc : c ∈ piece) : c ∈ text := by
  have hflat : (split isEnd limit text).flatten = text := flatten_split text
  rw [← hflat]
  exact List.mem_flatten.2 ⟨piece, h, hc⟩

/-- Pieces that need a mark are no more than the marks. -/
theorem countP_le_countP_flatten {isMark : α → Bool} {needs : List α → Bool}
    (h : ∀ piece, needs piece = true → 0 < piece.countP isMark) :
    ∀ pieces : List (List α), pieces.countP needs ≤ pieces.flatten.countP isMark := by
  intro pieces
  induction pieces with
  | nil => simp
  | cons piece pieces ih =>
    rw [List.countP_cons, List.flatten_cons, List.countP_append]
    split
    next hn =>
      have := h piece hn
      omega
    next => omega

end Lib.BoundedLines
