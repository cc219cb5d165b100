import Mathlib

/-!
# The middle of a sorted list

The element in the middle of a list when it is sorted, the upper one of two.  It is at most `c`
exactly when more than half of the elements are.

* `Majority` — more than half of a list has a property; two majorities meet.
* `middle_le_iff`, `le_middle_of_majority` — the middle by a majority on one side.
-/

set_option autoImplicit false

namespace Lib.Median

universe u v
variable {α : Type u} {β : Type v}

/-! ## Majorities -/

/-- More than half of the list. -/
def Majority (p : α → Prop) [DecidablePred p] (l : List α) : Prop := l.length < 2 * l.countP p

theorem Majority.mono {p q : α → Prop} [DecidablePred p] [DecidablePred q] {l : List α}
    (h : Majority p l) (hpq : ∀ a ∈ l, p a → q a) : Majority q l := by
  have hle : l.countP p ≤ l.countP q := by
    apply List.countP_mono_left
    simpa using hpq
  exact lt_of_lt_of_le h (Nat.mul_le_mul_left 2 hle)

theorem majority_map {p : β → Prop} [DecidablePred p] {f : α → β} {l : List α} :
    Majority p (l.map f) ↔ Majority (fun a => p (f a)) l := by
  rw [Majority, Majority, List.length_map, List.countP_map]
  rfl

/-- **Two majorities have an element in common.** -/
theorem Majority.exists_both {p q : α → Prop} [DecidablePred p] [DecidablePred q] {l : List α}
    (hp : Majority p l) (hq : Majority q l) : ∃ a ∈ l, p a ∧ q a := by
  by_contra hnone
  push Not at hnone
  have hle : l.countP q ≤ l.countP fun a => !decide (p a) := by
    apply List.countP_mono_left
    intro a ha hqa
    simpa using fun hpa => hnone a ha hpa (by simpa using hqa)
  have hsum := List.length_eq_countP_add_countP (fun a => decide (p a)) (l := l)
  simp only [Bool.not_eq_true, Bool.decide_eq_false] at hsum
  unfold Majority at hp hq
  omega

/-! ## The middle -/

variable {K : Type u} [LinearOrder K]

/-- The middle of the sorted list. -/
def middle? (l : List K) : Option K := (l.insertionSort (· ≤ ·))[l.length / 2]?

/-- An element of a sorted list is at most `c` exactly when more elements are than stand before
    it. -/
theorem getElem_le_iff {c : K} : ∀ {l : List K} {i : ℕ} (h : i < l.length), l.Pairwise (· ≤ ·) →
    (l[i] ≤ c ↔ i < l.countP (· ≤ c))
  | x :: l, i, h, hsorted => by
    obtain ⟨hx, hl⟩ := List.pairwise_cons.1 hsorted
    by_cases hc : x ≤ c
    · rw [List.countP_cons_of_pos (by simpa using hc)]
      cases i with
      | zero => simpa using hc
      | succ i =>
        rw [List.getElem_cons_succ, getElem_le_iff (Nat.lt_of_succ_lt_succ h) hl]
        omega
    · -- the first element is too large, and so are the ones behind it
      have hnone : ∀ y ∈ x :: l, ¬y ≤ c := by
        intro y hy hyc
        rcases List.mem_cons.1 hy with rfl | hy
        · exact hc hyc
        · exact hc ((hx y hy).trans hyc)
      have hzero : (x :: l).countP (· ≤ c) = 0 := by
        rw [List.countP_eq_zero]
        simpa using hnone
      rw [hzero]
      simp only [Nat.not_lt_zero, iff_false]
      exact hnone _ (List.getElem_mem h)

theorem exists_middle {l : List K} (h : l ≠ []) :
    ∃ hlt : l.length / 2 < (l.insertionSort (· ≤ ·)).length,
      middle? l = some (l.insertionSort (· ≤ ·))[l.length / 2] := by
  have hpos := List.length_pos_of_ne_nil h
  have hlt : l.length / 2 < (l.insertionSort (· ≤ ·)).length := by
    rw [List.length_insertionSort]
    omega
  exact ⟨hlt, List.getElem?_eq_getElem hlt⟩

/-- **The middle is at most `c` exactly when a majority is.** -/
theorem middle_le_iff {l : List K} {m c : K} (h : middle? l = some m) :
    m ≤ c ↔ Majority (· ≤ c) l := by
  have hne : l ≠ [] := by
    rintro rfl
    cases h
  obtain ⟨hlt, hmiddle⟩ := exists_middle hne
  have hm : m = (l.insertionSort (· ≤ ·))[l.length / 2] := Option.some_injective _ (h.symm.trans hmiddle)
  rw [hm, getElem_le_iff hlt (List.pairwise_insertionSort _ l),
    (List.perm_insertionSort (· ≤ ·) l).countP_eq, Majority]
  omega

theorem le_middle_of_majority {l : List K} {m c : K} (h : middle? l = some m)
    (hmaj : Majority (c ≤ ·) l) : c ≤ m := by
  obtain ⟨a, -, hle, hge⟩ := ((middle_le_iff h).1 le_rfl).exists_both hmaj
  exact hge.trans hle

end Lib.Median
