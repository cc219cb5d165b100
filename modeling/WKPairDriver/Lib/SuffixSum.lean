import Mathlib

/-!
# Suffix sums

A cumulative-sum statistic is a recurrence clamped at zero.  It is the largest sum of a suffix of
the terms, the empty one among them.

* `isGreatest_clamped` — the clamped recurrence and the suffix sums.
* `lt_clamped_iff` — it is above a threshold exactly when some suffix sum is.
-/

set_option autoImplicit false

namespace Lib.SuffixSum

variable {K : Type*} [AddCommGroup K] [LinearOrder K]

/-- The sums of the suffixes; that of the empty one is zero. -/
def suffixSums (ds : List K) : Set K := {s | ∃ t, t <:+ ds ∧ t.sum = s}

/-- The recurrence, from zero. -/
def clamped (ds : List K) : K := ds.foldl (fun s d => max 0 (s + d)) 0

variable {ds : List K} {d : K}

@[simp] theorem clamped_nil : clamped ([] : List K) = 0 := rfl

@[simp] theorem clamped_snoc (ds : List K) (d : K) :
    clamped (ds ++ [d]) = max 0 (clamped ds + d) := by
  rw [clamped, List.foldl_concat]
  rfl

theorem zero_mem_suffixSums (ds : List K) : 0 ∈ suffixSums ds :=
  ⟨[], List.nil_suffix, List.sum_nil⟩

/-- A suffix of a longer list is empty, or has the last element and a suffix of the others. -/
theorem mem_suffixSums_snoc {s : K} :
    s ∈ suffixSums (ds ++ [d]) ↔ s = 0 ∨ ∃ r ∈ suffixSums ds, r + d = s := by
  constructor
  · rintro ⟨t, ht, rfl⟩
    rcases List.suffix_concat_iff.1 ht with rfl | ⟨u, rfl, hu⟩
    · exact .inl List.sum_nil
    · exact .inr ⟨u.sum, ⟨u, hu, rfl⟩, by rw [List.sum_append, List.sum_singleton]⟩
  · rintro (rfl | ⟨r, ⟨u, hu, rfl⟩, rfl⟩)
    · exact zero_mem_suffixSums _
    · exact ⟨u ++ [d], List.suffix_concat_iff.2 (.inr ⟨u, rfl, hu⟩),
        by rw [List.sum_append, List.sum_singleton]⟩

variable [IsOrderedAddMonoid K]

/-- **The clamped recurrence is the largest suffix sum.** -/
theorem isGreatest_clamped (ds : List K) : IsGreatest (suffixSums ds) (clamped ds) := by
  induction ds using List.reverseRecOn with
  | nil =>
    refine ⟨zero_mem_suffixSums [], ?_⟩
    rintro _ ⟨t, ht, rfl⟩
    rw [List.suffix_nil.1 ht, List.sum_nil, clamped_nil]
  | append_singleton ds d ih =>
    rw [clamped_snoc]
    constructor
    · rcases max_choice 0 (clamped ds + d) with h | h
      · rw [h]
        exact zero_mem_suffixSums _
      · rw [h]
        exact mem_suffixSums_snoc.2 (.inr ⟨_, ih.1, rfl⟩)
    · intro s hs
      rcases mem_suffixSums_snoc.1 hs with rfl | ⟨r, hr, rfl⟩
      · exact le_max_left _ _
      · exact le_max_of_le_right (add_le_add_left (ih.2 hr) d)

theorem lt_clamped_iff {b : K} : b < clamped ds ↔ ∃ s ∈ suffixSums ds, b < s := by
  constructor
  · intro h
    exact ⟨_, (isGreatest_clamped ds).1, h⟩
  · rintro ⟨s, hs, hb⟩
    exact hb.trans_le ((isGreatest_clamped ds).2 hs)

/-- Terms that are not positive have no positive suffix sum. -/
theorem clamped_of_nonpos (h : ∀ d ∈ ds, d ≤ 0) : clamped ds = 0 := by
  induction ds using List.reverseRecOn with
  | nil => rfl
  | append_singleton ds d ih =>
    rw [clamped_snoc, ih fun e he => h e (List.mem_append_left _ he), zero_add]
    exact max_eq_left (h d (by simp))

end Lib.SuffixSum
