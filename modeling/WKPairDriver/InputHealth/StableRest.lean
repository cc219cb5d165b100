import Mathlib

/-!
# The stable-rest window

`UpdateStableRestWindow` of the learning rules decides whether an axis has been at rest for a while.
It keeps the time the current stretch of rest candidates began and the extremes of the values seen
since, and begins a new stretch at a value that makes the extremes too far apart.

* `Summarizes` — what the window says about the ticks so far: some last stretch of them are all
  candidates, began at the kept time, and lies between the kept extremes.
* `updateStableRestWindow_sound` — a tick for which the answer is true ends a stretch of candidates
  which is long enough and in which no two values are too far apart.

The values are those of any linear order, with any subtraction that is monotone in its first and
antitone in its second argument, as the rounded one of floating point is.
-/

set_option autoImplicit false

namespace WKPairDriver.InputHealth

variable {K : Type*} [LinearOrder K] [Zero K]

/-- `StableRestWindow`. -/
structure StableRestWindow (K : Type*) where
  active : Bool
  sinceUs : Nat
  minPrimary : K
  maxPrimary : K
  minPartner : K
  maxPartner : K
  deriving DecidableEq, Repr

/-- The arguments of a call. -/
structure RestTick (K : Type*) where
  candidate : Bool
  primary : K
  partner : K
  nowUs : Nat
  maxSpan : K
  minWindowUs : Nat
  deriving DecidableEq, Repr

namespace StableRestWindow

/-- `ResetStableRestWindow`. -/
def reset : StableRestWindow K := ⟨false, 0, 0, 0, 0, 0⟩

/-- A stretch begins with the tick. -/
def restart (t : RestTick K) : StableRestWindow K where
  active := true
  sinceUs := t.nowUs
  minPrimary := t.primary
  maxPrimary := t.primary
  minPartner := t.partner
  maxPartner := t.partner

/-- The extremes with the tick's values. -/
def widen (w : StableRestWindow K) (t : RestTick K) : StableRestWindow K :=
  { w with
    minPrimary := min w.minPrimary t.primary
    maxPrimary := max w.maxPrimary t.primary
    minPartner := min w.minPartner t.partner
    maxPartner := max w.maxPartner t.partner }

end StableRestWindow

open StableRestWindow

section Update

variable (sub : K → K → K)

/-- `UpdateStableRestWindow`: the window behind the call and the answer. -/
def updateStableRestWindow (w : StableRestWindow K) (t : RestTick K) : StableRestWindow K × Bool :=
  if t.candidate = false then (reset, false)
  else if w.active = false then (restart t, false)
  else
    let w' := w.widen t
    if t.maxSpan < sub w'.maxPrimary w'.minPrimary ∨ t.maxSpan < sub w'.maxPartner w'.minPartner then
      (restart t, false)
    else (w', decide (w'.sinceUs ≤ t.nowUs ∧ t.minWindowUs ≤ t.nowUs - w'.sinceUs))

/-- The window behind the calls. -/
def windowAfter (ticks : List (RestTick K)) : StableRestWindow K :=
  ticks.foldl (fun w t => (updateStableRestWindow sub w t).1) reset

/-- What an active window says about the ticks so far: they end with a stretch of candidates that
    began at the kept time and lies between the kept extremes. -/
structure Summarizes (w : StableRestWindow K) (ticks : List (RestTick K)) : Prop where
  stretch : ∃ before first run, ticks = before ++ first :: run ∧ w.sinceUs = first.nowUs ∧
    ∀ t ∈ first :: run, t.candidate = true ∧
      (w.minPrimary ≤ t.primary ∧ t.primary ≤ w.maxPrimary) ∧
      (w.minPartner ≤ t.partner ∧ t.partner ≤ w.maxPartner)

omit [Zero K] in
/-- A tick begins a stretch of its own. -/
theorem Summarizes.restart {t : RestTick K} (ht : t.candidate = true)
    (ticks : List (RestTick K)) : Summarizes (restart t) (ticks ++ [t]) where
  stretch := by
    refine ⟨ticks, t, [], rfl, rfl, fun u hu => ?_⟩
    rw [List.mem_singleton.1 hu]
    exact ⟨ht, ⟨le_rfl, le_rfl⟩, ⟨le_rfl, le_rfl⟩⟩

omit [Zero K] in
/-- A candidate continues the stretch, between the wider extremes. -/
theorem Summarizes.widen {w : StableRestWindow K} {ticks : List (RestTick K)}
    (h : Summarizes w ticks) {t : RestTick K} (ht : t.candidate = true) :
    Summarizes (w.widen t) (ticks ++ [t]) where
  stretch := by
    obtain ⟨before, first, run, rfl, hsince, hrun⟩ := h.stretch
    refine ⟨before, first, run ++ [t], by simp, hsince, fun u hu => ?_⟩
    rw [← List.cons_append, List.mem_append, List.mem_singleton] at hu
    rcases hu with hu | rfl
    · obtain ⟨hcand, ⟨hlo, hhi⟩, hlo', hhi'⟩ := hrun u hu
      exact ⟨hcand, ⟨min_le_of_left_le hlo, le_max_of_le_left hhi⟩,
        min_le_of_left_le hlo', le_max_of_le_left hhi'⟩
    · exact ⟨ht, ⟨min_le_right _ _, le_max_right _ _⟩, min_le_right _ _, le_max_right _ _⟩

/-- What one call can do to the window, and when its answer is true. -/
theorem update_cases (w : StableRestWindow K) (t : RestTick K) :
    (updateStableRestWindow sub w t = (reset, false)) ∨
    (t.candidate = true ∧ updateStableRestWindow sub w t = (restart t, false)) ∨
    (t.candidate = true ∧ w.active = true ∧ (updateStableRestWindow sub w t).1 = w.widen t ∧
      sub (w.widen t).maxPrimary (w.widen t).minPrimary ≤ t.maxSpan ∧
      sub (w.widen t).maxPartner (w.widen t).minPartner ≤ t.maxSpan ∧
      ((updateStableRestWindow sub w t).2 = true →
        w.sinceUs ≤ t.nowUs ∧ t.minWindowUs ≤ t.nowUs - w.sinceUs)) := by
  unfold updateStableRestWindow
  by_cases hcand : t.candidate = false
  · rw [if_pos hcand]
    exact .inl rfl
  · rw [if_neg hcand]
    have hcand' : t.candidate = true := by simpa using hcand
    by_cases hactive : w.active = false
    · rw [if_pos hactive]
      exact .inr (.inl ⟨hcand', rfl⟩)
    · rw [if_neg hactive]
      by_cases hspan : t.maxSpan < sub (w.widen t).maxPrimary (w.widen t).minPrimary ∨
          t.maxSpan < sub (w.widen t).maxPartner (w.widen t).minPartner
      · exact .inr (.inl ⟨hcand', if_pos hspan⟩)
      · dsimp only
        rw [if_neg hspan]
        rw [not_or, not_lt, not_lt] at hspan
        exact .inr (.inr ⟨hcand', by simpa using hactive, rfl, hspan.1, hspan.2,
          fun h => of_decide_eq_true h⟩)

/-- **The invariant:** an active window summarizes the ticks it was updated with. -/
theorem windowAfter_summarizes (ticks : List (RestTick K)) :
    (windowAfter sub ticks).active = true → Summarizes (windowAfter sub ticks) ticks := by
  induction ticks using List.reverseRecOn with
  | nil =>
    intro h
    cases h
  | append_singleton ticks t ih =>
    rw [windowAfter, List.foldl_append, List.foldl_cons, List.foldl_nil, ← windowAfter]
    rcases update_cases sub (windowAfter sub ticks) t with h | ⟨ht, h⟩ | ⟨ht, hactive, h, -⟩
    · rw [h]
      intro hreset
      cases hreset
    · rw [h]
      exact fun _ => Summarizes.restart ht ticks
    · rw [h]
      exact fun _ => (ih hactive).widen ht

/-- **A true answer ends a stretch of ticks that spans the minimum window time, all of them rest
    candidates, no two of whose primary values or partner values differ by more than the maximum
    span.** -/
theorem updateStableRestWindow_sound
    (hsub : ∀ a b c d : K, a ≤ b → d ≤ c → sub a c ≤ sub b d) (past : List (RestTick K))
    (now : RestTick K) (htrue : (updateStableRestWindow sub (windowAfter sub past) now).2 = true) :
    ∃ before first run, past ++ [now] = before ++ first :: run ∧
      first.nowUs + now.minWindowUs ≤ now.nowUs ∧
      (∀ t ∈ first :: run, t.candidate = true) ∧
      ∀ t ∈ first :: run, ∀ u ∈ first :: run,
        sub t.primary u.primary ≤ now.maxSpan ∧ sub t.partner u.partner ≤ now.maxSpan := by
  rcases update_cases sub (windowAfter sub past) now with
    h | ⟨_, h⟩ | ⟨hcand, hactive, _, hprimary, hpartner, hlong⟩
  · rw [h] at htrue
    cases htrue
  · rw [h] at htrue
    cases htrue
  · obtain ⟨before, first, run, hticks, hsince, hrun⟩ :=
      ((windowAfter_summarizes sub past hactive).widen hcand).stretch
    have htime : (windowAfter sub past).sinceUs = first.nowUs := hsince
    obtain ⟨hle, hwindow⟩ := hlong htrue
    refine ⟨before, first, run, hticks, by omega, fun t ht => (hrun t ht).1, fun t ht u hu => ?_⟩
    obtain ⟨_, ⟨_, hthi⟩, _, hthi'⟩ := hrun t ht
    obtain ⟨_, ⟨hulo, _⟩, hulo', _⟩ := hrun u hu
    exact ⟨(hsub _ _ _ _ hthi hulo).trans hprimary, (hsub _ _ _ _ hthi' hulo').trans hpartner⟩

end Update

/-- Three ticks over a second, as far apart as allowed. -/
theorem updateStableRestWindow_sound_second :
    ∃ before first run,
      [(⟨true, 75, 10, 1000000, 10, 1000000⟩ : RestTick ℤ), ⟨true, 85, 11, 1500000, 10, 1000000⟩] ++
          [⟨true, 76, 10, 2000000, 10, 1000000⟩] = before ++ first :: run ∧
        first.nowUs + 1000000 ≤ 2000000 ∧ (∀ t ∈ first :: run, t.candidate = true) ∧
        ∀ t ∈ first :: run, ∀ u ∈ first :: run,
          t.primary - u.primary ≤ 10 ∧ t.partner - u.partner ≤ 10 :=
  updateStableRestWindow_sound (fun a b : ℤ => a - b) (by intros; omega)
    [⟨true, 75, 10, 1000000, 10, 1000000⟩, ⟨true, 85, 11, 1500000, 10, 1000000⟩]
    ⟨true, 76, 10, 2000000, 10, 1000000⟩ (by decide)

end WKPairDriver.InputHealth
