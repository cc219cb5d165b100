import Mathlib

/-!
# Runs with their history

A function that is called over and over on a state: `Lib.steps` lists the calls of a run, each with
the state it found, so that a property may speak about the calls before another one.

* `Lib.steps_inv` — the invariant rule where the invariant also reads the calls made so far.
* `Lib.Streak` — calls that meet a condition without a break.
-/

set_option autoImplicit false

namespace Lib

universe u v
variable {σ : Type u} {α : Type v} (next : σ → α → σ)

/-- The calls of a run with the states they found, the oldest first. -/
def steps : σ → List α → List (σ × α)
  | _, [] => []
  | s, a :: as => (s, a) :: steps (next s a) as

/-- The call `x` of the run comes right after the calls `past`. -/
def CallAfter (s : σ) (as : List α) (past : List (σ × α)) (x : σ × α) : Prop :=
  past ++ [x] <+: steps next s as

variable {next} {s : σ} {as : List α} {past : List (σ × α)} {x : σ × α}

theorem CallAfter.mem (h : CallAfter next s as past x) : x ∈ steps next s as :=
  h.subset (by simp)

@[simp] theorem steps_snd : (steps next s as).map Prod.snd = as := by
  induction as generalizing s with
  | nil => rfl
  | cons a as ih => rw [steps, List.map_cons, ih]

theorem steps_append (bs : List α) :
    steps next s (as ++ bs) = steps next s as ++ steps next (as.foldl next s) bs := by
  induction as generalizing s with
  | nil => rfl
  | cons a as ih => rw [List.cons_append, steps, ih, steps, List.cons_append, List.foldl_cons]

/-- What holds of the arguments of a run holds of its calls. -/
theorem steps_forall {P : α → Prop} (h : ∀ a ∈ as, P a) : ∀ y ∈ steps next s as, P y.2 := by
  have hsnd := @steps_snd _ _ next s as
  rw [← hsnd] at h
  exact List.forall_mem_map.1 h

/-- So does what holds between each argument and the later ones. -/
theorem CallAfter.pairwise {r : α → α → Prop} (h : CallAfter next s as past x)
    (has : as.Pairwise r) : (past ++ [x]).Pairwise fun y z => r y.2 z.2 := by
  have hsnd := @steps_snd _ _ next s as
  rw [← hsnd, List.pairwise_map] at has
  exact has.sublist h.sublist

/-- The calls of a run behind the calls `older`. -/
theorem steps_inv_from {I : List (σ × α) → σ → Prop} {C : σ × α → Prop}
    (hstep : ∀ past x, I past x.1 → C x → I (past ++ [x]) (next x.1 x.2))
    {older : List (σ × α)} (h0 : I older s) (hC : ∀ y ∈ steps next s as, C y)
    (hx : CallAfter next s as past x) : I (older ++ past) x.1 := by
  induction as generalizing s older past with
  | nil => simp [CallAfter, steps] at hx
  | cons a as ih =>
    obtain ⟨hhead, htail⟩ := List.forall_mem_cons.1 hC
    cases past with
    | nil =>
      have hx' : x = (s, a) := by
        have hcons := hx
        rw [CallAfter, steps, List.nil_append, List.cons_prefix_cons] at hcons
        exact hcons.1
      rw [List.append_nil, hx']
      exact h0
    | cons y past =>
      rw [CallAfter, steps, List.cons_append, List.cons_prefix_cons] at hx
      obtain ⟨rfl, hrest⟩ := hx
      have hnext := ih (hstep older (s, a) h0 hhead) htail hrest
      rwa [List.append_assoc, List.singleton_append] at hnext

/-- **Invariant rule.**  An invariant of the calls so far and the state behind them, which every
    call that meets `C` keeps, holds before each call of a run of such calls. -/
theorem steps_inv {I : List (σ × α) → σ → Prop} {C : σ × α → Prop}
    (hstep : ∀ past x, I past x.1 → C x → I (past ++ [x]) (next x.1 x.2)) (h0 : I [] s)
    (hC : ∀ y ∈ steps next s as, C y) (hx : CallAfter next s as past x) : I past x.1 :=
  steps_inv_from hstep h0 hC hx

/-! ## A streak of calls -/

/-- The newest calls all meet `P`, back to a call `first`, for which `Q` holds as well. -/
def Streak (P Q : σ × α → Prop) (past : List (σ × α)) : Prop :=
  ∃ older first newer, past = older ++ first :: newer ∧ Q first ∧ ∀ y ∈ newer, P y

variable {P Q : σ × α → Prop}

theorem Streak.start (h : Q x) (past : List (σ × α)) : Streak P Q (past ++ [x]) :=
  ⟨past, x, [], rfl, h, by simp⟩

theorem Streak.extend (h : Streak P Q past) (hx : P x) : Streak P Q (past ++ [x]) := by
  obtain ⟨older, first, newer, rfl, hfirst, hnewer⟩ := h
  refine ⟨older, first, newer ++ [x], by simp, hfirst, fun y hy => ?_⟩
  rcases List.mem_append.1 hy with hy | hy
  · exact hnewer y hy
  · rw [List.mem_singleton.1 hy]
    exact hx

theorem Streak.mono {Q' : σ × α → Prop} (h : Streak P Q past) (hQ : ∀ y, Q y → Q' y) :
    Streak P Q' past := by
  obtain ⟨older, first, newer, heq, hfirst, hnewer⟩ := h
  exact ⟨older, first, newer, heq, hQ first hfirst, hnewer⟩

end Lib
