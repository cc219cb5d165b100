import Mathlib

/-!
# Runs of a labelled step function

A system is a partial step function `step : σ → α → Option σ`: `step s a = none` says that the
action `a` is not enabled in `s`.  A run is the list of its actions; it ends early at an action
that is not enabled.

* `Always step P s as` — `P` holds of every state the run `as` reaches from `s`, the first and
  the last included.
* `AllSteps step C s as` — every step the run takes meets the condition `C`, a condition on the
  state before the step and on its action.

The rules: `Always.of_inv` is the invariant rule (an invariant kept by every step that meets `C`
holds along every run whose steps all meet `C`), `Always.iff_of_inv` its two-sided form.
-/

set_option autoImplicit false

namespace Lib

universe u v
variable {σ : Type u} {α : Type v}

/-- `P` holds of every state along the run. -/
def Always (step : σ → α → Option σ) (P : σ → Prop) : σ → List α → Prop
  | s, [] => P s
  | s, a :: as => P s ∧ ∀ t, step s a = some t → Always step P t as

/-- Every step of the run meets `C`, read in the state before the step. -/
def AllSteps (step : σ → α → Option σ) (C : σ → α → Prop) : σ → List α → Prop
  | _, [] => True
  | s, a :: as => ∀ t, step s a = some t → C s a ∧ AllSteps step C t as

/-- A run over a decidable state property can be checked by evaluation. -/
instance decidableAlways (step : σ → α → Option σ) (P : σ → Prop) [DecidablePred P] :
    (s : σ) → (as : List α) → Decidable (Always step P s as)
  | s, [] => inferInstanceAs (Decidable (P s))
  | s, a :: as =>
    match h : step s a with
    | none => decidable_of_iff (P s) ⟨fun hp => ⟨hp, fun t ht => by rw [h] at ht; cases ht⟩, (·.1)⟩
    | some t =>
      have := decidableAlways step P t as
      decidable_of_iff (P s ∧ Always step P t as)
        ⟨fun hp => ⟨hp.1, fun u hu => by rw [h] at hu; cases hu; exact hp.2⟩,
         fun hp => ⟨hp.1, hp.2 t h⟩⟩

/-- A condition on the steps of a run can be checked by evaluation too. -/
instance decidableAllSteps (step : σ → α → Option σ) (C : σ → α → Prop)
    [∀ s a, Decidable (C s a)] : (s : σ) → (as : List α) → Decidable (AllSteps step C s as)
  | _, [] => isTrue trivial
  | s, a :: as =>
    match h : step s a with
    | none => isTrue fun t ht => by rw [h] at ht; cases ht
    | some t =>
      have := decidableAllSteps step C t as
      decidable_of_iff (C s a ∧ AllSteps step C t as)
        ⟨fun hp u hu => by rw [h] at hu; cases hu; exact hp, fun hp => hp t h⟩

variable {step : σ → α → Option σ} {P I : σ → Prop} {C : σ → α → Prop}

theorem Always.head {s : σ} {as : List α} (h : Always step P s as) : P s := by
  cases as with
  | nil => exact h
  | cons a as => exact h.1

/-- **Invariant rule.** An invariant that every step meeting `C` keeps holds along every run
    whose steps all meet `C`, and so does all it implies. -/
theorem Always.of_inv (hstep : ∀ s a t, I s → C s a → step s a = some t → I t)
    (himp : ∀ s, I s → P s) : ∀ {s : σ} {as : List α}, I s → AllSteps step C s as →
      Always step P s as
  | s, [], hs, _ => himp s hs
  | s, a :: _, hs, hc =>
    ⟨himp s hs, fun t ht =>
      Always.of_inv hstep himp (hstep s a t hs (hc t ht).1 ht) (hc t ht).2⟩

/-- The invariant rule without a condition on the steps. -/
theorem Always.of_inv' (hstep : ∀ s a t, I s → step s a = some t → I t) (himp : ∀ s, I s → P s) :
    ∀ {s : σ} {as : List α}, I s → Always step P s as
  | s, [], hs => himp s hs
  | s, a :: _, hs =>
    ⟨himp s hs, fun t ht => Always.of_inv' hstep himp (hstep s a t hs ht)⟩

/-- **Two-sided invariant rule.** If steps that meet `C` keep the invariant, the invariant gives
    `P`, and a step to a state where `P` holds met `C`, then `P` holds along a run exactly when
    all its steps meet `C`. -/
theorem Always.iff_of_inv (hstep : ∀ s a t, I s → C s a → step s a = some t → I t)
    (himp : ∀ s, I s → P s) (hconv : ∀ s a t, I s → step s a = some t → P t → C s a) :
    ∀ {s : σ} {as : List α}, I s → (Always step P s as ↔ AllSteps step C s as)
  | s, [], hs => ⟨fun _ => trivial, fun _ => himp s hs⟩
  | s, a :: as, hs => by
    refine ⟨fun h t ht => ?_, Always.of_inv hstep himp hs⟩
    have hC : C s a := hconv s a t hs ht (h.2 t ht).head
    exact ⟨hC, (Always.iff_of_inv hstep himp hconv (hstep s a t hs hC ht)).1 (h.2 t ht)⟩

/-- The two-sided rule for runs of actions that have a property of their own. -/
theorem Always.iff_of_inv_on {D : α → Prop}
    (hstep : ∀ s a t, D a → I s → C s a → step s a = some t → I t) (himp : ∀ s, I s → P s)
    (hconv : ∀ s a t, D a → I s → step s a = some t → P t → C s a) :
    ∀ {s : σ} {as : List α}, I s → (∀ a ∈ as, D a) → (Always step P s as ↔ AllSteps step C s as)
  | s, [], hs, _ => ⟨fun _ => trivial, fun _ => himp s hs⟩
  | s, a :: as, hs, hD => by
    have hDa : D a := hD a (List.mem_cons_self ..)
    have htail : ∀ b ∈ as, D b := fun b hb => hD b (List.mem_cons_of_mem a hb)
    have hrec : ∀ t, step s a = some t → C s a →
        (Always step P t as ↔ AllSteps step C t as) := fun t ht hC =>
      Always.iff_of_inv_on hstep himp hconv (hstep s a t hDa hs hC ht) htail
    constructor
    · intro h t ht
      have hC : C s a := hconv s a t hDa hs ht (h.2 t ht).head
      exact ⟨hC, (hrec t ht hC).1 (h.2 t ht)⟩
    · exact fun h => ⟨himp s hs, fun t ht => (hrec t ht (h t ht).1).2 (h t ht).2⟩

/-- What an invariant and the condition of each step give for that step holds of all steps. -/
theorem AllSteps.of_inv {D : σ → α → Prop} (hstep : ∀ s a t, I s → C s a → step s a = some t → I t)
    (himp : ∀ s a t, I s → C s a → step s a = some t → D s a) :
    ∀ {s : σ} {as : List α}, I s → AllSteps step C s as → AllSteps step D s as
  | _, [], _, _ => trivial
  | s, a :: _, hs, hc => fun t ht =>
    ⟨himp s a t hs (hc t ht).1 ht,
      AllSteps.of_inv hstep himp (hstep s a t hs (hc t ht).1 ht) (hc t ht).2⟩

/-- A condition on the actions alone holds of all steps if it holds of every action. -/
theorem AllSteps.of_forall {D : α → Prop} : ∀ {s : σ} {as : List α}, (∀ a ∈ as, D a) →
    AllSteps step (fun _ a => D a) s as
  | _, [], _ => trivial
  | _, a :: _, h => fun _ _ =>
    ⟨h a (List.mem_cons_self ..), AllSteps.of_forall fun b hb => h b (List.mem_cons_of_mem a hb)⟩

/-- A condition on the actions that holds of every action joins one on the steps. -/
theorem AllSteps.and_forall {D : α → Prop} : ∀ {s : σ} {as : List α}, (∀ a ∈ as, D a) →
    AllSteps step C s as → AllSteps step (fun s a => D a ∧ C s a) s as
  | _, [], _, _ => trivial
  | _, a :: _, h, hc => fun t ht =>
    ⟨⟨h a (List.mem_cons_self ..), (hc t ht).1⟩,
      AllSteps.and_forall (fun b hb => h b (List.mem_cons_of_mem a hb)) (hc t ht).2⟩

/-- Conditions that agree at every step that is taken agree along every run. -/
theorem AllSteps.congr {D : σ → α → Prop} (h : ∀ s a t, step s a = some t → (C s a ↔ D s a)) :
    ∀ {s : σ} {as : List α}, AllSteps step C s as ↔ AllSteps step D s as
  | _, [] => Iff.rfl
  | s, a :: _ =>
    forall_congr' fun t => forall_congr' fun ht => and_congr (h s a t ht) (AllSteps.congr h)

/-! ## The state a run ends in -/

/-- The state behind all actions of a run, if they are all enabled. -/
def runTo (step : σ → α → Option σ) : σ → List α → Option σ
  | s, [] => some s
  | s, a :: as => (step s a).bind fun t => runTo step t as

theorem runTo_append (s : σ) (as bs : List α) :
    runTo step s (as ++ bs) = (runTo step s as).bind fun t => runTo step t bs := by
  induction as generalizing s with
  | nil => rfl
  | cons a as ih =>
    simp only [List.cons_append, runTo, ih]
    cases step s a <;> rfl

theorem Always.runTo {s t : σ} {as : List α} (h : Always step P s as)
    (ht : Lib.runTo step s as = some t) : P t := by
  induction as generalizing s with
  | nil =>
    cases ht
    exact h
  | cons a as ih =>
    obtain ⟨u, hu, hut⟩ := Option.bind_eq_some_iff.1 ht
    exact ih (h.2 u hu) hut

/-- **Termination rule.** If from every state of the invariant that is not final some action is
    enabled, keeps the invariant and lowers the measure, a run leads to a final state. -/
theorem exists_runTo_of_measure {F : σ → Prop} (rank : σ → Nat)
    (h : ∀ s, I s → ¬ F s → ∃ a t, step s a = some t ∧ I t ∧ rank t < rank s) {s : σ} (hs : I s) :
    ∃ as t, Lib.runTo step s as = some t ∧ I t ∧ F t := by
  by_cases hF : F s
  · exact ⟨[], s, rfl, hs, hF⟩
  · obtain ⟨a, t, hstep, ht, hlt⟩ := h s hs hF
    obtain ⟨as, u, hrun, hu⟩ := exists_runTo_of_measure rank h ht
    exact ⟨a :: as, u, by rw [Lib.runTo, hstep]; exact hrun, hu⟩
termination_by rank s

/-- A property holds along a run exactly when it holds where each of its beginnings ends. -/
theorem always_iff_initial {s : σ} {as : List α} : Always step P s as ↔
    ∀ pre, pre <+: as → ∀ t, Lib.runTo step s pre = some t → P t := by
  induction as generalizing s with
  | nil =>
    constructor
    · intro h pre hpre t ht
      rw [List.prefix_nil.1 hpre] at ht
      cases ht
      exact h
    · intro h
      exact h [] List.prefix_rfl s rfl
  | cons a as ih =>
    constructor
    · intro h pre hpre t ht
      cases pre with
      | nil =>
        cases ht
        exact h.1
      | cons b pre =>
        obtain ⟨rfl, htail⟩ := List.cons_prefix_cons.1 hpre
        obtain ⟨u, hu, hut⟩ := Option.bind_eq_some_iff.1 ht
        exact ih.1 (h.2 u hu) pre htail t hut
    · intro h
      refine ⟨h [] List.nil_prefix s rfl, fun u hu => ih.2 fun pre hpre t ht => ?_⟩
      apply h (a :: pre) (List.cons_prefix_cons.2 ⟨rfl, hpre⟩) t
      show (step s a).bind _ = some t
      rw [hu]
      exact ht

end Lib
