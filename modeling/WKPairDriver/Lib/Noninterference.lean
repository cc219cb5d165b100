import WKPairDriver.Lib.Run

/-!
# Noninterference

A machine takes inputs one after the other, and an observer sees some of what it puts out.  The
observer has inputs of its own; the others are hidden from it.

* `observe` — what the observer sees of a run.
* `observe_eq_purged` — the unwinding rule: a relation that visible inputs keep with equal outputs,
  and that hidden inputs keep on one side, relates a run to the run without its hidden inputs.
* `observe_eq_of_purge_eq` — runs with the same visible inputs look the same.
-/

set_option autoImplicit false

namespace Lib

universe u v w x
variable {σ : Type u} {τ : Type v} {α : Type w} {ω : Type x}

/-- What the observer sees of a run, in the order of the inputs. -/
def observe (step : σ → α → σ) (out : σ → α → Option ω) : σ → List α → List ω
  | _, [] => []
  | s, a :: as => (out s a).toList ++ observe step out (step s a) as

/-- A total step function as one of a run. -/
def total (step : σ → α → σ) (s : σ) (a : α) : Option σ := some (step s a)

variable {step₁ : σ → α → σ} (step₂ : τ → α → τ) {out₁ : σ → α → Option ω}
  (out₂ : τ → α → Option ω) {visible : α → Bool} {C : σ → α → Prop} (R : σ → τ → Prop)

/-- A machine that keeps more than it needs looks the same. -/
theorem observe_of_projection (π : σ → τ) (hstep : ∀ s a, π (step₁ s a) = step₂ (π s) a)
    (hout : ∀ s a, out₁ s a = out₂ (π s) a) : ∀ (s : σ) (as : List α),
    observe step₁ out₁ s as = observe step₂ out₂ (π s) as
  | _, [] => rfl
  | s, a :: as => by
    rw [observe, observe, hout, observe_of_projection π hstep hout, hstep]

/-- **Unwinding rule.** -/
theorem observe_eq_purged
    (hvisible : ∀ s t a, R s t → C s a → visible a = true →
      out₁ s a = out₂ t a ∧ R (step₁ s a) (step₂ t a))
    (hhidden : ∀ s t a, R s t → C s a → visible a = false → out₁ s a = none ∧ R (step₁ s a) t) :
    ∀ {s : σ} {t : τ} {as : List α}, R s t → AllSteps (total step₁) C s as →
      observe step₁ out₁ s as = observe step₂ out₂ t (as.filter visible)
  | _, _, [], _, _ => rfl
  | s, t, a :: as, hR, hC => by
    obtain ⟨ha, hC⟩ := hC _ rfl
    cases hvis : visible a with
    | true =>
      obtain ⟨hout, hR⟩ := hvisible s t a hR ha hvis
      rw [List.filter_cons_of_pos hvis, observe, observe, hout,
        observe_eq_purged hvisible hhidden hR hC]
    | false =>
      obtain ⟨hout, hR⟩ := hhidden s t a hR ha hvis
      rw [List.filter_cons_of_neg (by rw [hvis]; decide), observe, hout, Option.toList_none,
        List.nil_append, observe_eq_purged hvisible hhidden hR hC]

/-- Two runs with the same visible inputs look the same. -/
theorem observe_eq_of_purge_eq
    (hvisible : ∀ s t a, R s t → C s a → visible a = true →
      out₁ s a = out₂ t a ∧ R (step₁ s a) (step₂ t a))
    (hhidden : ∀ s t a, R s t → C s a → visible a = false → out₁ s a = none ∧ R (step₁ s a) t)
    {s : σ} {t : τ} {as bs : List α} (hR : R s t) (has : AllSteps (total step₁) C s as)
    (hbs : AllSteps (total step₁) C s bs) (h : as.filter visible = bs.filter visible) :
    observe step₁ out₁ s as = observe step₁ out₁ s bs := by
  rw [observe_eq_purged step₂ out₂ R hvisible hhidden hR has,
    observe_eq_purged step₂ out₂ R hvisible hhidden hR hbs, h]

end Lib
