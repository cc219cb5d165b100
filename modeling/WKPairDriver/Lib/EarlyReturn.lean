import Mathlib

/-!
# Functions with early returns

The body of a function on a state is a sequence of blocks.  A block of type `σ → Except σ σ` either
returns early in a state (`.error`) or falls through to the next block in one (`.ok`); blocks are
put one behind the other by `do`, and `Lib.finish` is the state in which the caller finds itself.

* `Leads x early next` — where a block ends, by the way it ends.
* `Leads.bind`, `Leads.map`, `Leads.finish` — the rules for a sequence, for a block that never
  returns early, and for the whole function.
-/

set_option autoImplicit false

namespace Lib

universe u
variable {σ : Type u}

/-- The state behind a function, however it ended. -/
def finish : Except σ σ → σ
  | .error s => s
  | .ok s => s

/-- Return here when `b` holds. -/
def returnIf (b : Bool) (s : σ) : Except σ σ := if b then .error s else .ok s

/-- An early return is in a state of `early`, a fall-through in one of `next`. -/
def Leads (x : Except σ σ) (early next : σ → Prop) : Prop :=
  match x with
  | .error s => early s
  | .ok s => next s

@[simp] theorem leads_ok (s : σ) (early next : σ → Prop) :
    Leads (.ok s) early next ↔ next s := Iff.rfl

@[simp] theorem leads_error (s : σ) (early next : σ → Prop) :
    Leads (.error s) early next ↔ early s := Iff.rfl

@[simp] theorem finish_ok (s : σ) : finish (.ok s) = s := rfl

@[simp] theorem finish_error (s : σ) : finish (.error s) = s := rfl

variable {early next next' : σ → Prop} {x : Except σ σ} {f : σ → Except σ σ}

/-- **Sequence rule.** -/
theorem Leads.bind (hx : Leads x early next) (hf : ∀ s, next s → Leads (f s) early next') :
    Leads (x >>= f) early next' := by
  cases x with
  | error s => exact hx
  | ok s => exact hf s hx

theorem Leads.returnIf {b : Bool} {s : σ} (hearly : b = true → early s)
    (hnext : b = false → next s) : Leads (returnIf b s) early next := by
  cases b with
  | false => exact hnext rfl
  | true => exact hearly rfl

theorem Leads.mono {early' : σ → Prop} (hx : Leads x early next)
    (hearly : ∀ s, early s → early' s) (hnext : ∀ s, next s → next' s) :
    Leads x early' next' := by
  cases x with
  | error s => exact hearly s hx
  | ok s => exact hnext s hx

/-- **The whole function**, when both ends are the same to the caller. -/
theorem Leads.finish {P : σ → Prop} (hx : Leads x P P) : P (finish x) := by
  cases x with
  | error s => exact hx
  | ok s => exact hx

end Lib
