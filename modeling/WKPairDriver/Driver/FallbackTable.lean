import Mathlib
import WKPairDriver.Lib.Bytes

/-!
# The tracking-system fallback table

A flat array of `MaxFallbackSlots` slots, scanned from the front.  A slot keeps the name of its
tracking system in a NUL-padded buffer.

* `findFallbackSlot`, `acquireFallbackSlot` — `FindFallbackSlot`, `AcquireFallbackSlot`.
* `findFallbackSlot_acquire` — an acquired slot is the one a lookup of its name finds.
-/

set_option autoImplicit false

namespace WKPairDriver.Driver

open Lib.Bytes

def MaxTrackingSystemNameLen : ℕ := 32

def MaxFallbackSlots : ℕ := 8

/-- A `char[MaxTrackingSystemNameLen]`. -/
abbrev SystemName := Fin MaxTrackingSystemNameLen → UInt8

/-- A name copied into a zeroed buffer. -/
def nulPadded (name : List UInt8) : SystemName := fun i => name.getD i 0

/-- The name in a buffer, which a name that fills it does not terminate. -/
def nameOf (buf : SystemName) : List UInt8 := cstr (List.ofFn buf)

/-- A slot; `F` is the type of what it holds for its system. -/
structure FallbackSlot (F : Type) where
  system_name : SystemName
  tf : F
  occupied : Bool

abbrev FallbackTable (F : Type) := Fin MaxFallbackSlots → FallbackSlot F

variable {F : Type}

/-- The comparison of the scan: the first `len` bytes, and a NUL behind them if there is room. -/
def FallbackSlot.isNamed (slot : FallbackSlot F) (name : List UInt8) : Bool :=
  slot.occupied &&
    decide (∀ i : Fin MaxTrackingSystemNameLen, i < name.length →
      slot.system_name i = name.getD i 0) &&
    if h : name.length < MaxTrackingSystemNameLen then slot.system_name ⟨name.length, h⟩ == 0
    else true

def findFallbackSlot (table : FallbackTable F) (name : List UInt8) :
    Option (Fin MaxFallbackSlots) :=
  if name.length = 0 ∨ name.length > MaxTrackingSystemNameLen then none
  else (List.finRange MaxFallbackSlots).find? fun i => (table i).isNamed name

/-- `empty` is `FallbackTransform{}`. -/
def acquireFallbackSlot (empty : F) (table : FallbackTable F) (name : List UInt8) :
    Option (FallbackTable F × Fin MaxFallbackSlots) :=
  if name.length = 0 ∨ name.length > MaxTrackingSystemNameLen then none
  else
    match findFallbackSlot table name with
    | some i => some (table, i)
    | none =>
      ((List.finRange MaxFallbackSlots).find? fun i => !(table i).occupied).map fun i =>
        (Function.update table i ⟨nulPadded name, empty, true⟩, i)

/-! ## A lookup finds what was acquired -/

/-- A slot a name was copied into has that name. -/
theorem isNamed_nulPadded (name : List UInt8) (tf : F) :
    (FallbackSlot.mk (nulPadded name) tf true).isNamed name = true := by
  simp only [FallbackSlot.isNamed, nulPadded, Bool.true_and, Bool.and_eq_true, decide_eq_true_eq,
    implies_true, true_and]
  split
  · simp
  · rfl

/-- Where exactly one slot has the name, it is the one found. -/
theorem findFallbackSlot_eq_some {table : FallbackTable F} {name : List UInt8}
    {i : Fin MaxFallbackSlots} (hlen : ¬ (name.length = 0 ∨ name.length > MaxTrackingSystemNameLen))
    (h : ∀ j, (table j).isNamed name = true ↔ j = i) : findFallbackSlot table name = some i := by
  rw [findFallbackSlot, if_neg hlen]
  cases hfind : (List.finRange MaxFallbackSlots).find? fun j => (table j).isNamed name with
  | none => exact absurd ((h i).2 rfl) (List.find?_eq_none.1 hfind i (List.mem_finRange i))
  | some j =>
    have hj := List.find?_some hfind
    exact congrArg some ((h j).1 hj)

/-- **An acquired slot is the one a lookup of its name finds.** -/
theorem findFallbackSlot_acquire {empty : F} {table table' : FallbackTable F} {name : List UInt8}
    {i : Fin MaxFallbackSlots} (h : acquireFallbackSlot empty table name = some (table', i)) :
    findFallbackSlot table' name = some i := by
  unfold acquireFallbackSlot at h
  split at h
  · cases h
  · rename_i hlen
    split at h
    · rename_i j hj
      cases h
      exact hj
    · rename_i hnone
      rw [findFallbackSlot, if_neg hlen, List.find?_eq_none] at hnone
      obtain ⟨j, -, hj⟩ := Option.map_eq_some_iff.1 h
      cases hj
      -- no slot had the name before, so only the new one has it
      apply findFallbackSlot_eq_some hlen
      intro k
      by_cases hk : k = i
      · subst hk
        simp [isNamed_nulPadded]
      · simpa [hk] using hnone k (List.mem_finRange k)

end WKPairDriver.Driver
