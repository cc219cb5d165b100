import Mathlib

/-!
# JSON values

Values as a program holds them: an object is a map kept in the order of its keys, and looking up a
key that is not there finds `null`.

* `Object.item_set` — the value behind a key after an assignment.
* `Value.get` — the access that fails on a value of another type.
-/

set_option autoImplicit false

namespace Lib.Json

inductive Value where
  | null
  | bool (b : Bool)
  | number (x : ℚ)
  | string (s : String)
  | array (vs : List Value)
  | object (o : List (String × Value))

instance : Inhabited Value := ⟨.null⟩

/-- The entries of an object. -/
abbrev Object := List (String × Value)

namespace Object

def empty : Object := []

def find? : Object → String → Option Value
  | [], _ => none
  | (k, v) :: o, key => if key = k then some v else find? o key

/-- The value behind a key, `null` if there is none. -/
def item (o : Object) (key : String) : Value := (o.find? key).getD .null

/-- The order of the keys. -/
def before (key k : String) : Bool := decide (key < k)

def set : Object → String → Value → Object
  | [], key, v => [(key, v)]
  | (k, w) :: o, key, v =>
    if key = k then (key, v) :: o
    else if before key k then (key, v) :: (k, w) :: o
    else (k, w) :: set o key v

/-- An assignment under a condition. -/
def setIf (o : Object) (c : Bool) (key : String) (v : Value) : Object :=
  if c then o.set key v else o

def erase (o : Object) (key : String) : Object := List.filter (fun e => e.1 ≠ key) o

variable (o : Object) (key k : String) (v : Value)

theorem find?_set : (o.set key v).find? k = if k = key then some v else o.find? k := by
  induction o with
  | nil => rfl
  | cons e o ih =>
    obtain ⟨l, w⟩ := e
    by_cases hkey : key = l
    · subst hkey
      have hset : set ((key, w) :: o) key v = (key, v) :: o := if_pos rfl
      simp only [hset, find?]
      split <;> rfl
    · by_cases hbefore : before key l
      · have hset : set ((l, w) :: o) key v = (key, v) :: (l, w) :: o := by
          rw [set, if_neg hkey, if_pos hbefore]
        rw [hset, find?]
      · have hset : set ((l, w) :: o) key v = (l, w) :: set o key v := by
          rw [set, if_neg hkey, if_neg hbefore]
        simp only [hset, find?, ih]
        by_cases hk : k = key
        · rw [if_pos hk, if_neg (hk ▸ hkey), if_pos hk]
        · rw [if_neg hk, if_neg hk]

@[simp] theorem item_set : (o.set key v).item k = if k = key then v else o.item k := by
  rw [item, find?_set]
  split <;> rfl

@[simp] theorem item_setIf (c : Bool) :
    (o.setIf c key v).item k = if k = key ∧ c = true then v else o.item k := by
  cases c <;> simp [setIf]

@[simp] theorem item_empty : empty.item k = .null := rfl

end Object

namespace Value

/-! ## Access -/

def bool? : Value → Option Bool
  | .bool b => some b
  | _ => none

def number? : Value → Option ℚ
  | .number x => some x
  | _ => none

def string? : Value → Option String
  | .string s => some s
  | _ => none

def array? : Value → Option (List Value)
  | .array vs => some vs
  | _ => none

def object? : Value → Option Object
  | .object o => some o
  | _ => none

/-- The access that fails on a value of another type, with the error `e`. -/
def get {α : Type} (e : String) : Option α → Except String α
  | some a => .ok a
  | none => .error e

def evaluate_as_boolean : Value → Bool
  | .null => false
  | .bool b => b
  | .number x => decide (x ≠ 0)
  | .string s => decide (s ≠ "")
  | .array _ => true
  | .object _ => true

@[simp] theorem bool?_bool (b : Bool) : (bool b).bool? = some b := rfl
@[simp] theorem number?_number (x : ℚ) : (number x).number? = some x := rfl
@[simp] theorem string?_string (s : String) : (string s).string? = some s := rfl
@[simp] theorem array?_array (vs : List Value) : (array vs).array? = some vs := rfl
@[simp] theorem object?_object (o : Object) : (object o).object? = some o := rfl

@[simp] theorem bool?_null : null.bool? = none := rfl
@[simp] theorem number?_null : null.number? = none := rfl
@[simp] theorem string?_null : null.string? = none := rfl
@[simp] theorem array?_null : null.array? = none := rfl
@[simp] theorem object?_null : null.object? = none := rfl

@[simp] theorem get_some {α : Type} (e : String) (a : α) : get e (some a) = .ok a := rfl

end Value

end Lib.Json
