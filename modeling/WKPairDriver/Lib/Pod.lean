import Mathlib
import WKPairDriver.Lib.Bytes
import WKPairDriver.Lib.Slice

/-!
# Plain data in byte strings

A `Pod α` says how a value of a fixed size lies in memory: how it is copied out to bytes and copied
back.  It carries the round trip of the two copies.

* `Pod.u32`, `Pod.vector`, `Pod.iso` — words, arrays, structures of one field.
* `Pod.putAll` — a sequence of values, one behind the other.
* `Pod.load_put` — a checked load where a value is known to lie.
-/

set_option autoImplicit false

namespace Lib

open Lib.Bytes Lib.Slice

structure Pod (α : Type) where
  size : ℕ
  put : α → List UInt8
  get : List UInt8 → α
  put_length : ∀ a, (put a).length = size
  get_put : ∀ a, get (put a) = a

namespace Pod

variable {α β : Type} (p : Pod α)

/-- Values one behind the other. -/
def putAll (as : List α) : List UInt8 := as.flatMap p.put

@[simp] theorem putAll_nil : p.putAll [] = [] := rfl

@[simp] theorem putAll_cons (a : α) (as : List α) : p.putAll (a :: as) = p.put a ++ p.putAll as :=
  rfl

@[simp] theorem putAll_length (as : List α) : (p.putAll as).length = as.length * p.size := by
  induction as with
  | nil => simp
  | cons a as ih =>
    rw [putAll_cons, List.length_append, ih, p.put_length, List.length_cons]
    ring

/-- The bytes of the value at an index. -/
theorem slice_putAll (as : List α) (i : ℕ) (h : i < as.length) :
    ((p.putAll as).drop (i * p.size)).take p.size = p.put as[i] := by
  induction as generalizing i with
  | nil => simp at h
  | cons a as ih =>
    cases i with
    | zero => simp [← p.put_length a]
    | succ i =>
      have hdrop : (i + 1) * p.size = (p.put a).length + i * p.size := by
        rw [p.put_length]
        ring
      rw [putAll_cons, hdrop, List.drop_append, List.drop_of_length_le (by omega), List.nil_append,
        show (p.put a).length + i * p.size - (p.put a).length = i * p.size by omega]
      exact ih i (by simpa using h)

/-! ## Words, arrays, structures -/

/-- A little-endian word. -/
def u32 : Pod UInt32 where
  size := 4
  put n := le32 n.toNat
  get b := UInt32.ofNat (ofLe32 b)
  put_length _ := rfl
  get_put n := by rw [ofLe32_le32 n.toNat_lt, UInt32.ofNat_toNat]

/-- An array of `n` values. -/
def vector (n : ℕ) : Pod (Vector α n) where
  size := n * p.size
  put v := p.putAll v.toList
  get b := Vector.ofFn fun i : Fin n => p.get ((b.drop (i * p.size)).take p.size)
  put_length v := by rw [putAll_length, Vector.length_toList]
  get_put v := by
    ext i hi
    rw [Vector.getElem_ofFn, slice_putAll _ _ _ (by simpa using hi), p.get_put,
      Vector.getElem_toList]

/-- A structure laid out as what it is made of. -/
def iso (f : α → β) (g : β → α) (hfg : ∀ b, f (g b) = b) : Pod β where
  size := p.size
  put b := p.put (g b)
  get bs := f (p.get bs)
  put_length b := p.put_length (g b)
  get_put b := by rw [p.get_put, hfg]

/-! ## Checked loads -/

/-- A load where the value is known to lie. -/
theorem load_put {s pre rest : List UInt8} {pos : ℕ} {a : α} (hs : s = pre ++ (p.put a ++ rest))
    (hpos : pos = pre.length) : load s pos p.size = .ok (p.put a) :=
  load_of_eq hs hpos (p.put_length a).symm

end Pod

end Lib
