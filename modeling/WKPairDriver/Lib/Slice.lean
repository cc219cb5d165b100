import Mathlib
import WKPairDriver.Lib.Bytes

/-!
# Byte slices with checked accesses

A slice is the list of the bytes a piece of code may read.  An access outside of it is a fault,
and so is running out of the fuel that stands for a recursion's depth: a computation that returns
`.ok` made neither.

* `load` — a copy or a comparison of a block of bytes.
* `strnlen` — a scan for a NUL, byte by byte.
* `load_of_eq`, `strnlen_of_eq` — what they return where the slice is known around a position.
-/

set_option autoImplicit false

namespace Lib.Slice

open Lib.Bytes

inductive Fault where
  | outOfBounds
  | outOfFuel
deriving DecidableEq

def load (s : List UInt8) (pos n : ℕ) : Except Fault (List UInt8) :=
  if pos + n ≤ s.length then .ok ((s.drop pos).take n) else .error .outOfBounds

/-- The number of bytes before the first NUL of the `limit` bytes at `pos`, or `limit`. -/
def strnlen (s : List UInt8) : ℕ → ℕ → Except Fault ℕ
  | _, 0 => .ok 0
  | pos, limit + 1 =>
    match s[pos]? with
    | none => .error .outOfBounds
    | some b =>
      if b = 0 then .ok 0
      else
        match strnlen s (pos + 1) limit with
        | .ok len => .ok (len + 1)
        | .error e => .error e

theorem load_ok {s : List UInt8} {pos n : ℕ} (h : pos + n ≤ s.length) :
    load s pos n = .ok ((s.drop pos).take n) := if_pos h

theorem load_of_eq {s a b c : List UInt8} {pos n : ℕ} (hs : s = a ++ (b ++ c))
    (hpos : pos = a.length) (hn : n = b.length) : load s pos n = .ok b := by
  subst hs hpos hn
  rw [load_ok (by simp)]
  simp

theorem strnlen_ok {s : List UInt8} {pos limit : ℕ} (h : pos + limit ≤ s.length) :
    strnlen s pos limit = .ok (cstr ((s.drop pos).take limit)).length := by
  induction limit generalizing pos with
  | zero => simp [strnlen, cstr]
  | succ limit ih =>
    have hpos : pos < s.length := by omega
    rw [List.drop_eq_getElem_cons hpos, List.take_succ_cons, strnlen,
      List.getElem?_eq_getElem hpos]
    by_cases hb : s[pos] = 0
    · simp [hb, cstr]
    · simp only [if_neg hb, ih (show pos + 1 + limit ≤ s.length by omega)]
      simp [cstr, hb]

/-- A text without NUL, with a NUL behind it. -/
theorem strnlen_of_eq {s a t c : List UInt8} {pos limit : ℕ} (hs : s = a ++ (t ++ 0 :: c))
    (ht : 0 ∉ t) (hpos : pos = a.length) (hle : pos + limit ≤ s.length) (hlt : t.length < limit) :
    strnlen s pos limit = .ok t.length := by
  rw [strnlen_ok hle]
  subst hs hpos
  rw [List.drop_left, List.take_append, List.take_of_length_le hlt.le,
    show limit - t.length = (limit - t.length - 1) + 1 by omega, List.take_succ_cons,
    cstr_append ht (by simp)]

end Lib.Slice
