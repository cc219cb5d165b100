import Mathlib

/-!
# Byte strings

Byte strings are `List UInt8`.

* `ascii` — the bytes of a text in the ASCII range.
* `cstr` — what a C function sees of a buffer: the bytes before the first NUL.
* `le32`, `ofLe32` — the 4-byte little-endian encoding; `ofLe32_le32` is its round trip.
* `be32`, `ofBe32` — the big-endian one.
-/

set_option autoImplicit false

namespace Lib.Bytes

def ascii (s : String) : List UInt8 := s.toList.map fun c => UInt8.ofNat c.toNat

/-- The bytes before the first NUL. -/
def cstr (s : List UInt8) : List UInt8 := s.takeWhile (· ≠ 0)

theorem cstr_length_le (s : List UInt8) : (cstr s).length ≤ s.length :=
  (List.takeWhile_prefix _).length_le

theorem nul_notMem_cstr (s : List UInt8) : 0 ∉ cstr s := by
  intro h
  have := List.mem_takeWhile_imp h
  simp at this

/-- A text without NUL in front of a NUL, or of the end of the buffer. -/
theorem cstr_append {s rest : List UInt8} (hs : 0 ∉ s) (hrest : ∀ b ∈ rest.head?, b = 0) :
    cstr (s ++ rest) = s := by
  rw [cstr, List.takeWhile_append_of_pos]
  · cases rest with
    | nil => simp
    | cons b rest => simp [hrest b rfl]
  · intro b hb
    simp only [decide_eq_true_eq]
    intro h0
    exact hs (h0 ▸ hb)

/-! ## 32-bit little-endian numbers -/

def le32 (n : ℕ) : List UInt8 :=
  [UInt8.ofNat n, UInt8.ofNat (n / 2 ^ 8), UInt8.ofNat (n / 2 ^ 16), UInt8.ofNat (n / 2 ^ 24)]

@[simp] theorem le32_length (n : ℕ) : (le32 n).length = 4 := rfl

/-- The number whose little-endian bytes these are; the shifted bytes do not overlap. -/
def ofLe32 (b : List UInt8) : ℕ :=
  (b.getD 0 0).toNat + (b.getD 1 0).toNat * 2 ^ 8 + (b.getD 2 0).toNat * 2 ^ 16 +
    (b.getD 3 0).toNat * 2 ^ 24

theorem ofLe32_le32 {n : ℕ} (h : n < 2 ^ 32) : ofLe32 (le32 n) = n := by
  simp only [ofLe32, le32, List.getD_cons_zero, List.getD_cons_succ, UInt8.toNat_ofNat']
  omega

/-! ## 32-bit big-endian numbers -/

def be32 (n : ℕ) : List UInt8 := (le32 n).reverse

@[simp] theorem be32_length (n : ℕ) : (be32 n).length = 4 := rfl

def ofBe32 (b : List UInt8) : ℕ := ofLe32 b.reverse

theorem ofBe32_be32 {n : ℕ} (h : n < 2 ^ 32) : ofBe32 (be32 n) = n := by
  rw [ofBe32, be32, List.reverse_reverse, ofLe32_le32 h]

end Lib.Bytes
