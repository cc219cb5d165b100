import Mathlib

/-!
# Base64

Three bytes are four symbols of an alphabet of 64; a rest of one or two bytes is padded.

* `decode_encode` — every list of bytes comes back, over any alphabet.
-/

set_option autoImplicit false

namespace Lib.Base64

universe u

/-- 64 symbols and the one that pads, all different. -/
structure Alphabet (α : Type u) where
  symbols : List α
  pad : α
  length_eq : symbols.length = 64
  nodup : (pad :: symbols).Nodup

variable {α : Type u} (A : Alphabet α)

/-- The symbol of a sextet. -/
def Alphabet.symbol (n : ℕ) : α := A.symbols.getD n A.pad

/-- The sextet of a symbol. -/
def Alphabet.value [DecidableEq α] (c : α) : Option ℕ := A.symbols.idxOf? c

/-- The encoding of some bytes. -/
def encode : List UInt8 → List α
  | a :: b :: c :: rest =>
    A.symbol (a.toNat / 4) :: A.symbol (a.toNat % 4 * 16 + b.toNat / 16) ::
      A.symbol (b.toNat % 16 * 4 + c.toNat / 64) :: A.symbol (c.toNat % 64) :: encode rest
  | [a, b] =>
    [A.symbol (a.toNat / 4), A.symbol (a.toNat % 4 * 16 + b.toNat / 16),
      A.symbol (b.toNat % 16 * 4), A.pad]
  | [a] => [A.symbol (a.toNat / 4), A.symbol (a.toNat % 4 * 16), A.pad, A.pad]
  | [] => []

/-- The first byte of four sextets, and the two after it. -/
def byte₀ (x y : ℕ) : UInt8 := UInt8.ofNat (x * 4 + y / 16)
def byte₁ (y z : ℕ) : UInt8 := UInt8.ofNat (y % 16 * 16 + z / 4)
def byte₂ (z w : ℕ) : UInt8 := UInt8.ofNat (z % 4 * 64 + w)

/-- The bytes a text stands for: only its last four symbols may be padded. -/
def decode [DecidableEq α] : List α → Option (List UInt8)
  | [] => some []
  | a :: b :: c :: d :: rest => do
    let x ← A.value a
    let y ← A.value b
    if c = A.pad ∧ d = A.pad ∧ rest = [] then
      return [byte₀ x y]
    let z ← A.value c
    if d = A.pad ∧ rest = [] then
      return [byte₀ x y, byte₁ y z]
    let w ← A.value d
    let tail ← decode rest
    return byte₀ x y :: byte₁ y z :: byte₂ z w :: tail
  | _ => none

variable {A}

theorem Alphabet.symbol_eq {n : ℕ} (h : n < 64) :
    A.symbol n = A.symbols.get ⟨n, A.length_eq ▸ h⟩ := by
  simp [symbol, A.length_eq, h]

theorem Alphabet.symbol_ne_pad {n : ℕ} (h : n < 64) : A.symbol n ≠ A.pad := by
  rw [symbol_eq h]
  intro he
  exact (List.nodup_cons.1 A.nodup).1 (he ▸ List.get_mem _ _)

variable [DecidableEq α]

@[simp] theorem Alphabet.value_symbol {n : ℕ} (h : n < 64) : A.value (A.symbol n) = some n := by
  have hlt : n < A.symbols.length := A.length_eq ▸ h
  rw [value, symbol_eq h, List.idxOf?_eq_some_iff]
  refine ⟨hlt, rfl, fun j hj he => ?_⟩
  have := (List.nodup_cons.1 A.nodup).2.getElem_inj_iff.1 he
  omega

/-! ## The bits of a byte -/

theorem byte₀_eq (a : UInt8) {y : ℕ} (hy : y / 16 = a.toNat % 4) :
    byte₀ (a.toNat / 4) y = a := by
  rw [byte₀, hy]
  apply UInt8.toNat_inj.1
  have := a.toNat_lt
  rw [UInt8.toNat_ofNat']
  omega

theorem byte₁_eq (b : UInt8) {y z : ℕ} (hy : y % 16 = b.toNat / 16) (hz : z / 4 = b.toNat % 16) :
    byte₁ y z = b := by
  rw [byte₁, hy, hz]
  apply UInt8.toNat_inj.1
  have := b.toNat_lt
  rw [UInt8.toNat_ofNat']
  omega

theorem byte₂_eq (c : UInt8) {z : ℕ} (hz : z % 4 = c.toNat / 64) :
    byte₂ z (c.toNat % 64) = c := by
  rw [byte₂, hz]
  apply UInt8.toNat_inj.1
  have := c.toNat_lt
  rw [UInt8.toNat_ofNat']
  omega

/-- **Every list of bytes comes back.** -/
theorem decode_encode (bytes : List UInt8) : decode A (encode A bytes) = some bytes := by
  fun_induction encode A bytes with
  | case1 a b c rest ih =>
    have ha := a.toNat_lt
    have hb := b.toNat_lt
    have hc := c.toNat_lt
    have hd := A.symbol_ne_pad (n := c.toNat % 64) (by omega)
    simp only [decode, Option.bind_eq_bind, Option.pure_def]
    rw [A.value_symbol (by omega), A.value_symbol (by omega), A.value_symbol (by omega),
      A.value_symbol (by omega), ih]
    simp only [hd, false_and, and_false, if_false, Option.bind_some]
    rw [byte₀_eq a (by omega), byte₁_eq b (by omega) (by omega), byte₂_eq c (by omega)]
  | case2 a b =>
    have ha := a.toNat_lt
    have hb := b.toNat_lt
    have hd := A.symbol_ne_pad (n := b.toNat % 16 * 4) (by omega)
    simp only [decode, Option.bind_eq_bind, Option.pure_def]
    rw [A.value_symbol (by omega), A.value_symbol (by omega), A.value_symbol (by omega)]
    simp only [hd, false_and, and_self, if_false, if_true, Option.bind_some]
    rw [byte₀_eq a (by omega), byte₁_eq b (by omega) (by omega)]
  | case3 a =>
    have ha := a.toNat_lt
    simp only [decode, Option.bind_eq_bind, Option.pure_def]
    rw [A.value_symbol (by omega), A.value_symbol (by omega)]
    simp only [and_self, if_true, Option.bind_some]
    rw [byte₀_eq a (by omega)]
  | case4 => rfl

end Lib.Base64
