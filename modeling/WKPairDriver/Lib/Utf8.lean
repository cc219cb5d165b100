import Mathlib

/-!
# UTF-8

A text is a list of code points, its encoding the bytes of one after the other.

* `exists_prefix_of_ascii` — a byte below 0x80 stands at a code-point boundary.
* `take_append_ascii_iff` — a text cut anywhere and continued in ASCII is UTF-8 exactly when the
  cut is at a code-point boundary.
-/

set_option autoImplicit false

namespace Lib.Utf8

/-- The UTF-8 encoding of a text. -/
def encode (cs : List Char) : List UInt8 := cs.flatMap String.utf8EncodeChar

/-- Valid UTF-8: the encoding of some code points. -/
def IsUtf8 (bytes : List UInt8) : Prop := ∃ cs, bytes = encode cs

/-- Byte `n` of the encoding is the start of a code point, or its end. -/
def IsBoundary (cs : List Char) (n : ℕ) : Prop :=
  ∃ p s, cs = p ++ s ∧ encode p = (encode cs).take n

@[simp] theorem encode_nil : encode [] = [] := rfl

@[simp] theorem encode_cons (c : Char) (cs : List Char) :
    encode (c :: cs) = String.utf8EncodeChar c ++ encode cs := rfl

@[simp] theorem encode_append (p s : List Char) : encode (p ++ s) = encode p ++ encode s :=
  List.flatMap_append

theorem utf8Encode_eq (cs : List Char) : cs.utf8Encode = (encode cs).toByteArray := rfl

/-- Every byte of a longer code point is 0x80 or above. -/
theorem utf8EncodeChar_of_ascii {c : Char} {b : UInt8} (hb : b ∈ String.utf8EncodeChar c)
    (hascii : b < 0x80) : String.utf8EncodeChar c = [b] := by
  have hlt : b.toNat < 128 := by simpa [UInt8.lt_iff_toNat_lt] using hascii
  revert hb
  fun_cases String.utf8EncodeChar c with
  | case1 =>
    intro hb
    rw [List.mem_singleton.1 hb]
  | case2 | case3 | case4 =>
    -- a leading byte is 0xc0 or above, a continuation byte 0x80 or above
    intro hb
    simp only [List.mem_cons, List.not_mem_nil, or_false] at hb
    rcases hb with rfl | hb
    · simp only [UInt8.toNat_ofNat'] at hlt
      omega
    · rcases hb with rfl | rfl | rfl <;> simp only [UInt8.toNat_ofNat'] at hlt <;> omega

/-- **A byte below 0x80 stands at a code-point boundary.** -/
theorem exists_prefix_of_ascii {b : UInt8} (hascii : b < 0x80) :
    ∀ {cs : List Char} {i : ℕ}, (encode cs)[i]? = some b → IsBoundary cs i
  | [], i, h => by simp at h
  | c :: cs, i, h => by
    by_cases hi : i < (String.utf8EncodeChar c).length
    · rw [encode_cons, List.getElem?_append_left hi] at h
      have hc := utf8EncodeChar_of_ascii (List.mem_of_getElem? h) hascii
      have hi0 : i = 0 := by rw [hc, List.length_singleton] at hi; omega
      exact ⟨[], c :: cs, rfl, by simp [hi0]⟩
    · rw [encode_cons, List.getElem?_append_right (by omega)] at h
      obtain ⟨p, s, rfl, hp⟩ := exists_prefix_of_ascii hascii h
      refine ⟨c :: p, s, rfl, ?_⟩
      rw [encode_cons, hp, encode_cons, List.take_append,
        List.take_of_length_le (Nat.le_of_not_lt hi)]

/-- An encoding that starts with another one is of a text that starts with the other text. -/
theorem prefix_of_encode {p cs : List Char} {rest : List UInt8}
    (h : encode cs = encode p ++ rest) : p <+: cs := by
  refine List.isPrefix_of_utf8Encode_append_eq_utf8Encode rest.toByteArray ?_
  rw [utf8Encode_eq, utf8Encode_eq, h, List.toByteArray_append]

theorem IsUtf8.append {x y : List UInt8} (hx : IsUtf8 x) (hy : IsUtf8 y) : IsUtf8 (x ++ y) := by
  obtain ⟨p, rfl⟩ := hx
  obtain ⟨s, rfl⟩ := hy
  exact ⟨p ++ s, (encode_append p s).symm⟩

/-- What stands before an ASCII byte of UTF-8 is UTF-8. -/
theorem IsUtf8.of_append_ascii {x rest : List UInt8} {b : UInt8} (hascii : b < 0x80)
    (h : IsUtf8 (x ++ b :: rest)) : IsUtf8 x := by
  obtain ⟨cs, hcs⟩ := h
  have hb : (encode cs)[x.length]? = some b := by simp [← hcs]
  obtain ⟨p, s, -, hp⟩ := exists_prefix_of_ascii hascii hb
  exact ⟨p, by rw [hp, ← hcs, List.take_left]⟩

theorem isUtf8_take_iff {cs : List Char} {n : ℕ} :
    IsUtf8 ((encode cs).take n) ↔ IsBoundary cs n := by
  constructor
  · rintro ⟨p, hp⟩
    obtain ⟨s, rfl⟩ : p <+: cs := prefix_of_encode (by
      rw [← hp, List.take_append_drop])
    exact ⟨p, s, rfl, hp.symm⟩
  · rintro ⟨p, s, -, hp⟩
    exact ⟨p, hp.symm⟩

/-- **A text cut at byte `n` and continued with an ASCII text is UTF-8 exactly when the cut is at a
    code-point boundary.** -/
theorem take_append_ascii_iff {cs : List Char} {n : ℕ} {b : UInt8} {rest : List UInt8}
    (hascii : b < 0x80) (htail : IsUtf8 (b :: rest)) :
    IsUtf8 ((encode cs).take n ++ b :: rest) ↔ IsBoundary cs n := by
  rw [← isUtf8_take_iff]
  exact ⟨IsUtf8.of_append_ascii hascii, fun h => h.append htail⟩

end Lib.Utf8
