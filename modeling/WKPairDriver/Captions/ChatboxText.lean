import Mathlib
import WKPairDriver.Lib.Utf8
import WKPairDriver.Osc.RouterPublisher

/-!
# The text of a chatbox message: `TruncateToVrchatLimit`

The chatbox takes 144 bytes of UTF-8. A longer text is cut at its last whitespace at or before byte
144, or at byte 144 itself, and an ellipsis is appended after the cut.

* `truncateToVrchatLimit_isUtf8_iff` — what is sent is UTF-8 exactly when the cut is not inside a
  code point, which the cut at byte 144 may be.
* `truncateToVrchatLimit_fits_iff` — it is a text within the limit exactly when nothing is cut or
  the last whitespace stands between bytes 1 and 141: three bytes are left for the ellipsis only
  there.
-/

set_option autoImplicit false

namespace WKPairDriver.Captions.ChatboxText

open Lib.Bytes Lib.Utf8 Osc.RouterPublisher

/-! ## The search for a whitespace -/

/-- The bytes at which a text may be cut. -/
def whitespace : List UInt8 := ascii " \t\r\n"

theorem findCut_succ (text : List UInt8) (cut : ℕ) :
    findCut text (cut + 1) =
      if text.getD (cut + 1) 0 ∈ whitespace then cut + 1 else findCut text cut := rfl

theorem findCut_whitespace (text : List UInt8) {cut : ℕ} (h : findCut text cut ≠ 0) :
    text.getD (findCut text cut) 0 ∈ whitespace := by
  induction cut with
  | zero => exact absurd rfl h
  | succ cut ih =>
    rw [findCut_succ] at h ⊢
    split at h
    · rwa [if_pos ‹_›]
    · rw [if_neg ‹_›]
      exact ih h

theorem findCut_last (text : List UInt8) {cut j : ℕ} (hj : findCut text cut < j) (hle : j ≤ cut) :
    text.getD j 0 ∉ whitespace := by
  induction cut with
  | zero => omega
  | succ cut ih =>
    rw [findCut_succ] at hj
    split at hj
    · omega
    · rcases Nat.lt_or_eq_of_le hle with hlt | rfl
      · exact ih hj (Nat.le_of_lt_succ hlt)
      · assumption

/-- The last whitespace of the text in `1 .. cut`. -/
structure LastWhitespace (text : List UInt8) (cut i : ℕ) : Prop where
  pos : 0 < i
  le : i ≤ cut
  whitespace : text.getD i 0 ∈ whitespace
  last : ∀ j, i < j → j ≤ cut → text.getD j 0 ∉ ChatboxText.whitespace

theorem findCut_eq_iff {text : List UInt8} {cut i : ℕ} (hi : 0 < i) :
    findCut text cut = i ↔ LastWhitespace text cut i := by
  constructor
  · rintro rfl
    exact ⟨hi, findCut_le text cut, findCut_whitespace text hi.ne', fun j => findCut_last text⟩
  · intro h
    rcases Nat.lt_trichotomy (findCut text cut) i with hlt | heq | hgt
    · exact absurd h.whitespace (findCut_last text hlt h.le)
    · exact heq
    · exact absurd (findCut_whitespace text (by omega)) (h.last _ hgt (findCut_le text cut))

/-! ## The text that is sent -/

/-- Where a long text is cut: at its last whitespace, or hard. -/
def cutAt (text : List UInt8) : ℕ :=
  if findCut text kLimit = 0 then kLimit else findCut text kLimit

theorem truncateToVrchatLimit_of_le {text : List UInt8} (h : text.length ≤ kLimit) :
    truncateToVrchatLimit text = text := by
  rw [truncateToVrchatLimit, if_pos h]

theorem truncateToVrchatLimit_of_lt {text : List UInt8} (h : kLimit < text.length) :
    truncateToVrchatLimit text = text.take (cutAt text) ++ ascii "..." := by
  rw [truncateToVrchatLimit, if_neg (Nat.not_le.2 h)]
  rfl

theorem cutAt_le (text : List UInt8) : cutAt text ≤ kLimit := by
  unfold cutAt
  split
  · exact Nat.le_refl _
  · exact findCut_le text kLimit

theorem truncateToVrchatLimit_length_of_lt {text : List UInt8} (h : kLimit < text.length) :
    (truncateToVrchatLimit text).length = cutAt text + 3 := by
  have hcut := cutAt_le text
  have hdots : (ascii "...").length = 3 := by decide
  rw [truncateToVrchatLimit_of_lt h, List.length_append, List.length_take, hdots]
  omega

theorem whitespace_ascii : ∀ b ∈ whitespace, b < 0x80 := by decide +kernel

/-- A whitespace is a code point of its own: the cut in front of it splits none. -/
theorem findCut_boundary {cs : List Char} {i : ℕ}
    (h : LastWhitespace (encode cs) kLimit i) (hlong : kLimit < (encode cs).length) :
    IsBoundary cs i := by
  have hlt : i < (encode cs).length := Nat.lt_of_le_of_lt h.le hlong
  have hws := h.whitespace
  rw [List.getD_eq_getElem _ _ hlt] at hws
  exact exists_prefix_of_ascii (whitespace_ascii _ hws) (List.getElem?_eq_getElem hlt)

theorem dots_encode : ascii "..." = encode "...".toList := by decide

/-- A text cut at byte `n` is still UTF-8 in front of the ellipsis exactly when the cut is at a
    code-point boundary. -/
theorem isUtf8_dots_iff {cs : List Char} {n : ℕ} :
    IsUtf8 ((encode cs).take n ++ ascii "...") ↔ IsBoundary cs n :=
  take_append_ascii_iff (by decide : (0x2e : UInt8) < 0x80) ⟨_, dots_encode⟩

/-- **What is sent is UTF-8 exactly when the text is short enough, has a whitespace to be cut at,
    or has a code point that starts at byte 144.** -/
theorem truncateToVrchatLimit_isUtf8_iff (cs : List Char) :
    IsUtf8 (truncateToVrchatLimit (encode cs)) ↔
      (encode cs).length ≤ kLimit ∨ (∃ i, LastWhitespace (encode cs) kLimit i) ∨
        IsBoundary cs kLimit := by
  rcases Nat.lt_or_ge kLimit (encode cs).length with hlong | hshort
  · rw [truncateToVrchatLimit_of_lt hlong, isUtf8_dots_iff, cutAt]
    split
    · next hnone =>
      have hno : ¬ ∃ i, LastWhitespace (encode cs) kLimit i := by
        rintro ⟨i, hi⟩
        exact hi.pos.ne' (((findCut_eq_iff hi.pos).2 hi).symm.trans hnone)
      simp [hno, Nat.not_le.2 hlong]
    · next hsome =>
      have hlast := (findCut_eq_iff (Nat.pos_of_ne_zero hsome)).1 rfl
      exact iff_of_true (findCut_boundary hlast hlong) (.inr (.inl ⟨_, hlast⟩))
  · rw [truncateToVrchatLimit_of_le hshort]
    exact iff_of_true ⟨cs, rfl⟩ (.inl hshort)

/-- A message the chatbox takes: UTF-8 of at most 144 bytes, the whole text, or a prefix of its
    code points and the ellipsis. -/
structure Fits (cs : List Char) (out : List UInt8) : Prop where
  utf8 : IsUtf8 out
  short : out.length ≤ kLimit
  text : out = encode cs ∨ ∃ p s, cs = p ++ s ∧ out = encode p ++ ascii "..."

/-- Nothing is cut, or the last whitespace leaves room for the ellipsis. -/
def RoomForDots (text : List UInt8) : Prop :=
  text.length ≤ kLimit ∨ ∃ i, LastWhitespace text kLimit i ∧ i + 3 ≤ kLimit

/-- **The text that is sent is UTF-8 within the limit exactly when nothing is cut or the last
    whitespace at or before byte 144 stands at byte 141 or before it.** -/
theorem truncateToVrchatLimit_fits_iff (cs : List Char) :
    Fits cs (truncateToVrchatLimit (encode cs)) ↔ RoomForDots (encode cs) := by
  rcases Nat.lt_or_ge kLimit (encode cs).length with hlong | hshort
  · constructor
    · intro h
      have hlen := h.short
      rw [truncateToVrchatLimit_length_of_lt hlong] at hlen
      have hsome : findCut (encode cs) kLimit ≠ 0 := by
        -- a hard cut is at byte 144 and leaves no room
        intro hnone
        rw [cutAt, if_pos hnone] at hlen
        omega
      rw [cutAt, if_neg hsome] at hlen
      exact .inr ⟨_, (findCut_eq_iff (Nat.pos_of_ne_zero hsome)).1 rfl, hlen⟩
    · rintro (hshort | ⟨i, hi, hroom⟩)
      · exact absurd hshort (Nat.not_le.2 hlong)
      · have hcut : cutAt (encode cs) = i := by
          rw [cutAt, (findCut_eq_iff hi.pos).2 hi, if_neg hi.pos.ne']
        have hboundary := findCut_boundary hi hlong
        refine ⟨?_, ?_, .inr ?_⟩
        · exact (truncateToVrchatLimit_isUtf8_iff cs).2 (.inr (.inl ⟨i, hi⟩))
        · rw [truncateToVrchatLimit_length_of_lt hlong, hcut]
          exact hroom
        · obtain ⟨p, s, hcs, hp⟩ := hboundary
          exact ⟨p, s, hcs, by rw [truncateToVrchatLimit_of_lt hlong, hcut, hp]⟩
  · rw [truncateToVrchatLimit_of_le hshort]
    exact iff_of_true ⟨⟨cs, rfl⟩, hshort, .inl rfl⟩ (.inl hshort)

/-- 143 letters and an accented one, whose second byte is byte 144. -/
def accented : List Char := List.replicate 143 'x' ++ ['é']

/-- No prefix of the text has 144 bytes. -/
theorem accented_boundary : ¬ IsBoundary accented kLimit := by
  rintro ⟨p, s, hcs, hp⟩
  have hprefix : p = accented.take p.length := List.prefix_iff_eq_take.1 ⟨s, hcs.symm⟩
  have hlen : p.length < 145 := by
    have := congrArg List.length hcs
    rw [List.length_append] at this
    have haccented : accented.length = 144 := by simp [accented]
    omega
  have hbytes : ∀ k < 145, (encode (accented.take k)).length ≠ 144 := by decide +kernel
  have htake : ((encode accented).take kLimit).length = 144 := by decide +kernel
  exact hbytes p.length hlen (by rw [← hprefix, hp, htake])

/-- **The accented letter is cut in two, and 147 bytes are sent.** -/
theorem accented_cut :
    (truncateToVrchatLimit (encode accented)).length = 147 ∧
      ¬ IsUtf8 (truncateToVrchatLimit (encode accented)) ∧
      ¬ Fits accented (truncateToVrchatLimit (encode accented)) := by
  have hlong : kLimit < (encode accented).length := by decide +kernel
  have hcut : cutAt (encode accented) = kLimit := by decide +kernel
  have hutf8 : ¬ IsUtf8 (truncateToVrchatLimit (encode accented)) := by
    rw [truncateToVrchatLimit_of_lt hlong, isUtf8_dots_iff, hcut]
    exact accented_boundary
  refine ⟨?_, hutf8, fun h => hutf8 h.utf8⟩
  rw [truncateToVrchatLimit_length_of_lt hlong, hcut]
  rfl

end WKPairDriver.Captions.ChatboxText
