import Mathlib
import WKPairDriver.Lib.Bytes

/-!
# OSC address patterns and the language they denote

* `parse` — the elements of a pattern text; it fails on a class or a brace that is not closed and on
  a brace with anything but literal alternatives.  A pattern that parses is well formed.
* `fits` — the lengths for which the matcher's 256-byte buffer suffices.
* `language wild es` — the addresses the elements denote; `?` takes one character that satisfies
  `wild`, `*` any run of them.
* `anchored es` — the part of the language in which whatever follows a `*` takes a character.
* `anchored_le`, `language_le_anchored` — the part is included in the language, and is all of it
  when nothing that follows a `*` can match the empty string.
-/

set_option autoImplicit false

namespace WKPairDriver.Osc

/-- The byte of an ASCII character. -/
def byte (c : Char) : UInt8 := UInt8.ofNat c.toNat

/-- `char` is signed: the order of a range is that of the signed bytes. -/
def charLe (a b : UInt8) : Bool := decide (a.toInt8 ≤ b.toInt8)

/-- The end of a range after its first character: a `-` and one more character of the class. -/
def rangeEnd : List UInt8 → Option (UInt8 × List UInt8)
  | d :: c2 :: p => if d = byte '-' ∧ c2 ≠ byte ']' then some (c2, p) else none
  | _ => none

theorem rangeEnd_length {p p' : List UInt8} {c2 : UInt8} (h : rangeEnd p = some (c2, p')) :
    p'.length + 2 = p.length := by
  match p with
  | [] => cases h
  | [_] => cases h
  | d :: c :: q =>
    simp only [rangeEnd] at h
    split at h <;> cases h
    rfl

namespace Pattern

inductive ClassItem where
  | char (c : UInt8)
  | range (c1 c2 : UInt8)
deriving DecidableEq

def ClassItem.has : ClassItem → UInt8 → Bool
  | .char c, ch => ch == c
  | .range c1 c2, ch => charLe c1 ch && charLe ch c2

inductive Elem where
  | lit (c : UInt8)
  | any
  | star
  | cls (negated : Bool) (items : List ClassItem)
  | alt (alts : List (List UInt8))
deriving DecidableEq

/-! ## Well-formed patterns -/

/-- The items of a class up to its `]`, and the text behind it. -/
def parseItems : List UInt8 → Option (List ClassItem × List UInt8)
  | [] => none
  | c1 :: p =>
    if c1 = byte ']' then some ([], p)
    else
      match _h : rangeEnd p with
      | some (c2, p') => (parseItems p').map fun r => (.range c1 c2 :: r.1, r.2)
      | none => (parseItems p).map fun r => (.char c1 :: r.1, r.2)
termination_by p => p.length
decreasing_by
  · have := rangeEnd_length _h
    simp only [List.length_cons]
    omega
  · simp only [List.length_cons]
    omega

/-- The class after its `[`. -/
def parseClass (p : List UInt8) : Option (Bool × List ClassItem × List UInt8) :=
  match p with
  | [] => none
  | c :: q =>
    if c = byte '!' then (parseItems q).map (true, ·) else (parseItems p).map (false, ·)

/-- Characters with a meaning of their own outside a class. -/
def metachars : List UInt8 := [byte '?', byte '*', byte '[', byte '{']

/-- The alternatives after a `{`, and the text behind the `}`; `alt` is the one being read. -/
def parseAlts : List UInt8 → List UInt8 → Option (List (List UInt8) × List UInt8)
  | [], _ => none
  | c :: p, alt =>
    if c = byte '}' then some ([alt], p)
    else if c = byte ',' then (parseAlts p []).map fun r => (alt :: r.1, r.2)
    else if c ∈ metachars then none
    else parseAlts p (alt ++ [c])

theorem parseItems_length {p rest : List UInt8} {items : List ClassItem}
    (h : parseItems p = some (items, rest)) : rest.length < p.length := by
  fun_induction parseItems p generalizing items with
  | case1 => cases h
  | case2 => cases h; simp
  | case3 c1 p hne c2 p' hr ih =>
    obtain ⟨r, hr', heq⟩ := Option.map_eq_some_iff.1 h
    cases heq
    have := ih hr'
    have := rangeEnd_length hr
    simp only [List.length_cons]
    omega
  | case4 c1 p hne hr ih =>
    obtain ⟨r, hr', heq⟩ := Option.map_eq_some_iff.1 h
    cases heq
    have := ih hr'
    simp only [List.length_cons]
    omega

theorem parseClass_length {p rest : List UInt8} {negated : Bool} {items : List ClassItem}
    (h : parseClass p = some (negated, items, rest)) : rest.length < p.length := by
  unfold parseClass at h
  split at h
  · cases h
  · split at h <;> obtain ⟨r, hr, heq⟩ := Option.map_eq_some_iff.1 h <;> cases heq
    · have := parseItems_length hr
      simp only [List.length_cons]
      omega
    · exact parseItems_length hr

theorem parseAlts_length {p alt rest : List UInt8} {alts : List (List UInt8)}
    (h : parseAlts p alt = some (alts, rest)) : rest.length < p.length := by
  induction p generalizing alt alts with
  | nil => cases h
  | cons c p ih =>
    unfold parseAlts at h
    split_ifs at h with h1 h2 h3
    · cases h; simp
    · obtain ⟨r, hr, heq⟩ := Option.map_eq_some_iff.1 h
      cases heq
      exact Nat.lt_succ_of_lt (ih hr)
    · exact Nat.lt_succ_of_lt (ih h)

/-- The elements of a well-formed pattern. -/
def parse (p : List UInt8) : Option (List Elem) :=
  match p with
  | [] => some []
  | c :: p =>
    if c = byte '?' then (parse p).map (.any :: ·)
    else if c = byte '*' then (parse p).map (.star :: ·)
    else if c = byte '[' then
      match _h : parseClass p with
      | none => none
      | some (negated, items, rest) => (parse rest).map (.cls negated items :: ·)
    else if c = byte '{' then
      match _h : parseAlts p [] with
      | none => none
      | some (alts, rest) => (parse rest).map (.alt alts :: ·)
    else (parse p).map (.lit c :: ·)
termination_by p.length
decreasing_by
  all_goals simp only [List.length_cons]
  · omega
  · omega
  · have := parseClass_length _h
    omega
  · have := parseAlts_length _h
    omega
  · omega

/-! ## The buffer -/

/-- The characters an item takes in the pattern text. -/
def ClassItem.width : ClassItem → ℕ
  | .char _ => 1
  | .range _ _ => 3

def itemsWidth (items : List ClassItem) : ℕ := (items.map ClassItem.width).sum

def altsWidth (alts : List (List UInt8)) : ℕ := (alts.map (·.length + 1)).sum

/-- The characters an element takes in the pattern text. -/
def Elem.width : Elem → ℕ
  | .lit _ | .any | .star => 1
  | .cls negated items => itemsWidth items + (if negated then 3 else 2)
  | .alt alts => altsWidth alts + 1

def width (es : List Elem) : ℕ := (es.map Elem.width).sum

/-- `sizeof(alt)`. -/
def altSize : ℕ := 256

/-- Every alternative fits the buffer, alone and with the pattern behind its brace. -/
def fits : List Elem → Bool
  | [] => true
  | .alt alts :: es =>
    (alts.all fun alt => alt.length < altSize - 1 && alt.length + width es < altSize) && fits es
  | _ :: es => fits es

theorem parseItems_width {p rest : List UInt8} {items : List ClassItem}
    (h : parseItems p = some (items, rest)) : p.length = itemsWidth items + 1 + rest.length := by
  fun_induction parseItems p generalizing items with
  | case1 => cases h
  | case2 => cases h; simp [itemsWidth]; omega
  | case3 c1 p hne c2 p' hr ih =>
    obtain ⟨r, hr', heq⟩ := Option.map_eq_some_iff.1 h
    cases heq
    have hp := ih hr'
    have hlen := rangeEnd_length hr
    simp only [itemsWidth, List.map_cons, List.sum_cons, ClassItem.width, List.length_cons] at hp ⊢
    omega
  | case4 c1 p hne hr ih =>
    obtain ⟨r, hr', heq⟩ := Option.map_eq_some_iff.1 h
    cases heq
    have hp := ih hr'
    simp only [itemsWidth, List.map_cons, List.sum_cons, ClassItem.width, List.length_cons] at hp ⊢
    omega

theorem parseClass_width {p rest : List UInt8} {negated : Bool} {items : List ClassItem}
    (h : parseClass p = some (negated, items, rest)) :
    p.length + 1 = (Elem.cls negated items).width + rest.length := by
  unfold parseClass at h
  split at h
  · cases h
  · split at h <;> obtain ⟨r, hr, heq⟩ := Option.map_eq_some_iff.1 h <;> cases heq <;>
      have hw := parseItems_width hr
    · simp only [Elem.width, List.length_cons, if_true]
      omega
    · simp only [Elem.width, Bool.false_eq_true, if_false]
      omega

theorem parseAlts_width {p alt rest : List UInt8} {alts : List (List UInt8)}
    (h : parseAlts p alt = some (alts, rest)) :
    alt.length + p.length = altsWidth alts + rest.length := by
  induction p generalizing alt alts with
  | nil => cases h
  | cons c p ih =>
    unfold parseAlts at h
    split_ifs at h with h1 h2 h3
    · cases h
      simp only [altsWidth, List.map_cons, List.map_nil, List.sum_cons, List.sum_nil,
        List.length_cons]
      omega
    · obtain ⟨r, hr, heq⟩ := Option.map_eq_some_iff.1 h
      cases heq
      have hw := ih hr
      simp only [altsWidth, List.map_cons, List.sum_cons, List.length_cons, List.length_nil] at hw ⊢
      omega
    · have hw := ih h
      simp only [List.length_append, List.length_cons, List.length_nil] at hw ⊢
      omega

/-- **What a pattern can start with.** -/
theorem parse_cons {c : UInt8} {p : List UInt8} {es : List Elem} (h : parse (c :: p) = some es) :
    (c = byte '?' ∧ ∃ es', parse p = some es' ∧ es = .any :: es') ∨
    (c = byte '*' ∧ ∃ es', parse p = some es' ∧ es = .star :: es') ∨
    (c = byte '[' ∧ ∃ negated items rest es', parseClass p = some (negated, items, rest) ∧
      parse rest = some es' ∧ es = .cls negated items :: es') ∨
    (c = byte '{' ∧ ∃ alts rest es', parseAlts p [] = some (alts, rest) ∧
      parse rest = some es' ∧ es = .alt alts :: es') ∨
    (c ∉ metachars ∧ ∃ es', parse p = some es' ∧ es = .lit c :: es') := by
  rw [parse] at h
  split_ifs at h with h1 h2 h3 h4
  · obtain ⟨es', hes, heq⟩ := Option.map_eq_some_iff.1 h
    exact .inl ⟨h1, es', hes, heq.symm⟩
  · obtain ⟨es', hes, heq⟩ := Option.map_eq_some_iff.1 h
    exact .inr (.inl ⟨h2, es', hes, heq.symm⟩)
  · split at h
    · cases h
    · rename_i negated items rest hcls
      obtain ⟨es', hes, heq⟩ := Option.map_eq_some_iff.1 h
      exact .inr (.inr (.inl ⟨h3, negated, items, rest, es', hcls, hes, heq.symm⟩))
  · split at h
    · cases h
    · rename_i alts rest halts
      obtain ⟨es', hes, heq⟩ := Option.map_eq_some_iff.1 h
      exact .inr (.inr (.inr (.inl ⟨h4, alts, rest, es', halts, hes, heq.symm⟩)))
  · obtain ⟨es', hes, heq⟩ := Option.map_eq_some_iff.1 h
    exact .inr (.inr (.inr (.inr ⟨by simp [metachars, h1, h2, h3, h4], es', hes, heq.symm⟩)))

theorem parse_lit {c : UInt8} {p : List UInt8} (h : c ∉ metachars) :
    parse (c :: p) = (parse p).map (.lit c :: ·) := by
  simp only [metachars, List.mem_cons, List.not_mem_nil, or_false, not_or] at h
  rw [parse, if_neg h.1, if_neg h.2.1, if_neg h.2.2.1, if_neg h.2.2.2]

/-- The elements take all of the pattern text. -/
theorem parse_width {p : List UInt8} {es : List Elem} (h : parse p = some es) :
    p.length = width es := by
  match p with
  | [] => rw [parse] at h; cases h; rfl
  | c :: p =>
    rcases parse_cons h with ⟨-, es', hes, rfl⟩ | ⟨-, es', hes, rfl⟩ |
      ⟨-, negated, items, rest, es', hcls, hes, rfl⟩ | ⟨-, alts, rest, es', halts, hes, rfl⟩ |
      ⟨-, es', hes, rfl⟩
    case inr.inr.inl =>
      have hlen := parseClass_length hcls
      have hw := parseClass_width hcls
      have ih := parse_width hes
      simp only [width, List.map_cons, List.sum_cons, List.length_cons] at ih ⊢
      omega
    case inr.inr.inr.inl =>
      have hlen := parseAlts_length halts
      have hw := parseAlts_width halts
      have ih := parse_width hes
      simp only [width, List.map_cons, List.sum_cons, Elem.width, List.length_cons,
        List.length_nil] at hw ih ⊢
      omega
    all_goals
      have ih := parse_width hes
      simp only [width, List.map_cons, List.sum_cons, Elem.width, List.length_cons] at ih ⊢
      omega
termination_by p.length

/-! ## The language of a pattern -/

/-- One character with the property `P`. -/
def one (P : UInt8 → Prop) : Language UInt8 := {s | ∃ c, P c ∧ s = [c]}

/-- A run, possibly empty, of characters with the property `P`. -/
def runOf (P : UInt8 → Prop) : Language UInt8 := {s | ∀ c ∈ s, P c}

def classHas (negated : Bool) (items : List ClassItem) (ch : UInt8) : Bool :=
  if negated then !items.any (·.has ch) else items.any (·.has ch)

/-- Nothing but `*`. -/
def stars (es : List Elem) : Bool := es.all (· == .star)

/-- What may follow a `*`: the rest `L` of the pattern; with `anchor`, unless that is only more
    `*`, at least one character. -/
def afterStar (anchor : Bool) (es : List Elem) (L : Language UInt8) : Language UInt8 :=
  {s | s ∈ L ∧ (anchor = true → stars es = false → s ≠ [])}

/-- One of the alternatives. -/
def oneOf (alts : List (List UInt8)) : Language UInt8 := {s | s ∈ alts}

def denote (anchor : Bool) (wild : UInt8 → Prop) : List Elem → Language UInt8
  | [] => 1
  | .lit c :: es => one (· = c) * denote anchor wild es
  | .any :: es => one wild * denote anchor wild es
  | .star :: es => runOf wild * afterStar anchor es (denote anchor wild es)
  | .cls negated items :: es =>
    one (fun ch => classHas negated items ch = true) * denote anchor wild es
  | .alt alts :: es => oneOf alts * denote anchor wild es

/-- The addresses a pattern denotes. -/
def language (wild : UInt8 → Prop) (es : List Elem) : Language UInt8 := denote false wild es

/-- Those with a reading in which whatever follows a `*`, except more `*`, takes a character. -/
def anchored (wild : UInt8 → Prop) (es : List Elem) : Language UInt8 := denote true wild es

theorem afterStar_false (es : List Elem) (L : Language UInt8) : afterStar false es L = L :=
  Set.ext fun _ => ⟨(·.1), fun h => ⟨h, fun hf => absurd hf Bool.false_ne_true⟩⟩

theorem anchored_le (wild : UInt8 → Prop) (es : List Elem) : anchored wild es ≤ language wild es := by
  unfold anchored language
  induction es with
  | nil => exact le_rfl
  | cons e es ih =>
    cases e with
    | star =>
      simp only [denote, afterStar_false]
      exact mul_le_mul' le_rfl fun s hs => ih hs.1
    | _ => exact mul_le_mul' le_rfl ih

/-- Whether the elements can match the empty string. -/
def nullable : List Elem → Bool
  | [] => true
  | .star :: es => nullable es
  | .alt alts :: es => alts.contains [] && nullable es
  | _ :: _ => false

/-- No `*` is followed by something, other than more `*`, that can match the empty string. -/
def starsAnchored : List Elem → Bool
  | [] => true
  | .star :: es => (stars es || !nullable es) && starsAnchored es
  | _ :: es => starsAnchored es

theorem nullable_of_nil_mem (wild : UInt8 → Prop) {es : List Elem}
    (h : [] ∈ language wild es) : nullable es = true := by
  unfold language at h
  induction es with
  | nil => rfl
  | cons e es ih =>
    cases e with
    | star =>
      rw [denote, afterStar_false] at h
      obtain ⟨a, -, b, hb, hab⟩ := Language.mem_mul.1 h
      rw [(List.append_eq_nil_iff.1 hab).2] at hb
      exact ih hb
    | alt alts =>
      obtain ⟨a, ha, b, hb, hab⟩ := Language.mem_mul.1 h
      rw [(List.append_eq_nil_iff.1 hab).1] at ha
      rw [(List.append_eq_nil_iff.1 hab).2] at hb
      simp only [nullable, Bool.and_eq_true]
      exact ⟨List.contains_iff_mem.2 ha, ih hb⟩
    | _ =>
      obtain ⟨a, ⟨c, -, rfl⟩, b, -, hab⟩ := Language.mem_mul.1 h
      cases hab

theorem language_le_anchored (wild : UInt8 → Prop) {es : List Elem} (h : starsAnchored es = true) :
    language wild es ≤ anchored wild es := by
  unfold anchored language
  induction es with
  | nil => exact le_rfl
  | cons e es ih =>
    cases e with
    | star =>
      simp only [starsAnchored, Bool.and_eq_true, Bool.or_eq_true] at h
      simp only [denote, afterStar_false]
      refine mul_le_mul' le_rfl fun s hs => ⟨ih h.2 hs, fun _ hstars hnil => ?_⟩
      rcases h.1 with h1 | h1
      · rw [h1] at hstars
        cases hstars
      · have hnullable := nullable_of_nil_mem wild (hnil ▸ hs)
        rw [hnullable] at h1
        cases h1
    | _ => exact mul_le_mul' le_rfl (ih h)

end Pattern

end WKPairDriver.Osc
