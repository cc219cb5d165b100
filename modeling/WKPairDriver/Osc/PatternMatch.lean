import Mathlib
import WKPairDriver.Osc.Pattern

/-!
# Matching an OSC address: `OscPatternMatch`

The recursive matcher of `OscWire.cpp`, on C strings: a pattern or an address is the bytes before
its NUL.

* `patternMatchImpl_iff` — on a well-formed pattern that fits the buffer the matcher accepts exactly
  the addresses read with a character for whatever follows a `*`.
* `oscPatternMatch_language` — what it accepts is in the language of the pattern, `?` and `*`
  taking any character, and those readings are accepted.
* `star_matches_slash` — a `*` runs over a `/`.
-/

set_option autoImplicit false

namespace WKPairDriver.Osc

open Lib.Bytes Pattern

/-! ## The matcher -/

/-- The loop of `MatchCharClass`: whether some item of the class is `ch`, and the text behind the
    `]`; `none` when there is no `]`. -/
def matchItems (ch : UInt8) (p : List UInt8) (matched : Bool) : Option (Bool × List UInt8) :=
  match p with
  | [] => none
  | c1 :: p =>
    if c1 = byte ']' then some (matched, p)
    else
      match _h : rangeEnd p with
      | some (c2, p') => matchItems ch p' (matched || (charLe c1 ch && charLe ch c2))
      | none => matchItems ch p (matched || ch == c1)
termination_by p.length
decreasing_by
  · have := rangeEnd_length _h
    simp only [List.length_cons]
    omega
  · simp only [List.length_cons]
    omega

/-- `MatchCharClass`. -/
def matchCharClass (p : List UInt8) (ch : UInt8) : Option (Bool × List UInt8) :=
  match p with
  | [] => none
  | c :: q =>
    if c = byte '!' then (matchItems ch q false).map fun r => (!r.1, r.2)
    else matchItems ch p false

/-- The scan for the end of a brace, `depth` braces deep. -/
def skipBraces : List UInt8 → ℕ → List UInt8
  | p, 0 => p
  | [], _ + 1 => []
  | c :: p, depth + 1 =>
    if c = byte '{' then skipBraces p (depth + 2)
    else if c = byte '}' then skipBraces p depth
    else skipBraces p (depth + 1)

/-- The patterns `MatchAlternates` tries, in order: each alternative in `alt` with the rest of the
    pattern copied behind it.  A copy that does not fit `alt[256]` ends the search. -/
def candidates (rest : List UInt8) : List UInt8 → List UInt8 → List (List UInt8)
  | [], _ => []
  | c :: p, alt =>
    if c = byte '}' then
      if alt.length ≥ altSize - 1 ∨ alt.length + p.length ≥ altSize then [] else [alt ++ p]
    else if c = byte ',' then
      if alt.length ≥ altSize - 1 ∨ alt.length + rest.length ≥ altSize then []
      else (alt ++ rest) :: candidates rest p []
    else candidates rest p (alt ++ [c])

/-- The positions of the loop `for (; *a; ++a)`. -/
def suffixes : List UInt8 → List (List UInt8)
  | [] => []
  | b :: a => (b :: a) :: suffixes a

theorem matchItems_length {ch : UInt8} {p p' : List UInt8} {matched hit : Bool}
    (h : matchItems ch p matched = some (hit, p')) : p'.length < p.length := by
  fun_induction matchItems ch p matched with
  | case1 => cases h
  | case2 => cases h; simp
  | case3 matched c1 p hne c2 p' hr ih =>
    have := ih h
    have := rangeEnd_length hr
    simp only [List.length_cons]
    omega
  | case4 matched c1 p hne hr ih =>
    have := ih h
    simp only [List.length_cons]
    omega

theorem matchCharClass_length {ch : UInt8} {p p' : List UInt8} {hit : Bool}
    (h : matchCharClass p ch = some (hit, p')) : p'.length < p.length := by
  unfold matchCharClass at h
  split at h
  · cases h
  · split at h
    · obtain ⟨r, hr, heq⟩ := Option.map_eq_some_iff.1 h
      cases heq
      have := matchItems_length hr
      simp only [List.length_cons]
      omega
    · exact matchItems_length h

theorem skipBraces_length : ∀ (p : List UInt8) (depth : ℕ), (skipBraces p depth).length ≤ p.length
  | p, 0 => by rw [skipBraces]
  | [], _ + 1 => Nat.le_refl _
  | c :: p, depth + 1 => by
    rw [skipBraces]
    split_ifs
    · exact Nat.le_succ_of_le (skipBraces_length p _)
    · exact Nat.le_succ_of_le (skipBraces_length p _)
    · exact Nat.le_succ_of_le (skipBraces_length p _)

/-- Every copy is shorter than the pattern from its brace on. -/
theorem candidates_length {p alt q : List UInt8} {depth : ℕ}
    (h : q ∈ candidates (skipBraces p (depth + 1)) p alt) : q.length ≤ alt.length + p.length := by
  induction p generalizing alt depth with
  | nil => cases h
  | cons c p ih =>
    unfold candidates at h
    split_ifs at h with h1 hfull h2 hfull
    · cases h
    · rw [List.mem_singleton.1 h, List.length_append, List.length_cons]
      omega
    · cases h
    · have hskip : skipBraces (c :: p) (depth + 1) = skipBraces p (depth + 1) := by
        rw [skipBraces, if_neg (by rw [h2]; decide), if_neg h1]
      rw [hskip] at h
      rcases List.mem_cons.1 h with rfl | h
      · have := skipBraces_length p (depth + 1)
        rw [List.length_append, List.length_cons]
        omega
      · have := ih h
        rw [List.length_nil] at this
        rw [List.length_cons]
        omega
    · have hskip : ∃ d, skipBraces (c :: p) (depth + 1) = skipBraces p (d + 1) := by
        rw [skipBraces, if_neg h1]
        split_ifs
        · exact ⟨depth + 1, rfl⟩
        · exact ⟨depth, rfl⟩
      obtain ⟨d, hd⟩ := hskip
      rw [hd] at h
      have := ih h
      rw [List.length_append, List.length_cons, List.length_nil] at this
      rw [List.length_cons]
      omega

/-- `PatternMatchImpl`. -/
def patternMatchImpl (p a : List UInt8) : Bool :=
  match p with
  | [] => a.isEmpty
  | c :: p =>
    if c = byte '?' then
      match a with
      | [] => false
      | _ :: a => patternMatchImpl p a
    else if c = byte '*' then
      let p' := p.dropWhile (· == byte '*')
      if p' = [] then true else (suffixes a).any fun a => patternMatchImpl p' a
    else if c = byte '[' then
      match a with
      | [] => false
      | ch :: a =>
        match _h : matchCharClass p ch with
        | some (true, p') => patternMatchImpl p' a
        | _ => false
    else if c = byte '{' then
      (candidates (skipBraces p 1) p []).attach.any fun q => patternMatchImpl q.1 a
    else
      match a with
      | [] => false
      | b :: a => if c = b then patternMatchImpl p a else false
termination_by p.length
decreasing_by
  all_goals simp only [List.length_cons]
  · omega
  · have hdrop : (p.dropWhile (· == byte '*')).length ≤ p.length :=
      (List.dropWhile_suffix _).length_le
    omega
  · have := matchCharClass_length _h
    omega
  · have := candidates_length q.2
    rw [List.length_nil] at this
    omega
  · omega

/-- `OscPatternMatch`; `none` is a null pointer. -/
def oscPatternMatch : Option (List UInt8) → Option (List UInt8) → Bool
  | some pattern, some address => patternMatchImpl pattern address
  | _, _ => false

/-! ## Its parts on a well-formed pattern -/

theorem matchItems_eq (ch : UInt8) {p rest : List UInt8} {items : List ClassItem}
    (h : parseItems p = some (items, rest)) (matched : Bool) :
    matchItems ch p matched = some (matched || items.any (·.has ch), rest) := by
  fun_induction parseItems p generalizing items matched with
  | case1 => cases h
  | case2 => cases h; rw [matchItems, if_pos rfl]; simp
  | case3 c1 p hne c2 p' hr ih =>
    obtain ⟨r, hr', heq⟩ := Option.map_eq_some_iff.1 h
    cases heq
    rw [matchItems, if_neg hne]
    split
    · rename_i c2' q hr2
      rw [hr] at hr2
      cases hr2
      rw [ih hr']
      simp [ClassItem.has, Bool.or_assoc]
    · rename_i hr2
      rw [hr] at hr2
      cases hr2
  | case4 c1 p hne hr ih =>
    obtain ⟨r, hr', heq⟩ := Option.map_eq_some_iff.1 h
    cases heq
    rw [matchItems, if_neg hne]
    split
    · rename_i hr2
      rw [hr] at hr2
      cases hr2
    · rw [ih hr']
      simp [ClassItem.has, Bool.or_assoc]

theorem matchCharClass_eq (ch : UInt8) {p rest : List UInt8} {negated : Bool}
    {items : List ClassItem} (h : parseClass p = some (negated, items, rest)) :
    matchCharClass p ch = some (classHas negated items ch, rest) := by
  unfold parseClass at h
  unfold matchCharClass
  split at h
  · cases h
  · split at h <;> obtain ⟨r, hr, heq⟩ := Option.map_eq_some_iff.1 h <;> cases heq
    · rename_i hneg
      simp only [if_pos hneg, matchItems_eq ch hr, Option.map_some, Bool.false_or, classHas, if_true]
    · rename_i hneg
      simp only [if_neg hneg, matchItems_eq ch hr, Bool.false_or, classHas, Bool.false_eq_true,
        if_false]

/-- The alternatives hold no brace, so the scan ends at the brace that closes them. -/
theorem skipBraces_eq {p alt rest : List UInt8} {alts : List (List UInt8)}
    (h : parseAlts p alt = some (alts, rest)) : skipBraces p 1 = rest := by
  induction p generalizing alt alts with
  | nil => cases h
  | cons c p ih =>
    unfold parseAlts at h
    rw [skipBraces]
    split_ifs at h with h1 h2 h3
    · cases h
      rw [if_neg (by rw [h1]; decide), if_pos h1, skipBraces]
    · obtain ⟨r, hr, heq⟩ := Option.map_eq_some_iff.1 h
      cases heq
      rw [if_neg (by rw [h2]; decide), if_neg h1]
      exact ih hr
    · have hc : c ≠ byte '{' := fun hc => h3 (by rw [hc]; decide)
      rw [if_neg hc, if_neg h1]
      exact ih h

/-- If everything fits the buffer, each alternative is tried with the rest of the pattern. -/
theorem candidates_eq {p alt rest : List UInt8} {alts : List (List UInt8)}
    (h : parseAlts p alt = some (alts, rest))
    (hfit : ∀ x ∈ alts, x.length < altSize - 1 ∧ x.length + rest.length < altSize) :
    candidates rest p alt = alts.map (· ++ rest) := by
  induction p generalizing alt alts with
  | nil => cases h
  | cons c p ih =>
    unfold parseAlts at h
    unfold candidates
    split_ifs at h with h1 h2 h3
    · cases h
      have hx := hfit alt (List.mem_singleton.2 rfl)
      rw [if_pos h1, if_neg (by omega)]
      rfl
    · obtain ⟨r, hr, heq⟩ := Option.map_eq_some_iff.1 h
      cases heq
      have hx := hfit alt List.mem_cons_self
      rw [if_neg h1, if_pos h2, if_neg (by omega), ih hr fun x hx => hfit x (.tail _ hx)]
      rfl
    · rw [if_neg h1, if_neg h2]
      exact ih h hfit

/-- An alternative is shorter than the brace it stands in. -/
theorem alternative_length {p rest x : List UInt8} {alts : List (List UInt8)}
    (h : parseAlts p [] = some (alts, rest)) (hx : x ∈ alts) :
    x.length + rest.length < p.length := by
  have hw := parseAlts_width h
  have hle : x.length + 1 ≤ altsWidth alts :=
    List.single_le_sum (fun _ _ => Nat.zero_le _) _ (List.mem_map_of_mem hx)
  rw [List.length_nil] at hw
  omega

theorem parseAlts_literal {p alt rest : List UInt8} {alts : List (List UInt8)}
    (h : parseAlts p alt = some (alts, rest)) (halt : ∀ c ∈ alt, c ∉ metachars) :
    ∀ x ∈ alts, ∀ c ∈ x, c ∉ metachars := by
  induction p generalizing alt alts with
  | nil => cases h
  | cons c p ih =>
    unfold parseAlts at h
    split_ifs at h with h1 h2 h3
    · cases h
      exact fun x hx => List.mem_singleton.1 hx ▸ halt
    · obtain ⟨r, hr, heq⟩ := Option.map_eq_some_iff.1 h
      cases heq
      intro x hx
      rcases List.mem_cons.1 hx with rfl | hx
      · exact halt
      · exact ih hr (fun _ hd => absurd hd List.not_mem_nil) x hx
    · apply ih h
      intro d hd
      rcases List.mem_append.1 hd with hd | hd
      · exact halt d hd
      · rw [List.mem_singleton.1 hd]; exact h3

/-! ## Literals in front of a pattern -/

theorem parse_literals {x : List UInt8} (hx : ∀ c ∈ x, c ∉ metachars) (p : List UInt8) :
    parse (x ++ p) = (parse p).map (x.map Elem.lit ++ ·) := by
  induction x with
  | nil => simp
  | cons c x ih =>
    rw [List.cons_append, parse_lit (hx c List.mem_cons_self),
      ih fun d hd => hx d (.tail _ hd), Option.map_map]
    rfl

theorem fits_literals (x : List UInt8) (es : List Elem) :
    fits (x.map Elem.lit ++ es) = fits es := by
  induction x with
  | nil => rfl
  | cons c x ih => exact ih

theorem mem_denote_literals {anchor : Bool} {wild : UInt8 → Prop} (x : List UInt8) (es : List Elem)
    (a : List UInt8) : a ∈ denote anchor wild (x.map Elem.lit ++ es) ↔
      ∃ b ∈ denote anchor wild es, x ++ b = a := by
  induction x generalizing a with
  | nil => simp
  | cons c x ih =>
    simp only [List.map_cons, List.cons_append, denote, Language.mem_mul, ih]
    constructor
    · rintro ⟨_, ⟨d, rfl, rfl⟩, _, ⟨b, hb, rfl⟩, rfl⟩
      exact ⟨b, hb, rfl⟩
    · rintro ⟨b, hb, rfl⟩
      exact ⟨[c], ⟨c, rfl, rfl⟩, x ++ b, ⟨b, hb, rfl⟩, rfl⟩

/-! ## Runs of stars -/

theorem parse_dropStars {p : List UInt8} {es : List Elem} (h : parse p = some es) :
    parse (p.dropWhile (· == byte '*')) = some (es.dropWhile (· == .star)) := by
  induction p generalizing es with
  | nil => rw [parse] at h; cases h; rw [List.dropWhile_nil, List.dropWhile_nil, parse]
  | cons c p ih =>
    by_cases hc : c = byte '*'
    · rcases parse_cons h with ⟨h', -⟩ | ⟨-, es', hes, rfl⟩ | ⟨h', -⟩ | ⟨h', -⟩ | ⟨h', -⟩
      · exact absurd (hc.symm.trans h') (by decide)
      · simpa [hc] using ih hes
      · exact absurd (hc.symm.trans h') (by decide)
      · exact absurd (hc.symm.trans h') (by decide)
      · exact absurd (hc ▸ h') (by decide)
    · have hp : (c :: p).dropWhile (· == byte '*') = c :: p := by simp [hc]
      rw [hp, h]
      rcases parse_cons h with ⟨-, es', -, rfl⟩ | ⟨h', -⟩ | ⟨-, _, _, _, es', -, -, rfl⟩ |
        ⟨-, _, _, es', -, -, rfl⟩ | ⟨-, es', -, rfl⟩
      · rfl
      · exact absurd h' hc
      all_goals rfl

theorem parse_eq_nil {p : List UInt8} {es : List Elem} (h : parse p = some es) :
    p = [] ↔ es = [] := by
  constructor
  · rintro rfl
    rw [parse] at h
    cases h
    rfl
  · rintro rfl
    exact List.length_eq_zero_iff.1 (parse_width h)

theorem stars_iff (es : List Elem) : stars es = true ↔ es.dropWhile (· == .star) = [] := by
  rw [List.dropWhile_eq_nil_iff, stars, List.all_eq_true]

theorem fits_dropStars (es : List Elem) : fits (es.dropWhile (· == .star)) = fits es := by
  induction es with
  | nil => rfl
  | cons e es ih =>
    cases e with
    | star => exact ih
    | _ => rfl

/-- The `wild` of the matcher: any character. -/
def anyChar (_ : UInt8) : Prop := True

/-- A `*` with nothing but `*` behind it takes every address. -/
theorem star_last {es : List Elem} (h : stars es = true) (a : List UInt8) :
    a ∈ anchored anyChar (.star :: es) := by
  induction es generalizing a with
  | nil =>
    refine Language.mem_mul.2 ⟨a, fun _ _ => trivial, [], ⟨rfl, fun _ hf => ?_⟩,
      List.append_nil a⟩
    rw [h] at hf
    cases hf
  | cons e es ih =>
    have hcons : e = .star ∧ stars es = true := by simpa [stars] using h
    obtain ⟨rfl, hes⟩ := hcons
    refine Language.mem_mul.2 ⟨a, fun _ _ => trivial, [], ⟨ih hes [], fun _ hf => ?_⟩,
      List.append_nil a⟩
    rw [h] at hf
    cases hf

theorem star_step {es : List Elem} (h : stars es = false) (a : List UInt8) :
    a ∈ anchored anyChar (.star :: es) ↔ ∃ b, b ≠ [] ∧ b <:+ a ∧ b ∈ anchored anyChar es := by
  constructor
  · intro ha
    obtain ⟨x, -, b, ⟨hb, hne⟩, rfl⟩ := Language.mem_mul.1 ha
    exact ⟨b, hne rfl h, List.suffix_append x b, hb⟩
  · rintro ⟨b, hne, ⟨x, rfl⟩, hb⟩
    exact Language.mem_mul.2 ⟨x, fun _ _ => trivial, b, ⟨hb, fun _ _ => hne⟩, rfl⟩

/-- Any other `*` leaves a suffix of the address, not empty, to what follows its run of stars. -/
theorem star_then {es : List Elem} (h : stars es = false) (a : List UInt8) :
    a ∈ anchored anyChar (.star :: es) ↔
      ∃ b, b ≠ [] ∧ b <:+ a ∧ b ∈ anchored anyChar (es.dropWhile (· == .star)) := by
  rw [star_step h]
  induction es generalizing a with
  | nil => cases h
  | cons e es ih =>
    cases e with
    | star =>
      have hes : stars es = false := by simpa [stars] using h
      constructor
      · rintro ⟨b, -, hba, hb⟩
        obtain ⟨b', hne, hb'b, hb'⟩ := (ih hes b).1 ((star_step hes b).1 hb)
        exact ⟨b', hne, hb'b.trans hba, hb'⟩
      · rintro ⟨b, hne, hba, hb⟩
        have hself := (ih hes b).2 ⟨b, hne, List.suffix_refl b, hb⟩
        exact ⟨b, hne, hba, (star_step hes b).2 hself⟩
    | _ => rfl

theorem mem_suffixes {a b : List UInt8} : b ∈ suffixes a ↔ b ≠ [] ∧ b <:+ a := by
  induction a with
  | nil =>
    constructor
    · intro hb
      cases hb
    · rintro ⟨hne, hb⟩
      exact absurd (List.suffix_nil.1 hb) hne
  | cons c a ih =>
    rw [suffixes, List.mem_cons, List.suffix_cons_iff, ih]
    constructor
    · rintro (rfl | ⟨hne, hb⟩)
      · exact ⟨List.cons_ne_nil _ _, .inl rfl⟩
      · exact ⟨hne, .inr hb⟩
    · rintro ⟨hne, rfl | hb⟩
      · exact .inl rfl
      · exact .inr ⟨hne, hb⟩

/-! ## The matcher and the language -/

/-- One character in front of the rest of the pattern. -/
theorem mem_one_mul {P : UInt8 → Prop} {L : Language UInt8} {c : UInt8} {a : List UInt8} :
    c :: a ∈ one P * L ↔ P c ∧ a ∈ L := by
  rw [Language.mem_mul]
  constructor
  · rintro ⟨_, ⟨d, hd, rfl⟩, b, hb, heq⟩
    cases heq
    exact ⟨hd, hb⟩
  · rintro ⟨hc, ha⟩
    exact ⟨[c], ⟨c, hc, rfl⟩, a, ha, rfl⟩

theorem nil_notMem_one_mul {P : UInt8 → Prop} {L : Language UInt8} : [] ∉ one P * L := by
  rw [Language.mem_mul]
  rintro ⟨_, ⟨d, -, rfl⟩, b, -, heq⟩
  cases heq

/-- A class takes one character that is in it. -/
theorem patternMatchImpl_cls {p rest : List UInt8} {negated : Bool} {items : List ClassItem}
    (h : parseClass p = some (negated, items, rest)) (ch : UInt8) (a : List UInt8) :
    patternMatchImpl (byte '[' :: p) (ch :: a) = true ↔
      classHas negated items ch = true ∧ patternMatchImpl rest a = true := by
  rw [patternMatchImpl.eq_def]
  simp only
  rw [if_neg (by decide), if_neg (by decide), if_pos trivial]
  split
  · rename_i p' hm
    rw [matchCharClass_eq ch h, Option.some.injEq, Prod.mk.injEq] at hm
    rw [← hm.2, hm.1]
    simp only [true_and]
  · rename_i hm
    refine ⟨fun hf => absurd hf Bool.false_ne_true, fun ha => absurd ?_ (hm rest)⟩
    rw [matchCharClass_eq ch h, ha.1]

/-- A brace that fits the buffer tries each of its alternatives with the rest of the pattern. -/
theorem patternMatchImpl_alt {p rest : List UInt8} {alts : List (List UInt8)}
    (h : parseAlts p [] = some (alts, rest))
    (hfit : ∀ x ∈ alts, x.length < altSize - 1 ∧ x.length + rest.length < altSize)
    (a : List UInt8) : patternMatchImpl (byte '{' :: p) a = true ↔
      ∃ x ∈ alts, patternMatchImpl (x ++ rest) a = true := by
  rw [patternMatchImpl.eq_def]
  simp only
  rw [if_neg (by decide), if_neg (by decide), if_neg (by decide), if_pos trivial, List.any_eq_true]
  simp only [List.mem_attach, true_and, Subtype.exists, skipBraces_eq h, candidates_eq h hfit,
    List.mem_map, exists_prop, exists_exists_and_eq_and]

/-- **The matcher, exactly.**  On a well-formed pattern that fits the buffer it accepts the
    addresses that can be read with a character for whatever follows a `*`. -/
theorem patternMatchImpl_iff {p : List UInt8} {es : List Elem} (h : parse p = some es)
    (hfit : fits es = true) (a : List UInt8) :
    patternMatchImpl p a = true ↔ a ∈ anchored anyChar es := by
  match p with
  | [] =>
    rw [parse] at h
    cases h
    rw [patternMatchImpl, List.isEmpty_iff]
    exact Iff.rfl
  | c :: p =>
    rcases parse_cons h with ⟨rfl, es', hes, rfl⟩ | ⟨rfl, es', hes, rfl⟩ |
      ⟨rfl, negated, items, rest, es', hcls, hes, rfl⟩ | ⟨rfl, alts, rest, es', halts, hes, rfl⟩ |
      ⟨hc, es', hes, rfl⟩
    case inl =>
      rw [patternMatchImpl.eq_def]
      simp only
      rw [if_pos trivial]
      cases a with
      | nil => exact iff_of_false Bool.false_ne_true nil_notMem_one_mul
      | cons b a =>
        simp only [patternMatchImpl_iff hes hfit a, anchored, denote, mem_one_mul, anyChar, true_and]
    case inr.inl =>
      have hdrop := parse_dropStars hes
      have hlen : (p.dropWhile (· == byte '*')).length ≤ p.length :=
        (List.dropWhile_suffix _).length_le
      rw [patternMatchImpl.eq_def]
      simp only
      rw [if_neg (by decide), if_pos trivial]
      simp only [parse_eq_nil hdrop, ← stars_iff]
      cases hstars : stars es' with
      | true => simp only [if_true, star_last hstars]
      | false =>
        simp only [Bool.false_eq_true, if_false, List.any_eq_true, mem_suffixes, star_then hstars,
          patternMatchImpl_iff hdrop ((fits_dropStars es').trans hfit), and_assoc]
    case inr.inr.inl =>
      have hlen := parseClass_length hcls
      cases a with
      | nil =>
        rw [patternMatchImpl.eq_def]
        exact iff_of_false Bool.false_ne_true nil_notMem_one_mul
      | cons ch a =>
        rw [patternMatchImpl_cls hcls, patternMatchImpl_iff hes hfit a]
        simp only [anchored, denote, mem_one_mul]
    case inr.inr.inr.inl =>
      have hwidth := parse_width hes
      simp only [fits, Bool.and_eq_true, List.all_eq_true, decide_eq_true_eq, ← hwidth] at hfit
      rw [patternMatchImpl_alt halts hfit.1, anchored, denote, Language.mem_mul]
      refine exists_congr fun x => and_congr_right fun hx => ?_
      -- an alternative and the rest of the pattern are again a pattern, and a shorter one
      have hparse : parse (x ++ rest) = some (x.map Elem.lit ++ es') := by
        rw [parse_literals (parseAlts_literal halts (by simp) x hx), hes]
        rfl
      have hshort : x.length + rest.length < p.length := alternative_length halts hx
      rw [patternMatchImpl_iff hparse ((fits_literals x es').trans hfit.2) a, anchored,
        mem_denote_literals]
    case inr.inr.inr.inr =>
      simp only [metachars, List.mem_cons, List.not_mem_nil, or_false, not_or] at hc
      rw [patternMatchImpl.eq_def]
      simp only
      rw [if_neg hc.1, if_neg hc.2.1, if_neg hc.2.2.1, if_neg hc.2.2.2]
      cases a with
      | nil => exact iff_of_false Bool.false_ne_true nil_notMem_one_mul
      | cons b a =>
        simp only [anchored, denote, mem_one_mul]
        split
        · rename_i hcb
          rw [patternMatchImpl_iff hes hfit a]
          simp only [hcb, anchored, true_and]
        · rename_i hcb
          exact iff_of_false Bool.false_ne_true fun ha => hcb ha.1.symm
termination_by p.length

/-- **OSC address matching.**  What the matcher accepts on a well-formed pattern that fits its
    buffer is in the language of the pattern, `?` and `*` taking any character; and every address
    of the language with a reading in which whatever follows a `*` takes a character is accepted. -/
theorem oscPatternMatch_language {pattern : List UInt8} {es : List Elem}
    (h : parse pattern = some es) (hfit : fits es = true) (address : List UInt8) :
    (oscPatternMatch (some pattern) (some address) = true → address ∈ language anyChar es) ∧
      (address ∈ anchored anyChar es → oscPatternMatch (some pattern) (some address) = true) := by
  have hiff := patternMatchImpl_iff h hfit address
  exact ⟨fun hm => anchored_le anyChar es (hiff.1 hm), hiff.2⟩

/-- `/avatar/[a-p]*/` and one of `JawOpen`, nothing and `LipOpen`. -/
def avatarElems : List Elem :=
  (ascii "/avatar/").map .lit ++
    [.cls false [.range (byte 'a') (byte 'p')], .star, .lit (byte '/'),
     .alt [ascii "JawOpen", [], ascii "LipOpen"]]

theorem jawOpen_mem_language : ascii "/avatar/parameters/v2/JawOpen" ∈ language anyChar avatarElems :=
  have hparse : parse (ascii "/avatar/[a-p]*/\x7bJawOpen,,LipOpen\x7d") = some avatarElems := by
    decide +kernel
  (oscPatternMatch_language hparse (by decide) _).1 (by decide +kernel)

/-- Patterns in which nothing that follows a `*` can match the empty string match exactly their
    language. -/
theorem oscPatternMatch_iff {pattern : List UInt8} {es : List Elem}
    (h : parse pattern = some es) (hfit : fits es = true) (hstars : starsAnchored es = true)
    (address : List UInt8) :
    oscPatternMatch (some pattern) (some address) = true ↔ address ∈ language anyChar es := by
  have hiff := patternMatchImpl_iff h hfit address
  exact ⟨fun hm => anchored_le anyChar es (hiff.1 hm),
    fun ha => hiff.2 (language_le_anchored anyChar hstars ha)⟩

/-- A `*` runs over a `/`: the matcher works on the whole address, not on its components. -/
theorem star_matches_slash :
    ¬ ∀ (pattern address : List UInt8) (es : List Elem), parse pattern = some es → fits es = true →
      (oscPatternMatch (some pattern) (some address) = true ↔
        address ∈ language (· ≠ byte '/') es) := by
  intro h
  have hiff := h (ascii "*") (ascii "/") [.star] (by decide +kernel) rfl
  have hmem := hiff.1 (by decide +kernel)
  obtain ⟨x, hx, b, ⟨hb, -⟩, heq⟩ := Language.mem_mul.1 hmem
  have hnil : b = [] := hb
  rw [hnil, List.append_nil] at heq
  exact hx (byte '/') (heq ▸ List.mem_singleton.2 rfl) rfl

end WKPairDriver.Osc
