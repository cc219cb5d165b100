import Mathlib

/-!
# Quoted literals

A script is bare text with literals in it.  A writer puts a literal between two quotes of one kind
and doubles that kind inside.  A reader takes any of several characters for a quote, a quote behind
a quote for one of the two, and every other quote for the end of the literal.

* `reads_render_iff` — a script is read back exactly when no literal holds a quote of a kind the
  writer does not double, whichever of two quotes the reader keeps.
-/

set_option autoImplicit false

namespace Lib.Quoting

universe u

variable {α : Type u}

/-- A stretch of a script. -/
inductive Segment (α : Type u) where
  | text (t : List α)
  | literal (v : List α)
  deriving DecidableEq, Repr

/-- The text before the first literal, then each literal with the text behind it. -/
structure Script (α : Type u) where
  head : List α
  rest : List (List α × List α)
  deriving DecidableEq, Repr

/-- The segments of a script. -/
def Script.segments (s : Script α) : List (Segment α) :=
  .text s.head :: s.rest.flatMap fun p => [.literal p.1, .text p.2]

/-- The literals of a script. -/
def Script.literals (s : Script α) : List (List α) := s.rest.map Prod.fst

section Reader

variable (isQuote : α → Bool) (one : α → α → α)

/-- Reads a script, outside a literal or in one, with the characters of the segment so far. -/
def scan : Bool → List α → List α → Option (List (Segment α))
  | false, cur, [] => some [.text cur]
  | false, cur, c :: rest =>
    if isQuote c = true then (scan true [] rest).map (.text cur :: ·)
    else scan false (cur ++ [c]) rest
  | true, _, [] => none
  | true, cur, [c] =>
    if isQuote c = true then some [.literal cur, .text []] else none
  | true, cur, c :: d :: rest =>
    if isQuote c = true then
      if isQuote d = true then scan true (cur ++ [one c d]) rest
      else (scan false [] (d :: rest)).map (.literal cur :: ·)
    else scan true (cur ++ [c]) (d :: rest)

/-- The segments of a text, unless a literal has no end. -/
def read (text : List α) : Option (List (Segment α)) := scan isQuote one false [] text

end Reader

section Writer

variable [DecidableEq α] (quote : α)

/-- A literal's content, its quotes doubled. -/
def escape (v : List α) : List α := v.flatMap fun c => if c = quote then [quote, quote] else [c]

/-- A literal. -/
def quoted (v : List α) : List α := quote :: (escape quote v ++ [quote])

/-- The literals of a script with the text behind each. -/
def renderRest (rest : List (List α × List α)) : List α :=
  rest.flatMap fun p => quoted quote p.1 ++ p.2

/-- The script as written. -/
def Script.render (s : Script α) : List α := s.head ++ renderRest quote s.rest

end Writer

/-- No text of the script holds a quote, and text stands between two literals. -/
structure Script.Separated (isQuote : α → Bool) (s : Script α) : Prop where
  head : ∀ c ∈ s.head, isQuote c = false
  rest : ∀ p ∈ s.rest, p.2 ≠ [] ∧ ∀ c ∈ p.2, isQuote c = false

/-- Every quote of the text is of the kind that is doubled. -/
def Doubled (isQuote : α → Bool) (quote : α) (v : List α) : Prop :=
  ∀ c ∈ v, isQuote c = true → c = quote

instance [DecidableEq α] (isQuote : α → Bool) (quote : α) (v : List α) :
    Decidable (Doubled isQuote quote v) :=
  inferInstanceAs (Decidable (∀ c ∈ v, isQuote c = true → c = quote))

theorem Doubled.append_iff {isQuote : α → Bool} {quote : α} {v w : List α} :
    Doubled isQuote quote (v ++ w) ↔ Doubled isQuote quote v ∧ Doubled isQuote quote w := by
  simp only [Doubled, List.mem_append, or_imp, forall_and]

/-! ## What is read of a literal -/

section Reading

variable {isQuote : α → Bool} {one : α → α → α}

theorem scan_open {c : α} (hc : isQuote c = true) (cur s : List α) :
    scan isQuote one false cur (c :: s) = (scan isQuote one true [] s).map (.text cur :: ·) := by
  rw [scan, if_pos hc]

theorem scan_pair {c d : α} (hc : isQuote c = true) (hd : isQuote d = true) (cur s : List α) :
    scan isQuote one true cur (c :: d :: s) = scan isQuote one true (cur ++ [one c d]) s := by
  rw [scan, if_pos hc, if_pos hd]

theorem scan_close {c d : α} (hc : isQuote c = true) (hd : isQuote d = false) (cur s : List α) :
    scan isQuote one true cur (c :: d :: s) =
      (scan isQuote one false [] (d :: s)).map (.literal cur :: ·) := by
  rw [scan.eq_5, if_pos hc, if_neg (by simp [hd])]

theorem scan_plain {c : α} (hc : isQuote c = false) (d : α) (cur s : List α) :
    scan isQuote one true cur (c :: d :: s) = scan isQuote one true (cur ++ [c]) (d :: s) := by
  rw [scan.eq_5, if_neg (by simp [hc])]

/-- Text without quotes joins the segment before it. -/
theorem scan_text : ∀ (t cur s : List α), (∀ c ∈ t, isQuote c = false) →
    scan isQuote one false cur (t ++ s) = scan isQuote one false (cur ++ t) s
  | [], cur, s, _ => by simp
  | c :: t, cur, s, h => by
    have hc : isQuote c = false := h c List.mem_cons_self
    rw [List.cons_append, scan, if_neg (by simp [hc]),
      scan_text t _ s fun d hd => h d (List.mem_cons_of_mem _ hd)]
    simp

/-- **What a read literal stood in**: the characters before the closing quote hold as many that are
    no quotes as the literal, and two quotes for each of its quotes. -/
theorem exists_raw_of_scan (hone : ∀ a b, one a b = a ∨ one a b = b) :
    ∀ (n : ℕ) (s cur : List α) {segs : List (Segment α)}, s.length ≤ n →
      scan isQuote one true cur s = some segs →
      ∃ w raw q r tail, segs = .literal (cur ++ w) :: tail ∧ s = raw ++ q :: r ∧
        isQuote q = true ∧ raw.countP (!isQuote ·) = w.countP (!isQuote ·) ∧
        raw.length = w.length + w.countP isQuote := by
  intro n
  induction n with
  | zero =>
    intro s cur segs hn h
    obtain rfl : s = [] := List.length_eq_zero_iff.1 (by omega)
    simp [scan] at h
  | succ n ih =>
    intro s cur segs hn h
    match s with
    | [] => simp [scan] at h
    | [c] =>
      rw [scan] at h
      split at h
      next hc =>
        refine ⟨[], [], c, [], [.text []], ?_, rfl, hc, rfl, rfl⟩
        simpa using (Option.some.inj h).symm
      next => cases h
    | c :: d :: rest =>
      simp only [List.length_cons] at hn
      rw [scan] at h
      split at h
      next hc =>
        split at h
        next hd =>
          -- two quotes, of which the literal keeps one
          obtain ⟨w, raw, q, r, tail, rfl, hs, hq, hcount, hlen⟩ := ih rest _ (by omega) h
          have hkept : isQuote (one c d) = true := by
            rcases hone c d with he | he <;> rw [he] <;> assumption
          refine ⟨one c d :: w, c :: d :: raw, q, r, tail, by simp, by simp [hs], hq, ?_, ?_⟩
          · simp [hc, hd, hkept, hcount]
          · simp only [List.length_cons, List.countP_cons, hkept, if_true, hlen]
            omega
        next =>
          obtain ⟨tail, -, rfl⟩ := Option.map_eq_some_iff.1 h
          exact ⟨[], [], c, d :: rest, tail, by simp, rfl, hc, rfl, rfl⟩
      next hc =>
        obtain ⟨w, raw, q, r, tail, rfl, hs, hq, hcount, hlen⟩ :=
          ih (d :: rest) _ (by simp only [List.length_cons]; omega) h
        refine ⟨c :: w, c :: raw, q, r, tail, by simp, by simp [hs], hq, ?_, ?_⟩
        · simp [hc, hcount]
        · simp only [List.length_cons, List.countP_cons, if_neg hc, hlen]
          omega

variable [DecidableEq α] {quote : α}

@[simp] theorem escape_nil : escape quote ([] : List α) = [] := rfl

theorem escape_cons (c : α) (v : List α) :
    escape quote (c :: v) = (if c = quote then [quote, quote] else [c]) ++ escape quote v := rfl

theorem escape_countP (hquote : isQuote quote = true) (v : List α) :
    (escape quote v).countP (!isQuote ·) = v.countP (!isQuote ·) := by
  induction v with
  | nil => rfl
  | cons c v ih =>
    rw [escape_cons, List.countP_append, ih, List.countP_cons]
    split
    next h => simp [h, hquote]
    next => simp [List.countP_cons, Nat.add_comm]

theorem escape_length (v : List α) : (escape quote v).length = v.length + v.count quote := by
  induction v with
  | nil => rfl
  | cons c v ih =>
    rw [escape_cons, List.length_append, ih, List.length_cons, List.count_cons]
    split
    next h =>
      simp [h]
      omega
    next h =>
      simp [h]
      omega

/-- The quotes that are not doubled make a text's quotes more than those of the one kind. -/
theorem count_lt_countP (hquote : isQuote quote = true) {v : List α}
    (h : ¬ Doubled isQuote quote v) : v.count quote < v.countP isQuote := by
  simp only [Doubled, not_forall] at h
  obtain ⟨c, hc, hq, hne⟩ := h
  have hsub : v.count quote ≤ (v.erase c).countP isQuote := by
    rw [← List.count_erase_of_ne (Ne.symm hne)]
    exact List.countP_mono_left fun x _ hx => by rw [beq_iff_eq.1 hx, hquote]
  have herase : (v.erase c).countP isQuote + 1 = v.countP isQuote := by
    have hp := (List.perm_cons_erase hc).countP_eq isQuote
    rw [hp, List.countP_cons, if_pos hq]
  omega

/-- A literal whose quotes are all doubled is read whole. -/
theorem scan_quoted (hquote : isQuote quote = true) (hone : ∀ a b, one a b = a ∨ one a b = b)
    {d : α} {s : List α} (hd : isQuote d = false) :
    ∀ {v : List α} (cur : List α), Doubled isQuote quote v →
      scan isQuote one true cur (escape quote v ++ quote :: d :: s) =
        (scan isQuote one false [] (d :: s)).map (.literal (cur ++ v) :: ·)
  | [], cur, _ => by
    rw [escape_nil, List.nil_append, scan_close hquote hd, List.append_nil]
  | c :: v, cur, h => by
    have hv : Doubled isQuote quote v := fun x hx => h x (List.mem_cons_of_mem _ hx)
    by_cases hc : c = quote
    · have hkept : one quote quote = quote := (hone quote quote).elim id id
      have hpair : escape quote (c :: v) ++ quote :: d :: s =
          quote :: quote :: (escape quote v ++ quote :: d :: s) := by
        rw [escape_cons, if_pos hc]
        rfl
      rw [hpair, scan_pair hquote hquote, hkept, scan_quoted hquote hone hd _ hv, hc]
      simp
    · have hplain : isQuote c = false :=
        Bool.eq_false_iff.2 fun hq => hc (h c List.mem_cons_self hq)
      obtain ⟨e, t, he⟩ : ∃ e t, escape quote v ++ quote :: d :: s = e :: t :=
        List.exists_cons_of_ne_nil (by simp)
      rw [escape_cons, if_neg hc, List.cons_append, List.nil_append, List.cons_append, he,
        scan_plain hplain, ← he, scan_quoted hquote hone hd _ hv]
      simp

/-- A literal with a quote that is not doubled is not read as it is. -/
theorem scan_ne_literal (hquote : isQuote quote = true) (hone : ∀ a b, one a b = a ∨ one a b = b)
    {d : α} {s v : List α} (hd : isQuote d = false) (h : ¬ Doubled isQuote quote v)
    (tail : List (Segment α)) :
    scan isQuote one true [] (escape quote v ++ quote :: d :: s) ≠ some (.literal v :: tail) := by
  intro he
  obtain ⟨w, raw, q, r, tail', hsegs, hs, hq, hcount, hlen⟩ :=
    exists_raw_of_scan hone _ _ _ le_rfl he
  obtain ⟨hw, -⟩ := List.cons.inj hsegs
  obtain rfl : v = w := by simpa using hw
  have hlt := count_lt_countP hquote h
  have hesc : (escape quote v).length = v.length + v.count quote := escape_length v
  -- the reader is past the closing quote, and what it took beyond it has only quotes
  obtain ⟨z, hz⟩ : ∃ z, raw = escape quote v ++ quote :: z := by
    have hp : escape quote v ++ [quote] <+: raw := by
      refine List.prefix_of_prefix_length_le ?_ (List.prefix_append raw (q :: r)) ?_
      · rw [← hs]
        exact ⟨d :: s, by simp⟩
      · rw [List.length_append, List.length_singleton]
        omega
    obtain ⟨z, rfl⟩ := hp
    exact ⟨z, by simp⟩
  have hzero : z.countP (!isQuote ·) = 0 := by
    rw [hz, List.countP_append, escape_countP hquote, List.countP_cons] at hcount
    omega
  rw [hz, List.append_assoc, List.cons_append] at hs
  have hrest : d :: s = z ++ q :: r := (List.cons.inj (List.append_cancel_left hs)).2
  match z with
  | [] =>
    have hdq : d = q := (List.cons.inj hrest).1
    rw [hdq, hq] at hd
    cases hd
  | e :: z =>
    have hde : d = e := (List.cons.inj hrest).1
    rw [← hde, List.countP_cons] at hzero
    simp [hd] at hzero

/-- **A script is read back exactly when every quote in its literals is of the kind the writer
    doubles.** -/
theorem reads_render_iff (hquote : isQuote quote = true)
    (hone : ∀ a b, one a b = a ∨ one a b = b) (s : Script α) (hs : s.Separated isQuote) :
    read isQuote one (s.render quote) = some s.segments ↔
      ∀ v ∈ s.literals, Doubled isQuote quote v := by
  have key : ∀ (rest : List (List α × List α)) (cur : List α),
      (∀ p ∈ rest, p.2 ≠ [] ∧ ∀ c ∈ p.2, isQuote c = false) →
      (scan isQuote one false cur (renderRest quote rest) =
          some (Script.segments ⟨cur, rest⟩) ↔
        ∀ v ∈ rest.map Prod.fst, Doubled isQuote quote v) := by
    intro rest
    induction rest with
    | nil => simp [renderRest, scan, Script.segments]
    | cons p rest ih =>
      intro cur h
      obtain ⟨v, t⟩ := p
      obtain ⟨hne, ht⟩ := h (v, t) List.mem_cons_self
      have hrest : ∀ p ∈ rest, p.2 ≠ [] ∧ ∀ c ∈ p.2, isQuote c = false :=
        fun p hp => h p (List.mem_cons_of_mem _ hp)
      obtain ⟨d, t', rfl⟩ := List.exists_cons_of_ne_nil hne
      have hd : isQuote d = false := ht d List.mem_cons_self
      have hrender : renderRest quote ((v, d :: t') :: rest) =
          quote :: (escape quote v ++ quote :: d :: (t' ++ renderRest quote rest)) := by
        simp [renderRest, quoted]
      have hsegs : Script.segments ⟨cur, (v, d :: t') :: rest⟩ =
          .text cur :: .literal v :: Script.segments ⟨d :: t', rest⟩ := rfl
      rw [hrender, scan_open hquote, hsegs, List.map_cons, List.forall_mem_cons]
      by_cases hv : Doubled isQuote quote v
      · have hback : scan isQuote one false [] (d :: t' ++ renderRest quote rest) =
            scan isQuote one false ([] ++ d :: t') (renderRest quote rest) :=
          scan_text (d :: t') [] (renderRest quote rest) ht
        rw [scan_quoted hquote hone hd [] hv, ← List.cons_append, hback, List.nil_append,
          List.nil_append, ← ih (d :: t') hrest]
        cases scan isQuote one false (d :: t') (renderRest quote rest) <;> simp [hv]
      · simp only [hv, false_and, iff_false]
        intro he
        obtain ⟨segs, hsegs', hcons⟩ := Option.map_eq_some_iff.1 he
        rw [(List.cons.inj hcons).2] at hsegs'
        exact scan_ne_literal hquote hone hd hv _ hsegs'
  have hread : read isQuote one (s.render quote) =
      scan isQuote one false s.head (renderRest quote s.rest) := by
    rw [read, Script.render, scan_text _ _ _ hs.head, List.nil_append]
  rw [hread]
  exact key s.rest s.head hs.rest

end Reading

end Lib.Quoting
