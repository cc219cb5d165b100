import Mathlib

/-!
# Splitting a command line

How the Microsoft C runtime splits a command line, over any alphabet that tells the four
characters of the rules apart: blanks outside quotes separate arguments, `2 n` backslashes and a
quote are `n` backslashes and begin or end a quoted part, `2 n + 1` backslashes and a quote are `n`
backslashes and a quote, and any other backslash is literal.

Two rules are left out.  The first word, the program name, is read up to its closing quote without a
meaning for backslashes, which is the same for a name with no quote and no backslash at its end; and
two quotes in a row inside a quoted part are a quote to newer runtimes.

* `split_joined` — words that each read as one argument split into these arguments.
* `weight_split_joined` — what is lost when they do not: the weight of a text counts a backslash
  twice and a quote once, and each word loses its own share of it, whatever the splitter makes of
  the words before.
-/

set_option autoImplicit false

namespace Lib.CommandLine

universe u

/-- The characters the rules name, told apart. -/
class Chars (α : Type u) where
  quote : α
  backslash : α
  space : α
  tab : α
  nodup : [quote, backslash, space, tab].Nodup

export Chars (quote backslash space tab)

variable {α : Type u} [Chars α]

theorem quote_ne_backslash : (quote : α) ≠ backslash := by
  have h := Chars.nodup (α := α)
  simp only [List.nodup_cons, List.mem_cons, not_or] at h
  exact h.1.1

theorem space_ne_backslash : (space : α) ≠ backslash := by
  have h := Chars.nodup (α := α)
  simp only [List.nodup_cons, List.mem_cons, not_or] at h
  exact Ne.symm h.2.1.1

theorem space_ne_quote : (space : α) ≠ quote := by
  have h := Chars.nodup (α := α)
  simp only [List.nodup_cons, List.mem_cons, not_or] at h
  exact Ne.symm h.1.2.1

variable [DecidableEq α]

/-- The characters that separate arguments outside quotes. -/
def isBlank (c : α) : Bool := decide (c = space ∨ c = tab)

/-- The argument being read: its characters so far, and the backslashes behind them whose meaning
    the next character decides. -/
structure Argument (α : Type u) where
  chars : List α
  slashes : Nat
  deriving DecidableEq, Repr

/-- The argument if it ended here. -/
def Argument.text (a : Argument α) : List α := a.chars ++ List.replicate a.slashes backslash

/-- The splitter between two characters. -/
structure Splitter (α : Type u) where
  done : List (List α)
  current : Option (Argument α)
  inQuotes : Bool
  deriving DecidableEq, Repr

namespace Splitter

/-- The argument being read, or an empty one between two arguments. -/
def pending (s : Splitter α) : Argument α := s.current.getD ⟨[], 0⟩

/-- The argument being read ends. -/
def close (s : Splitter α) : Splitter α where
  done := s.done ++ (s.current.map Argument.text).toList
  current := none
  inQuotes := s.inQuotes

/-- One character. -/
def step (s : Splitter α) (c : α) : Splitter α :=
  let a := s.pending
  if c = backslash then { s with current := some { a with slashes := a.slashes + 1 } }
  else if c = quote then
    if a.slashes % 2 = 1 then
      { s with
        current := some ⟨a.chars ++ List.replicate (a.slashes / 2) backslash ++ [quote], 0⟩ }
    else
      { s with
        current := some ⟨a.chars ++ List.replicate (a.slashes / 2) backslash, 0⟩
        inQuotes := !s.inQuotes }
  else if isBlank c = true ∧ s.inQuotes = false then s.close
  else { s with current := some ⟨a.text ++ [c], 0⟩ }

end Splitter

/-- The arguments of a command line. -/
def split (line : List α) : List (List α) :=
  (line.foldl Splitter.step ⟨[], none, false⟩).close.done

/-- Words with a space between them. -/
def joined : List (List α) → List α
  | [] => []
  | w :: ws => w ++ ws.flatMap (space :: ·)

/-! ## One character -/

section Step

variable (s : Splitter α)

theorem step_backslash : s.step backslash =
    { s with current := some { s.pending with slashes := s.pending.slashes + 1 } } := by
  rw [Splitter.step, if_pos rfl]

theorem step_quote_of_odd (h : s.pending.slashes % 2 = 1) : s.step quote =
    { s with
      current := some ⟨s.pending.chars ++ List.replicate (s.pending.slashes / 2) backslash ++
        [quote], 0⟩ } := by
  rw [Splitter.step, if_neg quote_ne_backslash, if_pos rfl, if_pos h]

theorem step_quote_of_even (h : s.pending.slashes % 2 = 0) : s.step quote =
    { s with
      current := some ⟨s.pending.chars ++ List.replicate (s.pending.slashes / 2) backslash, 0⟩
      inQuotes := !s.inQuotes } := by
  rw [Splitter.step, if_neg quote_ne_backslash, if_pos rfl, if_neg (by omega)]

variable {c : α}

theorem step_blank (hb : c ≠ backslash) (hq : c ≠ quote) (h : isBlank c = true)
    (hs : s.inQuotes = false) : s.step c = s.close := by
  rw [Splitter.step, if_neg hb, if_neg hq, if_pos ⟨h, hs⟩]

theorem step_plain (hb : c ≠ backslash) (hq : c ≠ quote)
    (h : ¬ (isBlank c = true ∧ s.inQuotes = false)) :
    s.step c = { s with current := some ⟨s.pending.text ++ [c], 0⟩ } := by
  rw [Splitter.step, if_neg hb, if_neg hq, if_neg h]

theorem step_space (hs : s.inQuotes = false) : s.step space = s.close :=
  step_blank s space_ne_backslash space_ne_quote (by simp [isBlank]) hs

end Step

/-! ## Words that read as one argument -/

/-- Between two arguments, the word `w` reads as the argument `a`. -/
def Encodes (w a : List α) : Prop :=
  ∀ done, ∃ b : Argument α,
    w.foldl Splitter.step ⟨done, none, false⟩ = ⟨done, some b, false⟩ ∧ b.text = a

/-- A part without quotes and blanks is appended to the argument being read. -/
theorem foldl_bare (done : List (List α)) :
    ∀ (cs : List α) (a : Argument α), (∀ c ∈ cs, c ≠ quote ∧ isBlank c = false) →
      ∃ b : Argument α, cs.foldl Splitter.step ⟨done, some a, false⟩ = ⟨done, some b, false⟩ ∧
        b.text = a.text ++ cs
  | [], a, _ => ⟨a, rfl, (List.append_nil _).symm⟩
  | c :: cs, a, h => by
    have hc := h c (List.mem_cons_self ..)
    have hcs : ∀ d ∈ cs, d ≠ quote ∧ isBlank d = false :=
      fun d hd => h d (List.mem_cons_of_mem c hd)
    rw [List.foldl_cons]
    by_cases hb : c = backslash
    · obtain ⟨b, hrun, htext⟩ := foldl_bare done cs ⟨a.chars, a.slashes + 1⟩ hcs
      refine ⟨b, ?_, ?_⟩
      · rw [hb, step_backslash]
        exact hrun
      · rw [htext, hb]
        simp [Argument.text, List.replicate_succ']
    · obtain ⟨b, hrun, htext⟩ := foldl_bare done cs ⟨a.text ++ [c], 0⟩ hcs
      refine ⟨b, ?_, ?_⟩
      · rw [step_plain _ hb hc.1 (by simp [hc.2])]
        exact hrun
      · rw [htext]
        simp [Argument.text]

/-- A nonempty word without quotes and blanks reads as itself. -/
theorem Encodes.bare {w : List α} (hne : w ≠ []) (h : ∀ c ∈ w, c ≠ quote ∧ isBlank c = false) :
    Encodes w w := by
  intro done
  obtain ⟨c, cs, rfl⟩ := List.exists_cons_of_ne_nil hne
  -- the first character opens the argument, as if an empty one were being read
  have hopen : ∀ d : α, d ≠ quote → isBlank d = false →
      Splitter.step ⟨done, none, false⟩ d = Splitter.step ⟨done, some ⟨[], 0⟩, false⟩ d := by
    intro d hq hd
    simp [Splitter.step, Splitter.pending, hq, hd]
  obtain ⟨b, hrun, htext⟩ := foldl_bare done (c :: cs) ⟨[], 0⟩ h
  refine ⟨b, ?_, by simpa [Argument.text] using htext⟩
  rw [List.foldl_cons, hopen c (h c (List.mem_cons_self ..)).1 (h c (List.mem_cons_self ..)).2]
  exact hrun

/-- The words behind the first one, each behind its space. -/
theorem foldl_words {ws as : List (List α)} (h : List.Forall₂ Encodes ws as) :
    ∀ (done : List (List α)) (b : Argument α),
      ((ws.flatMap (space :: ·)).foldl Splitter.step ⟨done, some b, false⟩).close.done =
        done ++ [b.text] ++ as := by
  induction h with
  | nil =>
    intro done b
    simp [Splitter.close]
  | @cons w a ws as hw _ ih =>
    intro done b
    obtain ⟨b', hrun, htext⟩ := hw (done ++ [b.text])
    have hspace : Splitter.step ⟨done, some b, false⟩ space = ⟨done ++ [b.text], none, false⟩ :=
      step_space _ rfl
    rw [List.flatMap_cons, List.foldl_append, List.foldl_cons, hspace, hrun, ih, htext]
    simp

/-- **Words that each read as one argument split into these arguments.** -/
theorem split_joined {ws as : List (List α)} (h : List.Forall₂ Encodes ws as) :
    split (joined ws) = as := by
  cases h with
  | nil => rfl
  | @cons w a ws as hw hws =>
    obtain ⟨b, hrun, htext⟩ := hw []
    rw [split, joined, List.foldl_append, hrun, foldl_words hws, htext]
    rfl

/-! ## What a word loses -/

/-- The weight of a text: a backslash counts twice, a quote once. -/
def weight (t : List α) : Nat := 2 * t.count backslash + t.count quote

@[simp] theorem weight_nil : weight ([] : List α) = 0 := rfl

theorem weight_append (t u : List α) : weight (t ++ u) = weight t + weight u := by
  simp only [weight, List.count_append]
  ring

@[simp] theorem weight_slashes (n : Nat) : weight (List.replicate n (backslash : α)) = 2 * n := by
  have hq : (List.replicate n (backslash : α)).count quote = 0 := by
    rw [List.count_replicate]
    simp [(quote_ne_backslash (α := α)).symm]
  rw [weight, hq, List.count_replicate_self, Nat.add_zero]

@[simp] theorem weight_backslash : weight [(backslash : α)] = 2 := weight_slashes 1

@[simp] theorem weight_quote : weight [(quote : α)] = 1 := by
  simp [weight, quote_ne_backslash]

theorem weight_plain {c : α} (hb : c ≠ backslash) (hq : c ≠ quote) : weight [c] = 0 := by
  simp [weight, hb, hq]

theorem weight_cons (c : α) (t : List α) : weight (c :: t) = weight [c] + weight t :=
  weight_append [c] t

/-- The weight of the arguments of a list. -/
def weights (ts : List (List α)) : Nat := (ts.map weight).sum

/-- What the splitter holds. -/
def Splitter.weight (s : Splitter α) : Nat := weights s.done + CommandLine.weight s.pending.text

theorem weight_text (a : Argument α) : weight a.text = weight a.chars + 2 * a.slashes := by
  rw [Argument.text, weight_append, weight_slashes]

theorem Splitter.weight_eq (s : Splitter α) :
    s.weight = weights s.done + (CommandLine.weight s.pending.chars + 2 * s.pending.slashes) := by
  rw [Splitter.weight, weight_text]

theorem Splitter.weight_close (s : Splitter α) : s.close.weight = s.weight := by
  obtain ⟨done, _ | a, q⟩ := s
  · simp [close, Splitter.weight, pending, Argument.text, weights]
  · simp [close, Splitter.weight, pending, weights, Argument.text]

/-- The weight of what the line splits into. -/
theorem weights_split (line : List α) :
    weights (split line) = (line.foldl Splitter.step ⟨[], none, false⟩).weight := by
  rw [← Splitter.weight_close]
  simp [split, Splitter.weight, Splitter.close, Splitter.pending, Argument.text]

/-- A backslash is kept. -/
theorem weight_step_backslash (s : Splitter α) : (s.step backslash).weight = s.weight + 2 := by
  rw [step_backslash, Splitter.weight_eq, Splitter.weight_eq]
  simp only [Splitter.pending, Option.getD_some]
  omega

/-- A quote behind `k` backslashes takes away what `k` of their weight is. -/
theorem weight_step_quote (s : Splitter α) :
    (s.step quote).weight + s.pending.slashes = s.weight := by
  rcases Nat.mod_two_eq_zero_or_one s.pending.slashes with h | h
  · rw [step_quote_of_even s h, Splitter.weight_eq, Splitter.weight_eq]
    simp only [Splitter.pending, Option.getD_some, weight_append, weight_slashes] at h ⊢
    omega
  · rw [step_quote_of_odd s h, Splitter.weight_eq, Splitter.weight_eq]
    simp only [Splitter.pending, Option.getD_some, weight_append, weight_slashes,
      weight_quote] at h ⊢
    omega

/-- Any other character has no weight, and none is lost at it. -/
theorem weight_step_other (s : Splitter α) {c : α} (hb : c ≠ backslash) (hq : c ≠ quote) :
    (s.step c).weight = s.weight ∧ (s.step c).pending.slashes = 0 := by
  by_cases h : isBlank c = true ∧ s.inQuotes = false
  · rw [step_blank s hb hq h.1 h.2]
    exact ⟨s.weight_close, rfl⟩
  · rw [step_plain s hb hq h]
    refine ⟨?_, rfl⟩
    rw [Splitter.weight_eq, Splitter.weight, weight_text]
    simp only [Splitter.pending, Option.getD_some, weight_append, weight_text,
      weight_plain hb hq]
    omega

/-- A part without quotes loses nothing. -/
theorem weight_foldl_bare {w : List α} (h : quote ∉ w) (s : Splitter α) :
    (w.foldl Splitter.step s).weight = s.weight + weight w := by
  induction w generalizing s with
  | nil => simp
  | cons c w ih =>
    have hq : c ≠ quote := fun hc => h (hc ▸ List.mem_cons_self ..)
    rw [List.foldl_cons, ih (fun hc => h (List.mem_cons_of_mem c hc)), weight_cons c w]
    by_cases hb : c = backslash
    · rw [hb, weight_step_backslash, weight_backslash]
      omega
    · rw [(weight_step_other s hb hq).1, weight_plain hb hq]
      omega

/-- Of the weight of the argument `a` the word `w` loses `n`, whatever state it is read in. -/
def Loses (w a : List α) (n : Nat) : Prop :=
  ∀ s : Splitter α, s.pending.slashes = 0 →
    (w.foldl Splitter.step s).weight + n = s.weight + weight a

/-- A word on a command line and the argument it stands for. -/
structure Word (α : Type u) [Chars α] [DecidableEq α] where
  text : List α
  argument : List α
  loss : Nat
  loses : Loses text argument loss
  encodes : loss = 0 → Encodes text argument

/-- A nonempty word without quotes and blanks stands for itself. -/
def Word.bare (w : List α) (hne : w ≠ []) (h : ∀ c ∈ w, c ≠ quote ∧ isBlank c = false) :
    Word α where
  text := w
  argument := w
  loss := 0
  loses := fun s _ => weight_foldl_bare (fun hq => (h quote hq).1 rfl) s
  encodes := fun _ => Encodes.bare hne h

/-- Behind its space a word is read with no backslash waiting. -/
theorem weight_foldl_words : ∀ (ws : List (Word α)) (s : Splitter α),
    (((ws.map Word.text).flatMap (space :: ·)).foldl Splitter.step s).weight +
      (ws.map Word.loss).sum = s.weight + weights (ws.map Word.argument)
  | [], s => by simp [weights]
  | w :: ws, s => by
    obtain ⟨hkept, hnone⟩ := weight_step_other s space_ne_backslash space_ne_quote
    have hw := w.loses (s.step space) hnone
    have hws := weight_foldl_words ws (w.text.foldl Splitter.step (s.step space))
    have hsum : weights ((w :: ws).map Word.argument) =
        weight w.argument + weights (ws.map Word.argument) := by
      simp [weights]
    rw [List.map_cons, List.flatMap_cons, List.foldl_append, List.foldl_cons, hsum,
      List.map_cons, List.sum_cons]
    omega

theorem weights_split_joined (ws : List (Word α)) :
    weights (split (joined (ws.map Word.text))) + (ws.map Word.loss).sum =
      weights (ws.map Word.argument) := by
  cases ws with
  | nil => rfl
  | cons w ws =>
    have hw := w.loses ⟨[], none, false⟩ rfl
    have hws := weight_foldl_words ws (w.text.foldl Splitter.step ⟨[], none, false⟩)
    have hstart : Splitter.weight (⟨[], none, false⟩ : Splitter α) = 0 := by
      simp [Splitter.weight, Splitter.pending, Argument.text, weights]
    have hsum : weights ((w :: ws).map Word.argument) =
        weight w.argument + weights (ws.map Word.argument) := by
      simp [weights]
    rw [weights_split, List.map_cons, joined, List.foldl_append, hsum, List.map_cons,
      List.sum_cons]
    omega

/-- **Words split into the arguments they stand for exactly when none of them loses weight.** -/
theorem split_joined_iff (ws : List (Word α)) :
    split (joined (ws.map Word.text)) = ws.map Word.argument ↔ ∀ w ∈ ws, w.loss = 0 := by
  constructor
  · intro h w hw
    have hweights := weights_split_joined ws
    rw [h] at hweights
    have hle : w.loss ≤ (ws.map Word.loss).sum :=
      List.single_le_sum (fun _ _ => Nat.zero_le _) _ (List.mem_map_of_mem hw)
    omega
  · intro h
    apply split_joined
    rw [List.forall₂_map_left_iff, List.forall₂_map_right_iff, List.forall₂_same]
    exact fun w hw => w.encodes (h w hw)

/-! ## Quoted words -/

/-- A text with a backslash before each of its quotes. -/
def escaped (t : List α) : List α :=
  t.flatMap fun c => if c = quote then [backslash, c] else [c]

/-- A text with its quotes escaped, between quotes. -/
def quoted (t : List α) : List α := quote :: (escaped t ++ [quote])

/-- The backslashes a quoted text loses, `j` of them waiting before it: those before a quote of
    the text, and those at its end. -/
def slashLoss : Nat → List α → Nat
  | j, [] => j
  | j, c :: t =>
    if c = backslash then slashLoss (j + 1) t
    else if c = quote then j + slashLoss 0 t
    else slashLoss 0 t

theorem escaped_cons_quote (t : List α) :
    escaped (quote :: t) = backslash :: quote :: escaped t := by
  simp [escaped]

theorem escaped_cons_other {c : α} (h : c ≠ quote) (t : List α) :
    escaped (c :: t) = c :: escaped t := by
  simp [escaped, h]

/-- The text and the quote behind it, in any state. -/
theorem weight_foldl_escaped : ∀ (t : List α) (s : Splitter α),
    ((escaped t ++ [quote]).foldl Splitter.step s).weight + slashLoss s.pending.slashes t =
      s.weight + weight t
  | [], s => by
    have h := weight_step_quote s
    simpa [escaped, slashLoss] using h
  | c :: t, s => by
    by_cases hq : c = quote
    · subst hq
      have ih := weight_foldl_escaped t ((s.step backslash).step quote)
      have hslash := weight_step_backslash s
      have hquote := weight_step_quote (s.step backslash)
      have hwaiting : (s.step backslash).pending.slashes = s.pending.slashes + 1 := by
        rw [step_backslash]
        rfl
      have hnone : ((s.step backslash).step quote).pending.slashes = 0 := by
        rcases Nat.mod_two_eq_zero_or_one (s.step backslash).pending.slashes with h | h
        · rw [step_quote_of_even _ h]
          rfl
        · rw [step_quote_of_odd _ h]
          rfl
      rw [escaped_cons_quote, List.cons_append, List.cons_append, List.foldl_cons,
        List.foldl_cons, weight_cons, weight_quote, slashLoss, if_neg quote_ne_backslash,
        if_pos rfl]
      rw [hnone] at ih
      omega
    · rw [escaped_cons_other hq, List.cons_append, List.foldl_cons, weight_cons]
      have ih := weight_foldl_escaped t (s.step c)
      by_cases hb : c = backslash
      · subst hb
        have hwaiting : (s.step backslash).pending.slashes = s.pending.slashes + 1 := by
          rw [step_backslash]
          rfl
        have hslash := weight_step_backslash s
        rw [slashLoss, if_pos rfl, weight_backslash]
        rw [hwaiting] at ih
        omega
      · obtain ⟨hkept, hnone⟩ := weight_step_other s hb hq
        rw [slashLoss, if_neg hb, if_neg hq, weight_plain hb hq]
        rw [hnone] at ih
        omega

theorem Loses.quoted (t : List α) : Loses (quoted t) t (slashLoss 0 t) := by
  intro s hs
  have hstep := weight_step_quote s
  have hnone : (s.step quote).pending.slashes = 0 := by
    rw [step_quote_of_even s (by rw [hs])]
    rfl
  have hrest := weight_foldl_escaped t (s.step quote)
  rw [hnone] at hrest
  rw [CommandLine.quoted, List.foldl_cons]
  omega

/-- A text that loses nothing is read back up to the quote behind it. -/
theorem foldl_escaped (done : List (List α)) : ∀ (t : List α) (a : Argument α),
    slashLoss a.slashes t = 0 →
      (escaped t ++ [quote]).foldl Splitter.step ⟨done, some a, true⟩ =
        ⟨done, some ⟨a.text ++ t, 0⟩, false⟩
  | [], a, h => by
    have hs : a.slashes = 0 := h
    show Splitter.step ⟨done, some a, true⟩ quote = _
    rw [step_quote_of_even _ (by simp [Splitter.pending, hs])]
    simp [Splitter.pending, Argument.text, hs]
  | c :: t, a, h => by
    rw [slashLoss] at h
    by_cases hb : c = backslash
    · rw [if_pos hb] at h
      have ih := foldl_escaped done t ⟨a.chars, a.slashes + 1⟩ h
      rw [escaped_cons_other (hb ▸ quote_ne_backslash.symm), List.cons_append, List.foldl_cons,
        hb, step_backslash]
      refine Eq.trans ih ?_
      simp [Argument.text, List.replicate_succ']
    · rw [if_neg hb] at h
      by_cases hq : c = quote
      · rw [if_pos hq] at h
        obtain ⟨hs, ht⟩ := Nat.add_eq_zero_iff.1 h
        have ih := foldl_escaped done t ⟨a.chars ++ [quote], 0⟩ ht
        rw [hq, escaped_cons_quote, List.cons_append, List.cons_append, List.foldl_cons,
          List.foldl_cons, step_backslash,
          step_quote_of_odd _ (by simp [Splitter.pending, hs])]
        have hchars : a.chars ++ List.replicate ((a.slashes + 1) / 2) backslash ++ [quote] =
            a.chars ++ [quote] := by
          simp [hs]
        simp only [Splitter.pending, Option.getD_some, hchars]
        refine Eq.trans ih ?_
        simp [Argument.text, hs]
      · rw [if_neg hq] at h
        have ih := foldl_escaped done t ⟨a.text ++ [c], 0⟩ h
        rw [escaped_cons_other hq, List.cons_append, List.foldl_cons,
          step_plain _ hb hq (by simp)]
        refine Eq.trans ih ?_
        simp [Argument.text]

theorem Encodes.quoted {t : List α} (h : slashLoss 0 t = 0) : Encodes (quoted t) t := by
  intro done
  have hopen : Splitter.step (⟨done, none, false⟩ : Splitter α) quote =
      ⟨done, some ⟨[], 0⟩, true⟩ := by
    rw [step_quote_of_even _ rfl]
    simp [Splitter.pending]
  refine ⟨⟨t, 0⟩, ?_, by simp [Argument.text]⟩
  rw [CommandLine.quoted, List.foldl_cons, hopen, foldl_escaped done t ⟨[], 0⟩ h]
  simp [Argument.text]

/-- A text between quotes, its quotes escaped, stands for the text: it loses the backslashes that
    stand before a quote of the text or at its end. -/
def Word.quoted (t : List α) : Word α where
  text := CommandLine.quoted t
  argument := t
  loss := slashLoss 0 t
  loses := Loses.quoted t
  encodes := Encodes.quoted

/-- A waiting backslash is lost exactly before a quote and before the end. -/
theorem slashLoss_succ_eq_zero_iff : ∀ (t : List α) (j : Nat),
    slashLoss (j + 1) t = 0 ↔ slashLoss 0 t = 0 ∧ t ≠ [] ∧ t.head? ≠ some quote
  | [], j => by simp [slashLoss]
  | c :: t, j => by
    by_cases hb : c = backslash
    · rw [slashLoss, if_pos hb, slashLoss, if_pos hb, slashLoss_succ_eq_zero_iff t (j + 1),
        slashLoss_succ_eq_zero_iff t 0]
      simp [hb, quote_ne_backslash.symm]
    · by_cases hq : c = quote
      · rw [slashLoss, if_neg hb, if_pos hq]
        simp [hq]
      · rw [slashLoss, if_neg hb, if_neg hq, slashLoss, if_neg hb, if_neg hq]
        simp [hq]

/-- A quoted text loses nothing exactly when no backslash stands before a quote of it, or at its
    end. -/
theorem slashLoss_eq_zero_iff : ∀ (t : List α),
    slashLoss 0 t = 0 ↔ ¬ [backslash, quote] <:+: t ∧ ¬ [backslash] <:+ t
  | [] => by simp [slashLoss]
  | c :: t => by
    have ih := slashLoss_eq_zero_iff t
    rw [List.infix_cons_iff, List.suffix_cons_iff]
    by_cases hb : c = backslash
    · rw [slashLoss, if_pos hb, slashLoss_succ_eq_zero_iff, ih]
      cases t with
      | nil => simp [hb]
      | cons d t =>
        simp only [hb, List.cons_prefix_cons, List.nil_prefix, List.head?_cons]
        have hd : (quote = d) ↔ (d = quote) := eq_comm
        simp [hd]
        tauto
    · have hb' : backslash ≠ c := fun h => hb h.symm
      by_cases hq : c = quote
      · rw [slashLoss, if_neg hb, if_pos hq, Nat.zero_add, ih]
        simp [hb']
      · rw [slashLoss, if_neg hb, if_neg hq, ih]
        simp [hb']

end Lib.CommandLine
