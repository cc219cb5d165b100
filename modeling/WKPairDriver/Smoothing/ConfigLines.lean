import WKPairDriver.Smoothing.ConfigFile

/-!
# The lines of the settings file

* `load_block` — a line of the file is one assignment, also where it filled the buffer.
* `assign_entries` — the assignments of a configuration's lines make the configuration.
* `split_renders` — lines that fit are read one by one.
-/

set_option autoImplicit false

namespace WKPairDriver.Smoothing

open Lib.Bytes Lib.BoundedLines
open Captions (to_string isSpace isDigit takeSign decimal isDigit_of_mem to_string_ne_nil
  decimal_to_string dropWhile_isSpace_to_string takeSign_to_string takeWhile_isDigit_to_string)

/-! ## Lines as keys and values -/

/-- The line of a key and a value. -/
def render (e : List UInt8 × List UInt8) : List UInt8 := e.1 ++ 61 :: (e.2 ++ [10])

/-- A plain key with a number. -/
structure GoodLine (e : List UInt8 × List UInt8) : Prop where
  key : Plain e.1
  val_ne : e.2 ≠ []
  digits : ∀ b ∈ e.2, isDigit b = true

/-- The lines before those of the trackers. -/
def SmoothingConfig.scalarEntries (cfg : SmoothingConfig) : List (List UInt8 × List UInt8) :=
  [(ascii "smoothness", to_string cfg.smoothness.toNat),
    (ascii "finger_mask", to_string cfg.finger_mask.toNat),
    (ascii "smart_smoothing", to_string (if cfg.smart_smoothing = true then 1 else 0))] ++
  (List.finRange 10).filterMap fun i =>
    if cfg.per_finger_smoothness i > 0 then
      some (ascii "per_finger_smoothness." ++ to_string i,
        to_string (cfg.per_finger_smoothness i).toNat)
    else none

/-- The lines of the trackers. -/
def SmoothingConfig.trackerEntries (cfg : SmoothingConfig) : List (List UInt8 × List UInt8) :=
  cfg.trackerSmoothness.map fun kv =>
    (ascii "tracker_smoothness." ++ kv.1, to_string kv.2.toNat)

theorem formatInt_of_nonneg {z : ℤ} (h : 0 ≤ z) : formatInt z = to_string z.toNat := by
  rw [formatInt, if_neg (by omega)]

theorem cstr_of_plain {serial : List UInt8} (h : Plain serial) : cstr serial = serial := by
  have hcstr : cstr (serial ++ []) = serial :=
    cstr_append (fun h0 => (h 0 h0).1 rfl) (by simp)
  simpa using hcstr

theorem lines_eq {cfg : SmoothingConfig} (held : cfg.Held)
    (hplain : ∀ e ∈ cfg.trackerSmoothness, Plain e.1) :
    cfg.lines = (cfg.scalarEntries ++ cfg.trackerEntries).map render := by
  have heq : ascii "=" = [61] := by decide
  have hfingers : (List.finRange 10).filterMap (fun i =>
      if cfg.per_finger_smoothness i > 0 then
        some (ascii "per_finger_smoothness." ++ to_string i ++ ascii "=" ++
          formatInt (cfg.per_finger_smoothness i) ++ [10])
      else none) = ((List.finRange 10).filterMap fun i =>
      if cfg.per_finger_smoothness i > 0 then
        some (ascii "per_finger_smoothness." ++ to_string i,
          to_string (cfg.per_finger_smoothness i).toNat)
      else none).map render := by
    rw [List.map_filterMap]
    refine List.filterMap_congr fun i _ => ?_
    split
    · simp [render, heq, formatInt_of_nonneg (held.per_finger i).1]
    · rfl
  have htrackers : cfg.trackerSmoothness.map (fun kv =>
      ascii "tracker_smoothness." ++ cstr kv.1 ++ ascii "=" ++ formatInt kv.2 ++ [10]) =
      cfg.trackerEntries.map render := by
    rw [SmoothingConfig.trackerEntries, List.map_map]
    refine List.map_congr_left fun kv hkv => ?_
    have hpos : 0 ≤ kv.2 := by have := (held.tracker kv hkv).1; omega
    simp [render, heq, cstr_of_plain (hplain kv hkv), formatInt_of_nonneg hpos]
  have hsmart : formatInt (if cfg.smart_smoothing = true then 1 else 0) =
      to_string (if cfg.smart_smoothing = true then 1 else 0) := by
    split <;> rfl
  rw [SmoothingConfig.lines, hfingers, htrackers, hsmart, formatInt_of_nonneg held.smoothness.1,
    List.map_append, SmoothingConfig.scalarEntries, List.map_append]
  simp only [List.map_cons, List.map_nil, render, List.append_assoc]
  rfl

theorem plain_append {a b : List UInt8} (ha : Plain a) (hb : Plain b) : Plain (a ++ b) :=
  fun x hx => (List.mem_append.1 hx).elim (ha x) (hb x)

theorem plain_of_digits {t : List UInt8} (h : ∀ b ∈ t, isDigit b = true) : Plain t := by
  intro b hb
  have hd := h b hb
  refine ⟨?_, ?_, ?_, ?_⟩ <;> rintro rfl <;> revert hd <;> decide

instance (serial : List UInt8) : Decidable (Plain serial) :=
  inferInstanceAs (Decidable (∀ b ∈ serial, _ ∧ _))

theorem goodLine_number {key : List UInt8} (hkey : Plain key) (n : ℕ) :
    GoodLine (key, to_string n) :=
  ⟨hkey, to_string_ne_nil n, fun _ hb => isDigit_of_mem hb⟩

theorem goodLine_of_mem {cfg : SmoothingConfig}
    (hplain : ∀ e ∈ cfg.trackerSmoothness, Plain e.1) :
    ∀ e ∈ cfg.scalarEntries ++ cfg.trackerEntries, GoodLine e := by
  intro e he
  rcases List.mem_append.1 he with he | he
  · rcases List.mem_append.1 he with he | he
    · simp only [List.mem_cons, List.not_mem_nil, or_false] at he
      rcases he with rfl | rfl | rfl
      · exact goodLine_number (by decide +kernel) _
      · exact goodLine_number (by decide +kernel) _
      · exact goodLine_number (by decide +kernel) _
    · obtain ⟨i, -, hi⟩ := List.mem_filterMap.1 he
      split at hi
      · obtain rfl := Option.some.inj hi
        exact goodLine_number (plain_append (by decide +kernel)
          (plain_of_digits fun _ hb => isDigit_of_mem hb)) _
      · cases hi
  · obtain ⟨kv, hkv, rfl⟩ := List.mem_map.1 he
    exact goodLine_number (plain_append (by decide +kernel) (hplain kv hkv)) _

/-! ## What is written -/

/-- What `appendf` appends of a text. -/
def block (text : List UInt8) : List UInt8 := (text.take 255 ++ [0]).take text.length

theorem block_of_le {text : List UInt8} (h : text.length ≤ 255) : block text = text := by
  rw [block, List.take_of_length_le h, List.take_left]

theorem block_of_eq {text : List UInt8} (h : text.length = 256) :
    block text = text.take 255 ++ [0] := by
  rw [block, List.take_of_length_le]
  simp [h]

theorem length_block {text : List UInt8} (h : text.length ≤ 256) :
    (block text).length = text.length := by
  simp only [block, List.length_take, List.length_append, List.length_singleton]
  omega

theorem foldlM_appendf : ∀ (texts : List (List UInt8)) (body : List UInt8),
    texts.foldlM appendf body =
      if ∀ t ∈ texts, t.length ≤ 256 then some (body ++ (texts.map block).flatten) else none
  | [], body => by simp
  | t :: texts, body => by
    rw [List.foldlM_cons, appendf, Option.bind_eq_bind]
    by_cases ht : t.length ≤ 256
    · rw [if_pos ht, Option.bind_some, foldlM_appendf texts]
      simp only [List.forall_mem_cons, ht, true_and, List.map_cons, List.flatten_cons, block,
        List.append_assoc]
    · rw [if_neg ht, Option.bind_none, if_neg (fun h => ht (h t List.mem_cons_self))]

/-! ## What is read -/

/-- A line of a key and a number, up to the line feed. -/
theorem lineText_line {e : List UInt8 × List UInt8} (he : GoodLine e) {s : List UInt8}
    (hs : s = [] ∨ s = [10]) : lineText (e.1 ++ 61 :: e.2 ++ s) = e.1 ++ 61 :: e.2 := by
  have hnul : 0 ∉ e.1 ++ 61 :: e.2 := by
    simp only [List.mem_append, List.mem_cons, not_or]
    exact ⟨fun h => (he.key 0 h).1 rfl, by decide,
      fun h => (plain_of_digits he.digits 0 h).1 rfl⟩
  have hlast : ∀ hne : e.1 ++ 61 :: e.2 ≠ [],
      ¬ isLineEnd ((e.1 ++ 61 :: e.2).getLast hne) = true := by
    intro hne
    rw [List.getLast_append_of_ne_nil _ (by simp), List.getLast_cons he.val_ne]
    have hd := he.digits _ (List.getLast_mem he.val_ne)
    intro hend
    rw [isLineEnd, decide_eq_true_eq] at hend
    rcases hend with h | h <;> rw [h] at hd <;> revert hd <;> decide
  have hself : (e.1 ++ 61 :: e.2).rdropWhile isLineEnd = e.1 ++ 61 :: e.2 :=
    List.rdropWhile_eq_self_iff.2 hlast
  rcases hs with rfl | rfl
  · have hc : cstr (e.1 ++ 61 :: e.2 ++ []) = e.1 ++ 61 :: e.2 := cstr_append hnul (by simp)
    rw [lineText, hc, hself]
  · have hc : cstr (e.1 ++ 61 :: e.2 ++ [10]) = e.1 ++ 61 :: e.2 ++ [10] := by
      have hnul' : 0 ∉ e.1 ++ 61 :: e.2 ++ [10] := by
        rw [List.mem_append]
        exact fun h => h.elim hnul (by simp)
      have hcstr : cstr (e.1 ++ 61 :: e.2 ++ [10] ++ []) = e.1 ++ 61 :: e.2 ++ [10] :=
        cstr_append hnul' (by simp)
      rwa [List.append_nil] at hcstr
    rw [lineText, hc, List.rdropWhile_concat_pos _ _ _ (by decide), hself]

/-- **A line is one assignment**, with its line feed or without. -/
theorem load_line (cfg : SmoothingConfig) {e : List UInt8 × List UInt8} (he : GoodLine e)
    {s : List UInt8} (hs : s = [] ∨ s = [10]) :
    cfg.loadLine (e.1 ++ 61 :: e.2 ++ s) = cfg.assign e.1 e.2 := by
  have hkey : ∀ b ∈ e.1, decide (b ≠ 61) = true := fun b hb => by simpa using (he.key b hb).2.2.2
  have hdrop : (e.1 ++ 61 :: e.2).dropWhile (· ≠ 61) = 61 :: e.2 := by
    rw [List.dropWhile_append_of_pos hkey, List.dropWhile_cons_of_neg (by simp)]
  have htake : (e.1 ++ 61 :: e.2).takeWhile (· ≠ 61) = e.1 := by
    rw [List.takeWhile_append_of_pos hkey, List.takeWhile_cons_of_neg (by simp), List.append_nil]
  rw [SmoothingConfig.loadLine, lineText_line he hs, hdrop, htake]

theorem load_render (cfg : SmoothingConfig) {e : List UInt8 × List UInt8} (he : GoodLine e) :
    cfg.loadLine (render e) = cfg.assign e.1 e.2 := by
  rw [← load_line cfg he (.inr rfl), render]
  simp

/-- A line that starts with a NUL is passed over. -/
theorem load_nul (cfg : SmoothingConfig) (s : List UInt8) : cfg.loadLine (0 :: s) = cfg := by
  have h : lineText (0 :: s) = [] := by simp [lineText, cstr]
  rw [SmoothingConfig.loadLine, h]
  rfl

theorem foldl_load_render {entries : List (List UInt8 × List UInt8)}
    (h : ∀ e ∈ entries, GoodLine e) (cfg : SmoothingConfig) :
    (entries.map render).foldl SmoothingConfig.loadLine cfg =
      entries.foldl (fun c e => c.assign e.1 e.2) cfg := by
  rw [List.foldl_map]
  exact List.foldl_ext _ _ _ fun c e he => load_render c (h e he)

theorem newline_notMem {e : List UInt8 × List UInt8} (he : GoodLine e) :
    ∀ c ∈ e.1 ++ 61 :: e.2, isNewline c = false := by
  intro c hc
  rw [isNewline, decide_eq_false_iff_not]
  rintro rfl
  simp only [List.mem_append, List.mem_cons] at hc
  rcases hc with hc | hc | hc
  · exact (he.key 10 hc).2.1 rfl
  · exact absurd hc (by decide)
  · exact (plain_of_digits he.digits 10 hc).2.1 rfl

theorem render_eq (e : List UInt8 × List UInt8) : render e = e.1 ++ 61 :: e.2 ++ [10] := by
  simp [render]

/-- Lines that fit are read one by one, whatever follows. -/
theorem split_renders : ∀ {entries : List (List UInt8 × List UInt8)} (s : List UInt8),
    (∀ e ∈ entries, GoodLine e ∧ (render e).length ≤ 255) →
    split isNewline 255 ((entries.map render).flatten ++ s) =
      entries.map render ++ split isNewline 255 s
  | [], s, _ => rfl
  | e :: entries, s, h => by
    obtain ⟨he, hlen⟩ := h e List.mem_cons_self
    rw [render_eq, List.length_append, List.length_singleton] at hlen
    rw [List.map_cons, List.flatten_cons, render_eq, List.append_assoc, List.append_assoc,
      List.singleton_append, split_line (newline_notMem he) (by decide) (by omega),
      split_renders s fun e' he' => h e' (List.mem_cons_of_mem _ he')]
    rfl

/-! ## What the lines assign -/

theorem atoi_to_string {n : ℕ} (hn : n < 2 ^ 31) : atoi (to_string n) = n := by
  simp only [atoi, dropWhile_isSpace_to_string, takeSign_to_string, takeWhile_isDigit_to_string,
    decimal_to_string, Bool.false_eq_true, if_false]
  omega

theorem atoi_strength {z : ℤ} (h : 0 ≤ z) (h' : z ≤ 100) :
    clampStrength (atoi (to_string z.toNat)) = z := by
  rw [atoi_to_string (by omega), clampStrength]
  split <;> split <;> omega

theorem digitValue_of_isDigit {b : UInt8} (h : isDigit b = true) :
    digitValue b = b.toNat - 48 ∧ digitValue b < 10 := by
  have hle : b.toNat ≤ 57 := by
    have : 48 ≤ b ∧ b ≤ 57 := by simpa [isDigit] using h
    simpa [UInt8.le_iff_toNat_le] using this.2
  rw [digitValue, if_pos h]
  omega

/-- A number that is not zero starts with another digit. -/
theorem head?_to_string {n : ℕ} (hn : n ≠ 0) : (to_string n).head? ≠ some 48 := by
  rw [Captions.to_string, if_neg hn, List.head?_map, List.head?_reverse]
  intro h
  obtain ⟨d, hd, hval⟩ := Option.map_eq_some_iff.1 h
  have hne : Nat.digits 10 n ≠ [] := Nat.digits_ne_nil_iff_ne_zero.2 hn
  rw [List.getLast?_eq_getLast_of_ne_nil hne, Option.some.injEq] at hd
  have hpos := Nat.getLast_digit_ne_zero 10 hn
  have hlt := Nat.digits_lt_base (by decide : 1 < 10) (List.getLast_mem hne)
  rw [hd] at hpos hlt
  have := congrArg UInt8.toNat hval
  rw [UInt8.toNat_ofNat'] at this
  simp at this
  omega

theorem findBase_to_string (n : ℕ) :
    findBase (to_string n) = (if n = 0 then 8 else 10, to_string n) := by
  by_cases hn : n = 0
  · subst hn
    rfl
  · have hhead := head?_to_string hn
    rw [if_neg hn]
    unfold findBase
    split
    next heq => simp [heq] at hhead
    next heq => simp [heq] at hhead
    next => rfl

theorem strtoul_to_string {n : ℕ} (hn : n < 2 ^ 32) : strtoul (to_string n) = n := by
  obtain rfl | hpos := Nat.eq_zero_or_pos n
  · rfl
  have hdigits : ∀ b ∈ to_string n, isDigit b = true := fun _ hb => isDigit_of_mem hb
  have htake : (to_string n).takeWhile (fun d => decide (digitValue d < 10)) = to_string n :=
    List.takeWhile_eq_self_iff.2 fun b hb => by
      simpa using (digitValue_of_isDigit (hdigits b hb)).2
  have hvalue : (to_string n).foldl (fun n d => 10 * n + digitValue d) 0 = n := by
    have hdecimal := decimal_to_string n
    rw [Captions.decimal] at hdecimal
    conv_rhs => rw [← hdecimal]
    exact List.foldl_ext _ _ _ fun m b hb => by rw [(digitValue_of_isDigit (hdigits b hb)).1]
  simp only [strtoul, dropWhile_isSpace_to_string, takeSign_to_string, findBase_to_string,
    Nat.pos_iff_ne_zero.1 hpos, if_false, htake, hvalue, Bool.false_eq_true]
  exact if_neg (by omega)

/-- A key starts with the text it was made of, and with no other first byte. -/
theorem not_prefix_of_head {p k s : List UInt8} {a b : UInt8} (hp : p.head? = some a)
    (hk : k.head? = some b) (h : a ≠ b) : ¬ p <+: k ++ s := by
  rintro ⟨t, ht⟩
  have := congrArg List.head? ht
  rw [List.head?_append, List.head?_append, hp, hk] at this
  exact h (by simpa using this)

theorem assign_smoothness (cfg : SmoothingConfig) (val : List UInt8) :
    cfg.assign (ascii "smoothness") val = { cfg with smoothness := clampStrength (atoi val) } := by
  rw [SmoothingConfig.assign, if_pos rfl]

theorem assign_finger_mask (cfg : SmoothingConfig) (val : List UInt8) :
    cfg.assign (ascii "finger_mask") val =
      { cfg with finger_mask := UInt16.ofNat (strtoul val) } := by
  rw [SmoothingConfig.assign, if_neg (by decide), if_pos rfl]

theorem assign_smart_smoothing (cfg : SmoothingConfig) (val : List UInt8) :
    cfg.assign (ascii "smart_smoothing") val =
      { cfg with smart_smoothing := decide (atoi val ≠ 0) } := by
  rw [SmoothingConfig.assign, if_neg (by decide), if_neg (by decide), if_neg (by decide),
    if_neg (by decide), if_pos rfl]

theorem assign_per_finger (cfg : SmoothingConfig) (i : Fin 10) (val : List UInt8) :
    cfg.assign (ascii "per_finger_smoothness." ++ to_string i) val =
      { cfg with
        per_finger_smoothness := Function.update cfg.per_finger_smoothness i
          (clampStrength (atoi val)) } := by
  have hne : ∀ k : List UInt8, ¬ ascii "per_finger_smoothness." <+: k →
      ascii "per_finger_smoothness." ++ to_string i ≠ k := fun k hk h => hk ⟨_, h⟩
  have hlen : (ascii "per_finger_smoothness.").length = 22 := by decide
  have hidx : atoi ((ascii "per_finger_smoothness." ++ to_string i).drop 22) = (i : ℕ) := by
    rw [List.drop_left' hlen, atoi_to_string (by omega)]
  rw [SmoothingConfig.assign, if_neg (hne _ (by decide)), if_neg (hne _ (by decide)),
    if_pos (List.prefix_append _ _), hidx]
  dsimp only
  congr 1
  funext j
  simp only [Function.update_apply, Nat.cast_inj, Fin.val_inj, eq_comm]

theorem assign_tracker (cfg : SmoothingConfig) (serial : List UInt8) {val : List UInt8}
    (hval : clampStrength (atoi val) > 0) :
    cfg.assign (ascii "tracker_smoothness." ++ serial) val =
      { cfg with
        trackerSmoothness := (serial, clampStrength (atoi val)) ::
          cfg.trackerSmoothness.filter fun e => decide (e.1 ≠ serial) } := by
  have hne : ∀ k : List UInt8, ¬ ascii "tracker_smoothness." <+: k →
      ascii "tracker_smoothness." ++ serial ≠ k := fun k hk h => hk ⟨_, h⟩
  have hlen : (ascii "tracker_smoothness.").length = 19 := by decide
  have hfinger : ¬ ascii "per_finger_smoothness." <+: ascii "tracker_smoothness." ++ serial :=
    not_prefix_of_head (a := 112) (b := 116) (by decide) (by decide) (by decide)
  rw [SmoothingConfig.assign, if_neg (hne _ (by decide)), if_neg (hne _ (by decide)),
    if_neg hfinger, if_pos (List.prefix_append _ _), List.drop_left' hlen]
  exact if_pos hval

/-- The lines of some fingers. -/
theorem assign_fingers {cfg : SmoothingConfig} (held : cfg.Held) :
    ∀ (is : List (Fin 10)) (c : SmoothingConfig),
    (is.filterMap fun i =>
      if cfg.per_finger_smoothness i > 0 then
        some (ascii "per_finger_smoothness." ++ to_string i,
          to_string (cfg.per_finger_smoothness i).toNat)
      else none).foldl (fun c e => c.assign e.1 e.2) c =
    { c with
      per_finger_smoothness := fun i =>
        if i ∈ is ∧ cfg.per_finger_smoothness i > 0 then cfg.per_finger_smoothness i
        else c.per_finger_smoothness i }
  | [], c => by simp
  | i :: is, c => by
    rw [List.filterMap_cons]
    split
    next hnone =>
      have hpos : ¬ cfg.per_finger_smoothness i > 0 := by
        intro h
        rw [if_pos h] at hnone
        cases hnone
      rw [assign_fingers held is c]
      congr 1
      funext j
      by_cases hj : j = i
      · simp [hj, hpos]
      · simp [hj]
    next e hsome =>
      split at hsome
      next hpos =>
        obtain rfl := Option.some.inj hsome
        have hrange := held.per_finger i
        rw [List.foldl_cons, assign_per_finger, atoi_strength hrange.1 hrange.2,
          assign_fingers held is]
        congr 1
        funext j
        by_cases hj : j = i
        · simp [hj, hpos]
        · simp [hj]
      next => cases hsome

theorem lookup_cons_eq (s : List UInt8) (e : List UInt8 × ℤ) (es : List (List UInt8 × ℤ)) :
    (e :: es).lookup s = if s = e.1 then some e.2 else es.lookup s := by
  rw [List.lookup_cons]
  by_cases hs : s = e.1
  · simp [hs]
  · have hb : (s == e.1) = false := by simpa using hs
    rw [hb, if_neg hs]

theorem lookup_filter_ne (serial s : List UInt8) :
    ∀ es : List (List UInt8 × ℤ),
      (es.filter fun e => decide (e.1 ≠ serial)).lookup s =
        if s = serial then none else es.lookup s
  | [] => by simp
  | e :: es => by
    have ih := lookup_filter_ne serial s es
    rw [List.filter_cons]
    split
    next he =>
      rw [lookup_cons_eq, lookup_cons_eq, ih]
      by_cases hs : s = e.1
      · have hne : e.1 ≠ serial := by simpa using he
        simp [hs, hne]
      · simp [hs]
    next he =>
      have heq : e.1 = serial := by simpa using he
      rw [ih, lookup_cons_eq]
      by_cases hs : s = serial
      · simp [hs]
      · simp [hs, heq]

/-- The lines of some trackers. -/
theorem assign_trackers : ∀ (es : List (List UInt8 × ℤ)) (c : SmoothingConfig),
    (∀ e ∈ es, 1 ≤ e.2 ∧ e.2 ≤ 100) → (es.map Prod.fst).Nodup →
    ∃ t, (es.map fun kv => (ascii "tracker_smoothness." ++ kv.1, to_string kv.2.toNat)).foldl
        (fun c e => c.assign e.1 e.2) c = { c with trackerSmoothness := t } ∧
      ∀ s, t.lookup s = (es.lookup s).or (c.trackerSmoothness.lookup s)
  | [], c, _, _ => ⟨c.trackerSmoothness, rfl, fun s => by simp⟩
  | e :: es, c, hrange, hnodup => by
    have he := hrange e List.mem_cons_self
    have hval := atoi_strength (z := e.2) (by omega) he.2
    rw [List.map_cons, List.nodup_cons] at hnodup
    obtain ⟨t, ht, hlookup⟩ := assign_trackers es
      (c.assign (ascii "tracker_smoothness." ++ e.1) (to_string e.2.toNat))
      (fun x hx => hrange x (List.mem_cons_of_mem _ hx)) hnodup.2
    have hpos : clampStrength (atoi (to_string e.2.toNat)) > 0 := by omega
    have hassign := assign_tracker c e.1 hpos
    rw [hval] at hassign
    refine ⟨t, ?_, fun s => ?_⟩
    · rw [List.map_cons, List.foldl_cons, ht, hassign]
    · rw [hlookup s, hassign, lookup_cons_eq, lookup_cons_eq, lookup_filter_ne]
      by_cases hs : s = e.1
      · have hnone : es.lookup e.1 = none := by
          rw [List.lookup_eq_none_iff]
          intro x hx
          have hne : e.1 ≠ x.1 := fun h => hnodup.1 (List.mem_map.2 ⟨x, hx, h.symm⟩)
          simpa using hne
        simp [hs, hnone]
      · simp [hs]

/-- **The assignments of a configuration's lines make the configuration.** -/
theorem assign_entries {cfg : SmoothingConfig} (held : cfg.Held) :
    ((cfg.scalarEntries ++ cfg.trackerEntries).foldl (fun c e => c.assign e.1 e.2)
      ({} : SmoothingConfig)).Same cfg := by
  obtain ⟨t, ht, hlookup⟩ := assign_trackers cfg.trackerSmoothness
    (cfg.scalarEntries.foldl (fun c e => c.assign e.1 e.2) ({} : SmoothingConfig)) held.tracker
    held.nodup
  have hscalar : cfg.scalarEntries.foldl (fun c e => c.assign e.1 e.2) ({} : SmoothingConfig) =
      { cfg with trackerSmoothness := [] } := by
    rw [SmoothingConfig.scalarEntries, List.foldl_append, assign_fingers held]
    simp only [List.foldl_cons, List.foldl_nil, assign_smoothness, assign_finger_mask,
      assign_smart_smoothing, atoi_strength held.smoothness.1 held.smoothness.2]
    have hmask : UInt16.ofNat (strtoul (to_string cfg.finger_mask.toNat)) = cfg.finger_mask := by
      have := cfg.finger_mask.toNat_lt
      rw [strtoul_to_string (by omega), UInt16.ofNat_toNat]
    have hsmart : decide (atoi (to_string (if cfg.smart_smoothing = true then 1 else 0)) ≠ 0) =
        cfg.smart_smoothing := by
      rw [atoi_to_string (by split <;> decide)]
      cases cfg.smart_smoothing <;> rfl
    have hfingers : (fun i : Fin 10 =>
        if i ∈ List.finRange 10 ∧ cfg.per_finger_smoothness i > 0 then
          cfg.per_finger_smoothness i
        else 0) = cfg.per_finger_smoothness := by
      funext i
      have := (held.per_finger i).1
      simp only [List.mem_finRange, true_and]
      split <;> omega
    rw [hmask, hsmart, hfingers]
  rw [List.foldl_append, SmoothingConfig.trackerEntries, ht, hscalar]
  refine ⟨rfl, rfl, rfl, fun s => ?_, rfl⟩
  rw [hlookup s, hscalar]
  simp

end WKPairDriver.Smoothing
