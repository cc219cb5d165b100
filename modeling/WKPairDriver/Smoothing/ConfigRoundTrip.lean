import WKPairDriver.Smoothing.ConfigLines

/-!
# The round trip of the settings file

* `loads_of_survives` — plain serials and lines that fit come back.
* `length_lt_of_full_line` — behind a line of 256 bytes a serial is lost: the NUL that is appended
  instead of the line feed hides the next line.
* `length_lt_of_large` — a file cut at 4 GiB has lost a serial.
* `loads_saved_iff` — the file is written from inside the buffer and loads as the configuration
  exactly when the serials are plain, the lines fit and the file is below 4 GiB.
-/

set_option autoImplicit false

namespace WKPairDriver.Smoothing

open Lib.Bytes Lib.BoundedLines
open Captions (to_string isDigit isDigit_of_mem to_string_ne_nil)

/-! ## The bytes of the file -/

/-- No carriage return in front of a line feed. -/
abbrev NoCrLf (text : List UInt8) : Prop := text.IsChain fun a b => ¬ (a = 13 ∧ b = 10)

theorem joinLineEnds_eq_self : ∀ {text : List UInt8}, NoCrLf text → joinLineEnds text = text := by
  intro text h
  fun_induction joinLineEnds text with
  | case1 text _ => exact absurd ⟨rfl, rfl⟩ (List.isChain_cons_cons.1 h).1
  | case2 c text _ ih => rw [ih h.tail]
  | case3 => rfl

theorem textMode_eq_self {text : List UInt8} (heof : 26 ∉ text) (h : NoCrLf text) :
    textMode text = text := by
  have htake : text.takeWhile (· ≠ 26) = text :=
    List.takeWhile_eq_self_iff.2 fun b hb => by
      simpa using fun h26 : b = 26 => heof (h26 ▸ hb)
  rw [textMode, htake, joinLineEnds_eq_self h]

/-- A line that fits the buffer, or fills it: with a line feed or with a NUL behind it. -/
theorem block_render {e : List UInt8 × List UInt8} (h : (render e).length ≤ 256) :
    ∃ y, (y = 10 ∨ y = 0) ∧ block (render e) = e.1 ++ 61 :: e.2 ++ [y] := by
  rcases Nat.lt_or_ge 255 (render e).length with hlen | hlen
  · have h256 : (render e).length = 256 := by omega
    have htake : (render e).take 255 = e.1 ++ 61 :: e.2 := by
      rw [render_eq, List.take_left']
      have := congrArg List.length (render_eq e)
      rw [List.length_append, List.length_singleton] at this
      omega
    exact ⟨0, .inr rfl, by rw [block_of_eq h256, htake]⟩
  · exact ⟨10, .inl rfl, by rw [block_of_le hlen, render_eq]⟩

/-- The bytes of some lines. -/
def bytesOf (entries : List (List UInt8 × List UInt8)) : List UInt8 :=
  (entries.map fun e => block (render e)).flatten

theorem bytesOf_append (a b : List (List UInt8 × List UInt8)) :
    bytesOf (a ++ b) = bytesOf a ++ bytesOf b := by
  rw [bytesOf, List.map_append, List.flatten_append]
  rfl

theorem bytesOf_cons (e : List UInt8 × List UInt8) (entries : List (List UInt8 × List UInt8)) :
    bytesOf (e :: entries) = block (render e) ++ bytesOf entries := rfl

theorem bytesOf_of_le {entries : List (List UInt8 × List UInt8)}
    (h : ∀ e ∈ entries, (render e).length ≤ 255) :
    bytesOf entries = (entries.map render).flatten := by
  rw [bytesOf, List.map_congr_left fun e he => block_of_le (h e he)]

section Written

variable {entries : List (List UInt8 × List UInt8)}
  (good : ∀ e ∈ entries, GoodLine e ∧ (render e).length ≤ 256)
include good

theorem eof_notMem_bytesOf : 26 ∉ bytesOf entries := by
  intro h
  obtain ⟨b, hb, hmem⟩ := List.mem_flatten.1 h
  obtain ⟨e, he, rfl⟩ := List.mem_map.1 hb
  obtain ⟨hgood, hlen⟩ := good e he
  obtain ⟨y, hy, hblock⟩ := block_render hlen
  rw [hblock] at hmem
  simp only [List.mem_append, List.mem_cons] at hmem
  rcases hmem with (hmem | hmem | hmem) | hmem
  · exact (hgood.key 26 hmem).2.2.1 rfl
  · exact absurd hmem (by decide)
  · exact (plain_of_digits hgood.digits 26 hmem).2.2.1 rfl
  · rcases hmem with hmem | hmem
    · rcases hy with rfl | rfl <;> exact absurd hmem (by decide)
    · exact absurd hmem (by simp)

theorem noCrLf_bytesOf : NoCrLf (bytesOf entries) := by
  induction entries with
  | nil => exact List.IsChain.nil
  | cons e entries ih =>
    obtain ⟨hgood, hlen⟩ := good e List.mem_cons_self
    obtain ⟨y, hy, hblock⟩ := block_render hlen
    have hbody : NoCrLf (e.1 ++ 61 :: e.2) := by
      refine (List.pairwise_of_forall_mem_list fun a _ b hb hab => ?_).isChain
      have := newline_notMem hgood b hb
      rw [hab.2] at this
      exact absurd this (by decide)
    have hlast : ∀ a ∈ (e.1 ++ 61 :: e.2).getLast?, a ≠ 13 := by
      intro a ha
      obtain ⟨b, hb⟩ := Option.ne_none_iff_exists'.1
        (fun h => hgood.val_ne (List.getLast?_eq_none_iff.1 h))
      have hab : a = b := by
        have h61 : (61 :: e.2).getLast? = some b := by
          rw [List.getLast?_cons, hb]
          rfl
        rw [List.getLast?_append, h61] at ha
        simpa using ha.symm
      have hd := hgood.digits a (hab ▸ List.mem_of_getLast? hb)
      rintro rfl
      revert hd
      decide
    have hline : NoCrLf (e.1 ++ 61 :: e.2 ++ [y]) :=
      hbody.append (List.IsChain.singleton y) fun a ha b hb hab => hlast a ha hab.1
    rw [bytesOf_cons, hblock]
    refine hline.append (ih fun x hx => good x (List.mem_cons_of_mem _ hx)) ?_
    intro a ha b hb hab
    rw [List.getLast?_concat] at ha
    obtain rfl := Option.some.inj ha
    rcases hy with rfl | rfl <;> exact absurd hab.1 (by decide)

/-- What is written, or the front of it, is read as it is. -/
theorem textMode_take (k : ℕ) : textMode ((bytesOf entries).take k) = (bytesOf entries).take k :=
  textMode_eq_self (fun h => eof_notMem_bytesOf good ((List.take_subset _ _) h))
    ((noCrLf_bytesOf good).take k)

end Written

theorem save_eq (cfg : SmoothingConfig) (entries : List (List UInt8 × List UInt8))
    (h : cfg.lines = entries.map render) :
    SaveConfig cfg = if ∀ e ∈ entries, (render e).length ≤ 256 then
      some ((bytesOf entries).take ((bytesOf entries).length % 2 ^ 32)) else none := by
  rw [SaveConfig, h, foldlM_appendf]
  simp only [List.forall_mem_map, List.map_map, List.nil_append]
  split <;> rfl

theorem length_bytesOf {entries : List (List UInt8 × List UInt8)}
    (h : ∀ e ∈ entries, (render e).length ≤ 256) :
    (bytesOf entries).length = (entries.map render).flatten.length := by
  induction entries with
  | nil => rfl
  | cons e entries ih =>
    rw [bytesOf_cons, List.length_append, length_block (h e List.mem_cons_self),
      ih fun x hx => h x (List.mem_cons_of_mem _ hx), List.map_cons, List.flatten_cons,
      List.length_append]

theorem length_bytesOf_le {entries : List (List UInt8 × List UInt8)} {n : ℕ}
    (h : ∀ e ∈ entries, (render e).length ≤ n) (hn : n ≤ 256) :
    (bytesOf entries).length ≤ n * entries.length := by
  induction entries with
  | nil => simp [bytesOf]
  | cons e entries ih =>
    have he := h e List.mem_cons_self
    have hrest := ih fun x hx => h x (List.mem_cons_of_mem _ hx)
    rw [bytesOf_cons, List.length_append, length_block (he.trans hn), List.length_cons,
      Nat.mul_succ]
    omega

/-! ## Lines that fit come back -/

theorem split_line_end {e : List UInt8 × List UInt8} (he : GoodLine e)
    (hlen : (render e).length ≤ 255) : split isNewline 255 (render e) = [render e] := by
  have hl := congrArg List.length (render_eq e)
  rw [List.length_append, List.length_singleton] at hl
  rw [render_eq, split_line (newline_notMem he) (by decide) (by omega)]
  rfl

theorem fold_last_block (c : SmoothingConfig) {e : List UInt8 × List UInt8} (he : GoodLine e)
    (hlen : (render e).length ≤ 256) :
    (split isNewline 255 (block (render e))).foldl SmoothingConfig.loadLine c =
      c.assign e.1 e.2 := by
  rcases Nat.lt_or_ge 255 (render e).length with h255 | h255
  · have h256 : (render e).length = 256 := by omega
    have hl := congrArg List.length (render_eq e)
    rw [List.length_append, List.length_singleton] at hl
    have htake : (render e).take 255 = e.1 ++ 61 :: e.2 := by
      rw [render_eq, List.take_left' (by omega)]
    have hload := load_line c he (s := []) (.inl rfl)
    rw [List.append_nil] at hload
    rw [block_of_eq h256, htake, split_full (newline_notMem he) (by decide) (by omega)]
    change (c.loadLine (e.1 ++ 61 :: e.2)).loadLine [0] = _
    rw [load_nul, hload]
  · rw [block_of_le h255, split_line_end he h255]
    exact load_render c he

/-- **Plain serials and lines that fit come back.** -/
theorem loads_of_survives {cfg : SmoothingConfig} (held : cfg.Held) (h : cfg.Survives) :
    ∃ bytes, SaveConfig cfg = some bytes ∧ (LoadConfig bytes).Same cfg := by
  have hlines := lines_eq held h.plain
  have hgood := goodLine_of_mem h.plain
  have hfits := h.fits
  have hsize := h.size
  have hassign := assign_entries held
  obtain ⟨es, e, hes⟩ : ∃ es e, cfg.scalarEntries ++ cfg.trackerEntries = es ++ [e] := by
    obtain hnil | hcons := (cfg.scalarEntries ++ cfg.trackerEntries).eq_nil_or_concat'
    · simp [SmoothingConfig.scalarEntries] at hnil
    · exact hcons
  rw [hes] at hlines hgood hassign
  rw [hlines, Fits, List.map_append, List.map_singleton, List.dropLast_concat,
    List.getLast?_concat] at hfits
  have hshort : ∀ x ∈ es, (render x).length ≤ 255 := fun x hx => hfits.1 _ (List.mem_map_of_mem hx)
  have hlast : (render e).length ≤ 256 := hfits.2 _ rfl
  have hall : ∀ x ∈ es ++ [e], (render x).length ≤ 256 := by
    intro x hx
    rcases List.mem_append.1 hx with hx | hx
    · exact (hshort x hx).trans (by decide)
    · rwa [List.mem_singleton.1 hx]
  have hwhole : (bytesOf (es ++ [e])).take ((bytesOf (es ++ [e])).length % 2 ^ 32) =
      bytesOf (es ++ [e]) := by
    rw [length_bytesOf hall, ← hlines, Nat.mod_eq_of_lt hsize, List.take_of_length_le]
    rw [length_bytesOf hall, ← hlines]
  have htext := textMode_take (fun x hx => ⟨hgood x hx, hall x hx⟩)
    ((bytesOf (es ++ [e])).length % 2 ^ 32)
  rw [hwhole] at htext
  have hshort' : ∀ x ∈ es, GoodLine x ∧ (render x).length ≤ 255 :=
    fun x hx => ⟨hgood x (List.mem_append_left _ hx), hshort x hx⟩
  refine ⟨bytesOf (es ++ [e]), ?_, ?_⟩
  · rw [save_eq cfg _ hlines, if_pos hall, hwhole]
  · have hload : LoadConfig (bytesOf (es ++ [e])) =
        (es ++ [e]).foldl (fun c e => c.assign e.1 e.2) ({} : SmoothingConfig) := by
      have he : GoodLine e := hgood e (by simp)
      rw [LoadConfig, htext, bytesOf_append, bytesOf_of_le hshort, split_renders _ hshort',
        List.foldl_append, foldl_load_render (fun x hx => (hshort' x hx).1), bytesOf_cons]
      change ((split isNewline 255 (block (render e) ++ [])).foldl SmoothingConfig.loadLine _) = _
      rw [List.append_nil, fold_last_block _ he hlast, List.foldl_append]
      rfl
    rw [hload]
    exact hassign

/-! ## What does not fit is lost -/

/-- A serial is loaded from a line with a `=` and with a `c`, which only the prefix of trackers
    has. -/
theorem marks_of_loadsTracker {line : List UInt8} (h : loadsTracker line = true) :
    61 ∈ line ∧ 99 ∈ line := by
  obtain ⟨heq, hpre⟩ := of_decide_eq_true h
  exact ⟨(mem_of_mem_lineText heq).1, (mem_of_mem_lineText (hpre.subset (by decide))).1⟩

theorem countP_loadsTracker_le {b : UInt8}
    (hb : ∀ line, loadsTracker line = true → b ∈ line) (pieces : List (List UInt8)) :
    pieces.countP loadsTracker ≤ pieces.flatten.count b :=
  countP_le_countP_flatten (fun piece hp => List.countP_pos_iff.2 ⟨b, hb piece hp, by simp⟩) pieces

theorem countP_split_le {b : UInt8} (hb : ∀ line, loadsTracker line = true → b ∈ line)
    (text : List UInt8) : (split isNewline 255 text).countP loadsTracker ≤ text.count b := by
  have h := countP_loadsTracker_le hb (split isNewline 255 text)
  rwa [flatten_split] at h

/-- A configuration that comes back has loaded every serial. -/
theorem length_le_of_same {a b : SmoothingConfig} (h : a.Same b)
    (hnodup : (b.trackerSmoothness.map Prod.fst).Nodup) :
    b.trackerSmoothness.length ≤ a.trackerSmoothness.length := by
  have hsub : b.trackerSmoothness.map Prod.fst ⊆ a.trackerSmoothness.map Prod.fst := by
    intro s hs
    obtain ⟨e, he, rfl⟩ := List.mem_map.1 hs
    by_contra hmem
    have hnone : a.trackerSmoothness.lookup e.1 = none := by
      rw [List.lookup_eq_none_iff]
      intro x hx
      have hne : e.1 ≠ x.1 := fun heq => hmem (List.mem_map.2 ⟨x, hx, heq.symm⟩)
      simpa using hne
    rw [h.tracker, List.lookup_eq_none_iff] at hnone
    simpa using hnone e he
  have := (List.subperm_of_subset hnodup hsub).length_le
  rwa [List.length_map, List.length_map] at this

theorem plain_of_same {cfg : SmoothingConfig} {file : List UInt8} (h : (LoadConfig file).Same cfg) :
    ∀ e ∈ cfg.trackerSmoothness, Plain e.1 := by
  intro e he
  by_contra hplain
  have hnone : (LoadConfig file).trackerSmoothness.lookup e.1 = none := by
    rw [List.lookup_eq_none_iff]
    intro x hx
    have hne : e.1 ≠ x.1 := fun heq => hplain (heq ▸ keys_of_LoadConfig file x hx)
    simpa using hne
  rw [h.tracker, List.lookup_eq_none_iff] at hnone
  simpa using hnone e he

theorem count_eq_line {e : List UInt8 × List UInt8} (he : GoodLine e) :
    (e.1 ++ 61 :: e.2).count 61 = 1 := by
  have hkey : e.1.count 61 = 0 := List.count_eq_zero.2 fun h => (he.key 61 h).2.2.2 rfl
  have hval : e.2.count 61 = 0 :=
    List.count_eq_zero.2 fun h => (plain_of_digits he.digits 61 h).2.2.2 rfl
  rw [List.count_append, List.count_cons_self, hkey, hval]

theorem count_block {e : List UInt8 × List UInt8} (he : GoodLine e)
    (hlen : (render e).length ≤ 256) : (block (render e)).count 61 = 1 := by
  obtain ⟨y, hy, hblock⟩ := block_render hlen
  have hne : [y].count 61 = 0 := by rcases hy with rfl | rfl <;> decide
  rw [hblock, List.count_append, count_eq_line he, hne]

/-- Every line has one `=`. -/
theorem count_bytesOf {entries : List (List UInt8 × List UInt8)}
    (good : ∀ e ∈ entries, GoodLine e ∧ (render e).length ≤ 256) :
    (bytesOf entries).count 61 = entries.length := by
  induction entries with
  | nil => rfl
  | cons e entries ih =>
    obtain ⟨he, hlen⟩ := good e List.mem_cons_self
    rw [bytesOf_cons, List.count_append, count_block he hlen,
      ih fun x hx => good x (List.mem_cons_of_mem _ hx), List.length_cons, Nat.add_comm]

/-- The end of the file that is as long as two lines has a `=`. -/
theorem eq_mem_drop {entries : List (List UInt8 × List UInt8)}
    (good : ∀ e ∈ entries, GoodLine e ∧ (render e).length ≤ 256) :
    ∀ j, j + 512 ≤ (bytesOf entries).length → 61 ∈ (bytesOf entries).drop j := by
  induction entries with
  | nil => exact fun j hj => absurd hj (by simp [bytesOf])
  | cons e entries ih =>
    intro j hj
    obtain ⟨he, hlen⟩ := good e List.mem_cons_self
    have hrest : ∀ x ∈ entries, GoodLine x ∧ (render x).length ≤ 256 :=
      fun x hx => good x (List.mem_cons_of_mem _ hx)
    have hblock := length_block hlen
    rw [bytesOf_cons, List.length_append] at hj
    rw [bytesOf_cons, List.drop_append, List.mem_append]
    right
    rcases Nat.le_total j (block (render e)).length with hle | hle
    · -- the rest of the file has a whole line
      rw [Nat.sub_eq_zero_of_le hle, List.drop_zero]
      refine List.count_pos_iff.1 ?_
      rw [count_bytesOf hrest]
      refine List.length_pos_iff.2 fun hnil => ?_
      rw [hnil, bytesOf, List.map_nil, List.flatten_nil, List.length_nil] at hj
      omega
    · exact ih hrest _ (by omega)

/-! ### The lines before those of the trackers -/

theorem length_to_string_le {n k : ℕ} (hk : 0 < k) (h : n < 10 ^ k) : (to_string n).length ≤ k := by
  rw [Captions.to_string]
  split
  · exact hk
  · rw [List.length_map, List.length_reverse]
    exact (Nat.digits_length_le_iff (by decide) n).2 h

/-- The lines before those of the trackers are short, and have no `c`. -/
theorem scalarEntries_short {cfg : SmoothingConfig} (held : cfg.Held) :
    ∀ e ∈ cfg.scalarEntries, (render e).length ≤ 255 ∧ 99 ∉ render e := by
  have key : ∀ (p : List UInt8) (n : ℕ), p.length ≤ 32 → 99 ∉ p → n < 10 ^ 5 →
      (render (p, to_string n)).length ≤ 255 ∧ 99 ∉ render (p, to_string n) := by
    intro p n hp hc hn
    have hlen := length_to_string_le (k := 5) (by decide) hn
    have hdigits : 99 ∉ to_string n := fun h => absurd (isDigit_of_mem h) (by decide)
    constructor
    · simp only [render, List.length_append, List.length_cons, List.length_nil]
      omega
    · simp [render, hc, hdigits]
  intro e he
  rcases List.mem_append.1 he with he | he
  · simp only [List.mem_cons, List.not_mem_nil, or_false] at he
    rcases he with rfl | rfl | rfl
    · have := held.smoothness
      exact key _ _ (by decide) (by decide) (by omega)
    · have := cfg.finger_mask.toNat_lt
      exact key _ _ (by decide) (by decide) (by omega)
    · exact key _ _ (by decide) (by decide) (by split <;> decide)
  · obtain ⟨i, -, hi⟩ := List.mem_filterMap.1 he
    split at hi
    · obtain rfl := Option.some.inj hi
      have hrange := held.per_finger i
      have hidx := length_to_string_le (n := i) (k := 1) (by decide) (by omega)
      have hprefix : (ascii "per_finger_smoothness.").length = 22 := by decide
      refine key _ _ ?_ ?_ (by omega)
      · rw [List.length_append, hprefix]
        omega
      · rw [List.mem_append, not_or]
        exact ⟨by decide, fun h => absurd (isDigit_of_mem h) (by decide)⟩
    · cases hi

theorem length_scalarEntries (cfg : SmoothingConfig) : cfg.scalarEntries.length ≤ 13 := by
  have h := List.length_filterMap_le (fun i => if cfg.per_finger_smoothness i > 0 then
      some (ascii "per_finger_smoothness." ++ to_string i,
        to_string (cfg.per_finger_smoothness i).toNat)
    else none) (List.finRange 10)
  rw [List.length_finRange] at h
  simp only [SmoothingConfig.scalarEntries, List.length_append, List.length_cons, List.length_nil]
  omega

theorem countP_scalars {cfg : SmoothingConfig} (held : cfg.Held) :
    (cfg.scalarEntries.map render).countP loadsTracker = 0 := by
  rw [List.countP_eq_zero]
  intro line hline hloads
  obtain ⟨e, he, rfl⟩ := List.mem_map.1 hline
  exact (scalarEntries_short held e he).2 (marks_of_loadsTracker hloads).2

/-- How many serials a file can have loaded. -/
theorem length_LoadConfig_le {file : List UInt8} (h : textMode file = file) :
    (LoadConfig file).trackerSmoothness.length ≤
      (split isNewline 255 file).countP loadsTracker := by
  have := length_foldl_loadLine (split isNewline 255 (textMode file)) {}
  rw [h] at this
  rw [LoadConfig, h]
  simpa using this

section Lost

variable {cfg : SmoothingConfig} (held : cfg.Held)
  (good : ∀ e ∈ cfg.scalarEntries ++ cfg.trackerEntries,
    GoodLine e ∧ (render e).length ≤ 256)
include held good

/-- The lines before those of the trackers are read one by one, and load no serial. -/
theorem countP_split_scalars (s : List UInt8) :
    (split isNewline 255 (bytesOf cfg.scalarEntries ++ s)).countP loadsTracker =
      (split isNewline 255 s).countP loadsTracker := by
  have hshort : ∀ e ∈ cfg.scalarEntries, GoodLine e ∧ (render e).length ≤ 255 :=
    fun e he => ⟨(good e (List.mem_append_left _ he)).1, (scalarEntries_short held e he).1⟩
  rw [bytesOf_of_le fun e he => (hshort e he).2, split_renders _ hshort, List.countP_append,
    countP_scalars held, Nat.zero_add]

/-- **A file cut at 4 GiB has lost a serial.** -/
theorem length_lt_of_large {k : ℕ}
    (hcut : k + 2 ^ 32 ≤ (bytesOf (cfg.scalarEntries ++ cfg.trackerEntries)).length) :
    (LoadConfig
        ((bytesOf (cfg.scalarEntries ++ cfg.trackerEntries)).take k)).trackerSmoothness.length <
      cfg.trackerSmoothness.length := by
  refine lt_of_le_of_lt (length_LoadConfig_le (textMode_take good k)) ?_
  have htrackers : cfg.trackerEntries.length = cfg.trackerSmoothness.length := List.length_map _
  have hgood : ∀ e ∈ cfg.trackerEntries, GoodLine e ∧ (render e).length ≤ 256 :=
    fun e he => good e (List.mem_append_right _ he)
  rw [bytesOf_append, List.length_append] at hcut
  rw [bytesOf_append]
  rcases Nat.le_total k (bytesOf cfg.scalarEntries).length with hk | hk
  · -- the file ends before the trackers
    have hc : ((bytesOf cfg.scalarEntries).take k).count 99 = 0 := by
      rw [List.count_eq_zero]
      intro h
      have hmem := List.take_subset _ _ h
      rw [bytesOf_of_le fun e he => (scalarEntries_short held e he).1] at hmem
      obtain ⟨line, hline, hmem⟩ := List.mem_flatten.1 hmem
      obtain ⟨e, he, rfl⟩ := List.mem_map.1 hline
      exact (scalarEntries_short held e he).2 hmem
    have hzero := countP_split_le (fun _ h => (marks_of_loadsTracker h).2)
      ((bytesOf cfg.scalarEntries).take k)
    have hscalar := length_bytesOf_le (fun e he => (scalarEntries_short held e he).1)
      (by decide : 255 ≤ 256)
    have htracker := length_bytesOf_le (fun e he => (hgood e he).2) le_rfl
    have hnumber := length_scalarEntries cfg
    rw [List.take_append_of_le_length hk]
    omega
  · have htake : (bytesOf cfg.scalarEntries ++ bytesOf cfg.trackerEntries).take k =
        bytesOf cfg.scalarEntries ++
          (bytesOf cfg.trackerEntries).take (k - (bytesOf cfg.scalarEntries).length) := by
      rw [List.take_append, List.take_of_length_le hk]
    rw [htake, countP_split_scalars held good]
    refine lt_of_le_of_lt (countP_split_le (fun _ h => (marks_of_loadsTracker h).1) _) ?_
    have hall := count_bytesOf hgood
    rw [← List.take_append_drop (k - (bytesOf cfg.scalarEntries).length)
      (bytesOf cfg.trackerEntries), List.count_append] at hall
    have hpos := List.count_pos_iff.2 (eq_mem_drop hgood
      (k - (bytesOf cfg.scalarEntries).length) (by omega))
    omega

/-- **Behind a line of 256 bytes a serial is lost.** -/
theorem length_lt_of_full_line {before after : List (List UInt8 × List UInt8)}
    {e b : List UInt8 × List UInt8} (hsplit : cfg.trackerEntries = before ++ e :: b :: after)
    (hbefore : ∀ x ∈ before, (render x).length ≤ 255) (he : (render e).length = 256) :
    (LoadConfig (bytesOf (cfg.scalarEntries ++ cfg.trackerEntries))).trackerSmoothness.length <
      cfg.trackerSmoothness.length := by
  have htext := textMode_take good (bytesOf (cfg.scalarEntries ++ cfg.trackerEntries)).length
  rw [List.take_length] at htext
  refine lt_of_le_of_lt (length_LoadConfig_le htext) ?_
  have htrackers : cfg.trackerEntries.length = cfg.trackerSmoothness.length := List.length_map _
  have hgood : ∀ x ∈ cfg.trackerEntries, GoodLine x ∧ (render x).length ≤ 256 :=
    fun x hx => good x (List.mem_append_right _ hx)
  have hgoode : GoodLine e := (hgood e (by simp [hsplit])).1
  have hrest : ∀ x ∈ b :: after, GoodLine x ∧ (render x).length ≤ 256 :=
    fun x hx => hgood x (by simp only [hsplit, List.mem_append, List.mem_cons]; simp_all)
  have hshort : ∀ x ∈ before, GoodLine x ∧ (render x).length ≤ 255 :=
    fun x hx => ⟨(hgood x (by simp [hsplit, hx])).1, hbefore x hx⟩
  have hl := congrArg List.length (render_eq e)
  rw [List.length_append, List.length_singleton] at hl
  have hblock : block (render e) = e.1 ++ 61 :: e.2 ++ [0] := by
    rw [block_of_eq he, render_eq, List.take_left' (by omega)]
  -- the pieces: the lines before, the full line, and what is behind its NUL
  have hpieces : split isNewline 255 (bytesOf cfg.trackerEntries) = before.map render ++
      (e.1 ++ 61 :: e.2) :: split isNewline 255 (0 :: bytesOf (b :: after)) := by
    rw [hsplit, bytesOf_append, bytesOf_of_le hbefore, split_renders _ hshort, bytesOf_cons, hblock,
      List.append_assoc, split_full (newline_notMem hgoode) (by decide) (by omega)]
    rfl
  obtain ⟨hb, hblen⟩ := hrest b List.mem_cons_self
  obtain ⟨y, hy, hblockb⟩ := block_render hblen
  have hbl := congrArg List.length (render_eq b)
  have hvalpos := List.length_pos_iff.2 hb.val_ne
  have hkey : ∀ c ∈ 0 :: (b.1 ++ [61]), isNewline c = false := by
    intro c hc
    simp only [List.mem_cons, List.mem_append, List.not_mem_nil, or_false] at hc
    rcases hc with rfl | hc | rfl
    · decide
    · exact newline_notMem hb c (List.mem_append_left _ hc)
    · decide
  have hkeylen : (0 :: (b.1 ++ [61])).length ≤ 255 := by
    simp only [List.length_cons, List.length_append, List.length_nil] at hbl ⊢
    omega
  obtain ⟨r, pieces, hfirst⟩ :=
    exists_split hkey (by simp) hkeylen (b.2 ++ [y] ++ bytesOf after)
  have hhidden : 0 :: bytesOf (b :: after) =
      0 :: (b.1 ++ [61]) ++ (b.2 ++ [y] ++ bytesOf after) := by
    rw [bytesOf_cons, hblockb]
    simp
  have hflat : (split isNewline 255 (0 :: bytesOf (b :: after))).flatten =
      0 :: bytesOf (b :: after) := flatten_split _
  have hnot : loadsTracker (0 :: (b.1 ++ [61]) ++ r) = false := by
    rw [loadsTracker, decide_eq_false_iff_not]
    rintro ⟨h61, -⟩
    simp [lineText, cstr] at h61
  have hcount := congrArg (List.count 61) hflat
  rw [← hhidden] at hfirst
  rw [hfirst, List.flatten_cons, List.count_append, List.count_cons_of_ne (by decide),
    count_bytesOf hrest, List.length_cons] at hcount
  have hmarked : 0 < (0 :: (b.1 ++ [61]) ++ r).count 61 := List.count_pos_iff.2 (by simp)
  have hlater := countP_loadsTracker_le (fun _ h => (marks_of_loadsTracker h).1) pieces
  have hearlier : (before.map render).countP loadsTracker ≤ before.length := by
    have := List.countP_le_length (p := loadsTracker) (l := before.map render)
    rwa [List.length_map] at this
  have hone : [e.1 ++ 61 :: e.2].countP loadsTracker ≤ 1 := List.countP_le_length
  have hskip : ((0 :: (b.1 ++ [61]) ++ r) :: pieces).countP loadsTracker =
      pieces.countP loadsTracker := List.countP_cons_of_neg (by rw [hnot]; exact Bool.false_ne_true)
  rw [bytesOf_append, countP_split_scalars held good, hpieces, hfirst, List.countP_append,
    ← List.singleton_append, List.countP_append, hskip, ← htrackers, hsplit, List.length_append,
    List.length_cons, List.length_cons]
  omega

end Lost

/-! ## Exactly what comes back -/

/-- Lines that do not fit have a full line before the last one. -/
theorem exists_full_line {cfg : SmoothingConfig} (held : cfg.Held)
    (hlines : cfg.lines = (cfg.scalarEntries ++ cfg.trackerEntries).map render)
    (hall : ∀ e ∈ cfg.scalarEntries ++ cfg.trackerEntries, (render e).length ≤ 256)
    (hfits : ¬ Fits cfg.lines) :
    ∃ before e b after, cfg.trackerEntries = before ++ e :: b :: after ∧
      (∀ x ∈ before, (render x).length ≤ 255) ∧ (render e).length = 256 := by
  set short : List UInt8 × List UInt8 → Bool :=
    fun e => decide ((render e).length ≤ 255) with hshort
  have hbefore : ∀ x ∈ cfg.trackerEntries.takeWhile short, (render x).length ≤ 255 :=
    fun x hx => by simpa [hshort] using List.mem_takeWhile_imp hx
  have happend := List.takeWhile_append_dropWhile (p := short) (l := cfg.trackerEntries)
  have hscalars : ∀ x ∈ cfg.scalarEntries, (render x).length ≤ 255 :=
    fun x hx => (scalarEntries_short held x hx).1
  have hlast : ∀ x ∈ cfg.lines, x.length ≤ 256 := by
    rw [hlines]
    exact List.forall_mem_map.2 hall
  have hgetLast : ∀ line ∈ cfg.lines.getLast?, line.length ≤ 256 :=
    fun line h => hlast line (List.mem_of_getLast? h)
  match hdrop : cfg.trackerEntries.dropWhile short with
  | [] =>
    rw [hdrop, List.append_nil] at happend
    refine absurd ⟨fun line hline => ?_, hgetLast⟩ hfits
    rw [hlines] at hline
    obtain ⟨e, he, rfl⟩ := List.mem_map.1 (List.dropLast_subset _ hline)
    exact (List.mem_append.1 he).elim (hscalars e) fun he =>
      hbefore e (by rwa [happend])
  | [e] =>
    rw [hdrop] at happend
    refine absurd ⟨fun line hline => ?_, hgetLast⟩ hfits
    rw [hlines, ← happend, ← List.append_assoc, List.map_append, List.map_singleton,
      List.dropLast_concat] at hline
    obtain ⟨x, hx, rfl⟩ := List.mem_map.1 hline
    exact (List.mem_append.1 hx).elim (hscalars x) (hbefore x)
  | e :: b :: after =>
    rw [hdrop] at happend
    refine ⟨_, e, b, after, happend.symm, hbefore, ?_⟩
    have hnot := List.head?_dropWhile_not short cfg.trackerEntries
    rw [hdrop] at hnot
    have hlong : ¬ (render e).length ≤ 255 := by simpa [hshort] using hnot
    have hmem : e ∈ cfg.trackerEntries := by
      rw [← happend]
      simp
    have := hall e (List.mem_append_right _ hmem)
    omega

/-- **Exactly what comes back**: the file is written from inside the buffer and loads as the
    configuration if and only if every serial is plain, every line but the last has at most 255
    bytes and the last at most 256, and the file is below 4 GiB. -/
theorem loads_saved_iff (cfg : SmoothingConfig) (held : cfg.Held) :
    (∃ bytes, SaveConfig cfg = some bytes ∧ (LoadConfig bytes).Same cfg) ↔ cfg.Survives := by
  refine ⟨?_, loads_of_survives held⟩
  rintro ⟨bytes, hsave, hsame⟩
  have hplain := plain_of_same hsame
  have hlines := lines_eq held hplain
  have hlost := length_le_of_same hsame held.nodup
  rw [save_eq cfg _ hlines] at hsave
  split at hsave
  next hall =>
    obtain rfl := Option.some.inj hsave
    have good : ∀ e ∈ cfg.scalarEntries ++ cfg.trackerEntries,
        GoodLine e ∧ (render e).length ≤ 256 :=
      fun e he => ⟨goodLine_of_mem hplain e he, hall e he⟩
    have hlength := length_bytesOf hall
    rw [← hlines] at hlength
    have hsize : cfg.lines.flatten.length < 2 ^ 32 := by
      by_contra hlarge
      refine absurd hlost (Nat.not_le.2 (length_lt_of_large held good ?_))
      omega
    refine ⟨hplain, ?_, hsize⟩
    by_contra hfits
    obtain ⟨before, e, b, after, hsplit, hbefore, he⟩ := exists_full_line held hlines hall hfits
    have hlt := length_lt_of_full_line held good hsplit hbefore he
    rw [hlength, Nat.mod_eq_of_lt hsize, ← hlength, List.take_length] at hlost
    omega
  next => cases hsave

/-- A tracker and a controller, one finger. -/
theorem loads_saved_iff_two :
    ∃ bytes, SaveConfig ⟨40, 0x03FF, Function.update (fun _ => 0) 3 25,
        [(ascii "LHR-8F2A", 30), (ascii "LHR-00C1", 100)], true⟩ = some bytes ∧
      (LoadConfig bytes).Same ⟨40, 0x03FF, Function.update (fun _ => 0) 3 25,
        [(ascii "LHR-8F2A", 30), (ascii "LHR-00C1", 100)], true⟩ :=
  (loads_saved_iff _ ⟨by decide, by decide, by decide, by decide⟩).2
    ⟨by decide +kernel, ⟨by decide +kernel, by decide +kernel⟩, by decide +kernel⟩

/-- A serial with a `=` is cut there. -/
theorem serial_with_separator_lost :
    ¬ ∃ bytes, SaveConfig ⟨0, 0x03FF, fun _ => 0, [(ascii "A=B", 30)], false⟩ = some bytes ∧
      (LoadConfig bytes).Same ⟨0, 0x03FF, fun _ => 0, [(ascii "A=B", 30)], false⟩ := by
  rintro ⟨bytes, -, hsame⟩
  exact absurd (plain_of_same hsame _ List.mem_cons_self) (by decide)

end WKPairDriver.Smoothing
