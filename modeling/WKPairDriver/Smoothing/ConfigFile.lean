import WKPairDriver.Captions.HostCommand
import WKPairDriver.Lib.BoundedLines

/-!
# The settings file of the smoothing overlay

`SaveConfig` formats one line of text for each setting into a buffer of 256 bytes and appends as
many bytes of it as `snprintf` returns, which counts what did not fit too; `LoadConfig` reads lines
into a buffer of 256 bytes, in text mode, and splits each at its first `=`.  The serials of trackers
stand in the lines as they are.

* `keys_of_LoadConfig` — no loaded serial has a NUL, a line feed, a Ctrl-Z or a `=`.
-/

set_option autoImplicit false

namespace WKPairDriver.Smoothing

open Lib.Bytes Lib.BoundedLines
open Captions (to_string isSpace isDigit takeSign decimal)

/-- `SmoothingConfig`; `trackerSmoothness` lists the entries in the order of an iteration. -/
structure SmoothingConfig where
  smoothness : ℤ := 0
  finger_mask : UInt16 := 0x03FF
  per_finger_smoothness : Fin 10 → ℤ := fun _ => 0
  trackerSmoothness : List (List UInt8 × ℤ) := []
  smart_smoothing : Bool := false

/-! ## Numbers as text -/

/-- An `int` under `%d`. -/
def formatInt (z : ℤ) : List UInt8 :=
  if z < 0 then 45 :: to_string (-z).toNat else to_string z.toNat

/-- `atoi`: white space, a sign and decimal digits, with anything behind them, clamped to `int`. -/
def atoi (text : List UInt8) : ℤ :=
  let signed := takeSign (text.dropWhile isSpace)
  let value : ℤ := decimal (signed.2.takeWhile isDigit)
  max (-2 ^ 31) (min (2 ^ 31 - 1) (if signed.1 = true then -value else value))

/-- The value of a digit or a letter, 36 for anything else. -/
def digitValue (b : UInt8) : ℕ :=
  if isDigit b = true then b.toNat - 48
  else if 97 ≤ b ∧ b ≤ 122 then b.toNat - 87
  else if 65 ≤ b ∧ b ≤ 90 then b.toNat - 55
  else 36

/-- The base `strtoul` finds when it is given base 0, and the digits behind the prefix. -/
def findBase : List UInt8 → ℕ × List UInt8
  | 48 :: x :: rest =>
    if (x = 120 ∨ x = 88) ∧ (rest.head?.any fun d => decide (digitValue d < 16)) = true then
      (16, rest)
    else (8, x :: rest)
  | 48 :: [] => (8, [48])
  | text => (10, text)

/-- `strtoul(val, nullptr, 0)` for an `unsigned long` of 32 bits. -/
def strtoul (text : List UInt8) : ℕ :=
  let signed := takeSign (text.dropWhile isSpace)
  let based := findBase signed.2
  let digits := based.2.takeWhile fun d => decide (digitValue d < based.1)
  let value := digits.foldl (fun n d => based.1 * n + digitValue d) 0
  if 2 ^ 32 ≤ value then 2 ^ 32 - 1
  else if signed.1 = true then (2 ^ 32 - value) % 2 ^ 32
  else value

/-- `if (n < 0) n = 0; if (n > 100) n = 100;` -/
def clampStrength (n : ℤ) : ℤ :=
  let n := if n < 0 then 0 else n
  if n > 100 then 100 else n

/-! ## `SaveConfig` -/

/-- The texts `appendf` formats, in order. -/
def SmoothingConfig.lines (cfg : SmoothingConfig) : List (List UInt8) :=
  [ascii "smoothness=" ++ formatInt cfg.smoothness ++ [10],
    ascii "finger_mask=" ++ to_string cfg.finger_mask.toNat ++ [10],
    ascii "smart_smoothing=" ++ formatInt (if cfg.smart_smoothing = true then 1 else 0) ++ [10]] ++
  (List.finRange 10).filterMap (fun i =>
    if cfg.per_finger_smoothness i > 0 then
      some (ascii "per_finger_smoothness." ++ to_string i ++ ascii "=" ++
        formatInt (cfg.per_finger_smoothness i) ++ [10])
    else none) ++
  cfg.trackerSmoothness.map fun kv =>
    ascii "tracker_smoothness." ++ cstr kv.1 ++ ascii "=" ++ formatInt kv.2 ++ [10]

/-- `appendf`: `snprintf` writes at most 255 bytes and a NUL, and as many bytes are appended as the
    text has; `none` is an append from behind the buffer. -/
def appendf (body text : List UInt8) : Option (List UInt8) :=
  if text.length ≤ 256 then some (body ++ (text.take 255 ++ [0]).take text.length) else none

/-- The bytes `SaveConfig` writes: `WriteFile` takes the size as a `DWORD`. -/
def SaveConfig (cfg : SmoothingConfig) : Option (List UInt8) :=
  (cfg.lines.foldlM appendf []).map fun body => body.take (body.length % 2 ^ 32)

/-! ## `LoadConfig` -/

/-- A line end of two bytes is one in text mode. -/
def joinLineEnds : List UInt8 → List UInt8
  | 13 :: 10 :: text => 10 :: joinLineEnds text
  | c :: text => c :: joinLineEnds text
  | [] => []

/-- What a file opened with `"r"` delivers: nothing from a Ctrl-Z on. -/
def textMode (file : List UInt8) : List UInt8 := joinLineEnds (file.takeWhile (· ≠ 26))

/-- A line feed, where `fgets` stops. -/
def isNewline (b : UInt8) : Bool := decide (b = 10)

/-- A carriage return or a line feed, stripped from the end of a line. -/
def isLineEnd (b : UInt8) : Bool := decide (b = 10 ∨ b = 13)

/-- The branches over the key. -/
def SmoothingConfig.assign (cfg : SmoothingConfig) (key val : List UInt8) : SmoothingConfig :=
  if key = ascii "smoothness" then { cfg with smoothness := clampStrength (atoi val) }
  else if key = ascii "finger_mask" then { cfg with finger_mask := UInt16.ofNat (strtoul val) }
  else if ascii "per_finger_smoothness." <+: key then
    let idx := atoi (key.drop 22)
    let n := clampStrength (atoi val)
    { cfg with
      per_finger_smoothness := fun i => if idx = (i : ℕ) then n else cfg.per_finger_smoothness i }
  else if ascii "tracker_smoothness." <+: key then
    let n := clampStrength (atoi val)
    if n > 0 then
      { cfg with
        trackerSmoothness :=
          (key.drop 19, n) :: cfg.trackerSmoothness.filter fun e => decide (e.1 ≠ key.drop 19) }
    else cfg
  else if key = ascii "smart_smoothing" then { cfg with smart_smoothing := decide (atoi val ≠ 0) }
  else cfg

/-- The text of a line as the loop sees it: up to the first NUL, less the line ends at its end. -/
def lineText (line : List UInt8) : List UInt8 := (cstr line).rdropWhile isLineEnd

/-- One round of the loop. -/
def SmoothingConfig.loadLine (cfg : SmoothingConfig) (line : List UInt8) : SmoothingConfig :=
  match (lineText line).dropWhile (· ≠ 61) with
  | [] => cfg
  | _ :: val => cfg.assign ((lineText line).takeWhile (· ≠ 61)) val

/-- `LoadConfig` on the bytes of the file. -/
def LoadConfig (file : List UInt8) : SmoothingConfig :=
  (split isNewline 255 (textMode file)).foldl SmoothingConfig.loadLine {}

/-! ## The round trip -/

/-- What the plugin can hold: strengths in 0..100, saved ones from 1 on, one for each serial. -/
structure SmoothingConfig.Held (cfg : SmoothingConfig) : Prop where
  smoothness : 0 ≤ cfg.smoothness ∧ cfg.smoothness ≤ 100
  per_finger : ∀ i, 0 ≤ cfg.per_finger_smoothness i ∧ cfg.per_finger_smoothness i ≤ 100
  tracker : ∀ e ∈ cfg.trackerSmoothness, 1 ≤ e.2 ∧ e.2 ≤ 100
  nodup : (cfg.trackerSmoothness.map Prod.fst).Nodup

/-- Two configurations are the same, their maps as maps. -/
structure SmoothingConfig.Same (a b : SmoothingConfig) : Prop where
  smoothness : a.smoothness = b.smoothness
  finger_mask : a.finger_mask = b.finger_mask
  per_finger : a.per_finger_smoothness = b.per_finger_smoothness
  tracker : ∀ serial, a.trackerSmoothness.lookup serial = b.trackerSmoothness.lookup serial
  smart_smoothing : a.smart_smoothing = b.smart_smoothing

/-- A serial without NUL, line feed, Ctrl-Z and `=`. -/
def Plain (serial : List UInt8) : Prop := ∀ b ∈ serial, b ≠ 0 ∧ b ≠ 10 ∧ b ≠ 26 ∧ b ≠ 61

/-- Every line but the last has at most 255 bytes, and the last at most 256. -/
def Fits (lines : List (List UInt8)) : Prop :=
  (∀ line ∈ lines.dropLast, line.length ≤ 255) ∧ ∀ line ∈ lines.getLast?, line.length ≤ 256

/-- The configurations whose file comes back: plain serials, lines that fit, and a file below
    4 GiB. -/
structure SmoothingConfig.Survives (cfg : SmoothingConfig) : Prop where
  plain : ∀ e ∈ cfg.trackerSmoothness, Plain e.1
  fits : Fits cfg.lines
  size : cfg.lines.flatten.length < 2 ^ 32

/-! ## What a line can load -/

theorem newline_notMem_lineText {line : List UInt8}
    (h : ∀ c ∈ line.dropLast, isNewline c = false) : 10 ∉ lineText line := by
  intro hmem
  have hne : lineText line ≠ [] := List.ne_nil_of_mem hmem
  have hpre : lineText line <+: line :=
    (List.rdropWhile_prefix _ _).trans (List.takeWhile_prefix _)
  have hlast := List.rdropWhile_last_not isLineEnd (cstr line) hne
  obtain ⟨s, hs⟩ := hpre
  obtain rfl | hsne := eq_or_ne s []
  · -- the whole line: a line feed would be its last byte
    rw [List.append_nil] at hs
    rw [← List.dropLast_append_getLast hne, List.mem_append, List.mem_singleton] at hmem
    rcases hmem with hmem | hmem
    · rw [hs] at hmem
      simpa [isNewline] using h 10 hmem
    · have hend : isLineEnd ((lineText line).getLast hne) = true := by
        rw [← hmem]
        rfl
      exact hlast hend
  · have hdrop : line.dropLast = lineText line ++ s.dropLast := by
      conv_lhs => rw [← hs, List.dropLast_append_of_ne_nil hsne]
    simpa [isNewline] using h 10 (hdrop ▸ List.mem_append_left _ hmem)

theorem mem_of_mem_lineText {line : List UInt8} {b : UInt8} (h : b ∈ lineText line) :
    b ∈ line ∧ b ≠ 0 := by
  have hc : b ∈ cstr line := (List.rdropWhile_prefix _ _).subset h
  exact ⟨(List.takeWhile_prefix _).subset hc, fun h0 => nul_notMem_cstr line (h0 ▸ hc)⟩

/-- An assignment leaves the map, or puts the text behind the prefix in it. -/
theorem tracker_assign (cfg : SmoothingConfig) (key val : List UInt8) :
    (cfg.assign key val).trackerSmoothness = cfg.trackerSmoothness ∨
      ascii "tracker_smoothness." <+: key ∧ ∃ n, (cfg.assign key val).trackerSmoothness =
        (key.drop 19, n) :: cfg.trackerSmoothness.filter fun e => decide (e.1 ≠ key.drop 19) := by
  unfold SmoothingConfig.assign
  split
  · exact .inl rfl
  split
  · exact .inl rfl
  split
  · exact .inl rfl
  split
  next hkey =>
    dsimp only
    split
    · exact .inr ⟨hkey, _, rfl⟩
    · exact .inl rfl
  split <;> exact .inl rfl

/-- A line from which a serial can be loaded. -/
def loadsTracker (line : List UInt8) : Bool :=
  decide (61 ∈ lineText line ∧ ascii "tracker_smoothness." <+: lineText line)

theorem tracker_loadLine (cfg : SmoothingConfig) (line : List UInt8) :
    (cfg.loadLine line).trackerSmoothness = cfg.trackerSmoothness ∨
      loadsTracker line = true ∧ ∃ n, (cfg.loadLine line).trackerSmoothness =
        (((lineText line).takeWhile (· ≠ 61)).drop 19, n) ::
          cfg.trackerSmoothness.filter
            fun e => decide (e.1 ≠ ((lineText line).takeWhile (· ≠ 61)).drop 19) := by
  unfold SmoothingConfig.loadLine
  split
  · exact .inl rfl
  next b val hdrop =>
    rcases tracker_assign cfg ((lineText line).takeWhile (· ≠ 61)) val with h | ⟨hkey, h⟩
    · exact .inl h
    · refine .inr ⟨?_, h⟩
      have hb : b = 61 := by
        have := List.head?_dropWhile_not (fun c : UInt8 => decide (c ≠ 61)) (lineText line)
        rw [hdrop] at this
        simpa using this
      have hmem : b ∈ lineText line :=
        (List.dropWhile_suffix _).subset (hdrop ▸ List.mem_cons_self)
      exact decide_eq_true ⟨hb ▸ hmem, hkey.trans (List.takeWhile_prefix _)⟩

/-- **No loaded serial has a NUL, a line feed, a Ctrl-Z or a `=`.** -/
theorem plain_loadLine {cfg : SmoothingConfig} {line : List UInt8}
    (hcfg : ∀ e ∈ cfg.trackerSmoothness, Plain e.1)
    (hline : ∀ c ∈ line.dropLast, isNewline c = false) (heof : 26 ∉ line) :
    ∀ e ∈ (cfg.loadLine line).trackerSmoothness, Plain e.1 := by
  rcases tracker_loadLine cfg line with h | ⟨-, n, h⟩
  · rwa [h]
  · rw [h]
    intro e he
    rcases List.mem_cons.1 he with rfl | he
    · intro b hb
      have hkey := List.drop_subset _ _ hb
      have htext := (List.takeWhile_prefix _).subset hkey
      have hne : b ≠ 61 := by simpa using List.mem_takeWhile_imp hkey
      obtain ⟨hmem, h0⟩ := mem_of_mem_lineText htext
      exact ⟨h0, fun h10 => newline_notMem_lineText hline (h10 ▸ htext),
        fun h26 => heof (h26 ▸ hmem), hne⟩
    · exact hcfg e (List.mem_of_mem_filter he)

theorem mem_joinLineEnds : ∀ {text : List UInt8} {b : UInt8}, b ∈ joinLineEnds text → b ∈ text := by
  intro text b h
  fun_induction joinLineEnds text with
  | case1 text ih =>
    rcases List.mem_cons.1 h with rfl | h
    · simp
    · exact List.mem_cons_of_mem _ (List.mem_cons_of_mem _ (ih h))
  | case2 c text _ ih =>
    rcases List.mem_cons.1 h with rfl | h
    · exact List.mem_cons_self
    · exact List.mem_cons_of_mem _ (ih h)
  | case3 => exact h

theorem keys_of_LoadConfig (file : List UInt8) :
    ∀ e ∈ (LoadConfig file).trackerSmoothness, Plain e.1 := by
  have key : ∀ (lines : List (List UInt8)) (cfg : SmoothingConfig),
      (∀ e ∈ cfg.trackerSmoothness, Plain e.1) →
      (∀ line ∈ lines, (∀ c ∈ line.dropLast, isNewline c = false) ∧ 26 ∉ line) →
      ∀ e ∈ (lines.foldl SmoothingConfig.loadLine cfg).trackerSmoothness, Plain e.1 := by
    intro lines
    induction lines with
    | nil => exact fun cfg hcfg _ => hcfg
    | cons line lines ih =>
      intro cfg hcfg hlines
      obtain ⟨hline, heof⟩ := hlines line List.mem_cons_self
      exact ih _ (plain_loadLine hcfg hline heof)
        fun l hl => hlines l (List.mem_cons_of_mem _ hl)
  refine key _ {} (by simp) fun line hline => ⟨dropLast_split _ line hline, fun h26 => ?_⟩
  have hmem := mem_joinLineEnds (mem_of_mem_split hline h26)
  simpa using List.mem_takeWhile_imp hmem

/-- Serials are loaded from as many lines as there are. -/
theorem length_foldl_loadLine (lines : List (List UInt8)) : ∀ cfg : SmoothingConfig,
    (lines.foldl SmoothingConfig.loadLine cfg).trackerSmoothness.length ≤
      cfg.trackerSmoothness.length + lines.countP loadsTracker := by
  induction lines with
  | nil => simp
  | cons line lines ih =>
    intro cfg
    have hfold := ih (cfg.loadLine line)
    have hone : (cfg.loadLine line).trackerSmoothness.length ≤
        cfg.trackerSmoothness.length + if loadsTracker line = true then 1 else 0 := by
      rcases tracker_loadLine cfg line with h | ⟨hl, n, h⟩
      · rw [h]
        exact Nat.le_add_right _ _
      · rw [h, if_pos hl, List.length_cons]
        exact Nat.succ_le_succ (List.length_filter_le _ _)
    rw [List.foldl_cons, List.countP_cons]
    omega

end WKPairDriver.Smoothing
