import WKPairDriver.Lib.Bytes

/-!
# The captions control pipe: `BuildHostConfigCommand` and `DispatchControlMessage`

The driver sends the host its configuration as one line of text, `config:key=value,…`, without
quoting; the host splits it by hand and converts the numbers with `std::stoi`, which throws.

* `entries` — the entries of a command body: the text up to the next `=` and the value up to the
  comma behind it, less the line end; `applyEntries_eq` says that the loop assigns them in order.
* `entries_append` — a value without comma is one entry, whatever follows.
* `stoi_to_string` — the numbers of a configuration are read back.
* `applyEntries_plain` — no assigned text has a comma or ends with a line end.
* `host_command_iff` — the command sets exactly the configuration if and only if no text of it has
  a comma or ends with a line end, and a message is taken without an exception if and only if its
  numbers can be converted.
-/

set_option autoImplicit false

namespace WKPairDriver.Captions

open Lib.Bytes

/-! ## `protocol::CaptionsConfig` -/

def CAPTIONS_LANG_LEN : ℕ := 16
def CAPTIONS_ADDR_LEN : ℕ := 48

/-- The text of a NUL-terminated buffer of `len` bytes. -/
structure Field (len : ℕ) where
  text : List UInt8
  no_nul : 0 ∉ text
  fits : text.length < len

/-- `CaptionsConfig`; `master_enabled` and `notify_sound` are not sent to the host. -/
structure CaptionsConfig where
  mode : UInt8
  transcript_logging : UInt8
  chatbox_port : UInt16
  source_lang : Field CAPTIONS_LANG_LEN
  target_lang : Field CAPTIONS_LANG_LEN
  chatbox_address : Field CAPTIONS_ADDR_LEN

/-! ## Numbers as text -/

/-- `std::to_string` of an `int` that is not negative. -/
def to_string (n : ℕ) : List UInt8 :=
  if n = 0 then [48] else (Nat.digits 10 n).reverse.map fun d => UInt8.ofNat (48 + d)

/-- `isspace` in the C locale. -/
def isSpace (b : UInt8) : Bool := b = 32 ∨ (9 ≤ b ∧ b ≤ 13)

def isDigit (b : UInt8) : Bool := 48 ≤ b ∧ b ≤ 57

/-- The sign `strtol` takes in front of the digits, and what is behind it. -/
def takeSign : List UInt8 → Bool × List UInt8
  | 45 :: rest => (true, rest)
  | 43 :: rest => (false, rest)
  | text => (false, text)

def decimal (digits : List UInt8) : ℕ := digits.foldl (fun n b => 10 * n + (b.toNat - 48)) 0

/-- `std::stoi`: white space, a sign and decimal digits, with anything behind them; `none` is
    `std::invalid_argument` or `std::out_of_range`. -/
def stoi (text : List UInt8) : Option ℤ :=
  let signed := takeSign (text.dropWhile isSpace)
  let digits := signed.2.takeWhile isDigit
  let value : ℤ := if signed.1 then -(decimal digits : ℤ) else decimal digits
  if digits = [] then none
  else if -2 ^ 31 ≤ value ∧ value < 2 ^ 31 then some value
  else none

/-! ## The driver -/

/-- The command line of a configuration. -/
def BuildHostConfigCommand (config : CaptionsConfig) : List UInt8 :=
  ascii "config:" ++
    (ascii "src=" ++ config.source_lang.text ++
    (ascii ",tgt=" ++ config.target_lang.text ++
    (ascii ",mode=" ++ to_string config.mode.toNat ++
    (ascii ",addr=" ++ config.chatbox_address.text ++
    (ascii ",port=" ++ to_string config.chatbox_port.toNat ++
    (ascii ",log=" ++ to_string config.transcript_logging.toNat ++
    ascii "\n"))))))

/-! ## The host -/

structure HostConfig where
  source_lang : List UInt8 := ascii "auto"
  target_lang : List UInt8 := []
  chatbox_address : List UInt8 := ascii "/chatbox/input"
  chatbox_port : UInt16 := 9000
  transcript_logging : Bool := false
  mode : ℤ := 0
  whisper_model_path : List UInt8
  silero_model_path : List UInt8
deriving DecidableEq

/-- One `if … else if` chain of the loop; an unknown key is passed over. -/
def HostConfig.assign (g : HostConfig) (key val : List UInt8) : Option HostConfig :=
  if key = ascii "src" then some { g with source_lang := val }
  else if key = ascii "tgt" then some { g with target_lang := val }
  else if key = ascii "mode" then (stoi val).map fun n => { g with mode := n }
  else if key = ascii "addr" then some { g with chatbox_address := val }
  else if key = ascii "port" then
    (stoi val).map fun n => { g with chatbox_port := UInt16.ofNat (n % 2 ^ 16).toNat }
  else if key = ascii "log" then some { g with transcript_logging := val ≠ ascii "0" }
  else some g

def isEq (b : UInt8) : Bool := b = 61
def isComma (b : UInt8) : Bool := b = 44
def isLineEnd (b : UInt8) : Bool := b = 10 ∨ b = 13

/-- The value of an entry: up to the comma, less the line ends at its end. -/
def value (text : List UInt8) : List UInt8 := (text.takeWhile (!isComma ·)).rdropWhile isLineEnd

/-- One round of the loop: the text up to the next `=`, the value behind it, and what is behind the
    comma (nothing also where there is no comma); `none` is the `break` without a `=`. -/
def nextEntry (body : List UInt8) : Option ((List UInt8 × List UInt8) × List UInt8) :=
  match body.dropWhile (!isEq ·) with
  | [] => none
  | _ :: tail =>
    some ((body.takeWhile (!isEq ·), value tail), (tail.dropWhile (!isComma ·)).drop 1)

theorem nextEntry_length {body rest : List UInt8} {e : List UInt8 × List UInt8}
    (h : nextEntry body = some (e, rest)) : rest.length < body.length := by
  have hbody := (List.dropWhile_suffix (!isEq ·) (l := body)).length_le
  unfold nextEntry at h
  split at h
  · cases h
  · next tail hdrop =>
    cases h
    have htail := (List.dropWhile_suffix (!isComma ·) (l := tail)).length_le
    rw [hdrop, List.length_cons] at hbody
    rw [List.length_drop]
    omega

/-- The `while` loop over the body of a command; `none` is an exception out of the loop. -/
def applyEntries (g : HostConfig) (body : List UInt8) : Option HostConfig :=
  match _h : nextEntry body with
  | none => some g
  | some (e, rest) =>
    match g.assign e.1 e.2 with
    | none => none
    | some g' => applyEntries g' rest
termination_by body.length
decreasing_by exact nextEntry_length _h

/-- `DispatchControlMessage`, from the configuration `g_config` on. -/
def DispatchControlMessage (g : HostConfig) (msg : List UInt8) : Option HostConfig :=
  if ascii "config:" <+: msg then applyEntries g (msg.drop 7) else some g

/-! ## The entries of a command -/

/-- Keys and values of a command body. -/
def entries (body : List UInt8) : List (List UInt8 × List UInt8) :=
  match _h : nextEntry body with
  | none => []
  | some (e, rest) => e :: entries rest
termination_by body.length
decreasing_by exact nextEntry_length _h

theorem entries_none {body : List UInt8} (h : nextEntry body = none) : entries body = [] := by
  rw [entries]
  split <;> simp_all

theorem entries_some {body rest : List UInt8} {e : List UInt8 × List UInt8}
    (h : nextEntry body = some (e, rest)) : entries body = e :: entries rest := by
  rw [entries]
  split <;> simp_all

theorem applyEntries_none {g : HostConfig} {body : List UInt8} (h : nextEntry body = none) :
    applyEntries g body = some g := by
  rw [applyEntries]
  split <;> simp_all

theorem applyEntries_some {g : HostConfig} {body rest : List UInt8} {e : List UInt8 × List UInt8}
    (h : nextEntry body = some (e, rest)) :
    applyEntries g body = (g.assign e.1 e.2).bind (applyEntries · rest) := by
  rw [applyEntries]
  split
  · simp_all
  · next heq =>
    cases h.symm.trans heq
    cases g.assign e.1 e.2 <;> rfl

/-- The loop assigns the entries in order, up to the first that throws. -/
theorem applyEntries_eq (g : HostConfig) (body : List UInt8) :
    applyEntries g body = (entries body).foldlM (fun g e => g.assign e.1 e.2) g := by
  induction body using entries.induct generalizing g with
  | case1 body h => rw [applyEntries_none h, entries_none h, List.foldlM_nil, Option.pure_def]
  | case2 body e rest h ih =>
    rw [applyEntries_some h, entries_some h, List.foldlM_cons, Option.bind_eq_bind]
    congr 1
    funext g'
    exact ih g'

/-- A text that an entry can carry: without a comma, and without a line end at its end. -/
def Plain (text : List UInt8) : Prop := 44 ∉ text ∧ ∀ b ∈ text.getLast?, b ≠ 10 ∧ b ≠ 13

theorem rdropWhile_isLineEnd_iff (text : List UInt8) :
    text.rdropWhile isLineEnd = text ↔ ∀ b ∈ text.getLast?, b ≠ 10 ∧ b ≠ 13 := by
  obtain rfl | ⟨text, b, rfl⟩ := text.eq_nil_or_concat
  · simp
  · simp [List.rdropWhile_eq_self_iff, isLineEnd]

theorem value_eq_self_iff (text : List UInt8) : value text = text ↔ Plain text := by
  have hcomma : text.takeWhile (!isComma ·) = text ↔ 44 ∉ text := by
    rw [List.takeWhile_eq_self_iff]
    constructor
    · intro h h44
      simpa [isComma] using h 44 h44
    · intro h b hb
      simp only [isComma, Bool.not_eq_true', decide_eq_false_iff_not]
      intro h44
      exact h (h44 ▸ hb)
  rw [Plain, ← rdropWhile_isLineEnd_iff, ← hcomma]
  constructor
  · intro h
    have hlen := (List.rdropWhile_prefix isLineEnd (text.takeWhile (!isComma ·))).length_le
    have htake : text.takeWhile (!isComma ·) = text := by
      refine (List.takeWhile_prefix _).eq_of_length_le ?_
      rw [value] at h
      rwa [h] at hlen
    exact ⟨htake, by rwa [value, htake] at h⟩
  · rintro ⟨htake, hdrop⟩
    rw [value, htake, hdrop]

/-- Every value is plain. -/
theorem plain_value (text : List UInt8) : Plain (value text) := by
  have hcomma : ∀ b ∈ value text, (!isComma b) = true := by
    intro b hb
    have hmem := (List.rdropWhile_prefix isLineEnd _).subset hb
    exact List.mem_takeWhile_imp (p := (!isComma ·)) hmem
  rw [← value_eq_self_iff, value, List.takeWhile_eq_self_iff.2 hcomma]
  exact List.rdropWhile_idempotent _ _

/-- A key without `=` and a value without comma are an entry, whatever is behind the comma. -/
theorem nextEntry_append {key text : List UInt8} (rest : List UInt8) (hkey : 61 ∉ key)
    (htext : 44 ∉ text) (hrest : ∀ b ∈ rest.head?, b = 44) : nextEntry (key ++ 61 :: (text ++ rest)) =
      some ((key, text.rdropWhile isLineEnd), rest.drop 1) := by
  have hkey' : ∀ b ∈ key, (!isEq b) = true := by
    intro b hb
    simp only [isEq, Bool.not_eq_true', decide_eq_false_iff_not]
    intro h
    exact hkey (h ▸ hb)
  have htext' : ∀ b ∈ text, (!isComma b) = true := by
    intro b hb
    simp only [isComma, Bool.not_eq_true', decide_eq_false_iff_not]
    intro h
    exact htext (h ▸ hb)
  have hrest' : rest.takeWhile (!isComma ·) = [] ∧ rest.dropWhile (!isComma ·) = rest := by
    cases rest with
    | nil => simp
    | cons b rest =>
      cases hrest b rfl
      exact ⟨List.takeWhile_cons_of_neg (by decide), List.dropWhile_cons_of_neg (by decide)⟩
  have hdrop : (key ++ 61 :: (text ++ rest)).dropWhile (!isEq ·) = 61 :: (text ++ rest) := by
    rw [List.dropWhile_append_of_pos hkey']
    exact List.dropWhile_cons_of_neg (by decide)
  have htake : (key ++ 61 :: (text ++ rest)).takeWhile (!isEq ·) = key := by
    rw [List.takeWhile_append_of_pos hkey', List.takeWhile_cons_of_neg (by decide),
      List.append_nil]
  unfold nextEntry
  rw [hdrop, htake]
  simp only [value]
  rw [List.takeWhile_append_of_pos htext', List.dropWhile_append_of_pos htext', hrest'.1, hrest'.2,
    List.append_nil]

/-- The entries of a command: one more in front. -/
theorem entries_append {key text rest : List UInt8} (hkey : 61 ∉ key) (htext : Plain text) :
    entries (key ++ 61 :: (text ++ 44 :: rest)) = (key, text) :: entries rest := by
  have h := nextEntry_append (44 :: rest) hkey htext.1 (by simp)
  rw [(rdropWhile_isLineEnd_iff text).2 htext.2] at h
  exact entries_some h

/-- The last entry, with the line end of the command. -/
theorem entries_line {key text : List UInt8} (hkey : 61 ∉ key) (htext : Plain text) :
    entries (key ++ 61 :: (text ++ ascii "\n")) = [(key, text)] := by
  have hcomma : 44 ∉ text ++ ascii "\n" := by
    simpa [htext.1] using (by decide : 44 ∉ ascii "\n")
  have h := nextEntry_append [] hkey hcomma (by simp)
  have hline : (text ++ ascii "\n").rdropWhile isLineEnd = text := by
    have hn : ascii "\n" = [10] := by decide
    rw [hn, List.rdropWhile_concat_pos _ _ _ (by decide), rdropWhile_isLineEnd_iff]
    exact htext.2
  rw [hline, List.append_nil] at h
  rw [entries_some h]
  exact congrArg _ (entries_none rfl)

/-! ## Reading the numbers back -/

theorem isDigit_of_mem {n : ℕ} {b : UInt8} (hb : b ∈ to_string n) : isDigit b = true := by
  unfold to_string at hb
  split at hb
  · rw [List.mem_singleton.1 hb]
    decide
  · obtain ⟨d, hd, rfl⟩ := List.mem_map.1 hb
    have := Nat.digits_lt_base (by decide : 1 < 10) (List.mem_reverse.1 hd)
    simp only [isDigit, Bool.decide_and, Bool.and_eq_true, decide_eq_true_eq,
      UInt8.le_iff_toNat_le, UInt8.toNat_ofNat', UInt8.toNat_ofNat]
    omega

theorem to_string_ne_nil (n : ℕ) : to_string n ≠ [] := by
  unfold to_string
  split
  · simp
  · next hn => simpa using Nat.digits_ne_nil_iff_ne_zero.2 hn

theorem decimal_to_string (n : ℕ) : decimal (to_string n) = n := by
  unfold to_string
  split
  · next hn => simp [decimal, hn]
  · have hdigit : ∀ d ∈ Nat.digits 10 n, (UInt8.ofNat (48 + d)).toNat - 48 = d := by
      intro d hd
      have := Nat.digits_lt_base (by decide : 1 < 10) hd
      rw [UInt8.toNat_ofNat']
      omega
    calc decimal ((Nat.digits 10 n).reverse.map fun d => UInt8.ofNat (48 + d))
        = (Nat.digits 10 n).foldr (fun d m => 10 * m + ((UInt8.ofNat (48 + d)).toNat - 48)) 0 := by
          rw [decimal, List.foldl_map, List.foldl_reverse]
      _ = (Nat.digits 10 n).foldr (fun d m => d + 10 * m) 0 := by
          refine List.foldr_ext _ _ _ fun d hd m => ?_
          rw [hdigit d hd, Nat.add_comm]
      _ = n := by
          have := Nat.ofDigits_digits 10 n
          rwa [Nat.ofDigits_eq_foldr] at this

theorem takeSign_digits {text : List UInt8} (h : ∀ b ∈ text, isDigit b = true) :
    takeSign text = (false, text) := by
  unfold takeSign
  split
  · simpa [isDigit] using h 45 List.mem_cons_self
  · simpa [isDigit] using h 43 List.mem_cons_self
  · rfl

theorem dropWhile_isSpace_to_string (n : ℕ) : (to_string n).dropWhile isSpace = to_string n := by
  rw [List.dropWhile_eq_self_iff]
  intro hlen hspace
  have := isDigit_of_mem (List.getElem_mem hlen)
  simp only [isDigit, isSpace, Bool.decide_and, Bool.decide_or, Bool.and_eq_true, Bool.or_eq_true,
    decide_eq_true_eq, UInt8.le_iff_toNat_le, ← UInt8.toNat_inj, UInt8.toNat_ofNat] at this hspace
  omega

theorem takeSign_to_string (n : ℕ) : takeSign (to_string n) = (false, to_string n) :=
  takeSign_digits fun _ hb => isDigit_of_mem hb

theorem takeWhile_isDigit_to_string (n : ℕ) : (to_string n).takeWhile isDigit = to_string n :=
  List.takeWhile_eq_self_iff.2 fun _ hb => isDigit_of_mem hb

theorem stoi_to_string {n : ℕ} (hn : n < 2 ^ 31) : stoi (to_string n) = some (n : ℤ) := by
  have hrange : -2 ^ 31 ≤ (n : ℤ) ∧ (n : ℤ) < 2 ^ 31 := by omega
  simp only [stoi, dropWhile_isSpace_to_string, takeSign_to_string, takeWhile_isDigit_to_string,
    decimal_to_string, to_string_ne_nil, hrange, if_false, Bool.false_eq_true, and_self, if_true]

theorem to_string_eq_zero_iff (n : ℕ) : to_string n = ascii "0" ↔ n = 0 := by
  constructor
  · intro h
    rw [← decimal_to_string n, h]
    decide
  · rintro rfl
    decide

theorem plain_to_string (n : ℕ) : Plain (to_string n) := by
  refine ⟨fun h => absurd (isDigit_of_mem h) (by decide), fun b hb => ?_⟩
  have := isDigit_of_mem (List.mem_of_getLast? hb)
  constructor <;> rintro rfl <;> exact absurd this (by decide)

/-! ## The round trip -/

/-- The texts of a configuration can be carried by the command. -/
def CaptionsConfig.Plain (config : CaptionsConfig) : Prop :=
  Captions.Plain config.source_lang.text ∧ Captions.Plain config.target_lang.text ∧
    Captions.Plain config.chatbox_address.text

/-- What the command is for: six fields are those of the configuration, the others are kept. -/
def HostConfig.withConfig (g : HostConfig) (config : CaptionsConfig) : HostConfig :=
  { g with
    source_lang := config.source_lang.text
    target_lang := config.target_lang.text
    mode := config.mode.toNat
    chatbox_address := config.chatbox_address.text
    chatbox_port := config.chatbox_port
    transcript_logging := config.transcript_logging ≠ 0 }

theorem entries_BuildHostConfigCommand {config : CaptionsConfig} (h : config.Plain) :
    entries ((BuildHostConfigCommand config).drop 7) =
      [(ascii "src", config.source_lang.text), (ascii "tgt", config.target_lang.text),
       (ascii "mode", to_string config.mode.toNat), (ascii "addr", config.chatbox_address.text),
       (ascii "port", to_string config.chatbox_port.toNat),
       (ascii "log", to_string config.transcript_logging.toNat)] := by
  have hsrc : ascii "src=" = ascii "src" ++ [61] := by decide
  have htgt : ascii ",tgt=" = 44 :: (ascii "tgt" ++ [61]) := by decide
  have hmode : ascii ",mode=" = 44 :: (ascii "mode" ++ [61]) := by decide
  have haddr : ascii ",addr=" = 44 :: (ascii "addr" ++ [61]) := by decide
  have hport : ascii ",port=" = 44 :: (ascii "port" ++ [61]) := by decide
  have hlog : ascii ",log=" = 44 :: (ascii "log" ++ [61]) := by decide
  have hdrop (rest : List UInt8) : (ascii "config:" ++ rest).drop 7 = rest :=
    List.drop_left' (by decide)
  rw [BuildHostConfigCommand, hdrop]
  simp only [hsrc, htgt, hmode, haddr, hport, hlog, List.append_assoc, List.cons_append,
    List.nil_append]
  rw [entries_append (by decide) h.1, entries_append (by decide) h.2.1,
    entries_append (by decide) (plain_to_string _), entries_append (by decide) h.2.2,
    entries_append (by decide) (plain_to_string _), entries_line (by decide) (plain_to_string _)]

/-- The comparisons of a key with those in front of its own fail. -/
theorem keys_ne :
    ascii "tgt" ≠ ascii "src" ∧ ascii "mode" ≠ ascii "src" ∧ ascii "mode" ≠ ascii "tgt" ∧
    ascii "addr" ≠ ascii "src" ∧ ascii "addr" ≠ ascii "tgt" ∧ ascii "addr" ≠ ascii "mode" ∧
    ascii "port" ≠ ascii "src" ∧ ascii "port" ≠ ascii "tgt" ∧ ascii "port" ≠ ascii "mode" ∧
    ascii "port" ≠ ascii "addr" ∧ ascii "log" ≠ ascii "src" ∧ ascii "log" ≠ ascii "tgt" ∧
    ascii "log" ≠ ascii "mode" ∧ ascii "log" ≠ ascii "addr" ∧ ascii "log" ≠ ascii "port" := by
  decide

/-- A plain configuration arrives as it is. -/
theorem dispatch_plain {config : CaptionsConfig} (h : config.Plain) (g : HostConfig) :
    DispatchControlMessage g (BuildHostConfigCommand config) = some (g.withConfig config) := by
  have hprefix : ascii "config:" <+: BuildHostConfigCommand config := List.prefix_append ..
  have hmode : stoi (to_string config.mode.toNat) = some (config.mode.toNat : ℤ) :=
    stoi_to_string (config.mode.toNat_lt.trans (by decide))
  have hport : stoi (to_string config.chatbox_port.toNat) = some (config.chatbox_port.toNat : ℤ) :=
    stoi_to_string (config.chatbox_port.toNat_lt.trans (by decide))
  have hport16 : UInt16.ofNat ((config.chatbox_port.toNat : ℤ) % 2 ^ 16).toNat =
      config.chatbox_port := by
    have := config.chatbox_port.toNat_lt
    rw [← UInt16.toNat_inj, UInt16.toNat_ofNat']
    omega
  have hlog : decide (to_string config.transcript_logging.toNat ≠ ascii "0") =
      decide (config.transcript_logging ≠ 0) := by
    rw [decide_eq_decide, not_iff_not, to_string_eq_zero_iff, ← UInt8.toNat_inj, UInt8.toNat_zero]
  rw [DispatchControlMessage, if_pos hprefix, applyEntries_eq, entries_BuildHostConfigCommand h]
  simp only [List.foldlM_cons, List.foldlM_nil, HostConfig.assign, keys_ne, if_true, if_false,
    hmode, hport, Option.map_some, Option.bind_eq_bind, Option.bind_some, Option.pure_def,
    HostConfig.withConfig, hport16, hlog]

/-! ## What arrives otherwise -/

def HostConfig.Plain (g : HostConfig) : Prop :=
  Captions.Plain g.source_lang ∧ Captions.Plain g.target_lang ∧ Captions.Plain g.chatbox_address

theorem plain_of_mem_entries (body : List UInt8) : ∀ e ∈ entries body, Plain e.2 := by
  induction body using entries.induct with
  | case1 body h => simp [entries_none h]
  | case2 body e rest h ih =>
    intro e' he'
    rw [entries_some h] at he'
    obtain rfl | he' := List.mem_cons.1 he'
    · unfold nextEntry at h
      split at h
      · cases h
      · cases h
        exact plain_value _
    · exact ih e' he'

theorem assign_plain {g g' : HostConfig} {key val : List UInt8} (hg : g.Plain) (hval : Plain val)
    (h : g.assign key val = some g') : g'.Plain := by
  unfold HostConfig.assign at h
  split_ifs at h
  case pos => cases h; exact ⟨hval, hg.2⟩
  case pos => cases h; exact ⟨hg.1, hval, hg.2.2⟩
  case pos => obtain ⟨n, -, rfl⟩ := Option.map_eq_some_iff.1 h; exact hg
  case pos => cases h; exact ⟨hg.1, hg.2.1, hval⟩
  case pos => obtain ⟨n, -, rfl⟩ := Option.map_eq_some_iff.1 h; exact hg
  case pos => cases h; exact hg
  case neg => cases h; exact hg

/-- From plain texts on, the host only ever holds plain texts. -/
theorem foldlM_assign_plain (l : List (List UInt8 × List UInt8)) :
    ∀ {g g' : HostConfig}, g.Plain → (∀ e ∈ l, Plain e.2) →
      l.foldlM (fun g e => g.assign e.1 e.2) g = some g' → g'.Plain := by
  induction l with
  | nil =>
    intro g g' hg _ h
    cases h
    exact hg
  | cons e l ih =>
    intro g g' hg hl h
    rw [List.foldlM_cons, Option.bind_eq_bind] at h
    obtain ⟨g₁, hstep, hrest⟩ := Option.bind_eq_some_iff.1 h
    exact ih (assign_plain hg (hl e List.mem_cons_self) hstep)
      (fun e he => hl e (List.mem_cons_of_mem _ he)) hrest

theorem dispatch_keeps_plain {g g' : HostConfig} {msg : List UInt8} (hg : g.Plain)
    (h : DispatchControlMessage g msg = some g') : g'.Plain := by
  unfold DispatchControlMessage at h
  split at h
  · rw [applyEntries_eq] at h
    exact foldlM_assign_plain _ hg (plain_of_mem_entries _) h
  · cases h
    exact hg

/-- The numbers of an entry can be converted. -/
def Converts (e : List UInt8 × List UInt8) : Prop :=
  e.1 = ascii "mode" ∨ e.1 = ascii "port" → (stoi e.2).isSome

theorem assign_isSome_iff (g : HostConfig) (key val : List UInt8) :
    (g.assign key val).isSome ↔ Converts (key, val) := by
  have hsrc : ¬(ascii "src" = ascii "mode" ∨ ascii "src" = ascii "port") := by decide
  have htgt : ¬(ascii "tgt" = ascii "mode" ∨ ascii "tgt" = ascii "port") := by decide
  have haddr : ¬(ascii "addr" = ascii "mode" ∨ ascii "addr" = ascii "port") := by decide
  have hlog : ¬(ascii "log" = ascii "mode" ∨ ascii "log" = ascii "port") := by decide
  unfold HostConfig.assign Converts
  split_ifs <;> simp_all

theorem foldlM_assign_isSome_iff (l : List (List UInt8 × List UInt8)) (g : HostConfig) :
    (l.foldlM (fun (g : HostConfig) e => g.assign e.1 e.2) g).isSome ↔ ∀ e ∈ l, Converts e := by
  induction l generalizing g with
  | nil => simp
  | cons e l ih =>
    rw [List.foldlM_cons, Option.bind_eq_bind, List.forall_mem_cons,
      ← assign_isSome_iff g e.1 e.2]
    cases hstep : g.assign e.1 e.2 with
    | none => simp
    | some g' => simp [ih g']

/-- The numbers of a message can be converted. -/
def NumbersConvert (msg : List UInt8) : Prop :=
  ascii "config:" <+: msg → ∀ e ∈ entries (msg.drop 7), Converts e

theorem dispatch_isSome_iff (g : HostConfig) (msg : List UInt8) :
    (DispatchControlMessage g msg).isSome ↔ NumbersConvert msg := by
  unfold DispatchControlMessage NumbersConvert
  split
  · next hconfig => simp [applyEntries_eq, foldlM_assign_isSome_iff, hconfig]
  · next hconfig => simp [hconfig]

/-- **The control command**: it sets exactly the values of the configuration, from every previous
    configuration of the host, if and only if no text of it has a comma or ends with a line end;
    and a message is dispatched without an exception if and only if its numbers can be
    converted. -/
theorem host_command_iff (config : CaptionsConfig) (msg : List UInt8) :
    ((∀ g : HostConfig, DispatchControlMessage g (BuildHostConfigCommand config) =
        some (g.withConfig config)) ↔ config.Plain) ∧
      ((∀ g : HostConfig, (DispatchControlMessage g msg).isSome) ↔ NumbersConvert msg) := by
  refine ⟨⟨fun h => ?_, dispatch_plain⟩, fun h => ?_, fun h g => (dispatch_isSome_iff g msg).2 h⟩
  · -- the texts that arrive in an empty host are plain, and they are those of the configuration
    have hempty : Plain [] := by simp [Plain]
    exact dispatch_keeps_plain (g := ⟨[], [], [], 0, false, 0, [], []⟩)
      ⟨hempty, hempty, hempty⟩ (h _)
  · exact (dispatch_isSome_iff ⟨[], [], [], 0, false, 0, [], []⟩ msg).1 (h _)

/-! ## Two messages -/

def commaConfig : CaptionsConfig where
  mode := 0
  transcript_logging := 0
  chatbox_port := 9000
  source_lang := ⟨ascii "auto", by decide, by decide⟩
  target_lang := ⟨ascii "en,de", by decide, by decide⟩
  chatbox_address := ⟨ascii "/chatbox/input", by decide, by decide⟩

/-- A language with a comma arrives cut, and `config:mode=x` throws. -/
theorem commaConfig_cut :
    (∃ g : HostConfig, DispatchControlMessage g (BuildHostConfigCommand commaConfig) ≠
        some (g.withConfig commaConfig)) ∧
      ∃ g : HostConfig, ¬(DispatchControlMessage g (ascii "config:mode=x")).isSome := by
  refine ⟨⟨⟨[], [], [], 0, false, 0, [], []⟩, ?_⟩, ⟨[], [], [], 0, false, 0, [], []⟩, ?_⟩
  · decide +kernel
  · decide +kernel

end WKPairDriver.Captions
