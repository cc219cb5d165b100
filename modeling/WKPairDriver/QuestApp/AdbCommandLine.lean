import WKPairDriver.Lib.CommandLine

/-!
# The command lines of the Quest App

`AdbController::Run` joins the path of adb and its arguments to a command line, each put through
`QuoteArg`; `RunPowerShellScript` of the installer puts the path of its script and every argument
through `QuoteForCommandLine`.  Both quote by putting a backslash before each quote, and neither
touches a backslash that is there already.

* `command_line_round_trip_iff` — the command line splits into the words it was made of exactly
  when no quoted word has a backslash before a quote or at its end.
-/

set_option autoImplicit false

namespace WKPairDriver.QuestApp

open Lib.CommandLine

/-- A `char` of a `std::string`. -/
instance narrowChars : Chars UInt8 where
  quote := 34
  backslash := 92
  space := 32
  tab := 9
  nodup := by decide

/-- A `wchar_t` of a `std::wstring`. -/
instance wideChars : Chars UInt16 where
  quote := 34
  backslash := 92
  space := 32
  tab := 9
  nodup := by decide

/-- `needsQuote` of `QuoteArg`. -/
def needsQuote (arg : List UInt8) : Bool :=
  arg.isEmpty || arg.contains space || arg.contains tab || arg.contains quote

/-- `AdbController::QuoteArg`. -/
def quoteArg (arg : List UInt8) : List UInt8 :=
  if needsQuote arg = true then quote :: (escaped arg ++ [quote]) else arg

/-- `cmdNarrow` of `AdbController::Run`, which gives up without a path. -/
def runCommandLine (adbPath : List UInt8) (args : List (List UInt8)) : Option (List UInt8) :=
  if adbPath.isEmpty = true then none
  else some (args.foldl (fun cmd arg => cmd ++ [space] ++ quoteArg arg) (quoteArg adbPath))

/-- `QuoteForCommandLine`. -/
def quoteForCommandLine (value : List UInt16) : List UInt16 :=
  quote :: (escaped value ++ [quote])

/-- A narrow string literal. -/
def narrow (s : String) : List UInt8 := s.toList.map fun c => UInt8.ofNat c.toNat

/-- A wide string literal. -/
def wide (s : String) : List UInt16 := s.toList.map fun c => UInt16.ofNat c.toNat

/-- The words before the script in `RunPowerShellScript`. -/
def powerShellWords : List (List UInt16) :=
  [wide "powershell.exe", wide "-NoProfile", wide "-ExecutionPolicy", wide "Bypass", wide "-File"]

/-- `command` of `RunPowerShellScript`, which gives up when the script is missing. -/
def powerShellCommand (scriptExists : Bool) (scriptPath : List UInt16)
    (args : List (List UInt16)) : Option (List UInt16) :=
  if scriptPath.isEmpty = true ∨ scriptExists = false then none
  else
    some (args.foldl (fun command arg => command ++ [space] ++ quoteForCommandLine arg)
      (wide "powershell.exe -NoProfile -ExecutionPolicy Bypass -File " ++
        quoteForCommandLine scriptPath))

/-- No backslash of the text stands before a quote or at its end. -/
def SlashFree {α : Type} [Chars α] (t : List α) : Prop :=
  ¬ [(backslash : α), quote] <:+: t ∧ ¬ [(backslash : α)] <:+ t

instance {α : Type} [Chars α] [DecidableEq α] : DecidablePred (SlashFree (α := α)) :=
  fun _ => inferInstanceAs (Decidable (_ ∧ _))

/-! ## The command lines as words -/

/-- Appending each word behind a space joins the words. -/
theorem foldl_words_eq {α : Type} [Chars α] (f : List α → List α) (args : List (List α)) :
    ∀ first : List α, args.foldl (fun cmd arg => cmd ++ [space] ++ f arg) first =
      first ++ (args.map f).flatMap (space :: ·) := by
  induction args with
  | nil => simp
  | cons a args ih =>
    intro first
    rw [List.foldl_cons, ih]
    simp

theorem bare_of_not_needsQuote {arg : List UInt8} (h : needsQuote arg = false) :
    arg ≠ [] ∧ ∀ c ∈ arg, c ≠ quote ∧ isBlank c = false := by
  simp only [needsQuote, Bool.or_eq_false_iff, List.isEmpty_eq_false_iff] at h
  obtain ⟨⟨⟨hne, hspace⟩, htab⟩, hquote⟩ := h
  refine ⟨hne, fun c hc => ⟨?_, ?_⟩⟩
  · rintro rfl
    simp [hc] at hquote
  · apply decide_eq_false
    rintro (rfl | rfl)
    · simp [hc] at hspace
    · simp [hc] at htab

/-- An argument of adb as a word of its command line. -/
def adbWord (arg : List UInt8) : Word UInt8 :=
  if h : needsQuote arg = true then Word.quoted arg
  else
    Word.bare arg (bare_of_not_needsQuote (Bool.eq_false_iff.2 h)).1
      (bare_of_not_needsQuote (Bool.eq_false_iff.2 h)).2

theorem adbWord_text (arg : List UInt8) : (adbWord arg).text = quoteArg arg := by
  unfold adbWord quoteArg
  split <;> rfl

theorem adbWord_argument (arg : List UInt8) : (adbWord arg).argument = arg := by
  unfold adbWord
  split <;> rfl

theorem adbWord_loss (arg : List UInt8) :
    (adbWord arg).loss = 0 ↔ (needsQuote arg = true → SlashFree arg) := by
  unfold adbWord
  split
  · rename_i h
    simp only [h, forall_const]
    exact slashLoss_eq_zero_iff arg
  · rename_i h
    exact ⟨fun _ hq => absurd hq h, fun _ => rfl⟩

theorem runCommandLine_eq (adbPath : List UInt8) (args : List (List UInt8)) (h : adbPath ≠ []) :
    runCommandLine adbPath args =
      some (joined (((adbPath :: args).map adbWord).map Word.text)) := by
  have hne : ¬ adbPath.isEmpty = true := by simpa using h
  have htext : (adbPath :: args).map (Word.text ∘ adbWord) = (adbPath :: args).map quoteArg :=
    List.map_congr_left fun a _ => adbWord_text a
  rw [runCommandLine, if_neg hne, foldl_words_eq, List.map_map, htext]
  rfl

/-- The words before the script need no quotes. -/
theorem powerShellWords_bare : ∀ w ∈ powerShellWords,
    w ≠ [] ∧ ∀ c ∈ w, c ≠ quote ∧ isBlank c = false := by
  have hall : (powerShellWords.all fun w =>
      !w.isEmpty && w.all fun c => c != quote && !isBlank c) = true := by
    decide +kernel
  intro w hw
  have h := List.all_eq_true.1 hall w hw
  rw [Bool.and_eq_true, List.all_eq_true] at h
  exact ⟨by simpa using h.1, fun c hc => by simpa using h.2 c hc⟩

/-- The words before the script as words of the command line. -/
def powerShellWord (w : { w // w ∈ powerShellWords }) : Word UInt16 :=
  Word.bare w.1 (powerShellWords_bare w.1 w.2).1 (powerShellWords_bare w.1 w.2).2

/-- All words of the installer's command line. -/
def installerWords (scriptPath : List UInt16) (args : List (List UInt16)) : List (Word UInt16) :=
  powerShellWords.attach.map powerShellWord ++ (scriptPath :: args).map Word.quoted

theorem installerWords_argument (scriptPath : List UInt16) (args : List (List UInt16)) :
    (installerWords scriptPath args).map Word.argument =
      powerShellWords ++ scriptPath :: args := by
  have hbare : powerShellWords.attach.map (Word.argument ∘ powerShellWord) = powerShellWords :=
    List.attach_map_subtype_val powerShellWords
  have hquoted : (scriptPath :: args).map (Word.argument ∘ Word.quoted) = scriptPath :: args :=
    List.map_id _
  rw [installerWords, List.map_append, List.map_map, List.map_map, hbare, hquoted]

theorem powerShellCommand_eq {scriptPath : List UInt16} (h : scriptPath ≠ [])
    (args : List (List UInt16)) :
    powerShellCommand true scriptPath args =
      some (joined ((installerWords scriptPath args).map Word.text)) := by
  have hne : ¬ (scriptPath.isEmpty = true ∨ true = false) := by simpa using h
  have hbare : powerShellWords.attach.map (Word.text ∘ powerShellWord) = powerShellWords :=
    List.attach_map_subtype_val powerShellWords
  have hquoted : (scriptPath :: args).map (Word.text ∘ Word.quoted) =
      (scriptPath :: args).map quoteForCommandLine := rfl
  have hwords : wide "powershell.exe -NoProfile -ExecutionPolicy Bypass -File " =
      joined powerShellWords ++ [space] := by
    decide
  rw [powerShellCommand, if_neg hne, foldl_words_eq, installerWords, List.map_append,
    List.map_map, List.map_map, hbare, hquoted, hwords]
  simp [powerShellWords, joined]

/-! ## The round trip -/

/-- **Both command lines split into the words they were made of exactly when no quoted word has a
    backslash before a quote or at its end.** -/
theorem command_line_round_trip_iff (adbPath cmdNarrow : List UInt8) (args : List (List UInt8))
    (scriptExists : Bool) (scriptPath command : List UInt16) (scriptArgs : List (List UInt16)) :
    (runCommandLine adbPath args = some cmdNarrow →
      (split cmdNarrow = adbPath :: args ↔
        ∀ arg ∈ adbPath :: args, needsQuote arg = true → SlashFree arg)) ∧
    (powerShellCommand scriptExists scriptPath scriptArgs = some command →
      (split command = powerShellWords ++ scriptPath :: scriptArgs ↔
        ∀ arg ∈ scriptPath :: scriptArgs, SlashFree arg)) := by
  constructor
  · intro h
    have hne : adbPath ≠ [] := by
      rintro rfl
      cases h
    rw [runCommandLine_eq adbPath args hne, Option.some.injEq] at h
    have hargs : ((adbPath :: args).map adbWord).map Word.argument = adbPath :: args := by
      rw [List.map_map]
      exact List.map_id'' adbWord_argument _
    have hiff := split_joined_iff ((adbPath :: args).map adbWord)
    rw [h, hargs] at hiff
    rw [hiff, List.forall_mem_map]
    exact forall₂_congr fun arg _ => adbWord_loss arg
  · intro h
    obtain ⟨hne, rfl⟩ : scriptPath ≠ [] ∧ scriptExists = true := by
      simp only [powerShellCommand] at h
      split at h
      · cases h
      · rename_i hok
        simpa [not_or] using hok
    rw [powerShellCommand_eq hne, Option.some.injEq] at h
    have hiff := split_joined_iff (installerWords scriptPath scriptArgs)
    rw [h, installerWords_argument] at hiff
    rw [hiff, installerWords]
    simp only [List.mem_append, or_imp, forall_and, List.forall_mem_map]
    have hbare : ∀ w ∈ powerShellWords.attach, (powerShellWord w).loss = 0 := fun _ _ => rfl
    rw [and_iff_right hbare]
    exact forall₂_congr fun arg _ => slashLoss_eq_zero_iff arg

/-- A path with a space, and a script in a directory with a space. -/
theorem command_line_round_trip_iff_plain :
    split (narrow "\"C:\\my tools\\adb.exe\" shell \"echo \\\"hi\\\"\"") =
      [narrow "C:\\my tools\\adb.exe", narrow "shell", narrow "echo \"hi\""] ∧
    split (wide "powershell.exe -NoProfile -ExecutionPolicy Bypass -File \"a b.ps1\"") =
      powerShellWords ++ [wide "a b.ps1"] := by
  have h := command_line_round_trip_iff (narrow "C:\\my tools\\adb.exe")
    (narrow "\"C:\\my tools\\adb.exe\" shell \"echo \\\"hi\\\"\"")
    [narrow "shell", narrow "echo \"hi\""] true (wide "a b.ps1")
    (wide "powershell.exe -NoProfile -ExecutionPolicy Bypass -File \"a b.ps1\"") []
  exact ⟨(h.1 (by decide)).2 (by decide), (h.2 (by decide)).2 (by decide)⟩

/-- A quoted directory that ends in a backslash takes the next argument in. -/
theorem command_line_round_trip_fails :
    runCommandLine (narrow "adb") [narrow "pull", narrow "/a", narrow "my dir\\", narrow "b"] =
        some (narrow "adb pull /a \"my dir\\\" b") ∧
      split (narrow "adb pull /a \"my dir\\\" b") ≠
        narrow "adb" :: [narrow "pull", narrow "/a", narrow "my dir\\", narrow "b"] ∧
      powerShellCommand true (wide "i.ps1") [wide "d\\", wide "e"] =
        some (wide ("powershell.exe -NoProfile -ExecutionPolicy Bypass -File " ++
          "\"i.ps1\" \"d\\\" \"e\"")) ∧
      split (wide ("powershell.exe -NoProfile -ExecutionPolicy Bypass -File " ++
          "\"i.ps1\" \"d\\\" \"e\"")) ≠
        powerShellWords ++ wide "i.ps1" :: [wide "d\\", wide "e"] := by
  refine ⟨?_, ?_, ?_, ?_⟩ <;> decide

end WKPairDriver.QuestApp
