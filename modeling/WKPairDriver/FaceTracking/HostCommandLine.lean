import Mathlib
import WKPairDriver.Lib.CommandLine
import WKPairDriver.QuestApp.AdbCommandLine

/-!
# The command line of the face module host

The supervisor of the driver starts the host with the paths of its status file, its modules and,
where debug logging is on, its log.

* `QuoteArg`, `AppendPathArg`, `BuildCommandLine` — how the command line is put together.
* `host_arguments_iff` — the host gets the arguments meant exactly when no path has a backslash before
  a quote or at its end; the paths of Windows, which hold no quotes, always come through.

The program is an existing file, so that its name has no quote and no backslash at its end, and the
runtime's rule for the first word is that of the others; a runtime for which two quotes in a quoted
part are a quote differs only on paths with quotes.
-/

set_option autoImplicit false

namespace WKPairDriver.FaceTracking.HostCommandLine

open Lib.CommandLine QuestApp

def QuoteArg (value : List UInt16) : List UInt16 :=
  value.foldl (fun out ch => if ch = quote then out ++ [backslash, quote] else out ++ [ch]) [quote] ++
    [quote]

def AppendPathArg (commandLine name value : List UInt16) : List UInt16 :=
  if value.isEmpty = true then commandLine
  else commandLine ++ [space] ++ name ++ [space] ++ QuoteArg value

/-- A path under the directory of the module; no directory, no path. -/
def underDir (faceDir name : List UInt16) : List UInt16 :=
  if faceDir.isEmpty = true then [] else faceDir ++ name

/-- `BuildCommandLine`; `logPath` is what `TimestampedLogPath` says. -/
def BuildCommandLine (debugLogging : Bool) (faceDir logPath commandLine : List UInt16) :
    List UInt16 :=
  let commandLine :=
    if debugLogging = true then commandLine ++ wide " --debug-logging 1" else commandLine
  let commandLine := AppendPathArg commandLine (wide "--status-file")
    (underDir faceDir (wide "\\host_status.json"))
  let commandLine := AppendPathArg commandLine (wide "--modules-dir")
    (underDir faceDir (wide "\\modules"))
  if debugLogging = true then AppendPathArg commandLine (wide "--log-file") logPath else commandLine

/-- The command line of `Spawn`. -/
def hostCommandLine (debugLogging : Bool) (wpath faceDir logPath : List UInt16) : List UInt16 :=
  BuildCommandLine debugLogging faceDir logPath ([quote] ++ wpath ++ [quote])

/-! ## The arguments meant -/

/-- An option with a path, if there is one. -/
def pathArgument (name value : List UInt16) : List (List UInt16) :=
  if value.isEmpty = true then [] else [name, value]

def hostArguments (debugLogging : Bool) (faceDir logPath : List UInt16) : List (List UInt16) :=
  (if debugLogging = true then [wide "--debug-logging", wide "1"] else []) ++
    pathArgument (wide "--status-file") (underDir faceDir (wide "\\host_status.json")) ++
      pathArgument (wide "--modules-dir") (underDir faceDir (wide "\\modules")) ++
        if debugLogging = true then pathArgument (wide "--log-file") logPath else []

/-- The paths among them. -/
def hostPaths (debugLogging : Bool) (faceDir logPath : List UInt16) : List (List UInt16) :=
  [underDir faceDir (wide "\\host_status.json"), underDir faceDir (wide "\\modules")] ++
    if debugLogging = true then [logPath] else []

/-! ## The command line as words -/

theorem QuoteArg_eq (value : List UInt16) : QuoteArg value = quoted value := by
  have hfold : ∀ (v out : List UInt16),
      v.foldl (fun out ch => if ch = quote then out ++ [backslash, quote] else out ++ [ch]) out =
        out ++ escaped v := by
    intro v
    induction v with
    | nil => intro out; simp [escaped]
    | cons c v ih =>
      intro out
      rw [List.foldl_cons, ih]
      by_cases hc : c = quote
      · rw [if_pos hc, hc, escaped_cons_quote]
        simp
      · rw [if_neg hc, escaped_cons_other hc]
        simp
  rw [QuoteArg, hfold, quoted, List.singleton_append, List.cons_append]

/-- Without quotes in it the path of the host is quoted like an argument. -/
theorem quoted_of_no_quote {wpath : List UInt16} (h : quote ∉ wpath) :
    [quote] ++ wpath ++ [quote] = quoted wpath := by
  have hsame : ∀ t : List UInt16, quote ∉ t → escaped t = t := by
    intro t
    induction t with
    | nil => exact fun _ => rfl
    | cons c t ih =>
      intro ht
      rw [List.mem_cons, not_or] at ht
      rw [escaped_cons_other (Ne.symm ht.1), ih ht.2]
  rw [quoted, hsame wpath h]
  rfl

/-- The options of the host. -/
def options : List (List UInt16) :=
  [wide "--debug-logging", wide "1", wide "--status-file", wide "--modules-dir", wide "--log-file"]

theorem options_bare : ∀ w ∈ options, w ≠ [] ∧ ∀ c ∈ w, c ≠ quote ∧ isBlank c = false := by
  have hall : (options.all fun w => !w.isEmpty && w.all fun c => c != quote && !isBlank c) = true := by
    decide +kernel
  intro w hw
  have h := List.all_eq_true.1 hall w hw
  rw [Bool.and_eq_true, List.all_eq_true] at h
  exact ⟨by simpa using h.1, fun c hc => by simpa using h.2 c hc⟩

def optionWord (w : List UInt16) (hw : w ∈ options) : Word UInt16 :=
  Word.bare w (options_bare w hw).1 (options_bare w hw).2

def pathWords (name value : List UInt16) (hname : name ∈ options) : List (Word UInt16) :=
  if value.isEmpty = true then [] else [optionWord name hname, Word.quoted value]

theorem AppendPathArg_eq (commandLine : List UInt16) {name : List UInt16} (value : List UInt16)
    (hname : name ∈ options) : AppendPathArg commandLine name value =
      commandLine ++ ((pathWords name value hname).map Word.text).flatMap (space :: ·) := by
  rw [AppendPathArg, pathWords, QuoteArg_eq]
  split
  next => simp
  next =>
    simp only [List.append_assoc, List.map_cons, List.map_nil, List.flatMap_cons, List.flatMap_nil,
      List.append_nil]
    rfl

theorem pathWords_argument (name value : List UInt16) (hname : name ∈ options) :
    (pathWords name value hname).map Word.argument = pathArgument name value := by
  rw [pathWords, pathArgument]
  split <;> rfl

theorem pathWords_loss (name value : List UInt16) (hname : name ∈ options) :
    (∀ w ∈ pathWords name value hname, w.loss = 0) ↔ SlashFree value := by
  rw [pathWords]
  split
  next hempty =>
    have hnil : value = [] := by simpa using hempty
    have hfree : SlashFree ([] : List UInt16) := (slashLoss_eq_zero_iff []).1 rfl
    simp only [hnil, List.not_mem_nil, false_implies, implies_true, true_iff]
    exact hfree
  next =>
    have hbare : (optionWord name hname).loss = 0 := rfl
    simp only [List.mem_cons, List.not_mem_nil, or_false, forall_eq_or_imp, forall_eq, hbare,
      true_and]
    exact slashLoss_eq_zero_iff value

/-- The words behind the path of the host. -/
def hostWords (debugLogging : Bool) (faceDir logPath : List UInt16) : List (Word UInt16) :=
  (if debugLogging = true then
    [optionWord (wide "--debug-logging") (by decide), optionWord (wide "1") (by decide)] else []) ++
    pathWords (wide "--status-file") (underDir faceDir (wide "\\host_status.json")) (by decide) ++
      pathWords (wide "--modules-dir") (underDir faceDir (wide "\\modules")) (by decide) ++
        if debugLogging = true then pathWords (wide "--log-file") logPath (by decide) else []

theorem hostWords_argument (debugLogging : Bool) (faceDir logPath : List UInt16) :
    (hostWords debugLogging faceDir logPath).map Word.argument =
      hostArguments debugLogging faceDir logPath := by
  rw [hostWords, hostArguments]
  cases debugLogging <;>
    simp only [Bool.false_eq_true, if_false, if_true, List.map_append, pathWords_argument] <;> rfl

theorem hostWords_loss (debugLogging : Bool) (faceDir logPath : List UInt16) :
    (∀ w ∈ hostWords debugLogging faceDir logPath, w.loss = 0) ↔
      ∀ path ∈ hostPaths debugLogging faceDir logPath, SlashFree path := by
  have hbare : ∀ w (hw : w ∈ options), (optionWord w hw).loss = 0 := fun _ _ => rfl
  rw [hostWords, hostPaths]
  simp only [List.mem_append, or_imp, forall_and, pathWords_loss, List.mem_cons, List.not_mem_nil,
    or_false, forall_eq]
  cases debugLogging <;> simp [hbare, pathWords_loss]

theorem hostCommandLine_eq {wpath : List UInt16} (h : quote ∉ wpath) (debugLogging : Bool)
    (faceDir logPath : List UInt16) : hostCommandLine debugLogging wpath faceDir logPath =
      joined ((Word.quoted wpath :: hostWords debugLogging faceDir logPath).map Word.text) := by
  have hstatus : wide "--status-file" ∈ options := by decide
  have hmodules : wide "--modules-dir" ∈ options := by decide
  have hlog : wide "--log-file" ∈ options := by decide
  have hdebug : wide " --debug-logging 1" =
      [wide "--debug-logging", wide "1"].flatMap (space :: ·) := by decide
  rw [hostCommandLine, BuildCommandLine, quoted_of_no_quote h, AppendPathArg_eq _ _ hmodules,
    AppendPathArg_eq _ _ hstatus, AppendPathArg_eq _ _ hlog, hostWords, List.map_cons, joined]
  cases debugLogging <;>
    simp only [Bool.false_eq_true, if_false, if_true, List.map_append, List.flatMap_append,
      List.append_assoc, hdebug, List.nil_append, List.append_nil] <;> rfl

/-! ## What the host gets -/

/-- A path of Windows holds no quote. -/
theorem slashFree_of_no_quote {path : List UInt16} (h : quote ∉ path)
    (hend : ¬ [backslash] <:+ path) : SlashFree path :=
  ⟨fun hpair => h (hpair.subset (by simp)), hend⟩

theorem not_suffix_of_getLast? {name : List UInt16} {c : UInt16} (hlast : name.getLast? = some c)
    (hc : c ≠ backslash) (dir : List UInt16) : ¬ [backslash] <:+ dir ++ name := by
  rintro ⟨before, hbefore⟩
  have hends := congrArg List.getLast? hbefore
  rw [List.getLast?_append, List.getLast?_append, hlast] at hends
  simp only [List.getLast?_singleton, Option.some_or, Option.some.injEq] at hends
  exact hc hends.symm

/-- **The host gets the arguments meant exactly when no path has a backslash before a quote or at its
    end.**  The paths of Windows, which hold no quotes, always come through, whatever the directory. -/
theorem host_arguments_iff (debugLogging : Bool) {wpath : List UInt16} (h : quote ∉ wpath)
    (faceDir logPath : List UInt16) :
    (split (hostCommandLine debugLogging wpath faceDir logPath) =
        wpath :: hostArguments debugLogging faceDir logPath ↔
      SlashFree wpath ∧ ∀ path ∈ hostPaths debugLogging faceDir logPath, SlashFree path) ∧
    (quote ∉ faceDir → quote ∉ logPath → ¬ [backslash] <:+ wpath → ¬ [backslash] <:+ logPath →
      split (hostCommandLine debugLogging wpath faceDir logPath) =
        wpath :: hostArguments debugLogging faceDir logPath) := by
  have hiff : split (hostCommandLine debugLogging wpath faceDir logPath) =
      wpath :: hostArguments debugLogging faceDir logPath ↔
      SlashFree wpath ∧ ∀ path ∈ hostPaths debugLogging faceDir logPath, SlashFree path := by
    have hsplit := split_joined_iff (Word.quoted wpath :: hostWords debugLogging faceDir logPath)
    rw [← hostCommandLine_eq h, List.map_cons, hostWords_argument] at hsplit
    refine hsplit.trans ?_
    rw [List.forall_mem_cons, hostWords_loss]
    exact and_congr_left' (slashLoss_eq_zero_iff wpath)
  refine ⟨hiff, fun hdir hlog hexe hend => hiff.2 ⟨slashFree_of_no_quote h hexe, ?_⟩⟩
  have hunder : ∀ name : List UInt16, quote ∉ name → (∀ dir, ¬ [backslash] <:+ dir ++ name) →
      SlashFree (underDir faceDir name) := by
    intro name hname hlast
    rw [underDir]
    split
    next => exact slashFree_of_no_quote List.not_mem_nil (by simp)
    next =>
      refine slashFree_of_no_quote (fun hmem => ?_) (hlast faceDir)
      exact (List.mem_append.1 hmem).elim hdir hname
  have hlastn : (wide "\\host_status.json").getLast? = some 110 := by decide
  have hlasts : (wide "\\modules").getLast? = some 115 := by decide
  have hstatus : SlashFree (underDir faceDir (wide "\\host_status.json")) :=
    hunder _ (by decide) (not_suffix_of_getLast? hlastn (by decide))
  have hmodules : SlashFree (underDir faceDir (wide "\\modules")) :=
    hunder _ (by decide) (not_suffix_of_getLast? hlasts (by decide))
  intro path hpath
  rw [hostPaths, List.mem_append, List.mem_cons, List.mem_singleton] at hpath
  rcases hpath with (rfl | rfl) | hpath
  · exact hstatus
  · exact hmodules
  · cases debugLogging with
    | false => simp at hpath
    | true =>
      have heq : path = logPath := by simpa using hpath
      rw [heq]
      exact slashFree_of_no_quote hlog hend

/-- A directory with a space, and no debug logging. -/
theorem host_arguments_spaced :
    split (hostCommandLine false (wide "C:\\host.exe") (wide "C:\\my data\\facetracking") []) =
      [wide "C:\\host.exe", wide "--status-file", wide "C:\\my data\\facetracking\\host_status.json",
        wide "--modules-dir", wide "C:\\my data\\facetracking\\modules"] := by
  have hexe : quote ∉ wide "C:\\host.exe" := by decide
  have h := host_arguments_iff false hexe (wide "C:\\my data\\facetracking") []
  exact (h.2 (by decide) (by decide) (by decide) (by decide)).trans (by decide)

end WKPairDriver.FaceTracking.HostCommandLine
