import WKPairDriver.Lib.Base64
import WKPairDriver.Lib.Quoting
import WKPairDriver.QuestApp.AdbCommandLine

/-!
# The script of the elevated helper

`SetFlagPresent` writes a PowerShell script that creates or removes a module's flag file and its
Start Menu shortcut, and starts an elevated `powershell.exe` with the script as the base64 of its
UTF-16LE bytes.  The paths stand in the script as single-quoted literals, in which
`QuotePowerShellString` doubles the apostrophe.  PowerShell also takes U+2018 to U+201B for single
quotes.

* `decodeCommand_encode` — the encoded text gives back every script.
* `helperReads_iff` — the helper reads the script that was meant exactly when no path in it has a
  curly quote.
-/

set_option autoImplicit false

namespace WKPairDriver.Overlay

open Lib.Quoting
open QuestApp (narrow wide)

/-- The apostrophe. -/
def apostrophe : UInt16 := 0x27

/-- The single quotes of PowerShell: the apostrophe and U+2018 to U+201B. -/
def isSingleQuote (c : UInt16) : Bool :=
  decide (c = apostrophe ∨ (0x2018 ≤ c ∧ c ≤ 0x201B))

/-- `QuotePowerShellString`. -/
def quotePowerShellString (value : List UInt16) : List UInt16 :=
  value.foldl
    (fun out ch => if ch = apostrophe then out ++ [apostrophe, apostrophe] else out ++ [ch])
    [apostrophe] ++ [apostrophe]

/-! ## The encoded command -/

/-- The two bytes of a unit that `EncodePowerShellCommand` pushes. -/
def unitBytes (ch : UInt16) : List UInt8 := [(ch &&& 0xFF).toUInt8, ((ch >>> 8) &&& 0xFF).toUInt8]

/-- `bytes` of `EncodePowerShellCommand`. -/
def commandBytes (script : List UInt16) : List UInt8 :=
  script.foldl (fun bytes ch => bytes ++ unitBytes ch) []

/-- `kBase64`. -/
def kBase64 : List UInt16 :=
  wide "ABCDEFGHIJKLMNOPQRSTUVWXYZabcdefghijklmnopqrstuvwxyz0123456789+/"

/-- The character of `kBase64` for the six bits of `v` from bit `shift` on. -/
def sextet (v shift : UInt32) : UInt16 := kBase64.getD ((v >>> shift) &&& 0x3F).toNat 0

/-- The loops of `EncodePowerShellCommand` over the bytes that are left. -/
def encodeGroups : List UInt8 → List UInt16
  | a :: b :: c :: rest =>
    let v := (a.toUInt32 <<< 16) ||| (b.toUInt32 <<< 8) ||| c.toUInt32
    sextet v 18 :: sextet v 12 :: sextet v 6 :: sextet v 0 :: encodeGroups rest
  | [a, b] =>
    let v := (a.toUInt32 <<< 16) ||| (b.toUInt32 <<< 8)
    [sextet v 18, sextet v 12, sextet v 6, 61]
  | [a] =>
    let v := a.toUInt32 <<< 16
    [sextet v 18, sextet v 12, 61, 61]
  | [] => []

/-- `EncodePowerShellCommand`. -/
def encodePowerShellCommand (script : List UInt16) : List UInt16 :=
  encodeGroups (commandBytes script)

/-- The alphabet of base64. -/
def base64Alphabet : Lib.Base64.Alphabet UInt16 where
  symbols := kBase64
  pad := 61
  length_eq := by decide
  nodup := by decide

/-- The UTF-16 units of some bytes, the low byte of each first. -/
def utf16Units : List UInt8 → Option (List UInt16)
  | [] => some []
  | [_] => none
  | lo :: hi :: rest => (utf16Units rest).map ((lo.toUInt16 ||| (hi.toUInt16 <<< 8)) :: ·)

/-- What PowerShell makes of the value of `-EncodedCommand`. -/
def decodeCommand (text : List UInt16) : Option (List UInt16) :=
  (Lib.Base64.decode base64Alphabet text).bind utf16Units

/-! ## The script -/

/-- The directories of a `ShellContext` that the script names. -/
structure ShellContext where
  installDir : List UInt16
  driverResourceDirs : List (List UInt16)
  deriving DecidableEq, Repr

/-- `kEntries` of `ShortcutLabelFor`. -/
def labelEntries : List (List UInt8 × List UInt16) :=
  [(narrow "enable_calibration.flag", wide "Space Calibrator"),
    (narrow "enable_smoothing.flag", wide "Smoothing"),
    (narrow "enable_inputhealth.flag", wide "Input Health"),
    (narrow "enable_facetracking.flag", wide "Face Tracking"),
    (narrow "enable_oscrouter.flag", wide "OSC Router"),
    (narrow "enable_captions.flag", wide "Captions"),
    (narrow "enable_phantom.flag", wide "Phantom Trackers"),
    (narrow "enable_questapp.flag", wide "Quest App")]

/-- `ShortcutLabelFor`, with `nullptr` for a flag file outside the table. -/
def shortcutLabelFor (flagFileName : List UInt8) : Option (List UInt16) :=
  labelEntries.lookup flagFileName

/-- `kEntries` of `ShortcutArgFor`. -/
def argEntries : List (List UInt8 × List UInt16) :=
  [(narrow "enable_calibration.flag", wide "--launch=calibration"),
    (narrow "enable_smoothing.flag", wide "--launch=smoothing"),
    (narrow "enable_inputhealth.flag", wide "--launch=inputhealth"),
    (narrow "enable_facetracking.flag", wide "--launch=facetracking"),
    (narrow "enable_oscrouter.flag", wide "--launch=oscrouter"),
    (narrow "enable_captions.flag", wide "--launch=captions"),
    (narrow "enable_phantom.flag", wide "--launch=phantom"),
    (narrow "enable_questapp.flag", wide "--launch=questapp")]

/-- `ShortcutArgFor`. -/
def shortcutArgFor (flagFileName : List UInt8) : List UInt16 :=
  (argEntries.lookup flagFileName).getD []

/-- A character that `find_last_of(L"\\/")` looks for. -/
def isSeparator (c : UInt16) : Bool := decide (c ∈ wide "\\/")

/-- `path.substr(0, path.find_last_of(L"\\/"))`, the whole path without a separator. -/
def parentOf (path : List UInt16) : List UInt16 :=
  match path.rdropWhile (!isSeparator ·) with
  | [] => path
  | upToSeparator => upToSeparator.dropLast

/-- `smRelative`. -/
def smRelative : List UInt16 := wide "Microsoft\\Windows\\Start Menu\\Programs\\WKOpenVR"

/-- `scFileName`. -/
def scFileName (label : List UInt16) : List UInt16 := wide "WKOpenVR - " ++ label ++ wide ".lnk"

/-- `desc`. -/
def desc (label : List UInt16) : List UInt16 := label ++ wide " in WKOpenVR"

/-- `exePath`. -/
def ShellContext.exePath (ctx : ShellContext) : List UInt16 :=
  ctx.installDir ++ wide "\\WKOpenVR.exe"

/-- The part of `command` that creates the shortcut. -/
def shortcutCreation (ctx : ShellContext) (label scArg : List UInt16) : List UInt16 :=
  wide "; $smDir = Join-Path $env:ProgramData " ++ quotePowerShellString smRelative ++
    wide "; New-Item -ItemType Directory -Force -Path $smDir | Out-Null" ++
    wide "; $scPath = Join-Path $smDir " ++ quotePowerShellString (scFileName label) ++
    wide "; $wsh = New-Object -ComObject WScript.Shell" ++
    wide "; $sc = $wsh.CreateShortcut($scPath)" ++
    wide "; $sc.TargetPath = " ++ quotePowerShellString ctx.exePath ++
    wide "; $sc.Arguments = " ++ quotePowerShellString scArg ++
    wide "; $sc.IconLocation = " ++ quotePowerShellString (ctx.exePath ++ wide ",0") ++
    wide "; $sc.Description = " ++ quotePowerShellString (desc label) ++
    wide "; $sc.Save()"

/-- The part of `command` that removes the shortcut. -/
def shortcutRemoval (label : List UInt16) : List UInt16 :=
  wide "; $smDir = Join-Path $env:ProgramData " ++ quotePowerShellString smRelative ++
    wide "; $scPath = Join-Path $smDir " ++ quotePowerShellString (scFileName label) ++
    wide ("; if (Test-Path -LiteralPath $scPath) " ++
      "\x7b Remove-Item -LiteralPath $scPath -Force \x7d")

/-- `command` of `SetFlagPresent`, for the flag file at `path`. -/
def flagCommand (ctx : ShellContext) (flagFileName : List UInt8) (path : List UInt16)
    (present : Bool) : List UInt16 :=
  let label := shortcutLabelFor flagFileName
  if present = true then
    wide "New-Item -ItemType Directory -Force -Path " ++ quotePowerShellString (parentOf path) ++
      wide " | Out-Null; Set-Content -LiteralPath " ++ quotePowerShellString path ++
      wide " -Value enabled -NoNewline" ++
      (label.map (shortcutCreation ctx · (shortcutArgFor flagFileName))).getD []
  else
    wide "if (Test-Path -LiteralPath " ++ quotePowerShellString path ++
      wide ") \x7b Remove-Item -LiteralPath " ++ quotePowerShellString path ++
      wide " -Force \x7d" ++ (label.map shortcutRemoval).getD []

/-- The words before the encoded command in `args`. -/
def helperWords : List UInt16 := wide "-NoProfile -ExecutionPolicy Bypass -EncodedCommand "

section Flags

-- `MultiByteToWideChar` for CP_UTF8
variable (multiByteToWideChar : List UInt8 → List UInt16)

/-- `Utf8ToWide`. -/
def utf8ToWide (value : List UInt8) : List UInt16 :=
  if value.isEmpty = true then [] else multiByteToWideChar value

/-- `ShellContext::FlagPath`. -/
def ShellContext.flagPath (ctx : ShellContext) (flagFileName : Option (List UInt8)) :
    List UInt16 :=
  match ctx.driverResourceDirs, flagFileName with
  | front :: _, some name =>
    let flag := utf8ToWide multiByteToWideChar name
    if flag.isEmpty = true then [] else front ++ wide "\\" ++ flag
  | _, _ => []

/-- `args` of `SetFlagPresent`, which gives up without a path. -/
def ShellContext.setFlagArgs (ctx : ShellContext) (flagFileName : Option (List UInt8))
    (present : Bool) : Option (List UInt16) :=
  let path := ctx.flagPath multiByteToWideChar flagFileName
  if path.isEmpty = true then none
  else
    some (helperWords ++
      encodePowerShellCommand (flagCommand ctx (flagFileName.getD []) path present))

end Flags

/-- How the helper reads its arguments: the segments of the decoded script. -/
def helperReads (one : UInt16 → UInt16 → UInt16) (args : List UInt16) :
    Option (List (Segment UInt16)) :=
  (decodeCommand (args.drop helperWords.length)).bind (read isSingleQuote one)

/-! ## The script that is meant -/

/-- The commands for the shortcut: the text that joins them to what comes before, and the rest. -/
def createShortcut (ctx : ShellContext) (label scArg : List UInt16) : Script UInt16 where
  head := wide "; $smDir = Join-Path $env:ProgramData "
  rest :=
    [(smRelative, wide "; New-Item -ItemType Directory -Force -Path $smDir | Out-Null" ++
        wide "; $scPath = Join-Path $smDir "),
      (scFileName label, wide "; $wsh = New-Object -ComObject WScript.Shell" ++
        wide "; $sc = $wsh.CreateShortcut($scPath)" ++ wide "; $sc.TargetPath = "),
      (ctx.exePath, wide "; $sc.Arguments = "),
      (scArg, wide "; $sc.IconLocation = "),
      (ctx.exePath ++ wide ",0", wide "; $sc.Description = "),
      (desc label, wide "; $sc.Save()")]

/-- The commands that remove the shortcut. -/
def removeShortcut (label : List UInt16) : Script UInt16 where
  head := wide "; $smDir = Join-Path $env:ProgramData "
  rest :=
    [(smRelative, wide "; $scPath = Join-Path $smDir "),
      (scFileName label,
        wide ("; if (Test-Path -LiteralPath $scPath) " ++
          "\x7b Remove-Item -LiteralPath $scPath -Force \x7d"))]

/-- The commands that are meant, every path of them one literal. -/
def meantScript (ctx : ShellContext) (flagFileName : List UInt8) (path : List UInt16)
    (present : Bool) : Script UInt16 :=
  let label := shortcutLabelFor flagFileName
  if present = true then
    let shortcut :=
      (label.map (createShortcut ctx · (shortcutArgFor flagFileName))).getD ⟨[], []⟩
    { head := wide "New-Item -ItemType Directory -Force -Path "
      rest := (parentOf path, wide " | Out-Null; Set-Content -LiteralPath ") ::
        (path, wide " -Value enabled -NoNewline" ++ shortcut.head) :: shortcut.rest }
  else
    let shortcut := (label.map removeShortcut).getD ⟨[], []⟩
    { head := wide "if (Test-Path -LiteralPath "
      rest := (path, wide ") \x7b Remove-Item -LiteralPath ") ::
        (path, wide " -Force \x7d" ++ shortcut.head) :: shortcut.rest }

/-- No curly quote is in the flag's path, nor in the install directory when a shortcut to it is
    created. -/
def PathsDoubled (ctx : ShellContext) (flagFileName : List UInt8) (path : List UInt16)
    (present : Bool) : Prop :=
  Doubled isSingleQuote apostrophe path ∧
    (present = true → (shortcutLabelFor flagFileName).isSome = true →
      Doubled isSingleQuote apostrophe ctx.installDir)

instance (ctx : ShellContext) (flagFileName : List UInt8) (path : List UInt16) (present : Bool) :
    Decidable (PathsDoubled ctx flagFileName path present) :=
  inferInstanceAs (Decidable (_ ∧ (_ → _ → _)))

/-! ## The encoding -/

/-- Two numbers side by side. -/
theorem or_shift {lo hi n : ℕ} (h : lo < 2 ^ n) : lo ||| hi <<< n = hi * 2 ^ n + lo := by
  rw [Nat.or_comm, ← Nat.shiftLeft_add_eq_or_of_lt h, Nat.shiftLeft_eq]

/-- The two bytes of a unit make the unit. -/
theorem unit_of_bytes (ch : UInt16) :
    (ch &&& 0xFF).toUInt8.toUInt16 ||| (((ch >>> 8) &&& 0xFF).toUInt8.toUInt16 <<< 8) = ch := by
  apply UInt16.toNat_inj.1
  have hch := ch.toNat_lt
  have hlow : (ch &&& 0xFF).toNat = ch.toNat % 256 := Nat.and_two_pow_sub_one_eq_mod _ 8
  have hhigh : ((ch >>> 8) &&& 0xFF).toNat = ch.toNat / 256 := by
    have h : ((ch >>> 8) &&& 0xFF).toNat = ch.toNat >>> 8 % 256 :=
      Nat.and_two_pow_sub_one_eq_mod _ 8
    rw [h, Nat.shiftRight_eq_div_pow]
    omega
  have hshift : (ch.toNat / 256 % 2 ^ 8) <<< 8 % 2 ^ 16 = (ch.toNat / 256) <<< 8 := by
    rw [Nat.shiftLeft_eq, Nat.shiftLeft_eq]
    omega
  rw [UInt16.toNat_or, UInt16.toNat_shiftLeft, UInt8.toNat_toUInt16, UInt8.toNat_toUInt16,
    UInt16.toNat_toUInt8, UInt16.toNat_toUInt8, hlow, hhigh,
    show (8 : UInt16).toNat % 16 = 8 from rfl, hshift,
    Nat.mod_eq_of_lt (show ch.toNat % 256 < 2 ^ 8 by omega), or_shift (by omega)]
  omega

theorem utf16Units_commandBytes (script : List UInt16) :
    utf16Units (commandBytes script) = some script := by
  rw [commandBytes, ← List.flatMap_eq_foldl]
  induction script with
  | nil => rfl
  | cons ch script ih =>
    rw [List.flatMap_cons, unitBytes, List.cons_append, List.cons_append, List.nil_append,
      utf16Units, ih, Option.map_some, unit_of_bytes]

/-- Three bytes side by side. -/
theorem group_toNat (a b c : UInt8) :
    ((a.toUInt32 <<< 16) ||| (b.toUInt32 <<< 8) ||| c.toUInt32).toNat =
      a.toNat * 65536 + b.toNat * 256 + c.toNat := by
  have ha := a.toNat_lt
  have hb := b.toNat_lt
  have hc := c.toNat_lt
  have hA : (a.toUInt32 <<< 16).toNat = a.toNat <<< 16 := by
    rw [UInt32.toNat_shiftLeft, UInt8.toNat_toUInt32]
    exact Nat.mod_eq_of_lt (by simp [Nat.shiftLeft_eq]; omega)
  have hB : (b.toUInt32 <<< 8).toNat = b.toNat <<< 8 := by
    rw [UInt32.toNat_shiftLeft, UInt8.toNat_toUInt32]
    exact Nat.mod_eq_of_lt (by simp [Nat.shiftLeft_eq]; omega)
  have hbc : b.toNat <<< 8 ||| c.toNat = b.toNat * 2 ^ 8 + c.toNat := by
    rw [Nat.or_comm, or_shift (by omega)]
  rw [UInt32.toNat_or, UInt32.toNat_or, hA, hB, UInt8.toNat_toUInt32, Nat.or_assoc, hbc,
    Nat.or_comm, or_shift (by omega)]
  omega

theorem sextet_eq {v shift : UInt32} {n : ℕ} (h : v.toNat / 2 ^ (shift.toNat % 32) % 64 = n) :
    sextet v shift = base64Alphabet.symbol n := by
  have hand : ((v >>> shift) &&& 0x3F).toNat = (v >>> shift).toNat % 64 :=
    Nat.and_two_pow_sub_one_eq_mod _ 6
  have hlt : n < 64 := by omega
  rw [sextet, hand, UInt32.toNat_shiftRight, Nat.shiftRight_eq_div_pow, h,
    Lib.Base64.Alphabet.symbol]
  have hlen : n < kBase64.length := lt_of_lt_of_eq hlt base64Alphabet.length_eq.symm
  rw [List.getD_eq_getElem _ _ hlen]
  exact (List.getD_eq_getElem _ _ hlen).symm

/-- The loops compute base64. -/
theorem encodeGroups_eq (bytes : List UInt8) :
    encodeGroups bytes = Lib.Base64.encode base64Alphabet bytes := by
  fun_induction encodeGroups bytes with
  | case1 a b c rest v ih =>
    have hv : v.toNat = a.toNat * 65536 + b.toNat * 256 + c.toNat := group_toNat a b c
    have ha := a.toNat_lt
    have hb := b.toNat_lt
    have hc := c.toNat_lt
    rw [Lib.Base64.encode, ih, sextet_eq (n := a.toNat / 4),
      sextet_eq (n := a.toNat % 4 * 16 + b.toNat / 16),
      sextet_eq (n := b.toNat % 16 * 4 + c.toNat / 64), sextet_eq (n := c.toNat % 64)]
    all_goals simp [hv]
    all_goals omega
  | case2 a b v =>
    have hv : v.toNat = a.toNat * 65536 + b.toNat * 256 := by
      rw [show v = a.toUInt32 <<< 16 ||| b.toUInt32 <<< 8 ||| (0 : UInt8).toUInt32 from
        UInt32.or_zero.symm, group_toNat]
      simp
    have ha := a.toNat_lt
    have hb := b.toNat_lt
    rw [Lib.Base64.encode, sextet_eq (n := a.toNat / 4),
      sextet_eq (n := a.toNat % 4 * 16 + b.toNat / 16), sextet_eq (n := b.toNat % 16 * 4)]
    · rfl
    all_goals simp [hv]
    all_goals omega
  | case3 a v =>
    have hv : v.toNat = a.toNat * 65536 := by
      rw [show v = a.toUInt32 <<< 16 ||| (0 : UInt8).toUInt32 <<< 8 ||| (0 : UInt8).toUInt32 from
        UInt32.or_zero.symm.trans UInt32.or_zero.symm, group_toNat]
      simp
    have ha := a.toNat_lt
    rw [Lib.Base64.encode, sextet_eq (n := a.toNat / 4), sextet_eq (n := a.toNat % 4 * 16)]
    · rfl
    all_goals simp [hv]
    all_goals omega
  | case4 => rfl

/-- **The encoded text gives back every script.** -/
theorem decodeCommand_encode (script : List UInt16) :
    decodeCommand (encodePowerShellCommand script) = some script := by
  rw [decodeCommand, encodePowerShellCommand, encodeGroups_eq, Lib.Base64.decode_encode,
    Option.bind_some, utf16Units_commandBytes]

/-! ## The script as segments -/

theorem quotePowerShellString_eq (value : List UInt16) :
    quotePowerShellString value = quoted apostrophe value := by
  have hstep : (fun (out : List UInt16) ch =>
      if ch = apostrophe then out ++ [apostrophe, apostrophe] else out ++ [ch]) =
      fun out ch => out ++ if ch = apostrophe then [apostrophe, apostrophe] else [ch] := by
    funext out ch
    split <;> rfl
  have hfold : ∀ (value out : List UInt16), value.foldl (fun out ch =>
      out ++ if ch = apostrophe then [apostrophe, apostrophe] else [ch]) out =
      out ++ escape apostrophe value := by
    intro value
    induction value with
    | nil => simp
    | cons ch value ih =>
      intro out
      rw [List.foldl_cons, ih, escape_cons, List.append_assoc]
  rw [quotePowerShellString, hstep, hfold]
  rfl

/-- The script is the one that is meant, written out. -/
theorem flagCommand_eq (ctx : ShellContext) (flagFileName : List UInt8) (path : List UInt16)
    (present : Bool) :
    flagCommand ctx flagFileName path present =
      (meantScript ctx flagFileName path present).render apostrophe := by
  cases present <;> cases hl : shortcutLabelFor flagFileName <;>
    simp [flagCommand, meantScript, hl, Script.render, renderRest, quotePowerShellString_eq,
      shortcutCreation, shortcutRemoval, createShortcut, removeShortcut]

/-- A text without quotes, checked by running through it. -/
theorem plain_of_all {t : List UInt16} (h : (!t.isEmpty && t.all (!isSingleQuote ·)) = true) :
    t ≠ [] ∧ ∀ c ∈ t, isSingleQuote c = false := by
  simpa using h

theorem createShortcut_separated (ctx : ShellContext) (label scArg : List UInt16) :
    (createShortcut ctx label scArg).Separated isSingleQuote where
  head := (plain_of_all (t := wide "; $smDir = Join-Path $env:ProgramData ")
    (by decide +kernel)).2
  rest := by
    simp only [createShortcut, List.forall_mem_cons]
    exact ⟨plain_of_all (by decide +kernel), plain_of_all (by decide +kernel),
      plain_of_all (by decide +kernel), plain_of_all (by decide +kernel),
      plain_of_all (by decide +kernel), plain_of_all (by decide +kernel), by simp⟩

theorem removeShortcut_separated (label : List UInt16) :
    (removeShortcut label).Separated isSingleQuote where
  head := (plain_of_all (t := wide "; $smDir = Join-Path $env:ProgramData ")
    (by decide +kernel)).2
  rest := by
    simp only [removeShortcut, List.forall_mem_cons]
    exact ⟨plain_of_all (by decide +kernel), plain_of_all (by decide +kernel), by simp⟩

/-- Text in front of a script joins its first text. -/
theorem plain_append {t : List UInt16} {s : Script UInt16}
    (ht : t ≠ [] ∧ ∀ c ∈ t, isSingleQuote c = false) (hs : s.Separated isSingleQuote) :
    t ++ s.head ≠ [] ∧ ∀ c ∈ t ++ s.head, isSingleQuote c = false := by
  refine ⟨by simp [ht.1], fun c hc => ?_⟩
  rcases List.mem_append.1 hc with hc | hc
  · exact ht.2 c hc
  · exact hs.head c hc

/-- The texts between the literals have no quotes. -/
theorem meantScript_separated (ctx : ShellContext) (flagFileName : List UInt8)
    (path : List UInt16) (present : Bool) :
    (meantScript ctx flagFileName path present).Separated isSingleQuote := by
  have hempty : (⟨[], []⟩ : Script UInt16).Separated isSingleQuote := ⟨by simp, by simp⟩
  cases present with
  | true =>
    have hshortcut : ((shortcutLabelFor flagFileName).map
        (createShortcut ctx · (shortcutArgFor flagFileName))).getD ⟨[], []⟩ |>.Separated
          isSingleQuote := by
      cases shortcutLabelFor flagFileName with
      | none => exact hempty
      | some label => exact createShortcut_separated ctx label _
    refine ⟨(plain_of_all (t := wide "New-Item -ItemType Directory -Force -Path ")
      (by decide +kernel)).2, ?_⟩
    simp only [meantScript, if_true, List.forall_mem_cons]
    exact ⟨plain_of_all (by decide +kernel),
      plain_append (plain_of_all (by decide +kernel)) hshortcut, hshortcut.rest⟩
  | false =>
    have hshortcut : ((shortcutLabelFor flagFileName).map removeShortcut).getD ⟨[], []⟩
        |>.Separated isSingleQuote := by
      cases shortcutLabelFor flagFileName with
      | none => exact hempty
      | some label => exact removeShortcut_separated label
    refine ⟨(plain_of_all (t := wide "if (Test-Path -LiteralPath ") (by decide +kernel)).2, ?_⟩
    simp only [meantScript, Bool.false_eq_true, if_false, List.forall_mem_cons]
    exact ⟨plain_of_all (by decide +kernel),
      plain_append (plain_of_all (by decide +kernel)) hshortcut, hshortcut.rest⟩

/-- What the tables give has no quotes. -/
theorem entries_plain {entries : List (List UInt8 × List UInt16)}
    (h : ∀ e ∈ entries, Doubled isSingleQuote apostrophe e.2) {flagFileName : List UInt8}
    {text : List UInt16} (ht : entries.lookup flagFileName = some text) :
    Doubled isSingleQuote apostrophe text := by
  obtain ⟨l₁, l₂, hl, -⟩ := List.lookup_eq_some_iff.1 ht
  exact h (flagFileName, text) (by simp [hl])

theorem shortcutLabelFor_plain {flagFileName : List UInt8} {label : List UInt16}
    (h : shortcutLabelFor flagFileName = some label) : Doubled isSingleQuote apostrophe label :=
  have hplain : ∀ e ∈ labelEntries, Doubled isSingleQuote apostrophe e.2 := by decide
  entries_plain hplain h

theorem shortcutArgFor_plain (flagFileName : List UInt8) :
    Doubled isSingleQuote apostrophe (shortcutArgFor flagFileName) := by
  rw [shortcutArgFor]
  cases h : argEntries.lookup flagFileName with
  | none => exact fun c hc => absurd hc List.not_mem_nil
  | some text =>
    have hplain : ∀ e ∈ argEntries, Doubled isSingleQuote apostrophe e.2 := by decide
    exact entries_plain hplain h

theorem parentOf_doubled {path : List UInt16} (h : Doubled isSingleQuote apostrophe path) :
    Doubled isSingleQuote apostrophe (parentOf path) := by
  rw [parentOf]
  split
  next => exact h
  next =>
    exact fun c hc => h c ((List.rdropWhile_prefix _ _).subset (List.dropLast_subset _ hc))

/-- The literals of the script are free of curly quotes exactly when the paths are. -/
theorem meantScript_doubled_iff (ctx : ShellContext) (flagFileName : List UInt8)
    (path : List UInt16) (present : Bool) :
    (∀ v ∈ (meantScript ctx flagFileName path present).literals,
      Doubled isSingleQuote apostrophe v) ↔ PathsDoubled ctx flagFileName path present := by
  have hsm : Doubled isSingleQuote apostrophe smRelative := by decide
  have hexe : Doubled isSingleQuote apostrophe ctx.exePath ↔
      Doubled isSingleQuote apostrophe ctx.installDir := by
    rw [ShellContext.exePath, Doubled.append_iff, and_iff_left (by decide)]
  have hicon : Doubled isSingleQuote apostrophe (ctx.exePath ++ wide ",0") ↔
      Doubled isSingleQuote apostrophe ctx.installDir := by
    rw [Doubled.append_iff, and_iff_left (by decide), hexe]
  have hparent : Doubled isSingleQuote apostrophe path →
      Doubled isSingleQuote apostrophe (parentOf path) := parentOf_doubled
  have harg := shortcutArgFor_plain flagFileName
  cases hl : shortcutLabelFor flagFileName with
  | none =>
    cases present <;> simp [meantScript, Script.literals, PathsDoubled, hl]
    exact hparent
  | some label =>
    have hlabel := shortcutLabelFor_plain hl
    have hname : Doubled isSingleQuote apostrophe (scFileName label) := by
      rw [scFileName, Doubled.append_iff, Doubled.append_iff]
      exact ⟨⟨by decide, hlabel⟩, by decide⟩
    have hdesc : Doubled isSingleQuote apostrophe (desc label) :=
      Doubled.append_iff.2 ⟨hlabel, by decide⟩
    cases present <;> simp [meantScript, Script.literals, PathsDoubled, hl, createShortcut,
      removeShortcut, hsm, hexe, hicon, harg, hname, hdesc]
    exact fun h _ => hparent h

/-! ## The helper -/

theorem setFlagArgs_eq (multiByteToWideChar : List UInt8 → List UInt16) (ctx : ShellContext)
    (flagFileName : Option (List UInt8)) (present : Bool)
    (h : ctx.flagPath multiByteToWideChar flagFileName ≠ []) :
    ctx.setFlagArgs multiByteToWideChar flagFileName present =
      some (helperWords ++ encodePowerShellCommand (flagCommand ctx (flagFileName.getD [])
        (ctx.flagPath multiByteToWideChar flagFileName) present)) := by
  rw [ShellContext.setFlagArgs]
  exact if_neg (by simpa using h)

/-- **The helper reads the script that is meant exactly when no path in it has a curly quote.** -/
theorem readsMeant_iff (multiByteToWideChar : List UInt8 → List UInt16)
    {one : UInt16 → UInt16 → UInt16} (hone : ∀ a b, one a b = a ∨ one a b = b)
    (ctx : ShellContext) (flagFileName : Option (List UInt8)) (present : Bool)
    {args : List UInt16}
    (h : ctx.setFlagArgs multiByteToWideChar flagFileName present = some args) :
    helperReads one args = some (meantScript ctx (flagFileName.getD [])
        (ctx.flagPath multiByteToWideChar flagFileName) present).segments ↔
      PathsDoubled ctx (flagFileName.getD []) (ctx.flagPath multiByteToWideChar flagFileName)
        present := by
  rw [ShellContext.setFlagArgs] at h
  split at h
  next => cases h
  next =>
    obtain rfl := Option.some.inj h
    rw [helperReads, List.drop_left, decodeCommand_encode, Option.bind_some, flagCommand_eq,
      reads_render_iff (by decide) hone _ (meantScript_separated _ _ _ _),
      meantScript_doubled_iff]

/-- The script the elevated helper runs, over every install path, every driver resources directory
    and every flag file. -/
theorem helperReads_iff (multiByteToWideChar : List UInt8 → List UInt16)
    {one : UInt16 → UInt16 → UInt16} (hone : ∀ a b, one a b = a ∨ one a b = b)
    (ctx : ShellContext) (flagFileName : Option (List UInt8)) (present : Bool)
    {args : List UInt16}
    (h : ctx.setFlagArgs multiByteToWideChar flagFileName present = some args) :
    (∀ script, decodeCommand (encodePowerShellCommand script) = some script) ∧
      (helperReads one args = some (meantScript ctx (flagFileName.getD [])
          (ctx.flagPath multiByteToWideChar flagFileName) present).segments ↔
        PathsDoubled ctx (flagFileName.getD []) (ctx.flagPath multiByteToWideChar flagFileName)
          present) :=
  ⟨decodeCommand_encode, readsMeant_iff multiByteToWideChar hone ctx flagFileName present h⟩

/-- A Steam library with an apostrophe in its path. -/
theorem helperReads_iff_apostrophe :
    ((⟨wide "C:\\WKOpenVR", [wide "D:\\Tom's"]⟩ : ShellContext).setFlagArgs
        (List.map UInt8.toUInt16) (some (narrow "enable_smoothing.flag")) true).bind
          (helperReads fun _ b => b) =
      some (meantScript ⟨wide "C:\\WKOpenVR", [wide "D:\\Tom's"]⟩ (narrow "enable_smoothing.flag")
        ((⟨wide "C:\\WKOpenVR", [wide "D:\\Tom's"]⟩ : ShellContext).flagPath
          (List.map UInt8.toUInt16) (some (narrow "enable_smoothing.flag"))) true).segments := by
  have hargs := setFlagArgs_eq (List.map UInt8.toUInt16)
    ⟨wide "C:\\WKOpenVR", [wide "D:\\Tom's"]⟩ (some (narrow "enable_smoothing.flag")) true
    (by decide +kernel)
  rw [hargs, Option.bind_some]
  exact (helperReads_iff (List.map UInt8.toUInt16) (fun _ _ => Or.inr rfl) _ _ true hargs).2.2
    (by decide +kernel)

/-- A Steam library with U+2019 in its path: the literals end there. -/
theorem curly_quote_ends_literal :
    ((⟨wide "C:\\WKOpenVR", [wide "D:\\Tom\u2019s"]⟩ : ShellContext).setFlagArgs
        (List.map UInt8.toUInt16) (some (narrow "enable_smoothing.flag")) true).bind
          (helperReads fun _ b => b) ≠
      some (meantScript ⟨wide "C:\\WKOpenVR", [wide "D:\\Tom\u2019s"]⟩
        (narrow "enable_smoothing.flag")
        ((⟨wide "C:\\WKOpenVR", [wide "D:\\Tom\u2019s"]⟩ : ShellContext).flagPath
          (List.map UInt8.toUInt16) (some (narrow "enable_smoothing.flag"))) true).segments := by
  have hargs := setFlagArgs_eq (List.map UInt8.toUInt16)
    ⟨wide "C:\\WKOpenVR", [wide "D:\\Tom\u2019s"]⟩ (some (narrow "enable_smoothing.flag")) true
    (by decide +kernel)
  rw [hargs, Option.bind_some]
  intro h
  have hpaths := (readsMeant_iff (List.map UInt8.toUInt16) (fun _ _ => Or.inr rfl) _ _ true
    hargs).1 h
  exact absurd hpaths (by decide +kernel)

end WKPairDriver.Overlay
