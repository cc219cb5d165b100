import WKPairDriver.Lib.Run
import WKPairDriver.Lib.Json
import WKPairDriver.Lib.Tree

/-!
# The migration at the first launch

`RunFirstLaunchMigration` runs its four steps on each launch.  A step is skipped once its marker is
found: the new directory, the new registry key, the sentinel in the profile of the face tracking,
the directory of the captions.  Every copy, write and rename may fail, a copy and a write partway.

* `get_replaceFile`, `readFile_replaceFile` — what a write by way of a temporary file changes.
-/

set_option autoImplicit false

namespace WKPairDriver.Overlay

open Lib Lib.Json

/-! ## Disk and registry -/

inductive RegName where
  | value (name : String)
  | key (name : String)
  deriving DecidableEq, Repr

structure RegValue where
  type : ℕ
  data : List UInt8
  deriving DecidableEq, Repr

/-- What is below `%LocalAppDataLow%` and below `HKEY_CURRENT_USER`. -/
structure World where
  disk : Tree String (List UInt8)
  registry : Tree RegName RegValue

def oldDir : List String := ["OpenVR-Pair"]
def newDir : List String := ["WKOpenVR"]

def kOldKey : List RegName := [.key "Software", .key "OpenVR-WKSpaceCalibrator"]
def kNewKey : List RegName := [.key "Software", .key "WKOpenVR-SpaceCalibrator"]

/-- `RegOpenKeyExW`. -/
def openKey (registry : Tree RegName RegValue) (key : List RegName) :
    Option (Forest RegName RegValue) :=
  match registry.get key with
  | some (.node cs) => some cs
  | _ => none

/-- What an `ifstream` reads. -/
def readFile (disk : Tree String (List UInt8)) (path : List String) : Option (List UInt8) :=
  match disk.get path with
  | some (.leaf text) => some text
  | _ => none

/-! ## What may fail -/

/-- A copy does this many operations before one fails.  Of a file whose copy fails the first
    `kept` bytes may be left. -/
structure CopyOutcome where
  operations : ℕ
  kept : Option ℕ := none
  deriving DecidableEq, Repr

def CopyOutcome.keptOf (o : CopyOutcome) (text : List UInt8) : Option (List UInt8) :=
  o.kept.map fun k => text.take k

/-- The key is created, the old key is opened for the copy, and `RegCopyTreeW` copies this many
    values and keys before it fails. -/
structure RegOutcome where
  created : Bool
  opened : Bool
  operations : ℕ
  deriving DecidableEq, Repr

/-- `CreateFileW` succeeds, `WriteFile` writes at most `written` bytes, `MoveFileExW` succeeds. -/
structure WriteOutcome where
  created : Bool
  written : ℕ
  moved : Bool
  deriving DecidableEq, Repr

structure PortOutcome where
  router : WriteOutcome
  sentinel : WriteOutcome
  deriving DecidableEq, Repr

/-! ## Profiles -/

/-- `picojson::parse` and `serialize(true)`. -/
structure Picojson where
  parse : List UInt8 → Option Value
  serialize : Object → List UInt8

def StripUtf8Bom : List UInt8 → List UInt8
  | 0xEF :: 0xBB :: 0xBF :: body => body
  | body => body

def ParseObject (json : Picojson) (body : List UInt8) : Option Object :=
  (json.parse (StripUtf8Bom body)).bind Value.object?

def BoolAt (o : Object) (key : String) (fallback : Bool) : Bool := (o.item key).bool?.getD fallback

/-- The cast of a double to `int`; outside of the range it gives the smallest `int`. -/
def toInt (x : ℚ) : ℤ :=
  let n := x.num.tdiv x.den
  if -2 ^ 31 ≤ n ∧ n < 2 ^ 31 then n else -2 ^ 31

def IntAt (o : Object) (key : String) (fallback : ℤ) : ℤ :=
  ((o.item key).number?.map toInt).getD fallback

/-- A port that is valid and not the default. -/
def customPort (port : ℤ) : Bool := decide (port ≠ 9000 ∧ 0 < port ∧ port ≤ 65535)

def profiles (root : List String) : List String := root ++ ["profiles"]

def facetracking (json : Picojson) (disk : Tree String (List UInt8)) (root : List String) :
    Option Object :=
  (readFile disk (profiles root ++ ["facetracking.json"])).bind (ParseObject json)

def oscrouter (json : Picojson) (disk : Tree String (List UInt8)) : Option Object :=
  (readFile disk (profiles newDir ++ ["oscrouter.json"])).bind (ParseObject json)

def migrated (root : Object) : Bool := BoolAt root "osc_migrated_to_router" false

/-- The port of the old profile, if it is one to carry over. -/
def oldPort (root : Object) : Option ℤ :=
  let port := IntAt root "osc_port" 9000
  if customPort port = true then some port else none

/-- The user has already configured the router port. -/
def routerConfigured (json : Picojson) (disk : Tree String (List UInt8)) : Bool :=
  match oscrouter json disk with
  | some root => customPort (IntAt root "send_port" 9000)
  | none => false

/-- The text that is written into the router profile. -/
def routerBody (json : Picojson) (disk : Tree String (List UInt8)) (port : ℤ) : List UInt8 :=
  json.serialize (((oscrouter json disk).getD Object.empty).set "send_port" (.number port))

/-- The size of a file that a `DWORD` holds. -/
def dwordRange : ℕ := 2 ^ 32

/-- The write of `body` into `name` by way of `name.tmp`, which replaces the file only if all the
    bytes that `WriteFile` was asked for are written; their number is cast to a `DWORD`. -/
def replaceFile (o : WriteOutcome) (dir : List String) (name : String) (body : List UInt8)
    (disk : Tree String (List UInt8)) : Tree String (List UInt8) :=
  let size := body.length % dwordRange
  if o.created = false then disk
  else if size ≤ o.written then
    if o.moved = true then
      Tree.put (.leaf (body.take size)) (disk.remove (dir ++ [name ++ ".tmp"])) (dir ++ [name])
    else Tree.put (.leaf (body.take size)) disk (dir ++ [name ++ ".tmp"])
  else disk.remove (dir ++ [name ++ ".tmp"])

section Replace
variable {o : WriteOutcome} {dir : List String} {name : String} {body : List UInt8}
  {disk : Tree String (List UInt8)}

/-- The file is replaced. -/
def WriteOutcome.replaces (o : WriteOutcome) (body : List UInt8) : Bool :=
  o.created && o.moved && decide (body.length % dwordRange ≤ o.written)

/-- The file is replaced, and by the whole text. -/
def WriteOutcome.completes (o : WriteOutcome) (body : List UInt8) : Bool :=
  o.replaces body && decide (body.length < dwordRange)

theorem get_replaceFile {q : List String} (hpath : Tree.Disjoint (dir ++ [name]) q)
    (htmp : Tree.Disjoint (dir ++ [name ++ ".tmp"]) q) :
    (replaceFile o dir name body disk).get q = disk.get q := by
  unfold replaceFile
  dsimp only
  split
  · rfl
  · split
    · split
      · rw [Tree.get_put_of_disjoint _ _ _ _ hpath, Tree.get_remove_of_disjoint _ _ _ htmp]
      · rw [Tree.get_put_of_disjoint _ _ _ _ htmp]
    · rw [Tree.get_remove_of_disjoint _ _ _ htmp]

theorem isSome_replaceFile {q r : List String} (hdir : dir = q ++ r) :
    ((replaceFile o dir name body disk).get q).isSome = (disk.get q).isSome := by
  have hput : ∀ (x : Tree String (List UInt8)) d n,
      ((Tree.put x d (dir ++ [n])).get q).isSome = (d.get q).isSome := fun x d n => by
    rw [hdir, List.append_assoc]
    exact Tree.isSome_get_put x d q _ (List.append_ne_nil_of_right_ne_nil _ (List.cons_ne_nil n []))
  have hremove : ∀ (d : Tree String (List UInt8)) n,
      ((d.remove (dir ++ [n])).get q).isSome = (d.get q).isSome := fun d n => by
    rw [hdir, List.append_assoc]
    exact Tree.isSome_get_remove d q _
      (List.append_ne_nil_of_right_ne_nil _ (List.cons_ne_nil n []))
  unfold replaceFile
  dsimp only
  split
  · rfl
  · split
    · split
      · rw [hput, hremove]
      · rw [hput]
    · rw [hremove]

theorem readFile_replaceFile (h : disk.IsNode dir) (ho : o.completes body = true) :
    readFile (replaceFile o dir name body disk) (dir ++ [name]) = some body := by
  rw [WriteOutcome.completes, WriteOutcome.replaces] at ho
  simp only [Bool.and_eq_true, decide_eq_true_eq] at ho
  obtain ⟨⟨⟨hcreated, hmoved⟩, hwritten⟩, hlt⟩ := ho
  rw [Nat.mod_eq_of_lt hlt] at hwritten
  unfold replaceFile
  dsimp only
  rw [if_neg (by rw [hcreated]; decide), Nat.mod_eq_of_lt hlt, if_pos hwritten, if_pos hmoved,
    readFile, Tree.get_put_self (h.remove _), List.take_length]

theorem disjoint_tmp (dir : List String) (name : String) :
    Tree.Disjoint (dir ++ [name ++ ".tmp"]) (dir ++ [name]) :=
  ⟨by simp, by simp [eq_comm (a := name)]⟩

/-- A file that is not replaced is kept. -/
theorem get_replaceFile_self (ho : o.replaces body = false) :
    (replaceFile o dir name body disk).get (dir ++ [name]) = disk.get (dir ++ [name]) := by
  unfold replaceFile
  dsimp only
  split
  · rfl
  · next hcreated =>
    split
    · next hwritten =>
      split
      · next hmoved =>
        refine absurd ho ?_
        simp [WriteOutcome.replaces, hmoved, hwritten, Bool.not_eq_false _ ▸ hcreated]
      · exact Tree.get_put_of_disjoint _ _ _ _ (disjoint_tmp dir name)
    · exact Tree.get_remove_of_disjoint _ _ _ (disjoint_tmp dir name)

end Replace

/-! ## The steps -/

def MigrateAppData (o : CopyOutcome) (w : World) : World :=
  if (w.disk.get newDir).isSome = true then w
  else
    match w.disk.get oldDir with
    | none => w
    | some old =>
      match (old.copyUpTo o.keptOf o.operations).copy with
      | none => w
      | some copy => { w with disk := Tree.put copy w.disk newDir }

def MigrateScRegistryKey (o : RegOutcome) (w : World) : World :=
  if (openKey w.registry kNewKey).isSome = true then w
  else
    match openKey w.registry kOldKey with
    | none => w
    | some old =>
      if o.created = false then w
      else
        let content : Forest RegName RegValue :=
          if o.opened = true then (old.copyUpTo (fun _ => none) o.operations).copy else .nil
        { w with registry := Tree.put (.node content) w.registry kNewKey }

/-- Step 4 of `MigrateFtOscPort`, where there is a port to carry over. -/
def carryPort (json : Picojson) (o : WriteOutcome) (root : Object)
    (disk : Tree String (List UInt8)) : Tree String (List UInt8) :=
  match oldPort root with
  | none => disk
  | some port =>
    if routerConfigured json disk = true then disk
    else replaceFile o (profiles newDir) "oscrouter.json" (routerBody json disk port) disk

/-- Step 5 of `MigrateFtOscPort`: the profile is read again. -/
def writeSentinel (json : Picojson) (o : WriteOutcome) (disk : Tree String (List UInt8)) :
    Tree String (List UInt8) :=
  match facetracking json disk newDir with
  | none => disk
  | some root =>
    replaceFile o (profiles newDir) "facetracking.json"
      (json.serialize (root.set "osc_migrated_to_router" (.bool true))) disk

def MigrateFtOscPort (json : Picojson) (o : PortOutcome) (w : World) : World :=
  match facetracking json w.disk newDir with
  | none => w
  | some root =>
    if migrated root = true then w
    else { w with disk := writeSentinel json o.sentinel (carryPort json o.router root w.disk) }

def translator : List String := newDir ++ ["translator"]
def captions : List String := newDir ++ ["captions"]

/-- `fs::rename` moves the directory, or fails and changes nothing. -/
def MigrateTranslatorToCaptions (renamed : Bool) (w : World) : World :=
  match w.disk.get translator with
  | none => w
  | some x =>
    if (w.disk.get captions).isSome = true then w
    else if renamed = true then { w with disk := Tree.put x (w.disk.remove translator) captions }
    else w

/-! ## Launches -/

inductive Step where
  | appData
  | scRegistry
  | ftOscPort
  | translatorToCaptions
  deriving DecidableEq, Repr

/-- A step with what fails in it. -/
inductive Migration where
  | appData (o : CopyOutcome)
  | scRegistry (o : RegOutcome)
  | ftOscPort (o : PortOutcome)
  | translatorToCaptions (renamed : Bool)
  deriving DecidableEq, Repr

def Migration.step : Migration → Step
  | .appData _ => .appData
  | .scRegistry _ => .scRegistry
  | .ftOscPort _ => .ftOscPort
  | .translatorToCaptions _ => .translatorToCaptions

def Migration.run (json : Picojson) : Migration → World → World
  | .appData o, w => MigrateAppData o w
  | .scRegistry o, w => MigrateScRegistryKey o w
  | .ftOscPort o, w => MigrateFtOscPort json o w
  | .translatorToCaptions renamed, w => MigrateTranslatorToCaptions renamed w

/-- What fails in a launch. -/
structure Launch where
  appData : CopyOutcome
  scRegistry : RegOutcome
  ftOscPort : PortOutcome
  renamed : Bool
  deriving DecidableEq, Repr

def RunFirstLaunchMigration (launch : Launch) : List Migration :=
  [.appData launch.appData, .scRegistry launch.scRegistry, .ftOscPort launch.ftOscPort,
    .translatorToCaptions launch.renamed]

end WKPairDriver.Overlay
