import Mathlib

/-!
# Discovering the installed face modules

`LoadAllAsync` lists, for each folder of the modules directory, the module in its version folder of
the greatest name; `ScanInstalledModules` reports the version folder that was written last.  The
manifest of a chosen version is read under a `try`, but its fields are used outside of it, and the
log line at the end takes the first eight characters of every uuid.

* `discoverAll_ok` — while no field is missing, each folder's module is listed once, whatever else
  is broken.
* `discovery_isolated_iff` — when all of `Isolated` holds.
* `tenthVersion_not_isolated` — two versions and the older one loaded.
-/

set_option autoImplicit false

namespace WKPairDriver.FaceTracking.Discovery

/-! ## Strings -/

/-- The UTF-16 code units of a string, which is what .NET counts and compares. -/
def utf16 (s : String) : List ℕ :=
  s.toList.flatMap fun c =>
    if c.val.toNat < 0x10000 then [c.val.toNat]
    else [0xD800 + (c.val.toNat - 0x10000) / 0x400, 0xDC00 + (c.val.toNat - 0x10000) % 0x400]

/-- A part of a version number. -/
def versionPart (digits : List Char) : Option ℕ :=
  if digits ≠ [] ∧ digits.all Char.isDigit then
    some (digits.foldl (fun n c => 10 * n + (c.val.toNat - '0'.val.toNat)) 0)
  else none

/-- The number of a version folder `a.b.c`; other folders come before every version. -/
def versionNumber (name : String) : WithBot (ℕ ×ₗ ℕ ×ₗ ℕ) :=
  match (name.toList.splitOn '.').map versionPart with
  | [some a, some b, some c] => (toLex (a, toLex (b, c)) : ℕ ×ₗ ℕ ×ₗ ℕ)
  | _ => ⊥

/-! ## The modules directory -/

/-- A JSON file as its reader sees it: missing, not parsed into the type, or parsed. -/
inductive JsonFile (α : Type) where
  | missing
  | broken
  | parsed (a : α)
deriving DecidableEq

/-- The fields of `Manifest` the loader uses.  They are `required`, which a JSON `null` satisfies. -/
structure Manifest where
  Uuid : Option String
  Name : Option String
  EntryAssembly : Option String
  EntryType : Option String
deriving DecidableEq

/-- A version folder.  `bridge` is `assemblies/bridge.json` with its `upstream_assembly`; the two
    properties are what `JsonDocument` finds in the manifest, also in one that is no `Manifest`. -/
structure VersionDir where
  name : String
  lastWriteTimeUtc : ℕ
  manifest : JsonFile Manifest
  bridge : JsonFile (Option String)
  nameProperty : Option String
  vendorProperty : Option String
deriving DecidableEq

structure UuidDir where
  name : String
  versions : List VersionDir
  /-- No two folders of one directory have one name. -/
  distinct : (versions.map VersionDir.name).Nodup
  /-- `DateTime.MinValue` is zero; file times begin in 1601. -/
  written : ∀ v ∈ versions, 0 < v.lastWriteTimeUtc

/-- `ModulesInstallDir`, in the order of its enumeration; `none` is a missing directory. -/
structure ModulesDir where
  path : String
  contents : Option (List UuidDir)
  distinct : ((contents.getD []).map UuidDir.name).Nodup
  /-- `File.Exists`. -/
  fileExists : String → Bool

def ModulesDir.uuidDirs (dir : ModulesDir) : List UuidDir := dir.contents.getD []

/-! ## `LoadAllAsync` -/

/-- What leaves a call by `throw`. -/
inductive Exn where
  | argumentNull
  | argumentOutOfRange
deriving DecidableEq

structure DiscoveredModule where
  Uuid : String
  Manifest : Manifest
  ModuleDllPath : String
  UuidHash : UInt64

def VrcftCompatAdapterType : String :=
  "WKOpenVR.FaceTracking.VrcftCompat.ReflectingExtTrackingModuleAdapter"

def Fnv1a64 (s : String) : UInt64 :=
  s.toUTF8.toList.foldl (fun hash b => (hash ^^^ b.toUInt64) * 1099511628211) 14695981039346656037

/-- A path that `Path.Combine` does not append: it begins with a separator or a drive letter. -/
def isRooted (path : String) : Bool :=
  match path.toList with
  | '\\' :: _ => true
  | '/' :: _ => true
  | drive :: ':' :: _ => drive.isAlpha
  | _ => false

/-- `Path.Combine(dir, "assemblies", file)`. -/
def assemblyPath (dir file : String) : String :=
  if isRooted file then file else dir ++ "\\assemblies\\" ++ file

/-- The DLL a manifest names; `none` skips the module. -/
def resolveDll (dir : String) (v : VersionDir) (manifest : Manifest) :
    Except Exn (Option String) :=
  if manifest.EntryType = some VrcftCompatAdapterType then
    match v.bridge with
    | .parsed (some upstreamAssembly) => .ok (some (assemblyPath dir upstreamAssembly))
    -- `Path.Combine` of a null is inside the `try` here
    | _ => .ok none
  else
    match manifest.EntryAssembly with
    | some entryAssembly => .ok (some (assemblyPath dir entryAssembly))
    | none => .error .argumentNull

def ModulesDir.versionPath (dir : ModulesDir) (d : UuidDir) (v : VersionDir) : String :=
  dir.path ++ "\\" ++ d.name ++ "\\" ++ v.name

/-- `TryDiscoverModuleAsync`: the module it adds, if it adds one. -/
def TryDiscoverModuleAsync (dir : ModulesDir) (d : UuidDir) (v : VersionDir) :
    Except Exn (Option DiscoveredModule) :=
  match v.manifest with
  | .missing => .ok none
  | .broken => .ok none
  | .parsed manifest =>
    match resolveDll (dir.versionPath d v) v manifest with
    | .error e => .error e
    | .ok none => .ok none
    | .ok (some moduleDllPath) =>
      if dir.fileExists moduleDllPath then
        match manifest.Uuid with
        -- `Encoding.UTF8.GetBytes` of a null
        | none => .error .argumentNull
        | some uuid => .ok (some ⟨uuid, manifest, moduleDllPath, Fnv1a64 uuid⟩)
      else .ok none

-- The sort key of the current culture, by whose order .NET compares strings.  Paths of siblings
-- differ in their last part only.
variable (sortKey : String → List ℕ)

/-- `EnumerateDirectories(uuidDir).OrderDescending().FirstOrDefault()`: the sort is stable, so the
    first of the greatest. -/
def chosenVersion (d : UuidDir) : Option VersionDir :=
  d.versions.argmax fun v => sortKey v.name

/-- The loop over the folders: the modules added to `_loaded`, and the exception that ends it. -/
def discoverAll (dir : ModulesDir) :
    List UuidDir → List DiscoveredModule → List DiscoveredModule × Option Exn
  | [], loaded => (loaded, none)
  | d :: ds, loaded =>
    match chosenVersion sortKey d with
    | none => discoverAll dir ds loaded
    | some v =>
      match TryDiscoverModuleAsync dir d v with
      | .error e => (loaded, some e)
      | .ok m => discoverAll dir ds (loaded ++ m.toList)

/-- `_loaded` and `_phase`. -/
structure Loader where
  loaded : List DiscoveredModule
  phase : String

/-- `m.Uuid[..8]` for every loaded module; the names go to the log. -/
def formatNames (loaded : List DiscoveredModule) : Except Exn Unit :=
  if loaded.all fun m => 8 ≤ (utf16 m.Uuid).length then .ok () else .error .argumentOutOfRange

/-- The loader after the call and what the call returns or throws. -/
def LoadAllAsync (dir : ModulesDir) : Loader × Except Exn (List DiscoveredModule) :=
  match dir.contents with
  | none => (⟨[], "discovering-modules"⟩, .ok [])
  | some uuidDirs =>
    match discoverAll sortKey dir uuidDirs [] with
    | (loaded, some e) => (⟨loaded, "discovering-modules"⟩, .error e)
    | (loaded, none) =>
      match formatNames loaded with
      | .error e => (⟨loaded, "discovering-modules"⟩, .error e)
      | .ok () =>
        (⟨loaded, if loaded.length = 0 then "no-modules" else "modules-loaded"⟩, .ok loaded)

/-! ## `ScanInstalledModules` -/

structure InstalledModule where
  Uuid : String
  Name : String
  Vendor : String
  Version : String

/-- The loop over the version folders: `newestVersion` with `newestMtime`. -/
def newestVersion (versions : List VersionDir) : Option VersionDir :=
  (versions.foldl (fun (newest : Option VersionDir × ℕ) v =>
    if v.lastWriteTimeUtc > newest.2 then (some v, v.lastWriteTimeUtc) else newest) (none, 0)).1

def installedModule (d : UuidDir) : Option InstalledModule :=
  (newestVersion d.versions).map fun v =>
    ⟨d.name, v.nameProperty.getD d.name, v.vendorProperty.getD "", v.name⟩

def ScanInstalledModules (dir : ModulesDir) : List InstalledModule :=
  (dir.uuidDirs.filterMap installedModule).mergeSort fun a b => utf16 a.Name ≤ utf16 b.Name

/-! ## What discovery is for -/

/-- The module a version folder holds, if it holds a valid one. -/
def validModule (dir : ModulesDir) (d : UuidDir) (v : VersionDir) : Option DiscoveredModule :=
  match v.manifest with
  | .parsed manifest =>
    match resolveDll (dir.versionPath d v) v manifest, manifest.Uuid with
    | .ok (some moduleDllPath), some uuid =>
      if dir.fileExists moduleDllPath then some ⟨uuid, manifest, moduleDllPath, Fnv1a64 uuid⟩
      else none
    | _, _ => none
  | _ => none

/-- The modules of the chosen versions, one for each folder whose chosen version is valid. -/
def validModules (dir : ModulesDir) (ds : List UuidDir) : List DiscoveredModule :=
  ds.filterMap fun d => (chosenVersion sortKey d).bind (validModule dir d)

/-- The loader returns normally and lists what is valid, chooses the newest version everywhere, and
    the status file reports the version that was chosen. -/
structure Isolated (dir : ModulesDir) : Prop where
  returns : (LoadAllAsync sortKey dir).2 = .ok (validModules sortKey dir dir.uuidDirs)
  newest : ∀ d ∈ dir.uuidDirs, ∀ v ∈ chosenVersion sortKey d, ∀ w ∈ d.versions,
    versionNumber w.name ≤ versionNumber v.name
  reported : ∀ d ∈ dir.uuidDirs, ∀ v ∈ chosenVersion sortKey d,
    (∃ m ∈ ScanInstalledModules dir, m.Uuid = d.name) ∧
      ∀ m ∈ ScanInstalledModules dir, m.Uuid = d.name → m.Version = v.name

/-! ## The loader -/

/-- No field that is used outside of a `try` is missing. -/
def NoNull (dir : ModulesDir) (d : UuidDir) (v : VersionDir) : Prop :=
  ∀ manifest, v.manifest = .parsed manifest →
    ∃ path, resolveDll (dir.versionPath d v) v manifest = .ok path ∧
      ∀ moduleDllPath, path = some moduleDllPath → dir.fileExists moduleDllPath →
        manifest.Uuid.isSome

theorem TryDiscoverModuleAsync_ok (dir : ModulesDir) (d : UuidDir) (v : VersionDir)
    (h : NoNull dir d v) : TryDiscoverModuleAsync dir d v = .ok (validModule dir d v) := by
  unfold TryDiscoverModuleAsync validModule
  cases hm : v.manifest with
  | missing => rfl
  | broken => rfl
  | parsed manifest =>
    obtain ⟨path, hpath, huuid⟩ := h manifest hm
    cases path with
    | none => simp only [hpath]
    | some moduleDllPath =>
      by_cases hex : dir.fileExists moduleDllPath = true
      · obtain ⟨uuid, hu⟩ := Option.isSome_iff_exists.1 (huuid _ rfl hex)
        simp only [hpath, hex, if_true, hu]
      · cases hu : manifest.Uuid <;> simp [hpath, hex, hu]

theorem TryDiscoverModuleAsync_error (dir : ModulesDir) (d : UuidDir) (v : VersionDir)
    (h : ¬ NoNull dir d v) : ∃ e, TryDiscoverModuleAsync dir d v = .error e := by
  unfold NoNull at h
  push Not at h
  obtain ⟨manifest, hm, hnull⟩ := h
  unfold TryDiscoverModuleAsync
  simp only [hm]
  cases hpath : resolveDll (dir.versionPath d v) v manifest with
  | error e => exact ⟨e, rfl⟩
  | ok path =>
    obtain ⟨moduleDllPath, rfl, hex, hu⟩ := hnull path hpath
    have hnone : manifest.Uuid = none := by simpa using hu
    exact ⟨.argumentNull, by simp only [hex, if_true, hnone]⟩

/-- **Nothing broken gets in the way** of the loop: while no field is missing it lists what is
    valid. -/
theorem discoverAll_ok (dir : ModulesDir) (ds : List UuidDir)
    (h : ∀ d ∈ ds, ∀ v ∈ chosenVersion sortKey d, NoNull dir d v) (loaded : List DiscoveredModule) :
    discoverAll sortKey dir ds loaded = (loaded ++ validModules sortKey dir ds, none) := by
  induction ds generalizing loaded with
  | nil => simp [discoverAll, validModules]
  | cons d ds ih =>
    have hrest := ih fun d' hd' => h d' (List.mem_cons_of_mem d hd')
    cases hv : chosenVersion sortKey d with
    | none => simp [discoverAll, validModules, hv, hrest]
    | some v =>
      have hok := TryDiscoverModuleAsync_ok dir d v (h d List.mem_cons_self v hv)
      simp only [discoverAll, hv, hok, hrest]
      cases hm : validModule dir d v <;> simp [validModules, hv, hm]

/-- A missing field ends the loop. -/
theorem discoverAll_error (dir : ModulesDir) (ds : List UuidDir) {d : UuidDir} (hd : d ∈ ds)
    {v : VersionDir} (hv : chosenVersion sortKey d = some v) (hnull : ¬ NoNull dir d v)
    (loaded : List DiscoveredModule) : (discoverAll sortKey dir ds loaded).2 ≠ none := by
  induction ds generalizing loaded with
  | nil => cases hd
  | cons d' ds ih =>
    rcases List.mem_cons.1 hd with rfl | hd
    · obtain ⟨e, he⟩ := TryDiscoverModuleAsync_error dir d v hnull
      simp [discoverAll, hv, he]
    · cases hv' : chosenVersion sortKey d' with
      | none =>
        simp only [discoverAll, hv']
        exact ih hd loaded
      | some v' =>
        cases hm : TryDiscoverModuleAsync dir d' v' with
        | error e => simp [discoverAll, hv', hm]
        | ok m =>
          simp only [discoverAll, hv', hm]
          exact ih hd _

/-- `m.Uuid[..8]` does not throw. -/
def LongUuids (ms : List DiscoveredModule) : Prop := ∀ m ∈ ms, 8 ≤ (utf16 m.Uuid).length

theorem LoadAllAsync_returns_iff (dir : ModulesDir) :
    (LoadAllAsync sortKey dir).2 = .ok (validModules sortKey dir dir.uuidDirs) ↔
      (∀ d ∈ dir.uuidDirs, ∀ v ∈ chosenVersion sortKey d, NoNull dir d v) ∧
        LongUuids (validModules sortKey dir dir.uuidDirs) := by
  unfold LoadAllAsync ModulesDir.uuidDirs
  cases hds : dir.contents with
  | none => simp [validModules, LongUuids]
  | some ds =>
    simp only [Option.getD_some]
    by_cases hnull : ∀ d ∈ ds, ∀ v ∈ chosenVersion sortKey d, NoNull dir d v
    · rw [discoverAll_ok sortKey dir ds hnull, List.nil_append]
      by_cases hlong : LongUuids (validModules sortKey dir ds)
      · have hfmt : formatNames (validModules sortKey dir ds) = .ok () := by
          rw [formatNames, if_pos]
          simpa [LongUuids] using hlong
        simp only [hfmt, hlong, and_true, true_iff]
        exact hnull
      · have hfmt : formatNames (validModules sortKey dir ds) = .error .argumentOutOfRange := by
          rw [formatNames, if_neg]
          simpa [LongUuids] using hlong
        simp [hfmt, hlong]
    · have hsome : (discoverAll sortKey dir ds []).2 ≠ none := by
        push Not at hnull
        obtain ⟨d, hd, v, hv, hn⟩ := hnull
        exact discoverAll_error sortKey dir ds hd hv hn []
      cases hrun : discoverAll sortKey dir ds [] with
      | mk loaded e =>
        cases e with
        | none => simp [hrun] at hsome
        | some e =>
          simp only [hnull, false_and, iff_false]
          intro h
          cases h

/-! ## The status file -/

/-- The loop finds the first of the folders written last. -/
theorem newestVersion_eq (d : UuidDir) :
    newestVersion d.versions = d.versions.argmax VersionDir.lastWriteTimeUtc := by
  have hloop : ∀ (vs : List VersionDir) (newest : Option VersionDir × ℕ),
      (∀ v ∈ vs, 0 < v.lastWriteTimeUtc) →
      newest.2 = (newest.1.map VersionDir.lastWriteTimeUtc).getD 0 →
      (vs.foldl (fun (newest : Option VersionDir × ℕ) v =>
        if v.lastWriteTimeUtc > newest.2 then (some v, v.lastWriteTimeUtc) else newest) newest).1 =
      vs.foldl (List.argAux fun b c : VersionDir => c.lastWriteTimeUtc < b.lastWriteTimeUtc)
        newest.1 := by
    intro vs
    induction vs with
    | nil =>
      intro newest _ _
      rfl
    | cons v vs ih =>
      rintro ⟨best, mtime⟩ hpos hmtime
      have hv := hpos v List.mem_cons_self
      have hvs : ∀ w ∈ vs, 0 < w.lastWriteTimeUtc := fun w hw => hpos w (List.mem_cons_of_mem v hw)
      rw [List.foldl_cons, List.foldl_cons]
      cases best with
      | none =>
        simp only [Option.map_none, Option.getD_none] at hmtime
        subst hmtime
        rw [if_pos hv]
        exact ih _ hvs rfl
      | some b =>
        simp only [Option.map_some, Option.getD_some] at hmtime
        subst hmtime
        by_cases hlt : b.lastWriteTimeUtc < v.lastWriteTimeUtc
        · simp only [gt_iff_lt, hlt, if_true, List.argAux]
          exact ih _ hvs rfl
        · simp only [gt_iff_lt, hlt, if_false, List.argAux]
          exact ih _ hvs rfl
  exact hloop d.versions (none, 0) d.written rfl

theorem mem_ScanInstalledModules (dir : ModulesDir) (m : InstalledModule) :
    m ∈ ScanInstalledModules dir ↔ ∃ d ∈ dir.uuidDirs, installedModule d = some m := by
  rw [ScanInstalledModules, List.mem_mergeSort, List.mem_filterMap]

/-- **The version the status file reports** for a folder. -/
theorem reported_iff (dir : ModulesDir) {d : UuidDir} (hd : d ∈ dir.uuidDirs) {v : VersionDir}
    (hv : v ∈ d.versions) :
    ((∃ m ∈ ScanInstalledModules dir, m.Uuid = d.name) ∧
      ∀ m ∈ ScanInstalledModules dir, m.Uuid = d.name → m.Version = v.name) ↔
    newestVersion d.versions = some v := by
  -- an entry under the folder's name comes from the folder
  have hentry : ∀ m, m ∈ ScanInstalledModules dir ∧ m.Uuid = d.name ↔ installedModule d = some m := by
    intro m
    rw [mem_ScanInstalledModules]
    constructor
    · rintro ⟨⟨d', hd', hm⟩, hname⟩
      have hname' : m.Uuid = d'.name := by
        obtain ⟨w, -, rfl⟩ := Option.map_eq_some_iff.1 hm
        rfl
      have hsame : d' = d :=
        List.inj_on_of_nodup_map dir.distinct hd' hd (hname'.symm.trans hname)
      rwa [← hsame]
    · intro hm
      obtain ⟨w, -, rfl⟩ := Option.map_eq_some_iff.1 hm
      exact ⟨⟨d, hd, hm⟩, rfl⟩
  constructor
  · rintro ⟨⟨m, hm, hname⟩, hall⟩
    have hversion := hall m hm hname
    obtain ⟨w, hw, rfl⟩ := Option.map_eq_some_iff.1 ((hentry m).1 ⟨hm, hname⟩)
    have hmem : w ∈ d.versions := by
      rw [newestVersion_eq] at hw
      exact List.argmax_mem hw
    rw [hw, List.inj_on_of_nodup_map d.distinct hmem hv hversion]
  · intro hw
    have hm : installedModule d = some _ := congrArg (Option.map _) hw
    refine ⟨⟨_, ((hentry _).2 hm).1, rfl⟩, ?_⟩
    intro m hmem hname
    have hm' := (hentry m).1 ⟨hmem, hname⟩
    rw [hm] at hm'
    cases hm'
    rfl

/-! ## When discovery is isolated -/

/-- The first of the folders with the greatest value. -/
def FirstGreatest {β : Type} [LinearOrder β] (f : VersionDir → β) (v : VersionDir)
    (vs : List VersionDir) : Prop :=
  v ∈ vs ∧ (∀ w ∈ vs, f w ≤ f v) ∧ ∀ w ∈ vs, f v ≤ f w → vs.idxOf v ≤ vs.idxOf w

/-- The manifest of a version folder cannot make the loader throw: the fields it needs are there,
    and the uuid of a module that is found has eight characters. -/
def Harmless (dir : ModulesDir) (d : UuidDir) (v : VersionDir) : Prop :=
  ∀ manifest, v.manifest = .parsed manifest →
    ∃ path, resolveDll (dir.versionPath d v) v manifest = .ok path ∧
      ∀ moduleDllPath, path = some moduleDllPath → dir.fileExists moduleDllPath →
        ∃ uuid, manifest.Uuid = some uuid ∧ 8 ≤ (utf16 uuid).length

theorem harmless_iff (dir : ModulesDir) (d : UuidDir) (v : VersionDir) :
    Harmless dir d v ↔
      NoNull dir d v ∧ ∀ m ∈ validModule dir d v, 8 ≤ (utf16 m.Uuid).length := by
  constructor
  · intro h
    refine ⟨?_, ?_⟩
    · intro manifest hm
      obtain ⟨path, hpath, huuid⟩ := h manifest hm
      refine ⟨path, hpath, ?_⟩
      intro moduleDllPath hp hex
      obtain ⟨uuid, hu, -⟩ := huuid moduleDllPath hp hex
      rw [hu]
      rfl
    · intro m hm
      unfold validModule at hm
      cases hman : v.manifest with
      | missing => simp [hman] at hm
      | broken => simp [hman] at hm
      | parsed manifest =>
        obtain ⟨path, hpath, huuid⟩ := h manifest hman
        cases path with
        | none => simp [hman, hpath] at hm
        | some moduleDllPath =>
          cases hu : manifest.Uuid with
          | none => simp [hman, hpath, hu] at hm
          | some uuid =>
            by_cases hex : dir.fileExists moduleDllPath = true
            · obtain ⟨uuid', hu', hlen⟩ := huuid _ rfl hex
              rw [hu] at hu'
              cases hu'
              simp only [hman, hpath, hu, hex, if_true, Option.mem_def, Option.some.injEq] at hm
              rwa [← hm]
            · simp [hman, hpath, hu, hex] at hm
  · rintro ⟨hnull, hlong⟩ manifest hm
    obtain ⟨path, hpath, huuid⟩ := hnull manifest hm
    refine ⟨path, hpath, ?_⟩
    rintro moduleDllPath rfl hex
    obtain ⟨uuid, hu⟩ := Option.isSome_iff_exists.1 (huuid _ rfl hex)
    refine ⟨uuid, hu, ?_⟩
    apply hlong ⟨uuid, manifest, moduleDllPath, Fnv1a64 uuid⟩
    simp only [validModule, hm, hpath, hu, hex, if_true, Option.mem_def]

/-- **Discovery is isolated and picks the newest version** exactly when in every folder the version
    whose name is greatest as a string has a harmless manifest, is the greatest number, and was
    written last. -/
theorem discovery_isolated_iff (dir : ModulesDir) :
    Isolated sortKey dir ↔ ∀ d ∈ dir.uuidDirs, ∀ v,
      FirstGreatest (fun w => sortKey w.name) v d.versions →
        Harmless dir d v ∧ (∀ w ∈ d.versions, versionNumber w.name ≤ versionNumber v.name) ∧
          FirstGreatest VersionDir.lastWriteTimeUtc v d.versions := by
  have hchosen : ∀ d v, v ∈ chosenVersion sortKey d ↔
      FirstGreatest (fun w => sortKey w.name) v d.versions := by
    intro d v
    have h := List.mem_argmax_iff (f := fun w : VersionDir => sortKey w.name) (l := d.versions)
      (m := v)
    unfold chosenVersion FirstGreatest
    convert h
  have hlast : ∀ (d : UuidDir) v, newestVersion d.versions = some v ↔
      FirstGreatest VersionDir.lastWriteTimeUtc v d.versions := by
    intro d v
    rw [newestVersion_eq, List.argmax_eq_some_iff, FirstGreatest]
  constructor
  · intro h d hd v hv
    have hvd : v ∈ chosenVersion sortKey d := (hchosen d v).2 hv
    obtain ⟨hnull, hlong⟩ := (LoadAllAsync_returns_iff sortKey dir).1 h.returns
    refine ⟨(harmless_iff dir d v).2 ⟨hnull d hd v hvd, ?_⟩, h.newest d hd v hvd, ?_⟩
    · intro m hm
      apply hlong
      rw [validModules, List.mem_filterMap]
      refine ⟨d, hd, ?_⟩
      rw [Option.mem_def.1 hvd]
      exact hm
    · exact (hlast d v).1 ((reported_iff dir hd hv.1).1 (h.reported d hd v hvd))
  · intro h
    refine ⟨?_, ?_, ?_⟩
    · rw [LoadAllAsync_returns_iff]
      refine ⟨?_, ?_⟩
      · intro d hd v hv
        exact ((harmless_iff dir d v).1 (h d hd v ((hchosen d v).1 hv)).1).1
      · intro m hm
        rw [validModules, List.mem_filterMap] at hm
        obtain ⟨d, hd, hm⟩ := hm
        obtain ⟨v, hv, hm⟩ := Option.bind_eq_some_iff.1 hm
        exact ((harmless_iff dir d v).1 (h d hd v ((hchosen d v).1 hv)).1).2 m hm
    · intro d hd v hv
      exact (h d hd v ((hchosen d v).1 hv)).2.1
    · intro d hd v hv
      have hv' := (hchosen d v).1 hv
      exact (reported_iff dir hd hv'.1).2 ((hlast d v).2 (h d hd v hv').2.2)

/-- A version folder that holds no manifest yet. -/
def emptyVersion (name : String) (lastWriteTimeUtc : ℕ) : VersionDir :=
  ⟨name, lastWriteTimeUtc, .missing, .missing, none, none⟩

/-- One module with the versions `1.9.0` and, written later, `1.10.0`. -/
def tenthVersion : UuidDir where
  name := "0b0e4a52-8d5f-4f2e-9a53-3f3f5a1f7c11"
  versions := [emptyVersion "1.9.0" 1, emptyVersion "1.10.0" 2]
  distinct := by decide
  written := by decide

def tenthVersionDir : ModulesDir where
  path := "C:\\modules"
  contents := some [tenthVersion]
  distinct := by decide
  fileExists := fun _ => false

/-- **The tenth version is older than the ninth** as a string. -/
theorem tenthVersion_not_isolated : ¬ Isolated utf16 tenthVersionDir := by
  intro h
  have hchosen : emptyVersion "1.9.0" 1 ∈ chosenVersion utf16 tenthVersion := by decide +kernel
  have hle := h.newest tenthVersion List.mem_cons_self _ hchosen (emptyVersion "1.10.0" 2)
    (List.mem_cons_of_mem _ List.mem_cons_self)
  revert hle
  decide +kernel

end WKPairDriver.FaceTracking.Discovery
