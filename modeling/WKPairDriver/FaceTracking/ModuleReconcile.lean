import Mathlib

/-!
# The enabled modules against the modules directory

`ScanInstalledModules` walks `modules\<uuid>\<version>\manifest.json`.  A directory that cannot be
opened is an empty one to it, a manifest that cannot be looked up is absent, and a step of an
iterator or a look at an entry that fails throws.  `ReconcileEnabledModulesWithInstalled` takes what
it returns for all that is installed, and drops every other module from the enabled list.

* `reconcile_eq` — the list that is left, for whatever the scan has found.
* `scan_eq_none_iff`, `mem_scan_iff` — when the scan throws, and what it finds otherwise.
* `reconcile_iff` — the list is the one that the disk asks for exactly when the scan has found each
  installed module that is enabled or preferred, or has thrown at a list that was right already.
-/

set_option autoImplicit false

namespace WKPairDriver.FaceTracking.ModuleReconcile

/-! ## The modules directory -/

/-- An entry of a module's folder, with what fails when the scan comes to it. -/
structure VersionEntry where
  version : String
  isDirectory : Bool
  /-- `manifest.json` is in it. -/
  hasManifest : Bool
  /-- `is_directory()` throws. -/
  queryFails : Bool := false
  /-- `fs::exists` reports an error. -/
  existsFails : Bool := false
  /-- The step of the iterator behind the entry throws. -/
  advanceFails : Bool := false

/-- An entry of the modules directory. -/
structure ModuleEntry where
  name : String
  name_ne : name ≠ ""
  isDirectory : Bool
  versions : List VersionEntry
  queryFails : Bool := false
  /-- The iterator over the folder cannot be made. -/
  openFails : Bool := false
  advanceFails : Bool := false

/-- The modules directory. -/
structure ModulesDir where
  entries : List ModuleEntry
  /-- `FtDataDir` is empty. -/
  noDataDir : Bool := false
  openFails : Bool := false

/-- A version folder with a manifest. -/
def VersionEntry.Holds (v : VersionEntry) : Prop := v.isDirectory = true ∧ v.hasManifest = true

/-- The module's folder really holds a manifest. -/
def ModulesDir.OnDisk (dir : ModulesDir) (uuid : String) : Prop :=
  ∃ m ∈ dir.entries, m.name = uuid ∧ m.isDirectory = true ∧ ∃ v ∈ m.versions, v.Holds

/-! ## `ScanInstalledModules` -/

/-- `InstalledModule`: what the scan tells modules apart by. -/
structure InstalledModule where
  uuid : String
  version : String
  deriving DecidableEq

/-- The loop over a module's folder; `none` is an exception. -/
def scanVersions (uuid : String) : List VersionEntry → Option (List InstalledModule)
  | [] => some []
  | v :: rest =>
    if v.queryFails = true then none
    else
      -- an error of `fs::exists` reads as a manifest that is not there
      let found : List InstalledModule :=
        if v.isDirectory = true ∧ v.existsFails = false ∧ v.hasManifest = true then
          [⟨uuid, v.version⟩]
        else []
      if v.advanceFails = true then none else (scanVersions uuid rest).map (found ++ ·)

/-- The folder of one module: a folder that cannot be opened has no entries. -/
def scanModule (m : ModuleEntry) : Option (List InstalledModule) :=
  if m.queryFails = true then none
  else if m.isDirectory = false ∨ m.openFails = true then some []
  else scanVersions m.name m.versions

/-- The loop over the modules directory. -/
def scanEntries : List ModuleEntry → Option (List InstalledModule)
  | [] => some []
  | m :: rest =>
    match scanModule m with
    | none => none
    | some found =>
      if m.advanceFails = true then none else (scanEntries rest).map (found ++ ·)

/-- `ScanInstalledModules`. -/
def ScanInstalledModules (dir : ModulesDir) : Option (List InstalledModule) :=
  if dir.noDataDir = true ∨ dir.openFails = true then some [] else scanEntries dir.entries

/-! ## `ReconcileEnabledModulesWithInstalled` -/

/-- The enabled list afterwards, and whether it was saved and sent. -/
structure Outcome where
  enabled : List String
  sent : Bool
  deriving DecidableEq

/-- One round of the loop over the enabled list: `next` and `changed`. -/
def reconcileStep (installedUuids : List String) (s : List String × Bool) (uuid : String) :
    List String × Bool :=
  if uuid ∉ installedUuids then (s.1, true)
  else if uuid ∉ s.1 then (s.1 ++ [uuid], s.2)
  else (s.1, true)

/-- What becomes of the enabled list once the scan has returned. -/
def reconcileWith (installed : List InstalledModule) (preferred : String)
    (current : List String) : Outcome :=
  let installedUuids := (installed.map InstalledModule.uuid).filter fun u => decide (u ≠ "")
  let s := current.foldl (reconcileStep installedUuids) ([], false)
  if preferred ≠ "" ∧ preferred ∈ installedUuids then
    if preferred ∉ s.1 then ⟨preferred :: s.1, true⟩
    else if s.2 = true ∨ s.1.head? = some preferred then ⟨s.1, true⟩
    else ⟨current, false⟩
  else if s.2 = true then ⟨s.1, true⟩
  else ⟨current, false⟩

/-- `ReconcileEnabledModulesWithInstalled`; an exception of the scan leaves the list. -/
def ReconcileEnabledModulesWithInstalled (dir : ModulesDir) (preferred : String)
    (current : List String) : Outcome :=
  match ScanInstalledModules dir with
  | none => ⟨current, false⟩
  | some installed => reconcileWith installed preferred current

/-! ## What the list should be -/

/-- The list without what `p` refuses and without repetitions, the preferred module in front of it
    unless it is in it. -/
def reconciled (p : String → Prop) [DecidablePred p] (preferred : String)
    (current : List String) : List String :=
  let kept := (current.filter fun u => decide (p u)).eraseDups
  if preferred ≠ "" ∧ p preferred ∧ preferred ∉ kept then preferred :: kept else kept

instance : DecidablePred VersionEntry.Holds := fun _ => inferInstanceAs (Decidable (_ ∧ _))

instance (dir : ModulesDir) : DecidablePred dir.OnDisk := fun uuid =>
  inferInstanceAs (Decidable (∃ m ∈ dir.entries, m.name = uuid ∧ m.isDirectory = true ∧
    ∃ v ∈ m.versions, v.Holds))

theorem mem_reconciled {p : String → Prop} [DecidablePred p] {preferred u : String}
    {current : List String} : u ∈ reconciled p preferred current ↔
      p u ∧ (u ∈ current ∨ (u = preferred ∧ u ≠ "")) := by
  simp only [reconciled]
  split
  next h =>
    rw [List.mem_cons, List.mem_eraseDups, List.mem_filter, decide_eq_true_eq]
    constructor
    · rintro (rfl | ⟨hmem, hp⟩)
      · exact ⟨h.2.1, .inr ⟨rfl, h.1⟩⟩
      · exact ⟨hp, .inl hmem⟩
    · rintro ⟨hp, hmem | ⟨rfl, -⟩⟩
      · exact .inr ⟨hmem, hp⟩
      · exact .inl rfl
  next h =>
    rw [List.mem_eraseDups, List.mem_filter, decide_eq_true_eq]
    constructor
    · exact fun ⟨hmem, hp⟩ => ⟨hp, .inl hmem⟩
    · rintro ⟨hp, hmem | ⟨rfl, hne⟩⟩
      · exact ⟨hmem, hp⟩
      · by_contra hnot
        refine h ⟨hne, hp, fun hk => hnot ?_⟩
        rwa [List.mem_eraseDups, List.mem_filter, decide_eq_true_eq] at hk

/-- Two predicates leave the same list exactly when they agree on its modules and on the preferred
    one, if one of them implies the other. -/
theorem reconciled_eq_iff {p q : String → Prop} [DecidablePred p] [DecidablePred q]
    (hpq : ∀ u, p u → q u) (preferred : String) (current : List String) :
    reconciled p preferred current = reconciled q preferred current ↔
      ∀ u, (u ∈ current ∨ (u = preferred ∧ u ≠ "")) → q u → p u := by
  constructor
  · intro h u hu hq
    have hmem : u ∈ reconciled q preferred current := mem_reconciled.2 ⟨hq, hu⟩
    rw [← h] at hmem
    exact (mem_reconciled.1 hmem).1
  · intro h
    have hkept : (current.filter fun u => decide (p u)) = current.filter fun u => decide (q u) :=
      List.filter_congr fun u hu => decide_eq_decide.2 ⟨hpq u, h u (.inl hu)⟩
    have hpref : preferred ≠ "" → (p preferred ↔ q preferred) :=
      fun hne => ⟨hpq preferred, h preferred (.inr ⟨rfl, hne⟩)⟩
    simp only [reconciled, hkept]
    refine if_congr ?_ rfl rfl
    exact and_congr_right fun hne => and_congr_left fun _ => hpref hne

/-! ## The loop over the enabled list -/

theorem foldl_reconcileStep (ids current : List String) :
    (current.foldl (reconcileStep ids) ([], false)).1 =
        (current.filter fun u => decide (u ∈ ids)).eraseDups ∧
      ((current.foldl (reconcileStep ids) ([], false)).2 = false →
        (current.foldl (reconcileStep ids) ([], false)).1 = current) := by
  induction current using List.reverseRecOn with
  | nil => exact ⟨rfl, fun _ => rfl⟩
  | append_singleton current u ih =>
    obtain ⟨hnext, hsame⟩ := ih
    have hmem : u ∈ (current.foldl (reconcileStep ids) ([], false)).1 ↔ u ∈ current ∧ u ∈ ids := by
      rw [hnext, List.mem_eraseDups, List.mem_filter, decide_eq_true_eq]
    rw [List.foldl_concat, List.filter_append, List.eraseDups_append, ← hnext]
    generalize current.foldl (reconcileStep ids) ([], false) = s at hnext hsame hmem ⊢
    by_cases hid : u ∈ ids
    · by_cases hin : u ∈ current
      · have hs := hmem.2 ⟨hin, hid⟩
        simp [reconcileStep, hid, hs, hin, List.removeAll]
      · have hs : u ∉ s.1 := fun h => hin (hmem.1 h).1
        refine ⟨?_, ?_⟩
        · simp [reconcileStep, hid, hs, hin, List.removeAll, List.eraseDups_cons]
        · simp only [reconcileStep, hid, hs, not_true, not_false_iff, if_true, if_false]
          intro h
          rw [hsame h]
    · simp [reconcileStep, hid]

/-- **The list that is left**, for whatever has been found. -/
theorem reconcileWith_eq (installed : List InstalledModule) (preferred : String)
    (current : List String) :
    (reconcileWith installed preferred current).enabled =
      reconciled (fun u => u ∈ (installed.map InstalledModule.uuid).filter fun u => decide (u ≠ ""))
        preferred current := by
  simp only [reconcileWith, reconciled]
  generalize ((installed.map InstalledModule.uuid).filter fun u => decide (u ≠ "")) = ids
  obtain ⟨hnext, hsame⟩ := foldl_reconcileStep ids current
  rw [← hnext]
  generalize current.foldl (reconcileStep ids) ([], false) = s at hsame ⊢
  by_cases hp : preferred ≠ "" ∧ preferred ∈ ids
  · rw [if_pos hp]
    by_cases hmem : preferred ∈ s.1
    · have hright : ¬ (preferred ≠ "" ∧ preferred ∈ ids ∧ preferred ∉ s.1) := fun h => h.2.2 hmem
      rw [if_neg (not_not.2 hmem), if_neg hright]
      split
      next => rfl
      next h =>
        rw [not_or] at h
        exact (hsame (Bool.eq_false_iff.2 h.1)).symm
    · rw [if_pos hmem, if_pos ⟨hp.1, hp.2, hmem⟩]
  · have hright : ¬ (preferred ≠ "" ∧ preferred ∈ ids ∧ preferred ∉ s.1) :=
      fun h => hp ⟨h.1, h.2.1⟩
    rw [if_neg hp, if_neg hright]
    split
    next => rfl
    next h => exact (hsame (Bool.eq_false_iff.2 h)).symm

/-! ## What the scan finds -/

/-- A step of the loop over a module's folder throws. -/
def VersionEntry.Throws (v : VersionEntry) : Prop := v.queryFails = true ∨ v.advanceFails = true

/-- The look at the manifest works, and it is there. -/
def VersionEntry.Seen (v : VersionEntry) : Prop := v.Holds ∧ v.existsFails = false

/-- The scan of a module's folder throws, or the step behind it. -/
def ModuleEntry.Throws (m : ModuleEntry) : Prop :=
  m.queryFails = true ∨ m.advanceFails = true ∨
    m.isDirectory = true ∧ m.openFails = false ∧ ∃ v ∈ m.versions, v.Throws

/-- The module's folder can be opened, and one of its manifests is seen. -/
def ModuleEntry.Seen (m : ModuleEntry) : Prop :=
  m.isDirectory = true ∧ m.openFails = false ∧ ∃ v ∈ m.versions, v.Seen

/-- The scan throws. -/
def ModulesDir.Throws (dir : ModulesDir) : Prop :=
  dir.noDataDir = false ∧ dir.openFails = false ∧ ∃ m ∈ dir.entries, m.Throws

/-- The modules directory can be opened, and a manifest of the module is seen. -/
def ModulesDir.Seen (dir : ModulesDir) (uuid : String) : Prop :=
  dir.noDataDir = false ∧ dir.openFails = false ∧ ∃ m ∈ dir.entries, m.name = uuid ∧ m.Seen

theorem scanVersions_eq_none_iff (uuid : String) (versions : List VersionEntry) :
    scanVersions uuid versions = none ↔ ∃ v ∈ versions, v.Throws := by
  induction versions with
  | nil => simp [scanVersions]
  | cons v rest ih =>
    simp only [scanVersions, List.exists_mem_cons_iff, VersionEntry.Throws]
    split
    next h => simp [h]
    next h =>
      split
      next h' => simp [h']
      next h' =>
        rw [Option.map_eq_none_iff, ih]
        simp [h, h', VersionEntry.Throws]

theorem mem_scanVersions_iff {uuid : String} {versions : List VersionEntry}
    {found : List InstalledModule} (h : scanVersions uuid versions = some found) (u : String) :
    u ∈ found.map InstalledModule.uuid ↔ u = uuid ∧ ∃ v ∈ versions, v.Seen := by
  induction versions generalizing found with
  | nil =>
    obtain rfl := Option.some.inj h
    simp
  | cons v rest ih =>
    simp only [scanVersions] at h
    split at h
    next => cases h
    next =>
      split at h
      next => cases h
      next =>
        obtain ⟨tail, htail, rfl⟩ := Option.map_eq_some_iff.1 h
        rw [List.map_append, List.mem_append, ih htail, List.exists_mem_cons_iff]
        have hseen : v.Seen ↔
            v.isDirectory = true ∧ v.existsFails = false ∧ v.hasManifest = true := by
          simp only [VersionEntry.Seen, VersionEntry.Holds]
          tauto
        by_cases hv : v.Seen
        · simp only [hseen.1 hv, hv, and_self, if_true, List.map_cons, List.map_nil,
            List.mem_singleton, true_or, and_true]
          exact ⟨fun h => h.elim id And.left, .inl⟩
        · simp [hv, mt hseen.2 hv]

theorem scanModule_eq_none_iff (m : ModuleEntry) :
    scanModule m = none ↔ m.queryFails = true ∨
      m.isDirectory = true ∧ m.openFails = false ∧ ∃ v ∈ m.versions, v.Throws := by
  rw [scanModule]
  split
  next h => simp [h]
  next h =>
    split
    next h' => rcases h' with h' | h' <;> simp [h, h']
    next h' =>
      rw [not_or, Bool.not_eq_false, Bool.not_eq_true] at h'
      rw [scanVersions_eq_none_iff]
      simp [h, h']

theorem mem_scanModule_iff {m : ModuleEntry} {found : List InstalledModule}
    (h : scanModule m = some found) (u : String) :
    u ∈ found.map InstalledModule.uuid ↔ m.name = u ∧ m.Seen := by
  rw [scanModule] at h
  split at h
  next => cases h
  next =>
    split at h
    next h' =>
      obtain rfl := Option.some.inj h
      rcases h' with h' | h' <;> simp [ModuleEntry.Seen, h']
    next h' =>
      rw [not_or, Bool.not_eq_false, Bool.not_eq_true] at h'
      rw [mem_scanVersions_iff h, ModuleEntry.Seen, eq_comm (a := u)]
      simp [h']

theorem scanEntries_eq_none_iff (entries : List ModuleEntry) :
    scanEntries entries = none ↔ ∃ m ∈ entries, m.Throws := by
  induction entries with
  | nil => simp [scanEntries]
  | cons m rest ih =>
    rw [scanEntries, List.exists_mem_cons_iff, ModuleEntry.Throws]
    have hm := scanModule_eq_none_iff m
    cases hscan : scanModule m with
    | none =>
      dsimp only
      rcases hm.1 hscan with h | h
      · exact ⟨fun _ => .inl (.inl h), fun _ => rfl⟩
      · exact ⟨fun _ => .inl (.inr (.inr h)), fun _ => rfl⟩
    | some found =>
      have hnot : ¬ (m.queryFails = true ∨
          m.isDirectory = true ∧ m.openFails = false ∧ ∃ v ∈ m.versions, v.Throws) :=
        fun h => by rw [hm.2 h] at hscan; cases hscan
      dsimp only
      split
      next hadv => simp [hadv]
      next hadv =>
        rw [not_or] at hnot
        rw [Option.map_eq_none_iff, ih]
        simp [hnot, hadv]

theorem mem_scanEntries_iff {entries : List ModuleEntry} {found : List InstalledModule}
    (h : scanEntries entries = some found) (u : String) :
    u ∈ found.map InstalledModule.uuid ↔ ∃ m ∈ entries, m.name = u ∧ m.Seen := by
  induction entries generalizing found with
  | nil =>
    obtain rfl := Option.some.inj h
    simp
  | cons m rest ih =>
    rw [scanEntries] at h
    split at h
    next => cases h
    next first hscan =>
      split at h
      next => cases h
      next =>
        obtain ⟨tail, htail, rfl⟩ := Option.map_eq_some_iff.1 h
        rw [List.map_append, List.mem_append, mem_scanModule_iff hscan, ih htail,
          List.exists_mem_cons_iff]

/-- When the scan throws. -/
theorem scan_eq_none_iff (dir : ModulesDir) : ScanInstalledModules dir = none ↔ dir.Throws := by
  rw [ScanInstalledModules, ModulesDir.Throws]
  split
  next h => rcases h with h | h <;> simp [h]
  next h =>
    rw [not_or, Bool.not_eq_true, Bool.not_eq_true] at h
    rw [scanEntries_eq_none_iff]
    simp [h]

/-- What the scan finds. -/
theorem mem_scan_iff {dir : ModulesDir} {found : List InstalledModule}
    (h : ScanInstalledModules dir = some found) (u : String) :
    u ∈ found.map InstalledModule.uuid ↔ dir.Seen u := by
  rw [ScanInstalledModules] at h
  split at h
  next h' =>
    obtain rfl := Option.some.inj h
    rcases h' with h' | h' <;> simp [ModulesDir.Seen, h']
  next h' =>
    rw [not_or, Bool.not_eq_true, Bool.not_eq_true] at h'
    rw [mem_scanEntries_iff h, ModulesDir.Seen]
    simp [h']

theorem onDisk_of_seen {dir : ModulesDir} {u : String} (h : dir.Seen u) : dir.OnDisk u := by
  obtain ⟨-, -, m, hm, rfl, hdir, -, v, hv, hseen, -⟩ := h
  exact ⟨m, hm, rfl, hdir, v, hv, hseen⟩

theorem ne_of_seen {dir : ModulesDir} {u : String} (h : dir.Seen u) : u ≠ "" := by
  obtain ⟨-, -, m, -, rfl, -⟩ := h
  exact m.name_ne

/-! ## The enabled list against the disk -/

/-- **The enabled list is the one the disk asks for** exactly when the scan has seen every
    installed module that is enabled or preferred, or has thrown at a list that was right. -/
theorem reconcile_iff (dir : ModulesDir) (preferred : String) (current : List String) :
    (ReconcileEnabledModulesWithInstalled dir preferred current).enabled =
        reconciled dir.OnDisk preferred current ↔
      (dir.Throws → current = reconciled dir.OnDisk preferred current) ∧
        (¬ dir.Throws → ∀ u, (u ∈ current ∨ (u = preferred ∧ u ≠ "")) → dir.OnDisk u →
          dir.Seen u) := by
  rw [ReconcileEnabledModulesWithInstalled]
  cases hscan : ScanInstalledModules dir with
  | none =>
    have hthrows := (scan_eq_none_iff dir).1 hscan
    simp [hthrows]
  | some found =>
    have hnot : ¬ dir.Throws := fun h => by
      rw [(scan_eq_none_iff dir).2 h] at hscan
      cases hscan
    have hseen : ∀ u, u ∈ (found.map InstalledModule.uuid).filter (fun u => decide (u ≠ "")) ↔
        dir.Seen u := by
      intro u
      rw [List.mem_filter, decide_eq_true_eq, mem_scan_iff hscan]
      exact and_iff_left_of_imp ne_of_seen
    rw [reconcileWith_eq, reconciled_eq_iff fun u hu => onDisk_of_seen ((hseen u).1 hu)]
    simp only [hseen, hnot, false_imp_iff, not_false_iff, true_imp_iff, true_and]

/-- A folder that cannot be opened for a moment: its module is dropped from the list. -/
theorem locked_folder_drops :
    (ReconcileEnabledModulesWithInstalled
        ⟨[⟨"a1", by decide, true, [⟨"1.0", true, true, false, false, false⟩], false, true, false⟩,
          ⟨"b2", by decide, true, [⟨"2.1", true, true, false, false, false⟩], false, false,
            false⟩], false, false⟩ "b2" ["a1", "b2"]).enabled ≠
      reconciled (ModulesDir.OnDisk
        ⟨[⟨"a1", by decide, true, [⟨"1.0", true, true, false, false, false⟩], false, true, false⟩,
          ⟨"b2", by decide, true, [⟨"2.1", true, true, false, false, false⟩], false, false,
            false⟩], false, false⟩) "b2" ["a1", "b2"] := by
  decide

end WKPairDriver.FaceTracking.ModuleReconcile
