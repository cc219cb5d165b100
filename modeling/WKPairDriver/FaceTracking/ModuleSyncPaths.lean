import Mathlib
import WKPairDriver.Lib.Path
import WKPairDriver.FaceTracking.RegistrySync

/-!
# Where `face-module-sync.ps1` writes

A module is installed to the folder `uuid\version` below the modules directory, with the two names
as its manifest has them.  A source is removed by deleting the version folders that name it in
their `source.json`, and then the module folders without versions.

* `Op.run`, `sync` — the file operations of an install from each kind of source.
* `removal` — what a removal deletes.
* `Confined` — a path that is touched is where modules go.
* `sync_confined_iff`, `removal_removable_iff` — the inputs for which every touched path is.
* `inside_of_plain` — names without separators and dots are harmless.

Names are in the form in which Windows compares them.
-/

set_option autoImplicit false

namespace WKPairDriver.FaceTracking.ModuleSync

open Lib RegistrySync

/-! ## Disk -/

inductive Node where
  | dir
  | file (content : String)
deriving DecidableEq

/-- The newest entry of a path counts. -/
structure Disk where
  entries : List (Path × Node)

namespace Disk

variable (disk : Disk)

def node (p : Path) : Option Node := (disk.entries.find? fun e => e.1 = p).map Prod.snd

/-- `Test-Path` -/
def has (p : Path) : Bool := (disk.node p).isSome

def add (p : Path) (n : Node) : Disk := ⟨(p, n) :: disk.entries⟩

/-- The names of `Get-ChildItem -Directory`. -/
def subdirs (p : Path) : List String :=
  (disk.entries.filterMap fun e =>
    if e.1.dropLast = p ∧ disk.node e.1 = some .dir then e.1.getLast? else none).dedup

/-- What `Remove-Item -Recurse` deletes. -/
def tree (p : Path) : List Path := (disk.entries.map Prod.fst).filter fun q => p <+: q

end Disk

/-! ## Operations -/

inductive Touch where
  | made (p : Path)
  | wrote (p : Path)
deriving DecidableEq

/-- The disk, and what was touched so far. -/
structure Run where
  disk : Disk
  touched : List Touch

inductive Op where
  | newDir (p : Path)
  | write (p : Path) (content : String)

def Run.make (s : Run) (p : Path) : Run :=
  if s.disk.has p then s else ⟨s.disk.add p .dir, s.touched ++ [.made p]⟩

/-- A folder is made with all folders above it. -/
def Op.run (s : Run) : Op → Run
  | .newDir p => p.inits.foldl Run.make s
  | .write p content => ⟨s.disk.add p (.file content), s.touched ++ [.wrote p]⟩

/-- An entry of the source folder, copied below `dest`. -/
def copyOp (dest : Path) (i : Item) : Op :=
  match i.content with
  | none => .newDir (resolve dest i.path)
  | some content => .write (resolve dest i.path) content

/-- `Copy-ModuleFolder`; `Get-FtModulesDir` makes the modules directory. -/
def copyOps (modsDir dest : Path) (items : List Item) (sourceInfo : String) : List Op :=
  .newDir modsDir :: .newDir dest :: items.map (copyOp dest) ++
    [.write (dest ++ [sourceJson]) sourceInfo]

def registryOps (dest : Path) (items : List Item) (m : Manifest) (sourceInfo : String) : List Op :=
  .newDir dest :: items.map (copyOp dest) ++
    [.write (dest ++ [manifestJson]) m.json, .write (dest ++ [sourceJson]) sourceInfo]

/-! ## Sources -/

/-- A module folder that is to be copied, with the names in its manifest. -/
structure Module where
  uuid : String
  version : String
  items : List Item

/-- A release and the module in its archive, if there is one with a manifest. -/
structure Release where
  tag_name : String
  content : Option Module

inductive Source where
  /-- The folder's module, if it has a manifest. -/
  | folder (content : Option Module)
  /-- `last_release_tag` is given for an update. -/
  | github (last_release_tag : Option String) (release : Release)
  | registry (r : Registry)

/-- The module that is to be copied from a folder or a release. -/
def Source.module? : Source → Option Module
  | .folder content => content.filter fun m => m.uuid ≠ "" ∧ m.version ≠ ""
  | .github lastTag release =>
    if lastTag.map String.toLower = some release.tag_name.toLower then none
    else release.content.filter fun m => m.uuid ≠ "" ∧ m.version ≠ ""
  | .registry _ => none

/-- How the work on one module ends: before anything is written to its folder, or after some of
    the operations; and whether that is the end of the script. -/
structure Fault where
  early : Bool
  done : ℕ
  stops : Bool

variable (modsDir : Path) (sourceInfo : String)

/-- `Join-Path $modsDir "$uuid\$version"` -/
def destPath (d : Dest) : Path := resolve modsDir (d.uuid ++ "\\" ++ d.version)

def installed (s : Run) (d : Dest) : Bool := s.disk.has (destPath modsDir d ++ [manifestJson])

def attempt (s : Run) (fault : Fault) (ops : List Op) : Run :=
  if fault.early then s else (ops.take fault.done).foldl Op.run s

/-- The entries of a registry's index; the `n`th one from here on meets `faults n`. -/
def syncEntries (r : Registry) : List Entry → (ℕ → Fault) → Run → Run
  | [], _, s => s
  | e :: rest, faults, s =>
    let next := fun n => faults (n + 1)
    if e.uuid = "" ∨ e.version = "" then syncEntries r rest next s
    else if installed modsDir s ⟨e.uuid, e.version⟩ then syncEntries r rest next s
    else
      let d := destOf r e
      let m := r.manifest e.uuid
      if d ≠ ⟨e.uuid, e.version⟩ ∧ installed modsDir s d then syncEntries r rest next s
      else if m.expectedSha ≠ "" ∧ (r.zip d).sha256 ≠ m.expectedSha then
        syncEntries r rest next s
      else
        let s' := attempt s (faults 0)
          (registryOps (destPath modsDir d) (r.zip d).items m sourceInfo)
        if (faults 0).stops then s' else syncEntries r rest next s'

/-- The registry's branch has the modules directory made first. -/
def opened (disk : Disk) : Run := (Op.newDir modsDir).run ⟨disk, []⟩

/-- One run of the script that installs from a source. -/
def sync (source : Source) (faults : ℕ → Fault) (disk : Disk) : Run :=
  match source with
  | .registry r => syncEntries modsDir sourceInfo r r.index faults (opened modsDir disk)
  | other =>
    match other.module? with
    | none => ⟨disk, []⟩
    | some m => attempt ⟨disk, []⟩ (faults 0)
        (copyOps modsDir (destPath modsDir ⟨m.uuid, m.version⟩) m.items sourceInfo)

/-! ## Where a sync may write -/

/-- A folder is on the way to the modules directory or below it, a file is in a version folder. -/
def Confined : Touch → Prop
  | .made p => p <+: modsDir ∨ modsDir <+: p
  | .wrote p => modsDir <+: p ∧ modsDir.length + 3 ≤ p.length

instance : DecidablePred (Confined modsDir)
  | .made p => inferInstanceAs (Decidable (p <+: modsDir ∨ modsDir <+: p))
  | .wrote p => inferInstanceAs (Decidable (modsDir <+: p ∧ modsDir.length + 3 ≤ p.length))

/-- The folder is two levels below the modules directory, or deeper. -/
def Inside (dest : Path) : Prop := modsDir <+: dest ∧ modsDir.length + 2 ≤ dest.length

/-- What is copied comes from below the source folder. -/
def Item.Below (i : Item) : Prop := ∀ dest, ∃ rest, rest ≠ [] ∧ resolve dest i.path = dest ++ rest

def Source.ItemsBelow : Source → Prop
  | .registry r => ∀ d, ∀ i ∈ (r.zip d).items, Item.Below i
  | other => ∀ m, other.module? = some m → ∀ i ∈ m.items, Item.Below i

/-- Every module that is to be installed goes two levels below the modules directory. -/
def SafeSource (disk : Disk) : Source → Prop
  | .registry r => ∀ e ∈ r.index, Installable r e →
      ¬ installed modsDir (opened modsDir disk) ⟨e.uuid, e.version⟩ →
      ¬ installed modsDir (opened modsDir disk) (destOf r e) →
      Inside modsDir (destPath modsDir (destOf r e))
  | other => ∀ m, other.module? = some m → Inside modsDir (destPath modsDir ⟨m.uuid, m.version⟩)

/-! ## Operations that stay inside -/

def OpConfined : Op → Prop
  | .newDir p => p <+: modsDir ∨ modsDir <+: p
  | .write p _ => Confined modsDir (.wrote p)

/-- Everything touched since `s₀` is confined, and nothing that was there is gone. -/
structure Kept (s₀ s : Run) : Prop where
  touched : ∀ t ∈ s.touched, t ∈ s₀.touched ∨ Confined modsDir t
  has : ∀ p, s₀.disk.has p → s.disk.has p

variable {modsDir} {sourceInfo}

theorem Kept.refl (s : Run) : Kept modsDir s s := ⟨fun _ ht => .inl ht, fun _ h => h⟩

theorem Kept.trans {s₀ s₁ s₂ : Run} (h₁ : Kept modsDir s₀ s₁) (h₂ : Kept modsDir s₁ s₂) :
    Kept modsDir s₀ s₂ where
  touched t ht := by
    rcases h₂.touched t ht with hold | hnew
    · exact h₁.touched t hold
    · exact .inr hnew
  has p hp := h₂.has p (h₁.has p hp)

theorem Disk.has_add {disk : Disk} {p q : Path} (n : Node) (h : disk.has q) :
    (disk.add p n).has q := by
  unfold Disk.has Disk.node Disk.add
  by_cases hpq : p = q
  · simp [hpq]
  · simpa [Disk.has, Disk.node, hpq] using h

theorem Run.make_kept (s : Run) {p : Path} (h : Confined modsDir (.made p)) :
    Kept modsDir s (s.make p) := by
  unfold Run.make
  split
  · exact .refl s
  · refine ⟨fun t ht => ?_, fun q hq => Disk.has_add _ hq⟩
    rcases List.mem_append.1 ht with hold | hnew
    · exact .inl hold
    · exact .inr (List.mem_singleton.1 hnew ▸ h)

theorem Op.run_kept (s : Run) {op : Op} (h : OpConfined modsDir op) :
    Kept modsDir s (op.run s) := by
  cases op with
  | newDir p =>
    have hfold : ∀ (qs : List Path), (∀ q ∈ qs, q <+: p) → ∀ s : Run,
        Kept modsDir s (qs.foldl Run.make s) := by
      intro qs
      induction qs with
      | nil => exact fun _ s => .refl s
      | cons q qs ih =>
        intro hqs s
        have hq := hqs q List.mem_cons_self
        have hconfined : Confined modsDir (.made q) := by
          rcases h with hp | hp
          · exact .inl (hq.trans hp)
          · exact List.prefix_or_prefix_of_prefix hq hp
        exact (s.make_kept hconfined).trans
          (ih (fun q' hq' => hqs q' (List.mem_cons_of_mem _ hq')) _)
    exact hfold _ (fun q hq => (List.mem_inits q p).1 hq) s
  | write p content =>
    refine ⟨fun t ht => ?_, fun q hq => Disk.has_add _ hq⟩
    rcases List.mem_append.1 ht with hold | hnew
    · exact .inl hold
    · exact .inr (List.mem_singleton.1 hnew ▸ h)

theorem foldl_run_kept {ops : List Op} (h : ∀ op ∈ ops, OpConfined modsDir op) (s : Run) :
    Kept modsDir s (ops.foldl Op.run s) := by
  induction ops generalizing s with
  | nil => exact .refl s
  | cons op ops ih =>
    exact (op.run_kept s (h op List.mem_cons_self)).trans
      (ih (fun op' hop' => h op' (List.mem_cons_of_mem _ hop')) _)

theorem attempt_kept {ops : List Op} (h : ∀ op ∈ ops, OpConfined modsDir op) (s : Run)
    (fault : Fault) : Kept modsDir s (attempt s fault ops) := by
  unfold attempt
  split
  · exact .refl s
  · exact foldl_run_kept (fun op hop => h op (List.mem_of_mem_take hop)) s

/-- A file right below a version folder, or deeper. -/
theorem Inside.wrote {dest rest : Path} (h : Inside modsDir dest) (hrest : rest ≠ []) :
    Confined modsDir (.wrote (dest ++ rest)) := by
  refine ⟨h.1.trans (List.prefix_append _ _), ?_⟩
  have hlen := h.2
  have hpos := List.length_pos_iff.2 hrest
  rw [List.length_append]
  omega

theorem copyOp_confined {dest : Path} (h : Inside modsDir dest) {i : Item} (hi : Item.Below i) :
    OpConfined modsDir (copyOp dest i) := by
  obtain ⟨rest, hne, hrest⟩ := hi dest
  unfold copyOp
  rw [hrest]
  cases i.content with
  | none => exact .inr (h.1.trans (List.prefix_append _ _))
  | some content => exact h.wrote hne

theorem copyOps_confined (sourceInfo : String) {dest : Path} (h : Inside modsDir dest)
    {items : List Item} (hitems : ∀ i ∈ items, Item.Below i) :
    ∀ op ∈ copyOps modsDir dest items sourceInfo, OpConfined modsDir op := by
  intro op hop
  simp only [copyOps, List.cons_append, List.mem_cons, List.mem_append, List.mem_map,
    List.not_mem_nil, or_false] at hop
  rcases hop with rfl | rfl | ⟨i, hi, rfl⟩ | rfl
  · exact .inl (List.prefix_refl _)
  · exact .inr h.1
  · exact copyOp_confined h (hitems i hi)
  · exact h.wrote (List.cons_ne_nil _ _)

theorem registryOps_confined (sourceInfo : String) {dest : Path} (h : Inside modsDir dest)
    {items : List Item} (hitems : ∀ i ∈ items, Item.Below i) (m : Manifest) :
    ∀ op ∈ registryOps dest items m sourceInfo, OpConfined modsDir op := by
  intro op hop
  simp only [registryOps, List.cons_append, List.mem_cons, List.mem_append, List.mem_map,
    List.not_mem_nil, or_false] at hop
  rcases hop with rfl | ⟨i, hi, rfl⟩ | rfl | rfl
  · exact .inr h.1
  · exact copyOp_confined h (hitems i hi)
  · exact h.wrote (List.cons_ne_nil _ _)
  · exact h.wrote (List.cons_ne_nil _ _)

/-! ## A sync -/

theorem installed_of_kept {s₀ s : Run} (h : Kept modsDir s₀ s) {d : Dest}
    (hd : installed modsDir s₀ d) : installed modsDir s d := h.has _ hd

theorem installable_of_hash {r : Registry} {e : Entry} (hnames : ¬ (e.uuid = "" ∨ e.version = ""))
    (hhash : ¬ ((r.manifest e.uuid).expectedSha ≠ "" ∧
      (r.zip (destOf r e)).sha256 ≠ (r.manifest e.uuid).expectedSha)) : Installable r e := by
  obtain ⟨huuid, hversion⟩ := not_or.1 hnames
  refine ⟨huuid, hversion, ?_⟩
  by_cases hempty : (r.manifest e.uuid).expectedSha = ""
  · exact .inl hempty
  · exact .inr (not_not.1 fun hne => hhash ⟨hempty, hne⟩)

/-- One entry after the other, each of which is installed already or goes inside. -/
theorem syncEntries_kept (sourceInfo : String) {r : Registry}
    (hitems : ∀ d, ∀ i ∈ (r.zip d).items, Item.Below i) {s₀ : Run} : ∀ (entries : List Entry) (faults : ℕ → Fault) (s : Run), Kept modsDir s₀ s →
      (∀ e ∈ entries, Installable r e → ¬ installed modsDir s₀ ⟨e.uuid, e.version⟩ →
        ¬ installed modsDir s₀ (destOf r e) → Inside modsDir (destPath modsDir (destOf r e))) →
      Kept modsDir s₀ (syncEntries modsDir sourceInfo r entries faults s)
  | [], _, s, hs, _ => hs
  | e :: rest, faults, s, hs, h => by
    have hrest : ∀ s', Kept modsDir s₀ s' → Kept modsDir s₀
        (syncEntries modsDir sourceInfo r rest (fun n => faults (n + 1)) s') := fun s' hs' =>
      syncEntries_kept sourceInfo hitems rest _ s' hs' fun e' he' => h e' (List.mem_cons_of_mem _ he')
    unfold syncEntries
    dsimp only
    split
    · exact hrest s hs
    rename_i hnames
    split
    · exact hrest s hs
    rename_i hmarked
    split
    · exact hrest s hs
    rename_i hother
    split
    · exact hrest s hs
    rename_i hhash
    have hdest : Inside modsDir (destPath modsDir (destOf r e)) := by
      apply h e List.mem_cons_self (installable_of_hash hnames hhash)
      · exact fun hd => hmarked (installed_of_kept hs hd)
      · intro hd
        have hd' := installed_of_kept hs hd
        by_cases hsame : destOf r e = ⟨e.uuid, e.version⟩
        · exact hmarked (hsame ▸ hd')
        · exact hother ⟨hsame, hd'⟩
    have hnext := hs.trans (attempt_kept (registryOps_confined sourceInfo hdest
      (hitems (destOf r e)) (r.manifest e.uuid)) s (faults 0))
    split
    · exact hnext
    · exact hrest _ hnext

theorem Run.make_touched (s : Run) (p : Path) : s.touched ⊆ (s.make p).touched := by
  unfold Run.make
  split
  · exact List.Subset.refl _
  · exact List.subset_append_left _ _

theorem Op.run_touched (s : Run) (op : Op) : s.touched ⊆ (op.run s).touched := by
  cases op with
  | newDir p =>
    have hfold : ∀ (qs : List Path) (s : Run), s.touched ⊆ (qs.foldl Run.make s).touched := by
      intro qs
      induction qs with
      | nil => exact fun s => List.Subset.refl _
      | cons q qs ih => exact fun s => List.Subset.trans (s.make_touched q) (ih _)
    exact hfold _ s
  | write p content => exact List.subset_append_left _ _

theorem foldl_run_touched (ops : List Op) (s : Run) :
    s.touched ⊆ (ops.foldl Op.run s).touched := by
  induction ops generalizing s with
  | nil => exact List.Subset.refl _
  | cons op ops ih => exact List.Subset.trans (op.run_touched s) (ih _)

/-- A file that is written is logged. -/
theorem mem_touched_of_write {ops : List Op} {p : Path} {content : String}
    (h : Op.write p content ∈ ops) (s : Run) : Touch.wrote p ∈ (ops.foldl Op.run s).touched := by
  obtain ⟨before, after, rfl⟩ := List.append_of_mem h
  rw [List.foldl_append, List.foldl_cons]
  apply foldl_run_touched
  exact List.mem_append_right _ List.mem_cons_self

/-- An attempt that comes to its end. -/
def Fault.atEnd (ops : List Op) : Fault := ⟨false, ops.length, true⟩

theorem attempt_atEnd (s : Run) (ops : List Op) :
    attempt s (Fault.atEnd ops) ops = ops.foldl Op.run s := by
  simp [attempt, Fault.atEnd]

/-- An attempt that ends before anything is written. -/
def Fault.atOnce : Fault := ⟨true, 0, false⟩

/-- Entries whose work fails early leave everything as it was. -/
theorem syncEntries_early (r : Registry) (rest : List Entry) (s : Run) :
    ∀ (before : List Entry) (faults : ℕ → Fault),
      (∀ n, n < before.length → faults n = Fault.atOnce) →
      syncEntries modsDir sourceInfo r (before ++ rest) faults s =
        syncEntries modsDir sourceInfo r rest (fun n => faults (n + before.length)) s
  | [], _, _ => rfl
  | e :: before, faults, h => by
    have hrest := syncEntries_early r rest s before (fun n => faults (n + 1))
      fun n hn => h (n + 1) (Nat.succ_lt_succ hn)
    have hfirst : faults 0 = Fault.atOnce := h 0 (Nat.succ_pos _)
    rw [List.cons_append, syncEntries]
    simp only [hfirst, attempt, Fault.atOnce, if_true, Bool.false_eq_true, if_false, ite_self]
    exact hrest

/-- A version folder with a file in it that is confined is inside. -/
theorem inside_of_wrote {dest : Path} {name : String}
    (h : Confined modsDir (.wrote (dest ++ [name]))) : Inside modsDir dest := by
  obtain ⟨hwithin, hlen⟩ := h
  rw [List.length_append, List.length_singleton] at hlen
  refine ⟨List.prefix_of_prefix_length_le hwithin (List.prefix_append _ _) (by omega), by omega⟩

/-- An entry that is neither skipped nor refused, with an attempt that comes to its end. -/
theorem syncEntries_attempt {r : Registry} {e : Entry} (rest : List Entry) {s : Run}
    {faults : ℕ → Fault} (he : Installable r e) (hmarked : ¬ installed modsDir s ⟨e.uuid, e.version⟩)
    (hother : ¬ installed modsDir s (destOf r e)) {ops : List Op}
    (hops : ops = registryOps (destPath modsDir (destOf r e)) (r.zip (destOf r e)).items
      (r.manifest e.uuid) sourceInfo) (hfault : faults 0 = Fault.atEnd ops) :
    syncEntries modsDir sourceInfo r (e :: rest) faults s = ops.foldl Op.run s := by
  have hnames : ¬ (e.uuid = "" ∨ e.version = "") := not_or.2 ⟨he.1, he.2.1⟩
  have hskip : ¬ (destOf r e ≠ ⟨e.uuid, e.version⟩ ∧ installed modsDir s (destOf r e)) :=
    fun h => hother h.2
  have hhash : ¬ ((r.manifest e.uuid).expectedSha ≠ "" ∧
      (r.zip (destOf r e)).sha256 ≠ (r.manifest e.uuid).expectedSha) := by
    rintro ⟨hne, hdiffers⟩
    exact he.2.2.elim hne hdiffers
  rw [syncEntries, if_neg hnames, if_neg hmarked]
  dsimp only
  rw [if_neg hskip, if_neg hhash, hfault, ← hops, attempt_atEnd]
  exact if_pos rfl

/-- A folder or a release: one module, or none. -/
theorem copied_confined_iff {source : Source} {disk : Disk} {copied : (ℕ → Fault) → Run}
    (hitems : ∀ m, source.module? = some m → ∀ i ∈ m.items, Item.Below i)
    (hcopied : ∀ faults, copied faults =
      match source.module? with
      | none => ⟨disk, []⟩
      | some m => attempt ⟨disk, []⟩ (faults 0)
          (copyOps modsDir (destPath modsDir ⟨m.uuid, m.version⟩) m.items sourceInfo)) :
    (∀ faults, ∀ t ∈ (copied faults).touched, Confined modsDir t) ↔
      ∀ m, source.module? = some m → Inside modsDir (destPath modsDir ⟨m.uuid, m.version⟩) := by
  constructor
  · intro h m hm
    have hwrote := h fun _ => Fault.atEnd
      (copyOps modsDir (destPath modsDir ⟨m.uuid, m.version⟩) m.items sourceInfo)
    rw [hcopied, hm] at hwrote
    simp only [attempt_atEnd] at hwrote
    have hmem : Op.write (destPath modsDir ⟨m.uuid, m.version⟩ ++ [sourceJson]) sourceInfo ∈
        copyOps modsDir (destPath modsDir ⟨m.uuid, m.version⟩) m.items sourceInfo :=
      List.mem_append_right _ List.mem_cons_self
    exact inside_of_wrote (hwrote _ (mem_touched_of_write hmem _))
  · intro h faults t ht
    rw [hcopied] at ht
    cases hm : source.module? with
    | none =>
      rw [hm] at ht
      cases ht
    | some m =>
      rw [hm] at ht
      have hkept := attempt_kept (copyOps_confined sourceInfo (h m hm)
        (hitems m hm)) ⟨disk, []⟩ (faults 0)
      rcases hkept.touched t ht with hold | hnew
      · cases hold
      · exact hnew

theorem registry_confined_iff {r : Registry} (hitems : ∀ d, ∀ i ∈ (r.zip d).items, Item.Below i)
    (disk : Disk) :
    (∀ faults, ∀ t ∈ (sync modsDir sourceInfo (.registry r) faults disk).touched,
      Confined modsDir t) ↔ SafeSource modsDir disk (.registry r) := by
  constructor
  · intro h e he hinstallable hmarked hother
    obtain ⟨before, after, hindex⟩ := List.append_of_mem he
    -- everything before the entry fails early, and the entry itself comes to its end
    obtain ⟨ops, hops⟩ : ∃ ops, ops = registryOps (destPath modsDir (destOf r e))
      (r.zip (destOf r e)).items (r.manifest e.uuid) sourceInfo := ⟨_, rfl⟩
    have hmem : Op.write (destPath modsDir (destOf r e) ++ [sourceJson]) sourceInfo ∈ ops := by
      rw [hops]
      exact List.mem_append_right _ (List.mem_cons_of_mem _ List.mem_cons_self)
    have hrun : ∃ faults, sync modsDir sourceInfo (.registry r) faults disk =
        ops.foldl Op.run (opened modsDir disk) := by
      refine ⟨fun n => if n = before.length then Fault.atEnd ops else Fault.atOnce, ?_⟩
      show syncEntries modsDir sourceInfo r r.index _ _ = _
      rw [hindex, syncEntries_early r _ _ before _ fun n hn => if_neg hn.ne]
      exact syncEntries_attempt after hinstallable hmarked hother hops
        (if_pos (Nat.zero_add _))
    obtain ⟨faults, hrun⟩ := hrun
    have hwrote := h faults
    rw [hrun] at hwrote
    exact inside_of_wrote (hwrote _ (mem_touched_of_write hmem _))
  · intro h faults t ht
    have hopened : ∀ t ∈ (opened modsDir disk).touched, Confined modsDir t := by
      intro t ht
      have hkept : Kept modsDir ⟨disk, []⟩ (opened modsDir disk) :=
        Op.run_kept _ (.inl (List.prefix_refl _))
      rcases hkept.touched t ht with hold | hnew
      · cases hold
      · exact hnew
    have hkept := syncEntries_kept sourceInfo hitems r.index faults
      (opened modsDir disk) (.refl _) h
    rcases hkept.touched t ht with hold | hnew
    · exact hopened t hold
    · exact hnew

/-- **The sources whose syncs stay in the version folders, however they end**, are those whose
    modules all go two levels below the modules directory. -/
theorem sync_confined_iff {source : Source} (hitems : source.ItemsBelow) (disk : Disk) :
    (∀ faults, ∀ t ∈ (sync modsDir sourceInfo source faults disk).touched, Confined modsDir t) ↔
      SafeSource modsDir disk source := by
  cases source with
  | folder content => exact copied_confined_iff hitems fun _ => rfl
  | github lastTag release => exact copied_confined_iff hitems fun _ => rfl
  | registry r => exact registry_confined_iff hitems disk

/-! ## A removal -/

section Removal

-- the `source_id` of the JSON, if it has one
variable (sourceId : String → Option String) (disk : Disk) (srcId : String)

/-- The text of the folder's `source.json`. -/
def sourceText (folder : Path) : Option String :=
  match disk.node (folder ++ [sourceJson]) with
  | some (.file content) => some content
  | _ => none

/-- `$s.source_id -eq $srcId`, which does not look at the case. -/
def matchesSource (folder : Path) : Bool :=
  ((sourceText disk folder).bind sourceId).map String.toLower = some srcId.toLower

/-- Reading a property that is not there ends the script. -/
def lacksId (folder : Path) : Bool :=
  match sourceText disk folder with
  | none => false
  | some text => (sourceId text).isNone

/-- What the loops of `Remove-SourceModules` come to: a version folder, or a module folder with all
    its version folders behind it. -/
inductive Visit where
  | version (uuidDir verDir : String)
  | cleanUp (uuidDir : String)

variable (modsDir)

def visits : List Visit :=
  (disk.subdirs modsDir).flatMap fun uuidDir =>
    (disk.subdirs (modsDir ++ [uuidDir])).map (Visit.version uuidDir) ++ [.cleanUp uuidDir]

def endsScript : Visit → Bool
  | .version uuidDir verDir => lacksId sourceId disk (modsDir ++ [uuidDir, verDir])
  | .cleanUp _ => false

def deletes : Visit → List Path
  | .version uuidDir verDir =>
    if matchesSource sourceId disk srcId (modsDir ++ [uuidDir, verDir]) then
      disk.tree (modsDir ++ [uuidDir, verDir])
    else []
  | .cleanUp uuidDir =>
    let remaining := (disk.subdirs (modsDir ++ [uuidDir])).filter fun verDir =>
      !matchesSource sourceId disk srcId (modsDir ++ [uuidDir, verDir])
    if remaining = [] then disk.tree (modsDir ++ [uuidDir]) else []

/-- The visits up to the end of the script. -/
def visited : List Visit :=
  (visits modsDir disk).takeWhile fun v => !endsScript modsDir sourceId disk v

/-- `Remove-SourceModules` -/
def removal : List Path :=
  (visited modsDir sourceId disk).flatMap (deletes modsDir sourceId disk srcId)

/-- The folder's `source.json` names exactly this source. -/
def NamesSource (folder : Path) : Prop := (sourceText disk folder).bind sourceId = some srcId

/-- In a version folder that names the source, or a module folder without any other version. -/
def Removable (p : Path) : Prop :=
  (∃ uuidDir, ∃ verDir ∈ disk.subdirs (modsDir ++ [uuidDir]),
    NamesSource sourceId disk srcId (modsDir ++ [uuidDir, verDir]) ∧
      modsDir ++ [uuidDir, verDir] <+: p) ∨
  ∃ uuidDir, p = modsDir ++ [uuidDir] ∧
    ∀ verDir ∈ disk.subdirs (modsDir ++ [uuidDir]),
      NamesSource sourceId disk srcId (modsDir ++ [uuidDir, verDir])

/-- No version folder that is visited names the source in another case, and a module folder that
    loses all its versions has nothing but them. -/
def SafeVisit : Visit → Prop
  | .version uuidDir verDir => matchesSource sourceId disk srcId (modsDir ++ [uuidDir, verDir]) →
      NamesSource sourceId disk srcId (modsDir ++ [uuidDir, verDir])
  | .cleanUp uuidDir =>
    (∀ verDir ∈ disk.subdirs (modsDir ++ [uuidDir]),
      matchesSource sourceId disk srcId (modsDir ++ [uuidDir, verDir])) →
    (∀ verDir ∈ disk.subdirs (modsDir ++ [uuidDir]),
      NamesSource sourceId disk srcId (modsDir ++ [uuidDir, verDir])) ∧
    ∀ q ∈ disk.tree (modsDir ++ [uuidDir]), q = modsDir ++ [uuidDir] ∨
      ∃ verDir ∈ disk.subdirs (modsDir ++ [uuidDir]), modsDir ++ [uuidDir, verDir] <+: q

instance (folder : Path) : Decidable (NamesSource sourceId disk srcId folder) :=
  inferInstanceAs (Decidable (_ = _))

instance : (v : Visit) → Decidable (SafeVisit modsDir sourceId disk srcId v)
  | .version _ _ => inferInstanceAs (Decidable (_ → _))
  | .cleanUp _ => inferInstanceAs (Decidable (_ → _ ∧ _))

variable {sourceId disk srcId modsDir}

theorem Disk.mem_tree_of_subdir {p : Path} {name : String} (h : name ∈ disk.subdirs p) :
    p ++ [name] ∈ disk.tree (p ++ [name]) := by
  simp only [Disk.subdirs, List.mem_dedup, List.mem_filterMap] at h
  obtain ⟨e, he, hname⟩ := h
  split at hname
  · rename_i hdir
    have hpath : e.1 = p ++ [name] := by
      rw [← hdir.1]
      exact (List.dropLast_append_getLast? name hname).symm
    exact List.mem_filter.2 ⟨List.mem_map.2 ⟨e, he, hpath⟩, by simp⟩
  · cases hname

/-- A path in two module folders is in one. -/
theorem name_eq_of_prefix {folder q : Path} {a b : String} (ha : folder ++ [a] <+: q)
    (hb : folder ++ [b] <+: q) : a = b := by
  obtain ⟨r, rfl⟩ := ha
  obtain ⟨r', hr'⟩ := hb
  simp only [List.append_assoc, List.singleton_append, List.append_cancel_left_eq,
    List.cons.injEq] at hr'
  exact hr'.1.symm

theorem prefix_of_version {folder q : Path} {a b : String} (h : folder ++ [a, b] <+: q) :
    folder ++ [a] <+: q := by
  refine List.IsPrefix.trans ⟨[b], ?_⟩ h
  rw [List.append_assoc, List.singleton_append]

variable (modsDir disk) in
/-- The folder of the visit is there. -/
def Visit.Listed : Visit → Prop
  | .version uuidDir verDir => verDir ∈ disk.subdirs (modsDir ++ [uuidDir])
  | .cleanUp uuidDir => uuidDir ∈ disk.subdirs modsDir

theorem listed_of_visited {v : Visit} (h : v ∈ visited modsDir sourceId disk) :
    v.Listed modsDir disk := by
  have hmem : v ∈ visits modsDir disk := (List.takeWhile_sublist _).subset h
  obtain ⟨uuidDir, hdir, hv⟩ := List.mem_flatMap.1 hmem
  rcases List.mem_append.1 hv with hv | hv
  · obtain ⟨verDir, hver, rfl⟩ := List.mem_map.1 hv
    exact hver
  · obtain rfl := List.mem_singleton.1 hv
    exact hdir

theorem deletes_version {uuidDir verDir : String}
    (h : matchesSource sourceId disk srcId (modsDir ++ [uuidDir, verDir])) :
    deletes modsDir sourceId disk srcId (.version uuidDir verDir) =
      disk.tree (modsDir ++ [uuidDir, verDir]) := if_pos h

theorem deletes_cleanUp {uuidDir : String}
    (h : ∀ verDir ∈ disk.subdirs (modsDir ++ [uuidDir]),
      matchesSource sourceId disk srcId (modsDir ++ [uuidDir, verDir])) :
    deletes modsDir sourceId disk srcId (.cleanUp uuidDir) = disk.tree (modsDir ++ [uuidDir]) := by
  apply if_pos
  rw [List.filter_eq_nil_iff]
  intro verDir hver
  simp [h verDir hver]

/-- What one visit deletes may be deleted exactly if the visit is safe. -/
theorem deletes_removable_iff {v : Visit} (hv : v ∈ visited modsDir sourceId disk) :
    (∀ p ∈ deletes modsDir sourceId disk srcId v, Removable modsDir sourceId disk srcId p) ↔
      SafeVisit modsDir sourceId disk srcId v := by
  have hdir := listed_of_visited hv
  cases v with
  | version uuidDir verDir =>
    have hsplit : modsDir ++ [uuidDir, verDir] = modsDir ++ [uuidDir] ++ [verDir] := by
      rw [List.append_assoc, List.singleton_append]
    constructor
    · intro h hmatches
      have hself := Disk.mem_tree_of_subdir hdir
      rw [← hsplit, ← deletes_version hmatches] at hself
      rcases h _ hself with ⟨u, ver, -, hnames, hwithin⟩ | ⟨u, hp, -⟩
      · have hu : u = uuidDir := name_eq_of_prefix (prefix_of_version hwithin)
          (prefix_of_version (List.prefix_refl _))
        subst hu
        have hlen : (modsDir ++ [u, ver]).length = (modsDir ++ [u, verDir]).length := by simp
        rwa [← List.IsPrefix.eq_of_length hwithin hlen]
      · simp at hp
    · intro hsafe p hp
      by_cases hmatches : matchesSource sourceId disk srcId (modsDir ++ [uuidDir, verDir])
      · rw [deletes_version hmatches] at hp
        exact .inl ⟨uuidDir, verDir, hdir, hsafe hmatches, by simpa using (List.mem_filter.1 hp).2⟩
      · rw [deletes, if_neg hmatches] at hp
        cases hp
  | cleanUp uuidDir =>
    constructor
    · intro h hmatches
      rw [deletes_cleanUp hmatches] at h
      refine ⟨?_, fun q hq => ?_⟩
      · rcases h _ (Disk.mem_tree_of_subdir hdir) with ⟨u, ver, -, -, hwithin⟩ | ⟨u, hp, hall⟩
        · have hlen := hwithin.length_le
          simp at hlen
        · have hu : uuidDir = u := by simpa using hp
          rwa [← hu] at hall
      · have hbelow : modsDir ++ [uuidDir] <+: q := by simpa using (List.mem_filter.1 hq).2
        rcases h q hq with ⟨u, ver, hver, -, hwithin⟩ | ⟨u, hp, -⟩
        · have hu : u = uuidDir := name_eq_of_prefix (prefix_of_version hwithin) hbelow
          subst hu
          exact .inr ⟨ver, hver, hwithin⟩
        · have hu : u = uuidDir := name_eq_of_prefix (hp ▸ List.prefix_refl _) hbelow
          exact .inl (hu ▸ hp)
    · intro hsafe p hp
      by_cases hmatches : ∀ verDir ∈ disk.subdirs (modsDir ++ [uuidDir]),
          matchesSource sourceId disk srcId (modsDir ++ [uuidDir, verDir])
      · obtain ⟨hall, hrest⟩ := hsafe hmatches
        rw [deletes_cleanUp hmatches] at hp
        rcases hrest p hp with rfl | ⟨ver, hver, hwithin⟩
        · exact .inr ⟨uuidDir, rfl, hall⟩
        · exact .inl ⟨uuidDir, ver, hver, hall ver hver, hwithin⟩
      · rw [deletes, if_neg] at hp
        · cases hp
        · rw [List.filter_eq_nil_iff]
          simpa using hmatches

theorem removal_removable_iff :
    (∀ p ∈ removal modsDir sourceId disk srcId, Removable modsDir sourceId disk srcId p) ↔
      ∀ v ∈ visited modsDir sourceId disk, SafeVisit modsDir sourceId disk srcId v := by
  constructor
  · intro h v hv
    exact (deletes_removable_iff hv).1 fun p hp => h p (List.mem_flatMap.2 ⟨v, hv, hp⟩)
  · intro h p hp
    obtain ⟨v, hv, hp⟩ := List.mem_flatMap.1 hp
    exact (deletes_removable_iff hv).2 (h v hv) p hp

end Removal

/-! ## The script -/

/-- **The inputs for which the script stays where modules go.**  A sync does, however it ends, if
    every module goes two levels below the modules directory; a removal does if no visited version
    names the source in another case and no module folder that loses all its versions has anything
    else in it. -/
theorem module_sync_confined_iff (modsDir : Path) (sourceInfo : String) {source : Source}
    (hitems : source.ItemsBelow) (disk : Disk) (sourceId : String → Option String)
    (srcId : String) :
    ((∀ faults, ∀ t ∈ (sync modsDir sourceInfo source faults disk).touched,
        Confined modsDir t) ↔ SafeSource modsDir disk source) ∧
      ((∀ p ∈ removal modsDir sourceId disk srcId, Removable modsDir sourceId disk srcId p) ↔
        ∀ v ∈ visited modsDir sourceId disk, SafeVisit modsDir sourceId disk srcId v) :=
  ⟨sync_confined_iff hitems disk, removal_removable_iff⟩

/-- Names without separators lead two levels below. -/
theorem inside_of_plain (modsDir : Path) {d : Dest} (huuid : ∀ n ∈ names d.uuid, PlainName n)
    (hversion : ∀ n ∈ names d.version, PlainName n) : Inside modsDir (destPath modsDir d) := by
  have hpos : ∀ s : String, 0 < (names s).length := by
    intro s
    rw [names, List.length_map]
    exact List.length_pos_iff.2 (splitNames_ne_nil _)
  have hdest : destPath modsDir d = modsDir ++ names d.uuid ++ names d.version := by
    rw [destPath, resolve_join, resolve_of_plain _ huuid, resolve_of_plain _ hversion]
  rw [hdest, List.append_assoc]
  refine ⟨List.prefix_append _ _, ?_⟩
  have hu := hpos d.uuid
  have hv := hpos d.version
  simp only [List.length_append]
  omega

/-- The modules directory of a user. -/
def exampleDir : Path := ["c:", "locallow", "wkopenvr", "facetracking", "modules"]

/-- A folder with one file behind its manifest. -/
def plainModule : Module := ⟨"3f2a", "1.0", [⟨"module.dll", some "code"⟩]⟩

/-- Three versions of two sources: a module of both, and one of the first only. -/
def twoSources : Disk where
  entries :=
    [(exampleDir ++ ["3f2a"], .dir), (exampleDir ++ ["3f2a", "1.0"], .dir),
      (exampleDir ++ ["3f2a", "1.0", "source.json"], .file "a1"),
      (exampleDir ++ ["3f2a", "1.1"], .dir),
      (exampleDir ++ ["3f2a", "1.1", "source.json"], .file "b2"),
      (exampleDir ++ ["77aa"], .dir), (exampleDir ++ ["77aa", "2.0"], .dir),
      (exampleDir ++ ["77aa", "2.0", "source.json"], .file "a1")]

/-- The first source goes, with the module folder it leaves empty. -/
theorem twoSources_confined :
    (∀ faults, ∀ t ∈ (sync exampleDir "{}" (.folder (some plainModule)) faults twoSources).touched,
      Confined exampleDir t) ∧
    (exampleDir ++ ["3f2a", "1.0"] ∈ removal exampleDir some twoSources "a1" ∧
      exampleDir ++ ["77aa"] ∈ removal exampleDir some twoSources "a1") ∧
    ∀ p ∈ removal exampleDir some twoSources "a1", Removable exampleDir some twoSources "a1" p := by
  have hitems : (Source.folder (some plainModule)).ItemsBelow := by
    intro m hm i hi dest
    obtain rfl : plainModule = m := by
      simp only [Source.module?, Option.filter_eq_some_iff, Option.some.injEq] at hm
      exact hm.1
    obtain rfl := List.mem_singleton.1 hi
    exact ⟨names "module.dll", by decide +kernel, resolve_of_plain dest (by decide +kernel)⟩
  have hsafe : SafeSource exampleDir twoSources (.folder (some plainModule)) := by
    intro m hm
    obtain rfl : plainModule = m := by
      simp only [Source.module?, Option.filter_eq_some_iff, Option.some.injEq] at hm
      exact hm.1
    exact inside_of_plain exampleDir (by decide +kernel) (by decide +kernel)
  have hiff := module_sync_confined_iff exampleDir "{}" hitems twoSources some "a1"
  exact ⟨hiff.1.2 hsafe, by decide +kernel, hiff.2.2 (by decide +kernel)⟩

/-- The index has an ordinary version, the manifest one that leads out. -/
def leadingOut : Registry where
  index := [⟨"3f2a", "1.0"⟩]
  manifest _ := ⟨some "..\\..\\..\\startup", none, "{}"⟩
  payload _ _ := ⟨"", [], List.nodup_nil⟩

/-- A module folder with a file beside its only version. -/
def looseFile : Disk where
  entries :=
    [(exampleDir ++ ["3f2a"], .dir), (exampleDir ++ ["3f2a", "notes.txt"], .file ""),
      (exampleDir ++ ["3f2a", "1.0"], .dir),
      (exampleDir ++ ["3f2a", "1.0", "source.json"], .file "a1")]

/-- **A registry writes beside the modules directory**, and a removal deletes a loose file. -/
theorem leadingOut_escapes :
    (Touch.wrote ["c:", "locallow", "wkopenvr", "startup", "source.json"] ∈
        (sync exampleDir "{}" (.registry leadingOut) (fun _ => ⟨false, 4, false⟩) ⟨[]⟩).touched ∧
      ¬ Confined exampleDir (.wrote ["c:", "locallow", "wkopenvr", "startup", "source.json"])) ∧
    exampleDir ++ ["3f2a", "notes.txt"] ∈ removal exampleDir some looseFile "a1" := by
  decide +kernel

end WKPairDriver.FaceTracking.ModuleSync
