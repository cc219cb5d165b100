import Mathlib
import WKPairDriver.Lib.Run

/-!
# Installing modules from a registry: the sync loop of `face-module-sync.ps1`

A version counts as installed when its folder has a `manifest.json`.  The payload is extracted to a
staging folder and copied from there file by file; then the script writes `manifest.json` and
`source.json`.  The payload may have a `manifest.json` of its own, and the overlay kills a script
that runs for more than 90 seconds.

* `step` — one file operation, which may fail, or a kill between two of them.
* `registry_sync_complete` — if no attempt fails or is killed behind the moment its folder gets a
  `manifest.json`, every skipped version is complete and every other one can still be installed.
* `killedCopy_incomplete` — a payload whose manifest is copied first, and a kill before the rest.
-/

set_option autoImplicit false

namespace WKPairDriver.FaceTracking.RegistrySync

open Lib

/-! ## The registry -/

structure Entry where
  uuid : String
  version : String

/-- What the manifest endpoint returns, with its text as `ConvertTo-Json` writes it. -/
structure Manifest where
  version : Option String
  payload_sha256 : Option String
  json : String

/-- A file of the payload with its content, or a folder.  Paths are in the form in which Windows
    compares them. -/
structure Item where
  path : String
  content : Option String

/-- A payload in the order in which `Get-ChildItem -Recurse` lists it when extracted. -/
structure Zip where
  sha256 : String
  items : List Item
  distinct : (items.map Item.path).Nodup

/-- The endpoints of one registry; `payload uuid version` is the zip it serves.  Identifiers and
    versions, like paths, are in the form in which Windows compares names, and have no `[` and no
    `]`, which the script's cmdlets would take for a wildcard. -/
structure Registry where
  index : List Entry
  manifest : String → Manifest
  payload : String → String → Zip

/-- `$modsDir\\$uuid\\$ver`. -/
structure Dest where
  uuid : String
  version : String
deriving DecidableEq

def Registry.zip (r : Registry) (d : Dest) : Zip := r.payload d.uuid d.version

/-- `$expectedSha`. -/
def Manifest.expectedSha (m : Manifest) : String := (m.payload_sha256.getD "").toLower

def manifestJson : String := "manifest.json"

def sourceJson : String := "source.json"

/-! ## The script -/

/-- The files of a folder with their content. -/
abbrev Folder := String → Option String

/-- `Test-Path (Join-Path $destDir 'manifest.json')`. -/
def Marker (f : Folder) : Prop := (f manifestJson).isSome

instance (f : Folder) : Decidable (Marker f) := inferInstanceAs (Decidable (_ = true))

/-- Where the script is: at the head of the loop, or before one operation of an attempt. -/
inductive Phase where
  | next
  | fetchManifest (e : Entry)
  | download (d : Dest) (m : Manifest)
  | hash (d : Dest) (m : Manifest)
  | extract (d : Dest) (m : Manifest)
  | makeDir (d : Dest) (m : Manifest)
  | copy (d : Dest) (m : Manifest) (left : List Item)
  | writeManifest (d : Dest) (m : Manifest)
  | writeSource (d : Dest) (m : Manifest)

/-- The folder an attempt installs to. -/
def Phase.dest : Phase → Option Dest
  | .next => none
  | .fetchManifest _ => none
  | .download d _ => some d
  | .hash d _ => some d
  | .extract d _ => some d
  | .makeDir d _ => some d
  | .copy d _ _ => some d
  | .writeManifest d _ => some d
  | .writeSource d _ => some d

/-- The file the next operation writes. -/
def Phase.target : Phase → Option (Dest × String)
  | .copy d _ (i :: _) => if i.content.isSome then some (d, i.path) else none
  | .writeManifest d _ => some (d, manifestJson)
  | .writeSource d _ => some (d, sourceJson)
  | _ => none

structure Script where
  rest : List Entry
  phase : Phase

/-- The module folders and the script, if one runs. -/
structure State where
  folders : Dest → Folder
  script : Option Script

def State.installed (folders : Dest → Folder) : State := ⟨folders, none⟩

/-- Set one file. -/
def put (folders : Dest → Folder) (target : Option (Dest × String)) (content : Option String) :
    Dest → Folder :=
  match target with
  | none => folders
  | some (d, path) => Function.update folders d (Function.update (folders d) path content)

/-- How an operation ends; a failed write leaves anything of its file. -/
inductive Outcome where
  | ok
  | fails (left : Option String)

inductive Action where
  | sync
  | op (outcome : Outcome)
  | kill

/-- A failure that is caught goes on with the next entry, any other one ends the script. -/
def afterFailure (script : Script) : Option Script :=
  match script.phase with
  | .hash _ _ => none
  | .makeDir _ _ => none
  | .writeManifest _ _ => none
  | .writeSource _ _ => none
  | _ => some ⟨script.rest, .next⟩

-- `sourceInfo` is the JSON of `$info`.
variable (r : Registry) (sourceInfo : String)

/-- The version of an entry that is installed: the manifest's own one. -/
def destOf (e : Entry) : Dest :=
  let manifestVer := (r.manifest e.uuid).version.getD e.version
  if manifestVer.toLower ≠ e.version.toLower then ⟨e.uuid, manifestVer⟩ else ⟨e.uuid, e.version⟩

/-- The content a successful operation writes to its file. -/
def written (phase : Phase) : Option String :=
  match phase with
  | .copy _ _ (i :: _) => i.content
  | .writeManifest _ m => some m.json
  | .writeSource _ _ => some sourceInfo
  | _ => none

/-- What follows a successful operation; `folders` are those before it. -/
def afterSuccess (folders : Dest → Folder) (script : Script) : Option Script :=
  match script.phase with
  | .next =>
    match script.rest with
    | [] => none
    | e :: rest =>
      if e.uuid = "" ∨ e.version = "" then some ⟨rest, .next⟩
      else if Marker (folders ⟨e.uuid, e.version⟩) then some ⟨rest, .next⟩
      else some ⟨rest, .fetchManifest e⟩
  | .fetchManifest e =>
    if destOf r e ≠ ⟨e.uuid, e.version⟩ ∧ Marker (folders (destOf r e)) then some ⟨script.rest, .next⟩
    else some ⟨script.rest, .download (destOf r e) (r.manifest e.uuid)⟩
  | .download d m => some ⟨script.rest, .hash d m⟩
  | .hash d m =>
    if m.expectedSha ≠ "" ∧ (r.zip d).sha256 ≠ m.expectedSha then some ⟨script.rest, .next⟩
    else some ⟨script.rest, .extract d m⟩
  | .extract d m => some ⟨script.rest, .makeDir d m⟩
  | .makeDir d m => some ⟨script.rest, .copy d m (r.zip d).items⟩
  | .copy d m [] => some ⟨script.rest, .writeManifest d m⟩
  | .copy d m (_ :: left) => some ⟨script.rest, .copy d m left⟩
  | .writeManifest d m => some ⟨script.rest, .writeSource d m⟩
  | .writeSource _ _ => some ⟨script.rest, .next⟩

/-- The head of the loop reads only. -/
def Phase.canFail : Phase → Bool
  | .next => false
  | _ => true

def step (s : State) : Action → Option State
  | .sync =>
    match s.script with
    | none => some { s with script := some ⟨r.index, .next⟩ }
    | some _ => none
  | .kill =>
    match s.script with
    | none => none
    | some _ => some { s with script := none }
  | .op .ok =>
    match s.script with
    | none => none
    | some script => some {
        folders := put s.folders script.phase.target (written sourceInfo script.phase)
        script := afterSuccess r s.folders script }
  | .op (.fails left) =>
    match s.script with
    | none => none
    | some script =>
      if script.phase.canFail then some {
        folders := put s.folders script.phase.target left
        script := afterFailure script }
      else none

/-! ## What a skip promises -/

/-- The zip has the announced hash, if one is announced. -/
def HashOk (m : Manifest) (zip : Zip) : Prop := m.expectedSha = "" ∨ zip.sha256 = m.expectedSha

/-- These files of the payload are there; the two files that the script writes itself are its own. -/
def Copied (items : List Item) (f : Folder) : Prop :=
  ∀ i ∈ items, ∀ content, i.content = some content → i.path ≠ manifestJson → i.path ≠ sourceJson →
    f i.path = some content

/-- Everything of a version is there, from a zip with the announced hash. -/
structure Complete (d : Dest) (f : Folder) : Prop where
  hash : HashOk (r.manifest d.uuid) (r.zip d)
  payload : Copied (r.zip d).items f
  manifest : f manifestJson = some (r.manifest d.uuid).json
  source : (f sourceJson).isSome

/-- No attempt is under way. -/
def Settled (s : State) : Prop := ∀ script, s.script = some script → script.phase = .next

/-- Some continuation installs the entry. -/
def CanInstall (s : State) (e : Entry) : Prop :=
  ∃ as t, runTo (step r sourceInfo) s as = some t ∧
    (Complete r ⟨e.uuid, e.version⟩ (t.folders ⟨e.uuid, e.version⟩) ∨
      Complete r (destOf r e) (t.folders (destOf r e)))

/-- An entry with a payload that can be installed. -/
def Installable (e : Entry) : Prop :=
  e.uuid ≠ "" ∧ e.version ≠ "" ∧ HashOk (r.manifest e.uuid) (r.zip (destOf r e))

/-- Between two attempts, what would be skipped is complete, and no earlier attempt keeps a later
    run from installing what can be installed. -/
def NeverPartial (s : State) : Prop :=
  Settled s → (∀ d, Marker (s.folders d) → Complete r d (s.folders d)) ∧
    ∀ e ∈ r.index, Installable r e → CanInstall r sourceInfo s e

/-- An attempt that is killed or fails leaves its folder without a `manifest.json`. -/
def EndsUnmarked (s : State) (a : Action) : Prop :=
  ∀ script, s.script = some script → ∀ d, script.phase.dest = some d →
    match a with
    | .kill => ¬ Marker (s.folders d)
    | .op (.fails left) => ¬ Marker (put s.folders script.phase.target left d)
    | _ => True

instance decidableEndsUnmarked (s : State) : (a : Action) → Decidable (EndsUnmarked s a)
  | .kill => inferInstanceAs (Decidable
      (∀ script ∈ s.script, ∀ d ∈ script.phase.dest, ¬ Marker (s.folders d)))
  | .op (.fails left) => inferInstanceAs (Decidable (∀ script ∈ s.script,
      ∀ d ∈ script.phase.dest, ¬ Marker (put s.folders script.phase.target left d)))
  | .op .ok => isTrue fun _ _ _ _ => trivial
  | .sync => isTrue fun _ _ _ _ => trivial

/-! ## One file -/

theorem put_of_ne (folders : Dest → Folder) {target : Option (Dest × String)}
    (content : Option String) {d : Dest} (h : ∀ p, target ≠ some (d, p)) :
    put folders target content d = folders d := by
  unfold put
  cases target with
  | none => rfl
  | some x =>
    obtain ⟨d', path⟩ := x
    have hne : d ≠ d' := by
      intro he
      exact h path (by rw [he])
    exact Function.update_of_ne hne ..

theorem put_self (folders : Dest → Folder) (d : Dest) (path : String) (content : Option String) :
    put folders (some (d, path)) content d path = content := by
  simp only [put, Function.update_self]

theorem put_other (folders : Dest → Folder) (d : Dest) {path q : String} (content : Option String)
    (h : q ≠ path) : put folders (some (d, path)) content d q = folders d q := by
  simp only [put, Function.update_self]
  exact Function.update_of_ne h ..

/-- An operation writes into the folder of its attempt only. -/
theorem Phase.target_dest {phase : Phase} {d : Dest} {path : String}
    (h : phase.target = some (d, path)) : phase.dest = some d := by
  cases phase with
  | copy d' m left =>
    cases left with
    | nil => cases h
    | cons i left =>
      simp only [Phase.target] at h
      split at h
      · cases h
        rfl
      · cases h
  | writeManifest d' m =>
    cases h
    rfl
  | writeSource d' m =>
    cases h
    rfl
  | _ => cases h

theorem put_phase_of_ne (folders : Dest → Folder) {phase : Phase} (content : Option String)
    {d : Dest} (h : phase.dest ≠ some d) : put folders phase.target content d = folders d := by
  apply put_of_ne
  intro p hp
  exact h (Phase.target_dest hp)

/-! ## Invariant -/

/-- What an attempt has done before its next operation. -/
def PhaseOk (folders : Dest → Folder) : Phase → Prop
  | .next => True
  | .fetchManifest e => ¬ Marker (folders ⟨e.uuid, e.version⟩)
  | .download d m => m = r.manifest d.uuid ∧ ¬ Marker (folders d)
  | .hash d m => m = r.manifest d.uuid ∧ ¬ Marker (folders d)
  | .extract d m => m = r.manifest d.uuid ∧ ¬ Marker (folders d) ∧ HashOk m (r.zip d)
  | .makeDir d m => m = r.manifest d.uuid ∧ ¬ Marker (folders d) ∧ HashOk m (r.zip d)
  | .copy d m left => m = r.manifest d.uuid ∧ HashOk m (r.zip d) ∧
      ∃ done, (r.zip d).items = done ++ left ∧ Copied done (folders d)
  | .writeManifest d m => m = r.manifest d.uuid ∧ HashOk m (r.zip d) ∧
      Copied (r.zip d).items (folders d)
  | .writeSource d m => m = r.manifest d.uuid ∧ HashOk m (r.zip d) ∧
      Copied (r.zip d).items (folders d) ∧ folders d manifestJson = some m.json

/-- Every folder without an attempt under way is complete if it is marked. -/
structure Inv (s : State) : Prop where
  settled : ∀ d, (∀ script, s.script = some script → script.phase.dest ≠ some d) →
    Marker (s.folders d) → Complete r d (s.folders d)
  attempt : ∀ script, s.script = some script → PhaseOk r s.folders script.phase

theorem Inv.installed : Inv r (State.installed fun _ _ => none) := by
  refine ⟨?_, ?_⟩
  · intro d _ h
    cases h
  · intro script h
    cases h

theorem Inv.of_settled {s : State} (hs : Inv r s) (h : Settled s) (d : Dest)
    (hd : Marker (s.folders d)) : Complete r d (s.folders d) := by
  apply hs.settled d _ hd
  intro script hscript
  rw [h script hscript]
  intro hnone
  cases hnone

/-- An attempt that ends without a mark. -/
theorem Inv.end_unmarked {s : State} (hs : Inv r s) {script : Script} (hscript : s.script = some script)
    (left : Option String)
    (h : ∀ d, script.phase.dest = some d → ¬ Marker (put s.folders script.phase.target left d))
    {script' : Option Script} (hnext : ∀ x, script' = some x → x.phase = .next) :
    Inv r ⟨put s.folders script.phase.target left, script'⟩ := by
  refine ⟨?_, ?_⟩
  · intro d _ hmark
    by_cases hd : script.phase.dest = some d
    · exact absurd hmark (h d hd)
    · change Marker (put s.folders script.phase.target left d) at hmark
      change Complete r d (put s.folders script.phase.target left d)
      rw [put_phase_of_ne s.folders left hd] at hmark ⊢
      apply hs.settled d _ hmark
      intro x hx
      rw [hscript] at hx
      cases hx
      exact hd
  · intro x hx
    rw [hnext x hx]
    trivial

/-- The same attempt goes on: only its own obligations change. -/
theorem Inv.go_on {s : State} (hs : Inv r s) {script : Script} (hscript : s.script = some script)
    (content : Option String) (phase : Phase) (hdest : ∀ d, script.phase.dest = some d →
      phase.dest = some d)
    (h : PhaseOk r (put s.folders script.phase.target content) phase) (rest : List Entry) :
    Inv r ⟨put s.folders script.phase.target content, some ⟨rest, phase⟩⟩ := by
  refine ⟨?_, ?_⟩
  · intro d hd hmark
    have hold : script.phase.dest ≠ some d := by
      intro he
      exact hd _ rfl (hdest d he)
    have hput := put_phase_of_ne s.folders content hold
    change Marker (put s.folders script.phase.target content d) at hmark
    change Complete r d (put s.folders script.phase.target content d)
    rw [hput] at hmark ⊢
    apply hs.settled d _ hmark
    intro x hx
    rw [hscript] at hx
    cases hx
    exact hold
  · intro x hx
    cases hx
    exact h

/-- One more file of the payload. -/
theorem Copied.snoc {done : List Item} {i : Item} {f : Folder} (h : Copied done f)
    (hdistinct : ∀ j ∈ done, j.path ≠ i.path) :
    (∀ c, i.content = some c → Copied (done ++ [i]) (Function.update f i.path (some c))) ∧
      (i.content = none → Copied (done ++ [i]) f) := by
  constructor
  · intro c hc j hj content hcontent hm hsrc
    rcases List.mem_append.1 hj with hj | hj
    · rw [Function.update_of_ne (hdistinct j hj)]
      exact h j hj content hcontent hm hsrc
    · rw [List.mem_singleton] at hj
      subst hj
      rw [hc] at hcontent
      cases hcontent
      exact Function.update_self ..
  · intro hnone j hj content hcontent hm hsrc
    rcases List.mem_append.1 hj with hj | hj
    · exact h j hj content hcontent hm hsrc
    · rw [List.mem_singleton] at hj
      subst hj
      rw [hnone] at hcontent
      cases hcontent

/-- The script's own files are not among those that must be copied. -/
theorem Copied.put_own {items : List Item} {folders : Dest → Folder} {d : Dest}
    (h : Copied items (folders d)) {path : String} (hp : path = manifestJson ∨ path = sourceJson)
    (content : Option String) : Copied items (put folders (some (d, path)) content d) := by
  intro i hi c hc hm hsrc
  have hne : i.path ≠ path := by
    rintro rfl
    exact hp.elim hm hsrc
  rw [put_other folders d content hne]
  exact h i hi c hc hm hsrc

/-! ## Steps -/

theorem destOf_uuid (e : Entry) : (destOf r e).uuid = e.uuid := by
  unfold destOf
  dsimp only
  split <;> rfl

/-- A successful operation keeps the invariant. -/
theorem step_ok_inv {s t : State} (hs : Inv r s) (h : step r sourceInfo s (.op .ok) = some t) :
    Inv r t := by
  simp only [step] at h
  cases hscript : s.script with
  | none =>
    rw [hscript] at h
    cases h
  | some script =>
    rw [hscript] at h
    cases h
    obtain ⟨rest, phase⟩ := script
    have hphase := hs.attempt _ hscript
    have hquiet : ∀ {phase' : Phase}, phase = phase' → phase'.dest = none → ∀ x : Option Script,
        (∀ y, x = some y → y.phase = .next) →
        Inv r ⟨put s.folders phase.target (written sourceInfo phase), x⟩ := by
      intro phase' he hdest x hx
      refine hs.end_unmarked r hscript _ ?_ hx
      intro d hd
      change phase.dest = some d at hd
      rw [he, hdest] at hd
      cases hd
    cases phase with
    | next =>
      simp only [afterSuccess]
      cases rest with
      | nil => exact hquiet rfl rfl none (by simp)
      | cons e rest =>
        dsimp only
        split
        · exact hquiet rfl rfl _ (by simp)
        · split
          · exact hquiet rfl rfl _ (by simp)
          · rename_i hmark
            exact hs.go_on r hscript _ (.fetchManifest e) (fun d hd => by cases hd) hmark rest
    | fetchManifest e =>
      simp only [afterSuccess]
      split
      · exact hquiet rfl rfl _ (by simp)
      · rename_i hmark
        refine hs.go_on r hscript _ (.download (destOf r e) (r.manifest e.uuid))
          (fun d hd => by cases hd) ?_ rest
        refine ⟨by rw [destOf_uuid], ?_⟩
        change ¬ Marker (s.folders (destOf r e))
        by_cases hd : destOf r e = ⟨e.uuid, e.version⟩
        · rw [hd]
          exact hphase
        · intro hm
          exact hmark ⟨hd, hm⟩
    | download d m => exact hs.go_on r hscript _ (.hash d m) (fun _ hd => hd) hphase rest
    | hash d m =>
      simp only [afterSuccess]
      split
      · refine hs.end_unmarked r hscript _ ?_ (by simp)
        intro d' hd'
        cases hd'
        exact hphase.2
      · rename_i hsha
        refine hs.go_on r hscript _ (.extract d m) (fun _ hd => hd) ⟨hphase.1, hphase.2, ?_⟩ rest
        by_cases hempty : m.expectedSha = ""
        · exact .inl hempty
        · refine .inr (not_not.1 ?_)
          intro hne
          exact hsha ⟨hempty, hne⟩
    | extract d m => exact hs.go_on r hscript _ (.makeDir d m) (fun _ hd => hd) hphase rest
    | makeDir d m =>
      refine hs.go_on r hscript _ (.copy d m (r.zip d).items) (fun _ hd => hd)
        ⟨hphase.1, hphase.2.2, [], rfl, ?_⟩ rest
      intro i hi
      cases hi
    | copy d m left =>
      obtain ⟨hm, hhash, done, hitems, hcopied⟩ := hphase
      cases left with
      | nil =>
        rw [List.append_nil] at hitems
        rw [← hitems] at hcopied
        exact hs.go_on r hscript _ (.writeManifest d m) (fun _ hd => hd) ⟨hm, hhash, hcopied⟩ rest
      | cons i left =>
        have hdistinct : ∀ j ∈ done, j.path ≠ i.path := by
          have hnodup := (r.zip d).distinct
          rw [hitems, List.map_append, List.nodup_append] at hnodup
          intro j hj
          exact hnodup.2.2 _ (List.mem_map_of_mem hj) _ (by simp)
        have hsnoc := Copied.snoc hcopied hdistinct
        refine hs.go_on r hscript _ (.copy d m left) (fun _ hd => hd)
          ⟨hm, hhash, done ++ [i], by simp [hitems], ?_⟩ rest
        cases hc : i.content with
        | none =>
          simp only [Phase.target, hc, Option.isSome_none, Bool.false_eq_true, if_false, put]
          exact hsnoc.2 hc
        | some c =>
          simp only [Phase.target, written, hc, Option.isSome_some, if_true, put,
            Function.update_self]
          exact hsnoc.1 c hc
    | writeManifest d m =>
      obtain ⟨hm, hhash, hcopied⟩ := hphase
      refine hs.go_on r hscript _ (.writeSource d m) (fun _ hd => hd) ⟨hm, hhash, ?_, ?_⟩ rest
      · exact hcopied.put_own (.inl rfl) _
      · exact put_self ..
    | writeSource d m =>
      obtain ⟨hm, hhash, hcopied, hmanifest⟩ := hphase
      refine ⟨?_, fun x hx => by cases hx; trivial⟩
      intro d' _ hmark
      change Marker (put s.folders (some (d, sourceJson)) (some sourceInfo) d') at hmark
      change Complete r d' (put s.folders (some (d, sourceJson)) (some sourceInfo) d')
      by_cases hd : d' = d
      · subst hd
        subst hm
        refine ⟨hhash, hcopied.put_own (.inr rfl) _, ?_, ?_⟩
        · rw [put_other s.folders d' _ (by decide)]
          exact hmanifest
        · rw [put_self]
          rfl
      · have hput : put s.folders (some (d, sourceJson)) (some sourceInfo) d' = s.folders d' := by
          apply put_of_ne
          intro p hp
          cases hp
          exact hd rfl
        rw [hput] at hmark ⊢
        apply hs.settled d' _ hmark
        intro x hx
        rw [hscript] at hx
        cases hx
        intro he
        cases he
        exact hd rfl

/-- **Every step** that does not end an attempt behind its mark keeps the invariant. -/
theorem step_inv {s t : State} {a : Action} (hs : Inv r s) (hc : EndsUnmarked s a)
    (h : step r sourceInfo s a = some t) : Inv r t := by
  cases a with
  | sync =>
    simp only [step] at h
    cases hscript : s.script with
    | some script =>
      rw [hscript] at h
      cases h
    | none =>
      rw [hscript] at h
      cases h
      refine ⟨?_, fun x hx => by cases hx; trivial⟩
      intro d _ hmark
      apply hs.settled d _ hmark
      intro x hx
      rw [hscript] at hx
      cases hx
  | kill =>
    simp only [step] at h
    cases hscript : s.script with
    | none =>
      rw [hscript] at h
      cases h
    | some script =>
      rw [hscript] at h
      cases h
      refine ⟨?_, fun x hx => by cases hx⟩
      intro d _ hmark
      apply hs.settled d _ hmark
      intro x hx hd
      rw [hscript] at hx
      cases hx
      exact hc script hscript d hd hmark
  | op outcome =>
    cases outcome with
    | ok => exact step_ok_inv r sourceInfo hs h
    | fails left =>
      simp only [step] at h
      cases hscript : s.script with
      | none =>
        rw [hscript] at h
        cases h
      | some script =>
        rw [hscript] at h
        dsimp only at h
        split at h
        · cases h
          refine hs.end_unmarked r hscript left ?_ ?_
          · intro d hd
            exact hc script hscript d hd
          · intro x hx
            unfold afterFailure at hx
            split at hx <;> cases hx
            rfl
        · cases h

/-! ## Installing what can be installed -/

/-- One step that does not end an attempt behind its mark. -/
def Good (s t : State) : Prop := ∃ a, EndsUnmarked s a ∧ step r sourceInfo s a = some t

abbrev Reaches (s t : State) : Prop := Relation.ReflTransGen (Good r sourceInfo) s t

theorem Reaches.inv {s t : State} (h : Reaches r sourceInfo s t) (hs : Inv r s) : Inv r t := by
  induction h with
  | refl => exact hs
  | tail _ hstep ih =>
    obtain ⟨a, hc, ha⟩ := hstep
    exact step_inv r sourceInfo ih hc ha

theorem Reaches.runTo {s t : State} (h : Reaches r sourceInfo s t) :
    ∃ as, runTo (step r sourceInfo) s as = some t := by
  induction h with
  | refl => exact ⟨[], rfl⟩
  | @tail t u _ hstep ih =>
    obtain ⟨as, has⟩ := ih
    obtain ⟨a, -, ha⟩ := hstep
    refine ⟨as ++ [a], ?_⟩
    rw [runTo_append, has, Option.bind_some, Lib.runTo, ha]
    rfl

theorem Good.ok {s t : State} (h : step r sourceInfo s (.op .ok) = some t) :
    Good r sourceInfo s t :=
  ⟨.op .ok, fun _ _ _ _ => trivial, h⟩

/-- An entry can be passed without a change: it is skipped, or its manifest cannot be fetched. -/
theorem reaches_pass (folders : Dest → Folder) (e : Entry) (rest : List Entry) :
    Reaches r sourceInfo ⟨folders, some ⟨e :: rest, .next⟩⟩ ⟨folders, some ⟨rest, .next⟩⟩ := by
  by_cases hempty : e.uuid = "" ∨ e.version = ""
  · refine .single (Good.ok r sourceInfo ?_)
    simp only [step, afterSuccess, if_pos hempty]
    rfl
  · by_cases hmark : Marker (folders ⟨e.uuid, e.version⟩)
    · refine .single (Good.ok r sourceInfo ?_)
      simp only [step, afterSuccess, if_neg hempty, if_pos hmark]
      rfl
    · have hfetch : Good r sourceInfo ⟨folders, some ⟨e :: rest, .next⟩⟩
          ⟨folders, some ⟨rest, .fetchManifest e⟩⟩ := by
        refine Good.ok r sourceInfo ?_
        simp only [step, afterSuccess, if_neg hempty, if_neg hmark]
        rfl
      refine (Relation.ReflTransGen.single hfetch).tail ⟨.op (.fails none), ?_, rfl⟩
      intro script hscript d hd
      cases hscript
      cases hd

theorem reaches_entry (folders : Dest → Folder) (pre rest : List Entry) :
    Reaches r sourceInfo ⟨folders, some ⟨pre ++ rest, .next⟩⟩ ⟨folders, some ⟨rest, .next⟩⟩ := by
  induction pre with
  | nil => exact .refl
  | cons e pre ih => exact (reaches_pass r sourceInfo folders e (pre ++ rest)).trans ih

/-- The copy loop runs to its end. -/
theorem reaches_copied (d : Dest) (m : Manifest) (rest : List Entry) (left : List Item)
    (folders : Dest → Folder) : ∃ folders', Reaches r sourceInfo
      ⟨folders, some ⟨rest, .copy d m left⟩⟩ ⟨folders', some ⟨rest, .writeManifest d m⟩⟩ := by
  induction left generalizing folders with
  | nil => exact ⟨_, .single (Good.ok r sourceInfo rfl)⟩
  | cons i left ih =>
    have hcopy : Good r sourceInfo ⟨folders, some ⟨rest, .copy d m (i :: left)⟩⟩
        ⟨put folders (Phase.copy d m (i :: left)).target i.content, some ⟨rest, .copy d m left⟩⟩ :=
      Good.ok r sourceInfo rfl
    obtain ⟨folders', hrest⟩ := ih (put folders (Phase.copy d m (i :: left)).target i.content)
    exact ⟨folders', hrest.head hcopy⟩

/-- An attempt that nothing disturbs leaves its mark. -/
theorem reaches_marked (e : Entry) (rest : List Entry) (folders : Dest → Folder)
    (hhash : HashOk (r.manifest e.uuid) (r.zip (destOf r e))) :
    ∃ folders', Reaches r sourceInfo
      ⟨folders, some ⟨rest, .download (destOf r e) (r.manifest e.uuid)⟩⟩
      ⟨folders', some ⟨rest, .next⟩⟩ ∧ Marker (folders' (destOf r e)) := by
  have hdownload : Good r sourceInfo
      ⟨folders, some ⟨rest, .download (destOf r e) (r.manifest e.uuid)⟩⟩
      ⟨folders, some ⟨rest, .hash (destOf r e) (r.manifest e.uuid)⟩⟩ := Good.ok r sourceInfo rfl
  have hsha : Good r sourceInfo ⟨folders, some ⟨rest, .hash (destOf r e) (r.manifest e.uuid)⟩⟩
      ⟨folders, some ⟨rest, .extract (destOf r e) (r.manifest e.uuid)⟩⟩ := by
    refine Good.ok r sourceInfo ?_
    have hmatch : ¬ ((r.manifest e.uuid).expectedSha ≠ "" ∧
        (r.zip (destOf r e)).sha256 ≠ (r.manifest e.uuid).expectedSha) := by
      rintro ⟨hne, hdiff⟩
      exact hhash.elim hne hdiff
    simp only [step, afterSuccess, if_neg hmatch]
    rfl
  have hextract : Good r sourceInfo
      ⟨folders, some ⟨rest, .extract (destOf r e) (r.manifest e.uuid)⟩⟩
      ⟨folders, some ⟨rest, .makeDir (destOf r e) (r.manifest e.uuid)⟩⟩ := Good.ok r sourceInfo rfl
  have hmake : Good r sourceInfo
      ⟨folders, some ⟨rest, .makeDir (destOf r e) (r.manifest e.uuid)⟩⟩
      ⟨folders, some ⟨rest,
        .copy (destOf r e) (r.manifest e.uuid) (r.zip (destOf r e)).items⟩⟩ :=
    Good.ok r sourceInfo rfl
  obtain ⟨copied, hcopied⟩ := reaches_copied r sourceInfo (destOf r e) (r.manifest e.uuid) rest
    (r.zip (destOf r e)).items folders
  have hmanifest : Good r sourceInfo
      ⟨copied, some ⟨rest, .writeManifest (destOf r e) (r.manifest e.uuid)⟩⟩
      ⟨put copied (some (destOf r e, manifestJson)) (some (r.manifest e.uuid).json),
        some ⟨rest, .writeSource (destOf r e) (r.manifest e.uuid)⟩⟩ := Good.ok r sourceInfo rfl
  have hsource : Good r sourceInfo
      ⟨put copied (some (destOf r e, manifestJson)) (some (r.manifest e.uuid).json),
        some ⟨rest, .writeSource (destOf r e) (r.manifest e.uuid)⟩⟩
      ⟨put (put copied (some (destOf r e, manifestJson)) (some (r.manifest e.uuid).json))
        (some (destOf r e, sourceJson)) (some sourceInfo), some ⟨rest, .next⟩⟩ :=
    Good.ok r sourceInfo rfl
  refine ⟨put (put copied (some (destOf r e, manifestJson)) (some (r.manifest e.uuid).json))
    (some (destOf r e, sourceJson)) (some sourceInfo), ?_, ?_⟩
  · exact (((((hcopied.head hmake).head hextract).head hsha).head hdownload).tail hmanifest).tail
      hsource
  · rw [Marker, put_other _ _ _ (by decide), put_self]
    rfl

/-- **No state of the invariant stops a later run.** -/
theorem Inv.canInstall {s : State} (hs : Inv r s) (hsettled : Settled s) {e : Entry}
    (he : e ∈ r.index) (hinst : Installable r e) : CanInstall r sourceInfo s e := by
  obtain ⟨pre, post, hindex⟩ := List.append_of_mem he
  obtain ⟨huuid, hver, hhash⟩ := hinst
  -- a new run comes to the entry
  have hstart : Reaches r sourceInfo s ⟨s.folders, some ⟨e :: post, .next⟩⟩ := by
    have hidle : Reaches r sourceInfo s ⟨s.folders, none⟩ := by
      obtain ⟨folders, script⟩ := s
      cases script with
      | none => exact .refl
      | some script =>
        refine .single ⟨.kill, ?_, rfl⟩
        intro x hx d hd
        rw [hsettled x hx] at hd
        cases hd
    have hsync : Good r sourceInfo ⟨s.folders, none⟩ ⟨s.folders, some ⟨r.index, .next⟩⟩ := by
      refine ⟨.sync, ?_, rfl⟩
      intro x hx
      cases hx
    rw [hindex] at hsync
    exact (hidle.tail hsync).trans (reaches_entry r sourceInfo s.folders pre (e :: post))
  by_cases hmark : Marker (s.folders ⟨e.uuid, e.version⟩)
  · exact ⟨[], s, rfl, .inl (hs.of_settled r hsettled _ hmark)⟩
  · by_cases hmark' : Marker (s.folders (destOf r e))
    · exact ⟨[], s, rfl, .inr (hs.of_settled r hsettled _ hmark')⟩
    · have hfetch : Good r sourceInfo ⟨s.folders, some ⟨e :: post, .next⟩⟩
          ⟨s.folders, some ⟨post, .fetchManifest e⟩⟩ := by
        refine Good.ok r sourceInfo ?_
        simp only [step, afterSuccess, if_neg (not_or.2 ⟨huuid, hver⟩), if_neg hmark]
        rfl
      have hdownload : Good r sourceInfo ⟨s.folders, some ⟨post, .fetchManifest e⟩⟩
          ⟨s.folders, some ⟨post, .download (destOf r e) (r.manifest e.uuid)⟩⟩ := by
        have hnew : ¬ (destOf r e ≠ ⟨e.uuid, e.version⟩ ∧ Marker (s.folders (destOf r e))) := by
          intro h
          exact hmark' h.2
        refine Good.ok r sourceInfo ?_
        simp only [step, afterSuccess, if_neg hnew]
        rfl
      obtain ⟨folders', hreach, hmarked⟩ := reaches_marked r sourceInfo e post s.folders hhash
      have hall := ((hstart.tail hfetch).tail hdownload).trans hreach
      obtain ⟨as, has⟩ := Reaches.runTo r sourceInfo hall
      have hinv := Reaches.inv r sourceInfo hall hs
      refine ⟨as, _, has, .inr (hinv.of_settled r ?_ _ hmarked)⟩
      intro x hx
      cases hx
      rfl

/-- **A partial install is never taken for a complete one**, in every run whose attempts end before
    the mark or not at all. -/
theorem registry_sync_complete (as : List Action)
    (h : AllSteps (step r sourceInfo) EndsUnmarked (State.installed fun _ _ => none) as) :
    Always (step r sourceInfo) (NeverPartial r sourceInfo) (State.installed fun _ _ => none) as := by
  refine Always.of_inv (I := Inv r) ?_ ?_ (Inv.installed r) h
  · intro s a t hs hc hst
    exact step_inv r sourceInfo hs hc hst
  · intro s hs hsettled
    refine ⟨hs.of_settled r hsettled, ?_⟩
    intro e he hinst
    exact hs.canInstall r sourceInfo hsettled he hinst

/-! ## A manifest in the payload -/

/-- A registry with one module, whose payload starts with a manifest of its own. -/
def oneModule : Registry where
  index := [⟨"u", "1.0"⟩]
  manifest := fun _ => ⟨some "1.0", some "abc", "\x7b\x7d"⟩
  payload := fun _ _ => ⟨"abc", [⟨"manifest.json", some "own"⟩, ⟨"assemblies", none⟩,
    ⟨"assemblies\\module.dll", some "code"⟩], by decide⟩

/-- A run up to the copy loop. -/
def untilCopy : List Action :=
  [.sync, .op .ok, .op .ok, .op .ok, .op .ok, .op .ok, .op .ok]

/-- A first run that is killed before it copies anything, and a second one that is not. -/
theorem oneModule_installed : Always (step oneModule "\x7b\x7d") (NeverPartial oneModule "\x7b\x7d")
    (State.installed fun _ _ => none)
    (untilCopy ++ [.kill] ++ untilCopy ++ List.replicate 6 (.op .ok)) :=
  registry_sync_complete oneModule "\x7b\x7d" _ (by decide +kernel)

/-- The first run copies the payload's manifest and is killed. -/
def killedCopy : List Action := untilCopy ++ [.op .ok, .kill]

/-- **A killed copy** is taken for a complete install. -/
theorem killedCopy_incomplete : ¬ Always (step oneModule "\x7b\x7d")
    (NeverPartial oneModule "\x7b\x7d") (State.installed fun _ _ => none) killedCopy := by
  intro h
  have hrun : (runTo (step oneModule "\x7b\x7d") (State.installed fun _ _ => none)
      killedCopy).isSome := by decide +kernel
  obtain ⟨s, hs⟩ := Option.isSome_iff_exists.1 hrun
  have hend : ∀ s ∈ runTo (step oneModule "\x7b\x7d") (State.installed fun _ _ => none) killedCopy,
      s.script.isNone ∧ Marker (s.folders ⟨"u", "1.0"⟩) ∧
        s.folders ⟨"u", "1.0"⟩ "assemblies\\module.dll" = none := by decide +kernel
  obtain ⟨hidle, hmark, hmissing⟩ := hend s hs
  have hsettled : Settled s := by
    intro x hx
    rw [Option.isNone_iff_eq_none.1 hidle] at hx
    cases hx
  have hcomplete := (h.runTo hs hsettled).1 ⟨"u", "1.0"⟩ hmark
  have hdll := hcomplete.payload ⟨"assemblies\\module.dll", some "code"⟩
    (List.mem_cons_of_mem _ (List.mem_cons_of_mem _ List.mem_cons_self)) "code" rfl (by decide)
    (by decide)
  rw [hmissing] at hdll
  cases hdll

end WKPairDriver.FaceTracking.RegistrySync
