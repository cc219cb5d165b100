import WKPairDriver.Lib.Bytes
import WKPairDriver.Overlay.Migration

/-!
# The markers of the migration

Over any sequence of launches: which steps later launches take as finished, and what was carried
over by then.  A step is settled once it has found its new location configured by the user, or
nothing to carry over, or has left all old data at the new location.

* `migration_markers` — the condition under which no marker stands without its data: no copy stops
  between its first and its last entry, no registry key is created without its content, and the
  sentinel is not written after a failed write of the port.
* `interrupted_launch_finishes` — one launch with three such failures sets three markers.
-/

set_option autoImplicit false

namespace WKPairDriver.Overlay

open Lib Lib.Json Lib.Bytes

/-! ## Finished and settled -/

section Specification
variable (json : Picojson)

/-- The sentinel is set in the profiles of a directory. -/
def sentinelIn (disk : Tree String (List UInt8)) (root : List String) : Bool :=
  match facetracking json disk root with
  | some ft => migrated ft
  | none => false

/-- The marker of a step stands: later launches take it as finished. -/
def finished (w : World) : Step → Bool
  | .appData => (w.disk.get newDir).isSome
  | .scRegistry => (openKey w.registry kNewKey).isSome
  | .ftOscPort => sentinelIn json w.disk newDir
  | .translatorToCaptions => (w.disk.get captions).isSome

/-- The old directory has the marker of a step, which its copy brings along. -/
def inherited (w : World) : Step → Bool
  | .ftOscPort => sentinelIn json w.disk oldDir
  | .translatorToCaptions => (w.disk.get (oldDir ++ ["captions"])).isSome
  | _ => false

/-- The port that the profile of the face tracking has to carry over. -/
def portToCarry (w : World) : Option ℤ := (facetracking json w.disk newDir).bind oldPort

def routerPort (w : World) : Option ℤ :=
  (oscrouter json w.disk).map fun root => IntAt root "send_port" 9000

/-- From `w` to `w'` a step found nothing to carry over, or a location that the user had configured,
    or it left all old data of `w` at the new location. -/
def Settles (w w' : World) : Step → Prop
  | .appData => w.disk.get oldDir = none ∨ w'.disk.get newDir = w.disk.get oldDir
  | .scRegistry => openKey w.registry kOldKey = none ∨
      openKey w'.registry kNewKey = openKey w.registry kOldKey
  | .ftOscPort => portToCarry json w = none ∨ routerConfigured json w.disk = true ∨
      routerPort json w' = portToCarry json w
  | .translatorToCaptions => w.disk.get translator = none ∨
      w'.disk.get captions = w.disk.get translator

/-- The world, and the steps that some launch has settled. -/
structure History where
  world : World
  settled : Step → Prop

/-- Before the first launch the markers that stand are those of the user. -/
def begin (w : World) : History where
  world := w
  settled step := finished json w step = true ∨ inherited json w step = true

/-- One step of a launch. -/
def migrate (h : History) (m : Migration) : Option History :=
  some {
    world := m.run json h.world
    settled := fun step => h.settled step ∨
      step = m.step ∧ Settles json h.world (m.run json h.world) step }

/-- The writes of a step that has something to do all succeed. -/
def Succeeds (w : World) : Migration → Bool
  | .appData o => (w.disk.get oldDir).all fun old => decide (old.size ≤ o.operations)
  | .scRegistry o => (openKey w.registry kOldKey).all fun old =>
      o.created && o.opened && decide (old.size ≤ o.operations)
  | .ftOscPort o => (portToCarry json w).all fun port =>
      o.router.completes (routerBody json w.disk port)
  | .translatorToCaptions renamed => renamed

/-- A step that has something to do writes everything, or fails before it has written its marker. -/
def Meets (w : World) : Migration → Bool
  | .appData o => (w.disk.get newDir).isSome || (w.disk.get oldDir).all fun old =>
      decide (old.size ≤ o.operations) || (old.copyUpTo o.keptOf o.operations).copy.isNone
  | .scRegistry o => (openKey w.registry kNewKey).isSome || (openKey w.registry kOldKey).all fun old =>
      !o.created || o.opened && decide (old.size ≤ o.operations)
  | .ftOscPort o => (facetracking json w.disk newDir).all fun root =>
      migrated root || routerConfigured json w.disk || (oldPort root).all fun port =>
        o.router.completes (routerBody json w.disk port) ||
          !o.sentinel.replaces (json.serialize (root.set "osc_migrated_to_router" (.bool true)))
  | .translatorToCaptions _ => true

/-- A step that is taken as finished is settled. -/
def MarkersHold (h : History) : Prop := ∀ step, finished json h.world step = true → h.settled step

/-- A step that is not taken as finished is attempted again: where its writes succeed, it settles. -/
def Retried (w : World) : Prop := ∀ m : Migration, finished json w m.step = false →
  Succeeds json w m = true → Settles json w (m.run json w) m.step

/-- A port that was set is found again in the text. -/
def ReadsSendPort (json : Picojson) : Prop := ∀ (o : Object) (port : ℤ), customPort port = true →
  (ParseObject json (json.serialize (o.set "send_port" (.number port)))).map
    (fun root => IntAt root "send_port" 9000) = some port

end Specification

/-! ## What a step does -/

theorem migrateAppData_cases (o : CopyOutcome) (w : World) : MigrateAppData o w = w ∨
    ∃ old copy, w.disk.get newDir = none ∧ w.disk.get oldDir = some old ∧
      (old.copyUpTo o.keptOf o.operations).copy = some copy ∧
      MigrateAppData o w = { w with disk := Tree.put copy w.disk newDir } := by
  unfold MigrateAppData
  split
  · exact .inl rfl
  · next hnew =>
    split
    · exact .inl rfl
    · next old hold =>
      split
      · exact .inl rfl
      · next copy hcopy =>
        exact .inr ⟨old, copy, by simpa using hnew, hold, hcopy, rfl⟩

theorem migrateScRegistryKey_cases (o : RegOutcome) (w : World) : MigrateScRegistryKey o w = w ∨
    ∃ old content, openKey w.registry kNewKey = none ∧ openKey w.registry kOldKey = some old ∧
      o.created = true ∧
      MigrateScRegistryKey o w =
        { w with registry := Tree.put (.node content) w.registry kNewKey } := by
  unfold MigrateScRegistryKey
  split
  · exact .inl rfl
  · next hnew =>
    split
    · exact .inl rfl
    · next old hold =>
      split
      · exact .inl rfl
      · next hcreated =>
        exact .inr ⟨old, _, by simpa using hnew, hold, by simpa using hcreated, rfl⟩

theorem migrateTranslatorToCaptions_cases (renamed : Bool) (w : World) :
    MigrateTranslatorToCaptions renamed w = w ∨
    ∃ x, w.disk.get translator = some x ∧ w.disk.get captions = none ∧ renamed = true ∧
      MigrateTranslatorToCaptions renamed w =
        { w with disk := Tree.put x (w.disk.remove translator) captions } := by
  unfold MigrateTranslatorToCaptions
  split
  · exact .inl rfl
  · next x hx =>
    split
    · exact .inl rfl
    · next hcap =>
      split
      · next hren => exact .inr ⟨x, hx, by simpa using hcap, hren, rfl⟩
      · exact .inl rfl

section Port
variable {json : Picojson}

theorem migrateFtOscPort_cases (json : Picojson) (o : PortOutcome) (w : World) :
    MigrateFtOscPort json o w = w ∧ (facetracking json w.disk newDir = none ∨
      sentinelIn json w.disk newDir = true) ∨
    ∃ root, facetracking json w.disk newDir = some root ∧ migrated root = false ∧
      MigrateFtOscPort json o w =
        { w with disk := writeSentinel json o.sentinel (carryPort json o.router root w.disk) } := by
  unfold MigrateFtOscPort
  split
  · next hft => exact .inl ⟨rfl, .inl hft⟩
  · next root hft =>
    split
    · next hm => exact .inl ⟨rfl, .inr (by rw [sentinelIn, hft]; exact hm)⟩
    · next hm => exact .inr ⟨root, hft, by simpa using hm, rfl⟩

/-- The port is carried by a write of the router profile, or nothing is written. -/
theorem carryPort_cases (json : Picojson) (o : WriteOutcome) (root : Object)
    (disk : Tree String (List UInt8)) :
    carryPort json o root disk = disk ∧ (oldPort root = none ∨ routerConfigured json disk = true) ∨
    ∃ port, oldPort root = some port ∧ routerConfigured json disk = false ∧
      carryPort json o root disk =
        replaceFile o (profiles newDir) "oscrouter.json" (routerBody json disk port) disk := by
  unfold carryPort
  split
  · next hp => exact .inl ⟨rfl, .inl hp⟩
  · next port hp =>
    split
    · next hc => exact .inl ⟨rfl, .inr hc⟩
    · next hc => exact .inr ⟨port, hp, by simpa using hc, rfl⟩

theorem customPort_of_oldPort {root : Object} {port : ℤ} (h : oldPort root = some port) :
    customPort port = true := by
  unfold oldPort at h
  dsimp only at h
  split at h
  · next hc =>
    cases h
    exact hc
  · cases h

/-- A path that the writes of the port do not touch. -/
def Untouched (q : List String) : Prop :=
  ∀ name ∈ ["oscrouter.json", "oscrouter.json.tmp", "facetracking.json", "facetracking.json.tmp"],
    Tree.Disjoint (profiles newDir ++ [name]) q

instance decidableUntouched (q : List String) : Decidable (Untouched q) :=
  inferInstanceAs (Decidable (∀ name ∈ _, _))

theorem get_carryPort (o : WriteOutcome) (root : Object) (disk : Tree String (List UInt8))
    {q : List String} (hpath : Tree.Disjoint (profiles newDir ++ ["oscrouter.json"]) q)
    (htmp : Tree.Disjoint (profiles newDir ++ ["oscrouter.json.tmp"]) q) :
    (carryPort json o root disk).get q = disk.get q := by
  obtain ⟨h, -⟩ | ⟨port, -, -, h⟩ := carryPort_cases json o root disk
  · rw [h]
  · rw [h]
    exact get_replaceFile hpath htmp

theorem facetracking_carryPort (o : WriteOutcome) (root : Object)
    (disk : Tree String (List UInt8)) :
    facetracking json (carryPort json o root disk) newDir = facetracking json disk newDir := by
  unfold facetracking readFile
  rw [get_carryPort o root disk (by decide) (by decide)]

/-- The profile is read again, and is the one that was read before. -/
theorem writeSentinel_carryPort (o : PortOutcome) {root : Object}
    {disk : Tree String (List UInt8)} (h : facetracking json disk newDir = some root) :
    writeSentinel json o.sentinel (carryPort json o.router root disk) =
      replaceFile o.sentinel (profiles newDir) "facetracking.json"
        (json.serialize (root.set "osc_migrated_to_router" (.bool true)))
        (carryPort json o.router root disk) := by
  rw [writeSentinel, facetracking_carryPort, h]

theorem get_migrateFtOscPort (o : PortOutcome) (w : World) {q : List String} (hq : Untouched q) :
    (MigrateFtOscPort json o w).disk.get q = w.disk.get q := by
  obtain ⟨h, -⟩ | ⟨root, hft, -, h⟩ := migrateFtOscPort_cases json o w
  · rw [h]
  · rw [h, writeSentinel_carryPort o hft]
    rw [get_replaceFile (hq _ (by simp)) (hq _ (by decide)),
      get_carryPort _ _ _ (hq _ (by simp)) (hq _ (by simp))]

theorem isSome_newDir_migrateFtOscPort (o : PortOutcome) (w : World) :
    ((MigrateFtOscPort json o w).disk.get newDir).isSome = (w.disk.get newDir).isSome := by
  obtain ⟨h, -⟩ | ⟨root, hft, -, h⟩ := migrateFtOscPort_cases json o w
  · rw [h]
  · rw [h, writeSentinel_carryPort o hft]
    have hprofiles : profiles newDir = newDir ++ ["profiles"] := rfl
    rw [isSome_replaceFile hprofiles]
    obtain ⟨hc, -⟩ | ⟨port, -, -, hc⟩ := carryPort_cases json o.router root w.disk
    · rw [hc]
    · rw [hc, isSome_replaceFile hprofiles]

/-- A router profile that was written completely has the port. -/
theorem routerPort_migrateFtOscPort (hjson : ReadsSendPort json) (o : PortOutcome) {w : World}
    {root : Object} {port : ℤ} (hft : facetracking json w.disk newDir = some root)
    (hm : migrated root = false) (hport : oldPort root = some port)
    (hrouter : routerConfigured json w.disk = false)
    (ho : o.router.completes (routerBody json w.disk port) = true) :
    routerPort json (MigrateFtOscPort json o w) = some port := by
  have hnode : w.disk.IsNode (profiles newDir) := by
    rw [facetracking, readFile] at hft
    split at hft
    · next text hget => exact Tree.isNode_of_get hget
    · cases hft
  have hrun : MigrateFtOscPort json o w =
      { w with disk := writeSentinel json o.sentinel (carryPort json o.router root w.disk) } := by
    rw [MigrateFtOscPort, hft]
    exact if_neg (by rw [hm]; decide)
  have hcarry : carryPort json o.router root w.disk =
      replaceFile o.router (profiles newDir) "oscrouter.json" (routerBody json w.disk port)
        w.disk := by
    rw [carryPort, hport]
    exact if_neg (by rw [hrouter]; decide)
  have hread : readFile (replaceFile o.router (profiles newDir) "oscrouter.json"
      (routerBody json w.disk port) w.disk) (profiles newDir ++ ["oscrouter.json"]) =
      some (routerBody json w.disk port) := readFile_replaceFile hnode ho
  rw [readFile] at hread
  rw [routerPort, oscrouter, readFile, hrun, writeSentinel_carryPort o hft,
    get_replaceFile (by decide) (by decide), hcarry, hread]
  exact hjson _ port (customPort_of_oldPort hport)

end Port

/-! ## Markers come with their data -/

section Markers
variable {json : Picojson} {w : World}

/-- What is found below the new directory after a copy of `copy`. -/
theorem get_copied {old copy : Tree String (List UInt8)} (hold : w.disk.get oldDir = some old)
    (q : List String) : (Tree.put copy w.disk newDir).get (newDir ++ q) = copy.get q := by
  have hnode : w.disk.IsNode [] := Tree.isNode_of_get hold
  rw [Tree.get_append, show newDir = [] ++ newDir from rfl, newDir, Tree.get_put_self hnode,
    Option.bind_some]

theorem sentinelIn_copied {old : Tree String (List UInt8)} (hold : w.disk.get oldDir = some old) :
    sentinelIn json (Tree.put old w.disk newDir) newDir = sentinelIn json w.disk oldDir := by
  have hget : (Tree.put old w.disk newDir).get (profiles newDir ++ ["facetracking.json"]) =
      w.disk.get (profiles oldDir ++ ["facetracking.json"]) := by
    rw [profiles, profiles, List.append_assoc, List.append_assoc, get_copied hold,
      Tree.get_append w.disk, hold, Option.bind_some]
  unfold sentinelIn facetracking readFile
  rw [hget]

theorem appData_complete {o : CopyOutcome} (hm : Meets json w (.appData o) = true)
    {old copy : Tree String (List UInt8)} (hnew : w.disk.get newDir = none)
    (hold : w.disk.get oldDir = some old)
    (hcopy : (old.copyUpTo o.keptOf o.operations).copy = some copy) : copy = old := by
  rw [Meets, hnew, hold, Option.all_some, hcopy, Option.isNone_some, Option.isSome_none,
    Bool.false_or, Bool.or_false, decide_eq_true_eq] at hm
  rw [Tree.copyUpTo_of_size_le _ _ _ hm] at hcopy
  exact (Option.some.inj hcopy).symm

/-- A marker that stands after a step stood before it, or in the old directory, or the step has
    settled. -/
def Justified (json : Picojson) (w w' : World) (m : Migration) : Prop :=
  ∀ k, finished json w' k = true → finished json w k = true ∨ inherited json w k = true ∨
    k = m.step ∧ Settles json w w' k

theorem Justified.refl (json : Picojson) (w : World) (m : Migration) : Justified json w w m :=
  fun _ h => .inl h

theorem settles_appData {o : CopyOutcome} (hnew : w.disk.get newDir = none)
    (ho : ∀ old, w.disk.get oldDir = some old →
      (old.copyUpTo o.keptOf o.operations).copy = some old) :
    Settles json w (MigrateAppData o w) .appData := by
  cases hold : w.disk.get oldDir with
  | none => exact .inl hold
  | some old =>
    have hget : (Tree.put old w.disk newDir).get (newDir ++ []) = some old := by
      rw [get_copied hold, Tree.get_nil]
    refine .inr ?_
    simp only [MigrateAppData, hnew, hold, ho old hold, Option.isSome_none, Bool.false_eq_true,
      if_false]
    exact hget

theorem settles_scRegistry {o : RegOutcome} (hnew : openKey w.registry kNewKey = none)
    (ho : ∀ old, openKey w.registry kOldKey = some old →
      o.created = true ∧ o.opened = true ∧ old.size ≤ o.operations) :
    Settles json w (MigrateScRegistryKey o w) .scRegistry := by
  cases hold : openKey w.registry kOldKey with
  | none => exact .inl hold
  | some old =>
    obtain ⟨hcreated, hopened, hsize⟩ := ho old hold
    have hnode : w.registry.IsNode [.key "Software"] := by
      unfold openKey at hold
      split at hold
      · next cs hget => exact Tree.isNode_of_get hget
      · cases hold
    have hget : (Tree.put (.node old) w.registry kNewKey).get kNewKey = some (.node old) :=
      Tree.get_put_self hnode _ _
    refine .inr ?_
    simp only [MigrateScRegistryKey, hnew, hold, hcreated, hopened,
      Forest.copyUpTo_of_size_le _ _ _ hsize, Option.isSome_none, Bool.false_eq_true,
      Bool.true_eq_false, if_false, if_true]
    rw [openKey, hget]

theorem justified_appData {o : CopyOutcome} (hm : Meets json w (.appData o) = true) :
    Justified json w (MigrateAppData o w) (.appData o) := by
  obtain h | ⟨old, copy, hnew, hold, hcopy, h⟩ := migrateAppData_cases o w
  · rw [h]
    exact .refl json w _
  · obtain rfl := appData_complete hm hnew hold hcopy
    rw [h]
    intro k hk
    cases k with
    | appData =>
      refine .inr (.inr ⟨rfl, ?_⟩)
      rw [← h]
      exact settles_appData hnew fun old' hold' => by
        obtain rfl := Option.some.inj (hold.symm.trans hold')
        exact hcopy
    | scRegistry => exact .inl hk
    | ftOscPort => exact .inr (.inl ((sentinelIn_copied hold).symm.trans hk))
    | translatorToCaptions =>
      rw [finished, captions, get_copied hold] at hk
      refine .inr (.inl ?_)
      rw [inherited, Tree.get_append, hold]
      exact hk

theorem justified_scRegistry {o : RegOutcome} (hm : Meets json w (.scRegistry o) = true) :
    Justified json w (MigrateScRegistryKey o w) (.scRegistry o) := by
  obtain h | ⟨old, content, hnew, hold, hcreated, h⟩ := migrateScRegistryKey_cases o w
  · rw [h]
    exact .refl json w _
  · rw [Meets, hnew, hold, hcreated] at hm
    simp only [Option.isSome_none, Option.all_some, Bool.not_true, Bool.false_or, Bool.and_eq_true,
      decide_eq_true_eq] at hm
    obtain ⟨hopened, hsize⟩ := hm
    rw [h]
    intro k hk
    cases k with
    | scRegistry =>
      refine .inr (.inr ⟨rfl, ?_⟩)
      rw [← h]
      exact settles_scRegistry hnew fun old' hold' => by
        obtain rfl := Option.some.inj (hold.symm.trans hold')
        exact ⟨hcreated, hopened, hsize⟩
    | appData => exact .inl hk
    | ftOscPort => exact .inl hk
    | translatorToCaptions => exact .inl hk

/-- Where the port is carried over if the sentinel is written, the step settles or leaves the
    sentinel as it is. -/
theorem settles_ftOscPort (hjson : ReadsSendPort json) {o : PortOutcome} {root : Object}
    (hft : facetracking json w.disk newDir = some root) (hmig : migrated root = false)
    (ho : ∀ port, oldPort root = some port → routerConfigured json w.disk = false →
      o.router.completes (routerBody json w.disk port) = true) :
    Settles json w (MigrateFtOscPort json o w) .ftOscPort := by
  have hcarry : portToCarry json w = oldPort root := by rw [portToCarry, hft, Option.bind_some]
  rw [Settles, hcarry]
  cases hport : oldPort root with
  | none => exact .inl rfl
  | some port =>
    cases hrouter : routerConfigured json w.disk with
    | true => exact .inr (.inl rfl)
    | false =>
      exact .inr (.inr (routerPort_migrateFtOscPort hjson o hft hmig hport hrouter
        (ho port hport hrouter)))

theorem justified_ftOscPort (hjson : ReadsSendPort json) {o : PortOutcome}
    (hm : Meets json w (.ftOscPort o) = true) :
    Justified json w (MigrateFtOscPort json o w) (.ftOscPort o) := by
  obtain ⟨h, -⟩ | ⟨root, hft, hmig, h⟩ := migrateFtOscPort_cases json o w
  · rw [h]
    exact .refl json w _
  intro k hk
  cases k with
  | appData => exact .inl ((isSome_newDir_migrateFtOscPort o w).symm.trans hk)
  | scRegistry =>
    rw [h] at hk
    exact .inl hk
  | translatorToCaptions =>
    rw [finished, get_migrateFtOscPort o w (by decide)] at hk
    exact .inl hk
  | ftOscPort =>
    rw [Meets, hft, Option.all_some, hmig, Bool.false_or, Bool.or_eq_true] at hm
    by_cases hsent :
        o.sentinel.replaces (json.serialize (root.set "osc_migrated_to_router" (.bool true))) = true
    · refine .inr (.inr ⟨rfl, settles_ftOscPort hjson hft hmig fun port hport hrouter => ?_⟩)
      rw [hrouter, hport, Option.all_some, hsent, Bool.not_true, Bool.or_false] at hm
      exact hm.resolve_left Bool.false_ne_true
    · -- the sentinel is not written, and the profile of the face tracking is as it was
      refine .inl ?_
      rw [h, finished, sentinelIn, facetracking, readFile, writeSentinel_carryPort o hft,
        get_replaceFile_self (by simpa using hsent)] at hk
      rw [finished, sentinelIn, ← facetracking_carryPort o.router root]
      exact hk

theorem settles_translatorToCaptions {renamed : Bool} (hcap : w.disk.get captions = none)
    (hr : renamed = true) :
    Settles json w (MigrateTranslatorToCaptions renamed w) .translatorToCaptions := by
  cases hx : w.disk.get translator with
  | none => exact .inl hx
  | some x =>
    have hnode : w.disk.IsNode newDir := Tree.isNode_of_get hx
    refine .inr ?_
    simp only [MigrateTranslatorToCaptions, hx, hcap, hr, Option.isSome_none, Bool.false_eq_true,
      if_false, if_true]
    exact Tree.get_put_self (hnode.remove _) x _

theorem justified_translatorToCaptions (renamed : Bool) :
    Justified json w (MigrateTranslatorToCaptions renamed w) (.translatorToCaptions renamed) := by
  obtain h | ⟨x, hx, hcap, hren, h⟩ := migrateTranslatorToCaptions_cases renamed w
  · rw [h]
    exact .refl json w _
  · have hnode : w.disk.IsNode newDir := Tree.isNode_of_get hx
    rw [h]
    intro k hk
    cases k with
    | appData =>
      refine .inl ?_
      obtain ⟨cs, hget⟩ := hnode
      rw [finished, hget]
      rfl
    | scRegistry => exact .inl hk
    | ftOscPort =>
      rw [finished, sentinelIn, facetracking, readFile,
        Tree.get_put_of_disjoint _ _ _ _ (by decide), Tree.get_remove_of_disjoint _ _ _ (by decide)]
        at hk
      exact .inl hk
    | translatorToCaptions =>
      refine .inr (.inr ⟨rfl, ?_⟩)
      rw [← h]
      exact settles_translatorToCaptions hcap hren

theorem justified_run (hjson : ReadsSendPort json) {m : Migration} (hm : Meets json w m = true) :
    Justified json w (m.run json w) m := by
  cases m with
  | appData o => exact justified_appData hm
  | scRegistry o => exact justified_scRegistry hm
  | ftOscPort o => exact justified_ftOscPort hjson hm
  | translatorToCaptions renamed => exact justified_translatorToCaptions renamed

/-- The old directory is left as it is. -/
theorem inherited_run (json : Picojson) (w : World) (m : Migration) :
    inherited json (m.run json w) = inherited json w := by
  have hget : ∀ q, Untouched q → Tree.Disjoint newDir q → Tree.Disjoint translator q →
      Tree.Disjoint captions q → (m.run json w).disk.get q = w.disk.get q := by
    intro q huntouched hnew htrans hcap
    cases m with
    | appData o =>
      obtain h | ⟨old, copy, -, -, -, h⟩ := migrateAppData_cases o w
      · rw [Migration.run, h]
      · rw [Migration.run, h, Tree.get_put_of_disjoint _ _ _ _ hnew]
    | scRegistry o =>
      obtain h | ⟨old, content, -, -, -, h⟩ := migrateScRegistryKey_cases o w
      · rw [Migration.run, h]
      · rw [Migration.run, h]
    | ftOscPort o => exact get_migrateFtOscPort o w huntouched
    | translatorToCaptions renamed =>
      obtain h | ⟨x, -, -, -, h⟩ := migrateTranslatorToCaptions_cases renamed w
      · rw [Migration.run, h]
      · rw [Migration.run, h, Tree.get_put_of_disjoint _ _ _ _ hcap,
          Tree.get_remove_of_disjoint _ _ _ htrans]
  funext k
  cases k with
  | appData => rfl
  | scRegistry => rfl
  | ftOscPort =>
    unfold inherited sentinelIn facetracking readFile
    rw [hget _ (by decide) (by decide) (by decide) (by decide)]
  | translatorToCaptions =>
    rw [inherited, inherited, hget _ (by decide) (by decide) (by decide) (by decide)]

/-- **A step that is attempted again settles**, where its writes succeed. -/
theorem retried (hjson : ReadsSendPort json) (w : World) : Retried json w := by
  intro m hfin hsucc
  cases m with
  | appData o =>
    refine settles_appData (by simpa [finished, Migration.step] using hfin) fun old hold => ?_
    rw [Succeeds, hold, Option.all_some, decide_eq_true_eq] at hsucc
    rw [Tree.copyUpTo_of_size_le _ _ _ hsucc]
  | scRegistry o =>
    refine settles_scRegistry (by simpa [finished, Migration.step] using hfin) fun old hold => ?_
    rw [Succeeds, hold, Option.all_some] at hsucc
    simpa [and_assoc] using hsucc
  | ftOscPort o =>
    cases hft : facetracking json w.disk newDir with
    | none =>
      refine .inl ?_
      rw [portToCarry, hft, Option.bind_none]
    | some root =>
      have hmig : migrated root = false := by
        simpa [finished, Migration.step, sentinelIn, hft] using hfin
      refine settles_ftOscPort hjson hft hmig fun port hport _ => ?_
      rw [Succeeds, portToCarry, hft, Option.bind_some, hport, Option.all_some] at hsucc
      exact hsucc
  | translatorToCaptions renamed =>
    refine settles_translatorToCaptions (by simpa [finished, Migration.step] using hfin) ?_
    exact hsucc

/-- The markers of a history, and those it may still inherit, belong to settled steps. -/
def Inv (json : Picojson) (h : History) : Prop :=
  MarkersHold json h ∧ ∀ k, inherited json h.world k = true → h.settled k

theorem migrate_inv (hjson : ReadsSendPort json) (h : History) (m : Migration) (t : History)
    (hinv : Inv json h) (hm : Meets json h.world m = true) (ht : migrate json h m = some t) :
    Inv json t := by
  cases ht
  refine ⟨fun k hk => ?_, fun k hk => ?_⟩
  · obtain hbefore | hinh | hstep := justified_run hjson hm k hk
    · exact .inl (hinv.1 k hbefore)
    · exact .inl (hinv.2 k hinh)
    · exact .inr hstep
  · rw [inherited_run] at hk
    exact .inl (hinv.2 k hk)

/-- The law over a run of steps, in whatever order launches bring them and wherever they end. -/
theorem markersHold_run (hjson : ReadsSendPort json) {run : List Migration}
    (h : AllSteps (migrate json) (fun h m => Meets json h.world m = true) (begin json w) run) :
    Always (migrate json) (fun h => MarkersHold json h ∧ Retried json h.world) (begin json w) run :=
  Always.of_inv (I := Inv json) (migrate_inv hjson) (fun h hinv => ⟨hinv.1, retried hjson h.world⟩)
    ⟨fun _ hk => .inl hk, fun _ hk => .inr hk⟩ h

end Markers

/-- **No marker without its data**: over every sequence of launches in which each step that has
    something to do writes everything or fails before it has written its marker, a step that later
    launches take as finished is settled, and one that they do not is attempted again. -/
theorem migration_markers (json : Picojson) (hjson : ReadsSendPort json) (w : World)
    (launches : List Launch)
    (h : AllSteps (migrate json) (fun h m => Meets json h.world m = true) (begin json w)
      (launches.flatMap RunFirstLaunchMigration)) :
    Always (migrate json) (fun h => MarkersHold json h ∧ Retried json h.world) (begin json w)
      (launches.flatMap RunFirstLaunchMigration) :=
  markersHold_run hjson h

/-! ## Small installations -/

/-- `{"osc_port":9001}` and what it becomes with the sentinel. -/
def ftText : List UInt8 := ascii "\x7b\"osc_port\":9001\x7d"
def ftDoneText : List UInt8 :=
  ascii "\x7b\n  \"osc_migrated_to_router\": true,\n  \"osc_port\": 9001\n\x7d\n"

def ftObject : Object := Object.empty.set "osc_port" (.number (9001 : ℤ))

/-- `{\n  "send_port": ` in bytes. -/
def portPrefix : List UInt8 :=
  [0x7b, 0x0a, 0x20, 0x20, 0x22, 0x73, 0x65, 0x6e, 0x64, 0x5f, 0x70, 0x6f, 0x72, 0x74, 0x22, 0x3a,
    0x20]

/-- The text of an object whose only key is the port. -/
def portText (port : ℕ) : List UInt8 :=
  portPrefix ++ ((Nat.digits 10 port).reverse.map fun d => UInt8.ofNat (48 + d)) ++
    [0x0a, 0x7d, 0x0a]

def portOf (text : List UInt8) : ℕ :=
  Nat.ofDigits 10 (((text.drop portPrefix.length).takeWhile fun b => decide (48 ≤ b)).reverse.map
    fun b => b.toNat - 48)

/-- The texts of the profiles of a small installation. -/
def smallJson : Picojson where
  parse text :=
    if portPrefix.isPrefixOf text = true then
      some (.object (Object.empty.set "send_port" (.number (portOf text))))
    else if text = ftText then some (.object ftObject)
    else if text = ftDoneText then
      some (.object (ftObject.set "osc_migrated_to_router" (.bool true)))
    else none
  serialize o :=
    match (o.item "send_port").number? with
    | some x => portText (toInt x).toNat
    | none => ftDoneText

theorem toInt_intCast {n : ℤ} (h : customPort n = true) : toInt n = n := by
  rw [customPort, decide_eq_true_eq] at h
  unfold toInt
  simp only [Rat.num_intCast, Rat.den_intCast, Nat.cast_one, Int.tdiv_one]
  exact if_pos (by omega)

theorem portOf_portText (port : ℕ) : portOf (portText port) = port := by
  have hdigit : ∀ d ∈ (Nat.digits 10 port).reverse, (UInt8.ofNat (48 + d)).toNat = 48 + d := by
    intro d hd
    have := Nat.digits_lt_base (by decide : 1 < 10) (List.mem_reverse.1 hd)
    rw [UInt8.toNat_ofNat', Nat.mod_eq_of_lt (by omega)]
  have htake : ∀ b ∈ (Nat.digits 10 port).reverse.map fun d => UInt8.ofNat (48 + d),
      decide (48 ≤ b) = true := by
    intro b hb
    obtain ⟨d, hd, rfl⟩ := List.mem_map.1 hb
    rw [decide_eq_true_eq, UInt8.le_iff_toNat_le, hdigit d hd]
    exact Nat.le_add_right 48 d
  rw [portOf, portText, List.append_assoc, List.drop_left, List.takeWhile_append_of_pos htake]
  have hrest : ([0x0a, 0x7d, 0x0a] : List UInt8).takeWhile (fun b => decide (48 ≤ b)) = [] := by
    decide
  have hmap : (Nat.digits 10 port).map ((fun b => b.toNat - 48) ∘ fun d => UInt8.ofNat (48 + d)) =
      Nat.digits 10 port := by
    refine (List.map_congr_left fun d hd => ?_).trans (List.map_id _)
    rw [Function.comp_apply, hdigit d (List.mem_reverse.2 hd), Nat.add_sub_cancel_left, id]
  rw [hrest, List.append_nil, ← List.map_reverse, List.reverse_reverse, List.map_map, hmap,
    Nat.ofDigits_digits]

theorem smallJson_serialize (o : Object) {port : ℤ} (hport : customPort port = true) :
    smallJson.serialize (o.set "send_port" (.number port)) = portText port.toNat := by
  simp only [smallJson, Object.item_set, if_pos, Value.number?_number, toInt_intCast hport]

theorem isPrefixOf_portText (port : ℕ) : portPrefix.isPrefixOf (portText port) = true := by
  rw [List.isPrefixOf_iff_prefix, portText, List.append_assoc]
  exact List.prefix_append ..

theorem smallJson_parse (port : ℕ) : ParseObject smallJson (portText port) =
    some (Object.empty.set "send_port" (.number port)) := by
  have hbom : StripUtf8Bom (portText port) = portText port := rfl
  have hparse : smallJson.parse (portText port) =
      some (.object (Object.empty.set "send_port" (.number (portOf (portText port))))) := by
    unfold smallJson
    dsimp only
    rw [if_pos (isPrefixOf_portText port)]
  rw [ParseObject, hbom, hparse, portOf_portText, Option.bind_some, Value.object?_object]

theorem smallJson_readsSendPort : ReadsSendPort smallJson := by
  intro o port hport
  have hcast : ((port.toNat : ℕ) : ℚ) = (port : ℚ) := by
    rw [customPort, decide_eq_true_eq] at hport
    rw [← Int.cast_natCast, Int.toNat_of_nonneg hport.2.1.le]
  rw [smallJson_serialize o hport, smallJson_parse, Option.map_some, IntAt, Object.item_set,
    if_pos rfl, hcast, Value.number?_number, Option.map_some, toInt_intCast hport, Option.getD_some]

/-- A profile with a port to carry over, below `root`. -/
def install (root : String) : World where
  disk := .node (.cons root (.node (.cons "profiles"
    (.node (.cons "facetracking.json" (.leaf ftText) .nil)) .nil)) .nil)
  registry := .node (.cons (.key "Software") (.node (.cons (.key "OpenVR-WKSpaceCalibrator")
    (.node (.cons (.value "Config") (.leaf ⟨1, []⟩) .nil)) .nil)) .nil)

def noFaults : Launch where
  appData := ⟨100, none⟩
  scRegistry := ⟨true, true, 100⟩
  ftOscPort := ⟨⟨true, 1000, true⟩, ⟨true, 1000, true⟩⟩
  renamed := true

/-- A launch in which nothing can be created, and one without faults. -/
theorem migration_markers_small : Always (migrate smallJson)
    (fun h => MarkersHold smallJson h ∧ Retried smallJson h.world)
    (begin smallJson (install "OpenVR-Pair"))
    ([⟨⟨0, none⟩, ⟨false, false, 0⟩, ⟨⟨false, 0, false⟩, ⟨false, 0, false⟩⟩, false⟩,
      noFaults].flatMap RunFirstLaunchMigration) :=
  migration_markers smallJson smallJson_readsSendPort _ _ (by decide +kernel)

/-- A step that leaves its marker without being settled breaks the law. -/
theorem not_always_of_unsettled {json : Picojson} {w : World} (pre : List Migration)
    {post : List Migration} {m : Migration} {h : History}
    (hpre : runTo (migrate json) (begin json w) pre = some h)
    (hsettled : ¬ h.settled m.step) (hfin : finished json (m.run json h.world) m.step = true)
    (hset : ¬ Settles json h.world (m.run json h.world) m.step) :
    ¬ Always (migrate json) (MarkersHold json) (begin json w) (pre ++ m :: post) := by
  intro halways
  have hrun : runTo (migrate json) (begin json w) (pre ++ [m]) = migrate json h m := by
    rw [runTo_append, hpre]
    rfl
  have hlaw := always_iff_initial.1 halways (pre ++ [m]) (by simp) _ hrun
  obtain h | ⟨-, h⟩ := hlaw m.step hfin
  · exact hsettled h
  · exact hset h

/-- Launches with one fault that set a marker without its data: a copy that stops behind its first
    two directories, a registry copy that stops at once, a router profile that cannot be created. -/
theorem interrupted_launch_finishes :
    (¬ Always (migrate smallJson) (MarkersHold smallJson)
      (begin smallJson (install "OpenVR-Pair"))
      (RunFirstLaunchMigration { noFaults with appData := ⟨2, none⟩ })) ∧
    (¬ Always (migrate smallJson) (MarkersHold smallJson)
      (begin smallJson (install "OpenVR-Pair"))
      (RunFirstLaunchMigration { noFaults with scRegistry := ⟨true, true, 0⟩ })) ∧
    ¬ Always (migrate smallJson) (MarkersHold smallJson)
      (begin smallJson (install "WKOpenVR"))
      (RunFirstLaunchMigration
        { noFaults with ftOscPort := ⟨⟨false, 0, false⟩, ⟨true, 1000, true⟩⟩ }) := by
  refine ⟨?_, ?_, ?_⟩
  · refine not_always_of_unsettled [] rfl ?_ ?_ ?_
    · rintro (h | h)
      · exact absurd h (by decide +kernel)
      · exact absurd h (by decide +kernel)
    · decide +kernel
    · rintro (h | h)
      · exact absurd (congrArg Option.isNone h) (by decide +kernel)
      · exact absurd (congrArg (Option.map Tree.size) h) (by decide +kernel)
  · refine not_always_of_unsettled [.appData noFaults.appData] rfl ?_ ?_ ?_
    · rintro ((h | h) | ⟨h, -⟩)
      · exact absurd h (by decide +kernel)
      · exact absurd h (by decide +kernel)
      · cases h
    · decide +kernel
    · rintro (h | h)
      · exact absurd (congrArg Option.isNone h) (by decide +kernel)
      · exact absurd (congrArg (Option.map Forest.size) h) (by decide +kernel)
  · refine not_always_of_unsettled
      [.appData noFaults.appData, .scRegistry noFaults.scRegistry] rfl ?_ ?_ ?_
    · rintro (((h | h) | ⟨h, -⟩) | ⟨h, -⟩)
      · exact absurd h (by decide +kernel)
      · exact absurd h (by decide +kernel)
      · cases h
      · cases h
    · decide +kernel
    · rintro (h | h | h)
      · exact absurd h (by decide +kernel)
      · exact absurd h (by decide +kernel)
      · exact absurd h (by decide +kernel)

end WKPairDriver.Overlay
