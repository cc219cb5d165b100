import WKPairDriver.FaceTracking.ModuleBreaker

/-!
# The active module: `SubprocessManager.SelectActive` against `RunActiveAsync`

`_activeModule` is written by the control pipe, which selects modules, and by the run loop, which
clears it when the breaker halts a module or its file is gone.  There is no lock: every read and
every write is a step of its own.

* `State.control_`, `State.loop_` — where the two threads stand; `step` — one step of either.
* `named`, `gone` — what the last call that found its module, or disabled it, asked for, and
  whether that module has been halted or found missing since.
* `last_selection_wins` — if no clear meets another module than the one tested, and no check of the
  breaker falls into a selection that is about to reset it, the last selection wins.
* `lateClear_loses` — a selection between the test of the disk check and its clear is lost.
-/

set_option autoImplicit false

namespace WKPairDriver.FaceTracking.ActiveModule

open Lib Subprocess

/-! ## States -/

/-- `DiscoveredModule`, with the identity of the object. -/
structure DiscoveredModule where
  ref : ℕ
  uuid : String
deriving DecidableEq

/-- Where the control pipe stands in `SelectActive`. -/
inductive Control where
  | idle
  /-- before `_activeModule is not null` -/
  | disable
  /-- before the second read, for the log line -/
  | disableName
  /-- before `_activeModule = null` -/
  | disableClear
  /-- before the breaker is cleared -/
  | disableReset
  /-- before `_activeModule = m` -/
  | found (m : DiscoveredModule)
  /-- before `_breakerUuid == uuid` -/
  | foundReset (uuid : String)
  /-- before `_activeModule?.Uuid == uuid` -/
  | notFound (uuid : String)
  /-- before `_activeModule = null` -/
  | notFoundClear
deriving DecidableEq

/-- Where the run loop stands. -/
inductive RunLoop where
  /-- before `_activeModule is null` -/
  | head
  /-- before `var module = _activeModule` -/
  | read
  /-- before the breaker check -/
  | check (module : DiscoveredModule)
  /-- before `_activeModule = null` of the halt -/
  | clear (module : DiscoveredModule)
  /-- in `SpawnAndRunAsync`, in front of the pull loop -/
  | spawn (module : DiscoveredModule)
  /-- before the condition of the pull loop -/
  | pull (module : DiscoveredModule)
  /-- before the disk check -/
  | disk (module : DiscoveredModule)
  /-- the file is gone: before `ReferenceEquals` -/
  | uninstalled (module : DiscoveredModule)
  /-- before `_activeModule = null` of the disk check -/
  | uninstalledClear (module : DiscoveredModule)
  /-- before the `finally` block -/
  | teardown (module : DiscoveredModule)
  /-- a `NullReferenceException` has ended `RunActiveAsync` -/
  | faulted
deriving DecidableEq

/-- The module a clear that is due has been decided for. -/
def RunLoop.clearing : RunLoop → Option DiscoveredModule
  | .clear m | .uninstalled m | .uninstalledClear m => some m
  | _ => none

/-- The module in the run loop's hands. -/
def RunLoop.module : RunLoop → Option DiscoveredModule
  | .head | .read | .faulted => none
  | .check m | .clear m | .spawn m | .pull m | .disk m | .uninstalled m | .uninstalledClear m
  | .teardown m => some m

/-- The fields of the manager and the two threads; `named`, `gone` and `headPassed` are history. -/
structure State where
  _activeModule : Option DiscoveredModule
  breaker : Breaker
  /-- every rescan makes new objects -/
  nextRef : ℕ
  control_ : Control
  loop_ : RunLoop
  named : Option DiscoveredModule
  gone : Bool
  headPassed : Bool
deriving DecidableEq

def State.new : State := ⟨none, .clear, 0, .idle, .head, none, false, false⟩

/-! ## Steps -/

/-- How `SpawnAndRunCoreAsync` goes on in front of the pull loop. -/
inductive Spawned where
  | earlyReturn
  | leftTry
  | running
deriving DecidableEq

inductive Action where
  /-- a call with a blank uuid -/
  | selectNone
  /-- a call, with the uuids its rescan finds on the disk -/
  | select (uuid : String) (installed : List String)
  /-- the next step of a call -/
  | control
  /-- the next step of the run loop, where it needs nothing from outside -/
  | loop
  | spawned (how : Spawned)
  | poll (exited : Bool)
  /-- the disk check: not due yet, or whether the file exists -/
  | diskCheck (exists_ : Option Bool)
  | tornDown (lifetime : ℕ)

/-- `LoadAllAsync`: the modules in the folders, as new objects. -/
def loaded (next : ℕ) (installed : List String) : List DiscoveredModule :=
  installed.mapIdx fun i uuid => ⟨next + i, uuid⟩

/-- The next step of a `SelectActive` call. -/
def controlStep (s : State) : Option State :=
  match s.control_ with
  | .idle => none
  | .disable =>
    some { s with control_ := if s._activeModule = none then .disableClear else .disableName }
  | .disableName =>
    -- the log line reads the field again; the exception leaves the call with the field cleared
    some <| if s._activeModule = none then
      { s with control_ := .idle, named := none, gone := false }
    else { s with control_ := .disableClear }
  | .disableClear =>
    some { s with _activeModule := none, control_ := .disableReset, named := none, gone := false }
  | .disableReset => some { s with breaker := .clear, control_ := .idle }
  | .found m =>
    some { s with
      _activeModule := some m, control_ := .foundReset m.uuid, named := some m, gone := false }
  | .foundReset uuid => some { s with breaker := s.breaker.reselect uuid, control_ := .idle }
  | .notFound uuid =>
    some { s with control_ :=
      if s._activeModule.map (·.uuid) = some uuid then .notFoundClear else .idle }
  | .notFoundClear => some { s with _activeModule := none, control_ := .idle }

/-- The next step of the run loop, where it needs nothing from outside. -/
def loopStep (s : State) : Option State :=
  match s.loop_ with
  | .head =>
    some { s with
      loop_ := if s._activeModule = none then .head else .read
      headPassed := s.headPassed || s.control_ = .idle }
  | .read =>
    match s._activeModule with
    | none => some { s with loop_ := .faulted }
    | some m => some { s with loop_ := .check m }
  | .check m =>
    some <| if s.breaker.trips m.uuid then
      { s with
        loop_ := .clear m
        gone := s.gone || (s.named = some m && s.control_ ≠ .foundReset m.uuid) }
    else { s with loop_ := .spawn m }
  | .clear _ => some { s with _activeModule := none, loop_ := .head }
  | .uninstalled m =>
    some { s with loop_ := if s._activeModule = some m then .uninstalledClear m else .teardown m }
  | .uninstalledClear m => some { s with _activeModule := none, loop_ := .teardown m }
  | _ => none

def step (s : State) : Action → Option State
  | .selectNone =>
    if s.control_ = .idle then some { s with control_ := .disable, headPassed := false } else none
  | .select uuid installed =>
    if s.control_ = .idle then
      match (loaded s.nextRef installed).find? (·.uuid = uuid) with
      | some m => some { s with
          nextRef := s.nextRef + installed.length, control_ := .found m, headPassed := false }
      | none => some { s with
          nextRef := s.nextRef + installed.length, control_ := .notFound uuid, headPassed := false
          gone := s.gone || s.named.map (·.uuid) = some uuid }
    else none
  | .control => controlStep s
  | .loop => loopStep s
  | .spawned how =>
    match s.loop_, how with
    | .spawn _, .earlyReturn => some { s with loop_ := .head }
    | .spawn m, .leftTry => some { s with loop_ := .teardown m }
    | .spawn m, .running => some { s with loop_ := .pull m }
    | _, _ => none
  | .poll exited =>
    match s.loop_ with
    | .pull m =>
      some { s with loop_ := if exited = false ∧ s._activeModule = some m then .disk m
        else .teardown m }
    | _ => none
  | .diskCheck exists_ =>
    match s.loop_, exists_ with
    | .disk m, some false =>
      some { s with loop_ := .uninstalled m, gone := s.gone || s.named = some m }
    | .disk m, _ => some { s with loop_ := .pull m }
    | _, _ => none
  | .tornDown lifetime =>
    match s.loop_ with
    | .teardown m => some { s with breaker := s.breaker.account m.uuid lifetime, loop_ := .head }
    | _ => none

/-! ## The last selection wins -/

/-- With no call under way and the loop head passed since the last one, the active module is the
    one that call named, unless that module was halted or found missing. -/
def LastSelectionWins (s : State) : Prop :=
  s.control_ = .idle → s.headPassed = true → s.gone = true ∨ s._activeModule = s.named

instance : DecidablePred LastSelectionWins := fun s => by
  unfold LastSelectionWins
  infer_instance

/-- A clear finds the module it was decided for, and the breaker is not found tripped by a module
    whose selection has yet to reset it. -/
def Undisturbed (s : State) (a : Action) : Prop :=
  match a, s.loop_ with
  | .loop, .clear m | .loop, .uninstalledClear m => s._activeModule = some m
  | .loop, .check m => s.breaker.trips m.uuid = true → s.control_ ≠ .foundReset m.uuid
  | _, _ => True

instance (s : State) (a : Action) : Decidable (Undisturbed s a) := by
  unfold Undisturbed
  split <;> infer_instance

/-- Objects in use are older than the next rescan, a module about to be selected is new, and a
    clear that is due would only take a module whose end is known. -/
structure Inv (s : State) : Prop where
  wins : s.gone = true ∨ s._activeModule = s.named
  active_old : ∀ m, s._activeModule = some m → m.ref < s.nextRef
  loop_old : ∀ m, s.loop_.module = some m → m.ref < s.nextRef
  found_new : ∀ m, s.control_ = .found m → m.ref < s.nextRef ∧ s.loop_.module ≠ some m ∧
    s._activeModule ≠ some m
  clearing : ∀ m, s.loop_.clearing = some m → s._activeModule = some m → s.gone = true
  missing : ∀ uuid, s.control_ = .notFound uuid → s.named.map (·.uuid) = some uuid → s.gone = true
  missingClear : s.control_ = .notFoundClear → s.gone = true

theorem new_inv : Inv State.new := by
  refine ⟨.inr rfl, ?_, ?_, ?_, ?_, ?_, ?_⟩ <;> simp [State.new, RunLoop.module, RunLoop.clearing]

theorem clearing_module {l : RunLoop} {m : DiscoveredModule} (h : l.clearing = some m) :
    l.module = some m := by
  cases l <;> first | exact h | cases h

/-- The objects of a rescan are new. -/
theorem loaded_ref {next : ℕ} {installed : List String} {m : DiscoveredModule}
    (h : m ∈ loaded next installed) : next ≤ m.ref ∧ m.ref < next + installed.length := by
  obtain ⟨i, hi, rfl⟩ := List.mem_mapIdx.1 h
  exact ⟨Nat.le_add_right .., Nat.add_lt_add_left hi _⟩

/-- A step of a selection that goes on without a new choice keeps the invariant. -/
theorem Inv.moveControl {s : State} (hs : Inv s) {c : Control} {breaker : Breaker}
    (hfound : ∀ m, c ≠ .found m) (hmissing : ∀ uuid, c ≠ .notFound uuid)
    (hclear : c = .notFoundClear → s.gone = true) :
    Inv { s with control_ := c, breaker := breaker } :=
  ⟨hs.wins, hs.active_old, hs.loop_old, fun m h => absurd h (hfound m), hs.clearing,
    fun uuid h => absurd h (hmissing uuid), hclear⟩

/-- A step of a selection that leaves no active module, with its record or its end known. -/
theorem Inv.deselect {s : State} (hs : Inv s) {c : Control} {named : Option DiscoveredModule}
    {gone : Bool} (hwins : gone = true ∨ none = named) (hfound : ∀ m, c ≠ .found m)
    (hmissing : ∀ uuid, c ≠ .notFound uuid) (hclear : c ≠ .notFoundClear) :
    Inv { s with _activeModule := none, control_ := c, named := named, gone := gone } :=
  ⟨hwins, nofun, hs.loop_old, fun m h => absurd h (hfound m), nofun,
    fun uuid h => absurd h (hmissing uuid), fun h => absurd h hclear⟩

theorem controlStep_inv {s t : State} (hs : Inv s) (h : controlStep s = some t) : Inv t := by
  unfold controlStep at h
  split at h
  · cases h
  · cases h
    by_cases hnone : s._activeModule = none
    · rw [if_pos hnone]
      exact hs.moveControl (by simp) (by simp) (by simp)
    · rw [if_neg hnone]
      exact hs.moveControl (by simp) (by simp) (by simp)
  · cases h
    split
    · next hnone =>
      obtain ⟨activeModule, breaker, nextRef, control, loop, named, gone, headPassed⟩ := s
      cases hnone
      exact hs.deselect (.inr rfl) (by simp) (by simp) (by simp)
    · exact hs.moveControl (by simp) (by simp) (by simp)
  · cases h
    exact hs.deselect (.inr rfl) (by simp) (by simp) (by simp)
  · cases h
    exact hs.moveControl (by simp) (by simp) (by simp)
  · next m hcontrol =>
    cases h
    obtain ⟨hold, hloop, -⟩ := hs.found_new m hcontrol
    refine ⟨.inr rfl, ?_, hs.loop_old, by simp, ?_, by simp, by simp⟩
    · intro m' hm'
      cases hm'
      exact hold
    · -- no clear is due for an object the run loop has never seen
      intro m' hm' heq
      cases heq
      exact absurd (clearing_module hm') hloop
  · cases h
    exact hs.moveControl (by simp) (by simp) (by simp)
  · next uuid hcontrol =>
    cases h
    by_cases hactive : s._activeModule.map (·.uuid) = some uuid
    · rw [if_pos hactive]
      refine hs.moveControl (by simp) (by simp) fun _ => ?_
      obtain hgone | hnamed := hs.wins
      · exact hgone
      · exact hs.missing uuid hcontrol (hnamed ▸ hactive)
    · rw [if_neg hactive]
      exact hs.moveControl (by simp) (by simp) (by simp)
  · next hcontrol =>
    cases h
    exact hs.deselect (.inl (hs.missingClear hcontrol)) (by simp) (by simp) (by simp)

/-- A step of the run loop that writes neither the active module nor what the selections ask for
    keeps the invariant, if it knows of the end of a module it is about to clear. -/
theorem Inv.moveLoop {s : State} (hs : Inv s) {l : RunLoop} {gone headPassed : Bool}
    {breaker : Breaker} (hmodule : ∀ m, l.module = some m → s.loop_.module = some m ∨
      s._activeModule = some m) (hgone : s.gone = true → gone = true)
    (hclearing : ∀ m, l.clearing = some m → s._activeModule = some m → gone = true) :
    Inv { s with loop_ := l, gone := gone, headPassed := headPassed, breaker := breaker } := by
  refine ⟨hs.wins.imp_left hgone, hs.active_old, ?_, ?_, hclearing, ?_, ?_⟩
  · intro m hm
    exact (hmodule m hm).elim (hs.loop_old m) (hs.active_old m)
  · intro m hm
    obtain ⟨hold, hloop, hactive⟩ := hs.found_new m hm
    exact ⟨hold, fun hl => (hmodule m hl).elim hloop hactive, hactive⟩
  · intro uuid hcontrol hnamed
    exact hgone (hs.missing uuid hcontrol hnamed)
  · intro hcontrol
    exact hgone (hs.missingClear hcontrol)

/-- A clear that meets the module it was decided for takes one whose end is known. -/
theorem Inv.clearActive {s : State} (hs : Inv s) {m : DiscoveredModule} {l : RunLoop}
    (hm : s.loop_.clearing = some m) (hactive : s._activeModule = some m)
    (hmodule : ∀ m', l.module = some m' → s.loop_.module = some m') :
    Inv { s with _activeModule := none, loop_ := l } := by
  have hgone := hs.clearing m hm hactive
  refine ⟨.inl hgone, by simp, fun m' hm' => hs.loop_old m' (hmodule m' hm'), ?_, by simp,
    hs.missing, hs.missingClear⟩
  intro m' hm'
  obtain ⟨hold, hloop, -⟩ := hs.found_new m' hm'
  exact ⟨hold, fun hl => hloop (hmodule m' hl), by simp⟩

theorem loopStep_inv {s t : State} (hs : Inv s) (hc : Undisturbed s .loop)
    (h : loopStep s = some t) : Inv t := by
  unfold loopStep at h
  unfold Undisturbed at hc
  split at h
  · cases h
    refine hs.moveLoop ?_ id ?_ <;> split <;> simp [RunLoop.module, RunLoop.clearing]
  · split at h
    · cases h
      exact hs.moveLoop (by simp [RunLoop.module]) id (by simp [RunLoop.clearing])
    · next m hactive =>
      cases h
      exact hs.moveLoop (by simp [RunLoop.module, hactive]) id (by simp [RunLoop.clearing])
  · next m hloop =>
    cases h
    simp only [hloop] at hc
    split
    · next htrips =>
      refine hs.moveLoop (by simp [RunLoop.module, hloop]) (by simp +contextual) ?_
      -- a module that is active is the one the selections ask for, or its end is known
      intro m' hm' hactive
      cases hm'
      obtain hgone | hnamed := hs.wins
      · simp [hgone]
      · simp [← hnamed, hactive, hc htrips]
    · exact hs.moveLoop (by simp [RunLoop.module, hloop]) id (by simp [RunLoop.clearing])
  · next m hloop =>
    cases h
    simp only [hloop] at hc
    exact hs.clearActive (by rw [hloop]; rfl) hc (by simp [RunLoop.module])
  · next m hloop =>
    cases h
    refine hs.moveLoop ?_ id ?_
    · split <;> simp [RunLoop.module, hloop]
    · intro m' hm' hactive
      refine hs.clearing m' ?_ hactive
      rw [hloop]
      split at hm'
      · exact hm'
      · cases hm'
  · next m hloop =>
    cases h
    simp only [hloop] at hc
    exact hs.clearActive (by rw [hloop]; rfl) hc (by simp [RunLoop.module, hloop])
  · cases h

/-- The beginning of a call. -/
theorem Inv.call {s : State} (hs : Inv s) (uuid : String) (installed : List String) {t : State}
    (h : step s (.select uuid installed) = some t) : Inv t := by
  simp only [step] at h
  split at h
  · split at h
    · next m hfind =>
      cases h
      obtain ⟨hge, hlt⟩ := loaded_ref (List.mem_of_find?_eq_some hfind)
      refine ⟨hs.wins, ?_, ?_, ?_, hs.clearing, by simp, by simp⟩
      · intro m' hm'
        exact (hs.active_old m' hm').trans_le (Nat.le_add_right ..)
      · intro m' hm'
        exact (hs.loop_old m' hm').trans_le (Nat.le_add_right ..)
      · intro m' hm'
        cases hm'
        refine ⟨hlt, fun hl => ?_, fun ha => ?_⟩
        · exact absurd (hs.loop_old m hl) (by omega)
        · exact absurd (hs.active_old m ha) (by omega)
    · cases h
      refine ⟨hs.wins.imp_left (by simp +contextual), ?_, ?_, by simp, ?_, ?_, by simp⟩
      · intro m' hm'
        exact (hs.active_old m' hm').trans_le (Nat.le_add_right ..)
      · intro m' hm'
        exact (hs.loop_old m' hm').trans_le (Nat.le_add_right ..)
      · intro m' hm' hactive
        simp [hs.clearing m' hm' hactive]
      · intro uuid' huuid hnamed
        cases huuid
        simp only at hnamed
        simp [hnamed]
  · cases h

theorem step_inv {s t : State} {a : Action} (hs : Inv s) (hc : Undisturbed s a)
    (h : step s a = some t) : Inv t := by
  cases a with
  | selectNone =>
    simp only [step] at h
    split at h
    · cases h
      exact ⟨hs.wins, hs.active_old, hs.loop_old, by simp, hs.clearing, by simp, by simp⟩
    · cases h
  | select uuid installed => exact hs.call uuid installed h
  | control => exact controlStep_inv hs h
  | loop => exact loopStep_inv hs hc h
  | spawned how =>
    simp only [step] at h
    split at h <;> cases h
    all_goals
      next hloop => exact hs.moveLoop (by simp [RunLoop.module, *]) id (by simp [RunLoop.clearing])
  | poll exited =>
    simp only [step] at h
    split at h
    · next m hloop =>
      cases h
      refine hs.moveLoop ?_ id ?_ <;> split <;> simp [RunLoop.module, RunLoop.clearing, hloop]
    · cases h
  | diskCheck exists_ =>
    simp only [step] at h
    split at h
    · next m hloop =>
      cases h
      refine hs.moveLoop (by simp [RunLoop.module, hloop]) (by simp +contextual) ?_
      intro m' hm' hactive
      cases hm'
      obtain hgone | hnamed := hs.wins
      · simp [hgone]
      · simp [← hnamed, hactive]
    · next m hloop _ =>
      cases h
      exact hs.moveLoop (by simp [RunLoop.module, hloop]) id (by simp [RunLoop.clearing])
    · cases h
  | tornDown lifetime =>
    simp only [step] at h
    split at h
    · cases h
      exact hs.moveLoop (by simp [RunLoop.module]) id (by simp [RunLoop.clearing])
    · cases h

/-- **The last selection wins**: over every interleaving of selections with the run loop in which
    each clear finds the module it was decided for, and no check of the breaker falls between a
    selection's write and its reset of the breaker, the active module is the one the last selection
    asked for, unless that module has been halted or found missing since. -/
theorem last_selection_wins (as : List Action) (h : AllSteps step Undisturbed State.new as) :
    Always step LastSelectionWins State.new as :=
  Always.of_inv (fun _ _ _ hs hc hstep => step_inv hs hc hstep) (fun _ hs _ _ => hs.wins)
    new_inv h

/-! ## Two selections -/

/-- Module `a` is selected and runs. -/
def selectA : List Action :=
  [.select "a" ["a", "b"], .control, .control, .loop, .loop, .loop, .spawned .running]

/-- Module `b` is selected. -/
def selectB : List Action := [.select "b" ["a", "b"], .control, .control]

/-- `b` is selected while `a` runs: the pull loop ends, and `b` is spawned. -/
theorem selectB_wins : AllSteps step Undisturbed State.new
      (selectA ++ selectB ++ [.poll false, .tornDown 60000, .loop, .loop, .loop]) ∧
    Always step LastSelectionWins State.new
      (selectA ++ selectB ++ [.poll false, .tornDown 60000, .loop, .loop, .loop]) := by
  have h : AllSteps step Undisturbed State.new
      (selectA ++ selectB ++ [.poll false, .tornDown 60000, .loop, .loop, .loop]) := by
    decide +kernel
  exact ⟨h, last_selection_wins _ h⟩

/-- `a` is removed, and `b` is selected between the test of the disk check and its clear. -/
theorem lateClear_loses : ¬ Always step LastSelectionWins State.new
    (selectA ++ [.poll false, .diskCheck (some false), .loop] ++ selectB ++
      [.loop, .tornDown 60000, .loop]) := by
  decide +kernel

end WKPairDriver.FaceTracking.ActiveModule
