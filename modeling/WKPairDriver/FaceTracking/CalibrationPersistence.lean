import Mathlib
import WKPairDriver.Lib.Run
import WKPairDriver.FaceTracking.CalibrationEngine

/-!
# Learned face calibration across module switches and driver runs

The driver module forwards the selected module to the supervisor and the calibration commands to
the engine.  The engine is never told the module: `Load` has no caller, so nothing is stored, nothing
is loaded, and what one module taught stays in memory for the next.

* `stored` — for each module, the shapes at the last save under it.
* `taught` — what the frames and resets of a driver run teach, whatever modules sent them.
* `Suits` — the frames and resets so far have taught what the selected module is owed.
* `calibration_follows_modules_iff` — along a run the shapes are the module's own exactly when at
  every selection what was ingested suits the module.
* `steadyFace_forgotten` — a module that was learned and saved starts over in the next driver run.
-/

set_option autoImplicit false

namespace WKPairDriver.FaceTracking.Calibration

open Lib

variable {K : Type} [Field K] [LinearOrder K] [IsStrictOrderedRing K]

/-- `FaceCalibrationOp`. -/
inductive FaceCalibrationOp where
  | FaceCalibBegin
  | FaceCalibEnd
  | FaceCalibSave
  | FaceCalibResetAll
  | FaceCalibResetEye
  | FaceCalibResetExpr
deriving DecidableEq

/-- What a change of the selection asks for. -/
inductive Arrival where
  | none
  | first (uuid : String)
  | switch (uuid : String)

/-- What changes the shapes of a driver run: a frame that is ingested, or a reset of a group. -/
inductive Lesson (K : Type) where
  | frame (f : Frame K) (now : ℕ)
  | reset (group : Fin kTotalShapes → Bool)

/-- Where the stored state of a module is from: a file in the profiles folder, or the lessons of the
    driver run that saved it. -/
inductive Past (K : Type) where
  | file (stored : CalibFile K)
  | lessons (ls : List (Lesson K))

/-- `FacetrackingDriverModule`, or its remains between two driver runs.  The last six fields are
    history: the last module this run selected, what each module has stored and where that is from,
    the lessons of this run, what the last step selected, and for each file written the module that
    was selected. -/
structure Driver (K : Type) where
  running : Bool
  calib_ : Engine K
  continuous_calib_mode : ℕ
  active_module_uuid : String
  disk : Disk K
  module : Option String
  stored : String → Option (Shapes K)
  kept : String → Option (Past K)
  ingested : List (Lesson K)
  arrival : Arrival
  written : List (String × Option String)

/-- Before the first driver run, with any files in the profiles folder. -/
def Driver.installed (disk : Disk K) : Driver K where
  running := false
  calib_ := .created
  continuous_calib_mode := 0
  active_module_uuid := ""
  disk := disk
  module := none
  stored := fun uuid => (disk uuid).map fun file => loadShapes file Shapes.initial
  kept := fun uuid => (disk uuid).map .file
  ingested := []
  arrival := .none
  written := []

inductive Action (K : Type) where
  | init
  | setFaceTrackingConfig (active_module_uuid : String) (continuous_calib_mode : ℕ)
  | setFaceActiveModule (uuid : String)
  | calibrationCommand (op : FaceCalibrationOp)
  | frame (f : Frame K) (now : ℕ)
  | shutdown

/-- `supervisor_->SetActiveModuleUuid`: the engine is not involved. -/
def select (s : Driver K) (uuid : String) : Driver K :=
  { s with
    module := if uuid = "" then s.module else some uuid
    arrival :=
      if uuid = "" ∨ s.module = some uuid then .none
      else if s.module = none then .first uuid
      else .switch uuid }

/-- What the last selected module has from now on. -/
def keep {α : Type} (module : Option String) (table : String → Option α) (value : Option α) :
    String → Option α :=
  match module with
  | none => table
  | some uuid => Function.update table uuid value

/-- `SaveLocked`. -/
def save (s : Driver K) : Driver K :=
  { s with
    disk := s.calib_.SaveLocked s.disk
    stored := keep s.module s.stored (some s.calib_.shapes)
    kept := keep s.module s.kept (some (.lessons s.ingested))
    written := s.calib_.CalibFilePath.toList.map (·, s.module) ++ s.written }

/-- The shapes of a group start over. -/
def resetShapes (s : Driver K) (group : Fin kTotalShapes → Bool) : Driver K :=
  { s with
    calib_ := { s.calib_ with
      shapes := fun i => if group i then .initial else s.calib_.shapes i }
    ingested := s.ingested ++ [.reset group] }

/-- `CalibrationEngine::Reset`. -/
def Reset (s : Driver K) : FaceCalibrationOp → Driver K
  | .FaceCalibResetAll =>
    let s := resetShapes s fun _ => true
    { s with
      disk := match s.calib_.CalibFilePath with
        | none => s.disk
        | some path => Function.update s.disk path none
      stored := keep s.module s.stored none
      kept := keep s.module s.kept none }
  | .FaceCalibResetEye => resetShapes s fun i => 63 ≤ i.1
  | .FaceCalibResetExpr => resetShapes s fun i => i.1 < 63
  | .FaceCalibSave => save s
  | .FaceCalibBegin => s
  | .FaceCalibEnd => s

variable (sqrt : K → K) (qpc_freq : ℕ)

/-- One request, one frame of the worker loop, or the start or end of a driver run. -/
def step (s : Driver K) : Action K → Option (Driver K)
  | .init =>
    if s.running then none
    else some { s with
      running := true
      calib_ := .created
      continuous_calib_mode := 0
      active_module_uuid := ""
      module := none
      ingested := []
      arrival := .none }
  | .setFaceTrackingConfig active_module_uuid continuous_calib_mode =>
    if s.running then
      some (select { s with
        active_module_uuid := active_module_uuid
        continuous_calib_mode := continuous_calib_mode } active_module_uuid)
    else none
  | .setFaceActiveModule uuid => if s.running then some (select s uuid) else none
  | .calibrationCommand op => if s.running then some { Reset s op with arrival := .none } else none
  | .frame f now =>
    if s.running then
      some { s with
        calib_ := if s.continuous_calib_mode > 0 then
            { s.calib_ with shapes := IngestFrame sqrt qpc_freq s.calib_.shapes f now }
          else s.calib_
        ingested := if s.continuous_calib_mode > 0 then s.ingested ++ [.frame f now]
          else s.ingested
        arrival := .none }
    else none
  | .shutdown => if s.running then some { save s with running := false, arrival := .none } else none

/-! ## What the modules are owed -/

/-- A module selected first in a driver run is normalised as when it was stored, a switch starts
    from what the new module has stored or from the initial state, and no file was written under
    another module's name. -/
def FollowsModules (s : Driver K) : Prop :=
  (match s.arrival with
  | .none => True
  | .first uuid => ∀ shapes, s.stored uuid = some shapes →
      ∀ f, Normalize s.calib_.shapes f = Normalize shapes f
  | .switch uuid => ∀ i, (s.calib_.shapes i).learned =
      (((s.stored uuid).getD Shapes.initial) i).learned) ∧
  ∀ entry ∈ s.written, entry.2 = some entry.1

/-- The module a step selects. -/
def Action.selects : Action K → Option String
  | .setFaceTrackingConfig active_module_uuid _ => some active_module_uuid
  | .setFaceActiveModule uuid => some uuid
  | _ => none

/-! ## What a driver run ingests -/

def learn (shapes : Shapes K) : Lesson K → Shapes K
  | .frame f now => IngestFrame sqrt qpc_freq shapes f now
  | .reset group => fun i => if group i then .initial else shapes i

/-- What lessons teach from the start. -/
def taught (ls : List (Lesson K)) : Shapes K := ls.foldl (learn sqrt qpc_freq) Shapes.initial

/-- What a module has stored. -/
def Past.shapes : Past K → Shapes K
  | .file stored => loadShapes stored Shapes.initial
  | .lessons ls => taught sqrt qpc_freq ls

/-- What the driver run has ingested suits a module that is selected.  As the first one of the run,
    it has nothing stored, or its past and the lessons of this run teach the same normalisation.  At
    a switch no sample was accepted since the start or the last reset if the module has nothing
    stored, and else its past and the lessons of this run teach the same. -/
def Suits (s : Driver K) (a : Action K) : Prop :=
  ∀ uuid, a.selects = some uuid → uuid ≠ "" → s.module ≠ some uuid →
    match s.module, s.kept uuid with
    | none, none => True
    | none, some past => ∀ i,
        SameNormalisation (taught sqrt qpc_freq s.ingested i) (past.shapes sqrt qpc_freq i)
    | some _, none => ∀ i, (taught sqrt qpc_freq s.ingested i).samples = 0
    | some _, some past => ∀ i,
        (taught sqrt qpc_freq s.ingested i).learned = (past.shapes sqrt qpc_freq i).learned

omit [IsStrictOrderedRing K] in
theorem taught_append (ls : List (Lesson K)) (l : Lesson K) :
    taught sqrt qpc_freq (ls ++ [l]) = learn sqrt qpc_freq (taught sqrt qpc_freq ls) l :=
  List.foldl_concat ..

omit [IsStrictOrderedRing K] in
/-- An accepted sample is counted, and the shape is warm from the 200th on. -/
theorem UpdateShape_samples (s : ShapeCalib K) (raw : K) (now : ℕ) :
    UpdateShape sqrt qpc_freq s raw now = s ∨
      (UpdateShape sqrt qpc_freq s raw now).samples = s.samples + 1 ∧
        (UpdateShape sqrt qpc_freq s raw now).warm =
          (s.warm || decide (s.samples + 1 ≥ kWarmThreshold)) := by
  have henvelope : ∀ (s : ShapeCalib K), (updateEnvelope qpc_freq s raw now).samples = s.samples ∧
      (updateEnvelope qpc_freq s raw now).warm = s.warm := by
    intro s
    simp only [updateEnvelope]
    split_ifs <;> exact ⟨rfl, rfl⟩
  simp only [UpdateShape]
  split_ifs
  · exact .inl rfl
  · simp only [updateQuantiles, henvelope]
    exact .inr ⟨trivial, trivial⟩

/-- What a shape has been taught by `k` lessons at most. -/
structure Learned (k : ℕ) (s : ShapeCalib K) : Prop where
  few : s.samples ≤ k
  cold : s.samples < kWarmThreshold → s.warm = false
  untouched : s.samples = 0 → s = ShapeCalib.initial

omit [LinearOrder K] [IsStrictOrderedRing K] in
theorem Learned.initial (k : ℕ) : Learned k (ShapeCalib.initial : ShapeCalib K) :=
  ⟨Nat.zero_le k, fun _ => rfl, fun _ => rfl⟩

omit [IsStrictOrderedRing K] in
theorem Learned.update {k : ℕ} {s : ShapeCalib K} (h : Learned k s) (raw : K) (now : ℕ) :
    Learned (k + 1) (UpdateShape sqrt qpc_freq s raw now) := by
  rcases UpdateShape_samples sqrt qpc_freq s raw now with heq | ⟨hsamples, hwarm⟩
  · rw [heq]
    exact ⟨h.few.trans (Nat.le_succ k), h.cold, h.untouched⟩
  · refine ⟨?_, fun hfew => ?_, fun hzero => ?_⟩
    · rw [hsamples]
      exact Nat.succ_le_succ h.few
    · rw [hsamples] at hfew
      rw [hwarm, h.cold (Nat.lt_of_succ_lt hfew), Bool.false_or]
      exact decide_eq_false (not_le.2 hfew)
    · rw [hsamples] at hzero
      exact absurd hzero (Nat.succ_ne_zero _)

omit [IsStrictOrderedRing K] in
/-- What lessons teach a shape. -/
theorem taught_learned (ls : List (Lesson K)) (i : Fin kTotalShapes) :
    Learned ls.length (taught sqrt qpc_freq ls i) := by
  induction ls using List.reverseRecOn with
  | nil => exact .initial 0
  | append_singleton ls l ih =>
    rw [taught_append, List.length_append, List.length_singleton]
    have hkeep : Learned (ls.length + 1) (taught sqrt qpc_freq ls i) :=
      ⟨ih.few.trans (Nat.le_succ _), ih.cold, ih.untouched⟩
    cases l with
    | frame f now =>
      simp only [learn, IngestFrame]
      by_cases hage : elapsedMs qpc_freq f.qpc_sample_time now > (kFrameAgeMaxMs : K)
      · rw [if_pos hage]
        exact hkeep
      · rw [if_neg hage]
        by_cases hvalid : f.valid i = true
        · rw [if_pos hvalid]
          exact ih.update sqrt qpc_freq _ _
        · rw [if_neg hvalid]
          exact hkeep
    | reset group =>
      simp only [learn]
      by_cases hgroup : group i = true
      · rw [if_pos hgroup]
        exact .initial _
      · rw [if_neg hgroup]
        exact hkeep

omit [IsStrictOrderedRing K] in
/-- **Nothing was taught** if and only if no sample was accepted. -/
theorem taught_learned_eq_initial_iff (ls : List (Lesson K)) (i : Fin kTotalShapes) :
    (taught sqrt qpc_freq ls i).learned = (Shapes.initial i : ShapeCalib K).learned ↔
      (taught sqrt qpc_freq ls i).samples = 0 := by
  constructor
  · intro heq
    exact congrArg ShapeCalib.samples heq
  · intro hzero
    rw [(taught_learned sqrt qpc_freq ls i).untouched hzero]
    rfl

omit [IsStrictOrderedRing K] in
/-- Fewer lessons than the warm-up takes normalise nothing. -/
theorem not_normalises_of_few {ls : List (Lesson K)} (hfew : ls.length < kWarmThreshold)
    (i : Fin kTotalShapes) : ¬ (taught sqrt qpc_freq ls i).Normalises := by
  intro h
  have hlearned := taught_learned sqrt qpc_freq ls i
  have hcold := hlearned.cold (hlearned.few.trans_lt hfew)
  rw [h.1] at hcold
  cases hcold

/-! ## One step -/

/-- The engine never learns the module, so it never writes; it remembers every lesson of the run. -/
structure Remembers (s : Driver K) : Prop where
  module_uuid_ : s.calib_.module_uuid_ = ""
  written : s.written = []
  memory : s.calib_.shapes = taught sqrt qpc_freq s.ingested
  pasts : ∀ uuid, s.stored uuid = (s.kept uuid).map (Past.shapes sqrt qpc_freq)

omit [IsStrictOrderedRing K] in
theorem FollowsModules.of_none {s : Driver K} (ha : s.arrival = .none) (hw : s.written = []) :
    FollowsModules s := by
  refine ⟨?_, ?_⟩
  · rw [ha]
    trivial
  · rw [hw]
    intro entry h
    cases h

/-- **A selection follows the modules** exactly when what was ingested suits the module. -/
theorem select_follows_iff {s : Driver K} (hs : Remembers sqrt qpc_freq s) (uuid : String) :
    FollowsModules (select s uuid) ↔ (uuid ≠ "" → s.module ≠ some uuid →
      match s.module, s.kept uuid with
      | none, none => True
      | none, some past => ∀ i,
          SameNormalisation (taught sqrt qpc_freq s.ingested i) (past.shapes sqrt qpc_freq i)
      | some _, none => ∀ i, (taught sqrt qpc_freq s.ingested i).samples = 0
      | some _, some past => ∀ i,
          (taught sqrt qpc_freq s.ingested i).learned =
            (past.shapes sqrt qpc_freq i).learned) := by
  have hentries : ∀ entry ∈ (select s uuid).written, entry.2 = some entry.1 := by
    intro entry h
    rw [show (select s uuid).written = [] from hs.written] at h
    cases h
  rw [FollowsModules, and_iff_left hentries]
  by_cases hsame : uuid = "" ∨ s.module = some uuid
  · simp only [select, if_pos hsame]
    constructor
    · intro _ hne hmod
      exact (hsame.elim hne hmod).elim
    · intro _
      trivial
  · rw [not_or] at hsame
    have hstored : (select s uuid).stored uuid = (s.kept uuid).map (Past.shapes sqrt qpc_freq) :=
      hs.pasts uuid
    have hmemory : (select s uuid).calib_.shapes = taught sqrt qpc_freq s.ingested := hs.memory
    cases hmodule : s.module with
    | none =>
      have harrival : (select s uuid).arrival = .first uuid := by
        simp [select, hsame.1, hmodule]
      simp only [harrival, hstored, hmemory, ne_eq, hsame.1, reduceCtorEq, not_false_eq_true,
        forall_const]
      cases s.kept uuid with
      | none => simp
      | some past =>
        simp only [Option.map_some, Option.some.injEq, forall_eq']
        exact Normalize_eq_iff _ _
    | some current =>
      have hcurrent : some current ≠ some uuid := by
        rw [← hmodule]
        exact hsame.2
      have harrival : (select s uuid).arrival = .switch uuid := by
        simp only [select, hmodule, hsame.1, hcurrent, or_self, if_false, reduceCtorEq]
      simp only [harrival, hstored, hmemory, ne_eq, hsame.1, hcurrent, not_false_eq_true,
        forall_const]
      cases s.kept uuid with
      | none => exact forall_congr' fun i => taught_learned_eq_initial_iff sqrt qpc_freq _ i
      | some past => exact Iff.rfl

omit [IsStrictOrderedRing K] in
theorem keep_map {α β : Type} (g : α → β) {stored : String → Option β} {kept : String → Option α}
    (h : ∀ uuid, stored uuid = (kept uuid).map g) (module : Option String) (value : Option α)
    (uuid : String) : keep module stored (value.map g) uuid = (keep module kept value uuid).map g := by
  cases module with
  | none => exact h uuid
  | some current =>
    by_cases hsame : uuid = current
    · subst hsame
      simp only [keep, Function.update_self]
    · simp only [keep, Function.update_of_ne hsame, h uuid]

omit [IsStrictOrderedRing K] in
theorem Remembers.save {s : Driver K} (hs : Remembers sqrt qpc_freq s) :
    Remembers sqrt qpc_freq (save s) := by
  refine ⟨hs.module_uuid_, ?_, hs.memory, fun uuid => ?_⟩
  · simp only [Calibration.save, Engine.CalibFilePath, hs.module_uuid_, if_true,
      Option.toList_none, List.map_nil, List.nil_append, hs.written]
  · have hvalue : some s.calib_.shapes =
        (some (Past.lessons s.ingested)).map (Past.shapes sqrt qpc_freq) := by
      rw [hs.memory]
      rfl
    simp only [Calibration.save, hvalue]
    exact keep_map _ hs.pasts _ _ uuid

omit [IsStrictOrderedRing K] in
theorem Remembers.resetShapes {s : Driver K} (hs : Remembers sqrt qpc_freq s)
    (group : Fin kTotalShapes → Bool) : Remembers sqrt qpc_freq (resetShapes s group) := by
  refine ⟨hs.module_uuid_, hs.written, ?_, hs.pasts⟩
  simp only [Calibration.resetShapes, taught_append, learn, hs.memory]

omit [IsStrictOrderedRing K] in
theorem Remembers.reset {s : Driver K} (hs : Remembers sqrt qpc_freq s) (op : FaceCalibrationOp) :
    Remembers sqrt qpc_freq (Reset s op) := by
  cases op with
  | FaceCalibSave => exact hs.save
  | FaceCalibBegin | FaceCalibEnd => exact hs
  | FaceCalibResetEye | FaceCalibResetExpr => exact hs.resetShapes sqrt qpc_freq _
  | FaceCalibResetAll =>
    have hreset := hs.resetShapes sqrt qpc_freq fun _ => true
    exact ⟨hreset.module_uuid_, hreset.written, hreset.memory,
      fun uuid => keep_map _ hreset.pasts _ none uuid⟩

/-- One step: the engine remembers the lessons, and the shapes follow the modules exactly under the
    condition. -/
theorem step_spec {s t : Driver K} {a : Action K} (hs : Remembers sqrt qpc_freq s)
    (h : step sqrt qpc_freq s a = some t) :
    Remembers sqrt qpc_freq t ∧ (FollowsModules t ↔ Suits sqrt qpc_freq s a) := by
  -- a step that selects nothing meets the condition
  have hother : a.selects = none → t.arrival = .none → Remembers sqrt qpc_freq t →
      Remembers sqrt qpc_freq t ∧ (FollowsModules t ↔ Suits sqrt qpc_freq s a) := by
    intro hnone harrival ht
    refine ⟨ht, fun _ => ?_, fun _ => .of_none harrival ht.written⟩
    intro uuid huuid
    rw [hnone] at huuid
    cases huuid
  -- one that selects is judged by `select_follows_iff`
  have hselect : ∀ (s' : Driver K) (uuid : String), a.selects = some uuid →
      Remembers sqrt qpc_freq s' → s'.module = s.module → s'.kept = s.kept →
      s'.ingested = s.ingested → t = select s' uuid →
      Remembers sqrt qpc_freq t ∧ (FollowsModules t ↔ Suits sqrt qpc_freq s a) := by
    rintro s' uuid huuid hs' hmodule hkept hingested rfl
    have hfollows := select_follows_iff sqrt qpc_freq hs' uuid
    rw [hmodule, hkept, hingested] at hfollows
    refine ⟨⟨hs'.module_uuid_, hs'.written, hs'.memory, hs'.pasts⟩, ?_⟩
    rw [hfollows, Suits]
    constructor
    · intro hall uuid' huuid'
      rw [huuid] at huuid'
      cases huuid'
      exact hall
    · intro hall
      exact hall uuid huuid
  cases a with
  | init =>
    simp only [step] at h
    split at h
    · cases h
    · cases h
      exact hother rfl rfl ⟨rfl, hs.written, rfl, hs.pasts⟩
  | setFaceTrackingConfig active_module_uuid continuous_calib_mode =>
    simp only [step] at h
    split at h
    · cases h
      exact hselect
        { s with
          active_module_uuid := active_module_uuid
          continuous_calib_mode := continuous_calib_mode }
        active_module_uuid rfl ⟨hs.module_uuid_, hs.written, hs.memory, hs.pasts⟩ rfl rfl rfl rfl
    · cases h
  | setFaceActiveModule uuid =>
    simp only [step] at h
    split at h
    · cases h
      exact hselect s uuid rfl hs rfl rfl rfl rfl
    · cases h
  | calibrationCommand op =>
    simp only [step] at h
    split at h
    · cases h
      have hreset := hs.reset sqrt qpc_freq op
      exact hother rfl rfl ⟨hreset.module_uuid_, hreset.written, hreset.memory, hreset.pasts⟩
    · cases h
  | frame f now =>
    simp only [step] at h
    split at h
    · cases h
      refine hother rfl rfl ⟨?_, hs.written, ?_, hs.pasts⟩
      · show Engine.module_uuid_ (if s.continuous_calib_mode > 0 then _ else s.calib_) = ""
        split <;> exact hs.module_uuid_
      · show Engine.shapes (if s.continuous_calib_mode > 0 then _ else s.calib_) = _
        by_cases hmode : s.continuous_calib_mode > 0
        · simp only [if_pos hmode, taught_append, learn, hs.memory]
        · simp only [if_neg hmode, hs.memory]
    · cases h
  | shutdown =>
    simp only [step] at h
    split at h
    · cases h
      have hsave := hs.save
      exact hother rfl rfl ⟨hsave.module_uuid_, hsave.written, hsave.memory, hsave.pasts⟩
    · cases h

omit [IsStrictOrderedRing K] in
theorem installed_remembers (disk : Disk K) :
    Remembers sqrt qpc_freq (Driver.installed disk) := by
  refine ⟨rfl, rfl, rfl, fun uuid => ?_⟩
  simp only [Driver.installed, Option.map_map]
  rfl

/-- **Learned calibration follows the modules** along a run exactly when at every selection what the
    driver run has ingested suits the module. -/
theorem calibration_follows_modules_iff (disk : Disk K) (as : List (Action K)) :
    Always (step sqrt qpc_freq) FollowsModules (Driver.installed disk) as ↔
      AllSteps (step sqrt qpc_freq) (Suits sqrt qpc_freq) (Driver.installed disk) as := by
  refine Always.iff_of_inv (I := fun s => Remembers sqrt qpc_freq s ∧ FollowsModules s) ?_ ?_ ?_ ?_
  · intro s a t hs hc hst
    have hspec := step_spec sqrt qpc_freq hs.1 hst
    exact ⟨hspec.1, hspec.2.2 hc⟩
  · intro s hs
    exact hs.2
  · intro s a t hs hst hf
    exact (step_spec sqrt qpc_freq hs.1 hst).2.1 hf
  · exact ⟨installed_remembers sqrt qpc_freq disk, .of_none rfl rfl⟩

/-! ## Two modules of few frames -/

/-- A face that never moves. -/
def steadyFace : Frame ℝ := .constant 0.5

omit [IsStrictOrderedRing K] in
theorem suits_of_selects_none {s : Driver K} {a : Action K} (h : a.selects = none) :
    Suits sqrt qpc_freq s a := by
  intro uuid huuid
  rw [h] at huuid
  cases huuid

/-- Module `u` is taught and saved, every shape is reset, module `v` is taught and saved by the end
    of the driver run, and the next one selects `u`. -/
noncomputable def fewFramesRun : List (Action ℝ) :=
  [.init, .setFaceTrackingConfig "u" 1, .frame steadyFace 0, .calibrationCommand .FaceCalibSave,
    .calibrationCommand .FaceCalibResetEye, .calibrationCommand .FaceCalibResetExpr,
    .setFaceActiveModule "v", .frame steadyFace 0, .shutdown, .init, .setFaceActiveModule "u"]

/-- Behind the resets `v` starts over, and one frame of `u` is not enough to normalise anything. -/
theorem fewFrames_follow : Always (step Real.sqrt 1) FollowsModules
    (Driver.installed fun _ => none) fewFramesRun := by
  refine (calibration_follows_modules_iff Real.sqrt 1 (fun _ => none) _).2 ?_
  intro s₁ h₁
  cases h₁
  refine ⟨suits_of_selects_none _ _ rfl, fun s₂ h₂ => ?_⟩
  cases h₂
  refine ⟨fun uuid hsel hne hmod => ?_, fun s₃ h₃ => ?_⟩
  · cases hsel
    trivial
  cases h₃
  refine ⟨suits_of_selects_none _ _ rfl, fun s₄ h₄ => ?_⟩
  cases h₄
  refine ⟨suits_of_selects_none _ _ rfl, fun s₅ h₅ => ?_⟩
  cases h₅
  refine ⟨suits_of_selects_none _ _ rfl, fun s₆ h₆ => ?_⟩
  cases h₆
  refine ⟨suits_of_selects_none _ _ rfl, fun s₇ h₇ => ?_⟩
  cases h₇
  refine ⟨fun uuid hsel hne hmod => ?_, fun s₈ h₈ => ?_⟩
  · cases hsel
    intro i
    show (taught Real.sqrt 1 [.frame steadyFace 0, .reset _, .reset _] i).samples = 0
    by_cases hi : 63 ≤ i.1
    · simp [taught, learn, hi, ShapeCalib.initial]
    · simp [taught, learn, not_le.1 hi, ShapeCalib.initial]
  cases h₈
  refine ⟨suits_of_selects_none _ _ rfl, fun s₉ h₉ => ?_⟩
  cases h₉
  refine ⟨suits_of_selects_none _ _ rfl, fun s₁₀ h₁₀ => ?_⟩
  cases h₁₀
  refine ⟨suits_of_selects_none _ _ rfl, fun s₁₁ h₁₁ => ?_⟩
  cases h₁₁
  refine ⟨fun uuid hsel hne hmod => ?_, trivial⟩
  cases hsel
  intro i
  have hfirst : ¬ (taught Real.sqrt 1 [.frame steadyFace 0] i).Normalises :=
    not_normalises_of_few Real.sqrt 1 (by decide) i
  have hsecond : ¬ (taught Real.sqrt 1 [] i).Normalises :=
    not_normalises_of_few Real.sqrt 1 (by decide) i
  exact .inl ⟨hsecond, hfirst⟩

/-! ## A face that is forgotten -/

/-- A driver run that learns module `u`, saves it and stops, and the next run that selects it. -/
noncomputable def steadyFaceRun : List (Action ℝ) :=
  [.init, .setFaceTrackingConfig "u" 1] ++ List.replicate kWarmThreshold (.frame steadyFace 0) ++
    [.calibrationCommand .FaceCalibSave, .shutdown, .init, .setFaceActiveModule "u"]

omit [IsStrictOrderedRing K] in
/-- Frames one after the other. -/
theorem runTo_frames (f : Frame K) (now k : ℕ) {s : Driver K} (hrun : s.running = true)
    (hmode : s.continuous_calib_mode > 0) :
    ∃ t, runTo (step sqrt qpc_freq) s (List.replicate k (.frame f now)) = some t ∧
      t.running = true ∧ t.calib_.module_uuid_ = s.calib_.module_uuid_ ∧ t.module = s.module ∧
      t.calib_.shapes =
        (fun shapes => IngestFrame sqrt qpc_freq shapes f now)^[k] s.calib_.shapes := by
  induction k generalizing s with
  | zero => exact ⟨s, rfl, hrun, rfl, rfl, rfl⟩
  | succ k ih =>
    obtain ⟨t, hrunTo, ht, huuid, hmodule, hshapes⟩ := ih (s := { s with
      calib_ := { s.calib_ with shapes := IngestFrame sqrt qpc_freq s.calib_.shapes f now }
      ingested := s.ingested ++ [.frame f now]
      arrival := .none }) hrun hmode
    refine ⟨t, ?_, ht, huuid, hmodule, ?_⟩
    · rw [List.replicate_succ, runTo, step, if_pos hrun, if_pos hmode, if_pos hmode,
        Option.bind_some]
      exact hrunTo
    · rw [Function.iterate_succ_apply]
      exact hshapes

/-- Every shape of a face that never moves sees the same value. -/
theorem IngestFrame_constant_iterate (k : ℕ) (shapes : Shapes K) (raw : K) (i : Fin kTotalShapes) :
    (fun shapes => IngestFrame sqrt qpc_freq shapes (.constant raw) 0)^[k] shapes i =
      (fun s => UpdateShape sqrt qpc_freq s raw 0)^[k] (shapes i) := by
  have hone : ∀ shapes : Shapes K, IngestFrame sqrt qpc_freq shapes (.constant raw) 0 =
      fun i => UpdateShape sqrt qpc_freq (shapes i) raw 0 := by
    intro shapes
    have hage : ¬ elapsedMs qpc_freq (Frame.constant raw).qpc_sample_time 0 > (kFrameAgeMaxMs : K) := by
      have h33 : (0 : K) ≤ kFrameAgeMaxMs := Nat.cast_nonneg _
      show ¬ elapsedMs qpc_freq 0 0 > (kFrameAgeMaxMs : K)
      rw [elapsedMs, if_neg (lt_irrefl 0)]
      exact h33.not_gt
    rw [IngestFrame, if_neg hage]
    funext i
    have hvalid : (Frame.constant raw).valid i = true := by
      rw [Frame.valid]
      split <;> simp
    have hraw : (Frame.constant raw).raw i = raw := by
      rw [Frame.raw]
      split_ifs <;> rfl
    rw [if_pos hvalid, hraw]
  induction k generalizing shapes with
  | zero => rfl
  | succ k ih =>
    rw [Function.iterate_succ_apply, ih, hone, Function.iterate_succ_apply]

/-- **The next driver run starts over.** -/
theorem steadyFace_forgotten : ¬ Always (step Real.sqrt 1) FollowsModules
    (Driver.installed fun _ => none) steadyFaceRun := by
  intro h
  -- the first driver run up to the frames
  let s : Driver ℝ := { Driver.installed (fun _ => none) with
    running := true
    continuous_calib_mode := 1
    active_module_uuid := "u"
    module := some "u"
    arrival := .first "u" }
  have hstart : runTo (step Real.sqrt 1) (Driver.installed fun _ => none)
      [.init, .setFaceTrackingConfig "u" 1] = some s := rfl
  obtain ⟨t, hframes, hrun, huuid, hmodule, hshapes⟩ :=
    runTo_frames Real.sqrt 1 steadyFace 0 kWarmThreshold (s := s) rfl (by decide)
  -- what the second one has in memory and what was stored
  have hend : ∃ u, runTo (step Real.sqrt 1) (Driver.installed fun _ => none) steadyFaceRun = some u ∧
      u.arrival = .first "u" ∧ u.calib_.shapes = Shapes.initial ∧
        u.stored "u" = some t.calib_.shapes := by
    have hkeep' : (save (save t)).stored "u" = some t.calib_.shapes := by
      show keep t.module _ (some t.calib_.shapes) "u" = _
      rw [show t.module = some "u" from hmodule, keep, Function.update_self]
    rw [steadyFaceRun, runTo_append, runTo_append, hstart, Option.bind_some, hframes,
      Option.bind_some]
    have hrun' : (save t).running = true := hrun
    simp only [runTo, step, hrun, hrun', if_true, Option.bind_some, Reset, Bool.false_eq_true,
      if_false, Option.some.injEq, exists_eq_left']
    exact ⟨rfl, rfl, hkeep'⟩
  obtain ⟨u, hu, harrival, hinitial, hstored⟩ := hend
  have hfollows := (h.runTo hu).1
  rw [harrival] at hfollows
  have hsame := (Normalize_eq_iff _ _).1 (hfollows _ hstored) kIdxOpenL
  have hsteady : Steady kWarmThreshold (t.calib_.shapes kIdxOpenL) := by
    rw [hshapes, steadyFace, IngestFrame_constant_iterate]
    exact UpdateShape_steady_iterate Real.sqrt 1 (fun x _ => Real.sqrt_nonneg x) 0 kWarmThreshold
  have hwarm := hsteady.normalises le_rfl
  have hcold : ¬ (u.calib_.shapes kIdxOpenL).Normalises := by
    rw [hinitial]
    intro hn
    cases hn.1
  rcases hsame with ⟨-, hidle⟩ | ⟨hbusy, -⟩
  · exact hidle hwarm
  · exact hcold hbusy

end WKPairDriver.FaceTracking.Calibration
