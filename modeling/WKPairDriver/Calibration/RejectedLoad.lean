import Mathlib
import WKPairDriver.Lib.Json
import WKPairDriver.Calibration.Context
import WKPairDriver.Calibration.ParseProfile
import WKPairDriver.Calibration.ProfileStore

/-!
# What a rejected profile leaves behind

`LoadProfile` catches what `ParseProfile` throws, and does not clear the context as it does for an
empty profile: each statement in front of the one that throws keeps its effect.

* `Statement.Uniform`, `Statement.Keeps` — whether a statement throws does not depend on the
  context; what it leaves as it is.
* `emptyLoad_new` — what an empty profile leaves of a new context.
* `rejectedLoad_clean_iff` — which rejected profiles leave a new context as it is; in front of any
  other context none is like an empty one, but for the relative pose of a new one.
* `partialProfile_autostarts` — a profile that is rejected and starts the continuous calibration.
-/

set_option autoImplicit false

namespace WKPairDriver.Calibration

open Lib Lib.Json

/-! ## Statements and contexts -/

namespace Statement

/-- Whether and what the statement throws is the same in any context. -/
def Uniform (s : Statement) : Prop := ∀ ctx ctx', (s ctx).1 = (s ctx').1

/-- The statement leaves a part of the context as it is. -/
def Keeps {α : Type} (part : CalibrationContext → α) (s : Statement) : Prop :=
  ∀ ctx, part (s ctx).2 = part ctx

theorem uniform_update (f : CalibrationContext → CalibrationContext) : Uniform (update f) :=
  fun _ _ => rfl

theorem uniform_assign {α : Type} (v : Except String α)
    (f : α → CalibrationContext → CalibrationContext) : Uniform (assign v f) := by
  cases v with
  | ok a => exact fun _ _ => rfl
  | error err => exact fun _ _ => rfl

theorem uniform_run {ss : List Statement} (h : ∀ s ∈ ss, Uniform s) : Uniform (run ss) := by
  induction ss with
  | nil => exact fun _ _ => rfl
  | cons s ss ih =>
    intro ctx ctx'
    have hs := h s List.mem_cons_self ctx ctx'
    have hrest := ih fun t ht => h t (List.mem_cons_of_mem s ht)
    simp only [run]
    rcases hleft : s ctx with ⟨r, c⟩
    rcases hright : s ctx' with ⟨r', c'⟩
    rw [hleft, hright] at hs
    cases hs
    cases r with
    | ok _ => exact hrest c c'
    | error err => rfl

variable {α : Type} {part : CalibrationContext → α}

theorem keeps_update {f : CalibrationContext → CalibrationContext}
    (h : ∀ ctx, part (f ctx) = part ctx) : Keeps part (update f) := h

theorem keeps_assign {β : Type} (v : Except String β)
    {f : β → CalibrationContext → CalibrationContext}
    (h : ∀ a ctx, part (f a ctx) = part ctx) : Keeps part (assign v f) := by
  cases v with
  | ok a => exact h a
  | error err => exact fun _ => rfl

theorem keeps_run {ss : List Statement} (h : ∀ s ∈ ss, Keeps part s) : Keeps part (run ss) := by
  induction ss with
  | nil => exact fun _ => rfl
  | cons s ss ih =>
    intro ctx
    have hs := h s List.mem_cons_self ctx
    have hrest := ih fun t ht => h t (List.mem_cons_of_mem s ht)
    simp only [run]
    rcases heq : s ctx with ⟨r, c⟩
    rw [heq] at hs
    cases r with
    | ok _ => exact (hrest c).trans hs
    | error err => exact hs

theorem frame_update {f : CalibrationContext → CalibrationContext}
    (h : ∀ ctx, part (f ctx) = part ctx) : Uniform (update f) ∧ Keeps part (update f) :=
  ⟨uniform_update f, keeps_update h⟩

theorem frame_assign {β : Type} (v : Except String β)
    {f : β → CalibrationContext → CalibrationContext}
    (h : ∀ a ctx, part (f a ctx) = part ctx) :
    Uniform (assign v f) ∧ Keeps part (assign v f) :=
  ⟨uniform_assign v f, keeps_assign v h⟩

end Statement

open Statement

/-! ## The statements of a profile -/

section

variable (json : Picojson) (e : Eigen) (obj : Object)

/-- Everything but the chaperone. -/
def apartFromChaperone (ctx : CalibrationContext) : CalibrationContext :=
  { ctx with chaperone := .new }

theorem loadFloatArray_frame (v : Value) (n : ℕ)
    {store : (ℕ → F32 → F32) → CalibrationContext → CalibrationContext}
    (h : ∀ g ctx, apartFromChaperone (store g ctx) = apartFromChaperone ctx) :
    Uniform (loadFloatArray json v n store) ∧
      Keeps apartFromChaperone (loadFloatArray json v n store) := by
  constructor
  · intro ctx ctx'
    simp only [loadFloatArray]
    cases v.array? with
    | none => rfl
    | some arr =>
      dsimp only
      split <;> rfl
  · intro ctx
    simp only [loadFloatArray]
    cases v.array? with
    | none => rfl
    | some arr =>
      dsimp only
      split
      · rfl
      · exact h _ ctx

theorem loadGeometry_frame (v : Value) :
    ∀ s ∈ loadGeometry json v, Uniform s ∧ Keeps apartFromChaperone s := by
  intro s hs
  simp only [loadGeometry] at hs
  split at hs
  · rw [List.mem_singleton] at hs
    subst hs
    exact frame_assign _ fun _ _ => rfl
  · split_ifs at hs
    · cases hs
    · simp only [List.mem_cons, List.not_mem_nil, or_false] at hs
      rcases hs with rfl | rfl
      · exact loadFloatArray_frame json _ _ fun _ _ => rfl
      · exact frame_update fun _ => rfl
    · cases hs

/-- The statements of the chaperone leave the other parts of the context as they are. -/
theorem loadChaperone_frame :
    ∀ s ∈ loadChaperone json obj, Uniform s ∧ Keeps apartFromChaperone s := by
  intro s hs
  simp only [loadChaperone] at hs
  split at hs
  · cases hs
  · simp only [List.mem_append, List.mem_cons, List.not_mem_nil, or_false] at hs
    rcases hs with (rfl | rfl | rfl) | hs
    · exact frame_assign _ fun _ _ => rfl
    · exact loadFloatArray_frame json _ _ fun _ _ => rfl
    · exact loadFloatArray_frame json _ _ fun _ _ => rfl
    · exact loadGeometry_frame json _ s hs

theorem loadRelativeTransform_frame :
    ∀ s ∈ loadRelativeTransform e obj, Uniform s ∧ Keeps (·.calibratedRotation.x) s := by
  intro s hs
  simp only [loadRelativeTransform] at hs
  split at hs
  · cases hs
  · rw [List.mem_singleton] at hs
    subst hs
    exact frame_assign _ fun _ _ => rfl

/-- The first angle and the relative pose. -/
def angleAndPose (ctx : CalibrationContext) : ℚ × AffineCompact3d :=
  (ctx.calibratedRotation.x, ctx.refToTargetPose)

theorem angleAndPose_loadFloor (ctx : CalibrationContext) :
    angleAndPose (loadFloor obj ctx) = angleAndPose ctx := by
  rw [loadFloor]
  split <;> rfl

theorem angleAndPose_loadSpeeds (ctx : CalibrationContext) :
    angleAndPose (loadSpeeds obj ctx) = angleAndPose ctx := by
  simp only [loadSpeeds]
  split <;> rfl

theorem angleAndPose_loadAlignmentParams (v : Value) (ctx : CalibrationContext) :
    angleAndPose (loadAlignmentParams v ctx) = angleAndPose ctx := by
  simp only [loadAlignmentParams]
  split <;> rfl

/-- The statements behind the one that stores the first angle. -/
def laterData : List Statement := (loadCalibrationData obj).drop 4

theorem laterData_frame : ∀ s ∈ laterData obj, Uniform s ∧ Keeps angleAndPose s := by
  intro s hs
  simp only [laterData, loadCalibrationData, List.drop_succ_cons, List.drop_zero, List.mem_cons,
    List.not_mem_nil, or_false] at hs
  rcases hs with rfl | rfl | rfl | rfl | rfl | rfl | rfl | rfl | rfl | rfl | rfl | rfl
  all_goals first
    | exact frame_assign _ fun _ _ => rfl
    | exact frame_update fun _ => rfl
    | exact frame_update (angleAndPose_loadFloor obj)
    | exact frame_update (angleAndPose_loadSpeeds obj)

/-- All statements behind the one that stores the first angle. -/
def laterStatements : List Statement :=
  laterData obj ++ loadChaperone json obj ++ [.update (loadLockMode obj)] ++
    loadRelativeTransform e obj ++ [.update (loadSections e obj)]

theorem laterStatements_frame :
    ∀ s ∈ laterStatements json e obj, Uniform s ∧ Keeps (·.calibratedRotation.x) s := by
  intro s hs
  simp only [laterStatements, List.mem_append, List.mem_singleton] at hs
  rcases hs with (((hs | hs) | rfl) | hs) | rfl
  · obtain ⟨huniform, hkeeps⟩ := laterData_frame obj s hs
    exact ⟨huniform, fun ctx => congrArg Prod.fst (hkeeps ctx)⟩
  · obtain ⟨huniform, hkeeps⟩ := loadChaperone_frame json obj s hs
    exact ⟨huniform, fun ctx => congrArg (·.calibratedRotation.x) (hkeeps ctx)⟩
  · exact frame_update fun _ => rfl
  · exact loadRelativeTransform_frame e obj s hs
  · exact frame_update fun _ => rfl

/-- The first four fields, one after the other. -/
theorem run_firstFields (ctx : CalibrationContext) :
    run (parseStatements json e obj) ctx =
      let ctx := loadAlignmentParams (obj.item "alignment_params") ctx
      match getString (obj.item "reference_tracking_system") with
      | .error err => (.error err, ctx)
      | .ok reference =>
        let ctx := { ctx with referenceTrackingSystem := reference }
        match getString (obj.item "target_tracking_system") with
        | .error err => (.error err, ctx)
        | .ok target =>
          let ctx := { ctx with targetTrackingSystem := target }
          match getDouble (obj.item "roll") with
          | .error err => (.error err, ctx)
          | .ok roll =>
            run (laterStatements json e obj) { ctx with calibratedRotation.x := roll } := by
  have hsplit : parseStatements json e obj =
      (loadCalibrationData obj).take 4 ++ laterStatements json e obj := by
    simp only [parseStatements, laterStatements, laterData, ← List.append_assoc,
      List.take_append_drop]
  rw [hsplit]
  simp only [loadCalibrationData, List.take_succ_cons, List.take_zero, List.cons_append,
    List.nil_append, run_update]
  cases hreference : getString (obj.item "reference_tracking_system") with
  | error err => rfl
  | ok reference =>
    rw [run_assign_ok]
    cases htarget : getString (obj.item "target_tracking_system") with
    | error err => rfl
    | ok target =>
      rw [run_assign_ok]
      cases hroll : getDouble (obj.item "roll") with
      | error err => rfl
      | ok roll => rfl

/-- The statements in front of the relative transform. -/
def statementsBeforePose : List Statement :=
  loadCalibrationData obj ++ loadChaperone json obj ++ [.update (loadLockMode obj)]

theorem statementsBeforePose_keep :
    ∀ s ∈ statementsBeforePose json obj, Keeps (·.refToTargetPose) s := by
  intro s hs
  rw [statementsBeforePose, ← List.take_append_drop 4 (loadCalibrationData obj)] at hs
  simp only [List.mem_append, List.mem_singleton] at hs
  rcases hs with ((hs | hs) | hs) | rfl
  · simp only [loadCalibrationData, List.take_succ_cons, List.take_zero, List.mem_cons,
      List.not_mem_nil, or_false] at hs
    rcases hs with rfl | rfl | rfl | rfl
    · exact keeps_update fun ctx => congrArg Prod.snd (angleAndPose_loadAlignmentParams _ ctx)
    · exact keeps_assign _ fun _ _ => rfl
    · exact keeps_assign _ fun _ _ => rfl
    · exact keeps_assign _ fun _ _ => rfl
  · exact fun ctx => congrArg Prod.snd ((laterData_frame obj s hs).2 ctx)
  · exact fun ctx => congrArg (·.refToTargetPose) ((loadChaperone_frame json obj s hs).2 ctx)
  · exact keeps_update fun _ => rfl

/-- A profile that is stored as far as the relative pose is not rejected any more. -/
theorem pose_of_throws {ctx : CalibrationContext} {err : String}
    (h : (run (parseStatements json e obj) ctx).1 = .error err) :
    (run (parseStatements json e obj) ctx).2.refToTargetPose = ctx.refToTargetPose := by
  have hsplit : parseStatements json e obj =
      statementsBeforePose json obj ++
        (loadRelativeTransform e obj ++ [.update (loadSections e obj)]) := by
    rw [parseStatements, statementsBeforePose, List.append_assoc]
  have hkeep := keeps_run (statementsBeforePose_keep json obj) ctx
  rw [hsplit, run_append] at h ⊢
  rcases hbefore : run (statementsBeforePose json obj) ctx with ⟨r, c⟩
  rw [hbefore] at h hkeep
  cases r with
  | error _ => exact hkeep
  | ok _ =>
    dsimp only at h ⊢
    rw [loadRelativeTransform] at h ⊢
    cases hobject : (obj.item "relative_transform").object? with
    | none =>
      rw [hobject] at h
      cases h
    | some t =>
      rw [hobject] at h
      cases htransform : relativeTransform e t with
      | error _ =>
        simp only [htransform]
        exact hkeep
      | ok _ =>
        simp only [htransform] at h
        cases h

end

/-! ## Loads -/

/-- What `MigrateProfile` makes of the profile, if it is older. -/
def supported (obj : Object) : Object :=
  if profileVersion obj < kProfileSchemaVersion then migrateProfile (profileVersion obj) obj
  else obj

/-- A new context, with what is in its uninitialized vectors. -/
def CalibrationContext.startUp (rotation translation : Vector3d) : CalibrationContext :=
  { CalibrationContext.new with
    calibratedRotation := rotation
    calibratedTranslation := translation }

/-- `ParseProfile` throws, or refuses the profile. -/
def Rejected (json : Picojson) (e : Eigen) (text : String) : Prop :=
  Refused json text ∨ text ≠ "" ∧ ∃ err, (parseProfile json e text .new).1 = .error err

/-- The context of a process behind the load of a rejected profile: not valid, in no state, and with
    nothing of the profile. -/
structure Clean (before after : CalibrationContext) : Prop where
  invalid : after.validProfile = false
  state : after.state = .None
  nothing : after = before

/-- The load of the text leaves the context of a new process clean. -/
def LeavesClean (json : Picojson) (e : Eigen) (text : String) : Prop :=
  ∀ (s : ProfileStore) (uninitRotation uninitTranslation rotation translation : Vector3d),
    s.store = some text → s.ctx = .startUp uninitRotation uninitTranslation →
      Clean s.ctx (s.loadProfile json e true rotation translation).ctx

/-- The statement that throws comes before anything is stored: the alignment parameters are the
    defaults, and a tracking system in front of it is the empty one. -/
structure ThrowsFirst (obj : Object) : Prop where
  alignment : loadAlignmentParams (obj.item "alignment_params") .new = .new
  field : (obj.item "reference_tracking_system").string? = none ∨
    (obj.item "reference_tracking_system").string? = some "" ∧
      ((obj.item "target_tracking_system").string? = none ∨
        (obj.item "target_tracking_system").string? = some "" ∧
          (obj.item "roll").number? = none)

/-- The text is not a file of profiles, or its first profile is newer, or it throws first. -/
def RejectedFirst (json : Picojson) (text : String) : Prop :=
  (∃ err, firstProfile json text = .error err) ∨
    ∃ obj, firstProfile json text = .ok obj ∧
      (profileVersion obj > kProfileSchemaVersion ∨ ThrowsFirst (supported obj))

section

variable (json : Picojson) (e : Eigen) {text : String}

/-- An empty profile leaves a new context, but for the center of a chaperone that is not valid, and
    what was on the stack. -/
theorem emptyLoad_new (s : ProfileStore) (hstore : s.store = some "")
    {uninitRotation uninitTranslation : Vector3d}
    (hnew : s.ctx = .startUp uninitRotation uninitTranslation) (rotation translation : Vector3d) :
    (s.loadProfile json e true rotation translation).ctx =
      { CalibrationContext.startUp rotation translation with
        chaperone.standingCenter := fun _ => toFloat 0 } := by
  have hempty : s.readRegistryKey true = "" := by
    simp [ProfileStore.readRegistryKey, hstore]
  rw [ProfileStore.loadProfile, hempty, hnew]
  rfl

theorem loadProfile_ctx (s : ProfileStore) (hstore : s.store = some text) (hne : text ≠ "")
    (rotation translation : Vector3d) :
    (s.loadProfile json e true rotation translation).ctx =
      (parseProfile json e text { s.ctx with validProfile := false }).2 := by
  have htext : s.readRegistryKey true = text := by
    simp [ProfileStore.readRegistryKey, hstore]
  simp only [ProfileStore.loadProfile, htext, if_neg hne]

variable {json} {obj : Object}

theorem parseProfile_supported (hfirst : firstProfile json text = .ok obj)
    (hversion : ¬profileVersion obj > kProfileSchemaVersion) (ctx : CalibrationContext) :
    parseProfile json e text ctx = run (parseStatements json e (supported obj)) ctx := by
  simp only [parseProfile, hfirst, parseObject, if_neg hversion, supported]

theorem parseStatements_uniform (json : Picojson) (obj : Object) :
    Uniform (run (parseStatements json e obj)) := by
  intro ctx ctx'
  rw [run_firstFields, run_firstFields]
  have hlater := uniform_run fun s hs => (laterStatements_frame json e obj s hs).1
  cases getString (obj.item "reference_tracking_system") with
  | error err => rfl
  | ok reference =>
    cases getString (obj.item "target_tracking_system") with
    | error err => rfl
    | ok target =>
      cases getDouble (obj.item "roll") with
      | error err => rfl
      | ok roll => exact hlater _ _

/-- A supported profile that is rejected throws in any context. -/
theorem throws_of_rejected (hrejected : Rejected json e text)
    (hfirst : firstProfile json text = .ok obj)
    (hversion : ¬profileVersion obj > kProfileSchemaVersion) (ctx : CalibrationContext) :
    ∃ err, (run (parseStatements json e (supported obj)) ctx).1 = .error err := by
  rcases hrejected with ⟨-, obj', hfirst', hnewer⟩ | ⟨-, err, hthrows⟩
  · rw [hfirst] at hfirst'
    cases hfirst'
    exact absurd hnewer hversion
  · rw [parseProfile_supported e hfirst hversion] at hthrows
    exact ⟨err, (parseStatements_uniform e json _ _ _).trans hthrows⟩

theorem Rejected.ne_empty (hrejected : Rejected json e text) : text ≠ "" := by
  rcases hrejected with h | h
  · exact h.1
  · exact h.1

/-- A rejected load does not touch the relative pose, which `Clear` resets. -/
theorem pose_of_rejected (hrejected : Rejected json e text) (ctx : CalibrationContext) :
    (parseProfile json e text ctx).2.refToTargetPose = ctx.refToTargetPose := by
  cases hfirst : firstProfile json text with
  | error err => simp only [parseProfile, hfirst]
  | ok obj =>
    by_cases hversion : profileVersion obj > kProfileSchemaVersion
    · simp only [parseProfile, hfirst, parseObject, if_pos hversion]
    · obtain ⟨err, hthrows⟩ := throws_of_rejected e hrejected hfirst hversion ctx
      rw [parseProfile_supported e hfirst hversion]
      exact pose_of_throws json e (supported obj) hthrows

/-- The context without the fields that are stored first. -/
def forgetFirst (ctx : CalibrationContext) : CalibrationContext :=
  { ctx with
    referenceTrackingSystem := ""
    targetTrackingSystem := ""
    calibratedRotation := .Zero
    calibratedTranslation := .Zero }

theorem forgetFirst_loadAlignmentParams (v : Value) (rotation translation : Vector3d) :
    forgetFirst (loadAlignmentParams v (.startUp rotation translation)) =
      loadAlignmentParams v .new := by
  simp only [loadAlignmentParams]
  cases v.object? <;> rfl

theorem loadAlignmentParams_startUp {v : Value} (h : loadAlignmentParams v .new = .new)
    (rotation translation : Vector3d) :
    loadAlignmentParams v (.startUp rotation translation) = .startUp rotation translation := by
  have hvectors : loadAlignmentParams v (.startUp rotation translation) =
      { loadAlignmentParams v .new with
        calibratedRotation := rotation
        calibratedTranslation := translation } := by
    simp only [loadAlignmentParams]
    cases v.object? <;> rfl
  rw [hvectors, h]
  rfl

/-- A profile that throws first leaves a new context. -/
theorem run_of_throwsFirst (h : ThrowsFirst obj) (rotation translation : Vector3d) :
    (run (parseStatements json e obj) (.startUp rotation translation)).2 =
      .startUp rotation translation := by
  rw [run_firstFields, loadAlignmentParams_startUp h.alignment]
  rcases h.field with href | ⟨href, htarget | ⟨htarget, hroll⟩⟩
  · simp only [getString, href, Value.get]
  · simp only [getString, href, htarget, Value.get]
    rfl
  · simp only [getString, getDouble, href, htarget, hroll, Value.get]
    rfl

/-- A profile that leaves every new context throws first. -/
theorem throwsFirst_of_run (h : ∀ rotation translation,
    (run (parseStatements json e obj) (.startUp rotation translation)).2 =
      .startUp rotation translation) : ThrowsFirst obj := by
  -- an angle that is not the one of the profile
  obtain ⟨angle, hother⟩ : ∃ angle : ℚ, ∀ roll, (obj.item "roll").number? = some roll →
      roll ≠ angle := by
    refine ⟨(obj.item "roll").number?.getD 0 + 1, fun roll hroll => ?_⟩
    rw [hroll, Option.getD_some]
    exact (lt_add_one roll).ne
  have hsame := h ⟨angle, 0, 0⟩ .Zero
  have hforget := forgetFirst_loadAlignmentParams (obj.item "alignment_params") ⟨angle, 0, 0⟩ .Zero
  rw [run_firstFields] at hsame
  simp only [getString, getDouble] at hsame
  cases href : (obj.item "reference_tracking_system").string? with
  | none =>
    simp only [href, Value.get] at hsame
    refine ⟨hforget.symm.trans (congrArg forgetFirst hsame), Or.inl href⟩
  | some reference =>
    cases htarget : (obj.item "target_tracking_system").string? with
    | none =>
      simp only [href, htarget, Value.get] at hsame
      have hreference : reference = "" := congrArg (·.referenceTrackingSystem) hsame
      rw [hreference] at href
      exact ⟨hforget.symm.trans (congrArg forgetFirst hsame), Or.inr ⟨href, Or.inl htarget⟩⟩
    | some target =>
      cases hroll : (obj.item "roll").number? with
      | none =>
        simp only [href, htarget, hroll, Value.get] at hsame
        have hreference : reference = "" := congrArg (·.referenceTrackingSystem) hsame
        have hempty : target = "" := congrArg (·.targetTrackingSystem) hsame
        rw [hreference] at href
        rw [hempty] at htarget
        exact ⟨hforget.symm.trans (congrArg forgetFirst hsame),
          Or.inr ⟨href, Or.inr ⟨htarget, hroll⟩⟩⟩
      | some roll =>
        simp only [href, htarget, hroll, Value.get] at hsame
        have hkeeps := keeps_run fun s hs => (laterStatements_frame json e obj s hs).2
        have hangle := (hkeeps _).symm.trans (congrArg (·.calibratedRotation.x) hsame)
        exact absurd hangle (hother roll hroll)

/-! ## Rejected profiles -/

/-- A text that leaves every new context clean is rejected in front of the first field. -/
theorem rejectedFirst_of_clean (hne : text ≠ "") (hclean : LeavesClean json e text) :
    RejectedFirst json text := by
  have hafter : ∀ rotation translation,
      (parseProfile json e text (.startUp rotation translation)).2 =
        .startUp rotation translation := by
    intro rotation translation
    have h := (hclean ⟨.startUp rotation translation, some text, 0⟩ rotation translation
      .Zero .Zero rfl rfl).nothing
    rw [loadProfile_ctx json e _ rfl hne] at h
    exact h
  cases hparse : firstProfile json text with
  | error err => exact Or.inl ⟨err, hparse⟩
  | ok obj =>
    refine Or.inr ⟨obj, hparse, ?_⟩
    by_cases hversion : profileVersion obj > kProfileSchemaVersion
    · exact Or.inl hversion
    · simp only [parseProfile_supported e hparse hversion] at hafter
      exact Or.inr (throwsFirst_of_run e hafter)

theorem parseProfile_of_rejectedFirst (hfirst : RejectedFirst json text)
    (rotation translation : Vector3d) :
    (parseProfile json e text (.startUp rotation translation)).2 =
      .startUp rotation translation := by
  rcases hfirst with ⟨err, hparse⟩ | ⟨obj, hparse, hobject⟩
  · simp only [parseProfile, hparse]
  · by_cases hversion : profileVersion obj > kProfileSchemaVersion
    · simp only [parseProfile, hparse, parseObject, if_pos hversion]
      rfl
    · rw [parseProfile_supported e hparse hversion]
      exact run_of_throwsFirst e (hobject.resolve_left hversion) _ _

theorem clean_of_rejectedFirst (hne : text ≠ "") (hfirst : RejectedFirst json text) :
    LeavesClean json e text := by
  intro s uninitRotation uninitTranslation rotation translation hstore hnew
  have hsame : (s.loadProfile json e true rotation translation).ctx = s.ctx := by
    rw [loadProfile_ctx json e s hstore hne, hnew]
    exact parseProfile_of_rejectedFirst e hfirst uninitRotation uninitTranslation
  rw [hsame, hnew]
  exact ⟨rfl, rfl, rfl⟩

/-- **A rejected profile** leaves every new context clean exactly when it is rejected in front of
    the first field that is stored; a context with a relative pose it never leaves as an empty
    profile does. -/
theorem rejectedLoad_clean_iff (json : Picojson) (e : Eigen) (text : String)
    (hrejected : Rejected json e text) :
    (LeavesClean json e text ↔ RejectedFirst json text) ∧
      ∀ s : ProfileStore, s.store = some text → s.ctx.refToTargetPose ≠ .Identity →
        ∀ rotation translation uninitRotation uninitTranslation,
          (s.loadProfile json e true rotation translation).ctx ≠
            s.ctx.clear uninitRotation uninitTranslation := by
  have hne := hrejected.ne_empty
  refine ⟨⟨rejectedFirst_of_clean e hne, clean_of_rejectedFirst e hne⟩, ?_⟩
  intro s hstore hpose rotation translation uninitRotation uninitTranslation hequal
  rw [loadProfile_ctx json e s hstore hne] at hequal
  have hkept := pose_of_rejected e hrejected { s.ctx with validProfile := false }
  rw [hequal] at hkept
  exact hpose hkept.symm

theorem newerText_leavesClean : LeavesClean newerJson eigenAtIdentity newerText :=
  (rejectedLoad_clean_iff newerJson eigenAtIdentity newerText (Or.inl newerText_refused)).1.2
    (Or.inr ⟨[("schema_version", .number 6.0)], rfl, Or.inl (by decide +kernel)⟩)

/-! ## A profile that is rejected half-way -/

/-- A profile with everything up to the devices, and without the offset that follows. -/
def partialText : String :=
  "\n".intercalate [
    "[\x7b",
    "  \"autostart_continuous_calibration\": true,",
    "  \"pitch\": 0,",
    "  \"reference_tracking_system\": \"lighthouse\",",
    "  \"roll\": 0,",
    "  \"schema_version\": 5,",
    "  \"target_tracking_system\": \"oculus\",",
    "  \"x\": 0,",
    "  \"y\": 0,",
    "  \"yaw\": 0,",
    "  \"z\": 0",
    "\x7d]"]

def partialProfile : Object :=
  [("autostart_continuous_calibration", .bool true), ("pitch", .number 0),
    ("reference_tracking_system", .string "lighthouse"), ("roll", .number 0),
    ("schema_version", .number 5.0), ("target_tracking_system", .string "oculus"),
    ("x", .number 0), ("y", .number 0), ("yaw", .number 0), ("z", .number 0)]

def partialJson : Picojson where
  serialize _ := ""
  parse text :=
    if text = partialText then .ok (.array [.object partialProfile])
    else .error "syntax error at line 1 near: "
  to_str _ := "array"

/-- The profile is rejected, and the process starts the continuous calibration with its systems. -/
theorem partialProfile_autostarts :
    let s : ProfileStore := ⟨CalibrationContext.new, some partialText, 0⟩
    Rejected partialJson eigenAtIdentity partialText ∧
      ¬LeavesClean partialJson eigenAtIdentity partialText ∧
      (s.loadProfile partialJson eigenAtIdentity true .Zero .Zero).ctx.state = .ContinuousStandby ∧
      (s.loadProfile partialJson eigenAtIdentity true .Zero .Zero).ctx.targetTrackingSystem =
        "oculus" := by
  intro s
  have hstate : (s.loadProfile partialJson eigenAtIdentity true .Zero .Zero).ctx.state =
      .ContinuousStandby := by decide +kernel
  refine ⟨Or.inr ⟨by decide +kernel, typeMismatch "double", by decide +kernel⟩, fun hclean => ?_,
    hstate, by decide +kernel⟩
  have h := (hclean s .Zero .Zero .Zero .Zero rfl rfl).state
  rw [hstate] at h
  cases h

end

end WKPairDriver.Calibration
