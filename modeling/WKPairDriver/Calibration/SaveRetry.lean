import Mathlib
import WKPairDriver.Lib.Run
import WKPairDriver.Calibration.Context
import WKPairDriver.Calibration.WriteProfile
import WKPairDriver.Calibration.RoundTrip
import WKPairDriver.Calibration.ProfileStore

/-!
# A write that failed: the hash in `SaveProfile`

The hash of a payload is kept when it is given to the registry, whether the registry takes it or
not.  Runs have failing writes, loads, edits of the context, restarts, and other programs that
change the stored value.

* `saveProfile_skips`, `saveProfile_attempts` — the two ways of a save.
* `failedWrite_retried_iff` — the saves that are skipped are those of a stored profile, exactly in
  the runs that lose no payload.
* `failedWrite_forgotten` — a write that fails, and is never tried again.
-/

set_option autoImplicit false

namespace WKPairDriver.Calibration

open Lib

/-! ## Saves -/

section

variable (json : Picojson) (e : Eigen)

/-- A save of this context finds the hash of its payload unchanged. -/
def ProfileStore.Skips (s : ProfileStore) (ctx : CalibrationContext) : Prop :=
  payloadHash (writeProfile json e ctx) ≠ 0 ∧
    payloadHash (writeProfile json e ctx) = s.lastSavedHash

instance decidableSkips (s : ProfileStore) (ctx : CalibrationContext) :
    Decidable (s.Skips json e ctx) :=
  inferInstanceAs (Decidable (_ ∧ _))

variable {json e} {s : ProfileStore}

theorem saveProfile_skips (h : s.Skips json e s.ctx) (written : Bool) :
    s.saveProfile json e written = s := if_pos h

/-- A save that is not skipped tries to write its payload. -/
theorem saveProfile_attempts (h : ¬s.Skips json e s.ctx) (written : Bool) :
    s.saveProfile json e written =
      { s with
        lastSavedHash := payloadHash (writeProfile json e s.ctx)
        store := if written then some (writeProfile json e s.ctx) else s.store } := if_neg h

end

/-! ## Runs -/

/-- The process with its store, and the payload whose hash it has kept. -/
structure SaveRun where
  profile : ProfileStore
  payload : Option String

/-- A process that starts with some context, in front of some stored value. -/
def SaveRun.start (ctx : CalibrationContext) (store : Option String) : SaveRun :=
  ⟨⟨ctx, store, 0⟩, none⟩

/-- An action of the process, or another value in the registry. -/
inductive RunAction where
  | own (a : Action)
  | external (store : Option String)

section

variable (json : Picojson) (e : Eigen)

/-- The payload whose hash is kept behind an action. -/
def payloadBehind (s : SaveRun) : Action → Option String
  | .call (.save _) =>
    if s.profile.Skips json e s.profile.ctx then s.payload
    else some (writeProfile json e s.profile.ctx)
  | .restart _ => none
  | _ => s.payload

def saveStep (s : SaveRun) : RunAction → Option SaveRun
  | .own a => (step json e s.profile a).map fun t => ⟨t, payloadBehind json e s a⟩
  | .external store => some { s with profile.store := store }

/-- A save of the last payload, by this context or one that has the same profile, is tried again
    unless this payload is stored. -/
def RetriesUnstored (s : SaveRun) : Prop :=
  ∀ ctx, s.payload = some (writeProfile json e ctx) →
    s.profile.store ≠ some (writeProfile json e ctx) → ¬s.profile.Skips json e ctx

/-- The step loses no payload: a write that is tried succeeds or is not needed, and another program
    leaves the last payload in the store.  A payload with the hash 0 is always tried again. -/
def LosesNothing (s : SaveRun) : RunAction → Prop
  | .own (.call (.save written)) =>
    s.profile.Skips json e s.profile.ctx ∨ written = true ∨
      s.profile.store = some (writeProfile json e s.profile.ctx) ∨
      payloadHash (writeProfile json e s.profile.ctx) = 0
  | .external store => ∀ p, s.payload = some p → store = some p ∨ payloadHash p = 0
  | .own _ => True

/-- The hash is that of a payload which some context wrote, and which is stored. -/
structure PayloadStored (s : SaveRun) : Prop where
  hash : s.profile.lastSavedHash = (s.payload.map payloadHash).getD 0
  written : ∀ p, s.payload = some p → ∃ ctx, p = writeProfile json e ctx
  stored : ∀ p, s.payload = some p → s.profile.store = some p ∨ payloadHash p = 0

variable {json e} {s t : SaveRun}

theorem PayloadStored.retries (h : PayloadStored json e s) : RetriesUnstored json e s := by
  rintro ctx hpayload hstore ⟨hne, -⟩
  rcases h.stored _ hpayload with hstored | hzero
  · exact hstore hstored
  · exact hne hzero

theorem PayloadStored.start (ctx : CalibrationContext) (store : Option String) :
    PayloadStored json e (.start ctx store) :=
  ⟨rfl, fun _ h => (by cases h), fun _ h => (by cases h)⟩

/-! ### The steps -/

theorem PayloadStored.save (h : PayloadStored json e s) (written : Bool)
    (hkeeps : LosesNothing json e s (.own (.call (.save written))))
    (hstep : saveStep json e s (.own (.call (.save written))) = some t) :
    PayloadStored json e t := by
  cases hstep
  simp only [runCall, payloadBehind]
  by_cases hskips : s.profile.Skips json e s.profile.ctx
  · rw [if_pos hskips, saveProfile_skips hskips]
    exact h
  · rw [if_neg hskips, saveProfile_attempts hskips]
    refine ⟨rfl, fun p hp => ⟨s.profile.ctx, (Option.some.inj hp).symm⟩, fun p hp => ?_⟩
    cases hp
    rcases hkeeps with hskip | rfl | hstored | hzero
    · exact absurd hskip hskips
    · exact Or.inl rfl
    · left
      show (if written then some _ else s.profile.store) = _
      rw [hstored, ite_self]
    · exact Or.inr hzero

theorem PayloadStored.external (h : PayloadStored json e s) (store : Option String)
    (hkeeps : LosesNothing json e s (.external store))
    (hstep : saveStep json e s (.external store) = some t) : PayloadStored json e t := by
  cases hstep
  exact ⟨h.hash, h.written, hkeeps⟩

/-- A load, a recovery and an edit touch neither the store nor the hash. -/
theorem PayloadStored.frame (h : PayloadStored json e s) {profile : ProfileStore}
    (hstore : profile.store = s.profile.store)
    (hhash : profile.lastSavedHash = s.profile.lastSavedHash) :
    PayloadStored json e ⟨profile, s.payload⟩ where
  hash := hhash.trans h.hash
  written := h.written
  stored p hp := by
    rw [hstore]
    exact h.stored p hp

theorem loadProfile_frame (json : Picojson) (e : Eigen) (s : ProfileStore) (readable : Bool)
    (rotation translation : Vector3d) :
    (s.loadProfile json e readable rotation translation).store = s.store ∧
      (s.loadProfile json e readable rotation translation).lastSavedHash = s.lastSavedHash := by
  simp only [ProfileStore.loadProfile]
  split <;> exact ⟨rfl, rfl⟩

/-- A step that loses nothing keeps the last payload stored. -/
theorem PayloadStored.step (h : PayloadStored json e s) {a : RunAction}
    (hkeeps : LosesNothing json e s a) (hstep : saveStep json e s a = some t) :
    PayloadStored json e t := by
  rcases a with (c | ctx | ctx) | store
  · cases c with
    | load readable rotation translation =>
      cases hstep
      obtain ⟨hstore, hhash⟩ := loadProfile_frame json e s.profile readable rotation translation
      exact h.frame hstore hhash
    | recover =>
      cases hstep
      exact h.frame rfl rfl
    | save written => exact h.save written hkeeps hstep
  · cases hstep
    exact h.frame rfl rfl
  · cases hstep
    exact .start ctx s.profile.store
  · exact h.external store hkeeps hstep

/-- A step behind which an unstored payload would be tried again has lost nothing. -/
theorem losesNothing_of_retries (h : PayloadStored json e s) {a : RunAction}
    (hstep : saveStep json e s a = some t) (hretries : RetriesUnstored json e t) :
    LosesNothing json e s a := by
  rcases a with (c | ctx | ctx) | store
  · cases c with
    | load readable rotation translation => trivial
    | recover => trivial
    | save written =>
      cases hstep
      by_cases hskips : s.profile.Skips json e s.profile.ctx
      · exact Or.inl hskips
      · cases written with
        | true => exact Or.inr (Or.inl rfl)
        | false =>
          simp only [runCall, payloadBehind, if_neg hskips, saveProfile_attempts hskips] at hretries
          by_cases hstored : s.profile.store = some (writeProfile json e s.profile.ctx)
          · exact Or.inr (Or.inr (Or.inl hstored))
          · have hretry := hretries s.profile.ctx rfl hstored
            rw [ProfileStore.Skips, not_and_or, not_not] at hretry
            exact Or.inr (Or.inr (Or.inr (hretry.resolve_right fun hne => hne rfl)))
  · trivial
  · trivial
  · cases hstep
    intro p hp
    obtain ⟨ctx, rfl⟩ := h.written p hp
    by_cases hstored : store = some (writeProfile json e ctx)
    · exact Or.inl hstored
    · have hretry := hretries ctx hp hstored
      rw [ProfileStore.Skips, not_and_or, not_not] at hretry
      refine Or.inr (hretry.resolve_right fun hne => hne ?_)
      show payloadHash (writeProfile json e ctx) = s.profile.lastSavedHash
      rw [h.hash, hp]
      rfl

variable (json e)

/-- **A failed write is retried** along a run exactly when the run loses no payload. -/
theorem failedWrite_retried_iff (ctx : CalibrationContext) (store : Option String)
    (as : List RunAction) :
    Always (saveStep json e) (RetriesUnstored json e) (.start ctx store) as ↔
      AllSteps (saveStep json e) (LosesNothing json e) (.start ctx store) as := by
  apply Always.iff_of_inv (I := PayloadStored json e)
  · exact fun s a t h hkeeps hstep => h.step hkeeps hstep
  · exact fun s h => h.retries
  · exact fun s a t h hstep hretries => losesNothing_of_retries h hstep hretries
  · exact .start ctx store

end

/-! ## A write that is forgotten -/

/-- A context without a profile is saved as the empty payload. -/
theorem emptyPayload_hash :
    payloadHash (writeProfile savedJson eigenAtIdentity CalibrationContext.new) ≠ 0 := by
  decide +kernel

/-- A context that was cleared, in front of a registry with its old profile. -/
def clearedRun : SaveRun := .start CalibrationContext.new (some savedText)

/-- What the refused write leaves. -/
def refusedSave : SaveRun :=
  ⟨⟨CalibrationContext.new, some savedText,
    payloadHash (writeProfile savedJson eigenAtIdentity CalibrationContext.new)⟩,
    some (writeProfile savedJson eigenAtIdentity CalibrationContext.new)⟩

theorem refusedSave_step :
    saveStep savedJson eigenAtIdentity clearedRun (.own (.call (.save false))) =
      some refusedSave := by
  have hskips : ¬clearedRun.profile.Skips savedJson eigenAtIdentity clearedRun.profile.ctx :=
    fun h => h.1 h.2
  show some (SaveRun.mk (clearedRun.profile.saveProfile savedJson eigenAtIdentity false)
    (if clearedRun.profile.Skips savedJson eigenAtIdentity clearedRun.profile.ctx then _
      else _)) = _
  rw [saveProfile_attempts hskips, if_neg hskips]
  rfl

/-- The registry refuses to give up the old profile; the same context is saved again, and the old
    profile is still there. -/
theorem failedWrite_forgotten :
    ¬Always (saveStep savedJson eigenAtIdentity) (RetriesUnstored savedJson eigenAtIdentity)
        clearedRun [.own (.call (.save false))] ∧
      (runTo (saveStep savedJson eigenAtIdentity) clearedRun
        [.own (.call (.save false)), .own (.call (.save true))]).map (·.profile.store) =
          some (some savedText) ∧
      writeProfile savedJson eigenAtIdentity CalibrationContext.new = "" ∧ savedText ≠ "" := by
  have hskips : refusedSave.profile.Skips savedJson eigenAtIdentity refusedSave.profile.ctx :=
    ⟨emptyPayload_hash, rfl⟩
  have hempty : writeProfile savedJson eigenAtIdentity CalibrationContext.new = "" := rfl
  have hne : savedText ≠ "" := by decide +kernel
  refine ⟨fun h => ?_, ?_, hempty, hne⟩
  · have hretries : RetriesUnstored savedJson eigenAtIdentity refusedSave :=
      (h.2 refusedSave refusedSave_step).head
    refine hretries CalibrationContext.new rfl (fun hstore => hne ?_) hskips
    exact (Option.some.inj hstore).trans hempty
  · rw [runTo, refusedSave_step, Option.bind_some, runTo, saveStep, step, Option.map_some, runCall,
      saveProfile_skips hskips]
    rfl

end WKPairDriver.Calibration
