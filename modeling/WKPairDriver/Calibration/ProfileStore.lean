import Mathlib
import WKPairDriver.Lib.Run
import WKPairDriver.Lib.Json
import WKPairDriver.Calibration.Context
import WKPairDriver.Calibration.WriteProfile
import WKPairDriver.Calibration.ParseProfile
import WKPairDriver.Calibration.RoundTrip

/-!
# The stored profile

`LoadProfile`, `SaveProfile` and the recovery, on a context and the registry value that keeps the
profile.  Other code may leave any context between two calls, and a process may end.

* `saveProfile_invalid` — what a save of an invalid profile does: it replaces the stored profile by
  nothing, unless the last payload had the hash of the empty one.
* `invalidSaves_preserve_iff` — when every such save of a run leaves the store as it is, and when a
  newer profile outlives the calls after it was refused.
* `newer_profile_lost` — a newer profile that the first save after its refusal destroys.
-/

set_option autoImplicit false

namespace WKPairDriver.Calibration

open Lib Lib.Json

/-- The calibration process and its registry value, `none` when it is absent. -/
structure ProfileStore where
  ctx : CalibrationContext
  store : Option String
  /-- Of the last payload that was given to the registry, 0 at the start of the process. -/
  lastSavedHash : UInt64

/-- FNV-1a of the bytes of a payload. -/
def payloadHash (serialized : String) : UInt64 :=
  serialized.toUTF8.toList.foldl (fun hash c => (hash ^^^ c.toUInt64) * 0x100000001b3)
    0xcbf29ce484222325

namespace ProfileStore

variable (json : Picojson) (e : Eigen) (s : ProfileStore)

/-- What is read: nothing when the value is absent or the read fails. -/
def readRegistryKey (readable : Bool) : String := if readable then s.store.getD "" else ""

/-- `LoadProfile`.  A parse that fails leaves what it has changed; `rotation` and `translation` are
    what `Clear` finds on the stack. -/
def loadProfile (readable : Bool) (rotation translation : Vector3d) : ProfileStore :=
  let ctx := { s.ctx with validProfile := false }
  let str := s.readRegistryKey readable
  if str = "" then { s with ctx := ctx.clear rotation translation }
  else { s with ctx := (parseProfile json e str ctx).2 }

/-- `SaveProfile`, where the registry takes the value or refuses it. -/
def saveProfile (written : Bool) : ProfileStore :=
  let serialized := writeProfile json e s.ctx
  let hash := payloadHash serialized
  if hash ≠ 0 ∧ hash = s.lastSavedHash then s
  else
    { s with
      lastSavedHash := hash
      store := if written then some serialized else s.store }

def recover : ProfileStore := { s with ctx := s.ctx.clearRuntimeCalibrationForRecovery }

end ProfileStore

/-! ## Calls and runs -/

inductive Call where
  | load (readable : Bool) (rotation translation : Vector3d)
  | recover
  | save (written : Bool)

/-- Other code leaves a context, or a new process starts with one. -/
inductive Action where
  | call (c : Call)
  | edit (ctx : CalibrationContext)
  | restart (ctx : CalibrationContext)

section Runs

variable (json : Picojson) (e : Eigen)

def runCall (s : ProfileStore) : Call → ProfileStore
  | .load readable rotation translation => s.loadProfile json e readable rotation translation
  | .recover => s.recover
  | .save written => s.saveProfile json e written

def callStep (s : ProfileStore) (c : Call) : Option ProfileStore := some (runCall json e s c)

def step (s : ProfileStore) : Action → Option ProfileStore
  | .call c => some (runCall json e s c)
  | .edit ctx => some { s with ctx := ctx }
  | .restart ctx => some { s with ctx := ctx, lastSavedHash := 0 }

end Runs

/-- A save of an invalid profile leaves the store as it is. -/
def Preserves (json : Picojson) (e : Eigen) (s : ProfileStore) (a : Action) : Prop :=
  ∀ written, a = .call (.save written) → s.ctx.validProfile = false →
    ∀ t, step json e s a = some t → t.store = s.store

/-- A save of an invalid profile is skipped, because the last payload had the hash of the empty
    one, or the registry refuses the value, or there is nothing to lose. -/
def HarmlessCall (s : ProfileStore) : Call → Prop
  | .save written =>
    s.ctx.validProfile = false →
      s.lastSavedHash = payloadHash "" ∨ written = false ∨ s.store = some ""
  | _ => True

instance decidableHarmlessCall (s : ProfileStore) : (c : Call) → Decidable (HarmlessCall s c)
  | .save written =>
    inferInstanceAs (Decidable (s.ctx.validProfile = false →
      s.lastSavedHash = payloadHash "" ∨ written = false ∨ s.store = some ""))
  | .load .. => isTrue trivial
  | .recover => isTrue trivial

def Harmless (s : ProfileStore) : Action → Prop
  | .call c => HarmlessCall s c
  | _ => True

/-- A profile that `ParseProfile` refuses: its version is newer than this build. -/
def Refused (json : Picojson) (text : String) : Prop :=
  text ≠ "" ∧ ∃ obj, firstProfile json text = .ok obj ∧ profileVersion obj > kProfileSchemaVersion

/-! ## What one call does -/

section Calls

variable (json : Picojson) (e : Eigen) (s : ProfileStore)

theorem payloadHash_empty : payloadHash "" = 0xcbf29ce484222325 := by
  decide +kernel

/-- The payload of an invalid profile is empty. -/
theorem saveProfile_invalid (hinvalid : s.ctx.validProfile = false) (written : Bool) :
    s.saveProfile json e written =
      if s.lastSavedHash = payloadHash "" then s
      else
        { s with
          lastSavedHash := payloadHash ""
          store := if written then some "" else s.store } := by
  have hpayload : writeProfile json e s.ctx = "" := if_neg (by simp [hinvalid])
  have hne : payloadHash "" ≠ 0 := by
    rw [payloadHash_empty]
    decide
  simp only [ProfileStore.saveProfile, hpayload, hne, ne_eq, not_false_eq_true, true_and]
  by_cases hskip : s.lastSavedHash = payloadHash ""
  · rw [if_pos hskip.symm, if_pos hskip]
  · rw [if_neg (Ne.symm hskip), if_neg hskip]

/-- A save of an invalid profile leaves the store as it is exactly when it is harmless. -/
theorem saveProfile_store_iff (hinvalid : s.ctx.validProfile = false) (written : Bool) :
    (s.saveProfile json e written).store = s.store ↔ HarmlessCall s (.save written) := by
  rw [saveProfile_invalid json e s hinvalid]
  simp only [HarmlessCall, hinvalid, true_imp_iff]
  by_cases hskip : s.lastSavedHash = payloadHash ""
  · simp [hskip]
  · cases written with
    | false => simp [hskip]
    | true => simp [hskip, eq_comm]

theorem preserves_iff_harmless (a : Action) : Preserves json e s a ↔ Harmless s a := by
  rcases a with (c | _ | written) | _ | _
  -- only a save reads or writes anything that the two conditions are about
  case call.save =>
    constructor
    · intro h hinvalid
      exact (saveProfile_store_iff json e s hinvalid written).1 (h written rfl hinvalid _ rfl) hinvalid
    · rintro h w ⟨⟩ hinvalid t ⟨⟩
      exact (saveProfile_store_iff json e s hinvalid written).2 h
  all_goals exact ⟨fun _ => trivial, by rintro _ _ ⟨⟩⟩

/-- A newer profile is in the store, and the context is not valid. -/
def Kept (text : String) (s : ProfileStore) : Prop :=
  s.store = some text ∧ s.ctx.validProfile = false

variable {json s} {text : String}

/-- A load of a newer profile leaves an invalid context, whether the value can be read or not. -/
theorem kept_loadProfile (hrefused : Refused json text) (hstore : s.store = some text)
    (readable : Bool) (rotation translation : Vector3d) :
    Kept text (s.loadProfile json e readable rotation translation) := by
  obtain ⟨hne, obj, hfirst, hnewer⟩ := hrefused
  simp only [ProfileStore.loadProfile]
  cases readable with
  | false => exact ⟨hstore, rfl⟩
  | true =>
    have htext : s.readRegistryKey true = text := by
      simp [ProfileStore.readRegistryKey, hstore]
    rw [htext, if_neg hne]
    refine ⟨hstore, ?_⟩
    simp only [parseProfile, hfirst, parseObject, if_pos hnewer]

/-- A harmless call keeps a newer profile. -/
theorem kept_runCall (hrefused : Refused json text) (hkept : Kept text s) {c : Call}
    (hharmless : HarmlessCall s c) : Kept text (runCall json e s c) := by
  obtain ⟨hstore, hinvalid⟩ := hkept
  cases c with
  | load readable rotation translation =>
    exact kept_loadProfile e hrefused hstore readable rotation translation
  | recover => exact ⟨hstore, rfl⟩
  | save written =>
    refine ⟨((saveProfile_store_iff json e s hinvalid written).2 hharmless).trans hstore, ?_⟩
    show (s.saveProfile json e written).ctx.validProfile = false
    rw [saveProfile_invalid json e s hinvalid]
    split <;> exact hinvalid

/-- A call behind which a newer profile is still there was harmless. -/
theorem harmless_of_store_runCall (hkept : Kept text s) {c : Call}
    (hstore : (runCall json e s c).store = some text) : HarmlessCall s c := by
  cases c with
  | load readable rotation translation => trivial
  | recover => trivial
  | save written =>
    exact (saveProfile_store_iff json e s hkept.2 written).1 (hstore.trans hkept.1.symm)

end Calls

/-! ## Runs -/

/-- **Invalid saves.**  Along a run every save of an invalid profile leaves the store as it is
    exactly when every one is harmless, and a newer profile outlives the calls behind a load that
    refuses it exactly when every one is. -/
theorem invalidSaves_preserve_iff (json : Picojson) (e : Eigen) (s : ProfileStore) :
    (∀ as, AllSteps (step json e) (Preserves json e) s as ↔ AllSteps (step json e) Harmless s as) ∧
      ∀ text, Refused json text → s.store = some text → ∀ readable rotation translation cs,
        (Always (callStep json e) (fun t => t.store = some text)
            (s.loadProfile json e readable rotation translation) cs ↔
          AllSteps (callStep json e) HarmlessCall
            (s.loadProfile json e readable rotation translation) cs) := by
  constructor
  · intro as
    exact AllSteps.congr fun t a _ _ => preserves_iff_harmless json e t a
  · intro text hrefused hstore readable rotation translation cs
    apply Always.iff_of_inv (I := Kept text)
    · rintro t c _ hkept hharmless ⟨⟩
      exact kept_runCall e hrefused hkept hharmless
    · exact fun t hkept => hkept.1
    · rintro t c _ hkept ⟨⟩ hstore
      exact harmless_of_store_runCall e hkept hstore
    · exact kept_loadProfile e hrefused hstore readable rotation translation

/-! ## A newer profile -/

def newerText : String := "[\x7b\"schema_version\":6\x7d]"

def newerJson : Picojson where
  serialize _ := ""
  parse text :=
    if text = newerText then .ok (.array [.object [("schema_version", .number 6.0)]])
    else .error "syntax error at line 1 near: "
  to_str _ := "array"

theorem newerText_refused : Refused newerJson newerText :=
  ⟨by decide +kernel, [("schema_version", .number 6.0)], rfl, by decide +kernel⟩

/-- A newer profile in a registry where the last payload of the process was empty. -/
def newerStore : ProfileStore := ⟨CalibrationContext.new, some newerText, payloadHash ""⟩

theorem newerText_outlives_saves :
    Always (callStep newerJson eigenAtIdentity) (fun t => t.store = some newerText)
      (newerStore.loadProfile newerJson eigenAtIdentity true .Zero .Zero)
      [.save true, .recover, .save true, .save false] :=
  ((invalidSaves_preserve_iff newerJson eigenAtIdentity newerStore).2 newerText newerText_refused
    rfl true .Zero .Zero _).2 (by decide +kernel)

/-- A newer profile is refused, and the first save destroys it; so is one that was loaded, after
    the recovery. -/
theorem newer_profile_lost :
    let start (text : String) : ProfileStore := ⟨CalibrationContext.new, some text, 0⟩
    let load : Call := .load true .Zero .Zero
    Refused newerJson newerText ∧
      (runTo (callStep newerJson eigenAtIdentity) (start newerText) [load]).map (·.store) =
        some (some newerText) ∧
      (runTo (callStep newerJson eigenAtIdentity) (start newerText) [load, .save true]).map
        (·.store) = some (some "") ∧
      (runTo (callStep savedJson eigenAtIdentity) (start savedText) [load]).map
        (·.ctx.validProfile) = some true ∧
      (runTo (callStep savedJson eigenAtIdentity) (start savedText)
        [load, .recover, .save true]).map (·.store) = some (some "") := by
  intro start load
  refine ⟨newerText_refused, by decide +kernel, by decide +kernel, ?_, by decide +kernel⟩
  decide +kernel

end WKPairDriver.Calibration
