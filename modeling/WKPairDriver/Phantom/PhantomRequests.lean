import Mathlib
import WKPairDriver.Lib.Store
import WKPairDriver.Phantom.PoseHandover
import WKPairDriver.Smoothing.DevicePrediction

/-!
# Requests to the driver's Phantom module

`PhantomModule::HandleRequest`, and what `OnRealPoseObserved` takes from the settings.

* `Place` — what a request can set: the master switch, the timings and those of each slot's ladder,
  and an entry of a map.
* `phantomStore` — a request writes some places and leaves the others alone.
* `observed_ladder`, `observed_read` — a pose changes the timings of its slot's ladder only.
-/

set_option autoImplicit false

namespace WKPairDriver.Phantom

open Driver Inference
open Smoothing (Slot)

/-- FNV-1a, 64 bits. -/
def Fnv1a64 (s : String) : UInt64 :=
  s.toUTF8.foldl (fun h c => (h ^^^ c.toUInt64) * 0x100000001b3) 0xcbf29ce484222325

theorem kBodyRoleCount_pos : 0 < kBodyRoleCount := by decide

/-- `BodyRole::None` -/
def noRole : BodyRole := ⟨0, kBodyRoleCount_pos⟩

inductive PhantomRequest where
  | SetPhantomConfig (master_enabled : Bool) (timings : PhantomConfig)
  | SetPhantomDeviceOptIn (device_serial_hash : UInt64) (dropout_enabled : Bool)
  | SetPhantomDeviceRole (device_serial_hash : UInt64) (body_role : BodyRole)
  | SetPhantomTrackerOffset (body_role : BodyRole) (offset : TrackerOffset)
  | SetPhantomVirtualEnabled (body_role : BodyRole) (enabled : Bool)

structure DeviceSlot where
  ladder : DropoutState := .new
  serial : String := ""
  serial_hash : UInt64 := 0
  opted_in : Bool := false
  role : BodyRole := noRole

/-! ## The module -/

/-- `TrackerOffset{}` -/
noncomputable def noOffset : TrackerOffset := ⟨0, 1, false⟩

namespace IkFallback

variable (offsets : IkFallback)

noncomputable def ClearOffset (role : BodyRole) : IkFallback :=
  Function.update offsets role noOffset

def HasOffset (role : BodyRole) : Bool := (offsets role).calibrated

end IkFallback

structure PhantomModule where
  timings : LadderTimings
  master_enabled : Bool
  opt_in_by_serial_hash : UInt64 → Option Bool
  role_by_serial_hash : UInt64 → Option BodyRole
  ik_fallback : IkFallback
  /-- `enabled_` of the virtual trackers. -/
  virtual_enabled : BodyRole → Bool
  slots : Slot → DeviceSlot

namespace PhantomModule

/-- After a start of the driver. -/
noncomputable def fresh : PhantomModule where
  timings := .Defaults
  master_enabled := false
  opt_in_by_serial_hash _ := none
  role_by_serial_hash _ := none
  ik_fallback _ := noOffset
  virtual_enabled _ := false
  slots _ := {}

variable (m : PhantomModule)

noncomputable def HandleRequest : PhantomRequest → PhantomModule
  | .SetPhantomConfig master_enabled timings =>
    { m with
      timings := timings.timings
      master_enabled := master_enabled
      slots := fun id =>
        { m.slots id with ladder := (m.slots id).ladder.setTimings timings.timings } }
  | .SetPhantomDeviceOptIn hash dropout_enabled =>
    { m with
      opt_in_by_serial_hash :=
        Function.update m.opt_in_by_serial_hash hash (some dropout_enabled)
      slots := fun id =>
        let s := m.slots id
        if s.serial_hash = hash then { s with opted_in := dropout_enabled } else s }
  | .SetPhantomDeviceRole hash role =>
    { m with
      role_by_serial_hash :=
        Function.update m.role_by_serial_hash hash (if role = noRole then none else some role)
      slots := fun id =>
        let s := m.slots id
        if s.serial_hash = hash then
          { s with role := role, ladder := s.ladder.setIkAvailable (m.ik_fallback.HasOffset role) }
        else s }
  | .SetPhantomTrackerOffset role offset =>
    let ik := if offset.calibrated = false then m.ik_fallback.ClearOffset role
      else m.ik_fallback.SetOffset role offset.rel_position offset.rel_rotation
    { m with
      ik_fallback := ik
      slots := fun id =>
        let s := m.slots id
        { s with ladder := s.ladder.setIkAvailable (s.role ≠ noRole && ik.HasOffset s.role) } }
  | .SetPhantomVirtualEnabled role enabled =>
    { m with virtual_enabled := Function.update m.virtual_enabled role enabled }

/-- The slot of a device whose serial can be read; what was sent before it came is looked up. -/
def ResolveSerialIfMissing (id : Slot) (serial : String) : DeviceSlot :=
  let s := m.slots id
  if s.serial ≠ "" ∨ serial = "" then s
  else
    let hash := Fnv1a64 serial
    { s with
      serial := serial
      serial_hash := hash
      opted_in := (m.opt_in_by_serial_hash hash).getD s.opted_in
      role := (m.role_by_serial_hash hash).getD s.role }

/-- What a pose of a device changes in the settings of its slot. -/
def OnRealPoseObserved (id : Slot) (serial : String) : PhantomModule :=
  let s := m.ResolveSerialIfMissing id serial
  let ik := s.role ≠ noRole && m.ik_fallback.HasOffset s.role
  { m with
    slots := Function.update m.slots id
      { s with ladder := (s.ladder.setTimings m.timings).setIkAvailable ik } }

end PhantomModule

/-! ## Places -/

inductive Place where
  | master
  | timings
  | ladder (id : Slot)
  | optIn (hash : UInt64)
  | role (hash : UInt64)
  | offset (role : BodyRole)
  | virtual (role : BodyRole)

abbrev Place.Val : Place → Type
  | .master | .optIn _ | .virtual _ => Bool
  | .timings | .ladder _ => LadderTimings
  | .role _ => Option BodyRole
  | .offset _ => TrackerOffset

def PhantomModule.read (m : PhantomModule) : (p : Place) → p.Val
  | .master => m.master_enabled
  | .timings => m.timings
  | .ladder id => (m.slots id).ladder.timings
  | .optIn hash => decide (m.opt_in_by_serial_hash hash = some true)
  | .role hash => m.role_by_serial_hash hash
  | .offset role => m.ik_fallback role
  | .virtual role => m.virtual_enabled role

/-- What an offset is in the driver. -/
noncomputable def TrackerOffset.stored (offset : TrackerOffset) : TrackerOffset :=
  if offset.calibrated = false then noOffset
  else ⟨offset.rel_position, NormalizeQuat offset.rel_rotation, true⟩

noncomputable def PhantomRequest.write : PhantomRequest → (p : Place) → Option p.Val
  | .SetPhantomConfig master_enabled _, .master => some master_enabled
  | .SetPhantomConfig _ timings, .timings => some timings.timings
  | .SetPhantomConfig _ timings, .ladder _ => some timings.timings
  | .SetPhantomDeviceOptIn hash enabled, .optIn h => if h = hash then some enabled else none
  | .SetPhantomDeviceRole hash role, .role h =>
    if h = hash then some (if role = noRole then none else some role) else none
  | .SetPhantomTrackerOffset role offset, .offset r =>
    if r = role then some offset.stored else none
  | .SetPhantomVirtualEnabled role enabled, .virtual r => if r = role then some enabled else none
  | _, _ => none

/-- **A request sets the places it writes, and no other.** -/
theorem PhantomModule.read_HandleRequest (m : PhantomModule) (r : PhantomRequest) (p : Place) :
    (m.HandleRequest r).read p = (r.write p).getD (m.read p) := by
  cases r with
  | SetPhantomConfig master_enabled timings => cases p <;> rfl
  | SetPhantomDeviceOptIn hash enabled =>
    cases p with
    | optIn h =>
      by_cases hh : h = hash
      · simp [HandleRequest, read, PhantomRequest.write, hh]
      · simp [HandleRequest, read, PhantomRequest.write, hh]
    | ladder id =>
      simp only [HandleRequest, read, PhantomRequest.write, Option.getD_none]
      split <;> rfl
    | _ => rfl
  | SetPhantomDeviceRole hash role =>
    cases p with
    | role h =>
      by_cases hh : h = hash
      · simp [HandleRequest, read, PhantomRequest.write, hh]
      · simp [HandleRequest, read, PhantomRequest.write, hh]
    | ladder id =>
      simp only [HandleRequest, read, PhantomRequest.write, Option.getD_none]
      split <;> rfl
    | _ => rfl
  | SetPhantomTrackerOffset role offset =>
    cases p with
    | offset r =>
      by_cases hr : r = role
      · subst hr
        simp only [HandleRequest, read, PhantomRequest.write, if_true, Option.getD_some,
          TrackerOffset.stored]
        split <;> simp [IkFallback.ClearOffset, IkFallback.SetOffset]
      · simp only [HandleRequest, read, PhantomRequest.write, if_neg hr, Option.getD_none]
        split <;> simp [IkFallback.ClearOffset, IkFallback.SetOffset, hr]
    | _ => rfl
  | SetPhantomVirtualEnabled role enabled =>
    cases p with
    | virtual r =>
      by_cases hr : r = role
      · simp [HandleRequest, read, PhantomRequest.write, hr]
      · simp [HandleRequest, read, PhantomRequest.write, hr]
    | _ => rfl

noncomputable def phantomStore : Lib.Store PhantomModule PhantomRequest Place Place.Val where
  fresh := .fresh
  handle := PhantomModule.HandleRequest
  read := PhantomModule.read
  write := PhantomRequest.write
  read_handle := PhantomModule.read_HandleRequest

/-- A pose gives the ladder of its slot the timings. -/
theorem PhantomModule.observed_ladder (m : PhantomModule) (id : Slot) (serial : String) :
    (m.OnRealPoseObserved id serial).read (.ladder id) = m.timings := by
  simp [OnRealPoseObserved, read, DropoutState.setTimings, DropoutState.setIkAvailable]

theorem PhantomModule.observed_read (m : PhantomModule) {id : Slot} (serial : String) {p : Place}
    (h : p ≠ .ladder id) : (m.OnRealPoseObserved id serial).read p = m.read p := by
  cases p with
  | ladder id' =>
    have hid : id' ≠ id := fun hsame => h (congrArg Place.ladder hsame)
    simp [OnRealPoseObserved, read, hid]
  | _ => rfl

end WKPairDriver.Phantom
