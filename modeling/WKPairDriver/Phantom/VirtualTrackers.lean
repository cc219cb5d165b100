import Mathlib
import WKPairDriver.Phantom.Inference

/-!
# The virtual body trackers

The driver adds a virtual tracker for a body role once the role is switched on and calibrated, the
headset has been seen and SteamVR has had time to find its real devices; from then on it publishes
the poses of the role while the role is switched on.

* `MaybeActivate`, `Tick` — the manager, with what it asks of SteamVR.
* `trackers_run` — in every run a tracker is accepted once for a role at most, none is added before
  its time, and no pose is published of a tracker that was not accepted.
-/

set_option autoImplicit false

namespace WKPairDriver.Phantom.VirtualTracker

open Inference (BodyRole kBodyRoleCount)

/-- A role without one is not published. -/
def BodyRoleToControllerType (role : BodyRole) : Option String :=
  [none, none, none, none, some "vive_tracker_waist", some "vive_tracker_chest",
    some "vive_tracker_left_foot", some "vive_tracker_right_foot", some "vive_tracker_left_knee",
    some "vive_tracker_right_knee", some "vive_tracker_left_elbow", some "vive_tracker_right_elbow",
    some "vive_tracker_left_shoulder", some "vive_tracker_right_shoulder"].getD role none

/-- Three seconds, in microseconds. -/
def kInitSettleDelay : ℤ := 3000 * 1000

/-- What the manager asks of SteamVR. -/
inductive Call where
  | TrackedDeviceAdded (role : BodyRole) (now : ℤ) (accepted : Bool)
  | TrackedDevicePoseUpdated (role : BodyRole)
  deriving DecidableEq

def Call.role : Call → BodyRole
  | TrackedDeviceAdded role _ _ => role
  | TrackedDevicePoseUpdated role => role

/-- The manager; a device is there or not, and SteamVR has activated it or not. -/
structure Manager where
  devices : BodyRole → Option Bool
  enabled : BodyRole → Bool
  hmd_pose_seen : Bool
  init_time : ℤ
  calls : List Call

/-- Behind `OnDriverInit`. -/
def Manager.init (init_time : ℤ) : Manager := ⟨fun _ => none, fun _ => false, false, init_time, []⟩

/-- What a tick reads, for each role where it reads it: the clock, the calibration, the runtime and
    its answers, and whether the solver has a pose. -/
structure Surroundings where
  hmdValid : Bool
  now : BodyRole → ℤ
  HasOffset : BodyRole → Bool
  host : BodyRole → Bool
  accepts : BodyRole → Bool
  activates : BodyRole → Bool
  solves : BodyRole → Bool

variable (w : Surroundings)

/-- The checks of `MaybeActivate` up to the call. -/
def Manager.due (m : Manager) (role : BodyRole) : Prop :=
  m.devices role = none ∧ m.enabled role = true ∧ w.HasOffset role = true ∧
    m.hmd_pose_seen = true ∧ ¬ w.now role - m.init_time < kInitSettleDelay ∧ w.host role = true

instance (m : Manager) (role : BodyRole) : Decidable (m.due w role) :=
  inferInstanceAs (Decidable (_ ∧ _))

def Manager.MaybeActivate (m : Manager) (role : BodyRole) : Manager :=
  if m.due w role then
    { m with
      devices := if w.accepts role = true then
        Function.update m.devices role (some (w.activates role)) else m.devices
      calls := m.calls ++ [.TrackedDeviceAdded role (w.now role) (w.accepts role)] }
  else m

/-- The end of a round of `Tick`. -/
def Manager.publish (m : Manager) (role : BodyRole) : Manager :=
  if m.devices role = some true ∧ m.enabled role = true ∧ w.solves role = true then
    { m with calls := m.calls ++ [.TrackedDevicePoseUpdated role] }
  else m

/-- A round of `Tick`. -/
def Manager.tickRole (m : Manager) (role : BodyRole) : Manager :=
  if BodyRoleToControllerType role = none then m else (m.MaybeActivate w role).publish w role

def Manager.Tick (m : Manager) : Manager :=
  (List.finRange kBodyRoleCount).foldl (fun m role => m.tickRole w role)
    { m with hmd_pose_seen := m.hmd_pose_seen || w.hmdValid }

/-- The overlay switches a role, the headset's pose comes, or SteamVR activates a device. -/
inductive Action where
  | SetEnabled (role : BodyRole) (enabled : Bool)
  | Tick (w : Surroundings)
  | Activate (role : BodyRole)

def Manager.step (m : Manager) : Action → Manager
  | .SetEnabled role enabled => { m with enabled := Function.update m.enabled role enabled }
  | .Tick w => m.Tick w
  | .Activate role =>
    if (m.devices role).isSome = true then
      { m with devices := Function.update m.devices role (some true) }
    else m

def Manager.after (init_time : ℤ) (actions : List Action) : Manager :=
  actions.foldl Manager.step (.init init_time)

/-- SteamVR took the tracker of a role. -/
def Call.accepts (role : BodyRole) : Call → Bool
  | TrackedDeviceAdded role' _ accepted => decide (role' = role) && accepted
  | TrackedDevicePoseUpdated _ => false

/-- A pose follows a call that took the tracker. -/
def Ordered (calls : List Call) : Prop :=
  ∀ before role after, calls = before ++ .TrackedDevicePoseUpdated role :: after →
    before.any (Call.accepts role) = true

/-- A call that the manager may make. -/
def Timely (init_time : ℤ) : Call → Prop
  | .TrackedDeviceAdded role now _ =>
    (BodyRoleToControllerType role).isSome = true ∧ kInitSettleDelay ≤ now - init_time
  | .TrackedDevicePoseUpdated role => (BodyRoleToControllerType role).isSome = true

/-- The manager behind a run, `seen` being whether a valid pose of the headset came. -/
structure Inv (init_time : ℤ) (seen : Bool) (m : Manager) : Prop where
  init : m.init_time = init_time
  hmd_pose_seen : m.hmd_pose_seen = seen
  quiet : seen = false → m.calls = []
  once : ∀ role, m.calls.countP (Call.accepts role) = if (m.devices role).isSome = true then 1 else 0
  timely : ∀ call ∈ m.calls, Timely init_time call
  ordered : Ordered m.calls

theorem Ordered.snoc {calls : List Call} (h : Ordered calls) {call : Call}
    (hcall : ∀ role, call = .TrackedDevicePoseUpdated role → calls.any (Call.accepts role) = true) :
    Ordered (calls ++ [call]) := by
  intro before role after heq
  rcases List.eq_nil_or_concat after with rfl | ⟨rest, last, rfl⟩
  · obtain ⟨rfl, hlast⟩ := List.append_inj' heq rfl
    exact hcall role (List.cons.inj hlast).1
  · rw [List.concat_eq_append, ← List.cons_append, ← List.append_assoc] at heq
    exact h before role rest (List.append_inj' heq rfl).1

variable {w}
variable {init_time : ℤ} {seen : Bool} {m : Manager}

theorem Inv.accepted (h : Inv init_time seen m) {role : BodyRole}
    (hdev : (m.devices role).isSome = true) : m.calls.any (Call.accepts role) = true := by
  have honce := h.once role
  rw [if_pos hdev] at honce
  have hpos : 0 < m.calls.countP (Call.accepts role) := by omega
  obtain ⟨call, hmem, hcall⟩ := List.countP_pos_iff.1 hpos
  exact List.any_eq_true.2 ⟨call, hmem, hcall⟩

theorem Inv.MaybeActivate (h : Inv init_time seen m) {role : BodyRole}
    (htype : (BodyRoleToControllerType role).isSome = true) :
    Inv init_time seen (m.MaybeActivate w role) := by
  rw [Manager.MaybeActivate]
  by_cases hdue : m.due w role
  · rw [if_pos hdue]
    obtain ⟨hnone, -, -, hseen, hsettled, -⟩ := hdue
    refine ⟨h.init, h.hmd_pose_seen, fun hno => ?_, fun role' => ?_, fun call hcall => ?_, ?_⟩
    · rw [← h.hmd_pose_seen, hseen] at hno
      cases hno
    · have honce := h.once role'
      change (m.calls ++ _).countP _ = _
      rw [List.countP_append, honce]
      by_cases hrole : role' = role
      · subst hrole
        cases hacc : w.accepts role' <;> simp [hnone, Call.accepts]
      · cases hacc : w.accepts role <;>
          simp [Call.accepts, Function.update_of_ne hrole, Ne.symm hrole]
    · rcases List.mem_append.1 hcall with hcall | hcall
      · exact h.timely call hcall
      · rw [List.mem_singleton.1 hcall]
        rw [h.init] at hsettled
        exact ⟨htype, not_lt.1 hsettled⟩
    · exact h.ordered.snoc fun role' heq => by cases heq
  · rw [if_neg hdue]
    exact h

theorem Inv.publish (h : Inv init_time seen m) {role : BodyRole}
    (htype : (BodyRoleToControllerType role).isSome = true) :
    Inv init_time seen (m.publish w role) := by
  rw [Manager.publish]
  split
  next hpub =>
    have hdev : (m.devices role).isSome = true := by rw [hpub.1]; rfl
    have haccepted := h.accepted hdev
    refine ⟨h.init, h.hmd_pose_seen, fun hno => ?_, fun role' => ?_, fun call hcall => ?_, ?_⟩
    · rw [h.quiet hno] at haccepted
      cases haccepted
    · change (m.calls ++ _).countP _ = _
      rw [List.countP_append, h.once role']
      simp [Call.accepts]
    · rcases List.mem_append.1 hcall with hcall | hcall
      · exact h.timely call hcall
      · rw [List.mem_singleton.1 hcall]
        exact htype
    · refine h.ordered.snoc fun role' heq => ?_
      obtain rfl := Call.TrackedDevicePoseUpdated.inj heq
      exact haccepted
  next => exact h

theorem Inv.tickRole (h : Inv init_time seen m) (role : BodyRole) :
    Inv init_time seen (m.tickRole w role) := by
  rw [Manager.tickRole]
  split
  next => exact h
  next htype =>
    have hsome : (BodyRoleToControllerType role).isSome = true :=
      Option.isSome_iff_ne_none.2 htype
    exact (h.MaybeActivate hsome).publish hsome

theorem Inv.roles : ∀ (roles : List BodyRole) {m : Manager}, Inv init_time seen m →
    Inv init_time seen (roles.foldl (fun m role => m.tickRole w role) m)
  | [], _, h => h
  | role :: roles, _, h => Inv.roles roles (h.tickRole role)

theorem Inv.Tick (h : Inv init_time seen m) : Inv init_time (seen || w.hmdValid) (m.Tick w) := by
  have hstart : Inv init_time (seen || w.hmdValid)
      { m with hmd_pose_seen := m.hmd_pose_seen || w.hmdValid } :=
    ⟨h.init, by rw [h.hmd_pose_seen], fun hno => h.quiet (Bool.or_eq_false_iff.1 hno).1, h.once,
      h.timely, h.ordered⟩
  exact Inv.roles _ hstart

/-- A valid pose of the headset. -/
def Action.showsHmd : Action → Bool
  | .Tick w => w.hmdValid
  | _ => false

theorem Inv.step (h : Inv init_time seen m) (a : Action) :
    Inv init_time (seen || a.showsHmd) (m.step a) := by
  cases a with
  | SetEnabled role enabled =>
    have hno : (Action.SetEnabled role enabled).showsHmd = false := rfl
    rw [hno, Bool.or_false]
    exact ⟨h.init, h.hmd_pose_seen, h.quiet, h.once, h.timely, h.ordered⟩
  | Tick w => exact h.Tick
  | Activate role =>
    have hno : (Action.Activate role).showsHmd = false := rfl
    rw [hno, Bool.or_false, Manager.step]
    split
    next hdev =>
      refine ⟨h.init, h.hmd_pose_seen, h.quiet, fun role' => ?_, h.timely, h.ordered⟩
      rw [h.once role']
      by_cases hrole : role' = role
      · subst hrole
        simp [hdev]
      · simp [Function.update_of_ne hrole]
    next => exact h

theorem inv_after (init_time : ℤ) (actions : List Action) :
    Inv init_time (actions.any Action.showsHmd) (Manager.after init_time actions) := by
  induction actions using List.reverseRecOn with
  | nil =>
    refine ⟨rfl, rfl, fun _ => rfl, fun _ => rfl, fun _ h => absurd h List.not_mem_nil, ?_⟩
    intro before role after heq
    have hnil : ([] : List Call) = before ++ .TrackedDevicePoseUpdated role :: after := heq
    simp at hnil
  | append_singleton actions a ih =>
    rw [Manager.after, List.foldl_append, List.any_append, List.any_cons, List.any_nil, Bool.or_false]
    exact ih.step a

/-- **What SteamVR sees of the virtual trackers in any run**: nothing before a valid pose of the
    headset; a tracker taken once for a role at most; none offered within three seconds of the start
    or of a role without a controller type; and no pose of a tracker that was not taken before. -/
theorem trackers_run (init_time : ℤ) (actions : List Action) :
    let calls := (Manager.after init_time actions).calls
    (actions.any Action.showsHmd = false → calls = []) ∧
      (∀ role, calls.countP (Call.accepts role) ≤ 1) ∧
      (∀ call ∈ calls, Timely init_time call) ∧ Ordered calls := by
  have h := inv_after init_time actions
  refine ⟨h.quiet, fun role => ?_, h.timely, h.ordered⟩
  rw [h.once role]
  split <;> omega

/-- Role 4 is switched on and calibrated: the tick after one second offers nothing, the one after
    three seconds adds the tracker and publishes its pose. -/
example : (Manager.after 0 [.SetEnabled 4 true,
    .Tick ⟨true, fun _ => 1000000, fun _ => true, fun _ => true, fun _ => true, fun _ => true,
      fun _ => true⟩,
    .Tick ⟨true, fun _ => 3000000, fun _ => true, fun _ => true, fun _ => true, fun _ => true,
      fun _ => true⟩]).calls =
      [.TrackedDeviceAdded 4 3000000 true, .TrackedDevicePoseUpdated 4] := by
  decide +kernel

end WKPairDriver.Phantom.VirtualTracker
