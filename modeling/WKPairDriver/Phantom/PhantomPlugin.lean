import Mathlib
import WKPairDriver.Phantom.PhantomRequests

/-!
# The overlay's Phantom plugin

Every edit is sent once, and a new connection replays the configuration: the timings, and of each
map the entries that are set.  What becomes of a request is up to the environment.

* `PhantomPlugin.send` — one call of `SendBlocking`.
* `replay_eq`, `edit_eq` — the requests of a replay, and of an edit.
-/

set_option autoImplicit false

namespace WKPairDriver.Phantom

open Driver Inference
open Smoothing (SendOutcome Slot)

/-! ## Configuration -/

/-- The overlay's `PhantomConfig`; each map lists its entries in some order. -/
structure Config where
  master_enabled : Bool
  timings : PhantomConfig
  dropout_enabled : AList fun _ : String => Bool
  device_role : AList fun _ : String => BodyRole
  role_offset : AList fun _ : BodyRole => TrackerOffset
  virtual_enabled : AList fun _ : BodyRole => Bool

/-- The sliders of the Advanced tab. -/
inductive Timing where
  | blend_out
  | blend_in
  | reckon_hold
  | synth_hold
  | lost_hold

def Timing.range : Timing → ℤ × ℤ
  | .blend_out => (0, 500)
  | .blend_in => (0, 1000)
  | .reckon_hold => (0, 1000)
  | .synth_hold => (100, 10000)
  | .lost_hold => (500, 60000)

def Timing.set (c : PhantomConfig) (v : ℕ) : Timing → PhantomConfig
  | .blend_out => { c with blend_out_ms := v }
  | .blend_in => { c with blend_in_ms := v }
  | .reckon_hold => { c with reckon_hold_ms := v }
  | .synth_hold => { c with synth_hold_ms := v }
  | .lost_hold => { c with lost_hold_ms := v }

def defaultTimings : PhantomConfig where
  blend_out_ms := LadderTimings.Defaults.blend_out_ms
  blend_in_ms := LadderTimings.Defaults.blend_in_ms
  reckon_hold_ms := LadderTimings.Defaults.reckon_hold_ms
  synth_hold_ms := LadderTimings.Defaults.synth_hold_ms
  lost_hold_ms := LadderTimings.Defaults.lost_hold_ms

/-- One edit of the configuration. -/
inductive Edit where
  | masterSwitch (enabled : Bool)
  | sliderMs (label : Timing) (tmp : ℤ)
  | resetToDefaults
  | optIn (serial : String) (enabled : Bool)
  | role (serial : String) (role : BodyRole)
  /-- The offset of one device in a T-pose. -/
  | offset (role : BodyRole) (rel_position : Fin 3 → ℝ) (rel_rotation : HmdQuaternion)
  | virtual (role : BodyRole) (enabled : Bool)

namespace Config

variable (cfg : Config)

def edit : Edit → Config
  | .masterSwitch enabled => { cfg with master_enabled := enabled }
  | .sliderMs label tmp =>
    let (lo, hi) := label.range
    { cfg with timings := label.set cfg.timings (max lo (min tmp hi)).toNat }
  | .resetToDefaults => { cfg with timings := defaultTimings }
  | .optIn serial enabled =>
    { cfg with dropout_enabled := cfg.dropout_enabled.insert serial enabled }
  | .role serial role =>
    { cfg with
      device_role :=
        if role = noRole then cfg.device_role.erase serial else cfg.device_role.insert serial role }
  | .offset role rel_position rel_rotation =>
    { cfg with role_offset := cfg.role_offset.insert role ⟨rel_position, rel_rotation, true⟩ }
  | .virtual role enabled =>
    { cfg with virtual_enabled := cfg.virtual_enabled.insert role enabled }

/-- The tabs have no entry for the roles of the headset and the hands, and a virtual tracker needs
    a captured offset. -/
def offers : Edit → Bool
  | .role _ role => decide (role.val ≠ 1 ∧ role.val ≠ 2 ∧ role.val ≠ 3)
  | .virtual role _ =>
    decide (4 ≤ role.val) && (cfg.role_offset.lookup role).any TrackerOffset.calibrated
  | .offset _ _ _ => false
  | _ => true

end Config

/-! ## The plugin -/

/-- The handle of the connection.  The other end may be gone, and the driver have restarted, without
    the overlay having noticed. -/
inductive Pipe where
  | closed
  | opened
  | broken (restarted : Bool)
  deriving DecidableEq

structure PhantomPlugin where
  cfg : Config
  pipe : Pipe := .closed
  /-- Milliseconds. -/
  nextConnectAttempt : Option ℕ := none
  driver : PhantomModule
  /-- What becomes of the next calls of `SendBlocking`. -/
  sends : List SendOutcome := []

namespace PhantomPlugin

variable (s : PhantomPlugin)

/-- `SendBlocking`, if `IsConnected`. -/
noncomputable def send (r : PhantomRequest) : PhantomPlugin :=
  if s.pipe = .closed then s
  else
    let t := { s with sends := s.sends.tail }
    match s.sends.headD .delivered with
    | .delivered | .oversized => { t with driver := s.driver.HandleRequest r, pipe := .opened }
    | .repaired => { t with driver := PhantomModule.fresh.HandleRequest r, pipe := .opened }
    | .closed applied restarted =>
      let m := if restarted = true then .fresh else s.driver
      { t with driver := if applied = true then m.HandleRequest r else m, pipe := .closed }

noncomputable def SendConfig : PhantomPlugin :=
  s.send (.SetPhantomConfig s.cfg.master_enabled s.cfg.timings)

noncomputable def SendDeviceOptIn (serial : String) (enabled : Bool) : PhantomPlugin :=
  s.send (.SetPhantomDeviceOptIn (Fnv1a64 serial) enabled)

noncomputable def SendDeviceRole (serial : String) (role : BodyRole) : PhantomPlugin :=
  s.send (.SetPhantomDeviceRole (Fnv1a64 serial) role)

noncomputable def SendTrackerOffset (role : BodyRole) (offset : TrackerOffset) : PhantomPlugin :=
  s.send (.SetPhantomTrackerOffset role offset)

noncomputable def SendVirtualEnabled (role : BodyRole) (enabled : Bool) : PhantomPlugin :=
  s.send (.SetPhantomVirtualEnabled role enabled)

noncomputable def ReplayCalibration : PhantomPlugin :=
  if s.pipe = .closed then s
  else
    let t := s.cfg.device_role.foldl (fun t serial role => t.SendDeviceRole serial role) s
    let t := s.cfg.role_offset.foldl
      (fun t role offset => if offset.calibrated = true then t.SendTrackerOffset role offset else t) t
    s.cfg.virtual_enabled.foldl
      (fun t role enabled => if enabled = true then t.SendVirtualEnabled role true else t) t

/-- What `OnStart` and a new connection send. -/
noncomputable def replay : PhantomPlugin :=
  let t := s.SendConfig
  (s.cfg.dropout_enabled.foldl
    (fun t serial enabled => if enabled = true then t.SendDeviceOptIn serial true else t)
    t).ReplayCalibration

/-- Whether the connection is new; `connects` says whether `Connect` succeeds. -/
def ConnectIfNeeded (now : ℕ) (connects : Bool) : PhantomPlugin × Bool :=
  if s.pipe ≠ .closed then (s, false)
  else if s.nextConnectAttempt.any (fun t => decide (now < t)) = true then (s, false)
  else if connects = true then ({ s with pipe := .opened, nextConnectAttempt := none }, true)
  else ({ s with nextConnectAttempt := some (now + 1000) }, false)

noncomputable def OnStart (now : ℕ) (connects : Bool) : PhantomPlugin :=
  (s.ConnectIfNeeded now connects).1.replay

noncomputable def Tick (now : ℕ) (connects : Bool) : PhantomPlugin :=
  match s.ConnectIfNeeded now connects with
  | (t, true) => t.replay
  | (t, false) => t

/-- An edit is sent once. -/
noncomputable def edit (e : Edit) : PhantomPlugin :=
  let t := { s with cfg := s.cfg.edit e }
  match e with
  | .masterSwitch _ | .sliderMs _ _ | .resetToDefaults => t.SendConfig
  | .optIn serial enabled => t.SendDeviceOptIn serial enabled
  | .role serial role => t.SendDeviceRole serial role
  | .offset role rel_position rel_rotation =>
    t.SendTrackerOffset role ⟨rel_position, rel_rotation, true⟩
  | .virtual role enabled => t.SendVirtualEnabled role enabled

/-- A tracked device and where it is from the headset. -/
structure Captured where
  serial : String
  rel_position : Fin 3 → ℝ
  rel_rotation : HmdQuaternion

/-- The tracked devices are walked through; one without a role is skipped. -/
noncomputable def CaptureTPose (devices : List Captured) : PhantomPlugin :=
  devices.foldl (fun t d =>
    match t.cfg.device_role.lookup d.serial with
    | none => t
    | some role => if role = noRole then t else t.edit (.offset role d.rel_position d.rel_rotation)) s

end PhantomPlugin

/-! ## What is sent -/

namespace Config

variable (cfg : Config)

def optInRequests : List PhantomRequest :=
  (cfg.dropout_enabled.entries.filter fun e => e.2).map fun e =>
    .SetPhantomDeviceOptIn (Fnv1a64 e.1) true

def calibrationRequests : List PhantomRequest :=
  (cfg.device_role.entries.map fun e => .SetPhantomDeviceRole (Fnv1a64 e.1) e.2) ++
    ((cfg.role_offset.entries.filter fun e => e.2.calibrated).map fun e =>
      .SetPhantomTrackerOffset e.1 e.2) ++
    (cfg.virtual_enabled.entries.filter fun e => e.2).map fun e =>
      .SetPhantomVirtualEnabled e.1 true

/-- The requests of a replay. -/
def requests : List PhantomRequest :=
  .SetPhantomConfig cfg.master_enabled cfg.timings :: cfg.optInRequests ++ cfg.calibrationRequests

/-- The request behind an edit. -/
def request : Edit → PhantomRequest
  | .masterSwitch _ | .sliderMs _ _ | .resetToDefaults =>
    .SetPhantomConfig cfg.master_enabled cfg.timings
  | .optIn serial enabled => .SetPhantomDeviceOptIn (Fnv1a64 serial) enabled
  | .role serial role => .SetPhantomDeviceRole (Fnv1a64 serial) role
  | .offset role rel_position rel_rotation =>
    .SetPhantomTrackerOffset role ⟨rel_position, rel_rotation, true⟩
  | .virtual role enabled => .SetPhantomVirtualEnabled role enabled

end Config

namespace PhantomPlugin

variable (s : PhantomPlugin)

@[simp] theorem send_cfg (r : PhantomRequest) : (s.send r).cfg = s.cfg := by
  unfold send
  split
  · rfl
  · dsimp only
    split <;> rfl

theorem send_closed {s : PhantomPlugin} (h : s.pipe = .closed) (r : PhantomRequest) :
    s.send r = s := if_pos h

@[simp] theorem foldl_send_cfg (rs : List PhantomRequest) : (rs.foldl send s).cfg = s.cfg := by
  induction rs generalizing s with
  | nil => rfl
  | cons r rs ih => rw [List.foldl_cons, ih, send_cfg]

theorem foldl_send_closed {s : PhantomPlugin} (h : s.pipe = .closed) (rs : List PhantomRequest) :
    rs.foldl send s = s := by
  induction rs with
  | nil => rfl
  | cons r rs ih => rw [List.foldl_cons, send_closed h, ih]

theorem edit_eq (e : Edit) :
    s.edit e = { s with cfg := s.cfg.edit e }.send ((s.cfg.edit e).request e) := by
  cases e <;> rfl

/-- A loop over the entries that are set. -/
theorem foldl_entries {K V : Type} (entries : List (Sigma fun _ : K => V)) (on : V → Bool)
    (f : K → V → PhantomRequest) (s : PhantomPlugin) :
    entries.foldl (fun t e => if on e.2 = true then t.send (f e.1 e.2) else t) s =
      ((entries.filter fun e => on e.2).map fun e => f e.1 e.2).foldl send s := by
  induction entries generalizing s with
  | nil => rfl
  | cons e entries ih =>
    rw [List.foldl_cons, ih]
    cases h : on e.2 with
    | false => simp [h]
    | true => simp [h]

theorem ReplayCalibration_eq : s.ReplayCalibration = s.cfg.calibrationRequests.foldl send s := by
  unfold ReplayCalibration
  split
  · next h => rw [foldl_send_closed h]
  · have hoffsets := foldl_entries s.cfg.role_offset.entries TrackerOffset.calibrated
      PhantomRequest.SetPhantomTrackerOffset
    have hvirtual := foldl_entries s.cfg.virtual_enabled.entries id
      fun role _ => PhantomRequest.SetPhantomVirtualEnabled role true
    simp only [id] at hvirtual
    rw [Config.calibrationRequests, List.foldl_append, List.foldl_append, ← hvirtual,
      ← hoffsets, List.foldl_map]
    rfl

/-- **A replay sends the requests of the configuration.** -/
theorem replay_eq : s.replay = s.cfg.requests.foldl send s := by
  have hoptIns := foldl_entries s.cfg.dropout_enabled.entries id
    fun serial _ => PhantomRequest.SetPhantomDeviceOptIn (Fnv1a64 serial) true
  simp only [id] at hoptIns
  have hloop : s.replay =
      (s.cfg.optInRequests.foldl send s.SendConfig).ReplayCalibration := by
    rw [Config.optInRequests, ← hoptIns]
    rfl
  rw [hloop, ReplayCalibration_eq, foldl_send_cfg, SendConfig, send_cfg, Config.requests,
    List.cons_append, List.foldl_cons, List.foldl_append]

end PhantomPlugin

end WKPairDriver.Phantom
