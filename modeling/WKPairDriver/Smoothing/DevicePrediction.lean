import Mathlib

/-!
# Prediction strengths of the devices

The part of `SmoothingPlugin` that sends the saved strength of each device to its slot in the
driver: at the start and on a connection, when a scan finds another list of devices, and when
calibration locks a device.  What becomes of a request is up to the environment.

* `sent_sendEach` — what a loop over the slots leaves in the driver.
-/

set_option autoImplicit false

namespace WKPairDriver.Smoothing

/-! ## Devices -/

def k_unMaxTrackedDeviceCount : ℕ := 64

abbrev Slot := Fin k_unMaxTrackedDeviceCount

inductive TrackedDeviceClass where
  | Invalid
  | HMD
  | Controller
  | GenericTracker
  | TrackingReference
  | DisplayRedirect
  deriving DecidableEq, Repr

def TrackedDeviceClass.value : TrackedDeviceClass → ℕ
  | .Invalid => 0
  | .HMD => 1
  | .Controller => 2
  | .GenericTracker => 3
  | .TrackingReference => 4
  | .DisplayRedirect => 5

/-- The properties of a device; one that cannot be read is empty. -/
structure Device where
  deviceClass : TrackedDeviceClass := .Invalid
  serial : String := ""
  modelNumber : String := ""
  renderModelName : String := ""
  trackingSystemName : String := ""
  deriving DecidableEq, Repr

def EqualsNoCase (a b : String) : Bool := decide (a.toLower = b.toLower)

def ContainsNoCase (haystack needle : String) : Bool :=
  decide (needle.toLower.toList <:+: haystack.toLower.toList)

def IsFaceTrackingSink (serial model : String) : Bool :=
  EqualsNoCase serial "OpenVRPair-FaceTracking-Sink" ||
    EqualsNoCase serial "WKOpenVR-FaceTracking-Sink" ||
    (ContainsNoCase serial "openvrpair" || ContainsNoCase serial "wkopenvr" ||
      ContainsNoCase model "openvrpair" || ContainsNoCase model "wkopenvr") &&
    (ContainsNoCase serial "facetracking-sink" || ContainsNoCase model "facetracking-sink")

def IsUserPoseDeviceClass : TrackedDeviceClass → Bool
  | .HMD | .Controller | .GenericTracker => true
  | _ => false

def IsOwnTrackingSystem (trackingSystem : String) : Bool := EqualsNoCase trackingSystem "wkopenvr"

def ShouldShowInSmoothingPredictionList (deviceClass : TrackedDeviceClass)
    (serial model trackingSystem : String) : Bool :=
  IsUserPoseDeviceClass deviceClass && !IsFaceTrackingSink serial model &&
    !IsOwnTrackingSystem trackingSystem

/-! ## Saved strengths -/

/-- `trackerSmoothness`. -/
abbrev Strengths := List (String × ℤ)

namespace Strengths

def find? (saved : Strengths) (serial : String) : Option ℤ :=
  (List.find? (fun e => decide (e.1 = serial)) saved).map Prod.snd

def erase (saved : Strengths) (serial : String) : Strengths :=
  List.filter (fun e => decide (e.1 ≠ serial)) saved

def assign (saved : Strengths) (serial : String) (smoothness : ℤ) : Strengths :=
  (serial, smoothness) :: saved.erase serial

def keys (saved : Strengths) : Finset String := (saved.map Prod.fst).toFinset

theorem find?_erase (saved : Strengths) (serial s : String) :
    (saved.erase serial).find? s = if s = serial then none else saved.find? s := by
  unfold find? erase
  rw [List.find?_filter]
  split
  · next hs =>
    rw [Option.map_eq_none_iff, List.find?_eq_none]
    intro e _
    simp [hs]
  · next hs =>
    congr 2
    funext e
    by_cases he : e.1 = s
    · simp [he, hs]
    · simp [he]

theorem find?_assign (saved : Strengths) (serial s : String) (smoothness : ℤ) :
    (saved.assign serial smoothness).find? s =
      if s = serial then some smoothness else saved.find? s := by
  unfold assign
  by_cases hs : s = serial
  · rw [if_pos hs, find?, List.find?_cons_of_pos (by simp [hs])]
    rfl
  · have herase := find?_erase saved serial s
    rw [if_neg hs] at herase ⊢
    rw [find?, List.find?_cons_of_neg (by simpa using Ne.symm hs)]
    exact herase

theorem mem_keys {saved : Strengths} {serial : String} :
    serial ∈ saved.keys ↔ saved.find? serial ≠ none := by
  unfold keys find?
  rw [List.mem_toFinset, List.mem_map, ne_eq, Option.map_eq_none_iff, List.find?_eq_none]
  push Not
  constructor
  · rintro ⟨e, he, rfl⟩
    exact ⟨e, he, by simp⟩
  · rintro ⟨e, he, hs⟩
    exact ⟨e, he, by simpa using hs⟩

end Strengths

/-! ## State and requests -/

/-- What becomes of a call of `SendBlocking`. -/
inductive SendOutcome where
  /-- The driver handles the request, behind a reconnect if the pipe was broken. -/
  | delivered
  /-- The driver has restarted, and the reconnect inside `SendBlocking` delivers the request. -/
  | repaired
  /-- An exception that leaves the pipe closed. -/
  | closed (applied restarted : Bool)
  /-- The exception for a response that is too large: the driver has handled the request. -/
  | oversized
  deriving DecidableEq, Repr

structure Prediction where
  /-- `vr::VRSystem()` is there. -/
  vrSystem : Bool
  devices : Slot → Device
  /-- The serials that calibration has locked. -/
  locks : List String
  /-- In the driver. -/
  predictionSmoothness : Slot → ℕ
  trackerSmoothness : Strengths
  connected : Bool := false
  /-- Milliseconds. -/
  nextConnectAttempt : Option ℕ := none
  lastKnownCalibrationLocks : Finset String := ∅
  lastPredictionDeviceSignature : String := ""
  lastPredictionReplayScan : ℕ := 0
  /-- The time of the last call. -/
  clock : ℕ := 0
  /-- What becomes of the next calls of `SendBlocking`. -/
  sends : List SendOutcome := []

namespace Prediction

variable (s : Prediction)

/-- `SendBlocking` with a request that changes the slots by `handle`. -/
def send (handle : (Slot → ℕ) → Slot → ℕ) : Prediction :=
  let t := { s with sends := s.sends.tail }
  match s.sends.headD .delivered with
  | .delivered | .oversized => { t with predictionSmoothness := handle s.predictionSmoothness }
  | .repaired => { t with predictionSmoothness := handle fun _ => 0 }
  | .closed applied restarted =>
    let slots := if restarted = true then fun _ => 0 else s.predictionSmoothness
    { t with
      predictionSmoothness := if applied = true then handle slots else slots
      connected := false }

/-- Of the finger configuration, which no slot depends on. -/
def SendConfig : Prediction := if s.connected = false then s else s.send id

/-- The strength that is sent. -/
def clampStrength (smoothness : ℤ) : ℕ := (min (max smoothness 0) 100).toNat

def SendDevicePrediction (id : Slot) (smoothness : ℤ) : Prediction :=
  if s.connected = false then s
  else s.send fun slots => Function.update slots id (clampStrength smoothness)

/-- A loop over all slots that sends what `value` says. -/
def sendEach (value : Slot → Option ℤ) : Prediction :=
  (List.finRange k_unMaxTrackedDeviceCount).foldl (fun t id =>
    match value id with
    | none => t
    | some smoothness => t.SendDevicePrediction id smoothness) s

/-! ## The plugin -/

/-- The slot has a device whose serial can be read. -/
def readable (id : Slot) : Bool :=
  decide ((s.devices id).deviceClass ≠ .Invalid ∧ (s.devices id).serial ≠ "")

/-- By the model number. -/
def eligible (id : Slot) : Bool :=
  let d := s.devices id
  ShouldShowInSmoothingPredictionList d.deviceClass d.serial d.modelNumber d.trackingSystemName

/-- By the render model, as the tab shows it. -/
def shown (id : Slot) : Bool :=
  let d := s.devices id
  ShouldShowInSmoothingPredictionList d.deviceClass d.serial d.renderModelName d.trackingSystemName

def isHmd (id : Slot) : Bool := decide ((s.devices id).deviceClass = .HMD)

def TryGetCalibrationDeviceLockKind (serial : String) : Bool := decide (serial ∈ s.locks)

def isLocked (id : Slot) : Bool :=
  s.isHmd id || s.TryGetCalibrationDeviceLockKind (s.devices id).serial

def saved (id : Slot) : Option ℤ := s.trackerSmoothness.find? (s.devices id).serial

/-- What `ReplayDevicePredictions` sends to a slot. -/
def replayValue (id : Slot) : Option ℤ :=
  if s.readable id = false then none
  else if s.eligible id = false then (s.saved id).map fun _ => 0
  else if s.isHmd id = true then (s.saved id).map fun _ => 0
  else if s.TryGetCalibrationDeviceLockKind (s.devices id).serial = true then
    (s.saved id).map fun _ => 0
  else s.saved id

/-- The loop reads nothing that its requests change, apart from the connection. -/
def ReplayDevicePredictions : Prediction :=
  if s.connected = false ∨ s.vrSystem = false then s else s.sendEach s.replayValue

def BuildPredictionDeviceSignature : String :=
  if s.vrSystem = false then ""
  else
    (List.finRange k_unMaxTrackedDeviceCount).foldl (fun sig id =>
      if s.readable id = false then sig
      else
        sig ++ toString id.val ++ ":" ++ toString (s.devices id).deviceClass.value ++ ":" ++
          (s.devices id).serial ++ ";") ""

/-- Whether the connection is new; `connects` says whether `Connect` succeeds. -/
def ConnectIfNeeded (now : ℕ) (connects : Bool) : Prediction × Bool :=
  if s.connected = true then (s, false)
  else if s.nextConnectAttempt.any (fun t => decide (now < t)) = true then (s, false)
  else if connects = true then ({ s with connected := true, nextConnectAttempt := none }, true)
  else ({ s with nextConnectAttempt := some (now + 1000) }, false)

def OnStart (now : ℕ) (connects : Bool) : Prediction :=
  (s.ConnectIfNeeded now connects).1.SendConfig.ReplayDevicePredictions

def TickPredictionRestore (now : ℕ) : Prediction :=
  if s.connected = false then s
  else if now - s.lastPredictionReplayScan < 2000 then s
  else
    let t := { s with lastPredictionReplayScan := now }
    let sig := s.BuildPredictionDeviceSignature
    if sig = "" then t
    else if s.lastPredictionDeviceSignature = "" then { t with lastPredictionDeviceSignature := sig }
    else if sig = s.lastPredictionDeviceSignature then t
    else { t with lastPredictionDeviceSignature := sig }.ReplayDevicePredictions

/-- The saved serials that calibration has locked. -/
def calibrationLocks : Finset String :=
  s.trackerSmoothness.keys.filter fun serial => s.TryGetCalibrationDeviceLockKind serial = true

/-- What `TickCalibrationLockClear` sends to a slot. -/
def lockValue (id : Slot) : Option ℤ :=
  let serial := (s.devices id).serial
  if s.readable id = false then none
  else if serial ∉ s.calibrationLocks then none
  else if serial ∈ s.lastKnownCalibrationLocks then none
  else some 0

def TickCalibrationLockClear : Prediction :=
  if s.calibrationLocks = s.lastKnownCalibrationLocks then s
  else if s.vrSystem = false ∨ s.connected = false then s
  else { s.sendEach s.lockValue with lastKnownCalibrationLocks := s.calibrationLocks }

/-- A new connection is replayed. -/
def tickConnect (now : ℕ) (connects : Bool) : Prediction :=
  match s.ConnectIfNeeded now connects with
  | (t, true) => t.SendConfig.ReplayDevicePredictions
  | (t, false) => t

def Tick (now : ℕ) (connects : Bool) : Prediction :=
  ((s.tickConnect now connects).TickPredictionRestore now).TickCalibrationLockClear

/-- The slider of a device in `DrawPredictionTab`, where it is shown and not locked. -/
def slider (id : Slot) (smoothness : ℤ) : Option Prediction :=
  if s.vrSystem = true ∧ s.readable id = true ∧ s.shown id = true ∧ s.isLocked id = false then
    let serial := (s.devices id).serial
    let strengths :=
      if smoothness ≤ 0 then s.trackerSmoothness.erase serial
      else s.trackerSmoothness.assign serial smoothness
    some ({ s with trackerSmoothness := strengths }.SendDevicePrediction id smoothness)
  else none

/-- A device that is not shown loses its saved strength in `DrawPredictionTab`. -/
def prune (id : Slot) : Option Prediction :=
  if s.vrSystem = true ∧ s.readable id = true ∧ s.shown id = false ∧ (s.saved id).isSome = true then
    some ({ s with trackerSmoothness := s.trackerSmoothness.erase (s.devices id).serial
          }.SendDevicePrediction id 0)
  else none

/-! ## What a loop leaves -/

/-- All but the slots, the connection and the next outcomes is as it was. -/
structure Frame (s t : Prediction) : Prop where
  vrSystem : t.vrSystem = s.vrSystem
  devices : t.devices = s.devices
  locks : t.locks = s.locks
  trackerSmoothness : t.trackerSmoothness = s.trackerSmoothness
  nextConnectAttempt : t.nextConnectAttempt = s.nextConnectAttempt
  lastKnownCalibrationLocks : t.lastKnownCalibrationLocks = s.lastKnownCalibrationLocks
  lastPredictionDeviceSignature :
    t.lastPredictionDeviceSignature = s.lastPredictionDeviceSignature
  lastPredictionReplayScan : t.lastPredictionReplayScan = s.lastPredictionReplayScan
  clock : t.clock = s.clock

theorem Frame.refl (s : Prediction) : Frame s s := ⟨rfl, rfl, rfl, rfl, rfl, rfl, rfl, rfl, rfl⟩

theorem Frame.trans {s t u : Prediction} (h : Frame s t) (h' : Frame t u) : Frame s u :=
  ⟨h'.1.trans h.1, h'.2.trans h.2, h'.3.trans h.3, h'.4.trans h.4, h'.5.trans h.5, h'.6.trans h.6,
    h'.7.trans h.7, h'.8.trans h.8, h'.9.trans h.9⟩

theorem frame_send (s : Prediction) (handle : (Slot → ℕ) → Slot → ℕ) : Frame s (s.send handle) := by
  unfold send
  split <;> exact ⟨rfl, rfl, rfl, rfl, rfl, rfl, rfl, rfl, rfl⟩

theorem sends_send (s : Prediction) (handle : (Slot → ℕ) → Slot → ℕ) :
    (s.send handle).sends = s.sends.tail := by
  unfold send
  split <;> rfl

/-- The slots behind a request: the connection stands and the request was handled, or it is closed
    and the request may have been handled. -/
theorem send_cases (s : Prediction) (handle : (Slot → ℕ) → Slot → ℕ) :
    (s.send handle).connected = s.connected ∧
        ((s.send handle).predictionSmoothness = handle s.predictionSmoothness ∨
          SendOutcome.repaired ∈ s.sends ∧
            (s.send handle).predictionSmoothness = handle fun _ => 0) ∨
      (s.send handle).connected = false ∧ ∃ slots, (slots = s.predictionSmoothness ∨
        slots = fun _ => 0) ∧ ((s.send handle).predictionSmoothness = slots ∨
          (s.send handle).predictionSmoothness = handle slots) := by
  unfold send
  cases hs : s.sends with
  | nil => exact .inl ⟨rfl, .inl rfl⟩
  | cons outcome rest =>
    cases outcome with
    | delivered => exact .inl ⟨rfl, .inl rfl⟩
    | oversized => exact .inl ⟨rfl, .inl rfl⟩
    | repaired => exact .inl ⟨rfl, .inr ⟨List.mem_cons_self, rfl⟩⟩
    | closed applied restarted =>
      refine .inr ⟨rfl, if restarted = true then fun _ => 0 else s.predictionSmoothness, ?_, ?_⟩
      · cases restarted
        · exact .inl rfl
        · exact .inr rfl
      · cases applied
        · exact .inl rfl
        · exact .inr rfl

/-- Requests with the strengths `value` were sent: on a connection that still stands the slots have
    them, unless a restart was repaired and has left 0; a slot without a request is as it was, or 0
    by a restart. -/
structure Sent (value : Slot → Option ℤ) (s t : Prediction) : Prop where
  frame : Frame s t
  sends : t.sends <:+ s.sends
  connected : t.connected = true → s.connected = true
  slots : t.connected = true → ∀ id, t.predictionSmoothness id =
    (value id).elim (s.predictionSmoothness id) clampStrength ∨
      SendOutcome.repaired ∈ s.sends ∧ t.predictionSmoothness id = 0
  untouched : ∀ id, value id = none →
    t.predictionSmoothness id = s.predictionSmoothness id ∨ t.predictionSmoothness id = 0

theorem Sent.refl (s : Prediction) : Sent (fun _ => none) s s :=
  ⟨.refl s, List.suffix_rfl, id, fun _ _ => .inl rfl, fun _ _ => .inl rfl⟩

theorem Sent.trans {v v' : Slot → Option ℤ} {s t u : Prediction} (h : Sent v s t)
    (h' : Sent v' t u) : Sent (fun id => (v' id).or (v id)) s u where
  frame := h.frame.trans h'.frame
  sends := h'.sends.trans h.sends
  connected hu := h.connected (h'.connected hu)
  slots hu id := by
    obtain hslot | ⟨hrep, hzero⟩ := h'.slots hu id
    · cases hv : v' id with
      | some x =>
        rw [hv] at hslot
        exact .inl hslot
      | none =>
        rw [hv] at hslot
        rw [Option.none_or, hslot]
        exact h.slots (h'.connected hu) id
    · exact .inr ⟨h.sends.subset hrep, hzero⟩
  untouched id hid := by
    rw [Option.or_eq_none_iff] at hid
    obtain hslot | hzero := h'.untouched id hid.1
    · rw [hslot]
      exact h.untouched id hid.2
    · exact .inr hzero

theorem sent_SendDevicePrediction (s : Prediction) (id : Slot) (smoothness : ℤ) :
    Sent (fun i => if i = id then some smoothness else none) s
      (s.SendDevicePrediction id smoothness) := by
  unfold SendDevicePrediction
  split
  · next hoff =>
    have hon : s.connected ≠ true := by rw [hoff]; decide
    exact ⟨.refl s, List.suffix_rfl, fun h => h, fun h => absurd h hon, fun _ _ => .inl rfl⟩
  · next hon =>
    rw [Bool.not_eq_false] at hon
    refine ⟨frame_send s _, ?_, fun _ => hon, fun hc i => ?_, fun i hi => ?_⟩
    · rw [sends_send]
      exact List.tail_suffix _
    · obtain ⟨-, hslots⟩ | ⟨hoff, -⟩ := send_cases s fun slots =>
        Function.update slots id (clampStrength smoothness)
      · by_cases hi : i = id
        · subst hi
          refine .inl ?_
          rw [if_pos rfl, Option.elim_some]
          obtain h | ⟨-, h⟩ := hslots
          · rw [h, Function.update_self]
          · rw [h, Function.update_self]
        · rw [if_neg hi, Option.elim_none]
          obtain h | ⟨hrep, h⟩ := hslots
          · exact .inl (by rw [h, Function.update_of_ne hi])
          · exact .inr ⟨hrep, by rw [h, Function.update_of_ne hi]⟩
      · rw [hoff] at hc
        cases hc
    · have hne : i ≠ id := fun h => by rw [if_pos h] at hi; cases hi
      obtain ⟨-, h | ⟨-, h⟩⟩ | ⟨-, slots, hbase, h⟩ := send_cases s fun slots =>
        Function.update slots id (clampStrength smoothness)
      · exact .inl (by rw [h, Function.update_of_ne hne])
      · exact .inr (by rw [h, Function.update_of_ne hne])
      · have hslot : (s.send fun slots =>
            Function.update slots id (clampStrength smoothness)).predictionSmoothness i =
              slots i := by
          obtain h | h := h
          · rw [h]
          · rw [h, Function.update_of_ne hne]
        rw [hslot]
        obtain rfl | rfl := hbase
        · exact .inl rfl
        · exact .inr rfl

/-- **A loop over the slots** sends its strengths. -/
theorem sent_sendEach (s : Prediction) (value : Slot → Option ℤ) :
    Sent value s (s.sendEach value) := by
  have hlist : ∀ (l : List Slot) (t : Prediction), Sent (fun i => if i ∈ l then value i else none) t
      (l.foldl (fun t id =>
        match value id with
        | none => t
        | some smoothness => t.SendDevicePrediction id smoothness) t) := by
    intro l
    induction l with
    | nil =>
      intro t
      exact .refl t
    | cons id l ih =>
      intro t
      have hhead : Sent (fun i => if i = id then value id else none) t
          (match value id with
          | none => t
          | some smoothness => t.SendDevicePrediction id smoothness) := by
        cases value id with
        | none => simpa using Sent.refl t
        | some smoothness => exact sent_SendDevicePrediction t id smoothness
      have hvalue : (fun i => if i ∈ id :: l then value i else none) = fun i =>
          (if i ∈ l then value i else none).or (if i = id then value id else none) := by
        funext i
        by_cases hi : i = id
        · subst hi
          rw [if_pos List.mem_cons_self, if_pos rfl]
          by_cases hl : i ∈ l
          · rw [if_pos hl, Option.or_self]
          · rw [if_neg hl, Option.none_or]
        · by_cases hl : i ∈ l
          · simp [hl, hi]
          · simp [hl, hi]
      rw [hvalue]
      exact hhead.trans (ih _)
  have hall := hlist (List.finRange k_unMaxTrackedDeviceCount) s
  simp only [List.mem_finRange, if_true] at hall
  exact hall

/-- A request that no slot depends on. -/
theorem sent_SendConfig (s : Prediction) : Sent (fun _ => none) s s.SendConfig := by
  unfold SendConfig
  split
  · exact .refl s
  · next hon =>
    rw [Bool.not_eq_false] at hon
    refine ⟨frame_send s _, ?_, fun _ => hon, fun hc i => ?_, fun i _ => ?_⟩
    · rw [sends_send]
      exact List.tail_suffix _
    · obtain ⟨-, h | ⟨hrep, h⟩⟩ | ⟨hoff, -⟩ := send_cases s id
      · exact .inl (by rw [h]; rfl)
      · exact .inr ⟨hrep, by rw [h]; rfl⟩
      · rw [hoff] at hc
        cases hc
    · obtain ⟨-, h | ⟨-, h⟩⟩ | ⟨-, slots, rfl | rfl, h⟩ := send_cases s id
      · exact .inl (by rw [h]; rfl)
      · exact .inr (by rw [h]; rfl)
      · refine .inl ?_
        obtain h | h := h
        · rw [h]
        · rw [h]
          rfl
      · refine .inr ?_
        obtain h | h := h
        · rw [h]
        · rw [h]
          rfl

end Prediction

end WKPairDriver.Smoothing
