import Mathlib
import WKPairDriver.Driver.FallbackTable

/-!
# Device transforms and their fallbacks

The driver keeps a transform for each device, set by the overlay, and one for each tracking
system, which a device without its own follows.  Each definition is one section of the source
that holds the state mutex.

* `setDeviceTransform`, `setTrackingSystemFallback` — the two requests of the overlay.
* `handleDevicePoseUpdated` — a pose update up to its end, or to where it releases the mutex to
  query the tracking system of the device.
* `resumePoseUpdate` — the rest of it, once it has the mutex again.

Vectors, quaternions, scales and poses are arbitrary types; the arithmetic on them is a parameter
(`PoseMath`).
-/

set_option autoImplicit false

namespace WKPairDriver.Driver

abbrev k_unMaxTrackedDeviceCount : ℕ := 64

structure IsoTransform (V Q : Type) where
  translation : V
  rotation : Q
deriving DecidableEq

inductive DeltaSize where
  | TINY
  | SMALL
  | LARGE
deriving DecidableEq

inductive LookupState where
  | NotTried
  | Cached
  | Failed
deriving DecidableEq

/-- The arithmetic of a pose update: `FallbackTransform{}`'s transform and scale, the scaling of a
    position, `GetTransformDeltaSize`, the new transform of `BlendTransform` (from the time, the
    last poll and the rate), `ApplyTransform` and `ApplyQuashToPose`. -/
structure PoseMath (V Q S P : Type) where
  identity : IsoTransform V Q
  one : S
  scalePosition : S → P → P
  deltaSize : DeltaSize → P → IsoTransform V Q → IsoTransform V Q → DeltaSize
  blend : ℤ → ℤ → DeltaSize → P → IsoTransform V Q → IsoTransform V Q → IsoTransform V Q
  applyTransform : IsoTransform V Q → P → P
  applyQuashToPose : P → P

variable {V Q S P : Type}

/-! ## Per-device transforms -/

structure DeviceTransform (V Q S : Type) where
  enabled : Bool
  quash : Bool
  prevQuash : Bool
  transform : IsoTransform V Q
  targetTransform : IsoTransform V Q
  scale : S
  lastPoll : ℤ
  currentRate : DeltaSize
  fallbackActive : Bool
  recalibrateOnMovement : Bool
  blendMotionInitialized : Bool

structure SetDeviceTransform (V Q S : Type) where
  openVRID : ℕ
  enabled : Bool
  updateTranslation : Bool
  updateRotation : Bool
  updateScale : Bool
  translation : V
  rotation : Q
  scale : S
  lerp : Bool
  quash : Bool
  updateQuash : Bool
  target_system : SystemName
  recalibrateOnMovement : Bool

namespace DeviceTransform

variable (tf : DeviceTransform V Q S)

/-- Both writers of the motion gate drop the captured pose when it goes off. -/
def setRecalibrate (flag : Bool) : DeviceTransform V Q S :=
  { tf with
    blendMotionInitialized :=
      if tf.recalibrateOnMovement && !flag then false else tf.blendMotionInitialized
    recalibrateOnMovement := flag }

/-- The translation of a message is the new target, and the new transform unless it is lerped. -/
def updateTranslation (msg : SetDeviceTransform V Q S) : DeviceTransform V Q S :=
  let target := if msg.updateTranslation then msg.translation else tf.targetTransform.translation
  { tf with
    targetTransform := { tf.targetTransform with translation := target }
    transform := { tf.transform with
      translation :=
        if msg.updateTranslation && !msg.lerp then target else tf.transform.translation } }

def updateRotation (msg : SetDeviceTransform V Q S) : DeviceTransform V Q S :=
  let target := if msg.updateRotation then msg.rotation else tf.targetTransform.rotation
  { tf with
    targetTransform := { tf.targetTransform with rotation := target }
    transform := { tf.transform with
      rotation := if msg.updateRotation && !msg.lerp then target else tf.transform.rotation } }

/-- The lerp clock and rate are reset. -/
def resetClock (now : ℤ) : DeviceTransform V Q S :=
  { tf with lastPoll := now, currentRate := .TINY }

/-- The device no longer follows a fallback, and stays where it is. -/
def leaveFallback (now : ℤ) : DeviceTransform V Q S :=
  { tf with fallbackActive := false, targetTransform := tf.transform }.resetClock now

/-- What `SetDeviceTransform` does to the entry of the device. -/
def set (newTransform : SetDeviceTransform V Q S) (now : ℤ) : DeviceTransform V Q S :=
  let wasEnabled := tf.enabled
  let tf := { tf with enabled := newTransform.enabled, fallbackActive := false }
  let tf := tf.setRecalibrate newTransform.recalibrateOnMovement
  let tf := tf.updateTranslation newTransform
  let tf := tf.updateRotation newTransform
  let tf := { tf with scale := if newTransform.updateScale then newTransform.scale else tf.scale }
  let tf := { tf with quash := if newTransform.updateQuash then newTransform.quash else tf.quash }
  -- an enabled entry starts at its target, a disabled one keeps no pending target
  let tf := { tf with
    transform := if !wasEnabled && tf.enabled then tf.targetTransform else tf.transform }
  let tf := { tf with
    targetTransform := if wasEnabled && !tf.enabled then tf.transform else tf.targetTransform }
  tf.resetClock now

/-- `GetTransformDeltaSize` and `BlendTransform`, as each branch of a pose update calls them. -/
def blend (m : PoseMath V Q S P) (pose : P) (poll : ℤ) : DeviceTransform V Q S :=
  let tf := { tf with
    currentRate := m.deltaSize tf.currentRate pose tf.transform tf.targetTransform }
  { tf with
    lastPoll := poll
    transform := m.blend poll tf.lastPoll tf.currentRate pose tf.transform tf.targetTransform }

@[simp] theorem set_enabled (msg : SetDeviceTransform V Q S) (now : ℤ) :
    (tf.set msg now).enabled = msg.enabled := rfl

@[simp] theorem set_fallbackActive (msg : SetDeviceTransform V Q S) (now : ℤ) :
    (tf.set msg now).fallbackActive = false := rfl

@[simp] theorem set_scale (msg : SetDeviceTransform V Q S) (now : ℤ) :
    (tf.set msg now).scale = if msg.updateScale then msg.scale else tf.scale := rfl

/-- Without a disable transition the target changes where the message carries it. -/
theorem set_targetTransform {msg : SetDeviceTransform V Q S} (now : ℤ) (h : msg.enabled = true) :
    (tf.set msg now).targetTransform =
      ⟨if msg.updateTranslation then msg.translation else tf.targetTransform.translation,
       if msg.updateRotation then msg.rotation else tf.targetTransform.rotation⟩ := by
  have hkeep : (tf.enabled && !msg.enabled) = false := by simp [h]
  exact if_neg (Bool.eq_false_iff.1 hkeep)

end DeviceTransform

/-! ## Fallbacks -/

structure FallbackTransform (V Q S : Type) where
  enabled : Bool
  transform : IsoTransform V Q
  scale : S
  recalibrateOnMovement : Bool
deriving DecidableEq

structure SetTrackingSystemFallback (V Q S : Type) where
  system_name : SystemName
  enabled : Bool
  translation : V
  rotation : Q
  scale : S
  recalibrateOnMovement : Bool
deriving DecidableEq

/-- The members that `stateMutex` guards. -/
structure Provider (V Q S : Type) where
  transforms : Fin k_unMaxTrackedDeviceCount → DeviceTransform V Q S
  deviceSystem : Fin k_unMaxTrackedDeviceCount → List UInt8
  lookupState : Fin k_unMaxTrackedDeviceCount → LookupState
  lastLookupAttempt : Fin k_unMaxTrackedDeviceCount → ℤ
  systemFallbacks : FallbackTable (FallbackTransform V Q S)
  qpcFreq : ℤ

/-- The entry of a device that follows the fallback `fb`: a first activation starts at it. -/
def DeviceTransform.follow (tf : DeviceTransform V Q S) (fb : FallbackTransform V Q S) (now : ℤ) :
    DeviceTransform V Q S :=
  let tf := { tf with targetTransform := fb.transform, scale := fb.scale }
  let tf := tf.setRecalibrate fb.recalibrateOnMovement
  if tf.fallbackActive then tf
  else { tf with transform := fb.transform, fallbackActive := true }.resetClock now

namespace Provider

variable (p : Provider V Q S)

def setTransform (id : Fin k_unMaxTrackedDeviceCount) (tf : DeviceTransform V Q S) :
    Provider V Q S :=
  { p with transforms := Function.update p.transforms id tf }

/-- `SetDeviceTransform`. -/
def setDeviceTransform (newTransform : SetDeviceTransform V Q S) (now : ℤ) : Provider V Q S :=
  if h : newTransform.openVRID < k_unMaxTrackedDeviceCount then
    let id : Fin k_unMaxTrackedDeviceCount := ⟨newTransform.openVRID, h⟩
    let sys := nameOf newTransform.target_system
    { p with
      transforms := Function.update p.transforms id ((p.transforms id).set newTransform now)
      deviceSystem := Function.update p.deviceSystem id sys
      lookupState := Function.update p.lookupState id
        (if sys.length > 0 then .Cached else .NotTried) }
  else p

/-- `SetTrackingSystemFallback`. -/
def setTrackingSystemFallback (m : PoseMath V Q S P)
    (newFallback : SetTrackingSystemFallback V Q S) (now : ℤ) : Provider V Q S :=
  let sys := nameOf newFallback.system_name
  if sys.length = 0 then p
  else if !newFallback.enabled then
    { p with
      systemFallbacks := match findFallbackSlot p.systemFallbacks sys with
        | some i =>
          let slot := p.systemFallbacks i
          Function.update p.systemFallbacks i { slot with tf := { slot.tf with enabled := false } }
        | none => p.systemFallbacks
      transforms := fun id =>
        let tf := p.transforms id
        if tf.fallbackActive && p.deviceSystem id == sys then tf.leaveFallback now else tf }
  else
    match acquireFallbackSlot ⟨false, m.identity, m.one, false⟩ p.systemFallbacks sys with
    | none => p
    | some (table, i) =>
      { p with systemFallbacks := Function.update table i { table i with
          tf := {
            enabled := true
            transform := ⟨newFallback.translation, newFallback.rotation⟩
            scale := newFallback.scale
            recalibrateOnMovement := newFallback.recalibrateOnMovement } } }

/-- The enabled fallback of a device's tracking system. -/
def enabledFallback (id : Fin k_unMaxTrackedDeviceCount) : Option (FallbackTransform V Q S) :=
  ((findFallbackSlot p.systemFallbacks (p.deviceSystem id)).map fun i =>
    (p.systemFallbacks i).tf).filter (·.enabled)

/-! ## Pose updates -/

/-- The end of the branch of a disabled transform: the device follows the fallback of its tracking
    system, if there is one that is enabled. -/
def followFallback (m : PoseMath V Q S P) (id : Fin k_unMaxTrackedDeviceCount) (pose : P)
    (now poll : ℤ) : Provider V Q S × P :=
  let tf := p.transforms id
  if p.deviceSystem id = [] then (p, pose)
  else
    match p.enabledFallback id with
    | some fb =>
      let tf := tf.follow fb now
      let pose := m.scalePosition tf.scale pose
      let tf := tf.blend m pose poll
      (p.setTransform id tf, m.applyTransform tf.transform pose)
    | none =>
      if tf.fallbackActive then (p.setTransform id (tf.leaveFallback now), pose) else (p, pose)

/-- The tracking system is unknown and its query is due: a failed one is retried after a second. -/
def lookupDue (id : Fin k_unMaxTrackedDeviceCount) (now : ℤ) : Bool :=
  p.deviceSystem id == [] && p.lookupState id != .Cached &&
    !(p.lookupState id == .Failed && decide (p.qpcFreq > 0) &&
      decide (now - p.lastLookupAttempt id < p.qpcFreq))

/-- `HandleDevicePoseUpdated`, from where it takes the mutex.  `synthSlot` says whether the device
    is the tracker the HMD pose is synthesized from.  No pose comes back where the function
    releases the mutex for the query; the release after a quash transition is for a log line. -/
def handleDevicePoseUpdated (m : PoseMath V Q S P) (id : Fin k_unMaxTrackedDeviceCount) (pose : P)
    (synthSlot : Bool) (now poll : ℤ) : Provider V Q S × Option P :=
  let tf := { p.transforms id with prevQuash := (p.transforms id).quash }
  let p := p.setTransform id tf
  if tf.quash then
    let tf := if synthSlot && tf.enabled then tf.blend m (m.scalePosition tf.scale pose) poll
      else tf
    (p.setTransform id tf, some (m.applyQuashToPose pose))
  else if tf.enabled then
    let pose := m.scalePosition tf.scale pose
    let tf := tf.blend m pose poll
    (p.setTransform id tf, some (m.applyTransform tf.transform pose))
  else if p.lookupDue id now then (p, none)
  else
    let r := p.followFallback m id pose now poll
    (r.1, some r.2)

/-- The result of a query is stored, unless `SetDeviceTransform` has stored a system meanwhile. -/
def storeLookup (id : Fin k_unMaxTrackedDeviceCount) (queried : Option (List UInt8)) (now : ℤ) :
    Provider V Q S :=
  if p.lookupState id ≠ .Cached then
    match queried.filter (!·.isEmpty) with
    | some sys =>
      { p with
        deviceSystem := Function.update p.deviceSystem id sys
        lookupState := Function.update p.lookupState id .Cached }
    | none =>
      { p with
        lookupState := Function.update p.lookupState id .Failed
        lastLookupAttempt := Function.update p.lastLookupAttempt id now }
  else p

/-- `HandleDevicePoseUpdated`, from where it has the mutex again after the query. -/
def resumePoseUpdate (m : PoseMath V Q S P) (id : Fin k_unMaxTrackedDeviceCount) (pose : P)
    (queried : Option (List UInt8)) (now poll : ℤ) : Provider V Q S × P :=
  (p.storeLookup id queried now).followFallback m id pose now poll

end Provider

end WKPairDriver.Driver
