import Mathlib
import WKPairDriver.Lib.Bytes

/-!
# The skeletal hook

The detours of `CreateSkeletonComponent` and `UpdateSkeletonComponent`, and the finger
configuration they read.  A frame of bones goes through the smoothing state of the hand that its
component was created for, or is forwarded as it is.

Numbers are those of an ordered field in place of `float`; the functions of `<cmath>` are a
parameter.
-/

set_option autoImplicit false

namespace WKPairDriver.Smoothing

open Lib.Bytes

/-! ## Smoothing of one bone -/

structure HmdVector4_t (K : Type) where
  v0 : K
  v1 : K
  v2 : K
  v3 : K
  deriving DecidableEq

structure HmdQuaternionf_t (K : Type) where
  w : K
  x : K
  y : K
  z : K
  deriving DecidableEq

structure VRBoneTransform_t (K : Type) where
  position : HmdVector4_t K
  orientation : HmdQuaternionf_t K
  deriving DecidableEq

/-- The functions of `<cmath>`. -/
structure CMath (K : Type) where
  sqrt : K → K
  acos : K → K
  sin : K → K
  cos : K → K

section Math
variable {K : Type} [Field K] [LinearOrder K] (m : CMath K)

def Lerpf (a b t : K) : K := a + (b - a) * t

/-- Both rotations are nearly the same: they are interpolated as vectors. -/
def nearlyEqual : K := (9995 : ℕ) / (10000 : ℕ)

def SlerpQuat (a b : HmdQuaternionf_t K) (t : K) : HmdQuaternionf_t K :=
  let dot := a.x * b.x + a.y * b.y + a.z * b.z + a.w * b.w
  let (b, dot) := if dot < 0 then (⟨-b.w, -b.x, -b.y, -b.z⟩, -dot) else (b, dot)
  if nearlyEqual < dot then
    let r : HmdQuaternionf_t K :=
      ⟨Lerpf a.w b.w t, Lerpf a.x b.x t, Lerpf a.y b.y t, Lerpf a.z b.z t⟩
    let len := m.sqrt (r.w * r.w + r.x * r.x + r.y * r.y + r.z * r.z)
    if 0 < len then
      let inv := 1 / len
      ⟨r.w * inv, r.x * inv, r.y * inv, r.z * inv⟩
    else r
  else
    let theta_0 := m.acos dot
    let sin_theta_0 := m.sin theta_0
    let theta := theta_0 * t
    let sin_theta := m.sin theta
    let s1 := m.cos theta - dot * sin_theta / sin_theta_0
    let s2 := sin_theta / sin_theta_0
    ⟨s1 * a.w + s2 * b.w, s1 * a.x + s2 * b.x, s1 * a.y + s2 * b.y, s1 * a.z + s2 * b.z⟩

def SmoothnessToAlpha (smoothness : UInt8) : K :=
  1 - ((min smoothness.toNat 100 : ℕ) : K) / (100 : ℕ) * ((95 : ℕ) / (100 : ℕ))

/-- The blend of a bone with its previous output. -/
def blendBone (alpha : K) (prev input : VRBoneTransform_t K) : VRBoneTransform_t K where
  position :=
    ⟨Lerpf prev.position.v0 input.position.v0 alpha, Lerpf prev.position.v1 input.position.v1 alpha,
      Lerpf prev.position.v2 input.position.v2 alpha, input.position.v3⟩
  orientation := SlerpQuat m prev.orientation input.orientation alpha

end Math

/-- From thumb to pinky. -/
def FingerIndexForBone (bone : ℕ) : Option (Fin 5) :=
  if 2 ≤ bone ∧ bone ≤ 5 then some ⟨0, by decide⟩
  else if 6 ≤ bone ∧ bone ≤ 10 then some ⟨1, by decide⟩
  else if 11 ≤ bone ∧ bone ≤ 15 then some ⟨2, by decide⟩
  else if 16 ≤ bone ∧ bone ≤ 20 then some ⟨3, by decide⟩
  else if 21 ≤ bone ∧ bone ≤ 25 then some ⟨4, by decide⟩
  else none

/-! ## Configuration -/

inductive Hand where
  | left
  | right
  deriving DecidableEq, Repr

/-- `handBase + f`. -/
def fingerOf (hand : Hand) (f : Fin 5) : Fin 10 :=
  match hand with
  | .left => ⟨f.val, by omega⟩
  | .right => ⟨5 + f.val, by omega⟩

structure FingerSmoothingConfig where
  master_enabled : Bool := false
  smoothness : UInt8 := 0
  finger_mask : UInt16 := 0
  per_finger_smoothness : Fin 10 → UInt8 := fun _ => 0
  deriving DecidableEq

namespace FingerSmoothingConfig

variable (cfg : FingerSmoothingConfig)

def masked (i : Fin 10) : Bool := cfg.finger_mask.toNat.testBit i.val

/-- A finger without a strength of its own has the global one. -/
def effective (i : Fin 10) : UInt8 :=
  if cfg.per_finger_smoothness i = 0 then cfg.smoothness else cfg.per_finger_smoothness i

def IsFingerSmoothed (i : Fin 10) : Bool :=
  cfg.master_enabled && cfg.masked i && decide (cfg.effective i ≠ 0)

def anySmoothing (hand : Hand) : Bool :=
  (List.finRange 5).any fun f => decide (cfg.effective (fingerOf hand f) ≠ 0)

end FingerSmoothingConfig

def ComputeFingerSmoothingReseedBits (prev next : FingerSmoothingConfig) (i : Fin 10) : Bool :=
  !prev.IsFingerSmoothed i && next.IsFingerSmoothed i

/-! ## State and detours -/

structure HandState (K : Type) where
  initialized : Bool := false
  reseed_pending : Fin 5 → Bool := fun _ => false
  /-- The last output of the hand. -/
  previous : List (VRBoneTransform_t K) := []

/-- What the detours keep behind `Init`; the configuration is that of the provider. -/
structure State (K : Type) where
  handleToHandedness : UInt64 → Option Hand := fun _ => none
  hands : Hand → HandState K := fun _ => {}
  config : FingerSmoothingConfig := {}

inductive EVRSkeletalMotionRange where
  | WithController
  | WithoutController
  deriving DecidableEq, Repr

/-- A null pointer or the array of `unTransformCount` bones. -/
abbrev Frame (K : Type) := Option (List (VRBoneTransform_t K))

/-- The hand in a skeleton path. -/
def handedness (path : List UInt8) : Option Hand :=
  if ascii "/left" <:+: path then some .left
  else if ascii "/right" <:+: path then some .right
  else none

/-- The handle and the hand that a create call maps: it succeeded with a valid handle, and its path
    has a hand. -/
def mapped (ok : Bool) (pHandle : Option UInt64) (pchSkeletonPath : Option (List UInt8)) :
    Option (UInt64 × Hand) :=
  match ok, pHandle, pchSkeletonPath with
  | true, some handle, some path =>
    if handle = 0 then none else (handedness path).map fun hand => (handle, hand)
  | _, _, _ => none

section Detours
variable {K : Type}

def DetourPublicCreateSkeletonComponent (ok : Bool) (pHandle : Option UInt64)
    (pchSkeletonPath : Option (List UInt8)) (s : State K) : State K :=
  match mapped ok pHandle pchSkeletonPath with
  | none => s
  | some (handle, hand) =>
    { s with
      -- the other handles of the hand are evicted
      handleToHandedness := fun h =>
        if h = handle then some hand
        else if s.handleToHandedness h = some hand then none
        else s.handleToHandedness h
      hands := Function.update s.hands hand { s.hands hand with initialized := false } }

def MarkFingersNeedReseed (bits : Fin 10 → Bool) (s : State K) : State K :=
  { s with
    hands := fun hand =>
      { s.hands hand with
        reseed_pending := fun f => (s.hands hand).reseed_pending f || bits (fingerOf hand f) } }

def SetFingerSmoothingConfig (cfg : FingerSmoothingConfig) (s : State K) : State K :=
  MarkFingersNeedReseed (ComputeFingerSmoothingReseedBits s.config cfg) { s with config := cfg }

variable [Field K] [LinearOrder K] (m : CMath K)

/-- One bone of the loop. -/
def smoothBone (cfg : FingerSmoothingConfig) (hand : Hand) (reseed_pending : Fin 5 → Bool)
    (bone : ℕ) (prev input : VRBoneTransform_t K) : VRBoneTransform_t K :=
  match FingerIndexForBone bone with
  | none => input
  | some finger =>
    let alpha : K := SmoothnessToAlpha (cfg.effective (fingerOf hand finger))
    if cfg.masked (fingerOf hand finger) = false then input
    else if reseed_pending finger = true then input
    else if 1 ≤ alpha then input
    else blendBone m alpha prev input

/-- The smoothed frame and the state behind it. -/
def smoothFrame (cfg : FingerSmoothingConfig) (hand : Hand) (state : HandState K)
    (pTransforms : List (VRBoneTransform_t K)) : HandState K × List (VRBoneTransform_t K) :=
  if state.initialized = false then
    ({ state with initialized := true, previous := pTransforms }, pTransforms)
  else
    let smoothed := (state.previous.zip pTransforms).mapIdx fun bone p =>
      smoothBone m cfg hand state.reseed_pending bone p.1 p.2
    ({ state with reseed_pending := fun _ => false, previous := smoothed }, smoothed)

/-- The state behind a frame, and the frame that is forwarded. -/
def DetourPublicUpdateSkeletonComponent (ulComponent : UInt64)
    (_eMotionRange : EVRSkeletalMotionRange) (pTransforms : Frame K) (s : State K) :
    State K × Frame K :=
  match pTransforms with
  | none => (s, none)
  | some transforms =>
    if transforms.length ≠ 31 then (s, some transforms)
    else
      match s.handleToHandedness ulComponent with
      | none => (s, some transforms)
      | some hand =>
        if s.config.anySmoothing hand = false then (s, some transforms)
        else
          let (state, smoothed) := smoothFrame m s.config hand (s.hands hand) transforms
          ({ s with hands := Function.update s.hands hand state }, some smoothed)

end Detours

end WKPairDriver.Smoothing
