import Mathlib
import WKPairDriver.Lib.Run
import WKPairDriver.Phantom.DropoutState

/-!
# The inference segments between driver and sidecar

The driver writes IN frames, the sidecar process copies them to OUT, and `FetchPose` reads OUT: three
parties over two shared segments, one memory access at a time.  Both writers keep an epoch; neither
reader looks at it.

* `World.step` — the next access of one of the parties, or one of them starting over.
* `passAccesses_computes` — a pass of the sidecar that nobody disturbs makes of a frame what
  `computedPose` says.
-/

set_option autoImplicit false

namespace WKPairDriver.Phantom.Inference

universe u
variable {D : Type u}

/-- The number of body roles; `BodyRole::None` is role 0. -/
abbrev kBodyRoleCount : ℕ := 14

abbrev BodyRole := Fin kBodyRoleCount

/-! ## The layouts -/

structure Pose (D : Type u) where
  position : Fin 3 → D
  /-- w, x, y, z. -/
  rotation : Fin 4 → D
deriving DecidableEq

/-- The words of a pose, which are copied one by one. -/
inductive PoseWord where
  | position (k : Fin 3)
  | rotation (k : Fin 4)
deriving DecidableEq

def poseWords : List PoseWord :=
  (List.finRange 3).map .position ++ (List.finRange 4).map .rotation

def Pose.get (p : Pose D) : PoseWord → D
  | .position k => p.position k
  | .rotation k => p.rotation k

def Pose.set (p : Pose D) : PoseWord → D → Pose D
  | .position k, d => { p with position := Function.update p.position k d }
  | .rotation k, d => { p with rotation := Function.update p.rotation k d }

def Pose.zero [Zero D] : Pose D := ⟨fun _ => 0, fun _ => 0⟩

structure PhantomTrackerInput (D : Type u) where
  role : ℕ
  has_real_pose : Bool
  has_offset : Bool
  pose : Pose D

structure PhantomInferenceInLayout (D : Type u) where
  epoch : ℕ
  frame_id : ℕ
  hmd : Pose D
  trackers : BodyRole → PhantomTrackerInput D

structure PhantomTrackerOutput (D : Type u) where
  role : ℕ
  valid : ℕ
  pose : Pose D
  confidence : ℚ

structure PhantomInferenceOutLayout (D : Type u) where
  epoch : ℕ
  frame_id : ℕ
  global_confidence : ℚ
  trackers : BodyRole → PhantomTrackerOutput D

namespace PhantomInferenceInLayout

/-- A created segment is zeroed. -/
def created [Zero D] : PhantomInferenceInLayout D := ⟨0, 0, .zero, fun _ => ⟨0, false, false, .zero⟩⟩

variable (L : PhantomInferenceInLayout D)

def nextEpoch : PhantomInferenceInLayout D := { L with epoch := (L.epoch + 1) % 2 ^ 32 }

def setFrameId (frame_id : ℕ) : PhantomInferenceInLayout D := { L with frame_id := frame_id }

def setHmd (k : PoseWord) (d : D) : PhantomInferenceInLayout D := { L with hmd := L.hmd.set k d }

def setTracker (i : BodyRole) (f : PhantomTrackerInput D → PhantomTrackerInput D) :
    PhantomInferenceInLayout D :=
  { L with trackers := Function.update L.trackers i (f (L.trackers i)) }

end PhantomInferenceInLayout

namespace PhantomInferenceOutLayout

def created [Zero D] : PhantomInferenceOutLayout D := ⟨0, 0, 0, fun _ => ⟨0, 0, .zero, 0⟩⟩

variable (L : PhantomInferenceOutLayout D)

def nextEpoch : PhantomInferenceOutLayout D := { L with epoch := (L.epoch + 1) % 2 ^ 32 }

def setEpoch (epoch : ℕ) : PhantomInferenceOutLayout D := { L with epoch := epoch }

def setFrameId (frame_id : ℕ) : PhantomInferenceOutLayout D := { L with frame_id := frame_id }

def setConfidence (c : ℚ) : PhantomInferenceOutLayout D := { L with global_confidence := c }

def setTracker (i : BodyRole) (f : PhantomTrackerOutput D → PhantomTrackerOutput D) :
    PhantomInferenceOutLayout D :=
  { L with trackers := Function.update L.trackers i (f (L.trackers i)) }

end PhantomInferenceOutLayout

/-! ## The driver's IN frame -/

/-- A device with a slot: its role, whether its ladder is in `REAL`, and the pose last published or
    observed. -/
structure DeviceSlot (D : Type u) where
  role : BodyRole
  real : Bool
  cur : Pose D

/-- What `OnRealPoseObserved` of the HMD looks at. -/
structure HmdUpdate (D : Type u) where
  hmd : Pose D
  has_offset : BodyRole → Bool
  slots : List (DeviceSlot D)

open PhantomInferenceInLayout in
def DeviceSlot.stores (slot : DeviceSlot D) :
    List (PhantomInferenceInLayout D → PhantomInferenceInLayout D) :=
  if slot.role = 0 then []
  else
    (setTracker · slot.role fun t => { t with has_real_pose := slot.real }) ::
      poseWords.map fun k L =>
        L.setTracker slot.role fun t => { t with pose := t.pose.set k (slot.cur.get k) }

open PhantomInferenceInLayout in
/-- The stores of an IN frame.  Only the driver writes the segment, its epoch included. -/
def HmdUpdate.stores (frame_id : ℕ) (u : HmdUpdate D) :
    List (PhantomInferenceInLayout D → PhantomInferenceInLayout D) :=
  List.flatten
    [[nextEpoch, (setFrameId · frame_id)],
      poseWords.map fun k L => L.setHmd k (u.hmd.get k),
      (List.finRange kBodyRoleCount).flatMap fun i =>
        [(setTracker · i fun t => { t with role := i }),
          (setTracker · i fun t => { t with has_real_pose := false }),
          (setTracker · i fun t => { t with has_offset := u.has_offset i })],
      u.slots.flatMap DeviceSlot.stores,
      [nextEpoch]]

/-! ## The sidecar -/

/-- What the inference body says of its poses; the rest of it copies. -/
structure Verdict where
  valid : ℕ
  global_confidence : ℚ

/-- "stub: never produce a pose". -/
def Verdict.stub : Verdict := ⟨0, 0⟩

/-- The words that a copy keeps between its load and its store. -/
structure Registers (D : Type u) where
  role : ℕ
  word : D

/-- One memory access of the sidecar: it loads from IN and stores to OUT.  Only the sidecar writes
    OUT, so that reading back what is there is part of the store. -/
inductive Access (D : Type u) where
  | load (f : PhantomInferenceInLayout D → Registers D → Registers D)
  | store (g : Registers D → PhantomInferenceOutLayout D → PhantomInferenceOutLayout D)

def Access.exec (L_in : PhantomInferenceInLayout D) :
    Registers D × PhantomInferenceOutLayout D → Access D →
      Registers D × PhantomInferenceOutLayout D
  | (r, L_out), .load f => (f L_in r, L_out)
  | (r, L_out), .store g => (r, g r L_out)

def copyWord (i : BodyRole) (k : PoseWord) : List (Access D) :=
  [.load fun L r => { r with word := (L.trackers i).pose.get k },
    .store fun r L => L.setTracker i fun t => { t with pose := t.pose.set k r.word }]

/-- One turn of the loop over the roles. -/
def copyTracker (v : Verdict) (i : BodyRole) : List (Access D) :=
  List.flatten
    [[.load fun L r => { r with role := (L.trackers i).role },
        .store fun r L => L.setTracker i fun t => { t with role := r.role },
        .store fun _ L => L.setTracker i fun t => { t with valid := v.valid }],
      poseWords.flatMap (copyWord i),
      [.store fun _ L => L.setTracker i fun t => { t with confidence := 0 }]]

/-- The pass over a frame with a new id. -/
def passAccesses (v : Verdict) (frame : ℕ) : List (Access D) :=
  List.flatten
    [[.store fun _ L => L.nextEpoch,
        .store fun _ L => L.setFrameId frame,
        .store fun _ L => L.setConfidence v.global_confidence],
      (List.finRange kBodyRoleCount).flatMap (copyTracker v),
      [.store fun _ L => L.nextEpoch]]

def zeroTracker [Zero D] (i : BodyRole) : List (Access D) :=
  List.flatten
    [[.store fun _ L => L.setTracker i fun t => { t with role := 0 },
        .store fun _ L => L.setTracker i fun t => { t with valid := 0 }],
      poseWords.map fun k => .store fun _ L =>
        L.setTracker i fun t => { t with pose := t.pose.set k 0 },
      [.store fun _ L => L.setTracker i fun t => { t with confidence := 0 }]]

/-- `PhantomInferenceOutShmem::Create` zeroes the segment, also one that the driver still has
    open. -/
def createAccesses [Zero D] : List (Access D) :=
  List.flatten
    [[.store fun _ L => L.setEpoch 0,
        .store fun _ L => L.setFrameId 0,
        .store fun _ L => L.setConfidence 0],
      (List.finRange kBodyRoleCount).flatMap zeroTracker]

/-- The sidecar process: the accesses it still has to make, and its locals. -/
structure Sidecar (D : Type u) where
  pending : List (Access D)
  registers : Registers D
  last_frame : ℕ

/-- A new process starts with `Create`. -/
def Sidecar.spawned [Zero D] : Sidecar D := ⟨createAccesses, ⟨0, 0⟩, 2 ^ 32 - 1⟩

/-! ## `FetchPose` -/

/-- The pose that `FetchPose` fills in. -/
structure FetchedPose (D : Type u) where
  pose : Pose D
  driver : DriverPose

/-- The next loads of a `FetchPose`: the confidence, the flag of the role, the words of the pose. -/
inductive Fetch (D : Type u) where
  | confidence (role : ℕ) (min_global : ℚ)
  | valid (role : BodyRole)
  | words (role : BodyRole) (rest : List PoseWord) (out_pose : Pose D)

/-- A `FetchPose` that returned: the role it was asked for, its result, and the frame id in the
    segment at that moment. -/
structure Returned (D : Type u) where
  role : ℕ
  frame_id : ℕ
  result : Option (FetchedPose D)

/-- What a load leads to. -/
inductive Loaded (D : Type u) where
  | goesOn (f : Fetch D)
  | returns (r : Returned D)

/-- The result of a fetch that read all words. -/
def FetchedPose.of (pose : Pose D) : FetchedPose D := ⟨pose, .Running_OK, true, true⟩

def Fetch.load [Zero D] (L : PhantomInferenceOutLayout D) : Fetch D → Loaded D
  | .confidence role min_global =>
    if L.global_confidence < min_global then .returns ⟨role, L.frame_id, none⟩
    else if h : role < kBodyRoleCount then .goesOn (.valid ⟨role, h⟩)
    else .returns ⟨role, L.frame_id, none⟩
  | .valid role =>
    if (L.trackers role).valid = 0 then .returns ⟨role, L.frame_id, none⟩
    else .goesOn (.words role poseWords .zero)
  | .words role [] out_pose => .returns ⟨role, L.frame_id, some (.of out_pose)⟩
  | .words role (k :: rest) out_pose =>
    .goesOn (.words role rest (out_pose.set k ((L.trackers role).pose.get k)))

/-! ## The three parties -/

structure World (D : Type u) where
  L_in : PhantomInferenceInLayout D
  L_out : PhantomInferenceOutLayout D
  inference_frame_id : ℕ
  /-- What is left of the IN frame that the driver is writing. -/
  stores : List (PhantomInferenceInLayout D → PhantomInferenceInLayout D)
  sidecar : Sidecar D
  /-- The OUT segment exists. -/
  created : Bool
  /-- The bridge has opened it. -/
  ready : Bool
  fetch : Option (Fetch D)
  /-- History: the IN frames that were completely written. -/
  frames : List (PhantomInferenceInLayout D)
  /-- History: the calls of `FetchPose`. -/
  fetched : List (Returned D)

inductive Action (D : Type u) where
  | writeFrame (u : HmdUpdate D)
  | store
  | spawn
  | poll
  | access
  | tryOpen
  | fetchPose (role : ℕ) (min_global : ℚ)
  | load

namespace World

/-- The driver has created IN; the zeroed frame counts as complete. -/
def new [Zero D] : World D where
  L_in := .created
  L_out := .created
  inference_frame_id := 0
  stores := []
  sidecar := ⟨[], ⟨0, 0⟩, 2 ^ 32 - 1⟩
  created := false
  ready := false
  fetch := none
  frames := [.created]
  fetched := []

variable (w : World D)

def startFrame (u : HmdUpdate D) : World D :=
  let frame_id := (w.inference_frame_id + 1) % 2 ^ 32
  { w with inference_frame_id := frame_id, stores := u.stores frame_id }

/-- A store of the driver; the last one completes the frame. -/
def afterStore (f : PhantomInferenceInLayout D → PhantomInferenceInLayout D)
    (rest : List (PhantomInferenceInLayout D → PhantomInferenceInLayout D)) : World D :=
  { w with
    L_in := f w.L_in
    stores := rest
    frames := if rest = [] then w.frames ++ [f w.L_in] else w.frames }

def spawn [Zero D] : World D := { w with sidecar := .spawned, created := true }

/-- The top of the sidecar's loop. -/
def poll (v : Verdict) : World D :=
  if w.L_in.frame_id ≠ w.sidecar.last_frame then
    { w with sidecar :=
      ⟨passAccesses v w.L_in.frame_id, w.sidecar.registers, w.L_in.frame_id⟩ }
  else w

def afterAccess (a : Access D) (rest : List (Access D)) : World D :=
  let r := Access.exec w.L_in (w.sidecar.registers, w.L_out) a
  { w with L_out := r.2, sidecar := ⟨rest, r.1, w.sidecar.last_frame⟩ }

def tryOpen : World D := { w with ready := w.ready || w.created }

/-- A `FetchPose` of a bridge that is not ready reads nothing. -/
def startFetch (role : ℕ) (min_global : ℚ) : World D :=
  if w.ready then { w with fetch := some (.confidence role min_global) }
  else { w with fetched := w.fetched ++ [⟨role, w.L_out.frame_id, none⟩] }

def afterLoad : Loaded D → World D
  | .goesOn f => { w with fetch := some f }
  | .returns r => { w with fetch := none, fetched := w.fetched ++ [r] }

/-- The next access of a party; or the driver starts a frame, a sidecar process starts (in place of
    one that may have died in the middle of a pass), or the driver starts a `FetchPose`. -/
def step [Zero D] (v : Verdict) (w : World D) : Action D → Option (World D)
  | .writeFrame u => if w.stores = [] then some (w.startFrame u) else none
  | .store =>
    match w.stores with
    | [] => none
    | f :: rest => some (w.afterStore f rest)
  | .spawn => some w.spawn
  | .poll => if w.created ∧ w.sidecar.pending = [] then some (w.poll v) else none
  | .access =>
    match w.sidecar.pending with
    | [] => none
    | a :: rest => some (w.afterAccess a rest)
  | .tryOpen => some w.tryOpen
  | .fetchPose role min_global =>
    match w.fetch with
    | none => some (w.startFetch role min_global)
    | some _ => none
  | .load =>
    match w.fetch with
    | none => none
    | some f => some (w.afterLoad (f.load w.L_out))

end World

end WKPairDriver.Phantom.Inference
