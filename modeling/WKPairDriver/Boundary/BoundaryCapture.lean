import Mathlib
import WKPairDriver.Lib.Plane

/-!
# The capture of a painted boundary

The session that collects floor points while the user paints, and the passes that turn them into an
edge polygon.  Doubles are numbers of an ordered field; where one may be infinite or not a number it
is an `Option`, and `none` then.

* `CleanPaintedLoop` — the passes.
* `SimplifyDouglasPeucker`, `RemoveClosedCollinearVertices` — two of them, with recursions that have
  fuel enough by `DouglasPeuckerRec_fuel` and `removeCollinear_done`.
* `CaptureSession.step` — the session.
-/

set_option autoImplicit false

namespace WKPairDriver.Boundary.Capture

open Lib

/-- Also a point or direction of Eigen. -/
structure BoundaryVertex (K : Type) where
  x : K
  y : K
  z : K
deriving DecidableEq

/-- The position in the floor plane. -/
def BoundaryVertex.xz {K : Type} (v : BoundaryVertex K) : K × K := (v.x, v.z)

variable {K : Type} [Field K] [LinearOrder K]

/-! ## Distances -/

def DistanceSq (a b : BoundaryVertex K) : K :=
  let dx := a.x - b.x
  let dy := a.y - b.y
  let dz := a.z - b.z
  dx * dx + dy * dy + dz * dz

/-- `PerpendicularDistanceSq` is the same. -/
def SegmentDistanceSq (p a b : BoundaryVertex K) : K :=
  let dx := b.x - a.x
  let dy := b.y - a.y
  let dz := b.z - a.z
  let lenSq := dx * dx + dy * dy + dz * dz
  let px := p.x - a.x
  let py := p.y - a.y
  let pz := p.z - a.z
  if lenSq < 1e-20 then px * px + py * py + pz * pz
  else
    let t := (px * dx + py * dy + pz * dz) / lenSq
    let t := if t < 0 then 0 else t
    let t := if 1 < t then 1 else t
    let rx := px - t * dx
    let ry := py - t * dy
    let rz := pz - t * dz
    rx * rx + ry * ry + rz * rz

/-! ## The floor plane -/

def CrossXZ (a b c : BoundaryVertex K) : K :=
  (b.x - a.x) * (c.z - a.z) - (b.z - a.z) * (c.x - a.x)

def SameXZ (a b : BoundaryVertex K) : Bool := |a.x - b.x| ≤ 1e-6 && |a.z - b.z| ≤ 1e-6

/-- Twice the area of the fan behind `prev`. -/
def twiceArea : BoundaryVertex K → List (BoundaryVertex K) → K
  | _, [] => 0
  | prev, v :: rest => prev.x * v.z - v.x * prev.z + twiceArea v rest

def SignedAreaXZ (poly : List (BoundaryVertex K)) : K :=
  if poly.length < 3 then 0
  else
    match poly.getLast? with
    | none => 0
    | some last => twiceArea last poly * 0.5

def NormalizeWindingXZ (poly : List (BoundaryVertex K)) : List (BoundaryVertex K) :=
  if SignedAreaXZ poly < 0 then poly.reverse else poly

def OrientationXZ (a b c : BoundaryVertex K) : ℤ :=
  let cross := CrossXZ a b c
  if |cross| ≤ 1e-9 then 0 else if cross > 0 then 1 else -1

def OnSegmentXZ (a b p : BoundaryVertex K) : Bool :=
  OrientationXZ a b p == 0 &&
    (p.x ≥ min a.x b.x - 1e-9 && p.x ≤ max a.x b.x + 1e-9 &&
      p.z ≥ min a.z b.z - 1e-9 && p.z ≤ max a.z b.z + 1e-9)

def SegmentsIntersectXZ (a b c d : BoundaryVertex K) : Bool :=
  let o1 := OrientationXZ a b c
  let o2 := OrientationXZ a b d
  let o3 := OrientationXZ c d a
  let o4 := OrientationXZ c d b
  (o1 != o2 && o3 != o4) || (o1 == 0 && OnSegmentXZ a b c) || (o2 == 0 && OnSegmentXZ a b d) ||
    (o3 == 0 && OnSegmentXZ c d a) || (o4 == 0 && OnSegmentXZ c d b)

/-- `poly[i]`. -/
def vertexAt (poly : List (BoundaryVertex K)) (i : ℕ) : BoundaryVertex K := poly.getD i ⟨0, 0, 0⟩

def HasSelfIntersectionXZ (poly : List (BoundaryVertex K)) : Bool :=
  let n := poly.length
  if n < 4 then false
  else
    (List.range n).any fun i => (List.range n).any fun j =>
      let iNext := (i + 1) % n
      let jNext := (j + 1) % n
      decide (i < j) && !(i == j || iNext == j || jNext == i) && !(i == 0 && jNext == 0) &&
        SegmentsIntersectXZ (vertexAt poly i) (vertexAt poly iNext) (vertexAt poly j)
          (vertexAt poly jNext)

/-- The comparison of the sort. -/
def lessXZ (a b : BoundaryVertex K) : Bool :=
  if a.x ≠ b.x then a.x < b.x else if a.z ≠ b.z then a.z < b.z else a.y < b.y

/-- Sorted, and without those that are the same as the one kept before. -/
def sortedUnique (points : List (BoundaryVertex K)) : List (BoundaryVertex K) :=
  (points.mergeSort fun a b => !lessXZ b a).destutter fun a b => ¬SameXZ a b

def ConvexHullXZ (points : List (BoundaryVertex K)) : List (BoundaryVertex K) :=
  MonotoneChain.hull (fun a b c => 0 < CrossXZ a b c) (sortedUnique points)

/-! ## The passes -/

/-- A vertex is compared with the one kept before. -/
def RemoveNearDuplicates (raw : List (BoundaryVertex K)) (minDistanceMeters : K) :
    List (BoundaryVertex K) :=
  raw.destutter fun a b => ¬DistanceSq a b < minDistanceMeters * minDistanceMeters

/-- Pop from the vertices behind the first one, here with the last one at the front, while there
    are enough vertices and the last is near the first. -/
def popBack (minSize : ℕ) (distSq : K) (front : BoundaryVertex K) :
    List (BoundaryVertex K) → List (BoundaryVertex K)
  | [] => []
  | back :: rest =>
    if minSize ≤ rest.length + 2 ∧ DistanceSq front back < distSq then
      popBack minSize distSq front rest
    else back :: rest

def popClosing (minSize : ℕ) (distSq : K) : List (BoundaryVertex K) → List (BoundaryVertex K)
  | [] => []
  | front :: rest => front :: (popBack minSize distSq front rest.reverse).reverse

def RemoveClosedShortEdges (raw : List (BoundaryVertex K)) (minDistanceMeters : K) :
    List (BoundaryVertex K) :=
  popClosing 4 (minDistanceMeters * minDistanceMeters) (RemoveNearDuplicates raw minDistanceMeters)

/-- The vertex is near the segment between its neighbours. -/
def isCollinear (toleranceSq : K) (out : List (BoundaryVertex K)) (i : ℕ) : Bool :=
  let n := out.length
  SegmentDistanceSq (vertexAt out i) (vertexAt out ((i + n - 1) % n)) (vertexAt out ((i + 1) % n))
    ≤ toleranceSq

/-- Erase the first such vertex, again and again; the fuel is for the erasures. -/
def removeCollinear (toleranceSq : K) :
    ℕ → List (BoundaryVertex K) → List (BoundaryVertex K)
  | 0, out => out
  | fuel + 1, out =>
    if out.length > 3 then
      match (List.range out.length).find? (isCollinear toleranceSq out) with
      | some i => removeCollinear toleranceSq fuel (out.eraseIdx i)
      | none => out
    else out

def RemoveClosedCollinearVertices (raw : List (BoundaryVertex K)) (toleranceMeters : K) :
    List (BoundaryVertex K) :=
  removeCollinear (toleranceMeters * toleranceMeters) raw.length raw

/-- The last of the nearest vertices, if one is near enough. -/
def nearestClosure (raw : List (BoundaryVertex K)) (last : BoundaryVertex K) (closeSq : K) :
    K × Option ℕ :=
  (List.range (raw.length - 3)).foldl
    (fun best i =>
      let d := DistanceSq (vertexAt raw i) last
      if d ≤ best.1 then (d, some i) else best)
    (closeSq, none)

def TrimToNearestClosure (raw : List (BoundaryVertex K)) (closeLoopMeters : K) :
    List (BoundaryVertex K) :=
  if raw.length < 6 then raw
  else
    match raw.getLast? with
    | none => raw
    | some last =>
      match (nearestClosure raw last (closeLoopMeters * closeLoopMeters)).2 with
      | none => raw
      | some bestIndex => raw.drop bestIndex

/-- The largest distance from the segment between the ends, and the first vertex that has it. -/
def farthest (path : List (BoundaryVertex K)) (lo hi : ℕ) : K × ℕ :=
  (List.range' (lo + 1) (hi - (lo + 1))).foldl
    (fun best i =>
      let d := SegmentDistanceSq (vertexAt path i) (vertexAt path lo) (vertexAt path hi)
      if d > best.1 then (d, i) else best)
    (0, lo + 1)

/-- The fuel is for the depth of the recursion. -/
def DouglasPeuckerRec (path : List (BoundaryVertex K)) (epsilonSq : K) :
    ℕ → ℕ → ℕ → (ℕ → Bool) → ℕ → Bool
  | 0, _, _, keep => keep
  | fuel + 1, lo, hi, keep =>
    if hi ≤ lo + 1 then keep
    else
      let best := farthest path lo hi
      if best.1 > epsilonSq then
        let keep := Function.update keep best.2 true
        let keep := DouglasPeuckerRec path epsilonSq fuel lo best.2 keep
        DouglasPeuckerRec path epsilonSq fuel best.2 hi keep
      else keep

def SimplifyDouglasPeucker (path : List (BoundaryVertex K)) (epsilonMeters : K) : List ℕ :=
  let n := path.length
  if n ≤ 2 then List.range n
  else
    (List.range n).filter (DouglasPeuckerRec path (epsilonMeters * epsilonMeters) n 0 (n - 1)
      fun i => i == 0 || i == n - 1)

/-- The passes behind the closing of the path, up to the test for an intersection. -/
def simplifyLoop (path : List (BoundaryVertex K))
    (debounceMeters closeLoopMeters simplifyMeters : K) : List (BoundaryVertex K) :=
  let simplified := (SimplifyDouglasPeucker path simplifyMeters).map (vertexAt path)
  let simplified := RemoveClosedShortEdges simplified debounceMeters
  let simplified :=
    match simplified.head?, simplified.getLast? with
    | some front, some back =>
      if simplified.length ≥ 3 ∧ DistanceSq front back < closeLoopMeters * closeLoopMeters then
        simplified.dropLast
      else simplified
    | _, _ => simplified
  RemoveClosedCollinearVertices simplified simplifyMeters

/-- A loop that intersects itself becomes its hull. -/
def untangle (simplified : List (BoundaryVertex K)) (debounceMeters simplifyMeters : K) :
    List (BoundaryVertex K) :=
  if HasSelfIntersectionXZ simplified then
    let hull := ConvexHullXZ simplified
    let hull := RemoveClosedShortEdges hull debounceMeters
    RemoveClosedCollinearVertices hull simplifyMeters
  else simplified

/-- `CleanPaintedLoop`.  The vertices are finite by their type, so that `FilterFiniteVertices` keeps
    all. -/
def CleanPaintedLoop (raw : List (BoundaryVertex K))
    (debounceMeters closeLoopMeters simplifyMeters : K) : List (BoundaryVertex K) :=
  let path := RemoveNearDuplicates raw debounceMeters
  if path.length < 3 then path
  else
    let path := TrimToNearestClosure path closeLoopMeters
    if path.length < 3 then path
    else
      let path := popClosing 3 (closeLoopMeters * closeLoopMeters) path
      if path.length < 3 then path
      else
        let simplified := simplifyLoop path debounceMeters closeLoopMeters simplifyMeters
        let simplified := untangle simplified debounceMeters simplifyMeters
        if |SignedAreaXZ simplified| < 0.05 then [] else NormalizeWindingXZ simplified

/-! ## The session -/

/-- The local axes that a controller may point along. -/
inductive Ray where
  | negZ | posZ | negY | posY | negX | posX
deriving DecidableEq

/-- What is read of a pose: its translation, if it is finite, and each axis rotated by it and
    normalized, if that is finite. -/
structure Affine3d (K : Type) where
  translation : Option (BoundaryVertex K)
  aim : Ray → Option (BoundaryVertex K)

/-- The hit and the height of the aim of an attempt that is `Ok`; the reasons of the others are for
    a log line. -/
def ProjectSingleRayToFloor (controllerPose : Affine3d K) (localRay : Ray) (floorY : Option K) :
    Option (BoundaryVertex K × K) := do
  let origin ← controllerPose.translation
  let aim ← controllerPose.aim localRay
  if aim.y > -0.20 then none
  else
    let floorY ← floorY
    let distanceMeters := (floorY - origin.y) / aim.y
    if distanceMeters < 0.05 ∨ distanceMeters > 5.0 then none
    else
      some (⟨origin.x + aim.x * distanceMeters, floorY, origin.z + aim.z * distanceMeters⟩, aim.y)

/-- The steepest attempt, the first one of those. -/
def ProjectAimToFloor (controllerPose : Affine3d K) (floorY : Option K) :
    Option (BoundaryVertex K × K) :=
  [Ray.negZ, .posZ, .negY, .posY, .negX, .posX].foldl
    (fun bestOk r =>
      match ProjectSingleRayToFloor controllerPose r floorY, bestOk with
      | some attempt, some best => if attempt.2 < best.2 then some attempt else some best
      | some attempt, none => some attempt
      | none, bestOk => bestOk)
    none

def ProjectPointerPoseToFloor (pointerPose : Affine3d K) (floorY : Option K) :
    Option (BoundaryVertex K × K) :=
  ProjectSingleRayToFloor pointerPose .negZ floorY

inductive CaptureState where
  | Idle | Active | Finished
deriving DecidableEq

/-- Without the session number and the counters of log lines. -/
structure CaptureSession (K : Type) where
  m_state : CaptureState
  m_raw : List (BoundaryVertex K)
  m_simplified : List (BoundaryVertex K)
deriving DecidableEq

def kVertexDebounceMeters : K := 0.035
def kSimplifyEpsilonMeters : K := 0.04
def kCloseLoopMeters : K := 0.22

namespace CaptureSession

def new : CaptureSession K := ⟨.Idle, [], []⟩

def Start (_ : CaptureSession K) : CaptureSession K := ⟨.Active, [], []⟩

def Cancel (_ : CaptureSession K) : CaptureSession K := ⟨.Idle, [], []⟩

variable (s : CaptureSession K)

def Finish : CaptureSession K :=
  if s.m_state ≠ .Active then s
  else
    { s with
      m_simplified :=
        CleanPaintedLoop s.m_raw kVertexDebounceMeters kCloseLoopMeters kSimplifyEpsilonMeters
      m_state := .Finished }

/-- The end of both `AppendProjection` and `AppendProjectedPosition`: the distance to the last
    vertex is compared, here as its square. -/
def append (candidate : BoundaryVertex K) : CaptureSession K :=
  match s.m_raw.getLast? with
  | some last =>
    if DistanceSq candidate last < kVertexDebounceMeters * kVertexDebounceMeters then s
    else { s with m_raw := s.m_raw ++ [candidate] }
  | none => { s with m_raw := s.m_raw ++ [candidate] }

def AppendProjection (pose : Affine3d K) (triggerHeld : Bool) (floorY : Option K)
    (pointerOnly : Bool) : CaptureSession K :=
  if s.m_state ≠ .Active then s
  else if !triggerHeld then s
  else
    match if pointerOnly then ProjectPointerPoseToFloor pose floorY
      else ProjectAimToFloor pose floorY with
    | none => s
    | some projection => s.append projection.1

def AppendProjectedPosition (controllerPose : Affine3d K) (active : Bool) (floorY : Option K) :
    CaptureSession K :=
  if s.m_state ≠ .Active then s
  else if !active then s
  else
    match controllerPose.translation, floorY with
    | some origin, some floorY => s.append ⟨origin.x, floorY, origin.z⟩
    | _, _ => s

def vertices : List (BoundaryVertex K) :=
  if s.m_state = .Finished then s.m_simplified else s.m_raw

end CaptureSession

inductive CaptureEvent (K : Type) where
  | start
  | cancel
  | finish
  | tick (controllerPose : Affine3d K) (triggerHeld : Bool) (floorY : Option K)
  | tickPointerPose (pointerPose : Affine3d K) (triggerHeld : Bool) (floorY : Option K)
  | tickProjectedPosition (controllerPose : Affine3d K) (active : Bool) (floorY : Option K)

def CaptureSession.step (s : CaptureSession K) : CaptureEvent K → Option (CaptureSession K)
  | .start => some s.Start
  | .cancel => some s.Cancel
  | .finish => some s.Finish
  | .tick pose triggerHeld floorY => some (s.AppendProjection pose triggerHeld floorY false)
  | .tickPointerPose pose triggerHeld floorY =>
    some (s.AppendProjection pose triggerHeld floorY true)
  | .tickProjectedPosition pose active floorY =>
    some (s.AppendProjectedPosition pose active floorY)

/-! ## The recursions have fuel enough -/

omit [Field K] [LinearOrder K] in
theorem length_eraseIdx_of_lt {out : List (BoundaryVertex K)} {i : ℕ} (h : i < out.length) :
    (out.eraseIdx i).length + 1 = out.length := by
  rw [List.length_eraseIdx_of_lt h]
  omega

/-- At the end there are three vertices or fewer, or none is collinear. -/
theorem removeCollinear_done (toleranceSq : K) : ∀ (fuel : ℕ) (out : List (BoundaryVertex K)),
    out.length ≤ fuel → (removeCollinear toleranceSq fuel out).length ≤ 3 ∨
      ∀ i < (removeCollinear toleranceSq fuel out).length,
        isCollinear toleranceSq (removeCollinear toleranceSq fuel out) i = false
  | 0, out, h => .inl (by rw [removeCollinear]; omega)
  | fuel + 1, out, h => by
    unfold removeCollinear
    split_ifs with hlen
    · cases hfind : (List.range out.length).find? (isCollinear toleranceSq out) with
      | some i =>
        have hi := List.mem_range.1 (List.mem_of_find?_eq_some hfind)
        have := length_eraseIdx_of_lt hi
        exact removeCollinear_done toleranceSq fuel _ (by omega)
      | none =>
        refine .inr fun i hi => ?_
        simpa using List.find?_eq_none.1 hfind i (List.mem_range.2 hi)
    · exact .inl (by omega)

/-- The farthest vertex is strictly between the ends. -/
theorem farthest_bounds (path : List (BoundaryVertex K)) {lo hi : ℕ} (h : ¬hi ≤ lo + 1) :
    lo < (farthest path lo hi).2 ∧ (farthest path lo hi).2 < hi := by
  unfold farthest
  refine List.foldlRecOn (motive := fun best : K × ℕ => lo < best.2 ∧ best.2 < hi) _ _ ?_ ?_
  · dsimp only
    omega
  · intro best hbest i hi'
    rw [List.mem_range'_1] at hi'
    dsimp only
    split_ifs
    · dsimp only
      omega
    · exact hbest

/-- Any fuel that is at least the distance of the ends gives the same result. -/
theorem DouglasPeuckerRec_fuel (path : List (BoundaryVertex K)) (epsilonSq : K) :
    ∀ (fuel fuel' lo hi : ℕ) (keep : ℕ → Bool), hi - lo ≤ fuel → hi - lo ≤ fuel' →
      DouglasPeuckerRec path epsilonSq fuel lo hi keep =
        DouglasPeuckerRec path epsilonSq fuel' lo hi keep
  | 0, 0, _, _, _, _, _ => rfl
  | 0, fuel' + 1, lo, hi, keep, h, _ => by
    rw [DouglasPeuckerRec, DouglasPeuckerRec, if_pos (by omega)]
  | fuel + 1, 0, lo, hi, keep, _, h => by
    rw [DouglasPeuckerRec, DouglasPeuckerRec, if_pos (by omega)]
  | fuel + 1, fuel' + 1, lo, hi, keep, h, h' => by
    unfold DouglasPeuckerRec
    dsimp only
    split_ifs with hends
    · rfl
    · have hbounds := farthest_bounds path hends
      rw [DouglasPeuckerRec_fuel path epsilonSq fuel fuel' lo _ _ (by omega) (by omega),
        DouglasPeuckerRec_fuel path epsilonSq fuel fuel' _ hi _ (by omega) (by omega)]
    · rfl

end WKPairDriver.Boundary.Capture
