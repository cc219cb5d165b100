import Mathlib
import WKPairDriver.Calibration.EigenModel
import WKPairDriver.Driver.DriverSynthCompose

/-!
# The head-mount offset, from the solver to the driver

The overlay feeds the solver with pairs of the headset's pose, taken into the tracker's tracking
system, and the tracker's pose.  The offset it finds is sent to the driver, which puts it into the
driver-from-head transform of the calibrated tracker pose.

* `poseFromDriver` — the poses that are fed; they stop before driver-from-head.
* `FeedSolverTick`, `collect` — the feed of the solver.
* `Mounted` — the tracker, calibrated and carried on by the mount, is where the headset is reported.
* `collect_offset` — every accepted pair has the mount less the headset's driver-from-head.
* `roundTrip_iff` — the head is reported where the headset is exactly when that is the identity.
-/

set_option autoImplicit false

namespace WKPairDriver.Calibration.OffsetSolver

open Lib Driver SourceBlend HeadMount Quaternion Matrix

noncomputable section

/-! ## The feed -/

/-- A driver pose in the world. -/
def poseFromDriver (raw : DriverPose_t) : Affine ℝ where
  linear := toMatrix (normalized (raw.qWorldFromDriverRotation * raw.qRotation))
  translation := raw.vecWorldFromDriverTranslation +
    rotate raw.qWorldFromDriverRotation raw.vecPosition

structure ModalState where
  solver : Solver := {}
  hasFrozenFrame : Bool := false
  targetFromReferenceAtStart : Affine ℝ := 1
  hasPreviousMotionPose : Bool := false
  previousMotionPose : Affine ℝ := 1
  previousMotionTime : ℝ := 0

def kAngularMotionToLinearMps : ℝ := 0.50

variable (eigen : Eigen)

def RotationDeltaRad (previous current : Affine ℝ) : ℝ :=
  let delta := (eigen.rotation previous)ᵀ * eigen.rotation current
  Real.arccos (max (-1) (min ((delta.trace - 1) * 0.5) 1))

/-- The linear and the angular speed since the previous pose, if there is one. -/
def ModalState.derivedSpeeds (s : ModalState) (hmdTargetPose : Affine ℝ) (now : ℝ) : ℝ × ℝ :=
  open Classical in
  if s.hasPreviousMotionPose ∧ now > s.previousMotionTime then
    let dt := now - s.previousMotionTime
    let moved := hmdTargetPose.translation - s.previousMotionPose.translation
    (√(squaredNorm moved) / dt, RotationDeltaRad eigen s.previousMotionPose hmdTargetPose / dt)
  else (0, 0)

/-- The frame of the first tick is kept. -/
def ModalState.freeze (s : ModalState) (targetFromReference : Affine ℝ) : ModalState :=
  if !s.hasFrozenFrame then
    { s with
      targetFromReferenceAtStart := targetFromReference
      hasFrozenFrame := true
      hasPreviousMotionPose := false }
  else s

open Classical in
def FeedSolverTick (s : ModalState) (hmdPose trackerPose targetFromReference : Affine ℝ)
    (targetFromReferenceValid : Bool) (hmdSpeedMps now : ℝ) : ModalState :=
  if s.solver.state ≠ .Collecting then s
  else if !targetFromReferenceValid then s
  else
    let s := s.freeze targetFromReference
    let hmdTargetPose := s.targetFromReferenceAtStart * hmdPose
    let derived := s.derivedSpeeds eigen hmdTargetPose now
    let reportedSpeed := if hmdSpeedMps > 0 then hmdSpeedMps else 0
    let angularEquivalentSpeed := derived.2 * kAngularMotionToLinearMps
    let effectiveSpeed := max reportedSpeed (max derived.1 angularEquivalentSpeed)
    { s with
      solver := (s.solver.Tick hmdTargetPose trackerPose effectiveSpeed).1
      hasPreviousMotionPose := true
      previousMotionPose := hmdTargetPose
      previousMotionTime := now }

/-- What one tick of the overlay reads. -/
structure FeedTick where
  hmdRaw : DriverPose_t
  hmRaw : DriverPose_t
  validProfile : Bool
  hmdSpeedMps : ℝ
  now : ℝ

/-- `c` is the transform of the profile. -/
def feed (c : RigidMotion ℝ) (s : ModalState) (t : FeedTick) : ModalState :=
  if t.hmRaw.poseIsValid ∧ t.hmRaw.result = kRunningOk ∧ t.hmdRaw.poseIsValid then
    let targetFromReference := if t.validProfile then c.affine⁻¹ else 1
    FeedSolverTick eigen s (poseFromDriver t.hmdRaw) (poseFromDriver t.hmRaw)
      targetFromReference t.validProfile t.hmdSpeedMps t.now
  else s

/-- The Start button: `ResetCollectionFrame` and `Start`. -/
def startCollecting (s : ModalState) : ModalState := { solver := s.solver.Start }

/-- The modal behind a run of ticks from the Start button on. -/
def collect (c : RigidMotion ℝ) (s : ModalState) (ticks : List FeedTick) : ModalState :=
  ticks.foldl (feed eigen c) (startCollecting s)

/-! ## The configuration of the driver -/

structure HeadMount where
  mode : ℤ
  deviceID : ℤ
  offsetCalibrated : Bool
  headFromTracker : Affine ℝ
  driverSynthTiming : DriverSynthTimingConfig

/-- The Save button. -/
def HeadMount.save (hm : HeadMount) (lastResult : SolveResult) : HeadMount :=
  { hm with headFromTracker := lastResult.headFromTracker, offsetCalibrated := true }

/-- `CCal_SendHeadMountConfig`, and what the driver keeps of it. -/
def HeadMount.send (hm : HeadMount) : SynthState :=
  let q := normalized (eigen.quaternion hm.headFromTracker.linear)
  { mode := hm.mode
    deviceId := hm.deviceID
    headFromTrackerTrans := hm.headFromTracker.translation
    headFromTrackerRot := ⟨q.imI, q.imJ, q.imK, q.re⟩
    offsetCalibrated := hm.offsetCalibrated }

/-! ## Mounts -/

/-- The two rigid driver poses of a moment: the tracker's, calibrated by `c` and carried on by the
    mount `m`, is where the headset's is reported. -/
structure Mounted (c m : RigidMotion ℝ) (hmdRaw hmRaw : DriverPose_t) : Prop where
  headset : Rigid hmdRaw
  tracker : Rigid hmRaw
  mount : ∀ v, c.affine.apply (devicePose hmRaw (m.affine.apply v)) = reportedPose hmdRaw v

/-- The driver-from-head transform of a headset. -/
structure HasHead (d : RigidMotion ℝ) (hmdRaw : DriverPose_t) : Prop where
  rotation : hmdRaw.qDriverFromHeadRotation = d.rotation
  translation : hmdRaw.vecDriverFromHeadTranslation = d.translation

/-- The pose as a rigid motion. -/
def rigidOf {raw : DriverPose_t} (h : Rigid raw) : RigidMotion ℝ where
  rotation := raw.qWorldFromDriverRotation * raw.qRotation
  translation := raw.vecWorldFromDriverTranslation +
    rotate raw.qWorldFromDriverRotation raw.vecPosition
  unit := by rw [map_mul, h.world, h.device, one_mul]

theorem poseFromDriver_eq {raw : DriverPose_t} (h : Rigid raw) :
    poseFromDriver raw = (rigidOf h).affine := by
  have hunit : normSq (raw.qWorldFromDriverRotation * raw.qRotation) = 1 := (rigidOf h).unit
  rw [poseFromDriver, normalized_of_unit hunit]
  rfl

theorem poseFromDriver_apply {raw : DriverPose_t} (h : Rigid raw) (v : Fin 3 → ℝ) :
    (poseFromDriver raw).apply v = devicePose raw v := by
  rw [poseFromDriver_eq h, RigidMotion.apply_affine, rigidOf, devicePose]
  simp only [motion, ← rotate_rotate h.world h.device, rotate_add, add_assoc]

theorem reportedPose_eq {d : RigidMotion ℝ} {hmdRaw : DriverPose_t} (hd : HasHead d hmdRaw)
    (v : Fin 3 → ℝ) : reportedPose hmdRaw v = devicePose hmdRaw (d.affine.apply v) := by
  rw [RigidMotion.apply_affine, ← hd.rotation, ← hd.translation]
  rfl

/-- The pair that is fed is off by the headset's driver-from-head. -/
theorem Mounted.offset {c m d : RigidMotion ℝ} {hmdRaw hmRaw : DriverPose_t}
    (h : Mounted c m hmdRaw hmRaw) (hd : HasHead d hmdRaw) :
    Offset (m * d⁻¹) (c.affine⁻¹ * poseFromDriver hmdRaw, poseFromDriver hmRaw) := by
  refine ⟨rigidOf h.tracker, ?_⟩
  have hmount : c.affine * (poseFromDriver hmRaw * m.affine) =
      poseFromDriver hmdRaw * d.affine := by
    apply Affine.ext_apply
    intro v
    rw [Affine.apply_mul, Affine.apply_mul, Affine.apply_mul, poseFromDriver_apply h.tracker,
      poseFromDriver_apply h.headset, h.mount, reportedPose_eq hd]
  have hhead : poseFromDriver hmdRaw =
      c.affine * (poseFromDriver hmRaw * m.affine) * (d⁻¹).affine := by
    rw [hmount, mul_assoc, d.mul_inv, mul_one]
  rw [hhead, mul_assoc, c.affine_inv_mul_cancel, mul_assoc, ← RigidMotion.affine_mul,
    poseFromDriver_eq h.tracker]

/-! ## A run of the feed -/

/-- Every pair has one offset, and the frozen frame is that of the profile. -/
structure Collecting (c offset : RigidMotion ℝ) (s : ModalState) : Prop where
  state : s.solver.state = .Collecting
  pairs : ∀ pair ∈ s.solver.pairs, Offset offset pair
  frame : s.hasFrozenFrame → s.targetFromReferenceAtStart = c.affine⁻¹

theorem Collecting.start (c offset : RigidMotion ℝ) (s : ModalState) :
    Collecting c offset (startCollecting s) where
  state := rfl
  pairs _ h := by cases h
  frame h := by cases h

theorem Collecting.freeze {c offset : RigidMotion ℝ} {s : ModalState}
    (h : Collecting c offset s) :
    Collecting c offset (s.freeze c.affine⁻¹) ∧
      (s.freeze c.affine⁻¹).targetFromReferenceAtStart = c.affine⁻¹ := by
  unfold ModalState.freeze
  cases hfrozen : s.hasFrozenFrame with
  | true => exact ⟨h, h.frame hfrozen⟩
  | false => exact ⟨⟨h.state, h.pairs, fun _ => rfl⟩, rfl⟩

theorem Tick_pairs {s : Solver} (hstate : s.state = .Collecting) (hmdPose trackerPose : Affine ℝ)
    (speed : ℝ) :
    (s.Tick hmdPose trackerPose speed).1.state = .Collecting ∧
      ∀ pair ∈ (s.Tick hmdPose trackerPose speed).1.pairs,
        pair ∈ s.pairs ∨ pair = (hmdPose, trackerPose) := by
  rw [Solver.Tick, if_neg (not_not.2 hstate)]
  split
  · exact ⟨hstate, fun pair h => .inl h⟩
  · refine ⟨hstate, fun pair h => ?_⟩
    simpa using h

/-- One tick keeps the offset of all pairs. -/
theorem Collecting.feed {c m d : RigidMotion ℝ} {s : ModalState}
    (h : Collecting c (m * d⁻¹) s) {t : FeedTick}
    (ht : Mounted c m t.hmdRaw t.hmRaw ∧ HasHead d t.hmdRaw) :
    Collecting c (m * d⁻¹) (feed eigen c s t) := by
  obtain ⟨hmounted, hhead⟩ := ht
  unfold OffsetSolver.feed
  split
  · unfold FeedSolverTick
    rw [if_neg (not_not.2 h.state)]
    cases hvalid : t.validProfile with
    | false => exact h
    | true =>
      obtain ⟨hfreeze, hframe⟩ := h.freeze
      simp only [Bool.not_true, Bool.false_eq_true, if_false, if_true]
      obtain ⟨hstate, hpairs⟩ := Tick_pairs hfreeze.state
        ((s.freeze c.affine⁻¹).targetFromReferenceAtStart * poseFromDriver t.hmdRaw)
        (poseFromDriver t.hmRaw) _
      refine ⟨hstate, fun pair hmem => ?_, hfreeze.frame⟩
      rcases hpairs pair hmem with hold | hnew
      · exact hfreeze.pairs pair hold
      · rw [hnew, hframe]
        exact hmounted.offset hhead
  · exact h

/-- **Every accepted pair of a run has the mount less the headset's driver-from-head.** -/
theorem collect_offset {c m d : RigidMotion ℝ} {ticks : List FeedTick}
    (h : ∀ t ∈ ticks, Mounted c m t.hmdRaw t.hmRaw ∧ HasHead d t.hmdRaw) (s : ModalState) :
    Collecting c (m * d⁻¹) (collect eigen c s ticks) := by
  have hrun : ∀ s', Collecting c (m * d⁻¹) s' →
      Collecting c (m * d⁻¹) (ticks.foldl (OffsetSolver.feed eigen c) s') := by
    induction ticks with
    | nil => exact fun s' hs' => hs'
    | cons t ticks ih =>
      intro s' hs'
      exact ih (fun t' ht' => h t' (List.mem_cons_of_mem _ ht')) _
        (hs'.feed eigen (h t List.mem_cons_self))
  exact hrun _ (Collecting.start c _ s)

/-! ## The round trip -/

/-- What a finished solve of the mount `m` promises, for a headset with driver-from-head `d`. -/
structure RoundTrips (c m d : RigidMotion ℝ) (s : Solver) : Prop where
  done : s.state = .Done
  mount : s.result.headFromTracker = m.affine
  residual : s.result.residualMm = ((0 : ℝ) : WithTop ℝ)
  reported : ∀ hmdRaw hmRaw, Mounted c m hmdRaw hmRaw → HasHead d hmdRaw →
    ∀ (hm : HeadMount) (snap : TrackerSnapshot) (now : ℤ),
      snap.pose = ApplyTransform c hmRaw →
      Ready ((hm.save s.result).send eigen) snap now hm.driverSynthTiming →
      ∃ out, Compose ((hm.save s.result).send eigen) snap now hm.driverSynthTiming = some out ∧
        ∀ v, reportedPose out v = reportedPose hmdRaw v

variable {eigen}

/-- The offset the driver uses is the one that was saved. -/
theorem send_motion (heigen : eigen.Meets) {m : RigidMotion ℝ} {hm : HeadMount}
    (h : hm.headFromTracker = m.affine) (v : Fin 3 → ℝ) :
    let sent := hm.send eigen
    motion (quat sent.headFromTrackerRot.w sent.headFromTrackerRot.x sent.headFromTrackerRot.y
      sent.headFromTrackerRot.z) sent.headFromTrackerTrans v = m.affine.apply v := by
  obtain ⟨hunit, hmatrix⟩ := heigen.quaternion m.rotation m.unit
  simp only [HeadMount.send, h, RigidMotion.affine, normalized_of_unit hunit]
  generalize eigen.quaternion (toMatrix m.rotation) = q at hmatrix
  show motion q m.translation v = toMatrix m.rotation *ᵥ v + m.translation
  rw [← hmatrix, toMatrix_mulVec, add_comm, motion]

/-- The head is reported where the headset is, if the mount is what was saved. -/
theorem reported_of_saved (heigen : eigen.Meets) {c m : RigidMotion ℝ}
    {hmdRaw hmRaw : DriverPose_t} (h : Mounted c m hmdRaw hmRaw) {hm : HeadMount}
    (hsaved : hm.headFromTracker = m.affine) {snap : TrackerSnapshot}
    (hpose : snap.pose = ApplyTransform c hmRaw) {now : ℤ} {config : DriverSynthTimingConfig}
    (hready : Ready (hm.send eigen) snap now config) :
    ∃ out, Compose (hm.send eigen) snap now config = some out ∧
      ∀ v, reportedPose out v = reportedPose hmdRaw v := by
  obtain ⟨out, hout⟩ := Option.isSome_iff_exists.1 (Compose_isSome_iff.2 hready)
  refine ⟨out, hout, fun v => ?_⟩
  rw [reportedPose_Compose hout, send_motion heigen hsaved, hpose,
    devicePose_ApplyTransform c h.tracker, h.mount]

/-- **The offset makes the round trip exactly when the headset's driver-from-head transform is the
    identity.** -/
theorem roundTrip_iff (heigen : eigen.Meets) {c m d : RigidMotion ℝ} {ticks : List FeedTick}
    (hticks : ∀ t ∈ ticks, Mounted c m t.hmdRaw t.hmRaw ∧ HasHead d t.hmdRaw) (s : ModalState)
    (hsamples : (readiness eigen (collect eigen c s ticks).solver.pairs).enoughSamples)
    (hmotion : (readiness eigen (collect eigen c s ticks).solver.pairs).enoughMotion) :
    RoundTrips eigen c m d ((collect eigen c s ticks).solver.Finish eigen) ↔
      (d.rotation = 1 ∨ d.rotation = -1) ∧ d.translation = 0 := by
  have hcollected := collect_offset eigen hticks s
  have hfinish := Solver.Finish_exact heigen hcollected.state hcollected.pairs hsamples hmotion
  rw [← RigidMotion.affine_eq_one_iff, ← RigidMotion.affine_mul_inv_eq_iff m, hfinish]
  constructor
  · exact fun h => h.mount
  · intro hmount
    refine ⟨rfl, hmount, rfl, fun hmdRaw hmRaw hmounted _ hm snap now hpose hready => ?_⟩
    exact reported_of_saved heigen hmounted hmount hpose hready

/-! ## A run that turns about every axis -/

/-- The tick is fed, and fast enough. -/
structure Moving (t : FeedTick) : Prop where
  tracker : t.hmRaw.poseIsValid = true ∧ t.hmRaw.result = kRunningOk
  headset : t.hmdRaw.poseIsValid = true
  profile : t.validProfile = true
  speed : kMinHmdSpeedMps ≤ t.hmdSpeedMps

/-- The pair of a tick. -/
def pairOf (c : RigidMotion ℝ) (t : FeedTick) : Pair :=
  (c.affine⁻¹ * poseFromDriver t.hmdRaw, poseFromDriver t.hmRaw)

variable (eigen) in
theorem Collecting.feed_pairs {c offset : RigidMotion ℝ} {s : ModalState}
    (h : Collecting c offset s) {t : FeedTick} (ht : Moving t) :
    (OffsetSolver.feed eigen c s t).solver.pairs = s.solver.pairs ++ [pairOf c t] := by
  obtain ⟨hfreeze, hframe⟩ := h.freeze
  have hsolver : (s.freeze c.affine⁻¹).solver = s.solver := by
    unfold ModalState.freeze
    split <;> rfl
  have hspeed : ∀ rest : ℝ,
      ¬ max (if t.hmdSpeedMps > 0 then t.hmdSpeedMps else 0) rest < kMinHmdSpeedMps := by
    intro rest
    have hmin : (0 : ℝ) < kMinHmdSpeedMps := by norm_num [kMinHmdSpeedMps]
    rw [if_pos (hmin.trans_le ht.speed), not_lt]
    exact ht.speed.trans (le_max_left _ _)
  rw [OffsetSolver.feed, if_pos ⟨ht.tracker.1, ht.tracker.2, ht.headset⟩, FeedSolverTick,
    if_neg (not_not.2 h.state)]
  simp only [ht.profile, Bool.not_true, Bool.false_eq_true, if_false, if_true]
  rw [Solver.Tick, if_neg (not_not.2 hfreeze.state), if_neg (hspeed _), hframe, hsolver, pairOf]

variable (eigen) in
/-- A run of moving ticks is accepted as it is. -/
theorem collect_pairs {c m d : RigidMotion ℝ} {ticks : List FeedTick}
    (h : ∀ t ∈ ticks, Mounted c m t.hmdRaw t.hmRaw ∧ HasHead d t.hmdRaw)
    (hmoving : ∀ t ∈ ticks, Moving t) (s : ModalState) :
    (collect eigen c s ticks).solver.pairs = ticks.map (pairOf c) := by
  have hrun : ∀ s', Collecting c (m * d⁻¹) s' →
      (ticks.foldl (OffsetSolver.feed eigen c) s').solver.pairs =
        s'.solver.pairs ++ ticks.map (pairOf c) := by
    induction ticks with
    | nil => exact fun s' _ => (List.append_nil _).symm
    | cons t ticks ih =>
      intro s' hs'
      have hnext := hs'.feed eigen (h t List.mem_cons_self)
      rw [List.foldl_cons, ih (fun t' ht' => h t' (List.mem_cons_of_mem _ ht'))
        (fun t' ht' => hmoving t' (List.mem_cons_of_mem _ ht')) _ hnext,
        hs'.feed_pairs eigen (hmoving t List.mem_cons_self), List.map_cons, List.append_assoc,
        List.singleton_append]
  exact hrun _ (Collecting.start c _ s)

/-- A device that turns at the origin, with driver-from-head `d`. -/
def turnPose (d : RigidMotion ℝ) (q : HmdQuaternion) : DriverPose_t :=
  { restingPose with
    qRotation := q
    qDriverFromHeadRotation := d.rotation
    vecDriverFromHeadTranslation := d.translation }

/-- The tracker turns, and the headset is seen at `seen`. -/
def turnTick (seen : HmdQuaternion → DriverPose_t) (q : HmdQuaternion) : FeedTick :=
  ⟨seen q, turnPose 1 q, true, 1, 0⟩

/-- Ahead, and a quarter turn about each axis, fifteen times. -/
def turns : List HmdQuaternion :=
  (List.replicate 15 [1, quarterTurn 1 0 0, quarterTurn 0 1 0, quarterTurn 0 0 1]).flatten

def headTicks (seen : HmdQuaternion → DriverPose_t) : List FeedTick := turns.map (turnTick seen)

def turnTicks (d : RigidMotion ℝ) : List FeedTick := headTicks (turnPose d)

theorem turns_unit {q : HmdQuaternion} (h : q ∈ turns) : normSq q = 1 := by
  simp only [turns, List.mem_flatten, List.mem_replicate, List.mem_cons, List.not_mem_nil,
    or_false] at h
  obtain ⟨l, ⟨-, rfl⟩, hq⟩ := h
  simp only [List.mem_cons, List.not_mem_nil, or_false] at hq
  rcases hq with rfl | rfl | rfl | rfl
  · exact map_one _
  all_goals exact quarterTurn_unit (by norm_num)

theorem turnTicks_mounted (d : RigidMotion ℝ) :
    ∀ t ∈ turnTicks d, Mounted 1 d t.hmdRaw t.hmRaw ∧ HasHead d t.hmdRaw := by
  intro t ht
  obtain ⟨q, hq, rfl⟩ := List.mem_map.1 ht
  have hunit := turns_unit hq
  have hhead : HasHead d (turnPose d q) := ⟨rfl, rfl⟩
  refine ⟨⟨⟨map_one _, hunit, d.unit⟩, ⟨map_one _, hunit, map_one _⟩, fun v => ?_⟩, hhead⟩
  rw [RigidMotion.affine_one, Affine.apply_one]
  exact (reportedPose_eq hhead v).symm

section Headset

variable {seen : HmdQuaternion → DriverPose_t} {c m d : RigidMotion ℝ}

theorem headTicks_moving (hvalid : ∀ q, (seen q).poseIsValid = true) :
    ∀ t ∈ headTicks seen, Moving t := by
  intro t ht
  obtain ⟨q, -, rfl⟩ := List.mem_map.1 ht
  exact ⟨⟨rfl, rfl⟩, hvalid q, rfl, by norm_num [kMinHmdSpeedMps, turnTick]⟩

variable (seen c) in
theorem rotVecDeg_turn {q : HmdQuaternion} (h : normSq q = 1) :
    rotVecDeg standardEigen (pairOf c (turnTick seen 1)) (pairOf c (turnTick seen q)) =
      (standardEigen.rotationVector (toMatrix q)).map fun r => r * (180 / Real.pi) := by
  have hlinear : ∀ {p : HmdQuaternion}, normSq p = 1 →
      (poseFromDriver (turnPose 1 p)).linear = toMatrix p := by
    intro p hp
    show toMatrix (normalized (1 * p)) = toMatrix p
    rw [one_mul, normalized_of_unit hp]
  show (standardEigen.rotationVector ((poseFromDriver (turnPose 1 1)).linearᵀ *
    (poseFromDriver (turnPose 1 q)).linear)).map _ = _
  rw [hlinear h, hlinear (map_one _), toMatrix_one, Matrix.transpose_one, Matrix.one_mul]

/-- A quarter turn is in the range of its axis. -/
theorem headTicks_range (seen : HmdQuaternion → DriverPose_t) (c : RigidMotion ℝ) {x y z : ℝ}
    (haxis : x * x + y * y + z * z = 1)
    (h : quarterTurn x y z ∈ turns) :
    Axes.Le ⟨x * 90, y * 90, z * 90⟩
      (RotationAxisRangesDeg standardEigen ((headTicks seen).map (pairOf c))) := by
  have hform : (headTicks seen).map (pairOf c) =
      pairOf c (turnTick seen 1) :: pairOf c (turnTick seen (quarterTurn 1 0 0)) ::
        ((turns.drop 2).map (turnTick seen)).map (pairOf c) := rfl
  have hmem : ∀ q ∈ turns, pairOf c (turnTick seen q) ∈ (headTicks seen).map (pairOf c) :=
    fun q hq => List.mem_map_of_mem (List.mem_map_of_mem hq)
  have hahead := hmem 1 List.mem_cons_self
  have hturned := hmem _ h
  rw [hform] at hahead hturned ⊢
  have hrange := RotationAxisRangesDeg_ge standardEigen hturned hahead
  rw [rotVecDeg_turn seen c (quarterTurn_unit haxis), rotVecDeg_turn seen c (map_one _),
    toMatrix_one, rotVecDeg_quarterTurn haxis, rotVecDeg_one] at hrange
  simpa only [Axes.map₂, sub_zero] using hrange

/-- Sixty samples, with ninety degrees about every axis. -/
theorem headTicks_ready
    (hmounted : ∀ t ∈ headTicks seen, Mounted c m t.hmdRaw t.hmRaw ∧ HasHead d t.hmdRaw)
    (hvalid : ∀ q, (seen q).poseIsValid = true) (s : ModalState) :
    let pairs := (collect standardEigen c s (headTicks seen)).solver.pairs
    (readiness standardEigen pairs).enoughSamples ∧
      (readiness standardEigen pairs).enoughMotion := by
  have hpairs := collect_pairs standardEigen hmounted (headTicks_moving hvalid) s
  have hlen : (headTicks seen).length = 60 := by rw [headTicks, List.length_map]; rfl
  have hmem : ∀ q ∈ [1, quarterTurn 1 0 0, quarterTurn 0 1 0, quarterTurn 0 0 1], q ∈ turns :=
    fun q hq => List.mem_append_left _ hq
  have hpitch := headTicks_range seen c (by norm_num) (hmem (quarterTurn 1 0 0) (by simp))
  have hyaw := headTicks_range seen c (by norm_num) (hmem (quarterTurn 0 1 0) (by simp))
  have hroll := headTicks_range seen c (by norm_num) (hmem (quarterTurn 0 0 1) (by simp))
  have htarget : kAxisRangeTargetDeg ≤ 1 * 90 := by norm_num [kAxisRangeTargetDeg]
  simp only [hpairs]
  refine ⟨?_, readiness_enoughMotion ?_⟩
  · simp [readiness, hlen, kMinReadySampleCount]
  · exact ⟨htarget.trans hpitch.pitch, htarget.trans hyaw.yaw, htarget.trans hroll.roll⟩

end Headset

/-- A headset in another space, on a mount that is turned and shifted. -/
def carriedPose (c m : RigidMotion ℝ) (q : HmdQuaternion) : DriverPose_t :=
  { restingPose with
    qWorldFromDriverRotation := c.rotation
    vecWorldFromDriverTranslation := c.translation
    qRotation := q * m.rotation
    vecPosition := rotate q m.translation }

theorem carriedPose_mounted (c m : RigidMotion ℝ) :
    ∀ t ∈ headTicks (carriedPose c m), Mounted c m t.hmdRaw t.hmRaw ∧ HasHead 1 t.hmdRaw := by
  intro t ht
  obtain ⟨q, hq, rfl⟩ := List.mem_map.1 ht
  have hunit := turns_unit hq
  have hturned : normSq (q * m.rotation) = 1 := by rw [map_mul, hunit, m.unit, one_mul]
  refine ⟨⟨⟨c.unit, hturned, map_one _⟩, ⟨map_one _, hunit, map_one _⟩, fun v => ?_⟩, rfl, rfl⟩
  show c.affine.apply (motion 1 0 (motion q 0 (m.affine.apply v))) =
    motion c.rotation c.translation (motion (q * m.rotation) (rotate q m.translation)
      (motion 1 0 v))
  simp only [RigidMotion.apply_affine, motion, rotate_one, zero_add, rotate_add,
    ← rotate_rotate hunit m.unit]

def roomTurn : RigidMotion ℝ := ⟨quarterTurn 0 1 0, ![1, 0, -1], quarterTurn_unit (by norm_num)⟩

def strap : RigidMotion ℝ := ⟨quarterTurn 1 0 0, ![0, 0.1, 0.05], quarterTurn_unit (by norm_num)⟩

/-- A headset without driver-from-head is solved for, and the offset makes the round trip. -/
theorem roundTrip_turning :
    RoundTrips standardEigen roomTurn strap 1
      ((collect standardEigen roomTurn {} (headTicks (carriedPose roomTurn strap))).solver.Finish
        standardEigen) := by
  have hmounted := carriedPose_mounted roomTurn strap
  obtain ⟨hsamples, hmotion⟩ := headTicks_ready hmounted (fun _ => rfl) {}
  exact (roundTrip_iff standardEigen_meets hmounted {} hsamples hmotion).2 ⟨.inl rfl, rfl⟩

/-- The head is ten centimeters from the origin of the headset's driver. -/
def nudge : RigidMotion ℝ := ⟨1, ![0, 0, 0.1], map_one _⟩

/-- **The solver is done, with no residual, and has lost the ten centimeters.** -/
theorem nudgedHead_lost :
    (∀ t ∈ turnTicks nudge, Mounted 1 nudge t.hmdRaw t.hmRaw ∧ HasHead nudge t.hmdRaw) ∧
      let solver := (collect standardEigen 1 {} (turnTicks nudge)).solver
      (readiness standardEigen solver.pairs).enoughSamples ∧
      (readiness standardEigen solver.pairs).enoughMotion ∧
      (solver.Finish standardEigen).state = .Done ∧
      (solver.Finish standardEigen).result.headFromTracker ≠ nudge.affine ∧
      ¬ RoundTrips standardEigen 1 nudge nudge (solver.Finish standardEigen) := by
  have hmounted := turnTicks_mounted nudge
  have hready := headTicks_ready hmounted (fun _ => rfl) {}
  rw [show headTicks (turnPose nudge) = turnTicks nudge from rfl] at hready
  obtain ⟨hsamples, hmotion⟩ := hready
  have hcollected := collect_offset standardEigen hmounted {}
  have hfinish := Solver.Finish_exact standardEigen_meets hcollected.state hcollected.pairs
    hsamples hmotion
  have hlost : (nudge * nudge⁻¹).affine ≠ nudge.affine := by
    rw [ne_eq, RigidMotion.affine_mul_inv_eq_iff, RigidMotion.affine_eq_one_iff]
    rintro ⟨-, htranslation⟩
    have hz : (0.1 : ℝ) = 0 := congrFun htranslation 2
    norm_num at hz
  refine ⟨hmounted, hsamples, hmotion, ?_, ?_, fun h => ?_⟩
  · rw [hfinish]
  · rw [hfinish]
    exact hlost
  · have hmount := h.mount
    rw [hfinish] at hmount
    exact hlost hmount

end

end WKPairDriver.Calibration.OffsetSolver
