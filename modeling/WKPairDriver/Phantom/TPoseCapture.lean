import Mathlib
import WKPairDriver.Lib.RotationMatrix
import WKPairDriver.Phantom.PhantomPlugin

/-!
# T-pose capture and the fallback behind it

`CaptureTPose` stores where a tracker is from the headset, both as OpenVR reports them; `Solve`
applies the offset to the fields of a later headset pose, and keeps its driver-from-head transform.

* `DecomposeMatrix34_spec` — the position and the quaternion of a rigid matrix, in four branches.
* `captureDevices_lookup` — the last tracked device of a role gives its offset.
* `standing_Solve` — the reported pose of what `Solve` builds: the offset comes before the
  driver-from-head transform of the headset, not behind it.
* `capture_reproduced_iff` — the captured pose moves along with the headset exactly when the two
  commute.
-/

set_option autoImplicit false

namespace WKPairDriver.Phantom

open Lib Driver Inference Quaternion Matrix

/-! ## The capture -/

/-- `vr::HmdMatrix34_t`, row by row; the fourth column is the translation. -/
structure HmdMatrix34 where
  (m00 m01 m02 m03 : ℝ)
  (m10 m11 m12 m13 : ℝ)
  (m20 m21 m22 m23 : ℝ)

def HmdMatrix34.affine (m : HmdMatrix34) : Affine ℝ where
  linear := !![m.m00, m.m01, m.m02; m.m10, m.m11, m.m12; m.m20, m.m21, m.m22]
  translation := ![m.m03, m.m13, m.m23]

/-- The position and the quaternion of a pose. -/
noncomputable def DecomposeMatrix34 (m : HmdMatrix34) : (Fin 3 → ℝ) × HmdQuaternion :=
  let trace := m.m00 + m.m11 + m.m22
  (![m.m03, m.m13, m.m23],
    if trace > 0 then
      let s := √(trace + 1) * 2.0
      quat (0.25 * s) ((m.m21 - m.m12) / s) ((m.m02 - m.m20) / s) ((m.m10 - m.m01) / s)
    else if m.m00 > m.m11 ∧ m.m00 > m.m22 then
      let s := √(1 + m.m00 - m.m11 - m.m22) * 2.0
      quat ((m.m21 - m.m12) / s) (0.25 * s) ((m.m01 + m.m10) / s) ((m.m02 + m.m20) / s)
    else if m.m11 > m.m22 then
      let s := √(1 + m.m11 - m.m00 - m.m22) * 2.0
      quat ((m.m02 - m.m20) / s) ((m.m01 + m.m10) / s) (0.25 * s) ((m.m12 + m.m21) / s)
    else
      let s := √(1 + m.m22 - m.m00 - m.m11) * 2.0
      quat ((m.m10 - m.m01) / s) ((m.m02 + m.m20) / s) ((m.m12 + m.m21) / s) (0.25 * s))

def QConj (q : HmdQuaternion) : HmdQuaternion := star q

def QRotateInverse (q : HmdQuaternion) (v : Fin 3 → ℝ) : Fin 3 → ℝ := rotate (QConj q) v

inductive TrackedDeviceClass where
  | Invalid | HMD | other
  deriving DecidableEq

/-- A device, as OpenVR tells of it in the standing universe. -/
structure TrackedDevice where
  deviceClass : TrackedDeviceClass
  bPoseIsValid : Bool
  eTrackingResult : ℤ
  mDeviceToAbsoluteTracking : HmdMatrix34
  /-- `none` when the property cannot be read. -/
  serial : Option String

namespace TrackedDevice

variable (d : TrackedDevice)

def tracked : Bool := d.bPoseIsValid && decide (d.eTrackingResult = kRunningOk)

/-- The serial of a device whose pose may be captured. -/
def captureSerial : Option String :=
  if d.deviceClass = .Invalid ∨ d.deviceClass = .HMD then none
  else if !d.tracked then none
  else d.serial.filter fun serial => decide (serial ≠ "")

/-- The reported pose. -/
def pose : Affine ℝ := d.mDeviceToAbsoluteTracking.affine

/-- The offset of a device from the headset. -/
noncomputable def captured (hmd : TrackedDevice) : Option PhantomPlugin.Captured :=
  let (hmdPos, hmdRot) := DecomposeMatrix34 hmd.mDeviceToAbsoluteTracking
  let (trkPos, trkRot) := DecomposeMatrix34 d.mDeviceToAbsoluteTracking
  d.captureSerial.map fun serial =>
    { serial := serial
      rel_position := QRotateInverse hmdRot (trkPos - hmdPos)
      rel_rotation := QConj hmdRot * trkRot }

end TrackedDevice

/-- The headset of the capture. -/
def hmdOf (devices : List TrackedDevice) : Option TrackedDevice :=
  devices.find? fun d => decide (d.deviceClass = .HMD) && d.tracked

/-- `CaptureTPose`, on what OpenVR tells. -/
noncomputable def PhantomPlugin.captureDevices (s : PhantomPlugin) (devices : List TrackedDevice) :
    PhantomPlugin :=
  match hmdOf devices with
  | none => s
  | some hmd => s.CaptureTPose (devices.filterMap fun d => d.captured hmd)

/-- The device that a role is captured from: the last one that has it. -/
def Config.trackerOf (cfg : Config) (role : BodyRole) (devices : List TrackedDevice) :
    Option TrackedDevice :=
  devices.reverse.find? fun d => decide (d.captureSerial.bind cfg.device_role.lookup = some role)

/-! ## Where a pose is reported -/

/-- A rotation and a translation, as an affine map. -/
def affineOf (q : HmdQuaternion) (t : Fin 3 → ℝ) : Affine ℝ := ⟨toMatrix q, t⟩

/-- The driver-from-head transform. -/
def driverFromHead (p : DriverPose_t) : Affine ℝ :=
  affineOf p.qDriverFromHeadRotation p.vecDriverFromHeadTranslation

/-- The reported pose in the standing universe, which is `U` from the raw one. -/
def standing (U : RigidMotion ℝ) (p : DriverPose_t) : Affine ℝ :=
  U.affine * affineOf p.qWorldFromDriverRotation p.vecWorldFromDriverTranslation *
    affineOf p.qRotation p.vecPosition * driverFromHead p

/-! ## The quaternion of a matrix -/

theorem sqrt_doubled {k : ℝ} (h : 0 < k) : √k * 2.0 ≠ 0 ∧ √k * 2.0 * (√k * 2.0) = 4 * k := by
  have hsqrt := Real.sqrt_pos.2 h
  have hsq := Real.mul_self_sqrt h.le
  norm_num
  exact ⟨hsqrt.ne', by linear_combination 4 * hsq⟩

/-- In each branch the component under the root is not zero. -/
theorem DecomposeMatrix34_recovers {m : HmdMatrix34} (h : IsRotation m.affine.linear) :
    Recovers (DecomposeMatrix34 m).2 m.affine.linear := by
  have e := h.entries
  unfold DecomposeMatrix34
  dsimp only
  split
  next htrace =>
    obtain ⟨h0, hs⟩ := sqrt_doubled (k := m.m00 + m.m11 + m.m22 + 1) (by linarith)
    refine .of_re e h0 (hs.trans ?_)
    show 4 * (m.m00 + m.m11 + m.m22 + 1) = 4 * (1 + m.m00 + m.m11 + m.m22)
    ring
  next htrace =>
    split
    next hmax =>
      obtain ⟨h0, hs⟩ := sqrt_doubled (k := 1 + m.m00 - m.m11 - m.m22) (by
        linarith [hmax.1, hmax.2])
      exact .of_imI e h0 hs
    next hmax =>
      split
      next hlt =>
        obtain ⟨h0, hs⟩ := sqrt_doubled (k := 1 + m.m11 - m.m00 - m.m22) (by
          by_cases h1 : m.m00 > m.m11
          · have : m.m00 ≤ m.m22 := not_lt.1 fun h2 => hmax ⟨h1, h2⟩
            linarith
          · linarith)
        exact .of_imJ e h0 hs
      next hlt =>
        obtain ⟨h0, hs⟩ := sqrt_doubled (k := 1 + m.m22 - m.m00 - m.m11) (by
          by_cases h1 : m.m00 > m.m11
          · have : m.m00 ≤ m.m22 := not_lt.1 fun h2 => hmax ⟨h1, h2⟩
            linarith
          · linarith)
        exact .of_imK e h0 hs

/-- **The position and the quaternion of a rigid matrix are those of a rigid motion that is the
    matrix.** -/
theorem DecomposeMatrix34_spec {m : HmdMatrix34} (h : IsRotation m.affine.linear) :
    normSq (DecomposeMatrix34 m).2 = 1 ∧
      affineOf (DecomposeMatrix34 m).2 (DecomposeMatrix34 m).1 = m.affine :=
  ⟨(DecomposeMatrix34_recovers h).normSq_eq,
    Affine.ext (DecomposeMatrix34_recovers h).toMatrix_eq rfl⟩

/-! ## The stored offset -/

/-- The offset of what was captured. -/
def PhantomPlugin.Captured.offset (d : PhantomPlugin.Captured) : TrackerOffset :=
  ⟨d.rel_position, d.rel_rotation, true⟩

theorem CaptureTPose_lookup {role : BodyRole} (hrole : role ≠ noRole) (s : PhantomPlugin)
    (devices : List PhantomPlugin.Captured) :
    (s.CaptureTPose devices).cfg.role_offset.lookup role =
      ((devices.reverse.find? fun d => decide (s.cfg.device_role.lookup d.serial = some role)).map
        PhantomPlugin.Captured.offset).or (s.cfg.role_offset.lookup role) := by
  induction devices generalizing s with
  | nil => rfl
  | cons d devices ih =>
    rw [List.reverse_cons, List.find?_append]
    show (PhantomPlugin.CaptureTPose _ devices).cfg.role_offset.lookup role = _
    rw [ih]
    cases hlookup : s.cfg.device_role.lookup d.serial with
    | none => simp [hlookup]
    | some other =>
      by_cases hnone : other = noRole
      · simp [hlookup, hnone, hrole.symm]
      · have hcfg : (s.edit (.offset other d.rel_position d.rel_rotation)).cfg =
            s.cfg.edit (.offset other d.rel_position d.rel_rotation) := by
          rw [PhantomPlugin.edit_eq, PhantomPlugin.send_cfg]
        simp only [hlookup, if_neg hnone, hcfg, Config.edit, List.find?_singleton,
          Option.some.injEq]
        by_cases hsame : other = role
        · subst hsame
          rw [AList.lookup_insert, if_pos (decide_eq_true rfl)]
          cases devices.reverse.find? _ <;> rfl
        · rw [AList.lookup_insert_ne (Ne.symm hsame), decide_eq_false hsame, if_neg (by simp)]
          cases devices.reverse.find? _ <;> rfl

theorem trackerOf_serial {cfg : Config} {role : BodyRole} {devices : List TrackedDevice}
    {d : TrackedDevice} (hd : cfg.trackerOf role devices = some d) :
    ∃ serial, d.captureSerial = some serial ∧ cfg.device_role.lookup serial = some role := by
  rw [Config.trackerOf] at hd
  have hrole := List.find?_some hd
  exact Option.bind_eq_some_iff.1 (of_decide_eq_true hrole)

/-- The offset of a role after the capture is that of its last tracked device. -/
theorem captureDevices_lookup {role : BodyRole} (hrole : role ≠ noRole) (s : PhantomPlugin)
    {devices : List TrackedDevice} {hmd d : TrackedDevice} (hhmd : hmdOf devices = some hmd)
    (hd : s.cfg.trackerOf role devices = some d) :
    (s.captureDevices devices).cfg.role_offset.lookup role =
      (d.captured hmd).map PhantomPlugin.Captured.offset := by
  have hany : ∀ d : TrackedDevice,
      ((d.captured hmd).any fun c => decide (s.cfg.device_role.lookup c.serial = some role)) =
        decide (d.captureSerial.bind s.cfg.device_role.lookup = some role) := by
    intro d
    rw [TrackedDevice.captured]
    cases d.captureSerial <;> simp
  obtain ⟨serial, hserial, -⟩ := trackerOf_serial hd
  have hsome : d.captured hmd ≠ none := by
    rw [TrackedDevice.captured, hserial]
    exact Option.some_ne_none _
  rw [PhantomPlugin.captureDevices, hhmd]
  dsimp only
  rw [CaptureTPose_lookup hrole, ← List.filterMap_reverse, List.find?_filterMap]
  simp only [hany]
  rw [← Config.trackerOf, hd]
  obtain ⟨c, hc⟩ := Option.ne_none_iff_exists'.1 hsome
  rw [Option.bind_some, hc]
  rfl

/-! ## The pose behind it -/

theorem affineOf_mul {p q : HmdQuaternion} (hp : normSq p = 1) (hq : normSq q = 1)
    (t u : Fin 3 → ℝ) : affineOf p t * affineOf q u = affineOf (p * q) (t + rotate p u) := by
  apply Affine.ext
  · exact (toMatrix_mul hp hq).symm
  · show toMatrix p *ᵥ u + t = t + rotate p u
    rw [toMatrix_mulVec, add_comm]

theorem affineOf_same {p q : HmdQuaternion} (h : SameRotation p q) (t : Fin 3 → ℝ) :
    affineOf p t = affineOf q t := by
  rcases h with rfl | rfl
  · rfl
  · rw [affineOf, toMatrix_neg, affineOf]

/-- The offset that is stored is the captured tracker as the captured headset sees it. -/
theorem captured_offset {hmd d : TrackedDevice} {c : PhantomPlugin.Captured}
    (hc : d.captured hmd = some c) (hhmd : IsRotation hmd.pose.linear)
    (hd : IsRotation d.pose.linear) :
    normSq c.rel_rotation = 1 ∧ affineOf c.rel_rotation c.rel_position = hmd.pose⁻¹ * d.pose ∧
      hmd.pose * (hmd.pose⁻¹ * d.pose) = d.pose := by
  obtain ⟨hunit, hpose⟩ := DecomposeMatrix34_spec hhmd
  obtain ⟨hunit', hpose'⟩ := DecomposeMatrix34_spec hd
  rw [TrackedDevice.captured] at hc
  obtain ⟨serial, -, rfl⟩ := Option.map_eq_some_iff.1 hc
  let mh : RigidMotion ℝ := ⟨_, (DecomposeMatrix34 hmd.mDeviceToAbsoluteTracking).1, hunit⟩
  let md : RigidMotion ℝ := ⟨_, (DecomposeMatrix34 d.mDeviceToAbsoluteTracking).1, hunit'⟩
  have hh : mh.affine = hmd.pose := hpose
  have hd' : md.affine = d.pose := hpose'
  refine ⟨(mh⁻¹ * md).unit, ?_, ?_⟩
  case refine_2 =>
    rw [← hh, ← RigidMotion.affine_inv, ← mul_assoc, RigidMotion.mul_inv, one_mul]
  rw [← hh, ← hd', ← RigidMotion.affine_inv, ← RigidMotion.affine_mul]
  apply Affine.ext
  · rfl
  · show rotate (star mh.rotation) (md.translation - mh.translation) =
      -rotate (star mh.rotation) mh.translation + rotate (star mh.rotation) md.translation
    rw [sub_eq_add_neg, rotate_add, ← neg_one_smul ℝ mh.translation, rotate_smul, neg_one_smul,
      add_comm]

theorem Solve_SetOffset (offsets : IkFallback) (role : BodyRole) (rel_position : Fin 3 → ℝ)
    (rel_rotation : HmdQuaternion) (hmd_pose : DriverPose_t) :
    (offsets.SetOffset role rel_position rel_rotation).Solve role hmd_pose =
      some
        { hmd_pose with
          vecPosition := hmd_pose.vecPosition + rotate hmd_pose.qRotation rel_position
          qRotation := NormalizeQuat (hmd_pose.qRotation * NormalizeQuat rel_rotation)
          poseTimeOffset := 0
          poseIsValid := true
          deviceIsConnected := true
          result := kRunningOk } := by
  simp [IkFallback.Solve, IkFallback.SetOffset]

/-- The reported pose of the device, before driver-from-head. -/
def standingDevice (U : RigidMotion ℝ) (p : DriverPose_t) : Affine ℝ :=
  U.affine * affineOf p.qWorldFromDriverRotation p.vecWorldFromDriverTranslation *
    affineOf p.qRotation p.vecPosition

theorem exists_standingDevice (U : RigidMotion ℝ) {p : DriverPose_t} (h : Rigid p) :
    ∃ x : RigidMotion ℝ, x.affine = standingDevice U p :=
  ⟨U * ⟨_, p.vecWorldFromDriverTranslation, h.world⟩ * ⟨_, p.vecPosition, h.device⟩, by
    rw [RigidMotion.affine_mul, RigidMotion.affine_mul]
    rfl⟩

/-- **Where the pose `Solve` builds is reported.**  The offset comes before the driver-from-head
    transform. -/
theorem standing_Solve (offsets : IkFallback) (role : BodyRole) (rel_position : Fin 3 → ℝ)
    {rel_rotation : HmdQuaternion} (hrel : normSq rel_rotation = 1) {hmd_pose : DriverPose_t}
    (hhmd : Rigid hmd_pose) (U : RigidMotion ℝ) :
    ∃ out, (offsets.SetOffset role rel_position rel_rotation).Solve role hmd_pose = some out ∧
      standing U out =
        standingDevice U hmd_pose * affineOf rel_rotation rel_position *
          driverFromHead hmd_pose := by
  have hunit : normSq (hmd_pose.qRotation * rel_rotation) = 1 := by
    rw [map_mul, hhmd.device, hrel, one_mul]
  refine ⟨_, Solve_SetOffset .., ?_⟩
  rw [standingDevice, mul_assoc (U.affine * _) (affineOf hmd_pose.qRotation _),
    affineOf_mul hhmd.device hrel]
  simp only [standing, driverFromHead, NormalizeQuat_of_unit hrel, NormalizeQuat_of_unit hunit]

/-- The offset before driver-from-head, and behind it. -/
theorem standing_iff_commute {U M : RigidMotion ℝ} {hmd_pose out : DriverPose_t}
    (hhmd : Rigid hmd_pose) {hmd d rel : Affine ℝ} (hrel : hmd * rel = d)
    (hpose : standing U hmd_pose = M.affine * hmd)
    (hout : standing U out = standingDevice U hmd_pose * rel * driverFromHead hmd_pose) :
    standing U out = M.affine * d ↔ Commute (driverFromHead hmd_pose) rel := by
  obtain ⟨x, hx⟩ := exists_standingDevice U hhmd
  have hmoved : M.affine * d = x.affine * (driverFromHead hmd_pose * rel) := by
    rw [← hrel, ← mul_assoc, ← hpose, ← mul_assoc, hx]
    rfl
  rw [hout, hmoved, ← hx, mul_assoc, Commute, SemiconjBy]
  constructor
  · intro h
    have := congrArg (x.affine⁻¹ * ·) h
    simp only [RigidMotion.affine_inv_mul_cancel] at this
    exact this.symm
  · intro h
    rw [h]

/-- What becomes of a captured offset, whatever the sign of its quaternion. -/
theorem reproduced_iff {hmd d : TrackedDevice} {c : PhantomPlugin.Captured}
    (hc : d.captured hmd = some c) (hhmd : IsRotation hmd.pose.linear)
    (hd : IsRotation d.pose.linear) {rot : HmdQuaternion} (hrot : SameRotation rot c.rel_rotation)
    (m : PhantomModule) (role : BodyRole) {U M : RigidMotion ℝ} {hmd_pose : DriverPose_t}
    (hrigid : Rigid hmd_pose) (hpose : standing U hmd_pose = M.affine * hmd.pose) :
    ∃ out, (m.HandleRequest (.SetPhantomTrackerOffset role
          { c.offset with rel_rotation := rot })).ik_fallback.Solve role hmd_pose = some out ∧
      (standing U out = M.affine * d.pose ↔
        Commute (driverFromHead hmd_pose) (hmd.pose⁻¹ * d.pose)) := by
  obtain ⟨hunit, hoffset, hback⟩ := captured_offset hc hhmd hd
  have hunit' : normSq rot = 1 := by
    rcases hrot with rfl | rfl
    · exact hunit
    · rw [normSq_neg, hunit]
  obtain ⟨out, hsolve, hout⟩ := standing_Solve m.ik_fallback role c.rel_position hunit' hrigid U
  rw [affineOf_same hrot, hoffset] at hout
  exact ⟨out, hsolve, standing_iff_commute hrigid hback hpose hout⟩

theorem exists_captured {cfg : Config} {role : BodyRole} {devices : List TrackedDevice}
    {d : TrackedDevice} (hd : cfg.trackerOf role devices = some d) (hmd : TrackedDevice) :
    ∃ c, d.captured hmd = some c := by
  obtain ⟨serial, hserial, -⟩ := trackerOf_serial hd
  rw [TrackedDevice.captured, hserial]
  exact ⟨_, rfl⟩

/-- **The captured pose moves along with the headset exactly when the offset commutes with the
    driver-from-head transform of the headset**, whatever the sign of the stored quaternion. -/
theorem capture_reproduced_iff {s : PhantomPlugin} {devices : List TrackedDevice} {role : BodyRole}
    {hmd d : TrackedDevice} (hrole : role ≠ noRole) (hhmd : hmdOf devices = some hmd)
    (hd : s.cfg.trackerOf role devices = some d) (hhmdRot : IsRotation hmd.pose.linear)
    (hdRot : IsRotation d.pose.linear) :
    ∃ offset, (s.captureDevices devices).cfg.role_offset.lookup role = some offset ∧
      offset.calibrated = true ∧
      ∀ rot, SameRotation rot offset.rel_rotation →
      ∀ (m : PhantomModule) (U M : RigidMotion ℝ) (hmd_pose : DriverPose_t), Rigid hmd_pose →
        standing U hmd_pose = M.affine * hmd.pose →
        ∃ out, (m.HandleRequest (.SetPhantomTrackerOffset role
              { offset with rel_rotation := rot })).ik_fallback.Solve role hmd_pose = some out ∧
          (standing U out = M.affine * d.pose ↔
            Commute (driverFromHead hmd_pose) (hmd.pose⁻¹ * d.pose)) := by
  obtain ⟨c, hc⟩ := exists_captured hd hmd
  refine ⟨c.offset, by rw [captureDevices_lookup hrole s hhmd hd, hc]; rfl, rfl, ?_⟩
  intro rot hrot m U M hmd_pose hrigid hpose
  exact reproduced_iff hc hhmdRot hdRot hrot m role hrigid hpose

/-! ## A capture, with and without a driver-from-head transform -/

/-- A headset a meter from the origin. -/
def capturedHmd : TrackedDevice :=
  ⟨.HMD, true, kRunningOk, ⟨1, 0, 0, 1, 0, 1, 0, 0, 0, 0, 1, 0⟩, some "headset"⟩

/-- A tracker in the same place, turned by half a turn. -/
def capturedTracker : TrackedDevice :=
  ⟨.other, true, kRunningOk, ⟨-1, 0, 0, 1, 0, -1, 0, 0, 0, 0, 1, 0⟩, some "tracker"⟩

noncomputable def shoulderPlugin : PhantomPlugin where
  cfg :=
    { master_enabled := true
      timings := defaultTimings
      dropout_enabled := ∅
      device_role := AList.insert "tracker" (Fin.last 13) ∅
      role_offset := ∅
      virtual_enabled := ∅ }
  driver := .fresh

theorem capturedHmd_rotation : IsRotation capturedHmd.pose.linear := by
  have hone : capturedHmd.pose.linear = toMatrix (1 : HmdQuaternion) := by
    rw [toMatrix_one]
    ext i j
    fin_cases i <;> fin_cases j <;> rfl
  rw [hone]
  exact isRotation_toMatrix (map_one _)

theorem capturedTracker_rotation : IsRotation capturedTracker.pose.linear := by
  have hturn : capturedTracker.pose.linear = toMatrix (quat 0 0 0 1) := by
    ext i j
    fin_cases i <;> fin_cases j <;>
      norm_num [TrackedDevice.pose, HmdMatrix34.affine, capturedTracker, toMatrix]
  rw [hturn]
  exact isRotation_toMatrix (by norm_num [normSq_def'])

theorem shoulder_tracker :
    shoulderPlugin.cfg.trackerOf (Fin.last 13) [capturedHmd, capturedTracker] =
      some capturedTracker := rfl

theorem affineOf_one : affineOf 1 0 = 1 := Affine.ext toMatrix_one rfl

theorem standing_ahead : standing 1 aheadPose = (1 : RigidMotion ℝ).affine * capturedHmd.pose := by
  have hpose : affineOf 1 ![1, 0, 0] = capturedHmd.pose := by
    apply Affine.ext
    · show toMatrix (1 : HmdQuaternion) = capturedHmd.pose.linear
      rw [toMatrix_one]
      ext i j
      fin_cases i <;> fin_cases j <;> rfl
    · rfl
  simp only [standing, driverFromHead, aheadPose, restingPose, affineOf_one, hpose, mul_one]

/-- Without a driver-from-head transform the tracker is back where it was. -/
theorem capture_reproduced_iff_ahead :
    ∃ offset out, (shoulderPlugin.captureDevices
        [capturedHmd, capturedTracker]).cfg.role_offset.lookup (Fin.last 13) = some offset ∧
      ((PhantomModule.fresh.HandleRequest (.SetPhantomTrackerOffset (Fin.last 13)
        offset)).ik_fallback.Solve (Fin.last 13) aheadPose = some out) ∧
      standing 1 out = (1 : RigidMotion ℝ).affine * capturedTracker.pose := by
  obtain ⟨offset, hlookup, -, hsolve⟩ := capture_reproduced_iff (by decide) rfl shoulder_tracker
    capturedHmd_rotation capturedTracker_rotation
  obtain ⟨out, hout, hiff⟩ :=
    hsolve _ (.inl rfl) .fresh 1 1 aheadPose aheadPose_rigid standing_ahead
  refine ⟨offset, out, hlookup, hout, hiff.2 ?_⟩
  rw [driverFromHead, aheadPose, restingPose, affineOf_one]
  exact Commute.one_left _

/-- A headset whose driver reports it a meter off its own frame. -/
noncomputable def offsetHeadPose : DriverPose_t :=
  { restingPose with vecDriverFromHeadTranslation := ![1, 0, 0] }

/-- With one the tracker is not: the headset stands where it was captured, and the tracker comes out
    two meters away. -/
theorem capture_displaced :
    ∃ offset out, (shoulderPlugin.captureDevices
        [capturedHmd, capturedTracker]).cfg.role_offset.lookup (Fin.last 13) = some offset ∧
      Rigid offsetHeadPose ∧
      standing 1 offsetHeadPose = (1 : RigidMotion ℝ).affine * capturedHmd.pose ∧
      ((PhantomModule.fresh.HandleRequest (.SetPhantomTrackerOffset (Fin.last 13)
        offset)).ik_fallback.Solve (Fin.last 13) offsetHeadPose = some out) ∧
      standing 1 out ≠ (1 : RigidMotion ℝ).affine * capturedTracker.pose := by
  obtain ⟨c, hc⟩ := exists_captured shoulder_tracker capturedHmd
  have hrigid : Rigid offsetHeadPose := ⟨map_one _, map_one _, map_one _⟩
  have hhead : driverFromHead offsetHeadPose = capturedHmd.pose := by
    have h := standing_ahead
    simp only [standing, driverFromHead, aheadPose, restingPose, affineOf_one, one_mul, mul_one,
      RigidMotion.affine_one] at h
    exact h
  have hpose : standing 1 offsetHeadPose = (1 : RigidMotion ℝ).affine * capturedHmd.pose := by
    rw [standing, hhead]
    simp only [offsetHeadPose, restingPose, affineOf_one, mul_one]
  obtain ⟨out, hout, hiff⟩ := reproduced_iff hc capturedHmd_rotation capturedTracker_rotation
    (.inl rfl) .fresh (Fin.last 13) (M := 1) hrigid hpose
  refine ⟨c.offset, out, ?_, hrigid, hpose, hout, fun h => ?_⟩
  · rw [captureDevices_lookup (by decide) shoulderPlugin rfl shoulder_tracker, hc]
    rfl
  · obtain ⟨-, -, hback⟩ := captured_offset hc capturedHmd_rotation capturedTracker_rotation
    have hcommute := (hiff.1 h).eq
    rw [hhead] at hcommute
    have hswap : capturedHmd.pose * capturedTracker.pose =
        capturedTracker.pose * capturedHmd.pose := by
      calc capturedHmd.pose * capturedTracker.pose
          = capturedHmd.pose * (capturedHmd.pose⁻¹ * capturedTracker.pose) * capturedHmd.pose := by
            rw [mul_assoc, ← hcommute, hback]
        _ = capturedTracker.pose * capturedHmd.pose := by rw [hback]
    have hx := congrFun (congrArg Affine.translation hswap) 0
    norm_num [capturedHmd, capturedTracker, TrackedDevice.pose, HmdMatrix34.affine,
      Matrix.mulVec, dotProduct, Fin.sum_univ_three] at hx

end WKPairDriver.Phantom
