import Mathlib
import WKPairDriver.Lib.Rotation
import WKPairDriver.Driver.SourceBlendContinuity

/-!
# The pose a driver pose reports

OpenVR reports a driver pose at world-from-driver, then the pose in the driver's frame, then
driver-from-head.  `BlendPose` blends the translation and the rotation of each of the three on its
own; the reported position depends on all of them.

* `reportedPose` — the reported motion; `reportedPosition` is where it takes the origin.
* `slerpOn` — the two `slerp`s of the source; `slerpOn_zero`, `slerpOn_one`, `slerpOn_self`.
* `blendPose_zero`, `blendPose_one` — a blend ends where its poses are, whatever their frames.
* `blendPose_onSegment` — in between, it stays on the segment if the frames have one rotation.
-/

set_option autoImplicit false

namespace WKPairDriver.Driver

open Lib SourceBlend Quaternion

/-- `vr::HmdQuaternion_t`; `w` is the real part. -/
abbrev HmdQuaternion := ℍ[ℝ]

/-- `vr::DriverPose_t`, over the reals. -/
abbrev DriverPose_t := DriverPose ℝ HmdQuaternion

/-! ## Quaternions -/

/-- The quaternion of four components. -/
def quat (w x y z : ℝ) : HmdQuaternion := ⟨w, x, y, z⟩

@[simp] theorem quat_re (w x y z : ℝ) : (quat w x y z).re = w := rfl

@[simp] theorem quat_imI (w x y z : ℝ) : (quat w x y z).imI = x := rfl

@[simp] theorem quat_imJ (w x y z : ℝ) : (quat w x y z).imJ = y := rfl

@[simp] theorem quat_imK (w x y z : ℝ) : (quat w x y z).imK = z := rfl

def QuatDot (a b : HmdQuaternion) : ℝ :=
  a.re * b.re + a.imI * b.imI + a.imJ * b.imJ + a.imK * b.imK

noncomputable def NormalizeQuat (q : HmdQuaternion) : HmdQuaternion :=
  let n := √(q.re * q.re + q.imI * q.imI + q.imJ * q.imJ + q.imK * q.imK)
  if n > 1e-12 then quat (q.re / n) (q.imI / n) (q.imJ / n) (q.imK / n) else 1

/-- `std::clamp(dot, -1.0, 1.0)` -/
noncomputable def clampDot (dot : ℝ) : ℝ := max (-1) (min dot 1)

/-- `b` on the shorter arc from `a`, and the dot product with it. -/
noncomputable def shorter (a b : HmdQuaternion) : HmdQuaternion × ℝ :=
  if QuatDot a b < 0 then (-b, -QuatDot a b) else (b, QuatDot a b)

/-- The body of both `slerp`s: from `a` to `bAdj`, `theta` apart. -/
noncomputable def slerpOn (a bAdj : HmdQuaternion) (dot theta alpha : ℝ) : HmdQuaternion :=
  NormalizeQuat
    (if dot > 0.9995 then a + alpha • (bAdj - a)
    else
      let sinT := Real.sin theta
      let wa := Real.sin ((1 - alpha) * theta) / sinT
      let wb := Real.sin (alpha * theta) / sinT
      wa • a + wb • bAdj)

/-- The one of the source blend. -/
noncomputable def SlerpQuat (a b : HmdQuaternion) (alpha : ℝ) : HmdQuaternion :=
  let alpha := clamp01 alpha
  let dot := clampDot (shorter a b).2
  slerpOn a (shorter a b).1 dot (Real.arccos dot) alpha

/-- The one of the dropout bridge. -/
noncomputable def Slerp (a b : HmdQuaternion) (alpha : ℝ) : HmdQuaternion :=
  let dot := (shorter a b).2
  slerpOn a (shorter a b).1 dot (Real.arccos (clampDot dot)) alpha

/-- The two quaternions have one rotation. -/
def SameRotation (p q : HmdQuaternion) : Prop := p = q ∨ p = -q

theorem SameRotation.rotate {p q : HmdQuaternion} (h : SameRotation p q) (v : Fin 3 → ℝ) :
    Lib.rotate p v = Lib.rotate q v := by
  rcases h with rfl | rfl
  · rfl
  · exact rotate_neg q v

theorem SameRotation.symm {p q : HmdQuaternion} (h : SameRotation p q) : SameRotation q p := by
  rcases h with rfl | rfl
  · exact .inl rfl
  · exact .inr (neg_neg q).symm

theorem NormalizeQuat_of_unit {q : HmdQuaternion} (h : normSq q = 1) : NormalizeQuat q = q := by
  have hsum : q.re * q.re + q.imI * q.imI + q.imJ * q.imJ + q.imK * q.imK = 1 := by
    rw [normSq_def'] at h
    linarith
  have hpos : (1 : ℝ) > 1e-12 := by norm_num
  simp only [NormalizeQuat, hsum, Real.sqrt_one, div_one]
  exact if_pos hpos

theorem QuatDot_self {a : HmdQuaternion} (ha : normSq a = 1) : QuatDot a a = 1 := by
  rw [normSq_def'] at ha
  rw [QuatDot]
  linarith

theorem QuatDot_neg (a b : HmdQuaternion) : QuatDot a (-b) = -QuatDot a b := by
  simp only [QuatDot, re_neg, imI_neg, imJ_neg, imK_neg]
  ring

theorem QuatDot_le_one {a b : HmdQuaternion} (ha : normSq a = 1) (hb : normSq b = 1) :
    QuatDot a b ≤ 1 := by
  rw [normSq_def'] at ha hb
  rw [QuatDot]
  nlinarith [sq_nonneg (a.re - b.re), sq_nonneg (a.imI - b.imI), sq_nonneg (a.imJ - b.imJ),
    sq_nonneg (a.imK - b.imK)]

/-- What both `slerp`s know of the shorter arc. -/
structure Shorter (a b bAdj : HmdQuaternion) (dot : ℝ) : Prop where
  same : SameRotation bAdj b
  unit : normSq bAdj = 1
  nonneg : 0 ≤ dot
  le_one : dot ≤ 1

theorem shorter_spec {a b : HmdQuaternion} (ha : normSq a = 1) (hb : normSq b = 1) :
    Shorter a b (shorter a b).1 (shorter a b).2 := by
  have hneg : normSq (-b) = 1 := by rw [normSq_neg, hb]
  unfold shorter
  split
  · rename_i hlt
    exact ⟨.inr rfl, hneg, by linarith, QuatDot_neg a b ▸ QuatDot_le_one ha hneg⟩
  · rename_i hge
    exact ⟨.inl rfl, hb, not_lt.1 hge, QuatDot_le_one ha hb⟩

/-- Nothing is clamped. -/
theorem Shorter.clampDot {a b bAdj : HmdQuaternion} {dot : ℝ} (h : Shorter a b bAdj dot) :
    clampDot dot = dot := by
  have hlow := h.nonneg
  rw [Driver.clampDot, min_eq_left h.le_one, max_eq_right (by linarith)]

theorem shorter_of_same {a b : HmdQuaternion} (ha : normSq a = 1) (h : SameRotation a b) :
    shorter a b = (a, 1) := by
  have hself := QuatDot_self ha
  rcases h.symm with rfl | rfl
  · rw [shorter, if_neg (by linarith), hself]
  · rw [shorter, QuatDot_neg, hself, if_pos (by norm_num), neg_neg, neg_neg]

/-- Off the near-parallel branch the angle has a sine. -/
theorem sin_arccos_ne_zero {dot : ℝ} (h0 : 0 ≤ dot) (h : ¬ dot > 0.9995) :
    Real.sin (Real.arccos dot) ≠ 0 := by
  rw [Real.sin_arccos]
  apply (Real.sqrt_pos.2 _).ne'
  nlinarith

theorem slerpOn_zero {a bAdj : HmdQuaternion} (ha : normSq a = 1) {dot : ℝ} (h0 : 0 ≤ dot) :
    slerpOn a bAdj dot (Real.arccos dot) 0 = a := by
  unfold slerpOn
  split
  · rw [zero_smul, add_zero, NormalizeQuat_of_unit ha]
  · rename_i hfar
    have hsin := sin_arccos_ne_zero h0 hfar
    simp only [sub_zero, one_mul, zero_mul, Real.sin_zero, zero_div, zero_smul, add_zero,
      div_self hsin, one_smul, NormalizeQuat_of_unit ha]

theorem slerpOn_one {a bAdj : HmdQuaternion} (hb : normSq bAdj = 1) {dot : ℝ} (h0 : 0 ≤ dot) :
    slerpOn a bAdj dot (Real.arccos dot) 1 = bAdj := by
  unfold slerpOn
  split
  · rw [one_smul, add_sub_cancel, NormalizeQuat_of_unit hb]
  · rename_i hfar
    have hsin := sin_arccos_ne_zero h0 hfar
    simp only [sub_self, one_mul, zero_mul, Real.sin_zero, zero_div, zero_smul, zero_add,
      div_self hsin, one_smul, NormalizeQuat_of_unit hb]

theorem slerpOn_self {a : HmdQuaternion} (ha : normSq a = 1) (theta alpha : ℝ) :
    slerpOn a a 1 theta alpha = a := by
  rw [slerpOn, if_pos (by norm_num), sub_self, smul_zero, add_zero, NormalizeQuat_of_unit ha]

/-- What the blends use of a `slerp`. -/
structure Interpolates (slerp : HmdQuaternion → HmdQuaternion → ℝ → HmdQuaternion) : Prop where
  zero : ∀ {a b : HmdQuaternion}, normSq a = 1 → normSq b = 1 → slerp a b 0 = a
  one : ∀ {a b : HmdQuaternion}, normSq a = 1 → normSq b = 1 → SameRotation (slerp a b 1) b
  self : ∀ {a b : HmdQuaternion}, normSq a = 1 → SameRotation a b → ∀ alpha, slerp a b alpha = a

theorem Slerp_interpolates : Interpolates Slerp where
  zero ha hb := by
    have h := shorter_spec ha hb
    rw [Slerp, h.clampDot, slerpOn_zero ha h.nonneg]
  one ha hb := by
    have h := shorter_spec ha hb
    rw [Slerp, h.clampDot, slerpOn_one h.unit h.nonneg]
    exact h.same
  self ha h alpha := by
    simp only [Slerp, shorter_of_same ha h, slerpOn_self ha]

theorem SlerpQuat_interpolates : Interpolates SlerpQuat where
  zero ha hb := by
    have h := shorter_spec ha hb
    rw [SlerpQuat, clamp01_of_nonpos le_rfl, h.clampDot, slerpOn_zero ha h.nonneg]
  one ha hb := by
    have h := shorter_spec ha hb
    rw [SlerpQuat, clamp01_of_one_le le_rfl, h.clampDot, slerpOn_one h.unit h.nonneg]
    exact h.same
  self ha h alpha := by
    have hone : clampDot 1 = 1 := by norm_num [clampDot]
    simp only [SlerpQuat, shorter_of_same ha h, hone, slerpOn_self ha]

/-! ## The reported pose -/

/-- The reported pose, as a motion of the device's own frame. -/
def reportedPose (p : DriverPose_t) (v : Fin 3 → ℝ) : Fin 3 → ℝ :=
  motion p.qWorldFromDriverRotation p.vecWorldFromDriverTranslation
    (motion p.qRotation p.vecPosition
      (motion p.qDriverFromHeadRotation p.vecDriverFromHeadTranslation v))

def reportedPosition (p : DriverPose_t) : Fin 3 → ℝ := reportedPose p 0

/-- The three transforms are rigid. -/
structure Rigid (p : DriverPose_t) : Prop where
  world : normSq p.qWorldFromDriverRotation = 1
  device : normSq p.qRotation = 1
  head : normSq p.qDriverFromHeadRotation = 1

theorem reportedPosition_eq (p : DriverPose_t) :
    reportedPosition p =
      motion p.qWorldFromDriverRotation p.vecWorldFromDriverTranslation
        (motion p.qRotation p.vecPosition p.vecDriverFromHeadTranslation) := by
  rw [reportedPosition, reportedPose, motion_zero]

theorem SameRotation.motion {p q : HmdQuaternion} (h : SameRotation p q) (t v : Fin 3 → ℝ) :
    Lib.motion p t v = Lib.motion q t v := by
  rw [Lib.motion, h.rotate, Lib.motion]

theorem mixVec_eq (v w : Fin 3 → ℝ) (s : ℝ) : mixVec v w s = (1 - s) • v + s • w := by
  funext i
  simp only [mixVec, mix, Pi.add_apply, Pi.smul_apply, smul_eq_mul]
  ring

/-- One rotation takes a mix to the mix. -/
theorem motion_mixVec {p q : HmdQuaternion} (h : SameRotation p q) (t u v w : Fin 3 → ℝ) (s : ℝ) :
    motion p (mixVec t u s) (mixVec v w s) = mixVec (motion p t v) (motion q u w) s := by
  rw [← h.motion u w]
  simp only [motion, mixVec_eq, rotate_add, rotate_smul, smul_add]
  abel

theorem mixVec_self (v : Fin 3 → ℝ) (s : ℝ) : mixVec v v s = v := by
  funext i
  simp only [mixVec, mix]
  ring

/-- The world-from-driver rotations agree, and so do the device's, unless there is no
    driver-from-head translation for them to turn. -/
structure Aligned (a b : DriverPose_t) : Prop where
  world : SameRotation a.qWorldFromDriverRotation b.qWorldFromDriverRotation
  device : SameRotation a.qRotation b.qRotation ∨
    a.vecDriverFromHeadTranslation = 0 ∧ b.vecDriverFromHeadTranslation = 0

/-- Where the device's own transform puts the head, when the rotation is interpolated too. -/
theorem Aligned.device_mix {slerp : HmdQuaternion → HmdQuaternion → ℝ → HmdQuaternion}
    (hslerp : Interpolates slerp) {a b : DriverPose_t} (ha : Rigid a)
    (h : Aligned a b) (s : ℝ) :
    motion (slerp a.qRotation b.qRotation s) (mixVec a.vecPosition b.vecPosition s)
        (mixVec a.vecDriverFromHeadTranslation b.vecDriverFromHeadTranslation s) =
      mixVec (motion a.qRotation a.vecPosition a.vecDriverFromHeadTranslation)
        (motion b.qRotation b.vecPosition b.vecDriverFromHeadTranslation) s := by
  rcases h.device with hsame | ⟨hza, hzb⟩
  · rw [hslerp.self ha.device hsame, motion_mixVec hsame]
  · rw [hza, hzb, mixVec_self, motion_zero, motion_zero, motion_zero]

/-- `vr::TrackingResult_Running_OK` -/
def kRunningOk : ℤ := 200

/-- At the origin, in a frame that is the world's. -/
def restingPose : DriverPose_t where
  poseTimeOffset := 0
  qWorldFromDriverRotation := 1
  vecWorldFromDriverTranslation := 0
  qDriverFromHeadRotation := 1
  vecDriverFromHeadTranslation := 0
  vecPosition := 0
  vecVelocity := 0
  vecAcceleration := 0
  qRotation := 1
  vecAngularVelocity := 0
  vecAngularAcceleration := 0
  result := kRunningOk
  poseIsValid := true
  willDriftInYaw := false
  shouldApplyHeadModel := false
  deviceIsConnected := true

theorem restingPose_rigid : Rigid restingPose := ⟨map_one _, map_one _, map_one _⟩

/-! ## The source blend -/

section BlendPose

variable {a b : DriverPose_t}

theorem blendPose_reported (slerp : HmdQuaternion → HmdQuaternion → ℝ → HmdQuaternion)
    (a b : DriverPose_t) (alpha : ℝ) :
    let s := smoothstep alpha
    reportedPosition (blendPose slerp a b alpha) =
      motion (slerp a.qWorldFromDriverRotation b.qWorldFromDriverRotation s)
        (mixVec a.vecWorldFromDriverTranslation b.vecWorldFromDriverTranslation s)
        (motion (slerp a.qRotation b.qRotation s) (mixVec a.vecPosition b.vecPosition s)
          (mixVec a.vecDriverFromHeadTranslation b.vecDriverFromHeadTranslation s)) :=
  reportedPosition_eq _

/-- A blend starts where its first pose is. -/
theorem blendPose_zero (ha : Rigid a) (hb : Rigid b) :
    reportedPosition (blendPose SlerpQuat a b 0) = reportedPosition a := by
  have hslerp := SlerpQuat_interpolates
  rw [blendPose_reported, smoothstep_zero, hslerp.zero ha.world hb.world,
    hslerp.zero ha.device hb.device, mixVec_zero, mixVec_zero, mixVec_zero, reportedPosition_eq]

/-- A blend ends where its second pose is. -/
theorem blendPose_one (ha : Rigid a) (hb : Rigid b) :
    reportedPosition (blendPose SlerpQuat a b 1) = reportedPosition b := by
  have hslerp := SlerpQuat_interpolates
  rw [blendPose_reported, smoothstep_of_one_le le_rfl,
    (hslerp.one ha.world hb.world).motion, (hslerp.one ha.device hb.device).motion, mixVec_one,
    mixVec_one, mixVec_one, reportedPosition_eq]

theorem blendPose_mix (ha : Rigid a) (h : Aligned a b) (alpha : ℝ) :
    reportedPosition (blendPose SlerpQuat a b alpha) =
      mixVec (reportedPosition a) (reportedPosition b) (smoothstep alpha) := by
  have hslerp := SlerpQuat_interpolates
  rw [blendPose_reported, h.device_mix hslerp ha, hslerp.self ha.world h.world,
    motion_mixVec h.world, ← reportedPosition_eq, ← reportedPosition_eq]

theorem blendPose_onSegment (ha : Rigid a) (h : Aligned a b) (alpha : ℝ) :
    OnSegment (reportedPosition a) (reportedPosition b)
      (reportedPosition (blendPose SlerpQuat a b alpha)) :=
  ⟨smoothstep alpha, weight_smoothstep alpha, blendPose_mix ha h alpha⟩

end BlendPose

end WKPairDriver.Driver
