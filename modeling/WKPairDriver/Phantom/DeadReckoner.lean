import Mathlib
import WKPairDriver.Lib.Axes
import WKPairDriver.Lib.Ring
import WKPairDriver.Driver.ReportedPose

/-!
# Dead reckoning over a dropout: `PoseHistory`, `DeadReckoner`

While a tracker is lost its pose is projected from the last real one.  The velocity is damped by a
factor that falls from 1 to 0 over 250 ms, and the damped velocity is taken over the whole time
since that pose.

* `PoseHistory.GetNewest_Push` — the newest sample is the one that was pushed last.
* `Project_position` — without acceleration the displacement is the velocity times `reach`, the
  damping factor times the time.
* `comesToRest_iff` — the projection never moves back between two times exactly when the reach does
  not fall; over all times that needs a tracker at rest.
* `projection_returns` — a tracker at 1 m/s is 6 cm ahead at 125 ms, and back where it was lost at
  250 ms.

Over the reals; the differences and products of clock ticks are taken to fit 64 bits.
-/

set_option autoImplicit false

namespace WKPairDriver.Phantom

open Lib Driver

/-! ## The history of a tracker's poses -/

structure PoseSample where
  qpc_ns : ℤ
  pose : DriverPose_t
  was_real : Bool

namespace PoseHistory

def kCapacity : ℕ := 256

instance : NeZero kCapacity := ⟨by decide⟩

end PoseHistory

structure PoseHistory where
  samples_ : Fin PoseHistory.kCapacity → PoseSample
  head_ : Fin PoseHistory.kCapacity
  count_ : ℕ

namespace PoseHistory

/-- `vr::DriverPose_t{}` -/
noncomputable def zeroedPose : DriverPose_t where
  poseTimeOffset := 0
  qWorldFromDriverRotation := 0
  vecWorldFromDriverTranslation := 0
  qDriverFromHeadRotation := 0
  vecDriverFromHeadTranslation := 0
  vecPosition := 0
  vecVelocity := 0
  vecAcceleration := 0
  qRotation := 0
  vecAngularVelocity := 0
  vecAngularAcceleration := 0
  result := 0
  poseIsValid := false
  willDriftInYaw := false
  shouldApplyHeadModel := false
  deviceIsConnected := false

noncomputable def new : PoseHistory := ⟨fun _ => ⟨0, zeroedPose, false⟩, Ring.wrap kCapacity 0, 0⟩

def Push (h : PoseHistory) (qpc_ns : ℤ) (pose : DriverPose_t) : PoseHistory where
  samples_ := Function.update h.samples_ h.head_ ⟨qpc_ns, pose, true⟩
  head_ := Ring.wrap kCapacity (h.head_ + 1)
  count_ := if h.count_ < kCapacity then h.count_ + 1 else h.count_

def ClearRealFlags (h : PoseHistory) : PoseHistory :=
  { h with samples_ := fun i => { h.samples_ i with was_real := false } }

def GetNewest (h : PoseHistory) (index : ℕ) : Option PoseSample :=
  if index ≥ h.count_ then none
  else some (h.samples_ (Ring.wrap kCapacity (h.head_ + kCapacity - 1 - index)))

/-- **The newest sample is the one pushed last.** -/
theorem GetNewest_Push (h : PoseHistory) (qpc_ns : ℤ) (pose : DriverPose_t) :
    (h.Push qpc_ns pose).GetNewest 0 = some ⟨qpc_ns, pose, true⟩ := by
  have hcount : ¬ 0 ≥ (h.Push qpc_ns pose).count_ := by
    have hpos : 0 < kCapacity := by decide
    simp only [Push]
    split <;> omega
  have hslot : Ring.wrap kCapacity ((h.Push qpc_ns pose).head_ + kCapacity - 1 - 0) = h.head_ := by
    have hlt := h.head_.isLt
    apply Fin.ext
    simp only [Push, Ring.wrap, kCapacity] at hlt ⊢
    omega
  rw [GetNewest, if_neg hcount, hslot]
  simp [Push]

end PoseHistory

/-! ## The projection -/

namespace DeadReckoner

def kFullDampMs : ℤ := 250

/-- `QMul` is the product of quaternions. -/
noncomputable def QMul (a b : HmdQuaternion) : HmdQuaternion := a * b

/-- `QNormalize`, the same computation as `NormalizeQuat`. -/
noncomputable def QNormalize (q : HmdQuaternion) : HmdQuaternion := NormalizeQuat q

noncomputable def QFromAxisAngle (a : Fin 3 → ℝ) : HmdQuaternion :=
  let angle := √(a axisX * a axisX + a axisY * a axisY + a axisZ * a axisZ)
  if angle < 1e-9 then 1
  else
    let half := angle * 0.5
    let s := Real.sin half / angle
    quat (Real.cos half) (a axisX * s) (a axisY * s) (a axisZ * s)

/-- The time since the last pose, in seconds. -/
noncomputable def dtSeconds (qpc_freq dt_ns : ℤ) : ℝ :=
  if dt_ns > 0 then dt_ns / qpc_freq else 0

/-- The time since the last pose, in whole milliseconds. -/
def ageMs (qpc_freq dt_ns : ℤ) : ℤ :=
  if qpc_freq > 0 then (dt_ns * 1000).tdiv qpc_freq else 0

noncomputable def dampRatio (age_ms : ℤ) : ℝ :=
  min (max (1 - (max 0 age_ms : ℤ) / (kFullDampMs : ℝ)) 0) 1

/-- What `Project` makes of its newest sample. -/
noncomputable def projected (newest : DriverPose_t) (dt_s damp : ℝ) : DriverPose_t :=
  let v := fun i => newest.vecVelocity i * damp
  let a := fun i => newest.vecAcceleration i * damp
  let dq := QFromAxisAngle fun i => newest.vecAngularVelocity i * dt_s * damp
  { newest with
    vecPosition := fun i => newest.vecPosition i + v i * dt_s + 0.5 * a i * dt_s * dt_s
    vecVelocity := fun i => v i * damp
    vecAcceleration := fun i => a i * damp
    qRotation := QNormalize (QMul dq newest.qRotation)
    vecAngularVelocity := fun i => newest.vecAngularVelocity i * (damp * damp)
    vecAngularAcceleration := fun i => newest.vecAngularAcceleration i * (damp * damp)
    poseTimeOffset := 0
    poseIsValid := true
    deviceIsConnected := true
    result := kRunningOk }

noncomputable def Project (history : PoseHistory) (qpc_freq target_qpc_ns : ℤ) :
    Option DriverPose_t :=
  match history.GetNewest 0 with
  | none => none
  | some newest =>
    if !newest.was_real ∨ qpc_freq ≤ 0 then none
    else
      let dt_ns := target_qpc_ns - newest.qpc_ns
      some (projected newest.pose (dtSeconds qpc_freq dt_ns) (dampRatio (ageMs qpc_freq dt_ns)))

/-! ## How far the projection reaches -/

/-- The time since the last pose times the damping that is left, in ticks and milliseconds. -/
def reach (qpc_freq dt_ns : ℤ) : ℤ :=
  dt_ns * (kFullDampMs - min kFullDampMs (dt_ns * 1000 / qpc_freq))

theorem kFullDampMs_pos : (0 : ℝ) < kFullDampMs := by norm_num [kFullDampMs]

/-- The damping that is left after some milliseconds. -/
theorem dampRatio_eq {age : ℤ} (h : 0 ≤ age) :
    dampRatio age = (kFullDampMs - min kFullDampMs age : ℤ) / (kFullDampMs : ℝ) := by
  have hpos := kFullDampMs_pos
  have hage : (0 : ℝ) ≤ age := by exact_mod_cast h
  have hle : (1 : ℝ) - age / kFullDampMs ≤ 1 := by
    rw [sub_le_self_iff]
    positivity
  rw [dampRatio, max_eq_right h, min_eq_left (max_le hle zero_le_one)]
  push_cast
  rw [eq_div_iff hpos.ne']
  rcases le_total (kFullDampMs : ℝ) age with hlong | hshort
  · rw [max_eq_right (by rw [sub_nonpos, one_le_div hpos]; exact hlong), min_eq_left hlong]
    ring
  · rw [max_eq_left (by rw [sub_nonneg, div_le_one hpos]; exact hshort), min_eq_right hshort]
    field_simp

theorem damp_mul_time {qpc_freq dt_ns : ℤ} (hfreq : 0 < qpc_freq) (hdt : 0 ≤ dt_ns) :
    dampRatio (ageMs qpc_freq dt_ns) * dtSeconds qpc_freq dt_ns =
      reach qpc_freq dt_ns / (kFullDampMs * qpc_freq : ℝ) := by
  have hage : ageMs qpc_freq dt_ns = dt_ns * 1000 / qpc_freq := by
    rw [ageMs, if_pos hfreq, Int.tdiv_eq_ediv_of_nonneg (by omega)]
  have hnonneg : 0 ≤ dt_ns * 1000 / qpc_freq := Int.ediv_nonneg (by omega) hfreq.le
  have htime : dtSeconds qpc_freq dt_ns = dt_ns / qpc_freq := by
    unfold dtSeconds
    split
    · rfl
    · have hzero : dt_ns = 0 := by omega
      simp [hzero]
  rw [hage, dampRatio_eq hnonneg, htime, reach]
  push_cast
  field_simp

/-- A history that can be projected from, without acceleration. -/
structure Coasting (history : PoseHistory) (last : PoseSample) : Prop where
  newest : history.GetNewest 0 = some last
  real : last.was_real = true
  acceleration : last.pose.vecAcceleration = 0

/-- **Without acceleration the displacement is the velocity times the reach.** -/
theorem Project_position {history : PoseHistory} {last : PoseSample}
    (h : Coasting history last) {qpc_freq target : ℤ} (hfreq : 0 < qpc_freq)
    (hafter : last.qpc_ns ≤ target) :
    ∃ p, Project history qpc_freq target = some p ∧ ∀ i,
      p.vecPosition i - last.pose.vecPosition i =
        last.pose.vecVelocity i *
          (reach qpc_freq (target - last.qpc_ns) / (kFullDampMs * qpc_freq : ℝ)) := by
  have hgate : ¬ ((!last.was_real) = true ∨ qpc_freq ≤ 0) := by
    rw [h.real]
    simpa using hfreq
  refine ⟨_, by rw [Project, h.newest]; exact if_neg hgate, fun i => ?_⟩
  rw [← damp_mul_time hfreq (by omega)]
  simp only [projected, h.acceleration, Pi.zero_apply]
  ring

/-- The pose projected to `t₂` is at least as far along the velocity as the one projected to `t₁`,
    on each axis. -/
def NeverBack (history : PoseHistory) (qpc_freq t₁ t₂ : ℤ) : Prop :=
  ∀ last ∈ history.GetNewest 0, ∀ p₁ ∈ Project history qpc_freq t₁,
    ∀ p₂ ∈ Project history qpc_freq t₂, ∀ i,
      last.pose.vecVelocity i * (p₁.vecPosition i - last.pose.vecPosition i) ≤
        last.pose.vecVelocity i * (p₂.vecPosition i - last.pose.vecPosition i)

theorem neverBack_iff {history : PoseHistory} {last : PoseSample} (h : Coasting history last)
    {qpc_freq t₁ t₂ : ℤ} (hfreq : 0 < qpc_freq) (h₁ : last.qpc_ns ≤ t₁) (h₂ : last.qpc_ns ≤ t₂) :
    NeverBack history qpc_freq t₁ t₂ ↔
      last.pose.vecVelocity = 0 ∨
        reach qpc_freq (t₁ - last.qpc_ns) ≤ reach qpc_freq (t₂ - last.qpc_ns) := by
  obtain ⟨p₁, hp₁, hpos₁⟩ := Project_position h hfreq h₁
  obtain ⟨p₂, hp₂, hpos₂⟩ := Project_position h hfreq h₂
  have hscale : (0 : ℝ) < kFullDampMs * qpc_freq :=
    mul_pos kFullDampMs_pos (by exact_mod_cast hfreq)
  have haxis : NeverBack history qpc_freq t₁ t₂ ↔ ∀ i,
      0 ≤ last.pose.vecVelocity i ^ 2 *
        ((reach qpc_freq (t₂ - last.qpc_ns) : ℝ) - reach qpc_freq (t₁ - last.qpc_ns)) := by
    simp only [NeverBack, h.newest, hp₁, hp₂, Option.mem_def, Option.some.injEq, forall_eq', hpos₁,
      hpos₂]
    refine forall_congr' fun i => ?_
    rw [← sub_nonneg, ← mul_sub, ← mul_sub, ← sub_div, ← mul_assoc, ← mul_div_assoc, ← sq,
      le_div_iff₀ hscale, zero_mul]
  rw [haxis]
  rcases le_or_gt (reach qpc_freq (t₁ - last.qpc_ns)) (reach qpc_freq (t₂ - last.qpc_ns))
    with hle | hlt
  · refine iff_of_true (fun i => mul_nonneg (sq_nonneg _) ?_) (.inr hle)
    rw [sub_nonneg]
    exact_mod_cast hle
  · -- the reach falls: only an axis without velocity does not move back
    have hneg :
        (reach qpc_freq (t₂ - last.qpc_ns) : ℝ) - reach qpc_freq (t₁ - last.qpc_ns) < 0 := by
      rw [sub_neg]
      exact_mod_cast hlt
    constructor
    · intro hall
      left
      funext i
      have hsq := nonpos_of_mul_nonneg_left (hall i) hneg
      exact pow_eq_zero_iff (two_ne_zero) |>.1 (le_antisymm hsq (sq_nonneg _))
    · rintro (hzero | hle) i
      · simp [hzero]
      · exact absurd hle (not_le.2 hlt)

/-- Below 5 Hz the first tick is past the damping. -/
theorem reach_of_slow {qpc_freq dt_ns : ℤ} (hfreq : 0 < qpc_freq) (hslow : qpc_freq ≤ 4)
    (hdt : 0 ≤ dt_ns) : reach qpc_freq dt_ns = 0 := by
  rcases hdt.eq_or_lt with rfl | hpos
  · simp [reach]
  · have hage : kFullDampMs ≤ dt_ns * 1000 / qpc_freq := by
      rw [Int.le_ediv_iff_mul_le hfreq, kFullDampMs]
      omega
    rw [reach, min_eq_left hage, sub_self, mul_zero]

/-- From 5 Hz on, the first tick is projected ahead and a whole second is not. -/
theorem reach_falls {qpc_freq : ℤ} (hfast : 5 ≤ qpc_freq) :
    reach qpc_freq qpc_freq < reach qpc_freq 1 := by
  have hsecond : qpc_freq * 1000 / qpc_freq = 1000 := Int.mul_ediv_cancel_left _ (by omega)
  have hzero : kFullDampMs - min kFullDampMs 1000 = 0 := by decide
  have htick : 1 * 1000 / qpc_freq < 250 := by
    rw [Int.ediv_lt_iff_lt_mul (by omega)]
    omega
  rw [reach, reach, hsecond, hzero, kFullDampMs, min_eq_right htick.le]
  omega

/-- **The projection never moves back between two times exactly when the tracker is at rest or the
    reach does not fall between them; it never does so at all exactly when the tracker is at rest
    or the clock too slow to see the damping.** -/
theorem comesToRest_iff {history : PoseHistory} {last : PoseSample} (h : Coasting history last)
    {qpc_freq : ℤ} (hfreq : 0 < qpc_freq) :
    (∀ t₁ t₂, last.qpc_ns ≤ t₁ → t₁ ≤ t₂ →
      (NeverBack history qpc_freq t₁ t₂ ↔ last.pose.vecVelocity = 0 ∨
        reach qpc_freq (t₁ - last.qpc_ns) ≤ reach qpc_freq (t₂ - last.qpc_ns))) ∧
    ((∀ t₁ t₂, last.qpc_ns ≤ t₁ → t₁ ≤ t₂ → NeverBack history qpc_freq t₁ t₂) ↔
      last.pose.vecVelocity = 0 ∨ qpc_freq ≤ 4) := by
  have hpair : ∀ t₁ t₂, last.qpc_ns ≤ t₁ → t₁ ≤ t₂ →
      (NeverBack history qpc_freq t₁ t₂ ↔ last.pose.vecVelocity = 0 ∨
        reach qpc_freq (t₁ - last.qpc_ns) ≤ reach qpc_freq (t₂ - last.qpc_ns)) :=
    fun t₁ t₂ h₁ h₂ => neverBack_iff h hfreq h₁ (h₁.trans h₂)
  refine ⟨hpair, fun hall => ?_, ?_⟩
  · rcases le_or_gt qpc_freq 4 with hslow | hfast
    · exact .inr hslow
    · have hback := (hpair (last.qpc_ns + 1) (last.qpc_ns + qpc_freq) (by omega) (by omega)).1
        (hall _ _ (by omega) (by omega))
      rw [add_sub_cancel_left, add_sub_cancel_left] at hback
      exact hback.imp_right fun hle => absurd hle (not_le.2 (reach_falls hfast))
  · rintro (hzero | hslow) t₁ t₂ h₁ h₂
    · exact (hpair t₁ t₂ h₁ h₂).2 (.inl hzero)
    · refine (hpair t₁ t₂ h₁ h₂).2 (.inr ?_)
      rw [reach_of_slow hfreq hslow (by omega), reach_of_slow hfreq hslow (by omega)]

/-- A tracker at the origin that moves at `vx` along the first axis. -/
noncomputable def movingPose (vx : ℝ) : DriverPose_t :=
  { restingPose with vecVelocity := ![vx, 0, 0] }

/-- It is lost at time 0. -/
noncomputable def lostAtZero (vx : ℝ) : PoseHistory := PoseHistory.new.Push 0 (movingPose vx)

theorem lostAtZero_coasting (vx : ℝ) : Coasting (lostAtZero vx) ⟨0, movingPose vx, true⟩ :=
  ⟨PoseHistory.GetNewest_Push _ _ _, rfl, rfl⟩

/-- A tracker at rest stays; one that moves gets on for the first 125 ms. -/
theorem moving_comesToRest :
    (∀ t₁ t₂, 0 ≤ t₁ → t₁ ≤ t₂ → NeverBack (lostAtZero 0) 10000000 t₁ t₂) ∧
      NeverBack (lostAtZero 1) 10000000 500000 1250000 := by
  have hstill : (movingPose 0).vecVelocity = 0 := by
    funext i
    fin_cases i <;> rfl
  exact ⟨(comesToRest_iff (lostAtZero_coasting 0) (by decide)).2.2 (.inl hstill),
    ((comesToRest_iff (lostAtZero_coasting 1) (by decide)).1 500000 1250000
      (show (0 : ℤ) ≤ 500000 by decide) (by decide)).2 (.inr (by decide))⟩

/-- **A tracker lost at 1 m/s is projected 6.25 cm ahead after 125 ms, and back to where it was lost
    after 250 ms.** -/
theorem projection_returns :
    (∀ p ∈ Project (lostAtZero 1) 10000000 1250000, p.vecPosition 0 = 0.0625) ∧
      (∀ p ∈ Project (lostAtZero 1) 10000000 2500000, p.vecPosition 0 = 0) ∧
      ¬ NeverBack (lostAtZero 1) 10000000 1250000 2500000 := by
  have hreach : reach 10000000 1250000 = 156250000 ∧ reach 10000000 2500000 = 0 := by decide
  have hat : ∀ {t : ℤ}, 0 ≤ t → ∀ p ∈ Project (lostAtZero 1) 10000000 t,
      p.vecPosition 0 = reach 10000000 t / (250 * 10000000 : ℝ) := by
    intro t ht p hp
    obtain ⟨q, hq, hpos⟩ := @Project_position _ _ (lostAtZero_coasting 1) 10000000 t
      (by decide) ht
    obtain rfl : p = q := Option.some.inj (hp.symm.trans hq)
    have := hpos 0
    simpa [movingPose, restingPose, kFullDampMs] using this
  refine ⟨fun p hp => ?_, fun p hp => ?_, ?_⟩
  · rw [hat (by decide) p hp, hreach.1]
    norm_num
  · rw [hat (by decide) p hp, hreach.2]
    norm_num
  · rw [neverBack_iff (lostAtZero_coasting 1) (by decide) (by decide) (by decide)]
    rintro (hzero | hle)
    · have : (1 : ℝ) = 0 := congrFun hzero 0
      exact one_ne_zero this
    · exact absurd hle (by decide)

end DeadReckoner

end WKPairDriver.Phantom
