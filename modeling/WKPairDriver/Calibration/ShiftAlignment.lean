import Mathlib
import WKPairDriver.Lib.Axes
import WKPairDriver.Lib.Rotation
import WKPairDriver.Lib.RigidMotion
import WKPairDriver.Calibration.BaseStationDrift

/-!
# What a universe shift does to the alignment

A calibration takes the poses of its target system to its reference system.  When a system is
shifted, all poses of that system are reported shifted, and the correction has to take the new
reports to the new reports.

* `correct_aligns_iff` — in a group: the correction of one calibration.
* `decode_apply` — the stored centimetres and degrees stand for what the group has.
* `universeShift_aligned_iff` — when the corrected calibrations are aligned.
* `sameSystem_misaligned` — a calibration inside the shifted system.
-/

set_option autoImplicit false

namespace WKPairDriver.Calibration.Recovery

open Lib Quaternion

/-! ## In a group -/

section

variable {G : Type}

/-- A pose as it is reported behind a shift of its system. -/
def reported [Mul G] (D : G) (shifted : Bool) (pose : G) : G := if shifted then D * pose else pose

/-- The new calibration takes the target pose that is reported now to the reference pose that is. -/
def Aligns [Mul G] (D : G) (refShift targetShift : Bool) (old new T : G) : Prop :=
  new * reported D targetShift T = reported D refShift (old * T)

variable [Group G]

/-- The correction of a calibration. -/
def correct (D : G) (refShift targetShift : Bool) (cal : G) : G :=
  if refShift then applyDelta D cal true
  else if targetShift then applyDelta D cal false
  else cal

/-- **The correction aligns** unless both systems are the shifted one. -/
theorem correct_aligns_iff (D : G) (refShift targetShift : Bool) (cal T : G) :
    Aligns D refShift targetShift cal (correct D refShift targetShift cal) T ↔
      D = 1 ∨ refShift = false ∨ targetShift = false := by
  cases refShift with
  | false =>
    refine iff_of_true ?_ (Or.inr (Or.inl rfl))
    cases targetShift with
    | false => rfl
    | true =>
      show cal * D⁻¹ * (D * T) = cal * T
      rw [mul_assoc, inv_mul_cancel_left]
  | true =>
    cases targetShift with
    | false =>
      refine iff_of_true ?_ (Or.inr (Or.inr rfl))
      show D * cal * T = D * (cal * T)
      exact mul_assoc D cal T
    | true =>
      simp only [Bool.true_eq_false, or_false]
      show D * cal * (D * T) = D * (cal * T) ↔ D = 1
      rw [← mul_assoc D cal T, mul_right_inj, mul_eq_right]

/-- The correction of an additional calibration, which shares the reference of the primary one. -/
def correctExtra (D : G) (system reference : String) (extra : AdditionalCalibration G) :
    AdditionalCalibration G :=
  if extra.valid = false then extra
  else
    { extra with
      calibrated :=
        correct D (system == reference) (extra.targetTrackingSystem == system) extra.calibrated }

/-- The calibrations of a shift, entry by entry. -/
theorem ApplyUniverseShiftToCalibrations_eq (D : G) (system : String) (c : Calibrations G) :
    ApplyUniverseShiftToCalibrations D system c =
      { c with
        calibrated :=
          correct D (system == c.referenceTrackingSystem) (system == c.targetTrackingSystem)
            c.calibrated
        additionalCalibrations :=
          c.additionalCalibrations.map (correctExtra D system c.referenceTrackingSystem) } := by
  simp only [ApplyUniverseShiftToCalibrations, correct]
  congr 1
  refine List.map_congr_left fun extra _ => ?_
  simp only [correctExtra, correct]
  split_ifs <;> rfl

end

/-! ## Centimetres and degrees -/

noncomputable section

/-- The quaternion of `AngleAxisd` about an axis. -/
def angleAxisQuaternion (angle : ℝ) (axis : Fin 3) : ℍ[ℝ] where
  re := Real.cos (angle / 2.0)
  imI := if axis = axisX then Real.sin (angle / 2.0) else 0
  imJ := if axis = axisY then Real.sin (angle / 2.0) else 0
  imK := if axis = axisZ then Real.sin (angle / 2.0) else 0

theorem normSq_angleAxisQuaternion (angle : ℝ) (axis : Fin 3) :
    normSq (angleAxisQuaternion angle axis) = 1 := by
  rw [normSq_def']
  simp only [angleAxisQuaternion, axisX_eq, axisY_eq, axisZ_eq]
  fin_cases axis <;> simp

/-- The quaternion of three angles in radians, about z, y and x. -/
def eulerQuaternion (eulerRad : Fin 3 → ℝ) : ℍ[ℝ] :=
  angleAxisQuaternion (eulerRad axisX) axisZ * angleAxisQuaternion (eulerRad axisY) axisY *
    angleAxisQuaternion (eulerRad axisZ) axisX

theorem normSq_eulerQuaternion (eulerRad : Fin 3 → ℝ) : normSq (eulerQuaternion eulerRad) = 1 := by
  simp only [eulerQuaternion, map_mul, normSq_angleAxisQuaternion, mul_one]

/-- A calibration as it is stored. -/
structure StoredTransform where
  transCm : Fin 3 → ℝ
  rotDeg : Fin 3 → ℝ

namespace StoredTransform

variable (s : StoredTransform)

def eulerRad : Fin 3 → ℝ := fun i => s.rotDeg i * EIGEN_PI / 180.0

/-- The motion it stands for. -/
def motion : RigidMotion ℝ where
  rotation := eulerQuaternion s.eulerRad
  translation := fun i => s.transCm i * 0.01
  unit := normSq_eulerQuaternion s.eulerRad

def cal : Affine ℝ := s.motion.affine

variable (eulerAngles : Matrix (Fin 3) (Fin 3) ℝ → Fin 3 → ℝ)

/-- A transform as it is stored; `eulerAngles` is that of Eigen, about z, y and x. -/
def store (newCal : Affine ℝ) : StoredTransform where
  transCm i := newCal.translation i * 100.0
  rotDeg i := eulerAngles newCal.linear i * 180.0 / EIGEN_PI

/-- `applyDelta`. -/
def applyDelta (D : RigidMotion ℝ) (refSide : Bool) : StoredTransform :=
  store eulerAngles (if refSide then D.affine * s.cal else s.cal * D.affine⁻¹)

/-- The extraction of the angles is exact. -/
def ExactAt (newCal : Affine ℝ) : Prop :=
  toMatrix (eulerQuaternion (eulerAngles newCal.linear)) = newCal.linear

variable {eulerAngles}

theorem cal_store {newCal : Affine ℝ} (h : ExactAt eulerAngles newCal) :
    (store eulerAngles newCal).cal = newCal := by
  have hpi : (EIGEN_PI : ℝ) ≠ 0 := by
    rw [EIGEN_PI]
    norm_num
  apply Affine.ext
  · have hangles : (store eulerAngles newCal).eulerRad = eulerAngles newCal.linear := by
      funext i
      show eulerAngles newCal.linear i * 180.0 / EIGEN_PI * EIGEN_PI / 180.0 = _
      rw [div_mul_cancel₀ _ hpi, mul_div_assoc, div_self (by norm_num), mul_one]
    show toMatrix (eulerQuaternion (store eulerAngles newCal).eulerRad) = _
    rw [hangles]
    exact h
  · funext i
    show newCal.translation i * 100.0 * 0.01 = _
    norm_num
    ring

end StoredTransform

structure StoredExtra where
  valid : Bool
  targetTrackingSystem : String
  stored : StoredTransform

/-- The calibrations of the context, as they are stored. -/
structure StoredCalibrations where
  referenceTrackingSystem : String
  targetTrackingSystem : String
  stored : StoredTransform
  additionalCalibrations : List StoredExtra

namespace StoredCalibrations

variable (eulerAngles : Matrix (Fin 3) (Fin 3) ℝ → Fin 3 → ℝ) (D : RigidMotion ℝ)
  (system : String) (c : StoredCalibrations)

def ApplyUniverseShiftToCalibrations : StoredCalibrations :=
  let primaryRefShift := system == c.referenceTrackingSystem
  let primaryTargetShift := system == c.targetTrackingSystem
  { c with
    stored :=
      if primaryRefShift then c.stored.applyDelta eulerAngles D true
      else if primaryTargetShift then c.stored.applyDelta eulerAngles D false
      else c.stored
    additionalCalibrations := c.additionalCalibrations.map fun extra =>
      if extra.valid = false then extra
      else if primaryRefShift then
        { extra with stored := extra.stored.applyDelta eulerAngles D true }
      else if extra.targetTrackingSystem == system then
        { extra with stored := extra.stored.applyDelta eulerAngles D false }
      else extra }

/-- The motions that the calibrations stand for. -/
def decode : Calibrations (Affine ℝ)ˣ where
  referenceTrackingSystem := c.referenceTrackingSystem
  targetTrackingSystem := c.targetTrackingSystem
  calibrated := c.stored.motion.toUnits
  additionalCalibrations := c.additionalCalibrations.map fun extra =>
    ⟨extra.valid, extra.targetTrackingSystem, extra.stored.motion.toUnits⟩

/-- The stored transforms. -/
def transforms : List StoredTransform := c.stored :: c.additionalCalibrations.map (·.stored)

/-- The extraction of the angles is exact for what a shift makes of the calibrations. -/
def ExactFor : Prop :=
  ∀ s ∈ c.transforms, StoredTransform.ExactAt eulerAngles (D.affine * s.cal) ∧
    StoredTransform.ExactAt eulerAngles (s.cal * D.affine⁻¹)

variable {eulerAngles D c}

theorem applyDelta_toUnits (hexact : ExactFor eulerAngles D c) {s : StoredTransform}
    (hs : s ∈ c.transforms) (refSide : Bool) :
    (s.applyDelta eulerAngles D refSide).motion.toUnits =
      Recovery.applyDelta D.toUnits s.motion.toUnits refSide := by
  apply Units.ext
  cases refSide with
  | true => exact StoredTransform.cal_store (hexact s hs).1
  | false =>
    rw [Recovery.applyDelta, if_neg Bool.false_ne_true, Units.val_mul, RigidMotion.coe_inv_toUnits]
    exact StoredTransform.cal_store (hexact s hs).2

/-- The correction of one stored transform. -/
theorem correct_toUnits (hexact : ExactFor eulerAngles D c) {s : StoredTransform}
    (hs : s ∈ c.transforms) (refShift targetShift : Bool) :
    (if refShift then s.applyDelta eulerAngles D true
      else if targetShift then s.applyDelta eulerAngles D false else s).motion.toUnits =
      correct D.toUnits refShift targetShift s.motion.toUnits := by
  cases refShift with
  | true => exact applyDelta_toUnits hexact hs true
  | false =>
    cases targetShift with
    | true => exact applyDelta_toUnits hexact hs false
    | false => rfl

theorem mem_transforms {extra : StoredExtra} (h : extra ∈ c.additionalCalibrations) :
    extra.stored ∈ c.transforms :=
  List.mem_cons_of_mem _ (List.mem_map_of_mem h)

/-- **The stored correction** is that of the motions. -/
theorem decode_apply (hexact : ExactFor eulerAngles D c) :
    (c.ApplyUniverseShiftToCalibrations eulerAngles D system).decode =
      Recovery.ApplyUniverseShiftToCalibrations D.toUnits system c.decode := by
  rw [ApplyUniverseShiftToCalibrations_eq]
  refine (Calibrations.mk.injEq ..).mpr ⟨rfl, rfl, ?_, ?_⟩
  · exact correct_toUnits hexact List.mem_cons_self _ _
  · simp only [decode, ApplyUniverseShiftToCalibrations, List.map_map]
    refine List.map_congr_left fun extra hextra => ?_
    simp only [Function.comp_apply, correctExtra, ← correct_toUnits hexact (mem_transforms hextra)]
    split_ifs <;> rfl

end StoredCalibrations

/-! ## Aligned calibrations -/

/-- A shift of the system keeps the primary calibration and the valid additional ones aligned. -/
structure KeepsAlignment (D : RigidMotion ℝ) (system : String) (c c' : StoredCalibrations) :
    Prop where
  primary : ∀ T : RigidMotion ℝ, Aligns D.affine (system == c.referenceTrackingSystem)
    (system == c.targetTrackingSystem) c.stored.cal c'.stored.cal T.affine
  additional : List.Forall₂ (fun extra extra' => extra.valid = true → ∀ T : RigidMotion ℝ,
    Aligns D.affine (system == c.referenceTrackingSystem) (extra.targetTrackingSystem == system)
      extra.stored.cal extra'.stored.cal T.affine)
    c.additionalCalibrations c'.additionalCalibrations

/-- The system is the target of the primary calibration or of a valid additional one. -/
def StoredCalibrations.targets (c : StoredCalibrations) (system : String) : Prop :=
  system = c.targetTrackingSystem ∨
    ∃ extra ∈ c.additionalCalibrations, extra.valid = true ∧ extra.targetTrackingSystem = system

theorem aligns_toUnits {D : RigidMotion ℝ} {refShift targetShift : Bool} (old new : (Affine ℝ)ˣ)
    {T : RigidMotion ℝ} :
    Aligns D.affine refShift targetShift (old : Affine ℝ) new T.affine ↔
      Aligns D.toUnits refShift targetShift old new T.toUnits := by
  have hreported : ∀ (shifted : Bool) (pose : (Affine ℝ)ˣ),
      (reported D.toUnits shifted pose : (Affine ℝ)ˣ) =
        reported D.affine shifted (pose : Affine ℝ) := by
    intro shifted pose
    cases shifted <;> rfl
  rw [Aligns, Aligns, Units.ext_iff, Units.val_mul, hreported, hreported, Units.val_mul]
  rfl

/-- A transform that is corrected is aligned, unless both systems are the shifted one. -/
theorem stored_aligns_iff {D : RigidMotion ℝ} {refShift targetShift : Bool}
    {s s' : StoredTransform}
    (hcorrect : s'.motion.toUnits = correct D.toUnits refShift targetShift s.motion.toUnits)
    (T : RigidMotion ℝ) :
    Aligns D.affine refShift targetShift s.cal s'.cal T.affine ↔
      D.affine = 1 ∨ refShift = false ∨ targetShift = false := by
  rw [← RigidMotion.toUnits_eq_one_iff, ← correct_aligns_iff D.toUnits refShift targetShift
    s.motion.toUnits T.toUnits, ← hcorrect]
  exact aligns_toUnits s.motion.toUnits s'.motion.toUnits

section

variable {eulerAngles : Matrix (Fin 3) (Fin 3) ℝ → Fin 3 → ℝ} {D : RigidMotion ℝ}
  {system : String} {c : StoredCalibrations}

open StoredCalibrations

theorem primary_aligns_iff (hexact : c.ExactFor eulerAngles D) (T : RigidMotion ℝ) :
    Aligns D.affine (system == c.referenceTrackingSystem) (system == c.targetTrackingSystem)
        c.stored.cal (c.ApplyUniverseShiftToCalibrations eulerAngles D system).stored.cal T.affine ↔
      D.affine = 1 ∨ system ≠ c.referenceTrackingSystem ∨ system ≠ c.targetTrackingSystem := by
  have hcorrect : (c.ApplyUniverseShiftToCalibrations eulerAngles D system).stored.motion.toUnits =
      correct D.toUnits (system == c.referenceTrackingSystem) (system == c.targetTrackingSystem)
        c.stored.motion.toUnits :=
    correct_toUnits hexact List.mem_cons_self _ _
  rw [stored_aligns_iff hcorrect T]
  simp only [beq_eq_false_iff_ne, ne_eq]

/-- What a shift makes of an additional calibration. -/
def shiftExtra (eulerAngles : Matrix (Fin 3) (Fin 3) ℝ → Fin 3 → ℝ) (D : RigidMotion ℝ)
    (system reference : String) (extra : StoredExtra) : StoredExtra :=
  if extra.valid = false then extra
  else if system == reference then
    { extra with stored := extra.stored.applyDelta eulerAngles D true }
  else if extra.targetTrackingSystem == system then
    { extra with stored := extra.stored.applyDelta eulerAngles D false }
  else extra

theorem extra_aligns_iff (hexact : c.ExactFor eulerAngles D) {extra : StoredExtra}
    (hextra : extra ∈ c.additionalCalibrations) (hvalid : extra.valid = true)
    (T : RigidMotion ℝ) :
    Aligns D.affine (system == c.referenceTrackingSystem) (extra.targetTrackingSystem == system)
        extra.stored.cal
        (shiftExtra eulerAngles D system c.referenceTrackingSystem extra).stored.cal T.affine ↔
      D.affine = 1 ∨ system ≠ c.referenceTrackingSystem ∨ extra.targetTrackingSystem ≠ system := by
  have hcorrect : (shiftExtra eulerAngles D system c.referenceTrackingSystem
      extra).stored.motion.toUnits = correct D.toUnits (system == c.referenceTrackingSystem)
        (extra.targetTrackingSystem == system) extra.stored.motion.toUnits := by
    rw [← correct_toUnits hexact (mem_transforms hextra), shiftExtra, if_neg (by simp [hvalid])]
    split_ifs <;> rfl
  rw [stored_aligns_iff hcorrect T]
  simp only [beq_eq_false_iff_ne, ne_eq]

theorem additional_eq :
    (c.ApplyUniverseShiftToCalibrations eulerAngles D system).additionalCalibrations =
      c.additionalCalibrations.map (shiftExtra eulerAngles D system c.referenceTrackingSystem) :=
  rfl

end

/-- **A universe shift** keeps all calibrations aligned exactly when it is none, or the reference
    system is not the shifted one, or no calibration has its target in it. -/
theorem universeShift_aligned_iff (eulerAngles : Matrix (Fin 3) (Fin 3) ℝ → Fin 3 → ℝ)
    (D : RigidMotion ℝ) (system : String) (c : StoredCalibrations)
    (hexact : c.ExactFor eulerAngles D) :
    KeepsAlignment D system c (c.ApplyUniverseShiftToCalibrations eulerAngles D system) ↔
      D.affine = 1 ∨ system ≠ c.referenceTrackingSystem ∨ ¬c.targets system := by
  constructor
  · rintro ⟨hprimary, hadditional⟩
    by_cases htargets : c.targets system
    · have hone : D.affine = 1 ∨ system ≠ c.referenceTrackingSystem := by
        rcases htargets with htarget | ⟨extra, hextra, hvalid, htarget⟩
        · rcases (primary_aligns_iff hexact 1).1 (hprimary 1) with h | h | h
          · exact Or.inl h
          · exact Or.inr h
          · exact absurd htarget h
        · rw [additional_eq, List.forall₂_map_right_iff, List.forall₂_same] at hadditional
          rcases (extra_aligns_iff hexact hextra hvalid 1).1 (hadditional extra hextra hvalid 1)
            with h | h | h
          · exact Or.inl h
          · exact Or.inr h
          · exact absurd htarget h
      exact hone.imp_right Or.inl
    · exact Or.inr (Or.inr htargets)
  · intro h
    refine ⟨fun T => (primary_aligns_iff hexact T).2 ?_, ?_⟩
    · exact h.imp_right (Or.imp_right fun hno htarget => hno (Or.inl htarget))
    · rw [additional_eq, List.forall₂_map_right_iff, List.forall₂_same]
      intro extra hextra hvalid T
      refine (extra_aligns_iff hexact hextra hvalid T).2 ?_
      exact h.imp_right (Or.imp_right fun hno htarget =>
        hno (Or.inr ⟨extra, hextra, hvalid, htarget⟩))

/-! ## A calibration inside the shifted system -/

theorem normSq_identity : normSq (1 : ℍ[ℝ]) = 1 := map_one _

/-- A metre along the first axis. -/
def metre : RigidMotion ℝ := ⟨1, fun i => if i = axisX then 1 else 0, normSq_identity⟩

theorem metre_ne_one : metre.affine ≠ 1 := by
  intro h
  have htranslation := congrFun (congrArg Affine.translation h) axisX
  simp [metre, RigidMotion.affine] at htranslation

theorem linear_metre : metre.affine.linear = 1 := toMatrix_one

theorem eulerQuaternion_zero : eulerQuaternion 0 = 1 := by
  have hone : ∀ axis, angleAxisQuaternion 0 axis = 1 := by
    intro axis
    ext <;> simp [angleAxisQuaternion]
  simp only [eulerQuaternion, Pi.zero_apply, hone, mul_one]

/-- A calibration that is the identity. -/
def identityCalibration (reference target : String) : StoredCalibrations :=
  ⟨reference, target, ⟨0, 0⟩, []⟩

theorem linear_identity : (StoredTransform.cal ⟨0, 0⟩).linear = 1 := by
  have hangles : (StoredTransform.eulerRad ⟨0, 0⟩) = 0 := by
    funext i
    simp [StoredTransform.eulerRad]
  show toMatrix (eulerQuaternion (StoredTransform.eulerRad ⟨0, 0⟩)) = 1
  rw [hangles, eulerQuaternion_zero, toMatrix_one]

/-- A tracker of its own target system, and one of the system that has become the reference. -/
def becameReference : StoredCalibrations :=
  ⟨"lighthouse", "oculus", ⟨0, 0⟩, [⟨true, "lighthouse", ⟨0, 0⟩⟩]⟩

/-- All its matrices are the identity, and have no angles. -/
theorem exact_of_identity {c : StoredCalibrations} (h : ∀ s ∈ c.transforms, s = ⟨0, 0⟩) :
    c.ExactFor (fun _ => 0) metre := by
  intro s hs
  obtain rfl : s = ⟨0, 0⟩ := h s hs
  simp only [StoredTransform.ExactAt, eulerQuaternion_zero, toMatrix_one, Affine.linear_mul,
    Affine.linear_inv, linear_metre, linear_identity, inv_one, mul_one, and_self]

theorem identityCalibration_exact (reference target : String) :
    (identityCalibration reference target).ExactFor (fun _ => 0) metre :=
  exact_of_identity fun _ hs => List.mem_singleton.1 hs

/-- A headset's system shifted a metre, with its target in another. -/
theorem twoSystems_aligned :
    KeepsAlignment metre "lighthouse" (identityCalibration "lighthouse" "oculus")
      ((identityCalibration "lighthouse" "oculus").ApplyUniverseShiftToCalibrations (fun _ => 0)
        metre "lighthouse") := by
  refine (universeShift_aligned_iff _ metre "lighthouse" (identityCalibration "lighthouse" "oculus")
    (identityCalibration_exact _ _)).2 (Or.inr (Or.inr ?_))
  rintro (htarget | ⟨extra, hextra, -⟩)
  · exact absurd htarget (by decide)
  · exact List.not_mem_nil hextra

/-- **A tracker in the headset's own system**: a shift of a metre is put on its calibration, on the
    primary one as on an additional one. -/
theorem sameSystem_misaligned :
    ((identityCalibration "lighthouse" "lighthouse").ExactFor (fun _ => 0) metre ∧
      ¬KeepsAlignment metre "lighthouse" (identityCalibration "lighthouse" "lighthouse")
        ((identityCalibration "lighthouse" "lighthouse").ApplyUniverseShiftToCalibrations
          (fun _ => 0) metre "lighthouse")) ∧
    becameReference.ExactFor (fun _ => 0) metre ∧
      ¬KeepsAlignment metre "lighthouse" becameReference
        (becameReference.ApplyUniverseShiftToCalibrations (fun _ => 0) metre "lighthouse") := by
  have hexact := identityCalibration_exact "lighthouse" "lighthouse"
  have hadditional : becameReference.ExactFor (fun _ => 0) metre := exact_of_identity fun s hs => by
    rcases List.mem_cons.1 hs with rfl | hs
    · rfl
    · exact List.mem_singleton.1 hs
  refine ⟨⟨hexact, fun hkeeps => ?_⟩, hadditional, fun hkeeps => ?_⟩
  · rcases (primary_aligns_iff hexact 1).1 (hkeeps.primary 1) with hone | hreference | htarget
    · exact metre_ne_one hone
    · exact hreference rfl
    · exact htarget rfl
  · have hextra := hkeeps.additional
    rw [additional_eq, List.forall₂_map_right_iff, List.forall₂_same] at hextra
    have hmem : (⟨true, "lighthouse", ⟨0, 0⟩⟩ : StoredExtra) ∈
        becameReference.additionalCalibrations := List.mem_singleton_self _
    rcases (extra_aligns_iff hadditional hmem rfl 1).1 (hextra _ hmem rfl 1)
      with hone | hreference | htarget
    · exact metre_ne_one hone
    · exact hreference rfl
    · exact htarget rfl

end

end WKPairDriver.Calibration.Recovery
