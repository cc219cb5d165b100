import Mathlib
import WKPairDriver.Lib.Kabsch
import WKPairDriver.Lib.Rotation

/-!
# The rotation solve: `CalibrateRotation` and `DetectOutliers`

The rotation between the two tracking systems is solved from the axes about which the reference and
the target turn between samples. `DetectOutliers` solves it roughly in space and compares every
sample's extrinsic to their mean; `CalibrateRotation` solves the yaw.

* `DeltaRotationSamples` — the two axes of a pair of samples.
* `DetectOutliers` — which samples agree with the mean extrinsic.
* `CalibrateRotation` — the yaw; Eigen is a parameter of both.

Over the reals.
-/

set_option autoImplicit false

namespace WKPairDriver.Calibration.RotationSolve

open Lib Lib.Kabsch Quaternion Matrix

noncomputable section

/-! ## Samples -/

structure Pose where
  rot : Matrix (Fin 3) (Fin 3) ℝ
  trans : Fin 3 → ℝ

/-- The fields of a sample that the solve and the jitter read. -/
structure Sample where
  ref : Pose
  target : Pose
  valid : Bool

structure DSample where
  valid : Bool
  ref : Fin 3 → ℝ
  target : Fin 3 → ℝ

def AxisFromRotationMatrix3 (rot : Matrix (Fin 3) (Fin 3) ℝ) : Fin 3 → ℝ :=
  ![rot axisZ axisY - rot axisY axisZ, rot axisX axisZ - rot axisZ axisX,
    rot axisY axisX - rot axisX axisY]

def AngleFromRotationMatrix3 (rot : Matrix (Fin 3) (Fin 3) ℝ) : ℝ :=
  let c := (rot axisX axisX + rot axisY axisY + rot axisZ axisZ - 1.0) * 0.5
  Real.arccos (min 1.0 (max (-1.0) c))

/-- `norm()` -/
def norm {n : ℕ} (v : Fin n → ℝ) : ℝ := √(v ⬝ᵥ v)

def DeltaRotationSamples (s1 s2 : Sample) : DSample :=
  let dref := s1.ref.rot * s2.ref.rotᵀ
  let dtarget := s1.target.rot * s2.target.rotᵀ
  let ref := AxisFromRotationMatrix3 dref
  let target := AxisFromRotationMatrix3 dtarget
  let refA := AngleFromRotationMatrix3 dref
  let targetA := AngleFromRotationMatrix3 dtarget
  if refA > 0.4 ∧ targetA > 0.4 ∧ norm ref > 0.01 ∧ norm target > 0.01 then
    ⟨true, (norm ref)⁻¹ • ref, (norm target)⁻¹ • target⟩
  else ⟨false, ref, target⟩

/-- The delta of two samples of the buffer, when it is valid. -/
def validDelta (samples : List Sample) (i j : ℕ) : Option DSample := do
  let s1 ← samples[i]?
  let s2 ← samples[j]?
  let delta := DeltaRotationSamples s1 s2
  if delta.valid then some delta else none

/-! ## Eigen -/

structure Svd (n : ℕ) where
  matrixU : Matrix (Fin n) (Fin n) ℝ
  matrixV : Matrix (Fin n) (Fin n) ℝ

/-- What the solve uses of Eigen. -/
structure Eigen where
  /-- `BDCSVD` -/
  bdcSvd : Matrix (Fin 3) (Fin 3) ℝ → Svd 3
  /-- `JacobiSVD` -/
  jacobiSvd : Matrix (Fin 2) (Fin 2) ℝ → Svd 2
  /-- `Quaterniond(R)` -/
  quaternion : Matrix (Fin 3) (Fin 3) ℝ → ℍ[ℝ]
  /-- `bdcSvd().solve()` of the system with these rows and right-hand sides -/
  solve : List ((Fin 4 → ℝ) × ℝ) → Fin 4 → ℝ

variable (eigen : Eigen)

/-! ## Kabsch -/

def centred {n : ℕ} (points : List (Fin n → ℝ)) : List (Fin n → ℝ) :=
  let centroid := (points.length : ℝ)⁻¹ • points.sum
  points.map (· - centroid)

/-- The centred reference points, each with its centred target point. -/
def centredPairs {n : ℕ} (points : List ((Fin n → ℝ) × (Fin n → ℝ))) :
    List ((Fin n → ℝ) × (Fin n → ℝ)) :=
  (centred (points.map Prod.fst)).zip (centred (points.map Prod.snd))

/-- `refPoints.transpose() * targetPoints` -/
def crossCV {n : ℕ} (points : List ((Fin n → ℝ) × (Fin n → ℝ))) : Matrix (Fin n) (Fin n) ℝ :=
  ((centredPairs points).map fun p => vecMulVec p.1 p.2).sum

/-! ## The outliers -/

/-- The values of `for (i = 0; i < bound; i += step)`. -/
def steps (step bound : ℕ) : List ℕ := (List.range bound).filter fun i => i % step == 0

def roughDeltas (samples : List Sample) : List DSample :=
  (steps 5 samples.length).flatMap fun i => (steps 5 i).filterMap fun j => validDelta samples i j

/-- The rough rotation between the two systems. -/
def roughRotation (deltas : List DSample) : Matrix (Fin 3) (Fin 3) ℝ :=
  let svd := eigen.bdcSvd (crossCV (deltas.map fun d => (d.ref, d.target)))
  let i : Matrix (Fin 3) (Fin 3) ℝ :=
    if (svd.matrixU * svd.matrixVᵀ).det < 0 then diagonal ![1, 1, -1] else 1
  (svd.matrixV * i * svd.matrixUᵀ)ᵀ

/-- `rotExtTmp` -/
def extrinsic (rot : Matrix (Fin 3) (Fin 3) ℝ) (sample : Sample) : Matrix (Fin 3) (Fin 3) ℝ :=
  sample.ref.rotᵀ * rot * sample.target.rot

/-- The coefficients w, x, y and z. -/
def coords (q : ℍ[ℝ]) : Fin 4 → ℝ := equivTuple ℝ q

/-- The block of four rows with an identity matrix. -/
def identityRows (q : ℍ[ℝ]) : List ((Fin 4 → ℝ) × ℝ) :=
  (List.finRange 4).map fun k => (Pi.single k 1, coords q k)

/-- `quatExt` -/
def meanExtrinsic (rot : Matrix (Fin 3) (Fin 3) ℝ) (samples : List Sample) : ℍ[ℝ] :=
  let rows := samples.flatMap fun sample =>
    identityRows (normalized (eigen.quaternion (extrinsic rot sample)))
  normalized ((equivTuple ℝ).symm (eigen.solve rows))

def DetectOutliers (samples : List Sample) : List Bool :=
  let deltas := roughDeltas samples
  if deltas.isEmpty then samples.map fun _ => true
  else
    let rot := roughRotation eigen deltas
    let quatExt := meanExtrinsic eigen rot samples
    samples.map fun sample =>
      let cosHalfAngle := coords (eigen.quaternion (extrinsic rot sample)) ⬝ᵥ coords quatExt
      decide (|cosHalfAngle| ≥ 0.99)

/-! ## The yaw -/

/-- The deltas `CalibrateRotation` collects. -/
def rotationDeltas (ignoreOutliers : Bool) (samples : List Sample) : List DSample :=
  let valids := DetectOutliers eigen samples
  (List.range samples.length).flatMap fun i => (List.range i).filterMap fun j =>
    if ignoreOutliers && (!valids.getD i true || !valids.getD j true) then none
    else validDelta samples i j

/-- The horizontal parts of the axes. -/
def horizontal (deltas : List DSample) : List ((Fin 2 → ℝ) × (Fin 2 → ℝ)) :=
  deltas.map fun d => (![d.ref axisX, d.ref axisZ], ![d.target axisX, d.target axisZ])

/-- The Euler angles, in degrees. -/
def CalibrateRotation (ignoreOutliers : Bool) (samples : List Sample) : Fin 3 → ℝ :=
  let deltas := rotationDeltas eigen ignoreOutliers samples
  if deltas.isEmpty then 0
  else
    let svd := eigen.jacobiSvd (crossCV (horizontal deltas))
    let i : Matrix (Fin 2) (Fin 2) ℝ := 1
    let rot := svd.matrixV * i * svd.matrixUᵀ
    let yaw := angleOf rot
    ![0, yaw * 180.0 / Real.pi, 0]

end

end WKPairDriver.Calibration.RotationSolve
