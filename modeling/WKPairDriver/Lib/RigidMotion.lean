import Mathlib
import WKPairDriver.Lib.Rotation

/-!
# Affine maps and rigid motions of space

An affine map is a matrix and a translation; a rigid motion is given by a unit quaternion and a
translation, and is an affine map whose matrix is that of the quaternion.

* `Affine` — affine maps as a monoid, with the inverse the matrix has; `apply_mul`.
* `RigidMotion` — rigid motions, their product and inverse; `RigidMotion.affine_mul`,
  `RigidMotion.affine_inv_mul`.
* `RigidMotion.affine_mul_inv_eq_iff`, `RigidMotion.affine_eq_one_iff` — a factor left out goes
  unnoticed exactly when it is the identity, up to the sign of its quaternion.
-/

set_option autoImplicit false

namespace Lib

open Quaternion Matrix

universe u
variable {R : Type u} [CommRing R]

/-! ## Affine maps -/

@[ext] structure Affine (R : Type u) where
  linear : Matrix (Fin 3) (Fin 3) R
  translation : Fin 3 → R

namespace Affine

def apply (a : Affine R) (v : Fin 3 → R) : Fin 3 → R := a.linear *ᵥ v + a.translation

instance : One (Affine R) := ⟨⟨1, 0⟩⟩

instance : Mul (Affine R) :=
  ⟨fun a b => ⟨a.linear * b.linear, a.linear *ᵥ b.translation + a.translation⟩⟩

noncomputable instance : Inv (Affine R) :=
  ⟨fun a => ⟨a.linear⁻¹, -(a.linear⁻¹ *ᵥ a.translation)⟩⟩

@[simp] theorem linear_one : (1 : Affine R).linear = 1 := rfl

@[simp] theorem translation_one : (1 : Affine R).translation = 0 := rfl

@[simp] theorem linear_mul (a b : Affine R) : (a * b).linear = a.linear * b.linear := rfl

@[simp] theorem translation_mul (a b : Affine R) :
    (a * b).translation = a.linear *ᵥ b.translation + a.translation := rfl

theorem linear_inv (a : Affine R) : (a⁻¹).linear = a.linear⁻¹ := rfl

theorem translation_inv (a : Affine R) : (a⁻¹).translation = -(a.linear⁻¹ *ᵥ a.translation) := rfl

@[simp] theorem apply_one (v : Fin 3 → R) : (1 : Affine R).apply v = v := by
  simp [apply]

@[simp] theorem apply_mul (a b : Affine R) (v : Fin 3 → R) :
    (a * b).apply v = a.apply (b.apply v) := by
  simp only [apply, linear_mul, translation_mul, ← Matrix.mulVec_mulVec, Matrix.mulVec_add,
    add_assoc]

/-- An affine map is what it does to points. -/
theorem ext_apply {a b : Affine R} (h : ∀ v, a.apply v = b.apply v) : a = b := by
  have htranslation : a.translation = b.translation := by
    simpa [apply] using h 0
  have hlinear : ∀ v, a.linear *ᵥ v = b.linear *ᵥ v := by
    intro v
    have := h v
    rwa [apply, apply, htranslation, add_left_inj] at this
  exact Affine.ext (Matrix.ext_of_mulVec_single fun i => hlinear _) htranslation

theorem mul_assoc' (a b c : Affine R) : a * b * c = a * (b * c) :=
  ext_apply fun v => by simp only [apply_mul]

instance : Monoid (Affine R) where
  mul_assoc := mul_assoc'
  one_mul a := ext_apply fun v => by rw [apply_mul, apply_one]
  mul_one a := ext_apply fun v => by rw [apply_mul, apply_one]

theorem inv_mul_self {a : Affine R} (h : IsUnit a.linear.det) : a⁻¹ * a = 1 := by
  apply Affine.ext
  · exact Matrix.nonsing_inv_mul _ h
  · simp only [translation_mul, linear_inv, translation_inv, translation_one, add_neg_cancel]

end Affine

/-! ## Rigid motions -/

structure RigidMotion (R : Type u) [CommRing R] where
  rotation : ℍ[R]
  translation : Fin 3 → R
  unit : normSq rotation = 1

namespace RigidMotion

def affine (m : RigidMotion R) : Affine R := ⟨toMatrix m.rotation, m.translation⟩

instance : One (RigidMotion R) := ⟨⟨1, 0, map_one _⟩⟩

instance : Mul (RigidMotion R) :=
  ⟨fun m n => ⟨m.rotation * n.rotation, m.translation + rotate m.rotation n.translation,
    by rw [map_mul, m.unit, n.unit, one_mul]⟩⟩

instance : Inv (RigidMotion R) :=
  ⟨fun m => ⟨star m.rotation, -rotate (star m.rotation) m.translation,
    by rw [normSq_star, m.unit]⟩⟩

theorem apply_affine (m : RigidMotion R) (v : Fin 3 → R) :
    m.affine.apply v = motion m.rotation m.translation v := by
  rw [affine, Affine.apply, toMatrix_mulVec, motion, add_comm]

@[simp] theorem affine_one : (1 : RigidMotion R).affine = 1 :=
  Affine.ext toMatrix_one rfl

@[simp] theorem affine_mul (m n : RigidMotion R) : (m * n).affine = m.affine * n.affine := by
  apply Affine.ext
  · exact toMatrix_mul m.unit n.unit
  · show m.translation + rotate m.rotation n.translation = _
    rw [Affine.translation_mul, add_comm, affine, toMatrix_mulVec]
    rfl

theorem isUnit_det (m : RigidMotion R) : IsUnit m.affine.linear.det := by
  rw [affine, det_toMatrix m.unit]
  exact isUnit_one

@[simp] theorem affine_inv_mul (m : RigidMotion R) : m.affine⁻¹ * m.affine = 1 :=
  Affine.inv_mul_self m.isUnit_det

theorem affine_inv_mul_cancel (m : RigidMotion R) (a : Affine R) :
    m.affine⁻¹ * (m.affine * a) = a := by
  rw [← mul_assoc, affine_inv_mul, one_mul]

theorem mul_inv (m : RigidMotion R) : m.affine * (m⁻¹).affine = 1 := by
  have hstar : normSq (star m.rotation) = 1 := m⁻¹.unit
  have hone : m.rotation * star m.rotation = 1 := by rw [self_mul_star, m.unit, coe_one]
  have hneg : toMatrix m.rotation *ᵥ -rotate (star m.rotation) m.translation = -m.translation := by
    rw [Matrix.mulVec_neg, toMatrix_mulVec, rotate_rotate m.unit hstar, hone, rotate_one]
  apply Affine.ext
  · show toMatrix m.rotation * toMatrix (star m.rotation) = 1
    rw [← toMatrix_mul m.unit hstar, hone, toMatrix_one]
  · show toMatrix m.rotation *ᵥ -rotate (star m.rotation) m.translation + m.translation = 0
    rw [hneg, neg_add_cancel]

/-- The inverse of the matrix is that of the motion. -/
theorem affine_inv (m : RigidMotion R) : (m⁻¹).affine = m.affine⁻¹ := by
  calc (m⁻¹).affine = m.affine⁻¹ * (m.affine * (m⁻¹).affine) :=
        (m.affine_inv_mul_cancel _).symm
    _ = m.affine⁻¹ := by rw [mul_inv, mul_one]

theorem inv_affine_mul (m : RigidMotion R) : (m⁻¹).affine * m.affine = 1 := by
  rw [affine_inv]
  exact m.affine_inv_mul

/-- A motion as an invertible affine map. -/
def toUnits (m : RigidMotion R) : (Affine R)ˣ :=
  ⟨m.affine, (m⁻¹).affine, m.mul_inv, m.inv_affine_mul⟩

@[simp] theorem coe_toUnits (m : RigidMotion R) : (m.toUnits : Affine R) = m.affine := rfl

@[simp] theorem coe_inv_toUnits (m : RigidMotion R) :
    ((m.toUnits⁻¹ : (Affine R)ˣ) : Affine R) = m.affine⁻¹ := m.affine_inv

@[simp] theorem toUnits_eq_one_iff (m : RigidMotion R) : m.toUnits = 1 ↔ m.affine = 1 := Units.ext_iff

/-- Two motions differ by the factor that is left out. -/
theorem affine_mul_inv_eq_iff (m d : RigidMotion R) :
    (m * d⁻¹).affine = m.affine ↔ d.affine = 1 := by
  rw [affine_mul, affine_inv]
  constructor
  · intro h
    have hone : d.affine⁻¹ = 1 := by
      rw [← m.affine_inv_mul_cancel d.affine⁻¹, h, affine_inv_mul]
    calc d.affine = d.affine⁻¹ * d.affine := by rw [hone, one_mul]
      _ = 1 := d.affine_inv_mul
  · intro h
    have hone := d.affine_inv_mul
    rw [h, mul_one] at hone
    rw [h, hone, mul_one]

variable {K : Type u} [Field K] [LinearOrder K] [IsStrictOrderedRing K]

/-- The identity, up to the sign of the quaternion. -/
theorem affine_eq_one_iff (m : RigidMotion K) :
    m.affine = 1 ↔ (m.rotation = 1 ∨ m.rotation = -1) ∧ m.translation = 0 := by
  have hone := toMatrix_eq_iff m.unit (map_one normSq)
  rw [toMatrix_one] at hone
  rw [Affine.ext_iff, affine, Affine.linear_one, Affine.translation_one, hone]

end RigidMotion

end Lib
