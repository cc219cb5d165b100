import Mathlib

/-!
# The axes by name

The coordinates of a vector of space, and of one of the plane.
-/

set_option autoImplicit false

namespace Lib

def axisX : Fin 3 := Fin.castSucc (Fin.castSucc (Fin.last 0))

def axisY : Fin 3 := Fin.castSucc (Fin.last 1)

def axisZ : Fin 3 := Fin.last 2

@[simp] theorem axisX_eq : axisX = 0 := rfl

@[simp] theorem axisY_eq : axisY = 1 := rfl

@[simp] theorem axisZ_eq : axisZ = 2 := rfl

def planeX : Fin 2 := Fin.castSucc (Fin.last 0)

def planeY : Fin 2 := Fin.last 1

@[simp] theorem planeX_eq : planeX = 0 := rfl

@[simp] theorem planeY_eq : planeY = 1 := rfl

end Lib
