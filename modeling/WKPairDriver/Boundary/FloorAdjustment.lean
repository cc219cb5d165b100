import Mathlib
import WKPairDriver.Lib.Run

/-!
# The floor height: set, switched off and on, reset

Floor height is set by moving SteamVR's standing-zero pose along its own up axis.  The overlay keeps
the cumulative shift in `floorOffsetMetersY` and whether it is applied in `floorEnabled`; restoring
the chaperone snapshot rewrites the same pose.  Every write may fail.  Arithmetic is exact, over any
ordered field.

* `StandingZeroPose.shifted_shifted`, `shifted_injective` — shifts add up and are told apart.
* `Accounted` — the pose is the one before the first operation, shifted by what the overlay says.
* `Accounted.step_iff` — the operations after which this still holds.
* `floor_accounted_iff` — over whole runs.
-/

set_option autoImplicit false

namespace WKPairDriver.Boundary

open Lib

/-! ## The standing-zero pose -/

def upColumn : Fin 4 := ⟨1, by decide⟩
def translationColumn : Fin 4 := ⟨3, by decide⟩

/-- `HmdMatrix34_t` of a pose: its up axis is not zero. -/
structure StandingZeroPose (K : Type) [Zero K] where
  m : Fin 3 → Fin 4 → K
  up_ne : ∃ i, m i upColumn ≠ 0

instance {K : Type} [Zero K] [DecidableEq K] : DecidableEq (StandingZeroPose K) := fun p q =>
  decidable_of_iff (p.m = q.m) (by cases p; cases q; simp)

variable {K : Type} [Field K]

namespace StandingZeroPose

/-- The pose moved along its own up axis. -/
def shifted (zero : StandingZeroPose K) (deltaY : K) : StandingZeroPose K where
  m i j := if j = translationColumn then zero.m i j + zero.m i upColumn * deltaY else zero.m i j
  up_ne := by
    obtain ⟨i, hi⟩ := zero.up_ne
    exact ⟨i, by rwa [if_neg (by decide)]⟩

variable (zero : StandingZeroPose K)

@[simp] theorem shifted_zero : zero.shifted 0 = zero := by
  cases zero
  simp [shifted]

@[simp] theorem shifted_shifted (a b : K) : (zero.shifted a).shifted b = zero.shifted (a + b) := by
  simp only [shifted, mk.injEq]
  funext i j
  rw [if_neg (show upColumn ≠ translationColumn by decide)]
  split_ifs
  · ring
  · rfl

theorem shifted_injective : Function.Injective zero.shifted := by
  intro a b h
  obtain ⟨i, hi⟩ := zero.up_ne
  have hm : (zero.shifted a).m i translationColumn = (zero.shifted b).m i translationColumn := by
    rw [h]
  simp only [shifted, if_true] at hm
  exact mul_left_cancel₀ hi (add_left_cancel hm)

@[simp] theorem shifted_inj {a b : K} : zero.shifted a = zero.shifted b ↔ a = b :=
  zero.shifted_injective.eq_iff

@[simp] theorem shifted_eq_self {d : K} : zero.shifted d = zero ↔ d = 0 := by
  rw [← zero.shifted_inj (b := 0), shifted_zero]

@[simp] theorem self_eq_shifted {d : K} : zero = zero.shifted d ↔ d = 0 := by
  rw [eq_comm, shifted_eq_self]

end StandingZeroPose

/-! ## The operations -/

variable [LinearOrder K]

/-- How SteamVR answers: the setup interface is there, the pose can be read, the write commits. -/
structure Write where
  setup : Bool
  get : Bool
  commit : Bool

def Write.written (w : Write) : Bool := w.setup && w.get && w.commit

/-- Shifts below a micrometre are not worth a write. -/
def kNegligible : K := 1 / 1000000

def AdjustStandingZeroFloorY (zero : StandingZeroPose K) (deltaY : K) (w : Write) :
    StandingZeroPose K × Bool :=
  if |deltaY| < kNegligible then (zero, true)
  else if !w.setup then (zero, false)
  else if !w.get then (zero, false)
  else if w.commit then (zero.shifted deltaY, true)
  else (zero, false)

structure FloorState (K : Type) [Zero K] where
  standingZero : StandingZeroPose K
  floorOffsetMetersY : K
  floorEnabled : Bool
  boundaryEnabled : Bool
  priorChaperoneCaptured : Bool
  /-- The standing-zero pose in the snapshot, if it parses and has one. -/
  priorStandingZero : Option (StandingZeroPose K)

def hasFloorOffset (s : FloorState K) : Prop := |s.floorOffsetMetersY| > kNegligible

instance (s : FloorState K) : Decidable (hasFloorOffset s) := inferInstanceAs (Decidable (_ < _))

/-- `ApplyFloorFromStandingContactPose`: `none` is a height that is not finite. -/
def ApplyFloorFromStandingContactPose (s : FloorState K) (measuredStandingY : Option K) (w : Write) :
    FloorState K :=
  match measuredStandingY with
  | none => s
  | some y =>
    if y < -5 ∨ y > 5 then s
    else
      let r := AdjustStandingZeroFloorY s.standingZero y w
      if !r.2 then s
      else { s with
        standingZero := r.1
        floorOffsetMetersY := s.floorOffsetMetersY + y
        floorEnabled := true }

/-- The checkbox "Floor height applied": the result of the write is not looked at. -/
def toggleFloor (s : FloorState K) (w : Write) : FloorState K :=
  let floorOn := !s.floorEnabled
  let deltaY := if floorOn then s.floorOffsetMetersY else -s.floorOffsetMetersY
  { s with
    standingZero := (AdjustStandingZeroFloorY s.standingZero deltaY w).1
    floorEnabled := floorOn }

/-- The button "Reset floor": neither the flag nor the result of the write is looked at. -/
def resetFloor (s : FloorState K) (w : Write) : FloorState K :=
  { s with
    standingZero := (AdjustStandingZeroFloorY s.standingZero (-s.floorOffsetMetersY) w).1
    floorOffsetMetersY := 0
    floorEnabled := false }

/-- What `RestoreChaperoneFromSnapshot` does to the pose. -/
def restoredStandingZero (s : FloorState K) (w : Write) : StandingZeroPose K :=
  match s.priorStandingZero with
  | none => s.standingZero
  | some zero => if w.setup && w.commit then zero else s.standingZero

inductive FloorAction (K : Type) where
  | setFloor (measuredStandingY : Option K) (w : Write)
  | toggle (w : Write)
  | reset (w : Write)
  | enableBoundary
  | disableBoundary (w : Write)
  /-- The snapshot before the first push, with the pose if it could be read. -/
  | captureChaperone (hasStandingZero : Bool)

/-- The checkbox and the button of the floor are there only with an offset; a snapshot is taken
    once.  Pushing the boundary leaves the pose alone. -/
def floorStep (s : FloorState K) : FloorAction K → Option (FloorState K)
  | .setFloor y w => some (ApplyFloorFromStandingContactPose s y w)
  | .toggle w => if hasFloorOffset s then some (toggleFloor s w) else none
  | .reset w => if hasFloorOffset s then some (resetFloor s w) else none
  | .enableBoundary => some { s with boundaryEnabled := true }
  | .disableBoundary w =>
    some { s with
      boundaryEnabled := false
      standingZero :=
        if s.priorChaperoneCaptured then restoredStandingZero s w else s.standingZero }
  | .captureChaperone hasStandingZero =>
    if s.priorChaperoneCaptured then none
    else some { s with
      priorChaperoneCaptured := true
      priorStandingZero := if hasStandingZero then some s.standingZero else none }

/-- Before the first operation on the floor: a snapshot may be there from before. -/
def beforeFloor (zero : StandingZeroPose K) (boundaryEnabled priorChaperoneCaptured : Bool)
    (priorStandingZero : Option (StandingZeroPose K)) : FloorState K where
  standingZero := zero
  floorOffsetMetersY := 0
  floorEnabled := false
  boundaryEnabled := boundaryEnabled
  priorChaperoneCaptured := priorChaperoneCaptured
  priorStandingZero := priorStandingZero

/-! ## The account -/

/-- The shift the overlay says is applied. -/
def appliedShift (s : FloorState K) : K := if s.floorEnabled then s.floorOffsetMetersY else 0

def Accounted (zero : StandingZeroPose K) (s : FloorState K) : Prop :=
  s.standingZero = zero.shifted (appliedShift s)

instance (zero : StandingZeroPose K) : DecidablePred (Accounted zero) := fun s =>
  inferInstanceAs (Decidable (s.standingZero = _))

/-- The operations that keep the account, read off the state before them and SteamVR's answers:
    a floor is not set anew while it is switched off, a negligible height is not counted, a switch
    is written, a reset is written exactly if the floor is applied, and a snapshot that is restored
    holds the pose there is. -/
def KeepsAccount (s : FloorState K) : FloorAction K → Prop
  | .setFloor y w => ∀ y' ∈ y, -5 ≤ y' → y' ≤ 5 →
      if |y'| < kNegligible then appliedShift s = s.floorOffsetMetersY + y'
      else w.written → s.floorEnabled ∨ s.floorOffsetMetersY = 0
  | .toggle w => w.written
  | .reset w => w.written ↔ s.floorEnabled
  | .enableBoundary => True
  | .disableBoundary w => s.priorChaperoneCaptured → w.setup → w.commit →
      ∀ zero ∈ s.priorStandingZero, zero = s.standingZero
  | .captureChaperone _ => True

instance (s : FloorState K) : DecidablePred (KeepsAccount s) := fun a => by
  cases a <;> simp only [KeepsAccount] <;> infer_instance

/-! ## What a write does -/

theorem AdjustStandingZeroFloorY_eq (zero : StandingZeroPose K) (d : K) (w : Write) :
    AdjustStandingZeroFloorY zero d w =
      if |d| < kNegligible then (zero, true)
      else if w.written then (zero.shifted d, true) else (zero, false) := by
  obtain ⟨setup, get, commit⟩ := w
  simp only [AdjustStandingZeroFloorY, Write.written]
  cases setup <;> cases get <;> cases commit <;> rfl

/-- A shift by the offset, where there is one. -/
theorem AdjustStandingZeroFloorY_offset {s : FloorState K} (h : hasFloorOffset s) (d : K)
    (hd : |d| = |s.floorOffsetMetersY|) (w : Write) :
    (AdjustStandingZeroFloorY s.standingZero d w).1 =
      if w.written then s.standingZero.shifted d else s.standingZero := by
  rw [AdjustStandingZeroFloorY_eq, if_neg (by rw [hd]; exact not_lt.2 (le_of_lt h))]
  split_ifs <;> rfl

variable [IsStrictOrderedRing K] {zero : StandingZeroPose K} {s : FloorState K}

theorem hasFloorOffset.ne_zero (h : hasFloorOffset s) : s.floorOffsetMetersY ≠ 0 := by
  intro h0
  have hpos : (0 : K) < kNegligible := by
    rw [kNegligible]
    positivity
  rw [hasFloorOffset, h0, abs_zero] at h
  exact lt_asymm hpos h

omit [LinearOrder K] [IsStrictOrderedRing K] in
/-- The pose stays where the account says after a height is set: the account then says the offset
    and the height. -/
theorem accounted_set_iff (hs : Accounted zero s) {d : K} {t : FloorState K}
    (hpose : t.standingZero = s.standingZero.shifted d) (henabled : t.floorEnabled = true) :
    Accounted zero t ↔ appliedShift s + d = t.floorOffsetMetersY := by
  rw [Accounted, hpose, hs, StandingZeroPose.shifted_shifted, StandingZeroPose.shifted_inj,
    appliedShift, appliedShift, henabled, if_pos rfl]

theorem accounted_setFloor_iff (hs : Accounted zero s) (y : Option K) (w : Write) :
    Accounted zero (ApplyFloorFromStandingContactPose s y w) ↔ KeepsAccount s (.setFloor y w) := by
  cases y with
  | none => simp [ApplyFloorFromStandingContactPose, KeepsAccount, hs]
  | some y =>
    simp only [ApplyFloorFromStandingContactPose, KeepsAccount, Option.mem_some_iff,
      forall_eq']
    by_cases hrange : y < -5 ∨ y > 5
    · rw [if_pos hrange]
      refine iff_of_true hs fun hlow hhigh => ?_
      rcases hrange with h | h
      · exact absurd hlow (not_le.2 h)
      · exact absurd hhigh (not_le.2 h)
    have hlow : -5 ≤ y := not_lt.1 (not_or.1 hrange).1
    have hhigh : y ≤ 5 := not_lt.1 (not_or.1 hrange).2
    rw [if_neg hrange, AdjustStandingZeroFloorY_eq]
    simp only [hlow, hhigh, forall_const]
    by_cases hsmall : |y| < kNegligible
    · simp only [if_pos hsmall, Bool.not_true, Bool.false_eq_true, if_false]
      rw [accounted_set_iff hs (d := 0) (by rw [StandingZeroPose.shifted_zero]) rfl, add_zero]
    · simp only [if_neg hsmall]
      cases hw : w.written with
      | false => simpa using hs
      | true =>
        simp only [if_true, Bool.not_true, Bool.false_eq_true, if_false, forall_const]
        rw [accounted_set_iff hs rfl rfl, add_left_inj, appliedShift]
        cases s.floorEnabled with
        | false => simp [eq_comm]
        | true => simp

theorem accounted_toggle_iff (h : hasFloorOffset s) (hs : Accounted zero s) (w : Write) :
    Accounted zero (toggleFloor s w) ↔ KeepsAccount s (.toggle w) := by
  have hne := h.ne_zero
  rw [Accounted] at hs
  cases he : s.floorEnabled with
  | false =>
    simp only [Accounted, toggleFloor, KeepsAccount, appliedShift, he, Bool.not_false, if_true,
      AdjustStandingZeroFloorY_offset h _ rfl]
    simp only [hs, appliedShift, he]
    cases w.written <;> simp [hne]
  | true =>
    simp only [Accounted, toggleFloor, KeepsAccount, appliedShift, he, Bool.not_true,
      Bool.false_eq_true, if_false, AdjustStandingZeroFloorY_offset h _ (abs_neg _)]
    simp only [hs, appliedShift, he]
    cases w.written <;> simp [hne]

theorem accounted_reset_iff (h : hasFloorOffset s) (hs : Accounted zero s) (w : Write) :
    Accounted zero (resetFloor s w) ↔ KeepsAccount s (.reset w) := by
  have hne := h.ne_zero
  rw [Accounted] at hs
  simp only [Accounted, resetFloor, KeepsAccount, AdjustStandingZeroFloorY_offset h _ (abs_neg _)]
  simp only [hs, appliedShift]
  cases w.written <;> cases s.floorEnabled <;> simp [hne]

/-- **The operations after which the account still holds** are those of `KeepsAccount`. -/
theorem Accounted.step_iff (hs : Accounted zero s) {a : FloorAction K} {t : FloorState K}
    (ht : floorStep s a = some t) : Accounted zero t ↔ KeepsAccount s a := by
  cases a with
  | setFloor y w =>
    cases ht
    exact accounted_setFloor_iff hs y w
  | toggle w =>
    simp only [floorStep] at ht
    split_ifs at ht with h
    cases ht
    exact accounted_toggle_iff h hs w
  | reset w =>
    simp only [floorStep] at ht
    split_ifs at ht with h
    cases ht
    exact accounted_reset_iff h hs w
  | enableBoundary =>
    cases ht
    exact iff_of_true hs trivial
  | disableBoundary w =>
    cases ht
    rw [Accounted] at hs
    show (if s.priorChaperoneCaptured then restoredStandingZero s w else s.standingZero) =
      zero.shifted (appliedShift s) ↔ _
    simp only [restoredStandingZero, KeepsAccount, ← hs]
    cases s.priorChaperoneCaptured <;> cases s.priorStandingZero <;> cases w.setup <;>
      cases w.commit <;> simp
  | captureChaperone b =>
    simp only [floorStep] at ht
    split_ifs at ht <;>
    · cases ht
      exact iff_of_true hs trivial

/-- **The floor over whole runs.**  The pose is what the overlay says in every state of a run exactly
    when every operation of the run keeps the account. -/
theorem floor_accounted_iff (zero : StandingZeroPose K)
    (boundaryEnabled priorChaperoneCaptured : Bool)
    (priorStandingZero : Option (StandingZeroPose K)) (as : List (FloorAction K)) :
    Always floorStep (Accounted zero)
        (beforeFloor zero boundaryEnabled priorChaperoneCaptured priorStandingZero) as ↔
      AllSteps floorStep KeepsAccount
        (beforeFloor zero boundaryEnabled priorChaperoneCaptured priorStandingZero) as := by
  apply Always.iff_of_inv (I := Accounted zero)
  · intro s a t hs hc ht
    exact (hs.step_iff ht).2 hc
  · exact fun _ hs => hs
  · intro s a t hs ht hp
    exact (hs.step_iff ht).1 hp
  · show zero = zero.shifted 0
    rw [StandingZeroPose.shifted_zero]

/-! ## Two runs -/

section

/-- SteamVR answers and commits. -/
def wrote : Write := ⟨true, true, true⟩

/-- The standing-zero pose of a level play space. -/
def levelPose : StandingZeroPose ℚ where
  m i j := if i.1 = j.1 then 1 else 0
  up_ne := ⟨⟨1, by decide⟩, by decide +kernel⟩

/-- Set, off, on, set again, reset. -/
theorem floor_accounted_used :
    Always floorStep (Accounted levelPose) (beforeFloor levelPose false false none)
      [.setFloor (some 1) wrote, .toggle wrote, .toggle wrote, .setFloor (some (-0.25)) wrote,
        .reset wrote] :=
  (floor_accounted_iff levelPose false false none _).2 (by decide +kernel)

/-- Set, off, reset: the floor is undone twice. -/
theorem floor_undoneTwice :
    ¬Always floorStep (Accounted levelPose) (beforeFloor levelPose false false none)
      [.setFloor (some 1) wrote, .toggle wrote, .reset wrote] := by
  decide +kernel

end

end WKPairDriver.Boundary
