import Mathlib
import WKPairDriver.Calibration.AutoLock
import WKPairDriver.Lib.Run

/-!
# AUTO Lock over whole runs

Ticks of `CalibrationTick` in any order of states, each of them the operations it performs on the
AUTO Lock fields: the commit step (continuous calibration only, before everything else), the reset
of the head-mount source, the evaluation of the detector.  The clock never goes back, and the head
mount never forces the lock.

A flip that the detector drops leaves its hold timer running until the next commit step, and only
continuous calibration has one: an unlock that a one-shot state queues in between inherits the time.

* `flips_gated` — in runs without such an unlock every flip is gated.
* `inheritedHold_unlocks` — with one, the lock is given up at once.
-/

set_option autoImplicit false

namespace WKPairDriver.Calibration.AutoLock

open Lib

variable {K : Type} [Field K] [LinearOrder K] {A : Type}

/-! ## Ticks -/

/-- One thing a tick, or the user between two ticks, does to the fields. -/
inductive Op (K A : Type) where
  | commit (time effectiveSpeed : K)
  | resetHeadMountSource
  | evaluate (time CurrentTime : K) (calibratedHeadMountTarget : Bool) (refWorld targetWorld : A)
  | clear

/-- What `CollectSample` feeds to the detector. -/
structure Sample (K A : Type) where
  CurrentTime : K
  calibratedHeadMountTarget : Bool
  refWorld : A
  targetWorld : A

/-- A tick that reaches its gate. -/
structure Tick (K A : Type) where
  time : K
  state : CalibrationState
  effectiveSpeed : K
  /-- Neither anchor is offline. -/
  anchorsOnline : Bool
  headMountSourceChanged : Bool
  /-- None when the poses are not good enough. -/
  sample : Option (Sample K A)

def Tick.sampleOps (t : Tick K A) : List (Op K A) :=
  match t.sample with
  | none => []
  | some s => [.evaluate t.time s.CurrentTime s.calibratedHeadMountTarget s.refWorld s.targetWorld]

/-- The operations of `CalibrationTick`, in its order. -/
def Tick.ops (t : Tick K A) : List (Op K A) :=
  match t.state with
  | .Continuous =>
    .commit t.time t.effectiveSpeed ::
      if t.anchorsOnline then
        (if t.headMountSourceChanged then [.resetHeadMountSource] else []) ++ t.sampleOps
      else []
  | .Rotation | .Translation => t.sampleOps
  | .None | .Begin | .Editing | .ContinuousStandby => []

inductive Event (K A : Type) where
  | tick (t : Tick K A)
  /-- `CalibrationContext::Clear`, between two ticks. -/
  | clear

def Event.ops : Event K A → List (Op K A)
  | .tick t => t.ops
  | .clear => [.clear]

/-! ## Steps -/

/-- The fields, the clock, and the evaluations so far with their verdicts, the latest first. -/
structure Monitor (K A : Type) where
  ctx : AutoLockContext K A
  now : K
  evaluations : List (K × Option Bool)

def start (now : K) : Monitor K A where
  ctx :=
    { autoLockHistory := []
      autoLockEffectivelyLocked := false
      autoLockMadHistory := []
      autoLockMadFloor := 0
      autoLockHasPendingFlip := false
      autoLockPendingFlipTo := false
      autoLockPendingFlipFirstSeen := 0 }
  now := now
  evaluations := []

/-- The reset of `ClearHeadMountContinuousSourceState`. -/
def AutoLockContext.resetHeadMountSource (ctx : AutoLockContext K A) : AutoLockContext K A :=
  { ctx with
    autoLockHistory := []
    autoLockEffectivelyLocked := false
    autoLockHasPendingFlip := false
    autoLockPendingFlipTo := false
    autoLockPendingFlipFirstSeen := 0 }

/-- The reset of `Clear`. -/
def AutoLockContext.clear (ctx : AutoLockContext K A) : AutoLockContext K A :=
  { ctx.resetHeadMountSource with autoLockMadHistory := [], autoLockMadFloor := 0 }

variable (g : Geometry K A)

def next (m : Monitor K A) : Op K A → Monitor K A
  | .commit time effectiveSpeed =>
    { m with
      ctx := (CommitPendingAutoLockFlipIfStationary m.ctx effectiveSpeed time).2
      now := time }
  | .resetHeadMountSource => { m with ctx := m.ctx.resetHeadMountSource }
  | .evaluate time CurrentTime calibratedHeadMountTarget refWorld targetWorld =>
    { ctx := UpdateAutoLockDetector g m.ctx CurrentTime calibratedHeadMountTarget refWorld targetWorld
      now := time
      evaluations := (time, verdictAt g m.ctx CurrentTime refWorld targetWorld) :: m.evaluations }
  | .clear => { m with ctx := m.ctx.clear }

/-- The clock does not go back, and the head mount does not force the lock. -/
def enabled (m : Monitor K A) : Op K A → Bool
  | .commit time _ => decide (m.now ≤ time)
  | .evaluate time _ calibratedHeadMountTarget _ _ =>
    decide (m.now ≤ time) && !calibratedHeadMountTarget
  | .resetHeadMountSource | .clear => true

def step (m : Monitor K A) (op : Op K A) : Option (Monitor K A) :=
  if enabled m op then some (next g m op) else none

theorem step_eq_some {m m' : Monitor K A} {op : Op K A} :
    step g m op = some m' ↔ enabled m op = true ∧ next g m op = m' := by
  unfold step
  split_ifs with h <;> simp [h]

/-! ## When a flip is gated -/

/-- The verdict of the latest evaluation. -/
def Monitor.latestVerdict (m : Monitor K A) : Option Bool := m.evaluations.head?.bind (·.2)

/-- Standing still behind a rigid verdict. -/
def LockAllowed (m : Monitor K A) : Op K A → Prop
  | .commit _ effectiveSpeed => effectiveSpeed < kStationaryHmdMps ∧ m.latestVerdict = some true
  | _ => False

/-- A panic-level deviation; standing still behind a verdict that is not rigid; 5 s in which all
    evaluations asked for the unlock; or a window that is not full. -/
def UnlockAllowed (m : Monitor K A) (op : Op K A) : Prop :=
  (next g m op).ctx.autoLockHistory.length < kSamplesNeeded ∨
  match op with
  | .commit time effectiveSpeed =>
    m.latestVerdict = some false ∧ (effectiveSpeed < kStationaryHmdMps ∨
      ∀ e ∈ m.evaluations, time - kAutoLockUnlockMaxWaitSeconds < e.1 → e.2 = some false)
  | .evaluate _ _ _ refWorld targetWorld => panicAt g m.ctx refWorld targetWorld = true
  | _ => False

/-- The step changes the effective lock only as it is allowed to. -/
def Gated (m : Monitor K A) (op : Op K A) : Prop :=
  (m.ctx.autoLockEffectivelyLocked = false →
    (next g m op).ctx.autoLockEffectivelyLocked = true → LockAllowed m op) ∧
  (m.ctx.autoLockEffectivelyLocked = true →
    (next g m op).ctx.autoLockEffectivelyLocked = false → UnlockAllowed g m op)

/-- The step does not queue an unlock while the hold timer of an earlier one still runs. -/
def Unhurried (m : Monitor K A) : Op K A → Prop
  | .evaluate _ CurrentTime _ refWorld targetWorld =>
    m.ctx.autoLockEffectivelyLocked = true →
    verdictAt g m.ctx CurrentTime refWorld targetWorld = some false →
      m.ctx.autoLockHasPendingFlip = true ∨ m.ctx.autoLockPendingFlipFirstSeen ≤ 0
  | _ => True

instance (m : Monitor K A) (op : Op K A) : Decidable (LockAllowed m op) := by
  cases op <;> unfold LockAllowed <;> infer_instance

instance (m : Monitor K A) (op : Op K A) : Decidable (UnlockAllowed g m op) := by
  cases op <;> unfold UnlockAllowed <;> infer_instance

instance (m : Monitor K A) (op : Op K A) : Decidable (Gated g m op) := by
  unfold Gated
  infer_instance

instance (m : Monitor K A) (op : Op K A) : Decidable (Unhurried g m op) := by
  cases op <;> unfold Unhurried <;> infer_instance

/-! ## The invariant -/

/-- What a pending flip rests on: it is what the latest verdict asks for, and while the hold of an
    unlock is timed, all evaluations since then asked for it. -/
structure Inv (m : Monitor K A) : Prop where
  past : ∀ e ∈ m.evaluations, e.1 ≤ m.now
  asked : m.ctx.autoLockHasPendingFlip = true →
    m.ctx.autoLockPendingFlipTo = (!m.ctx.autoLockEffectivelyLocked) ∧
      m.latestVerdict = some m.ctx.autoLockPendingFlipTo
  timed : m.ctx.autoLockHasPendingFlip = true → m.ctx.autoLockPendingFlipTo = false →
    0 < m.ctx.autoLockPendingFlipFirstSeen →
    ∀ e ∈ m.evaluations, m.ctx.autoLockPendingFlipFirstSeen < e.1 → e.2 = some false

theorem Inv.start (now : K) : Inv (start now : Monitor K A) where
  past := by simp [AutoLock.start]
  asked := by simp [AutoLock.start]
  timed := by simp [AutoLock.start]

/-- The invariant with no flip pending. -/
theorem Inv.of_idle {m : Monitor K A} (hpast : ∀ e ∈ m.evaluations, e.1 ≤ m.now)
    (hnone : m.ctx.autoLockHasPendingFlip = false) : Inv m where
  past := hpast
  asked := by simp [hnone]
  timed := by simp [hnone]

variable {g} {m : Monitor K A}

theorem next_evaluate_ctx (time CurrentTime : K) (refWorld targetWorld : A) :
    (next g m (.evaluate time CurrentTime false refWorld targetWorld)).ctx =
      UpdateAutoLockDetector g m.ctx CurrentTime false refWorld targetWorld := by
  simp only [next]

/-- A step that keeps the effective lock is gated. -/
theorem Gated.of_eq {op : Op K A}
    (h : (next g m op).ctx.autoLockEffectivelyLocked = m.ctx.autoLockEffectivelyLocked) :
    Gated g m op := by
  constructor <;>
  · intro hold hnew
    rw [h, hold] at hnew
    cases hnew

/-- So is one that gives it up where that is allowed. -/
theorem Gated.of_unlocked {op : Op K A}
    (h : (next g m op).ctx.autoLockEffectivelyLocked = false) (hallowed : UnlockAllowed g m op) :
    Gated g m op := by
  refine ⟨fun _ hnew => ?_, fun _ _ => hallowed⟩
  rw [h] at hnew
  cases hnew

theorem Inv.reset (h : Inv m) (op : Op K A) (hop : op = .resetHeadMountSource ∨ op = .clear) :
    Inv (next g m op) ∧ Gated g m op := by
  have hsize : (next g m op).ctx.autoLockHistory = [] := by rcases hop with rfl | rfl <;> rfl
  refine ⟨?_, .of_unlocked ?_ (Or.inl ?_)⟩
  · rcases hop with rfl | rfl <;> exact .of_idle h.past rfl
  · rcases hop with rfl | rfl <;> rfl
  · rw [hsize, List.length_nil]
    decide

theorem Inv.evaluate (h : Inv m) {time CurrentTime : K} {refWorld targetWorld : A}
    (htime : m.now ≤ time)
    (hc : Unhurried g m (.evaluate time CurrentTime false refWorld targetWorld)) :
    Inv (next g m (.evaluate time CurrentTime false refWorld targetWorld)) ∧
      Gated g m (.evaluate time CurrentTime false refWorld targetWorld) := by
  have hpast : ∀ e ∈ (next g m (.evaluate time CurrentTime false refWorld
      targetWorld)).evaluations, e.1 ≤ time := by
    intro e he
    rcases List.mem_cons.1 he with rfl | he
    · exact le_rfl
    · exact (h.past e he).trans htime
  cases UpdateAutoLockDetector_cases (g := g) m.ctx CurrentTime refWorld targetWorld with
  | filling hsize hlock hpending =>
    exact ⟨.of_idle hpast hpending, .of_unlocked hlock (Or.inl hsize)⟩
  | panicUnlock hpanic hlock hpending =>
    exact ⟨.of_idle hpast hpending, .of_unlocked hlock (Or.inr hpanic)⟩
  | agree hlock hpending => exact ⟨.of_idle hpast hpending, .of_eq hlock⟩
  | queue hverdict hlock hpending hto hseen =>
    refine ⟨⟨hpast, fun _ => ⟨?_, ?_⟩, fun _ hfalse hpos => ?_⟩, .of_eq hlock⟩
    · exact hto.trans (congrArg not hlock.symm)
    · exact hverdict.trans (congrArg some hto.symm)
    · -- the unlock was pending before, or its hold is not timed yet
      have hlocked : m.ctx.autoLockEffectivelyLocked = true := by
        simpa using hto.symm.trans hfalse
      rw [hlocked] at hverdict
      rw [next_evaluate_ctx, hseen] at hpos ⊢
      rcases hc hlocked hverdict with hbefore | hseen0
      · have htoBefore : m.ctx.autoLockPendingFlipTo = false := by
          rw [(h.asked hbefore).1, hlocked]
          rfl
        intro e he
        rcases List.mem_cons.1 he with rfl | he
        · exact fun _ => hverdict
        · exact h.timed hbefore htoBefore hpos e he
      · exact absurd hseen0 (not_le.2 hpos)

/-- The evaluations since the hold of a pending unlock began all asked for it. -/
theorem Inv.since (h : Inv m) {time : K} (htime : m.now ≤ time)
    (hpending : m.ctx.autoLockHasPendingFlip = true) (hto : m.ctx.autoLockPendingFlipTo = false) :
    ∀ e ∈ m.evaluations, heldFrom m.ctx time < e.1 → e.2 = some false := by
  intro e he hlt
  unfold heldFrom at hlt
  split_ifs at hlt with hseen
  · exact absurd hlt (not_lt.2 ((h.past e he).trans htime))
  · exact h.timed hpending hto (not_le.1 hseen) e he hlt

theorem Inv.commit [IsStrictOrderedRing K] (h : Inv m) {time effectiveSpeed : K}
    (htime : m.now ≤ time) :
    Inv (next g m (.commit time effectiveSpeed)) ∧ Gated g m (.commit time effectiveSpeed) := by
  have hpast : ∀ e ∈ m.evaluations, e.1 ≤ time := fun e he => (h.past e he).trans htime
  cases Commit_cases m.ctx effectiveSpeed time with
  | idle hnone heq =>
    have hnext : next g m (.commit time effectiveSpeed) =
        { m with
          ctx := { m.ctx with autoLockPendingFlipFirstSeen := 0 }
          now := time } := by
      simp only [next, heq]
    rw [hnext]
    refine ⟨.of_idle hpast hnone, .of_eq ?_⟩
    rw [hnext]
  | held hpending heq =>
    have hnext : next g m (.commit time effectiveSpeed) =
        { m with
          ctx := { m.ctx with autoLockPendingFlipFirstSeen := heldFrom m.ctx time }
          now := time } := by
      simp only [next, heq]
    rw [hnext]
    refine ⟨⟨hpast, h.asked, fun hp hto _ => h.since htime hp hto⟩, .of_eq ?_⟩
    rw [hnext]
  | committed hpending hgate hlock hnone =>
    obtain ⟨hto, hlatest⟩ := h.asked hpending
    have hnew : (next g m (.commit time effectiveSpeed)).ctx.autoLockEffectivelyLocked =
        !m.ctx.autoLockEffectivelyLocked := hlock.trans hto
    refine ⟨.of_idle hpast hnone, ⟨fun hold _ => ?_, fun hold _ => Or.inr ?_⟩⟩
    · rw [hold] at hto
      rw [hto] at hlatest hgate
      exact ⟨hgate.resolve_right (by simp), hlatest⟩
    · rw [hold] at hto
      refine ⟨hlatest.trans (by rw [hto]; rfl), hgate.imp id fun hheld e he hlt => ?_⟩
      apply h.since htime hpending hto e he
      have hfrom : heldFrom m.ctx time ≤ time - kAutoLockUnlockMaxWaitSeconds := by
        linarith [hheld.2]
      exact hfrom.trans_lt hlt

theorem Inv.step [IsStrictOrderedRing K] {m' : Monitor K A} {op : Op K A} (h : Inv m)
    (hc : Unhurried g m op) (hs : step g m op = some m') : Inv m' ∧ Gated g m op := by
  obtain ⟨hen, rfl⟩ := (step_eq_some g).1 hs
  cases op with
  | commit time effectiveSpeed => exact h.commit (of_decide_eq_true hen)
  | resetHeadMountSource => exact h.reset _ (.inl rfl)
  | clear => exact h.reset _ (.inr rfl)
  | evaluate time CurrentTime calibratedHeadMountTarget refWorld targetWorld =>
    obtain ⟨htime, hforced⟩ := Bool.and_eq_true_iff.1 hen
    obtain rfl : calibratedHeadMountTarget = false := by simpa using hforced
    exact h.evaluate (of_decide_eq_true htime) hc

variable (g) in
/-- **AUTO Lock flips are gated** in every run that never queues an unlock while the hold timer of
    an earlier one still runs. -/
theorem flips_gated [IsStrictOrderedRing K] (now : K) (es : List (Event K A))
    (h : AllSteps (step g) (Unhurried g) (start now) (es.flatMap Event.ops)) :
    AllSteps (step g) (Gated g) (start now) (es.flatMap Event.ops) :=
  AllSteps.of_inv (fun _ _ _ hi hc hs => (hi.step hc hs).1) (fun _ _ _ hi hc hs => (hi.step hc hs).2)
    (Inv.start now) h

/-! ## A hold that is inherited -/

/-- Devices in one place that turn about one axis: a transform is its angle. -/
def turning : Geometry ℚ ℚ where
  relative ref target := target - ref
  translation _ := (0, 0, 0)
  norm v := |v.1| + |v.2.1| + |v.2.2|
  angularDistance a b := |a - b|

def tickAt (time : ℚ) (state : CalibrationState) (effectiveSpeed angle : ℚ) : Event ℚ ℚ :=
  .tick
    { time := time
      state := state
      effectiveSpeed := effectiveSpeed
      anchorsOnline := true
      headMountSourceChanged := false
      sample := some ⟨time, false, 0, angle⟩ }

/-- Twenty rigid samples, and a pause to lock in; three of the next four are two degrees off. -/
def lockIn : List (Event ℚ ℚ) :=
  (List.range 20).map (fun i => tickAt (i + 1) .Continuous 0.01 0) ++
    [tickAt 21.0 .Continuous 0.01 0.035, tickAt 22.0 .Continuous 0.5 0.035,
     tickAt 23.0 .Continuous 0.5 0, tickAt 24.0 .Continuous 0.5 0.035] ++
    (List.range 7).map (fun i => tickAt (i + 25.0) .Continuous 0.5 0)

theorem flips_gated_lockIn :
    AllSteps (step turning) (Gated turning) (start 0) (lockIn.flatMap Event.ops) :=
  flips_gated turning 0 lockIn (by decide +kernel)

/-- The user moves on: the detector drops the unlock it asked for, a one-shot calibration asks for
    one again, and the next continuous tick carries it out with the time of the first. -/
def inheritedHold : List (Event ℚ ℚ) :=
  lockIn ++
    [tickAt 32.0 .Continuous 0.5 0, tickAt 32.5 .Begin 0.5 0, tickAt 33.0 .Rotation 0.5 0,
     tickAt 36.0 .Continuous 0.5 0]

theorem inheritedHold_unlocks :
    ¬AllSteps (step turning) (Gated turning) (start 0) (inheritedHold.flatMap Event.ops) := by
  decide +kernel

end WKPairDriver.Calibration.AutoLock
