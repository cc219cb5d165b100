import Mathlib
import WKPairDriver.FaceTracking.CalibrationEngine

/-!
# The velocity gate of a shape

`UpdateShape` drops a value that is more than four standard deviations away, and the variance is
learned from the values that are let through.

* `learns_iff` — a value that stays is learned from exactly when its first sample passes the gate.
* `flatShape_freezes` — twenty equal values close the gate for good.
-/

set_option autoImplicit false

namespace WKPairDriver.FaceTracking.Calibration

section Gate

variable {K : Type} [Field K] [LinearOrder K] (sqrt : K → K) (qpc_freq : ℕ)

/-- The value passes the velocity gate. -/
def InGate (s : ShapeCalib K) (raw : K) : Prop :=
  |raw - s.ema_value| ≤ kVelocityGateSigmas * sqrt (s.ema_var + kNormEps)

/-- The same value at each of the times. -/
def hold (s : ShapeCalib K) (raw : K) (times : List ℕ) : ShapeCalib K :=
  times.foldl (fun s now => UpdateShape sqrt qpc_freq s raw now) s

/-- The times of `n` frames from `start` on, `interval` apart. -/
def frames (interval start n : ℕ) : List ℕ := (List.range n).map fun i => start + interval * i

/-- For some number of frames with the value, whenever they begin, one is counted as a sample. -/
def EventuallyLearns (interval : ℕ) (s : ShapeCalib K) (raw : K) : Prop :=
  ∃ n, ∀ start, s.samples < (hold sqrt qpc_freq s raw (frames interval start n)).samples

variable {sqrt} {s : ShapeCalib K} {raw : K}

/-- A rejected value leaves the shape as it is. -/
theorem UpdateShape_rejected (h : ¬ InGate sqrt s raw) (now : ℕ) :
    UpdateShape sqrt qpc_freq s raw now = s := by
  rw [InGate, not_le] at h
  exact if_pos h

/-- The envelope does not touch the count and the variance. -/
theorem updateEnvelope_kept (s : ShapeCalib K) (raw : K) (now : ℕ) :
    (updateEnvelope qpc_freq s raw now).samples = s.samples ∧
      (updateEnvelope qpc_freq s raw now).ema_var = s.ema_var := by
  simp only [updateEnvelope]
  split_ifs <;> exact ⟨rfl, rfl⟩

/-- A value that passes is counted, and the variance follows it. -/
theorem UpdateShape_accepted (h : InGate sqrt s raw) (now : ℕ) :
    (UpdateShape sqrt qpc_freq s raw now).samples = s.samples + 1 ∧
      (UpdateShape sqrt qpc_freq s raw now).ema_var = (1 - 0.05) * s.ema_var +
        0.05 * ((raw - (s.ema_value + kAlphaUp * (raw - s.ema_value))) *
          (raw - (s.ema_value + kAlphaUp * (raw - s.ema_value)))) := by
  have hpass : ¬ |raw - s.ema_value| > kVelocityGateSigmas * sqrt (s.ema_var + kNormEps) :=
    not_lt.2 h
  simp only [UpdateShape, if_neg hpass, updateQuantiles, updateEnvelope_kept, and_self]

/-- A value that is rejected once is rejected for ever. -/
theorem hold_rejected (h : ¬ InGate sqrt s raw) (times : List ℕ) :
    hold sqrt qpc_freq s raw times = s :=
  List.foldl_fixed' (UpdateShape_rejected qpc_freq h) times

/-- **The gate and a value that stays**, in every state of a shape: the value is learned from after
    some number of updates if and only if the gate lets its first sample through. -/
theorem learns_iff (interval : ℕ) (s : ShapeCalib K) (raw : K) :
    EventuallyLearns sqrt qpc_freq interval s raw ↔ InGate sqrt s raw := by
  constructor
  · rintro ⟨n, hn⟩
    by_contra h
    have hlt := hn 0
    rw [hold_rejected qpc_freq h] at hlt
    exact lt_irrefl _ hlt
  · intro h
    refine ⟨1, fun start => ?_⟩
    show s.samples < (UpdateShape sqrt qpc_freq s raw (start + interval * 0)).samples
    rw [(UpdateShape_accepted qpc_freq h _).1]
    exact Nat.lt_succ_self _

end Gate

/-! ## A flat signal -/

section Flat

variable {K : Type} [Field K] [LinearOrder K] [IsStrictOrderedRing K] {sqrt : K → K}
  (qpc_freq : ℕ)

/-- A shape that has seen `k` values of one half has lost a twentieth of its variance with each. -/
theorem hold_flat (hsqrt : ∀ x : K, 0 ≤ x → 0 ≤ sqrt x) {k : ℕ} {s : ShapeCalib K} (h : Steady k s)
    (times : List ℕ) :
    Steady (k + times.length) (hold sqrt qpc_freq s 0.5 times) ∧
      (hold sqrt qpc_freq s 0.5 times).ema_var = 0.95 ^ times.length * s.ema_var := by
  induction times generalizing k s with
  | nil => exact ⟨h, by simp [hold]⟩
  | cons now times ih =>
    have hnext := UpdateShape_steady sqrt qpc_freq hsqrt h now
    obtain ⟨hsteady, hvar⟩ := ih hnext
    have hdecay : (UpdateShape sqrt qpc_freq s 0.5 now).ema_var = 0.95 * s.ema_var := by
      have hin : InGate sqrt s 0.5 := by
        have hgate : 0 ≤ kVelocityGateSigmas * sqrt (s.ema_var + kNormEps) :=
          mul_nonneg (Nat.cast_nonneg _) (hsqrt _ (add_nonneg h.ema_var kNormEps_pos.le))
        rw [InGate, h.ema_value, sub_self, abs_zero]
        exact hgate
      rw [(UpdateShape_accepted qpc_freq hin now).2, h.ema_value]
      ring
    refine ⟨?_, ?_⟩
    · rw [List.length_cons, Nat.add_comm times.length 1, ← Nat.add_assoc]
      exact hsteady
    · show (hold sqrt qpc_freq (UpdateShape sqrt qpc_freq s 0.5 now) 0.5 times).ema_var = _
      rw [hvar, hdecay, List.length_cons]
      ring

end Flat

/-- The counts between two frames at 120 Hz, on a counter of 10 MHz. -/
def frameInterval : ℕ := 83333

/-- A new shape behind twenty frames with one half. -/
noncomputable def flatShape : ShapeCalib ℝ :=
  hold Real.sqrt 10000000 .initial 0.5 (frames frameInterval 0 20)

/-- **The gate closes**: behind twenty values of one half no value of one is ever let through. -/
theorem flatShape_freezes : ¬ EventuallyLearns Real.sqrt 10000000 frameInterval flatShape 1 := by
  have hsqrt : ∀ x : ℝ, 0 ≤ x → 0 ≤ Real.sqrt x := fun x _ => Real.sqrt_nonneg x
  have hflat := hold_flat 10000000 hsqrt Steady.initial (frames frameInterval 0 20)
  have hvar : flatShape.ema_var = 0.95 ^ 20 * 0.04 := hflat.2
  have hvalue : flatShape.ema_value = 0.5 := hflat.1.ema_value
  have hgate : Real.sqrt (0.95 ^ 20 * 0.04 + kNormEps) < 1 / 8 := by
    rw [Real.sqrt_lt' (by norm_num), kNormEps_eq]
    norm_num
  have habs : |(1 : ℝ) - 0.5| = 0.5 := by norm_num [abs_of_pos]
  rw [learns_iff, InGate, hvalue, hvar, not_le, habs, kVelocityGateSigmas]
  push_cast
  linarith

end WKPairDriver.FaceTracking.Calibration
