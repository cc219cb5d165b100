import Mathlib

/-!
# The timing of the synthesized pose

`HeadMountDriverSynthConfig.h`, which the driver and the calibration overlay share.

* `clampDriverSynthTransitionMs_pos` — a duration of at least a millisecond stays one.
* `clampDriverSynthTimingConfig_idem` — timings that have been clamped stay as they are.
-/

set_option autoImplicit false

namespace WKPairDriver.HeadMount

def kDriverSynthStaleLimitMsMin : ℤ := 10

def kDriverSynthStaleLimitMsMax : ℤ := 250

def kDriverSynthTransitionMsMin : ℤ := 0

def kDriverSynthTransitionMsMax : ℤ := 5000

structure DriverSynthTimingConfig where
  staleLimitMs : ℤ := 80
  graceHoldMs : ℤ := 750
  blendToFallbackMs : ℤ := 500
  stableBeforeSynthMs : ℤ := 350
  blendToSynthMs : ℤ := 500
deriving DecidableEq

/-- `std::clamp`. -/
def clampInt (value lo hi : ℤ) : ℤ := if value < lo then lo else if hi < value then hi else value

def clampDriverSynthStaleLimitMs (value : ℤ) : ℤ :=
  clampInt value kDriverSynthStaleLimitMsMin kDriverSynthStaleLimitMsMax

def clampDriverSynthTransitionMs (value : ℤ) : ℤ :=
  clampInt value kDriverSynthTransitionMsMin kDriverSynthTransitionMsMax

def clampDriverSynthTimingConfig (cfg : DriverSynthTimingConfig) : DriverSynthTimingConfig where
  staleLimitMs := clampDriverSynthStaleLimitMs cfg.staleLimitMs
  graceHoldMs := clampDriverSynthTransitionMs cfg.graceHoldMs
  blendToFallbackMs := clampDriverSynthTransitionMs cfg.blendToFallbackMs
  stableBeforeSynthMs := clampDriverSynthTransitionMs cfg.stableBeforeSynthMs
  blendToSynthMs := clampDriverSynthTransitionMs cfg.blendToSynthMs

def driverSynthTimingIsDefault (cfg : DriverSynthTimingConfig) : Bool := decide (cfg = {})

theorem clampInt_mem {lo hi : ℤ} (h : lo ≤ hi) (value : ℤ) :
    lo ≤ clampInt value lo hi ∧ clampInt value lo hi ≤ hi := by
  unfold clampInt
  split_ifs <;> omega

theorem clampInt_of_mem {value lo hi : ℤ} (hlo : lo ≤ value) (hhi : value ≤ hi) :
    clampInt value lo hi = value := by
  rw [clampInt, if_neg (by omega), if_neg (by omega)]

theorem clampInt_idem {lo hi : ℤ} (h : lo ≤ hi) (value : ℤ) :
    clampInt (clampInt value lo hi) lo hi = clampInt value lo hi := by
  obtain ⟨hlo, hhi⟩ := clampInt_mem h value
  exact clampInt_of_mem hlo hhi

/-- A duration of at least a millisecond stays one. -/
theorem clampDriverSynthTransitionMs_pos {value : ℤ} (h : 1 ≤ value) :
    0 < clampDriverSynthTransitionMs value := by
  simp only [clampDriverSynthTransitionMs, clampInt, kDriverSynthTransitionMsMin,
    kDriverSynthTransitionMsMax]
  split_ifs <;> omega

theorem clampDriverSynthTimingConfig_idem (cfg : DriverSynthTimingConfig) :
    clampDriverSynthTimingConfig (clampDriverSynthTimingConfig cfg) =
      clampDriverSynthTimingConfig cfg := by
  have hstale : ∀ value, clampDriverSynthStaleLimitMs (clampDriverSynthStaleLimitMs value) =
      clampDriverSynthStaleLimitMs value :=
    clampInt_idem (by decide)
  have htransition : ∀ value,
      clampDriverSynthTransitionMs (clampDriverSynthTransitionMs value) =
        clampDriverSynthTransitionMs value :=
    clampInt_idem (by decide)
  simp only [clampDriverSynthTimingConfig, hstale, htransition]

end WKPairDriver.HeadMount
