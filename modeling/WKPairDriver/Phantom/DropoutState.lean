import Mathlib

/-!
# The dropout ladder of a tracker: `DropoutState`

`OnRealPoseObserved` and `Tick` of the per-device state machine, and what `MaybeOverridePose`
makes of its state.  Times are counts of `QueryPerformanceCounter`, `freq` of them a second.

* `qpcMs` — counts to milliseconds, in 64-bit arithmetic.
* `escalate_moves` — an escalation stays in the dropout, and down once it is down.
* `escalate_past_synth_hold` — a dropout of `synth_hold_ms` is out of range or lost.
* `tick_of_inDropout`, `tick_of_real`, `tick_of_blendIn` — what a tick does, by the state it finds.
-/

set_option autoImplicit false

namespace WKPairDriver.Phantom

inductive TrackerState where
  | REAL
  | BLEND_OUT
  | SYNTH_RECKON
  | SYNTH_IK
  | SYNTH_ML
  | BLEND_IN
  | OUT_OF_RANGE
  | LOST
deriving DecidableEq

/-- `vr::ETrackingResult`. -/
inductive TrackingResult where
  | Uninitialized
  | Calibrating_InProgress
  | Calibrating_OutOfRange
  | Running_OK
  | Running_OutOfRange
  | Fallback_RotationOnly
deriving DecidableEq

/-- What the ladder looks at in a `vr::DriverPose_t`. -/
structure DriverPose where
  result : TrackingResult
  poseIsValid : Bool
  deviceIsConnected : Bool

/-- A pose that the driver trusts. -/
def DriverPose.healthy (pose : DriverPose) : Bool :=
  decide (pose.result = .Running_OK) && pose.poseIsValid && pose.deviceIsConnected

structure LadderTimings where
  dropout_silence_ms : ℕ
  blend_out_ms : ℕ
  blend_in_ms : ℕ
  reckon_hold_ms : ℕ
  synth_hold_ms : ℕ
  lost_hold_ms : ℕ

def LadderTimings.Defaults : LadderTimings where
  dropout_silence_ms := 40
  blend_out_ms := 80
  blend_in_ms := 150
  reckon_hold_ms := 250
  synth_hold_ms := 2000
  lost_hold_ms := 5000

/-- The timings in a `PhantomConfig`. -/
structure PhantomConfig where
  blend_out_ms : ℕ
  blend_in_ms : ℕ
  reckon_hold_ms : ℕ
  synth_hold_ms : ℕ
  lost_hold_ms : ℕ

/-- `HandleRequest` of `RequestSetPhantomConfig`: 0 stands for the default. -/
def PhantomConfig.timings (c : PhantomConfig) : LadderTimings :=
  let orDefault (v d : ℕ) : ℕ := if v = 0 then d else v
  { dropout_silence_ms := LadderTimings.Defaults.dropout_silence_ms
    blend_out_ms := orDefault c.blend_out_ms LadderTimings.Defaults.blend_out_ms
    blend_in_ms := orDefault c.blend_in_ms LadderTimings.Defaults.blend_in_ms
    reckon_hold_ms := orDefault c.reckon_hold_ms LadderTimings.Defaults.reckon_hold_ms
    synth_hold_ms := orDefault c.synth_hold_ms LadderTimings.Defaults.synth_hold_ms
    lost_hold_ms := orDefault c.lost_hold_ms LadderTimings.Defaults.lost_hold_ms }

/-- `QpcMs`; the product is an `int64_t`. -/
def qpcMs (dt_ns freq : ℤ) : ℤ :=
  if freq ≤ 0 ∨ dt_ns ≤ 0 then 0 else (Int.bmod (dt_ns * 1000) (2 ^ 64)).tdiv freq

/-- In milliseconds, as long as the product fits. -/
theorem qpcMs_of_lt {dt_ns freq : ℤ} (hfreq : 0 < freq) (hdt : 0 ≤ dt_ns)
    (h : dt_ns * 1000 < 2 ^ 63) : qpcMs dt_ns freq = dt_ns * 1000 / freq := by
  unfold qpcMs
  split
  · rename_i hor
    rw [show dt_ns = 0 by omega]
    simp
  · rw [Int.bmod_eq_of_le_mul_two (by omega) (by omega), Int.tdiv_eq_ediv_of_nonneg (by omega)]

structure DropoutState where
  timings : LadderTimings
  state : TrackerState
  ik_available : Bool
  last_real_qpc_ns : ℤ
  dropout_start_qpc_ns : ℤ
  blend_in_start_qpc_ns : ℤ
  dropout_count : ℕ
  longest_dropout_ms : ℕ

namespace DropoutState

def new : DropoutState where
  timings := .Defaults
  state := .REAL
  ik_available := false
  last_real_qpc_ns := -1
  dropout_start_qpc_ns := -1
  blend_in_start_qpc_ns := -1
  dropout_count := 0
  longest_dropout_ms := 0

variable (s : DropoutState)

def setTimings (t : LadderTimings) : DropoutState := { s with timings := t }

def setIkAvailable (v : Bool) : DropoutState := { s with ik_available := v }

/-- `state_ = BLEND_IN` at the time of a healthy pose. -/
def enterBlendIn (qpc_ns : ℤ) : DropoutState :=
  { s with state := .BLEND_IN, blend_in_start_qpc_ns := qpc_ns }

/-- Every observation is noted as the last real pose, a healthy one or not. -/
def onRealPoseObserved (qpc_ns : ℤ) (observed : DriverPose) : DropoutState :=
  let s := { s with last_real_qpc_ns := qpc_ns }
  if observed.healthy then
    match s.state with
    | .OUT_OF_RANGE | .LOST | .SYNTH_RECKON | .SYNTH_IK | .SYNTH_ML | .BLEND_OUT =>
      s.enterBlendIn qpc_ns
    | .REAL | .BLEND_IN => s
  else s

/-- `std::max<uint32_t>` with a count of milliseconds. -/
def noteDropout (ms : ℤ) : DropoutState :=
  { s with longest_dropout_ms := max s.longest_dropout_ms (ms % 2 ^ 32).toNat }

/-! The three parts of `Tick`. -/

def silence_ms (qpc_ns freq : ℤ) : ℤ :=
  if s.last_real_qpc_ns < 0 then 0 else qpcMs (qpc_ns - s.last_real_qpc_ns) freq

def detectSilence (qpc_ns freq : ℤ) : DropoutState :=
  if s.state = .REAL ∧ s.last_real_qpc_ns ≥ 0 ∧
      s.silence_ms qpc_ns freq ≥ s.timings.dropout_silence_ms then
    { s with
      state := .BLEND_OUT
      dropout_start_qpc_ns := s.last_real_qpc_ns
      dropout_count := (s.dropout_count + 1) % 2 ^ 32 }
  else s

def setState (state : TrackerState) : DropoutState := { s with state := state }

def leaveBlendOut (age_ms : ℤ) : DropoutState :=
  if s.state = .BLEND_OUT ∧ age_ms ≥ s.timings.blend_out_ms then s.setState .SYNTH_RECKON else s

def leaveReckon (age_ms : ℤ) : DropoutState :=
  if s.state = .SYNTH_RECKON ∧ s.ik_available = true ∧ age_ms ≥ s.timings.reckon_hold_ms then
    s.setState .SYNTH_IK
  else s

def passSynthHold (age_ms : ℤ) : DropoutState :=
  if age_ms ≥ s.timings.synth_hold_ms ∧ s.state ≠ .OUT_OF_RANGE ∧ s.state ≠ .LOST then
    s.setState .OUT_OF_RANGE
  else s

def passLostHold (age_ms : ℤ) : DropoutState :=
  if age_ms ≥ s.timings.lost_hold_ms ∧ s.state ≠ .LOST then
    (s.setState .LOST).noteDropout age_ms
  else s

/-- The escalation: each condition is about the state that the one before it leaves. -/
def escalate (qpc_ns freq : ℤ) : DropoutState :=
  if s.dropout_start_qpc_ns ≥ 0 ∧ s.state ≠ .REAL ∧ s.state ≠ .BLEND_IN then
    let age_ms := qpcMs (qpc_ns - s.dropout_start_qpc_ns) freq
    (((s.leaveBlendOut age_ms).leaveReckon age_ms).passSynthHold age_ms).passLostHold age_ms
  else s

def finishBlendIn (qpc_ns freq : ℤ) : DropoutState :=
  if s.state = .BLEND_IN ∧ s.blend_in_start_qpc_ns ≥ 0 then
    if qpcMs (qpc_ns - s.blend_in_start_qpc_ns) freq ≥ s.timings.blend_in_ms then
      let s := if s.dropout_start_qpc_ns ≥ 0 then
        s.noteDropout (max 0 (qpcMs (s.blend_in_start_qpc_ns - s.dropout_start_qpc_ns) freq))
        else s
      { s with
        state := .REAL
        dropout_start_qpc_ns := -1
        blend_in_start_qpc_ns := -1 }
    else s
  else s

def tick (qpc_ns freq : ℤ) : DropoutState :=
  ((s.detectSilence qpc_ns freq).escalate qpc_ns freq).finishBlendIn qpc_ns freq

def should_publish : Bool := decide (s.state ≠ .LOST)

def tracking_result_override : TrackingResult :=
  if s.state = .OUT_OF_RANGE then .Running_OutOfRange else .Running_OK

/-- `MaybeOverridePose` for a device with the module switched on: the result of the pose that goes
    out in place of one with `result`, or `none` if none goes out.  The dead reckoner projects a
    pose or not, and a pose was published before or not; a blend takes the result of its first
    pose. -/
def publishedResult (projected : Bool) (last_published : Option TrackingResult)
    (result : TrackingResult) : Option TrackingResult :=
  match s.state with
  | .REAL => some result
  | .BLEND_OUT => some (if projected then s.tracking_result_override else result)
  | .SYNTH_RECKON | .SYNTH_IK | .SYNTH_ML | .OUT_OF_RANGE => some s.tracking_result_override
  | .BLEND_IN => some (last_published.getD result)
  | .LOST => none

/-! ## What a tick makes of the state -/

/-- The states of a dropout. -/
def InDropout : Prop := s.state ≠ .REAL ∧ s.state ≠ .BLEND_IN

/-- The states that say so: the tracker is out of range, or lost. -/
def IsDown : Prop := s.state = .OUT_OF_RANGE ∨ s.state = .LOST

instance : Decidable s.IsDown := inferInstanceAs (Decidable (_ ∨ _))

variable {s}

theorem IsDown.inDropout (h : s.IsDown) : s.InDropout := by
  rcases h with h | h <;> simp [InDropout, h]

/-- A tracker that is down is published as out of range, or not at all. -/
theorem IsDown.published (h : s.IsDown) (projected : Bool) (last_published : Option TrackingResult)
    (result : TrackingResult) :
    s.publishedResult projected last_published result = none ∨
      s.publishedResult projected last_published result = some .Running_OutOfRange := by
  rcases h with h | h
  · exact .inr (by simp [publishedResult, tracking_result_override, h])
  · exact .inl (by simp [publishedResult, h])

variable (s)

/-- A move within a dropout. -/
structure Moves (t : DropoutState) : Prop where
  timings : t.timings = s.timings
  last_real : t.last_real_qpc_ns = s.last_real_qpc_ns
  dropout_start : t.dropout_start_qpc_ns = s.dropout_start_qpc_ns
  inDropout : s.InDropout → t.InDropout
  isDown : s.IsDown → t.IsDown

variable {s}

theorem Moves.refl : Moves s s := ⟨rfl, rfl, rfl, id, id⟩

theorem Moves.trans {t u : DropoutState} (hst : Moves s t) (htu : Moves t u) : Moves s u where
  timings := htu.timings.trans hst.timings
  last_real := htu.last_real.trans hst.last_real
  dropout_start := htu.dropout_start.trans hst.dropout_start
  inDropout h := htu.inDropout (hst.inDropout h)
  isDown h := htu.isDown (hst.isDown h)

variable (s) (age_ms : ℤ)

theorem leaveBlendOut_moves : Moves s (s.leaveBlendOut age_ms) := by
  unfold leaveBlendOut
  split
  · rename_i h
    exact ⟨rfl, rfl, rfl, fun _ => by simp [InDropout, setState], fun hdown => by
      rcases hdown with hdown | hdown <;> rw [h.1] at hdown <;> cases hdown⟩
  · exact .refl

theorem leaveReckon_moves : Moves s (s.leaveReckon age_ms) := by
  unfold leaveReckon
  split
  · rename_i h
    exact ⟨rfl, rfl, rfl, fun _ => by simp [InDropout, setState], fun hdown => by
      rcases hdown with hdown | hdown <;> rw [h.1] at hdown <;> cases hdown⟩
  · exact .refl

theorem passSynthHold_moves : Moves s (s.passSynthHold age_ms) := by
  unfold passSynthHold
  split
  · exact ⟨rfl, rfl, rfl, fun _ => by simp [InDropout, setState], fun _ => .inl rfl⟩
  · exact .refl

theorem passLostHold_moves : Moves s (s.passLostHold age_ms) := by
  unfold passLostHold
  split
  · exact ⟨rfl, rfl, rfl, fun _ => by simp [InDropout, setState, noteDropout], fun _ => .inr rfl⟩
  · exact .refl

variable {s age_ms}

/-- From `synth_hold_ms` on, the tracker is down. -/
theorem passSynthHold_isDown (h : s.timings.synth_hold_ms ≤ age_ms) :
    (s.passSynthHold age_ms).IsDown := by
  unfold passSynthHold
  split
  · exact .inl rfl
  · rename_i hdown
    simp only [not_and_or, not_not] at hdown
    exact hdown.resolve_left fun hlt => hlt h

variable {qpc_ns freq : ℤ}

theorem escalate_moves : Moves s (s.escalate qpc_ns freq) := by
  unfold escalate
  split
  · exact (((leaveBlendOut_moves s _).trans (leaveReckon_moves _ _)).trans
      (passSynthHold_moves _ _)).trans (passLostHold_moves _ _)
  · exact .refl

theorem escalate_of_not_inDropout (h : ¬ s.InDropout) : s.escalate qpc_ns freq = s :=
  if_neg fun hdrop => h hdrop.2

/-- A dropout of `synth_hold_ms` is out of range or lost. -/
theorem escalate_past_synth_hold (hstart : 0 ≤ s.dropout_start_qpc_ns) (hdrop : s.InDropout)
    (hage : s.timings.synth_hold_ms ≤ qpcMs (qpc_ns - s.dropout_start_qpc_ns) freq) :
    (s.escalate qpc_ns freq).IsDown := by
  rw [escalate, if_pos ⟨hstart, hdrop⟩]
  apply (passLostHold_moves _ _).isDown
  apply passSynthHold_isDown
  rw [(leaveReckon_moves _ _).timings, (leaveBlendOut_moves _ _).timings]
  exact hage

theorem finishBlendIn_of_inDropout (h : s.InDropout) : s.finishBlendIn qpc_ns freq = s :=
  if_neg fun hblend => h.2 hblend.1

theorem tick_of_inDropout (h : s.InDropout) : s.tick qpc_ns freq = s.escalate qpc_ns freq := by
  have hdetect : s.detectSilence qpc_ns freq = s := if_neg fun hreal => h.1 hreal.1
  rw [tick, hdetect, finishBlendIn_of_inDropout (escalate_moves.inDropout h)]

/-- The dropout that a tick detects. -/
def detected (s : DropoutState) : DropoutState :=
  { s with
    state := .BLEND_OUT
    dropout_start_qpc_ns := s.last_real_qpc_ns
    dropout_count := (s.dropout_count + 1) % 2 ^ 32 }

theorem detected_inDropout : s.detected.InDropout := by
  simp [InDropout, detected]

/-- With real poses, a tick detects a silence that started with the last one, or does nothing. -/
theorem tick_of_real (h : s.state = .REAL) :
    s.tick qpc_ns freq =
      if s.last_real_qpc_ns ≥ 0 ∧ s.silence_ms qpc_ns freq ≥ s.timings.dropout_silence_ms then
        s.detected.escalate qpc_ns freq
      else s := by
  split
  · rename_i hsilence
    have hdetect : s.detectSilence qpc_ns freq = s.detected := if_pos ⟨h, hsilence⟩
    rw [tick, hdetect,
      finishBlendIn_of_inDropout (escalate_moves.inDropout detected_inDropout)]
  · rename_i hsilence
    have hdetect : s.detectSilence qpc_ns freq = s := if_neg fun hreal => hsilence hreal.2
    have hescalate : s.escalate qpc_ns freq = s :=
      escalate_of_not_inDropout fun hdrop => hdrop.1 h
    rw [tick, hdetect, hescalate]
    exact if_neg fun hblend => by rw [h] at hblend; cases hblend.1

/-- A tick that finds a blend-in going on never ends up in a dropout. -/
theorem tick_of_blendIn (h : s.state = .BLEND_IN) :
    ¬ (s.tick qpc_ns freq).InDropout ∧
      (s.tick qpc_ns freq).last_real_qpc_ns = s.last_real_qpc_ns := by
  have hdetect : s.detectSilence qpc_ns freq = s :=
    if_neg fun hreal => by rw [h] at hreal; cases hreal.1
  have hescalate : s.escalate qpc_ns freq = s :=
    escalate_of_not_inDropout fun hdrop => hdrop.2 h
  rw [tick, hdetect, hescalate, finishBlendIn]
  split_ifs <;> simp [InDropout, h, noteDropout]

end DropoutState

end WKPairDriver.Phantom
