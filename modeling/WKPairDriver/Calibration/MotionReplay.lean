import Mathlib
import WKPairDriver.Calibration.IncrementalSolve

/-!
# The replay of a recording: `RunReplay`

Every row is pushed, which may drop it; the bounded continuous mode shifts samples out in front of
the solve and behind it, and waits until its window is full; the unbounded one does not look at the
buffer.  `ComputeIncremental` reads the last sample of the buffer in `ComputeInstantOffset`.

* `replayRow_calls` — with which buffer a row calls the solver.
* `calls_reach` — every call of a replay comes to the read.
* `calls_buffered_iff` — no call meets an empty buffer, but for an unbounded continuous replay that
  drops its first row.
-/

set_option autoImplicit false

namespace WKPairDriver.Calibration.Incremental

section

variable {D : Type} (d : DoubleArith D) (solve : Solvers D)

/-! ## What the solver offers besides -/

def CalibrationCalc.SampleCount (s : CalibrationCalc D) : ℕ := s.m_samples.length

def CalibrationCalc.ShiftSample (s : CalibrationCalc D) : CalibrationCalc D :=
  { s with m_samples := s.m_samples.tail }

/-- The constructor; `memory` is what the fields without an initializer hold. -/
def CalibrationCalc.fresh (memory : CalibrationCalc D) : CalibrationCalc D :=
  { memory with
    enableStaticRecalibration := true
    lockRelativePosition := false
    m_isValid := false
    m_refToTargetPose := identityTransform d
    m_relativePosCalibrated := false
    m_lastComputeUsedRelPose := false
    m_axisVariance := d.lit 0
    m_lastPriorRetargetingErrorM := d.infinity
    m_lastCandidateRetargetingErrorM := d.infinity
    m_samples := [] }

/-- The offset it notes, from the last sample; `none` is a read of an empty deque. -/
def ComputeInstantOffset (s : CalibrationCalc D) : Option (Vector3d D) :=
  s.m_samples.getLast?.map fun latestSample =>
    let updatedPose := d.transformed latestSample.target s.m_estimatedTransformation
    d.mulVec (solve.inverse latestSample.ref.rot) (d.vsub updatedPose latestSample.ref.trans)

/-- The call solves afresh, and so comes to `ComputeInstantOffset`. -/
def ReachesInstantOffset (s : CalibrationCalc D) (threshold relPoseMaxError : D) : Prop :=
  lockedCandidate d solve s = none ∧
    relPoseVerdict d solve s threshold relPoseMaxError = .notUsed

/-- `ComputeOneshot` without frozen samples. -/
def ComputeOneshot (s : CalibrationCalc D) (ignoreOutliers : Bool) : Bool × CalibrationCalc D :=
  let calibration := solve.ComputeCalibration s.m_samples ignoreOutliers
  if (ValidateCalibration d solve s.m_samples calibration).ok then
    (true, { s with m_estimatedTransformation := calibration, m_isValid := true })
  else (false, s)

/-! ## The replay -/

/-- A row, less its phase. -/
structure ReplayRow (D : Type) where
  timestamp : D
  ref : Pose D
  target : Pose D

/-- A loaded recording: its rows, and the error of the load. -/
structure LoadedRecording (D : Type) where
  rows : List (ReplayRow D)
  error : String

structure ReplayOptions (D : Type) where
  continuous : Bool
  threshold : D
  maxRelError : D
  ignoreOutliers : Bool
  maxContinuousSamples : ℕ

def ReplayOptions.boundedContinuous (opts : ReplayOptions D) : Bool :=
  opts.continuous && decide (0 < opts.maxContinuousSamples)

def ReplayOptions.continuousWindow (opts : ReplayOptions D) : ℕ :=
  if opts.boundedContinuous then opts.maxContinuousSamples else 0

def ReplayOptions.continuousDrop (opts : ReplayOptions D) : ℕ :=
  if opts.boundedContinuous then max 1 (opts.continuousWindow / 10) else 0

structure ReplayTickResult (D : Type) where
  timestamp : D
  accepted : Bool
  currentCalErrMm : D
  rejectReason : String

/-- The loop's variables, and the solver in front of each call of `ComputeIncremental`. -/
structure Replay (D : Type) where
  solver : CalibrationCalc D
  trace : List (ReplayTickResult D)
  accepts : ℕ
  rejects : ℕ
  maxSamplesInWindow : ℕ
  calls : List (CalibrationCalc D)

/-- The error of the present calibration in millimetres, 0 if there is none or it does not
    validate. -/
def errorMm (solver : CalibrationCalc D) : D :=
  let v := ValidateCalibration d solve solver.m_samples solver.m_estimatedTransformation
  if solver.m_isValid && v.ok then d.mul v.error (d.lit 1000.0) else d.lit 0

/-- `while (calc.SampleCount() > window) calc.ShiftSample()`. -/
def shiftTo (window : ℕ) : List (Sample D) → List (Sample D)
  | [] => []
  | s :: samples => if window < samples.length + 1 then shiftTo window samples else s :: samples

/-- The buffer behind the push of a row. -/
def pushRow (opts : ReplayOptions D) (solver : CalibrationCalc D) (row : ReplayRow D) :
    CalibrationCalc D :=
  let pushed := solver.PushSample d ⟨row.ref, row.target, true⟩
  if opts.boundedContinuous then
    { pushed with m_samples := shiftTo opts.continuousWindow pushed.m_samples }
  else pushed

def replayRow (opts : ReplayOptions D) (r : Replay D) (row : ReplayRow D) : Replay D :=
  let solver := pushRow d opts r.solver row
  let r := { r with
    solver := solver
    maxSamplesInWindow := max r.maxSamplesInWindow solver.SampleCount }
  if opts.continuous then
    if opts.boundedContinuous && decide (solver.SampleCount < opts.continuousWindow) then
      { r with trace := r.trace ++ [⟨row.timestamp, false, d.lit 0, "waiting_for_samples"⟩] }
    else
      let (ok, _, solved) :=
        ComputeIncremental d solve solver false opts.threshold opts.maxRelError opts.ignoreOutliers
      { r with
        solver := if opts.boundedContinuous then
            CalibrationCalc.ShiftSample^[opts.continuousDrop] solved
          else solved
        accepts := if ok then r.accepts + 1 else r.accepts
        rejects := if ok then r.rejects else r.rejects + 1
        trace := r.trace ++
          [⟨row.timestamp, ok, errorMm d solve solved, if ok then "" else "rejected"⟩]
        calls := r.calls ++ [solver] }
  else { r with trace := r.trace ++ [⟨row.timestamp, false, d.lit 0, ""⟩] }

def startReplay (memory : CalibrationCalc D) : Replay D where
  solver := { CalibrationCalc.fresh d memory with
    enableStaticRecalibration := false
    lockRelativePosition := false }
  trace := []
  accepts := 0
  rejects := 0
  maxSamplesInWindow := 0
  calls := []

def replayRows (memory : CalibrationCalc D) (opts : ReplayOptions D) (rows : List (ReplayRow D)) :
    Replay D :=
  rows.foldl (replayRow d solve opts) (startReplay d memory)

structure ReplayResult (D : Type) where
  succeeded : Bool
  rowsReplayed : ℕ
  accepts : ℕ
  rejects : ℕ
  maxSamplesInWindow : ℕ
  finalErrorMm : D
  finalTransform : AffineCompact3d D
  finalTransformValid : Bool
  trace : List (ReplayTickResult D)
  error : String

def ReplayResult.failed (error : String) : ReplayResult D where
  succeeded := false
  rowsReplayed := 0
  accepts := 0
  rejects := 0
  maxSamplesInWindow := 0
  finalErrorMm := d.lit 0
  finalTransform := identityTransform d
  finalTransformValid := false
  trace := []
  error := error

/-- The result, and the solver in front of each call of `ComputeIncremental`. -/
def RunReplay (memory : CalibrationCalc D) (rec : LoadedRecording D) (opts : ReplayOptions D) :
    ReplayResult D × List (CalibrationCalc D) :=
  if rec.error ≠ "" then (.failed d rec.error, [])
  else if rec.rows = [] then (.failed d "Recording has no replayable rows.", [])
  else
    let r := replayRows d solve memory opts rec.rows
    let (accepts, rejects, solver) :=
      if opts.continuous then (r.accepts, r.rejects, r.solver)
      else
        let (ok, solver) := ComputeOneshot d solve r.solver opts.ignoreOutliers
        if ok then (r.accepts + 1, r.rejects, solver) else (r.accepts, r.rejects + 1, solver)
    ({ succeeded := true
       rowsReplayed := rec.rows.length
       accepts := accepts
       rejects := rejects
       maxSamplesInWindow := r.maxSamplesInWindow
       finalErrorMm := errorMm d solve solver
       finalTransform :=
         if solver.m_isValid then solver.m_estimatedTransformation else identityTransform d
       finalTransformValid := solver.m_isValid
       trace := r.trace
       error := "" }, r.calls)

/-! ## What a row does to the buffer -/

/-- `PushSample` drops the row: a position that is not finite, or a coordinate beyond 5 m. -/
def Dropped (row : ReplayRow D) : Bool :=
  !d.finite row.ref.trans || !d.finite row.target.trans ||
    d.oversize row.ref.trans || d.oversize row.target.trans

variable {d solve} {opts : ReplayOptions D} {r : Replay D} {row : ReplayRow D}

/-- A call reads the buffer and the two flags. -/
theorem ComputeIncremental_frame (d : DoubleArith D) (solve : Solvers D) (s : CalibrationCalc D)
    (lerp ignoreOutliers : Bool) (threshold relPoseMaxError : D) :
    let t := (ComputeIncremental d solve s lerp threshold relPoseMaxError ignoreOutliers).2.2
    t.m_samples = s.m_samples ∧ t.enableStaticRecalibration = s.enableStaticRecalibration ∧
      t.lockRelativePosition = s.lockRelativePosition := by
  simp only [ComputeIncremental, install]
  split
  · exact ⟨rfl, rfl, rfl⟩
  · split
    · exact ⟨rfl, rfl, rfl⟩
    · exact ⟨rfl, rfl, rfl⟩
    · split_ifs <;> exact ⟨rfl, rfl, rfl⟩

theorem PushSample_samples (s : CalibrationCalc D) :
    (s.PushSample d ⟨row.ref, row.target, true⟩).m_samples =
      if Dropped d row then s.m_samples else s.m_samples ++ [⟨row.ref, row.target, true⟩] := by
  rw [CalibrationCalc.PushSample, Dropped]
  split <;> rfl

theorem pushRow_flags (d : DoubleArith D) (opts : ReplayOptions D) (s : CalibrationCalc D)
    (row : ReplayRow D) :
    (pushRow d opts s row).enableStaticRecalibration = s.enableStaticRecalibration ∧
      (pushRow d opts s row).lockRelativePosition = s.lockRelativePosition := by
  rw [pushRow, CalibrationCalc.PushSample]
  split_ifs <;> exact ⟨rfl, rfl⟩

theorem pushRow_unbounded (h : opts.boundedContinuous = false) (s : CalibrationCalc D) :
    (pushRow d opts s row).m_samples =
      if Dropped d row then s.m_samples else s.m_samples ++ [⟨row.ref, row.target, true⟩] := by
  rw [← PushSample_samples]
  simp [pushRow, h]

theorem ShiftSample_iterate_flags (n : ℕ) (s : CalibrationCalc D) :
    (CalibrationCalc.ShiftSample^[n] s).enableStaticRecalibration = s.enableStaticRecalibration ∧
      (CalibrationCalc.ShiftSample^[n] s).lockRelativePosition = s.lockRelativePosition := by
  induction n generalizing s with
  | zero => exact ⟨rfl, rfl⟩
  | succ n ih => exact ih s.ShiftSample

/-- **The call of a row**: there is none, or it is made with the buffer behind the push, which fills
    the window if there is one. -/
theorem replayRow_calls (d : DoubleArith D) (solve : Solvers D) (opts : ReplayOptions D)
    (r : Replay D) (row : ReplayRow D) :
    (replayRow d solve opts r row).calls = r.calls ∧ opts.continuous = opts.boundedContinuous ∨
      (replayRow d solve opts r row).calls = r.calls ++ [pushRow d opts r.solver row] ∧
        opts.continuous = true ∧
        (opts.boundedContinuous = true →
          opts.continuousWindow ≤ (pushRow d opts r.solver row).SampleCount) := by
  cases hcontinuous : opts.continuous with
  | false =>
    left
    simp [replayRow, hcontinuous, ReplayOptions.boundedContinuous]
  | true =>
    cases hbounded : opts.boundedContinuous with
    | false =>
      right
      simp [replayRow, hcontinuous, hbounded]
    | true =>
      by_cases hfull : (pushRow d opts r.solver row).SampleCount < opts.continuousWindow
      · left
        simp [replayRow, hcontinuous, hbounded, hfull]
      · right
        simp only [replayRow, hcontinuous, hbounded, hfull, if_true, decide_false, Bool.and_false,
          true_and]
        exact ⟨rfl, fun _ => Nat.le_of_not_lt hfull⟩

/-- The buffer of the unbounded continuous mode is the one behind the push. -/
theorem replayRow_unbounded (hcontinuous : opts.continuous = true)
    (hbounded : opts.boundedContinuous = false) :
    (replayRow d solve opts r row).solver.m_samples =
      (pushRow d opts r.solver row).m_samples := by
  simp only [replayRow, hcontinuous, hbounded, if_true, Bool.false_and]
  exact (ComputeIncremental_frame ..).1

theorem replayRow_flags :
    (replayRow d solve opts r row).solver.enableStaticRecalibration =
        r.solver.enableStaticRecalibration ∧
      (replayRow d solve opts r row).solver.lockRelativePosition =
        r.solver.lockRelativePosition := by
  have hpush := pushRow_flags d opts r.solver row
  have hcall := ComputeIncremental_frame d solve (pushRow d opts r.solver row) false
    opts.ignoreOutliers opts.threshold opts.maxRelError
  rw [replayRow]
  split
  · split
    · exact hpush
    · dsimp only
      split
      · rw [(ShiftSample_iterate_flags ..).1, (ShiftSample_iterate_flags ..).2, hcall.2.1,
          hcall.2.2]
        exact hpush
      · rw [hcall.2.1, hcall.2.2]
        exact hpush
  · exact hpush

/-! ## Every call comes to the read -/

theorem reaches_of_flags {s : CalibrationCalc D} (hstatic : s.enableStaticRecalibration = false)
    (hlock : s.lockRelativePosition = false) (threshold relPoseMaxError : D) :
    ReachesInstantOffset d solve s threshold relPoseMaxError := by
  constructor
  · simp [lockedCandidate, hlock]
  · simp [relPoseVerdict, relPose, hstatic]

variable (d solve opts)

/-- Both ways around the full solve are switched off, now and at every call so far. -/
structure SolvesAfresh (r : Replay D) : Prop where
  static : r.solver.enableStaticRecalibration = false
  lock : r.solver.lockRelativePosition = false
  calls : ∀ c ∈ r.calls, ReachesInstantOffset d solve c opts.threshold opts.maxRelError

variable {d solve opts}

theorem SolvesAfresh.step (h : SolvesAfresh d solve opts r) :
    SolvesAfresh d solve opts (replayRow d solve opts r row) where
  static := replayRow_flags.1.trans h.static
  lock := replayRow_flags.2.trans h.lock
  calls c hc := by
    rcases replayRow_calls d solve opts r row with
      ⟨heq, -⟩ | ⟨heq, -⟩
    · rw [heq] at hc
      exact h.calls c hc
    · rw [heq, List.mem_append, List.mem_singleton] at hc
      rcases hc with hc | rfl
      · exact h.calls c hc
      · exact reaches_of_flags ((pushRow_flags _ _ _ _).1.trans h.static)
          ((pushRow_flags _ _ _ _).2.trans h.lock) _ _

/-- What each row keeps, the rows keep. -/
theorem replayRows_of_step {P : Replay D → Prop}
    (hstep : ∀ r row, P r → P (replayRow d solve opts r row)) (rows : List (ReplayRow D))
    (h : P r) : P (rows.foldl (replayRow d solve opts) r) := by
  induction rows generalizing r with
  | nil => exact h
  | cons row rows ih => exact ih (hstep r row h)

theorem startReplay_solvesAfresh (memory : CalibrationCalc D) :
    SolvesAfresh d solve opts (startReplay d memory) :=
  ⟨rfl, rfl, fun _ hc => absurd hc List.not_mem_nil⟩

/-- The calls of a replay are those of its rows. -/
theorem RunReplay_calls (memory : CalibrationCalc D) (recording : LoadedRecording D) :
    (RunReplay d solve memory recording opts).2 =
      if recording.error ≠ "" then []
      else (replayRows d solve memory opts recording.rows).calls := by
  rw [RunReplay]
  by_cases herror : recording.error ≠ ""
  · rw [if_pos herror, if_pos herror]
  · rw [if_neg herror, if_neg herror]
    by_cases hrows : recording.rows = []
    · rw [if_pos hrows, hrows]
      rfl
    · rw [if_neg hrows]

/-- **Every call of a replay comes to the read** of the last sample. -/
theorem calls_reach (memory : CalibrationCalc D) (recording : LoadedRecording D) :
    ∀ c ∈ (RunReplay d solve memory recording opts).2,
      ReachesInstantOffset d solve c opts.threshold opts.maxRelError := by
  rw [RunReplay_calls]
  split
  · exact fun _ hc => absurd hc List.not_mem_nil
  · exact (replayRows_of_step (fun _ _ h => h.step) recording.rows
      (startReplay_solvesAfresh memory)).calls

/-! ## The buffers of the calls -/

variable (opts)

/-- No call so far met an empty buffer, and the unbounded continuous mode has a sample for the next
    one. -/
structure Buffered (r : Replay D) : Prop where
  calls : ∀ c ∈ r.calls, c.m_samples ≠ []
  next : opts.continuous = true → opts.boundedContinuous = false → r.solver.m_samples ≠ []

variable {opts}

/-- A full window has a sample. -/
theorem samples_of_window {s : CalibrationCalc D} (hbounded : opts.boundedContinuous = true)
    (hfull : opts.continuousWindow ≤ s.SampleCount) : s.m_samples ≠ [] := by
  have hpos : 0 < opts.maxContinuousSamples := by
    rw [ReplayOptions.boundedContinuous, Bool.and_eq_true, decide_eq_true_iff] at hbounded
    exact hbounded.2
  rw [ReplayOptions.continuousWindow, if_pos hbounded] at hfull
  exact List.ne_nil_of_length_pos (hpos.trans_le hfull)

/-- A row keeps this if the unbounded mode has a sample behind its push. -/
theorem Buffered.of_push (hcalls : ∀ c ∈ r.calls, c.m_samples ≠ [])
    (hpush : opts.continuous = true → opts.boundedContinuous = false →
      (pushRow d opts r.solver row).m_samples ≠ []) :
    Buffered opts (replayRow d solve opts r row) where
  calls c hc := by
    rcases replayRow_calls d solve opts r row with
      ⟨heq, -⟩ | ⟨heq, hcontinuous, hfull⟩
    · rw [heq] at hc
      exact hcalls c hc
    · rw [heq, List.mem_append, List.mem_singleton] at hc
      rcases hc with hc | rfl
      · exact hcalls c hc
      · cases hbounded : opts.boundedContinuous with
        | false => exact hpush hcontinuous hbounded
        | true => exact samples_of_window hbounded (hfull hbounded)
  next hcontinuous hbounded := by
    rw [replayRow_unbounded hcontinuous hbounded]
    exact hpush hcontinuous hbounded

theorem Buffered.step (h : Buffered opts r) : Buffered opts (replayRow d solve opts r row) := by
  refine .of_push h.calls fun hcontinuous hbounded => ?_
  rw [pushRow_unbounded hbounded]
  split
  · exact h.next hcontinuous hbounded
  · exact List.append_ne_nil_of_right_ne_nil _ (List.cons_ne_nil _ _)

variable (d opts)

/-- An unbounded continuous replay whose first row is dropped. -/
def DropsFirst (recording : LoadedRecording D) : Prop :=
  recording.error = "" ∧ opts.continuous = true ∧ opts.maxContinuousSamples = 0 ∧
    ∃ row ∈ recording.rows.head?, Dropped d row = true

variable {d opts}

theorem boundedContinuous_eq_false_iff (h : opts.continuous = true) :
    opts.boundedContinuous = false ↔ opts.maxContinuousSamples = 0 := by
  simp [ReplayOptions.boundedContinuous, h]

/-- The first row leaves a sample, unless the replay drops it. -/
theorem Buffered.first {memory : CalibrationCalc D}
    (h : opts.continuous = true → opts.maxContinuousSamples = 0 → Dropped d row = false) :
    Buffered opts (replayRow d solve opts (startReplay d memory) row) := by
  refine .of_push (fun _ hc => absurd hc List.not_mem_nil) fun hcontinuous hbounded => ?_
  rw [pushRow_unbounded hbounded,
    h hcontinuous ((boundedContinuous_eq_false_iff hcontinuous).1 hbounded)]
  exact List.append_ne_nil_of_right_ne_nil _ (List.cons_ne_nil _ _)

/-- The first call of an unbounded continuous replay that drops its first row. -/
theorem first_call_empty (solve : Solvers D) (memory : CalibrationCalc D)
    (hcontinuous : opts.continuous = true)
    (hbounded : opts.boundedContinuous = false) (hdropped : Dropped d row = true) :
    ∃ c ∈ (replayRow d solve opts (startReplay d memory) row).calls, c.m_samples = [] := by
  rcases replayRow_calls d solve opts (startReplay d memory) row with ⟨-, heq⟩ | ⟨heq, -⟩
  · rw [hcontinuous, hbounded] at heq
    cases heq
  · refine ⟨pushRow d opts (startReplay d memory).solver row, ?_, ?_⟩
    · rw [heq]
      exact List.mem_append_right _ List.mem_cons_self
    · rw [pushRow_unbounded hbounded, if_pos hdropped]
      rfl

theorem mem_calls_step {c : CalibrationCalc D} (h : c ∈ r.calls) :
    c ∈ (replayRow d solve opts r row).calls := by
  rcases replayRow_calls d solve opts r row with
    ⟨heq, -⟩ | ⟨heq, -⟩
  · rwa [heq]
  · rw [heq]
    exact List.mem_append_left _ h

theorem exists_call_empty (solve : Solvers D) (memory : CalibrationCalc D)
    {recording : LoadedRecording D} (h : DropsFirst d opts recording) :
    ∃ c ∈ (RunReplay d solve memory recording opts).2, c.m_samples = [] := by
  obtain ⟨herror, hcontinuous, hmax, row, hrow, hdropped⟩ := h
  obtain ⟨rows, hrows⟩ := List.head?_eq_some_iff.1 hrow
  have hbounded := (boundedContinuous_eq_false_iff hcontinuous).2 hmax
  obtain ⟨c, hc, hempty⟩ :=
    first_call_empty solve memory hcontinuous hbounded hdropped
  refine ⟨c, ?_, hempty⟩
  rw [RunReplay_calls, if_neg (not_not.2 herror), replayRows, hrows, List.foldl_cons]
  exact replayRows_of_step (P := fun r => c ∈ r.calls) (fun _ _ h => mem_calls_step h) rows hc

variable (d solve opts)

/-- Every call of `ComputeIncremental` has a sample to read. -/
def CallsBuffered (memory : CalibrationCalc D) (recording : LoadedRecording D) : Prop :=
  ∀ c ∈ (RunReplay d solve memory recording opts).2,
    c.m_samples ≠ [] ∧ (ComputeInstantOffset d solve c).isSome = true

theorem callsBuffered_iff_samples (memory : CalibrationCalc D) (recording : LoadedRecording D) :
    CallsBuffered d solve opts memory recording ↔
      ∀ c ∈ (RunReplay d solve memory recording opts).2, c.m_samples ≠ [] := by
  refine forall₂_congr fun c _ => and_iff_left_of_imp fun hne => ?_
  simpa [ComputeInstantOffset] using hne

/-- **No call of a replay meets an empty buffer**, exactly when it is not an unbounded continuous
    one that drops its first row. -/
theorem calls_buffered_iff (memory : CalibrationCalc D) (recording : LoadedRecording D) :
    CallsBuffered d solve opts memory recording ↔ ¬DropsFirst d opts recording := by
  rw [callsBuffered_iff_samples]
  constructor
  · intro hbuffered hdrops
    obtain ⟨c, hc, hempty⟩ := exists_call_empty solve memory hdrops
    exact hbuffered c hc hempty
  · intro hfirst
    rw [RunReplay_calls]
    split_ifs with herror
    · exact fun _ hc => absurd hc List.not_mem_nil
    · rw [replayRows]
      cases hrows : recording.rows with
      | nil => exact fun _ hc => absurd hc List.not_mem_nil
      | cons row rows =>
        rw [List.foldl_cons]
        refine (replayRows_of_step (fun _ _ h => Buffered.step h) rows (Buffered.first ?_)).calls
        intro hcontinuous hmax
        rw [← Bool.not_eq_true]
        intro hdropped
        exact hfirst ⟨not_not.1 herror, hcontinuous, hmax, row, by rw [hrows]; rfl, hdropped⟩

/-! ## A recording that starts out of range -/

/-- A tracker 6 m from the origin, in front of one at the origin. -/
def farStart : LoadedRecording (Option ℚ) where
  rows := [6, 0].map fun x =>
    ⟨some 0, (levelSample 0).ref, (levelSample x).target⟩
  error := ""

/-- The default options, with every sample kept. -/
def keepEverySample : ReplayOptions (Option ℚ) where
  continuous := true
  threshold := some 1.5
  maxRelError := some 0.005
  ignoreOutliers := true
  maxContinuousSamples := 0

/-- The solver is called without a sample. -/
theorem farStart_unbuffered :
    ¬CallsBuffered exactDoubles levelSolvers keepEverySample seededState farStart := by
  intro hbuffered
  have hdropped : Dropped exactDoubles ⟨some 0, (levelSample 0).ref, (levelSample 6).target⟩ =
      true := by decide +kernel
  have hdrops : DropsFirst exactDoubles keepEverySample farStart :=
    ⟨rfl, rfl, rfl, _, rfl, hdropped⟩
  obtain ⟨c, hc, hempty⟩ := exists_call_empty levelSolvers seededState hdrops
  exact (hbuffered c hc).1 hempty

end

end WKPairDriver.Calibration.Incremental
