import WKPairDriver.InputHealth.BooleanComponent
import WKPairDriver.InputHealth.StableRest

/-!
# The learning engine

The overlay's `LearningEngine` reads the driver's snapshots ten times a second, learns for every
path of every device a debounce time, a rest offset or a trigger range, keeps what it has learned in
the device's profile, and pushes it to the driver.

* `visit` — one iteration of one of the two loops of `Tick`, for booleans and for scalars.
* `Engine.apply` — the calls of the engine; `step` has the restart of the overlay as well.

Arithmetic is exact; counters and times are natural numbers.  A path state is found by serial hash
and path, as it is by the key made of them, and does not repeat them.
-/

set_option autoImplicit false

namespace WKPairDriver.InputHealth.Learning

variable {K : Type} [Field K] [LinearOrder K]

/-! ## Welford's accumulator -/

structure WelfordState (K : Type) where
  count : Nat
  mean : K
  m2 : K
  deriving DecidableEq

def WelfordState.fresh : WelfordState K := ⟨0, 0, 0⟩

def WelfordUpdate (s : WelfordState K) (x : K) : WelfordState K :=
  let count := s.count + 1
  let delta := x - s.mean
  let mean := s.mean + delta / (count : K)
  let delta2 := x - mean
  ⟨count, mean, s.m2 + delta * delta2⟩

def SampleVariance (s : WelfordState K) : K :=
  if s.count < 2 then 0 else s.m2 / ((s.count - 1 : Nat) : K)

/-- `SampleStdDev`, with `std::sqrt`. -/
def SampleStdDev (sqrt : K → K) (s : WelfordState K) : K := sqrt (SampleVariance s)

/-! ## Rules -/

def kOpenVrScalarTypeAbsolute : UInt8 := 0
def kOpenVrScalarUnitsNormalizedOneSided : UInt8 := 0
def kOpenVrScalarUnitsNormalizedTwoSided : UInt8 := 1
def kButtonBounceReadyTransitions : Nat := 3

def IsStickKind (kind : UInt8) : Bool :=
  kind == InputHealthCompStickX || kind == InputHealthCompStickY

def IsTriggerKind (kind : UInt8) (path : String) : Bool :=
  kind == InputHealthCompScalarSingle && IsTriggerLikePath path

def ScalarMetadataAllowsCompensation (kind : UInt8) (path : String)
    (scalar_type scalar_units : UInt8) : Bool :=
  if scalar_type ≠ kOpenVrScalarTypeAbsolute then false
  else if IsStickKind kind then scalar_units == kOpenVrScalarUnitsNormalizedTwoSided
  else if IsTriggerLikePath path then scalar_units == kOpenVrScalarUnitsNormalizedOneSided
  else true

def ScalarMetadataAllowsLearning (path_class : PathClass) (path : String)
    (kind scalar_type scalar_units : UInt8) : Bool :=
  if !IsCompensationPath path_class then false
  else if IsTriggerLikePath path then
    ScalarMetadataAllowsCompensation kind path scalar_type scalar_units
  else
    ScalarMetadataAllowsCompensation kind path scalar_type scalar_units ||
      (kind == InputHealthCompScalarSingle && scalar_type == kOpenVrScalarTypeAbsolute)

def IsStrictStickRest (x y : K) (buttons_quiet : Bool) : Bool :=
  buttons_quiet && decide (|x| < 0.05) && decide (|y| < 0.05)

/-- `IsStableStickRestCandidate`, with `std::hypot`. -/
def IsStableStickRestCandidate (hypot : K → K → K) (x y : K) (buttons_quiet : Bool) : Bool :=
  buttons_quiet && decide (hypot x y ≤ 0.15)

def IsStrictTriggerRest (value : K) : Bool := decide (value < 0.05)

def IsStableTriggerRestCandidate (value : K) (buttons_quiet : Bool) : Bool :=
  buttons_quiet && decide (0 ≤ value) && decide (value ≤ 0.10)

/-- The sum wraps at 32 bits. -/
def DebounceFromBounceInterval (interval_us : Nat) : Nat :=
  max 1000 (min 20000 ((interval_us + 1000) % 2 ^ 32))

def IsSystemButtonPath (path : String) : Bool := finds path "/input/system/"

def KindString (kind : UInt8) : String :=
  if kind = InputHealthCompStickX then "stick_x"
  else if kind = InputHealthCompStickY then "stick_y"
  else if kind = InputHealthCompBoolean then "boolean"
  else "scalar_single"

def KindFromString (kind : String) : UInt8 :=
  if kind = "stick_x" then InputHealthCompStickX
  else if kind = "stick_y" then InputHealthCompStickY
  else if kind = "boolean" then InputHealthCompBoolean
  else InputHealthCompScalarSingle

def ReadyThreshold (kind : UInt8) : Nat := if kind = InputHealthCompBoolean then 500 else 1024

def ClampDouble (value lo hi : K) : K := max lo (min value hi)

/-! ## Data -/

/-- The fields of `InputHealthSnapshotBody` that the engine reads, and `welford_count`, the number
    of samples the driver has seen of a scalar. -/
structure SnapshotBody (K : Type) where
  handle : UInt64
  device_serial_hash : UInt64
  partner_handle : UInt64
  path : String
  is_scalar : Bool
  is_boolean : Bool
  axis_role : UInt8
  scalar_type : UInt8
  scalar_units : UInt8
  welford_count : Nat
  last_value : K
  press_count : Nat
  bounce_transition_count : Nat
  bounce_max_interval_us : Nat
  scalar_range_initialized : Bool
  observed_max : K

def KindForBody (b : SnapshotBody K) : UInt8 :=
  if b.is_boolean then InputHealthCompBoolean
  else if b.axis_role = InputHealthCompStickX then InputHealthCompStickX
  else if b.axis_role = InputHealthCompStickY then InputHealthCompStickY
  else InputHealthCompScalarSingle

structure LearnedPathRecord (K : Type) where
  path : String
  kind : String
  sample_count : Nat
  ready : Bool
  learned_rest_offset : K
  learned_stddev : K
  learned_trigger_min : K
  learned_trigger_max : K
  learned_deadzone_radius : K
  learned_debounce_us : Nat
  last_updated_unix : Nat
  drift_shift_resets : Nat
  deriving DecidableEq

structure DeviceProfile (K : Type) where
  corrections_enabled : Bool
  learned_paths : List (LearnedPathRecord K)
  deriving DecidableEq

structure PathState (K : Type) where
  kind : UInt8
  rest : WelfordState K
  rest_credit : K
  trigger_peak : K
  short_mean : K
  short_mean_initialized : Bool
  last_press_count : Nat
  last_press_time_us : Nat
  inter_press_us : List Nat
  stable_rest : StableRestWindow K
  sample_count : Nat
  ready : Bool
  drift_shift_pending : Bool
  drift_exceeded_since_us : Nat
  drift_cooldown_until_us : Nat
  last_persist_us : Nat
  learned_rest_offset : K
  learned_stddev : K
  learned_trigger_min : K
  learned_trigger_max : K
  learned_deadzone_radius : K
  learned_debounce_us : Nat
  last_updated_unix : Nat
  drift_shift_resets : Nat

/-- `InputHealthCompensationEntry`, with all that is learned. -/
structure CompensationEntry (K : Type) where
  device_serial_hash : UInt64
  path : String
  kind : UInt8
  enabled : Bool
  learned_rest_offset : K
  learned_trigger_min : K
  learned_trigger_max : K
  learned_deadzone_radius : K
  learned_debounce_us : Nat
  deriving DecidableEq

def PathState.fresh : PathState K where
  kind := InputHealthCompScalarSingle
  rest := .fresh
  rest_credit := 0
  trigger_peak := 0
  short_mean := 0
  short_mean_initialized := false
  last_press_count := 0
  last_press_time_us := 0
  inter_press_us := []
  stable_rest := .reset
  sample_count := 0
  ready := false
  drift_shift_pending := false
  drift_exceeded_since_us := 0
  drift_cooldown_until_us := 0
  last_persist_us := 0
  learned_rest_offset := 0
  learned_stddev := 0
  learned_trigger_min := 0
  learned_trigger_max := 0
  learned_deadzone_radius := 0
  learned_debounce_us := 0
  last_updated_unix := 0
  drift_shift_resets := 0

/-- The accumulator `StateFor` rebuilds. -/
def LearnedPathRecord.rest (record : LearnedPathRecord K) : WelfordState K :=
  if 1 < record.sample_count then
    ⟨record.sample_count, record.learned_rest_offset,
      record.learned_stddev * record.learned_stddev * ((record.sample_count - 1 : Nat) : K)⟩
  else .fresh

/-- The state `StateFor` makes of a record. -/
def LearnedPathRecord.restore (record : LearnedPathRecord K) : PathState K :=
  { PathState.fresh with
    kind := KindFromString record.kind
    rest := record.rest
    sample_count := record.sample_count
    ready := record.ready
    learned_rest_offset := record.learned_rest_offset
    learned_stddev := record.learned_stddev
    learned_trigger_min := record.learned_trigger_min
    learned_trigger_max := record.learned_trigger_max
    learned_deadzone_radius := record.learned_deadzone_radius
    learned_debounce_us := record.learned_debounce_us
    last_updated_unix := record.last_updated_unix
    drift_shift_resets := record.drift_shift_resets }

/-- The record `SyncProfile` writes. -/
def PathState.toRecord (state : PathState K) (path : String) : LearnedPathRecord K where
  path := path
  kind := KindString state.kind
  sample_count := state.sample_count
  ready := state.ready
  learned_rest_offset := state.learned_rest_offset
  learned_stddev := state.learned_stddev
  learned_trigger_min := state.learned_trigger_min
  learned_trigger_max := state.learned_trigger_max
  learned_deadzone_radius := state.learned_deadzone_radius
  learned_debounce_us := state.learned_debounce_us
  last_updated_unix := state.last_updated_unix
  drift_shift_resets := state.drift_shift_resets

/-! ## The engine -/

/-- What the world outside answers in one visit or call: whether the driver is connected, the clocks
    `SteadyMicros` and `UnixSeconds`, and whether `Save` writes the file. -/
structure Surroundings where
  connected : Bool
  steadyUs : Nat
  unixSeconds : Nat
  saved : Bool
  deriving DecidableEq

/-- The engine with its profile store, the profile files, and the compensations it has sent. -/
structure Engine (K : Type) where
  rest_burst_active : Bool
  states : UInt64 → String → Option (PathState K)
  device_button_quiet_until_us : UInt64 → Option Nat
  profiles : UInt64 → Option (DeviceProfile K)
  files : UInt64 → Option (DeviceProfile K)
  pushed : List (CompensationEntry K)

/-- The profile `GetOrCreate` creates. -/
def DeviceProfile.fresh : DeviceProfile K := ⟨true, []⟩

def FindRecord (profile : DeviceProfile K) (path : String) : Option (LearnedPathRecord K) :=
  profile.learned_paths.find? fun record => decide (record.path = path)

/-- The record of a path is written, at the end if there is none. -/
def putRecord (record : LearnedPathRecord K) :
    List (LearnedPathRecord K) → List (LearnedPathRecord K)
  | [] => [record]
  | r :: rs => if r.path = record.path then record :: rs else r :: putRecord record rs

namespace Engine

/-- An engine that has just been constructed. -/
def start (profiles files : UInt64 → Option (DeviceProfile K)) : Engine K :=
  ⟨false, fun _ _ => none, fun _ => none, profiles, files, []⟩

def put (s : Engine K) (serial : UInt64) (path : String) (state : PathState K) : Engine K :=
  { s with states := fun h p => if h = serial ∧ p = path then some state else s.states h p }

def state (s : Engine K) (serial : UInt64) (path : String) : PathState K :=
  (s.states serial path).getD .fresh

def GetOrCreate (s : Engine K) (serial : UInt64) : DeviceProfile K :=
  (s.profiles serial).getD .fresh

def setProfile (s : Engine K) (serial : UInt64) (profile : DeviceProfile K) : Engine K :=
  { s with profiles := fun h => if h = serial then some profile else s.profiles h }

/-- `Save`. -/
def Save (s : Engine K) (around : Surroundings) (serial : UInt64) (profile : DeviceProfile K) :
    Engine K :=
  if around.saved then
    { s.setProfile serial profile with
      files := fun h => if h = serial then some profile else s.files h }
  else s

/-- `StateFor` on the path's state: it exists behind the call. -/
def StateFor (s : Engine K) (serial : UInt64) (path : String) : Engine K :=
  match s.states serial path with
  | some _ => s
  | none =>
    let profile := s.GetOrCreate serial
    (s.setProfile serial profile).put serial path
      (match FindRecord profile path with
      | some record => record.restore
      | none => .fresh)

/-- The profile with the record of a path. -/
def profileWith (s : Engine K) (serial : UInt64) (path : String) : DeviceProfile K :=
  { s.GetOrCreate serial with
    learned_paths :=
      putRecord ((s.state serial path).toRecord path) (s.GetOrCreate serial).learned_paths }

/-- `SyncProfile`. -/
def SyncProfile (s : Engine K) (around : Surroundings) (serial : UInt64) (path : String)
    (immediate : Bool) : Engine K :=
  let state := s.state serial path
  if immediate = false ∧ state.last_persist_us ≠ 0 ∧
      around.steadyUs - state.last_persist_us < 5000000 then s
  else
    let profile := s.profileWith serial path
    let s := (s.setProfile serial profile).Save around serial profile
    if around.saved then s.put serial path { state with last_persist_us := around.steadyUs } else s

/-- The entry `PushCompensation` sends. -/
def compensationEntry (s : Engine K) (serial : UInt64) (path : String) (state : PathState K)
    (enabled : Bool) : CompensationEntry K where
  device_serial_hash := serial
  path := path
  kind := state.kind
  enabled := enabled && (s.profiles serial).all (·.corrections_enabled)
  learned_rest_offset := state.learned_rest_offset
  learned_trigger_min := state.learned_trigger_min
  learned_trigger_max := state.learned_trigger_max
  learned_deadzone_radius := state.learned_deadzone_radius
  learned_debounce_us := min 65535 state.learned_debounce_us

/-- `PushCompensation`. -/
def PushCompensation (s : Engine K) (around : Surroundings) (serial : UInt64) (path : String)
    (state : PathState K) (enabled : Bool) : Engine K :=
  if around.connected then
    { s with pushed := s.pushed ++ [s.compensationEntry serial path state enabled] }
  else s

/-- A path's state is saved at once and pushed. -/
def publish (s : Engine K) (around : Surroundings) (serial : UInt64) (path : String)
    (enabled : Bool) : Engine K :=
  let s := s.SyncProfile around serial path true
  s.PushCompensation around serial path (s.state serial path) enabled

end Engine

/-! ## Learning from booleans -/

/-- What both loops ask of a body before anything else. -/
def compensable (b : SnapshotBody K) : Bool :=
  decide (b.device_serial_hash ≠ 0) && !b.path.isEmpty &&
    IsCompensationPath (ClassifyInputPath b.path)

/-- The driver has counted enough bounces of a button. -/
def bounceEvidence (b : SnapshotBody K) : Bool :=
  !IsSystemButtonPath b.path &&
    decide (kButtonBounceReadyTransitions ≤ b.bounce_transition_count) &&
    decide (0 < b.bounce_max_interval_us)

namespace PathState

def withKind (state : PathState K) (kind : UInt8) : PathState K := { state with kind := kind }

/-- The bounces tell more than what is learned. -/
def bounceLearns (state : PathState K) (b : SnapshotBody K) : Bool :=
  bounceEvidence b && (!state.ready ||
    decide (state.learned_debounce_us < DebounceFromBounceInterval b.bounce_max_interval_us))

def learnBounce (state : PathState K) (b : SnapshotBody K) (unixSeconds : Nat) : PathState K :=
  { state with
    learned_debounce_us := DebounceFromBounceInterval b.bounce_max_interval_us
    ready := true
    last_updated_unix := unixSeconds
    sample_count := max state.sample_count (max b.press_count b.bounce_transition_count) }

/-- The interval from the press before, in a list of at most 1024. -/
def pressIntervals (state : PathState K) (now_us : Nat) : List Nat :=
  if state.last_press_time_us = 0 then state.inter_press_us
  else
    (if 1024 ≤ state.inter_press_us.length then state.inter_press_us.tail
      else state.inter_press_us) ++ [now_us - state.last_press_time_us]

def countPress (state : PathState K) (b : SnapshotBody K) (now_us : Nat) : PathState K :=
  { state with
    inter_press_us := state.pressIntervals now_us
    last_press_time_us := now_us
    last_press_count := b.press_count
    sample_count := max state.sample_count b.press_count }

/-- Enough presses with an interval between two of them. -/
def pressesLearn (state : PathState K) : Bool :=
  !state.ready && decide (ReadyThreshold state.kind ≤ state.sample_count) &&
    !state.inter_press_us.isEmpty

/-- The interval at the first percentile, between 1 and 20 ms. -/
def pressDebounce (intervals : List Nat) : Nat :=
  let samples := intervals.mergeSort
  max 1000 (min 20000 (samples.getD ((samples.length - 1) / 100) 0))

def learnPresses (state : PathState K) (unixSeconds : Nat) : PathState K :=
  { state with
    learned_debounce_us := pressDebounce state.inter_press_us
    ready := true
    last_updated_unix := unixSeconds }

end PathState

/-- Where in a tick the world outside is asked. -/
inductive CallSite where
  | bounce
  | press
  | scalar
  deriving DecidableEq

/-- What a tick reads: the clock, the entries of the snapshot in the order of their map, and the
    answers of the world outside at each visit. -/
structure TickInput (K : Type) where
  now_us : Nat
  entries : List (SnapshotBody K)
  around : CallSite → UInt64 → Surroundings

section Booleans

variable (t : TickInput K) (b : SnapshotBody K) (s : Engine K)

/-- Learning from bounces. -/
def learnFromBounces : Engine K :=
  let state := s.state b.device_serial_hash b.path
  let around := t.around .bounce b.handle
  if state.bounceLearns b then
    (s.put b.device_serial_hash b.path (state.learnBounce b around.unixSeconds)).publish around
      b.device_serial_hash b.path true
  else s

/-- The device's buttons are not quiet for half a second. -/
def unquiet : Engine K :=
  { s with
    device_button_quiet_until_us := fun h =>
      if h = b.device_serial_hash then some (t.now_us + 500000)
      else s.device_button_quiet_until_us h }

/-- Learning from presses. -/
def learnFromPresses : Engine K :=
  let state := s.state b.device_serial_hash b.path
  let around := t.around .press b.handle
  if state.last_press_count < b.press_count then
    let state := state.countPress b t.now_us
    let s := unquiet t b s
    if state.pressesLearn then
      (s.put b.device_serial_hash b.path (state.learnPresses around.unixSeconds)).publish around
        b.device_serial_hash b.path true
    else
      (s.put b.device_serial_hash b.path state).SyncProfile around b.device_serial_hash b.path false
  else s

/-- The state a visit of a boolean learns from. -/
def enterBoolean : Engine K :=
  let s := s.StateFor b.device_serial_hash b.path
  s.put b.device_serial_hash b.path
    ((s.state b.device_serial_hash b.path).withKind InputHealthCompBoolean)

/-- One iteration of the loop over booleans. -/
def visitBoolean : Engine K :=
  if b.is_boolean && compensable b then
    learnFromPresses t b (learnFromBounces t b (enterBoolean b s))
  else s

end Booleans

/-! ## Learning from scalars -/

namespace PathState

/-- The highest value of a trigger. -/
def trackPeak (state : PathState K) (b : SnapshotBody K) : PathState K :=
  if IsTriggerKind state.kind b.path then
    let peak := max state.trigger_peak b.last_value
    { state with
      trigger_peak := if b.scalar_range_initialized then max peak b.observed_max else peak }
  else state

def withStableRest (state : PathState K) (w : StableRestWindow K) : PathState K :=
  { state with stable_rest := w }

/-- The window after a tick, and whether it says the axis is at rest. -/
def stableRest (state : PathState K) (candidate : Bool) (primary partner : K) (now_us : Nat) :
    StableRestWindow K × Bool :=
  updateStableRestWindow (· - ·) state.stable_rest
    ⟨candidate, primary, partner, now_us, 0.010, 1000000⟩

/-- Whether the value is one at rest; the stable-rest window moves. -/
def observeRest (hypot : K → K → K) (state : PathState K) (t : TickInput K) (b : SnapshotBody K)
    (buttonsQuiet : Bool) : PathState K × Bool :=
  if IsStickKind state.kind then
    match t.entries.find? fun e => decide (e.handle = b.partner_handle) with
    | some partner =>
      let strictRest := IsStrictStickRest b.last_value partner.last_value buttonsQuiet
      let stable := state.stableRest
        (IsStableStickRestCandidate hypot b.last_value partner.last_value buttonsQuiet)
        b.last_value partner.last_value t.now_us
      (state.withStableRest stable.1, strictRest || stable.2)
    | none => (state.withStableRest .reset, false)
  else if IsTriggerKind state.kind b.path then
    let stable := state.stableRest (IsStableTriggerRestCandidate b.last_value buttonsQuiet)
      b.last_value 0 t.now_us
    (state.withStableRest stable.1, IsStrictTriggerRest b.last_value || stable.2)
  else (state, decide (|b.last_value| < 0.05) && buttonsQuiet)

/-- Every whole credit takes the value into the accumulator; half a credit or one comes in with a
    value at rest, and there is less than one before. -/
def addCredit (state : PathState K) (credit value : K) : PathState K :=
  let credit := state.rest_credit + credit
  if 1 ≤ credit then
    { state with rest := WelfordUpdate state.rest value, rest_credit := credit - 1 }
  else { state with rest_credit := credit }

/-- A value at rest. -/
def takeRest (state : PathState K) (burst : Bool) (value : K) : PathState K :=
  let state := state.addCredit (if burst then 1 else 0.5) value
  { state with
    sample_count := state.rest.count
    short_mean :=
      if state.short_mean_initialized then
        state.short_mean + 0.05 * (value - state.short_mean)
      else value
    short_mean_initialized := true }

/-- The short mean is off the learned offset, and the last relearning is over. -/
def drifts (state : PathState K) (now_us : Nat) : Bool :=
  decide (state.drift_cooldown_until_us ≤ now_us) &&
    decide (3.0 * max 0.001 state.learned_stddev < |state.short_mean - state.learned_rest_offset|)

/-- The time since which the short mean is off. -/
def withDriftSince (state : PathState K) (now_us : Nat) : PathState K :=
  { state with
    drift_exceeded_since_us :=
      if state.drift_exceeded_since_us = 0 then now_us else state.drift_exceeded_since_us }

def noDrift (state : PathState K) : PathState K :=
  { state with drift_exceeded_since_us := 0, drift_shift_pending := false }

/-- All that was learned is dropped. -/
def relearn (state : PathState K) (now_us unixSeconds : Nat) : PathState K :=
  { state with
    ready := false
    drift_shift_pending := true
    drift_exceeded_since_us := 0
    drift_cooldown_until_us := now_us + 60000000
    drift_shift_resets := state.drift_shift_resets + 1
    sample_count := 0
    rest_credit := 0
    rest := .fresh
    short_mean_initialized := false
    learned_rest_offset := 0
    learned_stddev := 0
    learned_trigger_min := 0
    learned_trigger_max := 0
    learned_deadzone_radius := 0
    learned_debounce_us := 0
    last_updated_unix := unixSeconds }

/-- Enough values at rest, close enough to each other. -/
def restLearns (sqrt : K → K) (state : PathState K) (path : String) : Bool :=
  decide (ReadyThreshold state.kind ≤ state.rest.count) &&
    decide (SampleStdDev sqrt state.rest < if IsTriggerKind state.kind path then 0.05 else 0.02)

def learnRest (sqrt : K → K) (state : PathState K) (path : String) (unixSeconds : Nat) :
    PathState K :=
  let stddev := SampleStdDev sqrt state.rest
  { state with
    ready := true
    drift_shift_pending := false
    learned_rest_offset := state.rest.mean
    learned_stddev := stddev
    learned_trigger_min :=
      if IsTriggerKind state.kind path then ClampDouble state.rest.mean 0 0.10
      else state.learned_trigger_min
    learned_trigger_max :=
      if IsTriggerKind state.kind path then
        (if 0.10 < state.trigger_peak then state.trigger_peak else 1)
      else state.learned_trigger_max
    learned_deadzone_radius :=
      if IsStickKind state.kind then ClampDouble (stddev * 3.0) 0.01 0.08
      else state.learned_deadzone_radius
    last_updated_unix := unixSeconds }

end PathState

section Scalars

variable (sqrt : K → K) (hypot : K → K → K) (t : TickInput K) (b : SnapshotBody K) (s : Engine K)

/-- No button of the device was pressed lately. -/
def buttonsQuiet : Bool :=
  (s.device_button_quiet_until_us b.device_serial_hash).all fun until_us =>
    decide (until_us ≤ t.now_us)

/-- A value at rest on a path that is ready. -/
def watchDrift (state : PathState K) : Engine K :=
  let around := t.around .scalar b.handle
  if state.drifts t.now_us then
    let state := state.withDriftSince t.now_us
    if 10000000 ≤ t.now_us - state.drift_exceeded_since_us then
      (s.put b.device_serial_hash b.path (state.relearn t.now_us around.unixSeconds)).publish around
        b.device_serial_hash b.path false
    else s.put b.device_serial_hash b.path state
  else s.put b.device_serial_hash b.path state.noDrift

/-- A value at rest on a path that is not ready. -/
def learnFromRest (state : PathState K) : Engine K :=
  let around := t.around .scalar b.handle
  if state.restLearns sqrt b.path then
    (s.put b.device_serial_hash b.path
      (state.learnRest sqrt b.path around.unixSeconds)).publish around b.device_serial_hash b.path
        true
  else (s.put b.device_serial_hash b.path state).SyncProfile around b.device_serial_hash b.path false

/-- The state a visit of a scalar learns from. -/
def scalarState : PathState K :=
  ((s.StateFor b.device_serial_hash b.path).state b.device_serial_hash b.path).withKind
    (KindForBody b)

/-- A scalar's value is looked at. -/
def observeScalar (state : PathState K) : Engine K :=
  let observed := (state.trackPeak b).observeRest hypot t b (buttonsQuiet t b s)
  if observed.2 = false then s.put b.device_serial_hash b.path observed.1
  else
    let state := observed.1.takeRest s.rest_burst_active b.last_value
    if state.ready then watchDrift t b s state else learnFromRest sqrt t b s state

/-- One iteration of the loop over scalars. -/
def visitScalar : Engine K :=
  if b.is_scalar && compensable b then
    let state := scalarState b s
    let s := s.StateFor b.device_serial_hash b.path
    if ScalarMetadataAllowsLearning (ClassifyInputPath b.path) b.path state.kind b.scalar_type
        b.scalar_units then
      observeScalar sqrt hypot t b s state
    else s.put b.device_serial_hash b.path state
  else s

end Scalars

/-- An iteration of a loop. -/
inductive Visit (K : Type) where
  | boolean (b : SnapshotBody K)
  | scalar (b : SnapshotBody K)

/-- One iteration. -/
def visit (sqrt : K → K) (hypot : K → K → K) (t : TickInput K) (s : Engine K) : Visit K → Engine K
  | .boolean b => visitBoolean t b s
  | .scalar b => visitScalar sqrt hypot t b s

/-- The iterations of the two loops. -/
def TickInput.visits (t : TickInput K) : List (Visit K) :=
  t.entries.map .boolean ++ t.entries.map .scalar

/-- `Tick`. -/
def Tick (sqrt : K → K) (hypot : K → K → K) (s : Engine K) (t : TickInput K) : Engine K :=
  t.visits.foldl (visit sqrt hypot t) s

/-! ## The other calls -/

namespace Engine

/-- The state made of a record for a push; it reads what is learned only. -/
def pushRecord (around : Surroundings) (serial : UInt64) (enabled : Bool) (s : Engine K)
    (record : LearnedPathRecord K) : Engine K :=
  s.PushCompensation around serial record.path record.restore enabled

/-- `SetDeviceCorrectionsEnabled`. -/
def SetDeviceCorrectionsEnabled (s : Engine K) (around : Surroundings) (serial : UInt64)
    (enabled : Bool) : Engine K :=
  if serial = 0 then s
  else
    let profile := s.GetOrCreate serial
    if profile.corrections_enabled = enabled then s.setProfile serial profile
    else
      let profile := { profile with corrections_enabled := enabled }
      let s := (s.setProfile serial profile).Save around serial profile
      (profile.learned_paths.filter fun record => !(enabled && !record.ready)).foldl
        (fun s record => s.pushRecord around serial (enabled && record.ready) record) s

/-- The pushes for one profile. -/
def pushReadyProfile (around : Surroundings) (s : Engine K) (serial : UInt64) : Engine K :=
  match s.profiles serial with
  | none => s
  | some profile =>
    if profile.corrections_enabled then
      (profile.learned_paths.filter fun record => record.ready).foldl
        (pushRecord around serial true) s
    else s

/-- `PushReadyCompensations`, over the profiles in the order of their map. -/
def PushReadyCompensations (s : Engine K) (around : Surroundings) (order : List UInt64) :
    Engine K :=
  order.foldl (pushReadyProfile around) s

/-- The states of which `gone` holds are erased. -/
def eraseStates (s : Engine K) (gone : UInt64 → String → Bool) : Engine K :=
  { s with states := fun h p => if gone h p then none else s.states h p }

/-- A state of the kind of a record, otherwise fresh. -/
def clearState (record : Option (LearnedPathRecord K)) : PathState K :=
  match record with
  | none => .fresh
  | some record => PathState.fresh.withKind (KindFromString record.kind)

/-- `UnlearnPath`. -/
def UnlearnPath (s : Engine K) (around : Surroundings) (serial : UInt64) (path : String) :
    Engine K :=
  if serial = 0 ∨ path.isEmpty then s
  else
    let profile := s.GetOrCreate serial
    let removed := profile.learned_paths.filter fun record => decide (record.path = path)
    let profile := { profile with
      learned_paths := profile.learned_paths.filter fun record => !decide (record.path = path) }
    let s := (s.setProfile serial profile).Save around serial profile
    (s.eraseStates fun h p => decide (h = serial) && decide (p = path)).PushCompensation around
      serial path (clearState removed.getLast?) false

/-- `UnlearnDevice`. -/
def UnlearnDevice (s : Engine K) (around : Surroundings) (serial : UInt64) : Engine K :=
  if serial = 0 then s
  else
    let profile := s.GetOrCreate serial
    let s := profile.learned_paths.foldl (fun s record =>
      s.PushCompensation around serial record.path (clearState (some record)) false)
      (s.setProfile serial profile)
    let profile := { profile with learned_paths := [] }
    ((s.setProfile serial profile).Save around serial profile).eraseStates fun h _ =>
      decide (h = serial)

/-- `Flush`, over the states in the order of their map. -/
def Flush (s : Engine K) (around : UInt64 → String → Surroundings)
    (order : List (UInt64 × String)) : Engine K :=
  order.foldl (fun s key =>
    match s.states key.1 key.2 with
    | none => s
    | some _ => s.SyncProfile (around key.1 key.2) key.1 key.2 true) s

end Engine

/-- A call of the engine. -/
inductive Call (K : Type) where
  | tick (t : TickInput K)
  | setRestBurstActive (active : Bool)
  | setDeviceCorrectionsEnabled (around : Surroundings) (serial : UInt64) (enabled : Bool)
  | pushReadyCompensations (around : Surroundings) (order : List UInt64)
  | unlearnPath (around : Surroundings) (serial : UInt64) (path : String)
  | unlearnDevice (around : Surroundings) (serial : UInt64)
  | flush (around : UInt64 → String → Surroundings) (order : List (UInt64 × String))

section Calls

variable (sqrt : K → K) (hypot : K → K → K)

def Engine.apply (s : Engine K) : Call K → Engine K
  | .tick t => Tick sqrt hypot s t
  | .setRestBurstActive active => { s with rest_burst_active := active }
  | .setDeviceCorrectionsEnabled around serial enabled =>
    s.SetDeviceCorrectionsEnabled around serial enabled
  | .pushReadyCompensations around order => s.PushReadyCompensations around order
  | .unlearnPath around serial path => s.UnlearnPath around serial path
  | .unlearnDevice around serial => s.UnlearnDevice around serial
  | .flush around order => s.Flush around order

/-- `LoadAll`: the records of paths that carry no compensation are dropped. -/
def Load (file : DeviceProfile K) : DeviceProfile K :=
  { file with
    learned_paths := file.learned_paths.filter fun record =>
      IsCompensationPath (ClassifyInputPath record.path) }

/-- The overlay is started again: a new engine over the profiles in the files. -/
def Engine.restart (s : Engine K) : Engine K :=
  .start (fun h => (s.files h).map Load) s.files

/-- A call, or a restart of the overlay. -/
inductive Event (K : Type) where
  | call (c : Call K)
  | restart

def step (s : Engine K) : Event K → Engine K
  | .call c => s.apply sqrt hypot c
  | .restart => s.restart

/-- The engine after a run that began without profiles. -/
def run (events : List (Event K)) : Engine K :=
  events.foldl (step sqrt hypot) (.start (fun _ => none) fun _ => none)

end Calls

end WKPairDriver.InputHealth.Learning
