import Mathlib

/-!
# Boolean input components in the driver

The state the input-health detours keep for one boolean component and the functions that change it:
`RegisterBooleanComponent`, `ObserveBooleanSample`, `ShouldSwallowBooleanUpdate`,
`DetourUpdateBooleanComponent`, the requests that set and clear compensation entries and the one
that resets the statistics.

Times are the microseconds of `QpcMicros`, with the wrapping subtraction of the source.

* `DetourUpdateBooleanComponent_swallow` — the detour swallows a call exactly when `swallows` says
  so of the state before the call.
* `DetourUpdateBooleanComponent_component` — what a call leaves in the statistics.
-/

set_option autoImplicit false

namespace WKPairDriver.InputHealth

/-! ## Paths that may carry compensation -/

inductive PathClass where
  | Trigger
  | StickAxis
  | ControllerButton
  | DiagnosticsOnly
  | Unsupported
  deriving DecidableEq, Repr

def IsCompensationPath (cls : PathClass) : Bool :=
  cls == .Trigger || cls == .StickAxis || cls == .ControllerButton

/-- `path.find(s) != npos`. -/
def finds (path s : String) : Bool := decide (s.toList <:+: path.toList)

def endsWith (path suffix : String) : Bool := decide (suffix.toList <:+ path.toList)

def IsTriggerLikePath (path : String) : Bool :=
  if finds path "/click" || finds path "/touch" then false
  else if finds path "trigger" || finds path "Trigger" then true
  else if endsWith path "/force" then true
  else if endsWith path "/pressure" then true
  else if finds path "/grip/value" then true
  else finds path "/squeeze/value"

/-- The path ends in `/x` or `/y`, in either case. -/
def endsInAxis (path : String) : Bool :=
  endsWith path "/x" || endsWith path "/X" || endsWith path "/y" || endsWith path "/Y"

def ClassifyInputPath (path : String) : PathClass :=
  if path.isEmpty then .Unsupported
  else if finds path "/eye" || finds path "/face" then .DiagnosticsOnly
  else if finds path "/pupil" || finds path "proximity" || finds path "/imu" then .Unsupported
  else if IsTriggerLikePath path then .Trigger
  else if endsInAxis path && (finds path "stick" || finds path "joystick" ||
      finds path "trackpad" || finds path "thumbstick" || finds path "touchpad") then .StickAxis
  else if finds path "/input/" then .ControllerButton
  else .Unsupported

/-! ## Compensation entries -/

def InputHealthCompScalarSingle : UInt8 := 0
def InputHealthCompStickX : UInt8 := 1
def InputHealthCompStickY : UInt8 := 2
def InputHealthCompBoolean : UInt8 := 3

/-- `path` is the text in front of the NUL of the buffer, as `InputHealthPathString` reads it. -/
structure InputHealthCompensationEntry where
  device_serial_hash : UInt64
  path : String
  kind : UInt8
  enabled : Bool
  learned_debounce_us : UInt16
  deriving DecidableEq, Repr

/-- `inputHealthComp`: the entries by serial hash and path. -/
abbrev CompensationTable := UInt64 → String → Option InputHealthCompensationEntry

/-- The entry of one serial hash and path is replaced. -/
def CompensationTable.set (comp : CompensationTable) (serial : UInt64) (path : String)
    (entry : Option InputHealthCompensationEntry) : CompensationTable :=
  fun h p => if h = serial ∧ p = path then entry else comp h p

def SetInputHealthCompensation (comp : CompensationTable) (entry : InputHealthCompensationEntry) :
    CompensationTable :=
  if entry.device_serial_hash = 0 ∨ entry.path.isEmpty then comp
  else if !IsCompensationPath (ClassifyInputPath entry.path) then comp
  else if !entry.enabled then comp.set entry.device_serial_hash entry.path none
  else comp.set entry.device_serial_hash entry.path (some entry)

def LookupInputHealthCompensation (comp : CompensationTable) (serial_hash : UInt64)
    (path : String) : Option InputHealthCompensationEntry :=
  if serial_hash = 0 ∨ path.isEmpty then none
  else (comp serial_hash path).filter (·.enabled)

def kSerialHashAllDevices : UInt64 := 0

def ClearInputHealthCompensation (comp : CompensationTable) (serial_hash : UInt64) :
    CompensationTable :=
  if serial_hash = kSerialHashAllDevices then fun _ _ => none
  else fun h p => if h = serial_hash then none else comp h p

/-! ## Statistics of a component -/

/-- The fields of `ComponentStats` that boolean components use. -/
structure ComponentStats where
  path : String := ""
  is_scalar : Bool := false
  is_boolean : Bool := false
  container_handle : UInt64 := 0
  device_serial_hash : UInt64 := 0
  last_serial_resolve_attempt_us : UInt64 := 0
  serial_resolution_logged : Bool := false
  first_update_logged : Bool := false
  last_update_us : UInt64 := 0
  press_count : UInt64 := 0
  last_boolean : Bool := false
  pending_state : Bool := false
  last_committed_us : UInt64 := 0
  last_raw_transition_us : UInt64 := 0
  bounce_transition_count : UInt64 := 0
  bounce_max_interval_us : UInt32 := 0
  deriving DecidableEq, Repr

def ComponentStatsResetPassive (s : ComponentStats) : ComponentStats :=
  { s with
    last_update_us := 0
    press_count := 0
    last_boolean := false
    pending_state := false
    last_committed_us := 0
    last_raw_transition_us := 0
    bounce_transition_count := 0
    bounce_max_interval_us := 0
    first_update_logged := false }

def kButtonBounceMinIntervalUs : UInt64 := 200
def kButtonBounceMaxIntervalUs : UInt64 := 20000

def IsLikelyButtonBounceInterval (interval_us : UInt64) : Bool :=
  kButtonBounceMinIntervalUs ≤ interval_us && interval_us ≤ kButtonBounceMaxIntervalUs

/-- One bounce of the given length is counted. -/
def countBounce (stats : ComponentStats) (interval : UInt64) : ComponentStats :=
  let clamped := (min interval kButtonBounceMaxIntervalUs).toUInt32
  { stats with
    bounce_transition_count := stats.bounce_transition_count + 1
    bounce_max_interval_us :=
      if stats.bounce_max_interval_us < clamped then clamped else stats.bounce_max_interval_us }

def ObserveBooleanSample (stats : ComponentStats) (newValue : Bool) (nowUs : UInt64) :
    ComponentStats :=
  if newValue ≠ stats.pending_state then
    let interval := nowUs - stats.last_raw_transition_us
    let stats :=
      if stats.last_raw_transition_us ≠ 0 ∧ IsLikelyButtonBounceInterval interval then
        countBounce stats interval
      else stats
    { stats with
      last_raw_transition_us := nowUs
      press_count := if newValue then stats.press_count + 1 else stats.press_count
      pending_state := newValue }
  else stats

def ShouldSwallowBooleanUpdate (stats : ComponentStats) (entry : InputHealthCompensationEntry)
    (newValue : Bool) (nowUs : UInt64) : Bool :=
  entry.kind == InputHealthCompBoolean
    && entry.learned_debounce_us != 0
    && newValue != stats.last_boolean
    && stats.last_committed_us != 0
    && decide (nowUs - stats.last_committed_us < entry.learned_debounce_us.toUInt64)

/-! ## The detours -/

structure InputHealthConfig where
  master_enabled : Bool
  diagnostics_only : Bool
  deriving DecidableEq, Repr

section

-- The serial hash SteamVR's property store gives for a container, 0 if there is none yet.
variable (ResolveSerialHash : UInt64 → UInt64)

def RegisterBooleanComponent (component : Option ComponentStats) (container : UInt64)
    (path : String) : ComponentStats :=
  { component.getD {} with
    path := path
    is_boolean := true
    is_scalar := false
    first_update_logged := false
    container_handle := container
    device_serial_hash := ResolveSerialHash container }

/-- The late resolution of the serial, at most once in a second. -/
def resolveLateSerial (s : ComponentStats) (now_us : UInt64) : ComponentStats :=
  if s.device_serial_hash = 0 ∧ now_us - s.last_serial_resolve_attempt_us > 1000000 then
    let hash := ResolveSerialHash s.container_handle
    { s with
      last_serial_resolve_attempt_us := now_us
      device_serial_hash := hash
      serial_resolution_logged := s.serial_resolution_logged || hash != 0 }
  else s

/-- The verdict of the compensation entry of the component, if it has one. -/
def entrySwallows (comp : CompensationTable) (s : ComponentStats) (bNewValue : Bool)
    (now_us : UInt64) : Bool :=
  s.device_serial_hash != 0 &&
    (LookupInputHealthCompensation comp s.device_serial_hash s.path).any
      (ShouldSwallowBooleanUpdate s · bNewValue now_us)

/-- A forwarded value is committed if it is new. -/
def commitBoolean (s : ComponentStats) (bNewValue : Bool) (now_us : UInt64) : ComponentStats :=
  if bNewValue ≠ s.last_boolean then
    { s with last_boolean := bNewValue, last_committed_us := now_us }
  else s

/-- The statistics after a call, and whether the call is swallowed: `none` statistics are a handle
    that was never registered. -/
def DetourUpdateBooleanComponent (cfg : InputHealthConfig) (comp : CompensationTable)
    (component : Option ComponentStats) (bNewValue : Bool) (now_us : UInt64) :
    Option ComponentStats × Bool :=
  if !cfg.master_enabled then (component, false)
  else match component with
  | none => (none, false)
  | some s =>
    let s := ObserveBooleanSample s bNewValue now_us
    let s := if cfg.diagnostics_only then s else resolveLateSerial ResolveSerialHash s now_us
    let swallow := !cfg.diagnostics_only && entrySwallows comp s bNewValue now_us
    let s := if swallow then s else commitBoolean s bNewValue now_us
    (some { s with last_update_us := now_us, first_update_logged := true }, swallow)

/-! ## What a call does -/

variable {s : ComponentStats} {bNewValue : Bool} {now_us : UInt64}

/-- The observation leaves what the swallowing is decided from alone. -/
@[simp] theorem ObserveBooleanSample_last_boolean :
    (ObserveBooleanSample s bNewValue now_us).last_boolean = s.last_boolean := by
  simp only [ObserveBooleanSample, countBounce]
  split_ifs <;> rfl

@[simp] theorem ObserveBooleanSample_last_committed_us :
    (ObserveBooleanSample s bNewValue now_us).last_committed_us = s.last_committed_us := by
  simp only [ObserveBooleanSample, countBounce]
  split_ifs <;> rfl

@[simp] theorem resolveLateSerial_last_boolean :
    (resolveLateSerial ResolveSerialHash s now_us).last_boolean = s.last_boolean := by
  simp only [resolveLateSerial]
  split_ifs <;> rfl

@[simp] theorem resolveLateSerial_last_committed_us :
    (resolveLateSerial ResolveSerialHash s now_us).last_committed_us = s.last_committed_us := by
  simp only [resolveLateSerial]
  split_ifs <;> rfl

@[simp] theorem commitBoolean_last_boolean :
    (commitBoolean s bNewValue now_us).last_boolean = bNewValue := by
  simp only [commitBoolean]
  split_ifs with h
  · rfl
  · exact (not_not.1 h).symm

theorem commitBoolean_last_committed_us :
    (commitBoolean s bNewValue now_us).last_committed_us = now_us ∨
      (commitBoolean s bNewValue now_us).last_committed_us = s.last_committed_us := by
  simp only [commitBoolean]
  split_ifs
  · exact Or.inl rfl
  · exact Or.inr rfl

/-- The entry a call finds: looked up with the serial hash after the late resolution. -/
def lookupEntry (comp : CompensationTable) (s : ComponentStats) (now_us : UInt64) :
    Option InputHealthCompensationEntry :=
  let s := resolveLateSerial ResolveSerialHash s now_us
  if s.device_serial_hash = 0 then none
  else LookupInputHealthCompensation comp s.device_serial_hash s.path

/-- A call that is held back in this state: its entry debounces, its value is not the committed
    one, and the committed one is younger than the debounce interval. -/
def swallows (cfg : InputHealthConfig) (comp : CompensationTable)
    (component : Option ComponentStats) (bNewValue : Bool) (now_us : UInt64) : Prop :=
  cfg.master_enabled ∧ ¬cfg.diagnostics_only ∧ ∃ s entry, component = some s ∧
    lookupEntry ResolveSerialHash comp s now_us = some entry ∧
    ShouldSwallowBooleanUpdate s entry bNewValue now_us

theorem ShouldSwallowBooleanUpdate_congr {t : ComponentStats}
    (entry : InputHealthCompensationEntry) (hb : t.last_boolean = s.last_boolean)
    (hc : t.last_committed_us = s.last_committed_us) :
    ShouldSwallowBooleanUpdate t entry bNewValue now_us =
      ShouldSwallowBooleanUpdate s entry bNewValue now_us := by
  simp only [ShouldSwallowBooleanUpdate, hb, hc]

theorem lookupEntry_ObserveBooleanSample (comp : CompensationTable) :
    lookupEntry ResolveSerialHash comp (ObserveBooleanSample s bNewValue now_us) now_us =
      lookupEntry ResolveSerialHash comp s now_us := by
  simp only [lookupEntry, resolveLateSerial, ObserveBooleanSample, countBounce]
  split_ifs <;> rfl

/-- The verdict of the detour in terms of the entry the call finds. -/
theorem entrySwallows_resolveLateSerial (comp : CompensationTable) :
    entrySwallows comp (resolveLateSerial ResolveSerialHash s now_us) bNewValue now_us =
      (lookupEntry ResolveSerialHash comp s now_us).any
        (ShouldSwallowBooleanUpdate s · bNewValue now_us) := by
  have hcongr : (ShouldSwallowBooleanUpdate (resolveLateSerial ResolveSerialHash s now_us) ·
      bNewValue now_us) = (ShouldSwallowBooleanUpdate s · bNewValue now_us) := by
    funext entry
    apply ShouldSwallowBooleanUpdate_congr <;> simp
  simp only [entrySwallows, lookupEntry, hcongr]
  split_ifs with h <;> simp [h]

theorem DetourUpdateBooleanComponent_swallow (cfg : InputHealthConfig) (comp : CompensationTable)
    (component : Option ComponentStats) :
    (DetourUpdateBooleanComponent ResolveSerialHash cfg comp component bNewValue now_us).2 = true ↔
      swallows ResolveSerialHash cfg comp component bNewValue now_us := by
  cases hm : cfg.master_enabled with
  | false => simp [DetourUpdateBooleanComponent, swallows, hm]
  | true =>
    cases component with
    | none => simp [DetourUpdateBooleanComponent, swallows, hm]
    | some s =>
      cases hd : cfg.diagnostics_only with
      | true => simp [DetourUpdateBooleanComponent, swallows, hm, hd]
      | false =>
        simp [DetourUpdateBooleanComponent, swallows, hm, hd, entrySwallows_resolveLateSerial,
          lookupEntry_ObserveBooleanSample, Option.any_eq_true, ShouldSwallowBooleanUpdate]

/-- What a call leaves behind: a swallowed one changes neither the committed value nor its time,
    any other commits its value, at its own time if the value is new. -/
theorem DetourUpdateBooleanComponent_component {cfg : InputHealthConfig}
    {comp : CompensationTable} (hm : cfg.master_enabled = true) :
    ∃ t, (DetourUpdateBooleanComponent ResolveSerialHash cfg comp (some s) bNewValue now_us).1 =
        some t ∧
      ((DetourUpdateBooleanComponent ResolveSerialHash cfg comp (some s) bNewValue now_us).2 =
          true → t.last_boolean = s.last_boolean ∧ t.last_committed_us = s.last_committed_us ∧
            bNewValue ≠ s.last_boolean) ∧
      ((DetourUpdateBooleanComponent ResolveSerialHash cfg comp (some s) bNewValue now_us).2 =
          false → t.last_boolean = bNewValue ∧
            (t.last_committed_us = now_us ∨ t.last_committed_us = s.last_committed_us)) := by
  obtain ⟨o, ho⟩ : ∃ o, o = if cfg.diagnostics_only then ObserveBooleanSample s bNewValue now_us
      else resolveLateSerial ResolveSerialHash (ObserveBooleanSample s bNewValue now_us) now_us :=
    ⟨_, rfl⟩
  have hb : o.last_boolean = s.last_boolean := by
    rw [ho]
    split_ifs <;> simp
  have hc : o.last_committed_us = s.last_committed_us := by
    rw [ho]
    split_ifs <;> simp
  simp only [DetourUpdateBooleanComponent, hm, Bool.not_true, Bool.false_eq_true, if_false, ← ho]
  cases hsw : !cfg.diagnostics_only && entrySwallows comp o bNewValue now_us with
  | true =>
    have hne : bNewValue ≠ o.last_boolean := by
      simp only [entrySwallows, ShouldSwallowBooleanUpdate, Bool.and_eq_true,
        Option.any_eq_true] at hsw
      obtain ⟨-, -, entry, -, h⟩ := hsw
      simpa using h.1.1.2
    refine ⟨_, rfl, fun _ => ⟨hb, hc, hb ▸ hne⟩, fun h => ?_⟩
    cases h
  | false =>
    refine ⟨_, rfl, fun h => ?_, fun _ => ⟨?_, ?_⟩⟩
    · cases h
    · show (commitBoolean o bNewValue now_us).last_boolean = bNewValue
      simp
    · rw [← hc]
      exact commitBoolean_last_committed_us

end

end WKPairDriver.InputHealth
