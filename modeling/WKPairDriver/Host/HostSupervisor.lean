import Mathlib

/-!
# The host supervisor: `HostSupervisorBase`

`Start`, `Spawn` and one iteration of `MonitorLoop`, for runs between `Start` and `Stop` without a
`Restart`.  What the operating system answers (which pipe connects, whether a process could be
created, how a wait ended and when) is an input; clocks are in milliseconds.

* `spawn_cases` — what `Spawn` can do when no process is tracked.
* `iterate_cases` — what one iteration can do: nothing, a respawn after the attached host went
  away, or a host exit, with the respawn that follows it unless the breaker trips.
-/

set_option autoImplicit false

namespace WKPairDriver.Host

/-- `kFastExitThresholdMs`. -/
def kFastExitThresholdMs : ℕ := 2000

/-- `kCircuitBreakerThreshold`. -/
def kCircuitBreakerThreshold : ℕ := 5

/-- `kBackoffStartMs`. -/
def kBackoffStartMs : ℕ := 1000

/-- `kBackoffMaxMs`. -/
def kBackoffMaxMs : ℕ := 30000

/-- What a subclass plugs in: whether `SingletonMutexName` is non-empty, and `DescribeExitCode`. -/
structure Subclass where
  hasSingletonMutex : Bool
  describeExitCode : ℕ → String

/-- `IsCleanSingletonExit`. -/
def isCleanSingletonExit (code : ℕ) : Bool := code == 3 || code == 4

/-- The exit of a tracked host: when its process was created and when it ended. -/
structure HostExit where
  code : ℕ
  spawnedAt : ℕ
  exitedAt : ℕ
deriving DecidableEq

def HostExit.lifetime (x : HostExit) : ℕ := x.exitedAt - x.spawnedAt

/-- The members of the supervisor and the loop variable `backoff_ms`.  The tracked process carries
    the time it was created; `crashes` (newest first) and `spawnAttempts` are history: the exits
    that were not clean singleton exits, and how often `Spawn` was called. -/
structure Supervisor where
  process_handle_ : Option ℕ
  running_ : Bool
  attached_to_existing_ : Bool
  consecutive_fast_exits_ : ℕ
  halted_ : Bool
  last_exit_code_ : ℕ
  last_exit_description_ : String
  backoff_ms : ℕ
  crashes : List HostExit
  spawnAttempts : ℕ

def Supervisor.new : Supervisor where
  process_handle_ := none
  running_ := false
  attached_to_existing_ := false
  consecutive_fast_exits_ := 0
  halted_ := false
  last_exit_code_ := 0
  last_exit_description_ := ""
  backoff_ms := kBackoffStartMs
  crashes := []
  spawnAttempts := 0

/-! ## Spawning -/

/-- The answers `Spawn` gets: whether the tracked process is still alive, whether the control pipe
    connects, whether the singleton mutex is held, and when `CreateProcessW` created a process, if
    it did. -/
structure SpawnEnv where
  trackedAlive : Bool
  canConnect : Bool
  mutexHeld : Bool
  createProcess : Option ℕ

/-- An existing host answers and holds the mutex, if it has one. -/
def SpawnEnv.attaches (cfg : Subclass) (e : SpawnEnv) : Bool :=
  e.canConnect && (!cfg.hasSingletonMutex || e.mutexHeld)

/-- `Spawn`. -/
def Supervisor.spawn (cfg : Subclass) (e : SpawnEnv) (s : Supervisor) : Supervisor × Bool :=
  let s := { s with spawnAttempts := s.spawnAttempts + 1 }
  if s.process_handle_.isSome && e.trackedAlive then (s, true)
  else if e.attaches cfg then ({ s with attached_to_existing_ := true, running_ := true }, true)
  else
    match e.createProcess with
    | some t =>
      ({ s with process_handle_ := some t, attached_to_existing_ := false, running_ := true }, true)
    | none => (s, false)

/-- The state `Start` begins with; `backoff_ms` is set at the top of `MonitorLoop`. -/
def Supervisor.reset (s : Supervisor) : Supervisor :=
  { s with
    halted_ := false
    consecutive_fast_exits_ := 0
    attached_to_existing_ := false
    backoff_ms := kBackoffStartMs }

/-- `Start`: the monitor thread runs only if the first `Spawn` succeeds. -/
def Supervisor.start (cfg : Subclass) (e : SpawnEnv) (s : Supervisor) : Option Supervisor :=
  match s.reset.spawn cfg e with
  | (s, true) => some s
  | (_, false) => none

/-- `Spawn` and the backoff that depends on its result. -/
def Supervisor.respawn (cfg : Subclass) (e : SpawnEnv) (s : Supervisor) : Supervisor :=
  match s.spawn cfg e with
  | (s, true) => { s with backoff_ms := kBackoffStartMs }
  | (s, false) => { s with backoff_ms := min (s.backoff_ms * 2) kBackoffMaxMs }

/-! ## The monitor loop -/

/-- How the wait on the tracked process ended. -/
inductive Wait where
  | timeout
  | exited (code exitedAt : ℕ)

/-- The answers one iteration gets: the clock at its head and after its wait, the wait, whether the
    attached host's pipe connects, and those of its `Spawn`. -/
structure Env where
  headClock : ℕ
  wait : Wait
  nowClock : ℕ
  attachedAnswers : Bool
  spawn : SpawnEnv

/-- The uptime the loop computes: `spawn_time` is read at the head of the iteration. -/
def Env.uptime_ms (e : Env) : ℕ := e.nowClock - e.headClock

/-- The bookkeeping of an exit: the handle is closed and the exit code recorded. -/
def Supervisor.reap (cfg : Subclass) (code : ℕ) (s : Supervisor) : Supervisor :=
  { s with
    process_handle_ := none
    running_ := false
    last_exit_code_ := code
    last_exit_description_ := cfg.describeExitCode code }

/-- The fast-exit counter. -/
def Supervisor.countCrash (uptime_ms : ℕ) (x : HostExit) (s : Supervisor) : Supervisor :=
  { s with
    consecutive_fast_exits_ :=
      if uptime_ms < kFastExitThresholdMs then s.consecutive_fast_exits_ + 1 else 0
    crashes := x :: s.crashes }

/-- What the loop does when the wait on the tracked process reports its exit. -/
def Supervisor.hostExited (cfg : Subclass) (e : Env) (spawnedAt code exitedAt : ℕ)
    (s : Supervisor) : Supervisor :=
  let s := s.reap cfg code
  if isCleanSingletonExit code then s.respawn cfg e.spawn
  else
    let s := s.countCrash e.uptime_ms ⟨code, spawnedAt, exitedAt⟩
    if s.consecutive_fast_exits_ ≥ kCircuitBreakerThreshold then { s with halted_ := true }
    else s.respawn cfg e.spawn

/-- The pipe of the attached host is gone. -/
def Supervisor.detach (s : Supervisor) : Supervisor :=
  { s with running_ := false, attached_to_existing_ := false }

/-- One iteration of `MonitorLoop`. -/
def Supervisor.iterate (cfg : Subclass) (e : Env) (s : Supervisor) : Supervisor :=
  if s.halted_ then s
  else
    match s.process_handle_ with
    | none =>
      if s.attached_to_existing_ then
        if e.attachedAnswers then s
        else s.detach.respawn cfg e.spawn
      else s
    | some spawnedAt =>
      match e.wait with
      | .timeout => s
      | .exited code exitedAt => s.hostExited cfg e spawnedAt code exitedAt

/-! ## What a step can do -/

variable {cfg : Subclass} {s : Supervisor}

/-- `Spawn` with no tracked process: attach, create a process, or fail. -/
theorem spawn_cases (e : SpawnEnv) (h : s.process_handle_ = none) :
    (e.attaches cfg = true ∧ s.spawn cfg e = ({ s with
      spawnAttempts := s.spawnAttempts + 1, attached_to_existing_ := true, running_ := true },
      true)) ∨
    (∃ t, e.attaches cfg = false ∧ e.createProcess = some t ∧ s.spawn cfg e = ({ s with
      spawnAttempts := s.spawnAttempts + 1, process_handle_ := some t,
      attached_to_existing_ := false, running_ := true }, true)) ∨
    (e.attaches cfg = false ∧ e.createProcess = none ∧
      s.spawn cfg e = ({ s with spawnAttempts := s.spawnAttempts + 1 }, false)) := by
  unfold Supervisor.spawn
  simp only [h, Option.isSome_none, Bool.false_and, Bool.false_eq_true, if_false]
  cases hatt : e.attaches cfg with
  | true => exact .inl ⟨rfl, rfl⟩
  | false =>
    cases hcp : e.createProcess with
    | some t => exact .inr (.inl ⟨t, rfl, rfl, rfl⟩)
    | none => exact .inr (.inr ⟨rfl, rfl, rfl⟩)

/-- `Spawn` leaves the breaker alone. -/
theorem spawn_frame (cfg : Subclass) (e : SpawnEnv) (s : Supervisor) :
    (s.spawn cfg e).1.crashes = s.crashes ∧
      (s.spawn cfg e).1.consecutive_fast_exits_ = s.consecutive_fast_exits_ ∧
      (s.spawn cfg e).1.halted_ = s.halted_ := by
  unfold Supervisor.spawn
  simp only
  split_ifs
  · exact ⟨rfl, rfl, rfl⟩
  · exact ⟨rfl, rfl, rfl⟩
  · split <;> exact ⟨rfl, rfl, rfl⟩

theorem respawn_eq (cfg : Subclass) (e : SpawnEnv) (s : Supervisor) :
    ∃ ms, s.respawn cfg e = { (s.spawn cfg e).1 with backoff_ms := ms } := by
  unfold Supervisor.respawn
  split
  · rename_i s' h
    exact ⟨_, by rw [h]⟩
  · rename_i s' h
    exact ⟨_, by rw [h]⟩

@[simp] theorem respawn_crashes (cfg : Subclass) (e : SpawnEnv) (s : Supervisor) :
    (s.respawn cfg e).crashes = s.crashes := by
  obtain ⟨ms, h⟩ := respawn_eq cfg e s
  rw [h]
  exact (spawn_frame cfg e s).1

@[simp] theorem respawn_fast_exits (cfg : Subclass) (e : SpawnEnv) (s : Supervisor) :
    (s.respawn cfg e).consecutive_fast_exits_ = s.consecutive_fast_exits_ := by
  obtain ⟨ms, h⟩ := respawn_eq cfg e s
  rw [h]
  exact (spawn_frame cfg e s).2.1

@[simp] theorem respawn_halted (cfg : Subclass) (e : SpawnEnv) (s : Supervisor) :
    (s.respawn cfg e).halted_ = s.halted_ := by
  obtain ⟨ms, h⟩ := respawn_eq cfg e s
  rw [h]
  exact (spawn_frame cfg e s).2.2

/-- **What one iteration can do**: nothing, respawn because the attached host went away, or deal
    with the exit of the tracked host. -/
theorem iterate_cases (cfg : Subclass) (e : Env) (s : Supervisor) :
    (s.iterate cfg e = s ∧ (s.halted_ = true ∨ s.process_handle_ = none ∨ e.wait = .timeout)) ∨
    (s.halted_ = false ∧ s.process_handle_ = none ∧
      s.iterate cfg e = s.detach.respawn cfg e.spawn) ∨
    (∃ spawnedAt code exitedAt, s.halted_ = false ∧ s.process_handle_ = some spawnedAt ∧
      e.wait = .exited code exitedAt ∧
      s.iterate cfg e = s.hostExited cfg e spawnedAt code exitedAt) := by
  unfold Supervisor.iterate
  cases hhalt : s.halted_ with
  | true => exact .inl ⟨rfl, .inl rfl⟩
  | false =>
    simp only [Bool.false_eq_true, if_false]
    cases hproc : s.process_handle_ with
    | none =>
      dsimp only
      split_ifs
      · exact .inl ⟨rfl, .inr (.inl rfl)⟩
      · exact .inr (.inl ⟨trivial, rfl, rfl⟩)
      · exact .inl ⟨rfl, .inr (.inl rfl)⟩
    | some spawnedAt =>
      dsimp only
      cases hwait : e.wait with
      | timeout => exact .inl ⟨rfl, .inr (.inr rfl)⟩
      | exited code exitedAt => exact .inr (.inr ⟨spawnedAt, code, exitedAt, trivial, rfl, rfl, rfl⟩)

end WKPairDriver.Host
