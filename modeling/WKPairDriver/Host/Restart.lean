import WKPairDriver.Host.HostSupervisor
import WKPairDriver.Lib.Run

/-!
# `Restart` against the monitor loop of the host supervisor

`Restart` may be called from any thread.  It clears the breaker, kills the host and spawns another
one, each in a locked section of its own.  The monitor loop copies the handle of the host in one
locked section, waits on the copy without the lock, and closes the handle in another.

* `State` — the members of the supervisor, the processes it has created, and the place of the
  monitor thread and of every thread in `Restart`; `step` — one locked section or one wait.
* `HostKept` — a host that runs is the one tracked, and only hosts that exited by themselves are
  reaped and counted.
* `restart_keeps_host` — this holds over every interleaving in which the monitor, after a wait,
  finds the handle it waited on or none, and hosts end when they are killed.
* `restartDuringWait_loses` — a whole restart within one wait.
-/

set_option autoImplicit false

namespace WKPairDriver.Host.Restart

open Lib

/-! ## Processes and threads -/

/-- A process the supervisor has created. -/
inductive Process where
  | alive
  | exited (code : ℕ)
  | killed
deriving DecidableEq

/-- `GetExitCodeProcess`; `STILL_ACTIVE` is 259, and `Kill` terminates with 0. -/
def Process.exitCode : Process → ℕ
  | .alive => 259
  | .exited code => code
  | .killed => 0

/-- The process has ended, and not by `Kill`. -/
def Process.isExited : Process → Bool
  | .exited _ => true
  | _ => false

/-- Where the monitor thread stands.  Handles stand for the processes they were opened for; a wait on
    a handle that has been closed may be on any object. -/
inductive Monitor where
  /-- at the head of the loop -/
  | top
  /-- without a handle: before `attached_to_existing_` is read -/
  | noHandle
  /-- attached to a host: before its pipe is tried -/
  | attached
  /-- the pipe is gone: before the locked section -/
  | detach
  /-- with a copy of the handle, before the wait -/
  | ready (cur : ℕ)
  | waiting (target : Option ℕ)
  /-- the wait was signalled: before the locked section -/
  | relock (target : Option ℕ)
  | record (p : ℕ) (code : ℕ)
  | count (p : ℕ) (code : ℕ)
  /-- before `Spawn` -/
  | respawn
deriving DecidableEq

/-- Where a thread stands in `Restart`. -/
inductive Restarter where
  | idle
  /-- before `Kill` -/
  | kill
  /-- before `Spawn` -/
  | spawn
deriving DecidableEq

/-- The members of the supervisor and its threads; `reaped`, the handles closed by the monitor with
    the processes found behind them, and `counted` are history. -/
structure State (n : ℕ) where
  process_handle_ : Option ℕ
  attached_to_existing_ : Bool
  running_ : Bool
  consecutive_fast_exits_ : ℕ
  halted_ : Bool
  last_exit_code_ : ℕ
  procs : List Process
  monitor : Monitor
  restarters : Fin n → Restarter
  reaped : List Process
  counted : List ℕ

variable {n : ℕ}

def State.new (n : ℕ) : State n :=
  ⟨none, false, false, 0, false, 0, [], .top, fun _ => .idle, [], []⟩

def State.Alive (s : State n) (p : ℕ) : Prop := s.procs[p]? = some .alive

instance (s : State n) (p : ℕ) : Decidable (s.Alive p) := inferInstanceAs (Decidable (_ = _))

/-- The process has ended by itself. -/
def State.Exited (s : State n) (p : ℕ) : Prop := (s.procs[p]?).any (·.isExited) = true

instance (s : State n) (p : ℕ) : Decidable (s.Exited p) := inferInstanceAs (Decidable (_ = _))

/-! ## Locked sections -/

/-- What `Spawn` finds: whether the control pipe connects, whether the singleton mutex is held, and
    whether `CreateProcessW` succeeds. -/
structure SpawnAnswers where
  canConnect : Bool
  mutexHeld : Bool
  creates : Bool

/-- The locked section of `Spawn`: the tracked host runs, an existing host is attached to, or a
    process is created. -/
def State.Spawn (cfg : Subclass) (e : SpawnAnswers) (s : State n) : State n :=
  if s.process_handle_.any (s.Alive ·) then s
  else if e.canConnect && (!cfg.hasSingletonMutex || e.mutexHeld) then
    { s with attached_to_existing_ := true, running_ := true }
  else if e.creates then
    { s with
      procs := s.procs ++ [.alive]
      process_handle_ := some s.procs.length
      attached_to_existing_ := false
      running_ := true }
  else s

/-- `Kill`; `ended` is whether the process ends within the two waits after `TerminateProcess`. -/
def State.Kill (ended : Bool) (s : State n) : State n :=
  match s.process_handle_ with
  | none => s
  | some p =>
    { s with
      procs := if s.attached_to_existing_ = false ∧ s.Alive p ∧ ended = true
        then s.procs.set p .killed else s.procs
      process_handle_ := none
      attached_to_existing_ := false
      running_ := false }

/-- The locked section behind a signalled wait. -/
def State.reap (s : State n) : State n :=
  match s.process_handle_ with
  | none => { s with running_ := false, monitor := .top }
  | some p =>
    let found := s.procs.getD p .killed
    { s with
      process_handle_ := none
      running_ := false
      reaped := found :: s.reaped
      monitor := .record p found.exitCode }

/-- The fast-exit counter and the breaker. -/
def State.countExit (s : State n) (p code uptime_ms : ℕ) : State n :=
  if isCleanSingletonExit code then { s with monitor := .respawn }
  else
    let fast := if uptime_ms < kFastExitThresholdMs then s.consecutive_fast_exits_ + 1 else 0
    { s with
      consecutive_fast_exits_ := fast
      counted := p :: s.counted
      halted_ := s.halted_ || decide (kCircuitBreakerThreshold ≤ fast)
      monitor := if kCircuitBreakerThreshold ≤ fast then .top else .respawn }

/-- `Spawn` leaves the breaker and the monitor alone, and creates at most one process. -/
theorem Spawn_frame (cfg : Subclass) (e : SpawnAnswers) (s : State n) :
    (s.Spawn cfg e).halted_ = s.halted_ ∧
      (s.Spawn cfg e).consecutive_fast_exits_ = s.consecutive_fast_exits_ ∧
      (s.Spawn cfg e).monitor = s.monitor ∧ s.procs.length ≤ (s.Spawn cfg e).procs.length ∧
      (s.Spawn cfg e).procs.length ≤ s.procs.length + 1 := by
  unfold State.Spawn
  split_ifs <;> simp

theorem Kill_frame (ended : Bool) (s : State n) :
    (s.Kill ended).halted_ = s.halted_ ∧
      (s.Kill ended).consecutive_fast_exits_ = s.consecutive_fast_exits_ ∧
      (s.Kill ended).monitor = s.monitor ∧ (s.Kill ended).procs.length = s.procs.length := by
  unfold State.Kill
  split
  · simp
  · split_ifs <;> simp

/-! ## Steps -/

inductive Action (n : ℕ) where
  /-- a process exits by itself -/
  | exits (p code : ℕ)
  /-- `Restart` is called, and clears the breaker -/
  | restart (t : Fin n)
  | kill (t : Fin n) (ended : Bool)
  | spawn (t : Fin n) (e : SpawnAnswers)
  /-- the monitor copies the handle -/
  | copy
  | readAttached
  | tryPipe (connects : Bool)
  | detach
  /-- the wait begins, on the process of the copied handle unless it has been closed -/
  | enterWait (target : Option ℕ)
  | waitReturns (signalled : Bool)
  | relock
  | record
  | count (uptime_ms : ℕ)
  | respawn (e : SpawnAnswers)

def State.setRestarter (s : State n) (t : Fin n) (r : Restarter) : State n :=
  { s with restarters := Function.update s.restarters t r }

def step (cfg : Subclass) (s : State n) : Action n → Option (State n)
  | .exits p code =>
    if s.Alive p then some { s with procs := s.procs.set p (.exited code) } else none
  | .restart t =>
    if s.restarters t = .idle then
      some ({ s with halted_ := false, consecutive_fast_exits_ := 0 }.setRestarter t .kill)
    else none
  | .kill t ended =>
    if s.restarters t = .kill then some ((s.Kill ended).setRestarter t .spawn) else none
  | .spawn t e =>
    if s.restarters t = .spawn then some ((s.Spawn cfg e).setRestarter t .idle) else none
  | .copy =>
    if s.monitor = .top then
      some { s with monitor :=
        if s.halted_ then .top
        else match s.process_handle_ with
          | some p => .ready p
          | none => .noHandle }
    else none
  | .readAttached =>
    if s.monitor = .noHandle then
      some { s with monitor := if s.attached_to_existing_ then .attached else .top }
    else none
  | .tryPipe connects =>
    if s.monitor = .attached then
      some (if connects then { s with monitor := .top }
        else { s with running_ := false, monitor := .detach })
    else none
  | .detach =>
    if s.monitor = .detach then
      some { s with attached_to_existing_ := false, monitor := .respawn }
    else none
  | .enterWait target =>
    match s.monitor with
    | .ready cur =>
      if (s.process_handle_ = some cur → target = some cur) ∧ (∀ p ∈ target, p < s.procs.length) then
        some { s with monitor := .waiting target }
      else none
    | _ => none
  | .waitReturns signalled =>
    match s.monitor with
    | .waiting target =>
      -- a wait on an open handle is signalled by the end of its process only
      if signalled = true → ∀ p ∈ target, s.process_handle_ = some p → ¬ s.Alive p then
        some { s with monitor := if signalled then .relock target else .top }
      else none
    | _ => none
  | .relock =>
    match s.monitor with
    | .relock _ => some s.reap
    | _ => none
  | .record =>
    match s.monitor with
    | .record p code => some { s with last_exit_code_ := code, monitor := .count p code }
    | _ => none
  | .count uptime_ms =>
    match s.monitor with
    | .count p code => some (s.countExit p code uptime_ms)
    | _ => none
  | .respawn e =>
    if s.monitor = .respawn then some { s.Spawn cfg e with monitor := .top } else none

/-- `Start`: the monitor runs only if the first `Spawn` succeeds. -/
def State.start (cfg : Subclass) (e : SpawnAnswers) : Option (State n) :=
  let s := (State.new n).Spawn cfg e
  if s.running_ then some s else none

/-! ## No host is lost -/

/-- A host that runs is the one tracked, so there is never a second one, and only hosts that have
    exited by themselves are reaped and counted. -/
structure HostKept (s : State n) : Prop where
  tracked : ∀ p, s.Alive p → s.process_handle_ = some p
  single : ∀ p q, s.Alive p → s.Alive q → p = q
  reaped : ∀ x ∈ s.reaped, x.isExited = true
  counted : ∀ p ∈ s.counted, s.Exited p

/-- Behind a signalled wait the monitor finds the handle it waited on, or none; and a host that is
    killed ends. -/
def Undisturbed (s : State n) (a : Action n) : Prop :=
  match a, s.monitor with
  | .relock, .relock target => s.process_handle_ = none ∨ s.process_handle_ = target
  | .kill _ ended, _ => ∀ p ∈ s.process_handle_, s.Alive p → ended = true
  | _, _ => True

instance (s : State n) (a : Action n) : Decidable (Undisturbed s a) := by
  unfold Undisturbed
  split <;> infer_instance

theorem State.Alive.lt {s : State n} {p : ℕ} (h : s.Alive p) : p < s.procs.length :=
  (List.getElem?_eq_some_iff.1 h).1

/-- A tracked process is one that was created and not killed; behind a signalled wait it does not
    run any more. -/
structure Inv (s : State n) : Prop where
  tracked : ∀ p, s.Alive p → s.process_handle_ = some p
  reaped : ∀ x ∈ s.reaped, x.isExited = true
  counted : ∀ p ∈ s.counted, s.Exited p
  handle : ∀ p, s.process_handle_ = some p →
    s.Alive p ∨ s.Exited p
  attached : s.attached_to_existing_ = true → ∀ p, ¬ s.Alive p
  waiting : ∀ p, s.monitor = .waiting (some p) → p < s.procs.length
  signalled : ∀ p, s.monitor = .relock (some p) → p < s.procs.length ∧
    (s.process_handle_ = some p → ¬ s.Alive p)
  recorded : ∀ p code, s.monitor = .record p code ∨ s.monitor = .count p code →
    s.Exited p

theorem Inv.kept {s : State n} (h : Inv s) : HostKept s :=
  ⟨h.tracked, fun p q hp hq => Option.some.inj ((h.tracked p hp).symm.trans (h.tracked q hq)),
    h.reaped, h.counted⟩

theorem new_inv (n : ℕ) : Inv (State.new n) := by
  constructor <;> simp [State.new, State.Alive]

/-- Places of the monitor that the invariant says nothing about. -/
def Monitor.plain : Monitor → Bool
  | .waiting _ | .relock _ | .record .. | .count .. => false
  | _ => true

/-- A step that leaves handle and processes alone keeps the invariant. -/
theorem Inv.frame {s t : State n} (h : Inv s) (hhandle : t.process_handle_ = s.process_handle_)
    (hprocs : t.procs = s.procs) (hreaped : t.reaped = s.reaped) (hcounted : t.counted = s.counted)
    (hattached : t.attached_to_existing_ = true → s.attached_to_existing_ = true)
    (hmonitor : t.monitor = s.monitor ∨ t.monitor.plain = true) : Inv t := by
  have halive : ∀ p, t.Alive p ↔ s.Alive p := fun p => by rw [State.Alive, State.Alive, hprocs]
  have hexited : ∀ p, t.Exited p ↔ s.Exited p := fun p => by rw [State.Exited, State.Exited, hprocs]
  refine ⟨fun p hp => ?_, ?_, fun p hp => ?_, fun p hp => ?_, fun ha p hp => ?_, fun p hp => ?_,
    fun p hp => ?_, fun p code hp => ?_⟩
  · rw [hhandle]
    exact h.tracked p ((halive p).1 hp)
  · rw [hreaped]
    exact h.reaped
  · rw [hcounted] at hp
    exact (hexited p).2 (h.counted p hp)
  · rw [halive, hexited]
    exact h.handle p (hhandle ▸ hp)
  · exact h.attached (hattached ha) p ((halive p).1 hp)
  · obtain hm | hm := hmonitor
    · rw [hprocs]
      exact h.waiting p (hm ▸ hp)
    · rw [hp] at hm
      cases hm
  · obtain hm | hm := hmonitor
    · rw [hprocs, hhandle, halive]
      exact h.signalled p (hm ▸ hp)
    · rw [hp] at hm
      cases hm
  · obtain hm | hm := hmonitor
    · exact (hexited p).2 (h.recorded p code (hm ▸ hp))
    · obtain hp | hp := hp <;> rw [hp] at hm <;> cases hm

theorem not_alive_of_exited {s : State n} {p : ℕ} (h : s.Exited p) : ¬ s.Alive p := by
  intro ha
  rw [State.Exited, ha] at h
  cases h

/-- Appending a process or ending one leaves exited processes as they are. -/
theorem exits_inv {s : State n} (h : Inv s) {p : ℕ} (hp : s.Alive p) (code : ℕ) :
    Inv { s with procs := s.procs.set p (.exited code) } := by
  have halive : ∀ q, State.Alive { s with procs := s.procs.set p (.exited code) } q →
      s.Alive q := by
    intro q hq
    simp only [State.Alive, List.getElem?_set] at hq
    split at hq
    · split at hq <;> cases hq
    · exact hq
  have hexited : ∀ q, s.Exited q →
      State.Exited { s with procs := s.procs.set p (.exited code) } q := by
    intro q hq
    simp only [State.Exited, List.getElem?_set]
    split
    · simp [hp.lt, Process.isExited]
    · exact hq
  have hself : State.Exited { s with procs := s.procs.set p (.exited code) } p := by
    simp [State.Exited, hp.lt, Process.isExited]
  refine ⟨fun q hq => h.tracked q (halive q hq), h.reaped, fun q hq => hexited q (h.counted q hq),
    fun q hq => ?_, fun ha q hq => h.attached ha q (halive q hq), fun q hq => ?_, fun q hq => ?_,
    fun q c hq => hexited q (h.recorded q c hq)⟩
  · obtain ha | he := h.handle q hq
    · have : p = q := Option.some.inj ((h.tracked p hp).symm.trans hq)
      exact .inr (this ▸ hself)
    · exact .inr (hexited q he)
  · simpa using h.waiting q hq
  · obtain ⟨hlt, hdead⟩ := h.signalled q hq
    exact ⟨by simpa using hlt, fun hh ha => hdead hh (halive q ha)⟩

theorem Kill_inv {s : State n} (h : Inv s) {ended : Bool}
    (hended : ∀ p ∈ s.process_handle_, s.Alive p → ended = true) : Inv (s.Kill ended) := by
  unfold State.Kill
  split
  · exact h
  · next p hhandle =>
    have hexited : ∀ q, s.Exited q → ((if s.attached_to_existing_ = false ∧ s.Alive p ∧ ended = true
        then s.procs.set p .killed else s.procs)[q]?).any (·.isExited) = true := by
      intro q hq
      split
      · next hkill =>
        have hne : p ≠ q := fun hpq => not_alive_of_exited (hpq ▸ hq) hkill.2.1
        rw [List.getElem?_set_ne hne]
        exact hq
      · exact hq
    have hdead : ∀ q : ℕ, (if s.attached_to_existing_ = false ∧ s.Alive p ∧ ended = true
        then s.procs.set p .killed else s.procs)[q]? ≠ some Process.alive := by
      intro q hq
      split at hq
      · next hkill =>
        rw [List.getElem?_set] at hq
        split at hq
        · split at hq <;> cases hq
        · next hne => exact hne (Option.some.inj (hhandle.symm.trans (h.tracked q hq)))
      · next hkill =>
        -- attached, so that no host of its own runs; or the tracked one, which ends
        have hq' := h.tracked q hq
        cases hhandle.symm.trans hq'
        refine hkill ⟨?_, hq, hended p hhandle hq⟩
        by_contra hatt
        exact h.attached (by simpa using hatt) p hq
    have hlen : (if s.attached_to_existing_ = false ∧ s.Alive p ∧ ended = true
        then s.procs.set p .killed else s.procs).length = s.procs.length := by
      split <;> simp
    refine ⟨fun q hq => absurd hq (hdead q), h.reaped, fun q hq => hexited q (h.counted q hq),
      by simp, by simp, fun q hq => ?_, fun q hq => ⟨?_, by simp⟩,
      fun q c hq => hexited q (h.recorded q c hq)⟩
    · exact (h.waiting q hq).trans_eq hlen.symm
    · exact (h.signalled q hq).1.trans_eq hlen.symm

theorem Spawn_inv {s : State n} (h : Inv s) (cfg : Subclass) (e : SpawnAnswers) :
    Inv (s.Spawn cfg e) := by
  unfold State.Spawn
  split
  · exact h
  · next hnone =>
    have hdead : ∀ p, ¬ s.Alive p := by
      intro p hp
      exact hnone (by simp [h.tracked p hp, hp])
    split
    · exact ⟨h.tracked, h.reaped, h.counted, h.handle, fun _ => hdead, h.waiting, h.signalled,
        h.recorded⟩
    · split
      · have hold : ∀ p, p < s.procs.length → (s.procs ++ [Process.alive])[p]? = s.procs[p]? :=
          fun p hp => List.getElem?_append_left hp
        have hexited : ∀ p, s.Exited p → ((s.procs ++ [Process.alive])[p]?).any (·.isExited) = true := by
          intro p hp
          have hlt : p < s.procs.length := by
            by_contra hge
            rw [State.Exited, List.getElem?_eq_none (by omega)] at hp
            cases hp
          rw [hold p hlt]
          exact hp
        have hnew : ∀ p, (s.procs ++ [Process.alive])[p]? = some .alive → p = s.procs.length := by
          intro p hp
          by_contra hne
          have hlt := (List.getElem?_eq_some_iff.1 hp).1
          rw [List.length_append, List.length_singleton] at hlt
          rw [hold p (by omega)] at hp
          exact hdead p hp
        refine ⟨fun p hp => ?_, h.reaped, fun p hp => hexited p (h.counted p hp), fun p hp => ?_,
          by simp, fun p hp => ?_, fun p hp => ⟨?_, fun hh => ?_⟩,
          fun p c hp => hexited p (h.recorded p c hp)⟩
        · rw [hnew p hp]
        · cases hp
          left
          simp [State.Alive]
        · have := h.waiting p hp
          simp only [List.length_append, List.length_singleton]
          omega
        · have := (h.signalled p hp).1
          simp only [List.length_append, List.length_singleton]
          omega
        · -- the handle of the new process is not the one that was waited on
          have := (h.signalled p hp).1
          cases hh
          omega
      · exact h

theorem reap_inv {s : State n} (h : Inv s) {target : Option ℕ} (hm : s.monitor = .relock target)
    (hhandle : s.process_handle_ = none ∨ s.process_handle_ = target) : Inv s.reap := by
  unfold State.reap
  split
  · exact h.frame rfl rfl rfl rfl id (.inr rfl)
  · next p hp =>
    obtain hnone | htarget := hhandle
    · rw [hp] at hnone
      cases hnone
    · rw [← htarget, hp] at hm
      have hexited : s.Exited p := (h.handle p hp).resolve_left ((h.signalled p hm).2 hp)
      have hdead : ∀ q, ¬ s.Alive q := by
        intro q hq
        cases hp.symm.trans (h.tracked q hq)
        exact not_alive_of_exited hexited hq
      have hfound : (s.procs.getD p .killed).isExited = true := by
        obtain ⟨x, hx, hxe⟩ := (Option.any_eq_true ..).1 hexited
        rw [List.getD_eq_getElem?_getD, hx]
        exact hxe
      refine ⟨fun q hq => absurd hq (hdead q), ?_, h.counted, by simp, fun _ => hdead, by simp,
        by simp, fun q c hq => ?_⟩
      · intro x hx
        obtain rfl | hx := List.mem_cons.1 hx
        · exact hfound
        · exact h.reaped x hx
      · obtain hq | hq := hq
        · cases hq
          exact hexited
        · cases hq

theorem countExit_inv {s : State n} (h : Inv s) {p code : ℕ} (hm : s.monitor = .count p code)
    (uptime_ms : ℕ) : Inv (s.countExit p code uptime_ms) := by
  unfold State.countExit
  split
  · exact h.frame rfl rfl rfl rfl id (.inr rfl)
  · have hplain : (if kCircuitBreakerThreshold ≤ (if uptime_ms < kFastExitThresholdMs
        then s.consecutive_fast_exits_ + 1 else 0) then Monitor.top else .respawn).plain = true := by
      by_cases htrip : kCircuitBreakerThreshold ≤ (if uptime_ms < kFastExitThresholdMs
        then s.consecutive_fast_exits_ + 1 else 0) <;> simp only [htrip, if_true, if_false] <;> rfl
    refine ⟨h.tracked, h.reaped, fun q hq => ?_, h.handle, h.attached, fun q hq => ?_, fun q hq => ?_,
      fun q c hq => ?_⟩
    · obtain rfl | hq := List.mem_cons.1 hq
      · exact h.recorded _ code (.inr hm)
      · exact h.counted q hq
    · simp only at hq
      rw [hq] at hplain
      cases hplain
    · simp only at hq
      rw [hq] at hplain
      cases hplain
    · simp only at hq
      obtain hq | hq := hq <;> rw [hq] at hplain <;> cases hplain

theorem step_inv {cfg : Subclass} {s t : State n} {a : Action n} (h : Inv s) (hc : Undisturbed s a)
    (hstep : step cfg s a = some t) : Inv t := by
  cases a with
  | exits p code =>
    simp only [step] at hstep
    split at hstep
    · next hp =>
      cases hstep
      exact exits_inv h hp code
    · cases hstep
  | restart t =>
    simp only [step] at hstep
    split at hstep <;> cases hstep
    exact h.frame rfl rfl rfl rfl id (.inl rfl)
  | kill t ended =>
    simp only [step] at hstep
    split at hstep <;> cases hstep
    exact (Kill_inv h hc).frame rfl rfl rfl rfl id (.inl rfl)
  | spawn t e =>
    simp only [step] at hstep
    split at hstep <;> cases hstep
    exact (Spawn_inv h cfg e).frame rfl rfl rfl rfl id (.inl rfl)
  | copy =>
    simp only [step] at hstep
    split at hstep <;> cases hstep
    refine h.frame rfl rfl rfl rfl id (.inr ?_)
    split
    · rfl
    · split <;> rfl
  | readAttached =>
    simp only [step] at hstep
    split at hstep <;> cases hstep
    refine h.frame rfl rfl rfl rfl id (.inr ?_)
    split <;> rfl
  | tryPipe connects =>
    simp only [step] at hstep
    split at hstep <;> cases hstep
    split
    · exact h.frame rfl rfl rfl rfl id (.inr rfl)
    · exact h.frame rfl rfl rfl rfl id (.inr rfl)
  | detach =>
    simp only [step] at hstep
    split at hstep <;> cases hstep
    exact h.frame rfl rfl rfl rfl (fun ha => by cases ha) (.inr rfl)
  | enterWait target =>
    simp only [step] at hstep
    split at hstep
    · split at hstep
      · next hwait =>
        cases hstep
        refine ⟨h.tracked, h.reaped, h.counted, h.handle, h.attached, fun p hp => ?_, by simp,
          by simp⟩
        cases hp
        exact hwait.2 p rfl
      · cases hstep
    · cases hstep
  | waitReturns signalled =>
    simp only [step] at hstep
    split at hstep
    · next target hm =>
      split at hstep
      · next hwait =>
        cases hstep
        cases signalled with
        | false => exact h.frame rfl rfl rfl rfl id (.inr rfl)
        | true =>
          refine ⟨h.tracked, h.reaped, h.counted, h.handle, h.attached, by simp, fun p hp => ?_,
            by simp⟩
          cases hp
          exact ⟨h.waiting p hm, hwait rfl p rfl⟩
      · cases hstep
    · cases hstep
  | relock =>
    simp only [step] at hstep
    split at hstep
    · next target hm =>
      cases hstep
      unfold Undisturbed at hc
      simp only [hm] at hc
      exact reap_inv h hm hc
    · cases hstep
  | record =>
    simp only [step] at hstep
    split at hstep
    · next p code hm =>
      cases hstep
      refine ⟨h.tracked, h.reaped, h.counted, h.handle, h.attached, by simp, by simp,
        fun q c hq => ?_⟩
      obtain hq | hq := hq
      · cases hq
      · cases hq
        exact h.recorded p code (.inl hm)
    · cases hstep
  | count uptime_ms =>
    simp only [step] at hstep
    split at hstep
    · next p code hm =>
      cases hstep
      exact countExit_inv h hm uptime_ms
    · cases hstep
  | respawn e =>
    simp only [step] at hstep
    split at hstep <;> cases hstep
    exact (Spawn_inv h cfg e).frame rfl rfl rfl rfl id (.inr rfl)

/-- **Restart keeps the host**: over every interleaving of the monitor loop with restarts from any
    number of threads in which the monitor, behind a signalled wait, finds the handle it waited on
    or none, and a host that is killed ends, a host that runs is the one tracked, and only hosts
    that exited by themselves are reaped and counted. -/
theorem restart_keeps_host (cfg : Subclass) (e : SpawnAnswers) (s : State n)
    (hs : State.start cfg e = some s) (as : List (Action n))
    (h : AllSteps (step cfg) Undisturbed s as) : Always (step cfg) HostKept s as := by
  refine Always.of_inv (fun _ _ _ hs hc hstep => step_inv hs hc hstep) (fun _ hs => hs.kept) ?_ h
  simp only [State.start] at hs
  split at hs
  · cases hs
    exact Spawn_inv (new_inv n) cfg e
  · cases hs

/-! ## Two restarts -/

instance : DecidablePred (HostKept (n := n)) := fun s =>
  decidable_of_iff ((∀ p < s.procs.length, s.Alive p → s.process_handle_ = some p) ∧
      (∀ x ∈ s.reaped, x.isExited = true) ∧ ∀ p ∈ s.counted, s.Exited p) <| by
    constructor
    · rintro ⟨htracked, hreaped, hcounted⟩
      have htracked' : ∀ p, s.Alive p → s.process_handle_ = some p :=
        fun p hp => htracked p hp.lt hp
      exact ⟨htracked', fun p q hp hq =>
        Option.some.inj ((htracked' p hp).symm.trans (htracked' q hq)), hreaped, hcounted⟩
    · intro h
      exact ⟨fun p _ => h.tracked p, h.reaped, h.counted⟩

def noMutex : Subclass := ⟨false, fun _ => ""⟩

/-- Nothing to attach to; a process is created. -/
def creates : SpawnAnswers := ⟨false, false, true⟩

/-- The supervisor behind a `Start` that created a process. -/
def started : State 1 :=
  { State.new 1 with process_handle_ := some 0, running_ := true, procs := [.alive] }

/-- The monitor takes the lock between `Kill` and `Spawn`. -/
def restartBetween : List (Action 1) :=
  [.copy, .enterWait (some 0), .restart 0, .kill 0 true, .waitReturns true, .relock, .spawn 0 creates,
    .copy, .enterWait (some 1)]

theorem restartBetween_kept : AllSteps (step noMutex) Undisturbed started restartBetween ∧
    Always (step noMutex) HostKept started restartBetween := by
  have hstart : State.start noMutex creates = some started := rfl
  have h : AllSteps (step noMutex) Undisturbed started restartBetween := by decide +kernel
  exact ⟨h, restart_keeps_host noMutex creates started hstart restartBetween h⟩

/-- The whole restart falls into one wait: the monitor closes the handle of the new host. -/
theorem restartDuringWait_loses : ¬ Always (step noMutex) HostKept started
    [.copy, .enterWait (some 0), .restart 0, .kill 0 true, .spawn 0 creates, .waitReturns true,
      .relock] := by
  decide +kernel

end WKPairDriver.Host.Restart
