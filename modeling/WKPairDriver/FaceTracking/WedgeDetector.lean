import WKPairDriver.Host.Restart

/-!
# The wedge detector of the face-tracking worker

The worker loop restarts the host when its heartbeat in shared memory is older than the threshold of
its state.  `Restart` also clears the crash breaker, and a heartbeat outlives the host that wrote it.

* `World` — the supervisor with its monitor loop, the liveness fields, and the worker's variables.
* `WedgeSafe` — a tripped breaker stays until the user asks for a restart, the detector only
  restarts hosts that run, and hosts that crash fast are spawned a bounded number of times.
* `wedge_safe` — this holds over every run in which the heartbeat that the detector finds too old
  was written by the running host.
* `crashLoop_restarted` — five fast crashes, and the last heartbeat grows old.
-/

set_option autoImplicit false

namespace WKPairDriver.FaceTracking.WedgeDetector

open Lib Host Host.Restart

inductive HostState where
  | legacy
  | publishing
  | idle
  | draining
deriving DecidableEq

/-- The supervisor, the liveness fields of the shared memory, and the worker; times are
    milliseconds.  `writer` (nothing for a host the supervisor has not created) and the fields
    below it are history. -/
structure World where
  sup : State 0
  now : ℕ
  host_state : HostState
  /-- zero: no heartbeat -/
  host_heartbeat : ℕ
  /-- a host of another session runs -/
  external : Bool
  wedge_restart_pending : Bool
  last_wedge_restart_time : ℕ
  /-- the worker is between `Restart` and `ResetHostLiveness` -/
  resetDue : Bool
  writer : Option ℕ
  spawnedAt : List ℕ
  /-- the breaker has tripped since the user last asked for a restart -/
  tripped : Bool
  /-- since then a host has not ended in a fast crash -/
  outlived : Bool
  /-- the hosts created since then -/
  spawns : ℕ
  /-- the restarts of the detector, with whether a host was running -/
  wedges : List Bool

/-! ## The worker -/

/-- `HeartbeatAgeMs`; nothing is `UINT64_MAX`. -/
def World.HeartbeatAgeMs (w : World) : Option ℕ :=
  if w.host_heartbeat = 0 then none else some (w.now - w.host_heartbeat)

def wedge_threshold_ms : HostState → Option ℕ
  | .publishing => some 2000
  | .idle => some 5000
  | .draining | .legacy => none

def World.is_wedged (w : World) : Bool :=
  match w.HeartbeatAgeMs, wedge_threshold_ms w.host_state with
  | some age, some threshold => threshold < age
  | _, _ => false

def World.restart_allowed (w : World) : Bool :=
  !w.wedge_restart_pending || decide (10 ≤ (w.now - w.last_wedge_restart_time) / 1000)

/-- `HostSupervisorBase::Restart` in one piece. -/
def restartHost (cfg : Subclass) (ended : Bool) (e : SpawnAnswers) (s : State 0) : State 0 :=
  (State.Kill ended { s with halted_ := false, consecutive_fast_exits_ := 0 }).Spawn cfg e

/-- The supervisor has moved; processes it created were spawned now. -/
def World.withSup (w : World) (t : State 0) : World :=
  let created := t.procs.length - w.sup.procs.length
  { w with
    sup := t
    spawnedAt := w.spawnedAt ++ List.replicate created w.now
    spawns := w.spawns + created }

/-- A host runs that the supervisor has. -/
def World.hostRuns (w : World) : Bool :=
  w.sup.process_handle_.any (w.sup.Alive ·) || (w.sup.attached_to_existing_ && w.external)

/-- The host has lived for the fast-exit threshold, or is not one that the supervisor created. -/
def World.hostOutlives (w : World) : Bool :=
  w.sup.attached_to_existing_ || w.sup.process_handle_.any fun p =>
    w.spawnedAt.getD p w.now + kFastExitThresholdMs ≤ w.now

/-- The head of an iteration of `WorkerLoop`. -/
def World.poll (cfg : Subclass) (ended : Bool) (e : SpawnAnswers) (w : World) : World :=
  if w.is_wedged then
    if w.restart_allowed then
      { w.withSup (restartHost cfg ended e w.sup) with
        wedge_restart_pending := true
        last_wedge_restart_time := w.now
        resetDue := true
        outlived := w.outlived || w.hostOutlives
        wedges := w.hostRuns :: w.wedges }
    else w
  else if w.wedge_restart_pending && w.HeartbeatAgeMs.isSome then
    { w with wedge_restart_pending := false }
  else w

/-! ## Steps -/

inductive Action where
  /-- a step of the monitor loop, or the exit of a process -/
  | sup (a : Restart.Action 0)
  /-- a running host writes its state and the time -/
  | heartbeat (writer : Option ℕ) (state : HostState)
  | external (running : Bool)
  /-- `RequestFaceHostRestart` -/
  | userRestart (ended : Bool) (e : SpawnAnswers)
  | poll (ended : Bool) (e : SpawnAnswers)
  | resetHostLiveness
  | tick (ms : ℕ)

/-- The step shows a host that does not end in a fast crash. -/
def notFast (s : State 0) : Restart.Action 0 → Bool
  | .count uptime_ms =>
    match s.monitor with
    | .count _ code => isCleanSingletonExit code || decide (kFastExitThresholdMs ≤ uptime_ms)
    | _ => false
  | .detach => true
  | _ => false

/-- Only a running host writes. -/
def World.canWrite (w : World) : Option ℕ → Bool
  | some p => w.sup.Alive p
  | none => w.external

def step (cfg : Subclass) (w : World) : Action → Option World
  | .sup a => (Restart.step cfg w.sup a).map fun t =>
    { w.withSup t with
      tripped := w.tripped || (t.halted_ && !w.sup.halted_)
      outlived := w.outlived || notFast w.sup a }
  | .heartbeat writer state =>
    if w.canWrite writer then
      some { w with host_state := state, host_heartbeat := w.now, writer := writer }
    else none
  | .external running => some { w with external := running }
  | .userRestart ended e =>
    some { { w with spawns := 0 }.withSup (restartHost cfg ended e w.sup) with
      tripped := false, outlived := false }
  | .poll ended e => if w.resetDue then none else some (w.poll cfg ended e)
  | .resetHostLiveness =>
    if w.resetDue then
      some { w with host_state := .legacy, host_heartbeat := 0, resetDue := false }
    else none
  | .tick ms => some { w with now := w.now + ms }

/-- The worker begins behind `Start`, with a shared memory that may hold what an earlier session
    left. -/
def World.start (sup : State 0) (now : ℕ) (state : HostState) (heartbeat : ℕ) (external : Bool) :
    World where
  sup := sup
  now := now
  host_state := state
  host_heartbeat := heartbeat
  external := external
  wedge_restart_pending := false
  last_wedge_restart_time := 0
  resetDue := false
  writer := none
  spawnedAt := List.replicate sup.procs.length now
  tripped := false
  outlived := false
  spawns := sup.procs.length
  wedges := []

/-! ## The detector and the breaker -/

/-- A tripped breaker stays, restarts are for hosts that run, and hosts that all crash fast are
    created a bounded number of times. -/
structure WedgeSafe (w : World) : Prop where
  stays : w.tripped = true → w.sup.halted_ = true
  alive : ∀ b ∈ w.wedges, b = true
  bounded : w.outlived = false → w.spawns ≤ kCircuitBreakerThreshold + 2

/-- The heartbeat was written by the host that runs: the tracked one, or one the supervisor is
    attached to. -/
def WriterRuns (w : World) : Prop :=
  match w.writer with
  | some p => w.sup.process_handle_ = some p ∧ w.sup.Alive p
  | none => w.sup.attached_to_existing_ = true ∧ w.external = true

instance (w : World) : Decidable (WriterRuns w) := by
  unfold WriterRuns
  split <;> infer_instance

/-- The detector only finds the heartbeat of a running host too old. -/
def FreshOrRunning (w : World) : Action → Prop
  | .poll _ _ => w.is_wedged = true → w.restart_allowed = true → WriterRuns w
  | _ => True

instance (w : World) : DecidablePred (FreshOrRunning w) := fun a => by
  unfold FreshOrRunning
  split <;> infer_instance

/-- The host in `process_handle_` runs. -/
def TrackedAlive (s : State 0) : Prop := ∃ p, s.process_handle_ = some p ∧ s.Alive p

/-- What the breaker and the monitor's place say of each other. -/
structure SupInv (s : State 0) : Prop where
  le : s.consecutive_fast_exits_ ≤ kCircuitBreakerThreshold
  closed : s.halted_ = false → s.consecutive_fast_exits_ < kCircuitBreakerThreshold
  halted : s.halted_ = true → s.monitor = .top ∧ ¬ TrackedAlive s
  counting : ∀ p code, s.monitor = .record p code ∨ s.monitor = .count p code →
    TrackedAlive s → s.consecutive_fast_exits_ = 0

theorem SupInv.not_halted {s : State 0} (h : SupInv s) (hm : s.monitor ≠ .top) :
    s.halted_ = false := by
  cases hh : s.halted_ with
  | false => rfl
  | true => exact absurd (h.halted hh).1 hm

/-- A step that leaves breaker and tracked host alone and goes on outside the exit handling. -/
theorem SupInv.move {s t : State 0} (h : SupInv s)
    (hc : t.consecutive_fast_exits_ = s.consecutive_fast_exits_) (hh : t.halted_ = s.halted_)
    (halive : TrackedAlive t → TrackedAlive s) (htop : s.halted_ = true → t.monitor = .top)
    (hplain : t.monitor = s.monitor ∨ t.monitor.plain = true ∨
      ∃ target, t.monitor = .waiting target ∨ t.monitor = .relock target) : SupInv t := by
  refine ⟨hc ▸ h.le, fun hf => hc ▸ h.closed (hh ▸ hf), fun hf => ?_, fun p code hm ha => ?_⟩
  · rw [hh] at hf
    exact ⟨htop hf, fun ha => (h.halted hf).2 (halive ha)⟩
  · rw [hc]
    obtain hs | hs | ⟨target, hs | hs⟩ := hplain
    · exact h.counting p code (hs ▸ hm) (halive ha)
    · obtain hm | hm := hm <;> rw [hm] at hs <;> cases hs
    · obtain hm | hm := hm <;> rw [hm] at hs <;> cases hs
    · obtain hm | hm := hm <;> rw [hm] at hs <;> cases hs

theorem restartHost_frame (cfg : Subclass) (ended : Bool) (e : SpawnAnswers) (s : State 0) :
    (restartHost cfg ended e s).halted_ = false ∧
      (restartHost cfg ended e s).consecutive_fast_exits_ = 0 ∧
      (restartHost cfg ended e s).monitor = s.monitor ∧
      s.procs.length ≤ (restartHost cfg ended e s).procs.length ∧
      (restartHost cfg ended e s).procs.length ≤ s.procs.length + 1 := by
  unfold restartHost
  obtain ⟨hh, hc, hm, hlo, hhi⟩ := Spawn_frame cfg e
    (State.Kill ended { s with halted_ := false, consecutive_fast_exits_ := 0 })
  obtain ⟨hh', hc', hm', hlen⟩ := Kill_frame ended
    { s with halted_ := false, consecutive_fast_exits_ := 0 }
  rw [hh, hc, hm, hh', hc', hm']
  rw [hlen] at hlo hhi
  exact ⟨rfl, rfl, rfl, hlo, hhi⟩

theorem restartHost_inv (cfg : Subclass) (ended : Bool) (e : SpawnAnswers) (s : State 0) :
    SupInv (restartHost cfg ended e s) := by
  obtain ⟨hh, hc, -, -, -⟩ := restartHost_frame cfg ended e s
  refine ⟨by rw [hc]; exact Nat.zero_le _, fun _ => by rw [hc]; decide, fun h => ?_, fun _ _ _ _ => hc⟩
  rw [hh] at h
  cases h

/-- The monitor has found no handle, or has taken the one it found. -/
def emptyHanded : Monitor → Bool
  | .noHandle | .attached | .detach | .record _ _ | .count _ _ => true
  | _ => false

/-- The monitor has an exit to count. -/
def counts : Monitor → Bool
  | .record _ _ | .count _ _ => true
  | _ => false

/-- The breaker does not trip while the supervisor is attached: a handle it then holds is of a
    restart in between, and the restart has cleared the counter. -/
structure AttachInv (s : State 0) : Prop where
  detached : s.halted_ = true → s.attached_to_existing_ = false
  unheld : emptyHanded s.monitor = true → s.process_handle_ ≠ none → s.consecutive_fast_exits_ = 0
  respawning : s.monitor = .respawn → s.process_handle_ ≠ none → s.consecutive_fast_exits_ ≤ 1
  both : s.attached_to_existing_ = true → s.process_handle_ ≠ none → s.consecutive_fast_exits_ ≤ 1
  counting : counts s.monitor = true → s.attached_to_existing_ = true →
    s.consecutive_fast_exits_ ≤ 1

theorem not_emptyHanded {m : Monitor} (h : emptyHanded m = false) {p : Prop} :
    emptyHanded m = true → p := fun hm => absurd (h.symm.trans hm) (by decide)

theorem not_counts {m : Monitor} (h : counts m = false) {p : Prop} : counts m = true → p :=
  fun hm => absurd (h.symm.trans hm) (by decide)

theorem restartHost_attach (cfg : Subclass) (ended : Bool) (e : SpawnAnswers) (s : State 0) :
    AttachInv (restartHost cfg ended e s) := by
  obtain ⟨hh, hc, -, -, -⟩ := restartHost_frame cfg ended e s
  refine ⟨fun h => ?_, fun _ _ => hc, fun _ _ => ?_, fun _ _ => ?_, fun _ _ => ?_⟩
  · rw [hh] at h
    cases h
  all_goals
    rw [hc]
    exact Nat.zero_le 1

/-- A step that leaves the counter and the handle, and goes on where a handle is not asked about. -/
theorem AttachInv.move {s t : State 0} (h : AttachInv s)
    (hc : t.consecutive_fast_exits_ = s.consecutive_fast_exits_) (hh : t.halted_ = s.halted_)
    (hhandle : t.process_handle_ = s.process_handle_)
    (hattached : t.attached_to_existing_ = true → s.attached_to_existing_ = true)
    (hunheld : emptyHanded t.monitor = true →
      emptyHanded s.monitor = true ∨ s.process_handle_ = none)
    (hrespawn : t.monitor = .respawn → s.monitor = .respawn ∨ emptyHanded s.monitor = true)
    (hcounts : counts t.monitor = true → counts s.monitor = true) : AttachInv t := by
  refine ⟨fun hf => ?_, fun hm hne => ?_, fun hm hne => ?_, fun ha hne => ?_, fun hm ha => ?_⟩
  · cases hatt : t.attached_to_existing_ with
    | false => rfl
    | true => exact absurd (hattached hatt) (by rw [h.detached (hh ▸ hf)]; decide)
  · rw [hhandle] at hne
    rw [hc]
    rcases hunheld hm with hm | hnone
    · exact h.unheld hm hne
    · exact absurd hnone hne
  · rw [hhandle] at hne
    rw [hc]
    rcases hrespawn hm with hm | hm
    · exact h.respawning hm hne
    · exact (h.unheld hm hne).le.trans (Nat.zero_le 1)
  · rw [hhandle] at hne
    rw [hc]
    exact h.both (hattached ha) hne
  · rw [hc]
    exact h.counting (hcounts hm) (hattached ha)

theorem countExit_attach {s : State 0} (h : AttachInv s) {p code : ℕ}
    (hm : s.monitor = .count p code) (uptime_ms : ℕ) : AttachInv (s.countExit p code uptime_ms) := by
  have hunheld : emptyHanded s.monitor = true := by rw [hm]; rfl
  have hcounts : counts s.monitor = true := by rw [hm]; rfl
  unfold State.countExit
  split
  · exact h.move rfl rfl rfl id (not_emptyHanded rfl) (fun _ => .inr hunheld) (not_counts rfl)
  · have hfast : (if uptime_ms < kFastExitThresholdMs then s.consecutive_fast_exits_ + 1 else 0) ≤
        s.consecutive_fast_exits_ + 1 := by split <;> omega
    generalize (if uptime_ms < kFastExitThresholdMs then s.consecutive_fast_exits_ + 1 else 0) =
      fast at hfast
    have hplace : emptyHanded (if kCircuitBreakerThreshold ≤ fast then Monitor.top else .respawn) =
        false ∧ counts (if kCircuitBreakerThreshold ≤ fast then Monitor.top else .respawn) =
        false := by
      split <;> exact ⟨rfl, rfl⟩
    have hone : s.process_handle_ ≠ none → fast ≤ 1 := fun hne => by
      have := h.unheld hunheld hne
      omega
    refine ⟨fun hf => ?_, fun hp => ?_, fun _ hne => hone hne, fun _ hne => hone hne, fun hp => ?_⟩
    · cases hatt : s.attached_to_existing_ with
      | false => rfl
      | true =>
        -- two exits at most
        have hle := h.counting hcounts hatt
        have hopen : s.halted_ = false := by
          cases hhalt : s.halted_ with
          | false => rfl
          | true => exact absurd (h.detached hhalt) (by rw [hatt]; decide)
        have hthreshold : kCircuitBreakerThreshold = 5 := rfl
        simp only [hopen, Bool.false_or, decide_eq_true_eq] at hf
        omega
    · exact absurd (hplace.1.symm.trans hp) (by decide)
    · exact absurd (hplace.2.symm.trans hp) (by decide)

theorem respawn_attach {cfg : Subclass} {e : SpawnAnswers} {s : State 0} (h : AttachInv s)
    (hm : s.monitor = .respawn) (hopen : s.halted_ = false) :
    AttachInv { s.Spawn cfg e with monitor := .top } := by
  obtain ⟨hh, hc, -, -, -⟩ := Spawn_frame cfg e s
  refine ⟨fun hf => ?_, not_emptyHanded rfl, (fun hr => by cases hr), fun ha hne => ?_,
    not_counts rfl⟩
  · exact absurd (hh.symm.trans hf) (by rw [hopen]; decide)
  · rw [show State.consecutive_fast_exits_ { s.Spawn cfg e with monitor := .top } =
      s.consecutive_fast_exits_ from hc]
    unfold State.Spawn at ha hne
    split at ha
    next halive => exact h.respawning hm (by simpa [halive] using hne)
    next halive =>
      split at ha
      next hconnects => exact h.respawning hm (by simpa [halive, hconnects] using hne)
      next hconnects =>
        split at ha
        next => cases ha
        next hcreates => exact h.respawning hm (by simpa [halive, hconnects, hcreates] using hne)

theorem attach_step {cfg : Subclass} {s t : State 0} {a : Restart.Action 0} (hsup : SupInv s)
    (h : AttachInv s) (hstep : Restart.step cfg s a = some t) : AttachInv t := by
  cases a with
  | exits p code =>
    simp only [Restart.step] at hstep
    split at hstep <;> cases hstep
    exact h.move rfl rfl rfl id .inl .inl id
  | restart t => exact t.elim0
  | kill t ended => exact t.elim0
  | spawn t e => exact t.elim0
  | copy =>
    simp only [Restart.step] at hstep
    split at hstep
    next hm =>
      cases hstep
      have hplace : ∀ m, m = (if s.halted_ then Monitor.top else match s.process_handle_ with
          | some p => .ready p | none => .noHandle) →
          (emptyHanded m = true → s.process_handle_ = none) ∧ m ≠ .respawn ∧ counts m = false := by
        rintro m rfl
        split
        · exact ⟨not_emptyHanded rfl, (fun hr => by cases hr), rfl⟩
        · split
          · exact ⟨not_emptyHanded rfl, (fun hr => by cases hr), rfl⟩
          next hnone => exact ⟨fun _ => hnone, (fun hr => by cases hr), rfl⟩
      obtain ⟨hunheld, hrespawn, hcounts⟩ := hplace _ rfl
      exact h.move rfl rfl rfl id (fun hu => .inr (hunheld hu)) (fun hr => absurd hr hrespawn)
        fun hk => absurd (hcounts.symm.trans hk) (by decide)
    next => cases hstep
  | readAttached =>
    simp only [Restart.step] at hstep
    split at hstep
    next hm =>
      cases hstep
      have hunheld : emptyHanded s.monitor = true := by rw [hm]; rfl
      refine h.move rfl rfl rfl id (fun _ => .inl hunheld) (fun _ => .inr hunheld) fun hk => ?_
      dsimp only at hk
      split at hk <;> cases hk
    next => cases hstep
  | tryPipe connects =>
    simp only [Restart.step] at hstep
    split at hstep
    next hm =>
      cases hstep
      have hunheld : emptyHanded s.monitor = true := by rw [hm]; rfl
      split
      · exact h.move rfl rfl rfl id (not_emptyHanded rfl) (fun hr => by cases hr) (not_counts rfl)
      · exact h.move rfl rfl rfl id (fun _ => .inl hunheld) (fun hr => by cases hr)
          (not_counts rfl)
    next => cases hstep
  | detach =>
    simp only [Restart.step] at hstep
    split at hstep
    next hm =>
      cases hstep
      have hunheld : emptyHanded s.monitor = true := by rw [hm]; rfl
      exact h.move rfl rfl rfl (fun hr => by cases hr) (not_emptyHanded rfl) (fun _ => .inr hunheld)
        (not_counts rfl)
    next => cases hstep
  | enterWait target =>
    simp only [Restart.step] at hstep
    split at hstep
    next =>
      split at hstep <;> cases hstep
      exact h.move rfl rfl rfl id (not_emptyHanded rfl) (fun hr => by cases hr) (not_counts rfl)
    next => cases hstep
  | waitReturns signalled =>
    simp only [Restart.step] at hstep
    split at hstep
    next =>
      split at hstep <;> cases hstep
      cases signalled <;>
        exact h.move rfl rfl rfl id (not_emptyHanded rfl) (fun hr => by cases hr) (not_counts rfl)
    next => cases hstep
  | relock =>
    simp only [Restart.step] at hstep
    split at hstep
    next =>
      cases hstep
      unfold State.reap
      split
      next =>
        exact h.move rfl rfl rfl id (not_emptyHanded rfl) (fun hr => by cases hr) (not_counts rfl)
      next p hp =>
        have hne : s.process_handle_ ≠ none := by rw [hp]; exact Option.some_ne_none _
        exact ⟨h.detached, fun _ hnone => absurd rfl hnone, (fun hr => by cases hr),
          fun _ hnone => absurd rfl hnone, fun _ ha => h.both ha hne⟩
    next => cases hstep
  | record =>
    simp only [Restart.step] at hstep
    split at hstep
    next p code hm =>
      cases hstep
      have hunheld : emptyHanded s.monitor = true := by rw [hm]; rfl
      have hcounts : counts s.monitor = true := by rw [hm]; rfl
      exact h.move rfl rfl rfl id (fun _ => .inl hunheld) (fun hr => by cases hr) fun _ => hcounts
    next => cases hstep
  | count uptime_ms =>
    simp only [Restart.step] at hstep
    split at hstep
    next p code hm =>
      cases hstep
      exact countExit_attach h hm uptime_ms
    next => cases hstep
  | respawn e =>
    simp only [Restart.step] at hstep
    split at hstep
    next hm =>
      cases hstep
      exact respawn_attach h hm (hsup.not_halted (by simp [hm]))
    next => cases hstep

/-- A monitor about to respawn has counted a crash, or has seen a host that did not crash fast. -/
def credit (s : State 0) : ℕ := if s.monitor = .respawn then 1 else 0

theorem credit_le (s : State 0) : credit s ≤ 1 := by
  unfold credit
  split <;> omega

/-- What a step of the supervisor does: a tripped breaker stays, and without a sign of a host that
    does not crash fast there is a crash for every process. -/
structure SupStep (s t : State 0) (a : Restart.Action 0) : Prop where
  inv : SupInv t
  stays : s.halted_ = true → t.halted_ = true
  length : s.procs.length ≤ t.procs.length
  counted : notFast s a = false →
    t.procs.length + credit t + s.consecutive_fast_exits_ ≤
      s.procs.length + credit s + t.consecutive_fast_exits_

/-- A step without a new process, behind which the monitor is not about to respawn. -/
theorem SupStep.quiet {s t : State 0} {a : Restart.Action 0} (hinv : SupInv t)
    (hh : t.halted_ = s.halted_) (hlen : t.procs.length = s.procs.length)
    (hc : t.consecutive_fast_exits_ = s.consecutive_fast_exits_)
    (hm : t.monitor = s.monitor ∨ t.monitor ≠ .respawn) : SupStep s t a := by
  refine ⟨hinv, fun h => hh ▸ h, hlen.ge, fun _ => ?_⟩
  have hcredit : credit t ≤ credit s := by
    unfold credit
    obtain hm | hm := hm
    · rw [hm]
    · rw [if_neg hm]
      exact Nat.zero_le _
  omega

theorem countExit_supStep {s : State 0} (h : SupInv s) {p code : ℕ} (hm : s.monitor = .count p code)
    (uptime_ms : ℕ) : SupStep s (s.countExit p code uptime_ms) (.count uptime_ms) := by
  have hopen : s.halted_ = false := h.not_halted (by rw [hm]; simp)
  have hless := h.closed hopen
  have hzero := h.counting p code (.inr hm)
  have hcredit : credit s = 0 := by rw [credit, hm]; rfl
  unfold State.countExit
  split
  · next hclean =>
    refine ⟨h.move rfl rfl id (fun hh => by rw [hopen] at hh; cases hh) (.inr (.inl rfl)),
      id, Nat.le_refl _, fun hfast => ?_⟩
    simp [notFast, hm, hclean] at hfast
  · next hclean =>
    by_cases hup : uptime_ms < kFastExitThresholdMs
    · simp only [hup, if_true, hopen, Bool.false_or]
      refine ⟨⟨hless, fun hh => ?_, fun hh => ?_, fun q c hq ha => ?_⟩, fun hh => ?_, Nat.le_refl _,
        fun _ => ?_⟩
      · simp only [decide_eq_false_iff_not, not_le] at hh
        exact hh
      · -- the fifth crash in a row: no restart has come in between, so that no host runs
        simp only [decide_eq_true_eq] at hh
        refine ⟨if_pos hh, fun ha => ?_⟩
        have hc := hzero ha
        rw [hc] at hh
        exact absurd hh (by decide)
      · simp only at hq
        split at hq <;> obtain hq | hq := hq <;> cases hq
      · rw [hopen] at hh
        cases hh
      · rw [hcredit]
        refine (Nat.add_le_add_right (Nat.add_le_add_left (credit_le _) _) _).trans ?_
        dsimp only
        omega
    · simp only [hup, if_false]
      have hnone : ¬ kCircuitBreakerThreshold ≤ 0 := by decide
      simp only [hnone, if_false, decide_false, Bool.or_false]
      have hpos : 0 < kCircuitBreakerThreshold := by decide
      refine ⟨⟨Nat.zero_le _, fun _ => hpos, fun hh => ?_, fun _ _ _ _ => rfl⟩, id,
        Nat.le_refl _, fun hfast => ?_⟩
      · rw [hopen] at hh
        cases hh
      · simp [notFast, hm] at hfast
        omega

theorem sup_step {cfg : Subclass} {s t : State 0} {a : Restart.Action 0} (h : SupInv s)
    (hstep : Restart.step cfg s a = some t) : SupStep s t a := by
  have hopen : s.monitor ≠ .top → ∀ {x : Monitor}, s.halted_ = true → x = .top := by
    intro hm x hh
    rw [h.not_halted hm] at hh
    cases hh
  cases a with
  | exits p code =>
    simp only [Restart.step] at hstep
    split at hstep <;> cases hstep
    refine .quiet (h.move rfl rfl ?_ (fun hh => (h.halted hh).1) (.inl rfl)) rfl
      (List.length_set ..) rfl (.inl rfl)
    rintro ⟨q, hq, ha⟩
    refine ⟨q, hq, ?_⟩
    simp only [State.Alive, List.getElem?_set] at ha
    split at ha
    · split at ha <;> cases ha
    · exact ha
  | restart t => exact t.elim0
  | kill t ended => exact t.elim0
  | spawn t e => exact t.elim0
  | copy =>
    simp only [Restart.step] at hstep
    split at hstep
    · next hm =>
      cases hstep
      have hplain : (if s.halted_ then Monitor.top else match s.process_handle_ with
          | some p => .ready p | none => .noHandle).plain = true ∧
          (if s.halted_ then Monitor.top else match s.process_handle_ with
          | some p => .ready p | none => .noHandle) ≠ .respawn := by
        split
        · exact ⟨rfl, by simp⟩
        · split <;> exact ⟨rfl, by simp⟩
      refine .quiet (h.move rfl rfl id ?_ (.inr (.inl hplain.1))) rfl rfl rfl (.inr hplain.2)
      intro hh
      exact if_pos hh
    · cases hstep
  | readAttached =>
    simp only [Restart.step] at hstep
    split at hstep
    · next hm =>
      cases hstep
      have hplain : (if s.attached_to_existing_ then Monitor.attached else .top).plain = true ∧
          (if s.attached_to_existing_ then Monitor.attached else .top) ≠ .respawn := by
        split <;> exact ⟨rfl, by simp⟩
      exact .quiet (h.move rfl rfl id (hopen (by simp [hm])) (.inr (.inl hplain.1))) rfl rfl rfl
        (.inr hplain.2)
    · cases hstep
  | tryPipe connects =>
    simp only [Restart.step] at hstep
    split at hstep
    · next hm =>
      cases hstep
      split
      · exact .quiet (h.move rfl rfl id (hopen (by simp [hm])) (.inr (.inl rfl))) rfl rfl rfl
          (.inr (by simp))
      · exact .quiet (h.move rfl rfl id (hopen (by simp [hm])) (.inr (.inl rfl))) rfl rfl rfl
          (.inr (by simp))
    · cases hstep
  | detach =>
    simp only [Restart.step] at hstep
    split at hstep
    · next hm =>
      cases hstep
      exact ⟨h.move rfl rfl id (hopen (by simp [hm])) (.inr (.inl rfl)), id, Nat.le_refl _,
        fun hfast => by cases hfast⟩
    · cases hstep
  | enterWait target =>
    simp only [Restart.step] at hstep
    split at hstep
    · next cur hm =>
      split at hstep <;> cases hstep
      exact .quiet (h.move rfl rfl id (hopen (by simp [hm])) (.inr (.inr ⟨target, .inl rfl⟩)))
        rfl rfl rfl (.inr (by simp))
    · cases hstep
  | waitReturns signalled =>
    simp only [Restart.step] at hstep
    split at hstep
    · next target hm =>
      split at hstep <;> cases hstep
      cases signalled with
      | false =>
        exact .quiet (h.move rfl rfl id (hopen (by simp [hm])) (.inr (.inl rfl))) rfl rfl rfl
          (.inr (by simp))
      | true =>
        exact .quiet (h.move rfl rfl id (hopen (by simp [hm])) (.inr (.inr ⟨target, .inr rfl⟩)))
          rfl rfl rfl (.inr (by simp))
    · cases hstep
  | relock =>
    simp only [Restart.step] at hstep
    split at hstep
    · next target hm =>
      cases hstep
      have hhalt : s.halted_ = false := h.not_halted (by simp [hm])
      unfold State.reap
      split
      · exact .quiet (h.move rfl rfl id (hopen (by simp [hm])) (.inr (.inl rfl))) rfl rfl rfl
          (.inr (by simp))
      · refine .quiet ⟨h.le, h.closed, fun hh => ?_, fun q c _ ha => ?_⟩ rfl rfl rfl
          (.inr (by simp))
        · rw [hhalt] at hh
          cases hh
        · obtain ⟨r, hr, -⟩ := ha
          cases hr
    · cases hstep
  | record =>
    simp only [Restart.step] at hstep
    split at hstep
    · next p code hm =>
      cases hstep
      have hhalt : s.halted_ = false := h.not_halted (by simp [hm])
      refine .quiet ⟨h.le, h.closed, fun hh => ?_, fun q c _ ha => ?_⟩ rfl rfl rfl (.inr (by simp))
      · rw [hhalt] at hh
        cases hh
      · exact h.counting p code (.inl hm) ha
    · cases hstep
  | count uptime_ms =>
    simp only [Restart.step] at hstep
    split at hstep
    · next p code hm =>
      cases hstep
      exact countExit_supStep h hm uptime_ms
    · cases hstep
  | respawn e =>
    simp only [Restart.step] at hstep
    split at hstep
    · next hm =>
      cases hstep
      have hhalt : s.halted_ = false := h.not_halted (by simp [hm])
      obtain ⟨hh, hc, -, hlo, hhi⟩ := Spawn_frame cfg e s
      have hcredit : credit s = 1 := by rw [credit, if_pos hm]
      refine ⟨⟨?_, fun _ => ?_, fun hf => ?_, by simp⟩, fun hf => ?_, hlo, fun _ => ?_⟩
      · exact hc ▸ h.le
      · exact hc ▸ h.closed hhalt
      · simp only [hh, hhalt] at hf
        cases hf
      · rw [hhalt] at hf
        cases hf
      · have : credit { s.Spawn cfg e with monitor := .top } = 0 := rfl
        rw [this, hcredit]
        simp only [hc]
        omega
    · cases hstep

/-- The invariant: the supervisor's own, and the times of the processes. -/
structure Inv (w : World) : Prop where
  sup : SupInv w.sup
  stays : w.tripped = true → w.sup.halted_ = true
  alive : ∀ b ∈ w.wedges, b = true
  bounded : w.outlived = false →
    w.spawns + credit w.sup ≤ w.sup.consecutive_fast_exits_ + 2
  times : w.spawnedAt.length = w.sup.procs.length
  past : ∀ t ∈ w.spawnedAt, t ≤ w.now
  written : ∀ p, w.writer = some p → w.host_heartbeat ≠ 0 →
    ∃ t, w.spawnedAt[p]? = some t ∧ t ≤ w.host_heartbeat

theorem Inv.safe {w : World} (h : Inv w) : WedgeSafe w := by
  refine ⟨h.stays, h.alive, fun hout => ?_⟩
  have := h.bounded hout
  have := h.sup.le
  omega

/-- The times of the processes are kept when the supervisor creates others. -/
theorem Inv.withSup_times {w : World} (h : Inv w) {t : State 0}
    (hlen : w.sup.procs.length ≤ t.procs.length) :
    (w.withSup t).spawnedAt.length = t.procs.length ∧ (∀ u ∈ (w.withSup t).spawnedAt, u ≤ w.now) ∧
      ∀ p, w.writer = some p → w.host_heartbeat ≠ 0 →
        ∃ u, (w.withSup t).spawnedAt[p]? = some u ∧ u ≤ w.host_heartbeat := by
  have := h.times
  refine ⟨?_, ?_, ?_⟩
  · simp only [World.withSup, List.length_append, List.length_replicate]
    omega
  · intro u hu
    obtain hu | hu := List.mem_append.1 hu
    · exact h.past u hu
    · exact (List.eq_of_mem_replicate hu).le
  · intro p hp hhb
    obtain ⟨u, hu, hle⟩ := h.written p hp hhb
    refine ⟨u, ?_, hle⟩
    exact (List.getElem?_append_left (List.getElem?_eq_some_iff.1 hu).1).trans hu

/-- A host that runs and has written a heartbeat that is too old has lived for the threshold, and
    the breaker has not tripped. -/
theorem wedged_runs {w : World} (h : Inv w) (hattach : AttachInv w.sup)
    (hw : w.is_wedged = true) (hr : WriterRuns w) :
    w.hostRuns = true ∧ w.hostOutlives = true ∧ w.sup.halted_ = false := by
  unfold WriterRuns at hr
  split at hr
  · next p hp =>
    obtain ⟨hhandle, halive⟩ := hr
    have hage : ∃ age threshold, w.HeartbeatAgeMs = some age ∧
        wedge_threshold_ms w.host_state = some threshold ∧ threshold < age := by
      unfold World.is_wedged at hw
      split at hw
      · next age threshold hage hthreshold =>
        exact ⟨age, threshold, hage, hthreshold, by simpa using hw⟩
      · cases hw
    obtain ⟨age, threshold, hage, hthreshold, hlt⟩ := hage
    have hthreshold' : 2000 ≤ threshold := by
      unfold wedge_threshold_ms at hthreshold
      split at hthreshold <;> cases hthreshold <;> omega
    unfold World.HeartbeatAgeMs at hage
    split at hage
    · cases hage
    · next hhb =>
      cases hage
      obtain ⟨t, ht, hle⟩ := h.written p hp hhb
      refine ⟨by simp [World.hostRuns, hhandle, halive], ?_, ?_⟩
      · have hgetD : w.spawnedAt.getD p w.now = t := by rw [List.getD_eq_getElem?_getD, ht]; rfl
        have hfast : kFastExitThresholdMs = 2000 := rfl
        simp only [World.hostOutlives, hhandle, Option.any_some, hgetD, hfast, Bool.or_eq_true,
          decide_eq_true_eq]
        right
        omega
      · cases hhalt : w.sup.halted_ with
        | false => rfl
        | true => exact absurd ⟨p, hhandle, halive⟩ (h.sup.halted hhalt).2
  · obtain ⟨hatt, hext⟩ := hr
    refine ⟨by simp [World.hostRuns, hatt, hext], by simp [World.hostOutlives, hatt], ?_⟩
    cases hhalt : w.sup.halted_ with
    | false => rfl
    | true => exact absurd (hattach.detached hhalt) (by rw [hatt]; decide)

theorem step_inv {cfg : Subclass} {w v : World} {a : Action} (h : Inv w)
    (hattach : AttachInv w.sup) (hc : FreshOrRunning w a) (hstep : step cfg w a = some v) :
    Inv v := by
  cases a with
  | sup a =>
    obtain ⟨t, ht, rfl⟩ := Option.map_eq_some_iff.1 hstep
    obtain ⟨hinv, hstays, hlen, hcounted⟩ := sup_step h.sup ht
    obtain ⟨htimes, hpast, hwritten⟩ := h.withSup_times hlen
    refine ⟨hinv, fun htrip => ?_, h.alive, fun hout => ?_, htimes, hpast, hwritten⟩
    · simp only [Bool.or_eq_true, Bool.and_eq_true] at htrip
      obtain htrip | ⟨htrip, -⟩ := htrip
      · exact hstays (h.stays htrip)
      · exact htrip
    · simp only [Bool.or_eq_false_iff] at hout
      have := h.bounded hout.1
      have := hcounted hout.2
      simp only [World.withSup]
      omega
  | heartbeat writer state =>
    simp only [step] at hstep
    split at hstep
    · next hrun =>
      cases hstep
      refine ⟨h.sup, h.stays, h.alive, h.bounded, h.times, h.past, fun p hp _ => ?_⟩
      cases hp
      have hlt : p < w.spawnedAt.length := by
        rw [h.times]
        exact State.Alive.lt (of_decide_eq_true hrun : w.sup.Alive p)
      exact ⟨w.spawnedAt[p], List.getElem?_eq_getElem hlt, h.past _ (List.getElem_mem hlt)⟩
    · cases hstep
  | external running =>
    cases hstep
    exact ⟨h.sup, h.stays, h.alive, h.bounded, h.times, h.past, h.written⟩
  | userRestart ended e =>
    cases hstep
    obtain ⟨-, hcount, -, hlo, hhi⟩ := restartHost_frame cfg ended e w.sup
    obtain ⟨htimes, hpast, hwritten⟩ := h.withSup_times hlo
    refine ⟨restartHost_inv cfg ended e w.sup, (fun hh => by cases hh), h.alive, fun _ => ?_, htimes,
      hpast, hwritten⟩
    have := credit_le (restartHost cfg ended e w.sup)
    simp only [World.withSup, hcount]
    omega
  | poll ended e =>
    simp only [step] at hstep
    split at hstep
    · cases hstep
    · cases hstep
      unfold World.poll
      split
      · next hw =>
        split
        · next hallowed =>
          obtain ⟨hruns, hlives, hhalt⟩ := wedged_runs h hattach hw (hc hw hallowed)
          obtain ⟨-, -, -, hlo, -⟩ := restartHost_frame cfg ended e w.sup
          obtain ⟨htimes, hpast, hwritten⟩ := h.withSup_times hlo
          refine ⟨restartHost_inv cfg ended e w.sup, fun htrip => ?_, ?_, fun hout => ?_, htimes,
            hpast, hwritten⟩
          · have := h.stays htrip
            rw [hhalt] at this
            cases this
          · intro b hb
            obtain rfl | hb := List.mem_cons.1 hb
            · exact hruns
            · exact h.alive b hb
          · simp [hlives] at hout
        · exact h
      · split
        · exact ⟨h.sup, h.stays, h.alive, h.bounded, h.times, h.past, h.written⟩
        · exact h
  | resetHostLiveness =>
    simp only [step] at hstep
    split at hstep <;> cases hstep
    exact ⟨h.sup, h.stays, h.alive, h.bounded, h.times, h.past, fun p _ hhb => absurd rfl hhb⟩
  | tick ms =>
    cases hstep
    refine ⟨h.sup, h.stays, h.alive, h.bounded, h.times, fun t ht => ?_, h.written⟩
    exact (h.past t ht).trans (Nat.le_add_right ..)

theorem step_attach {cfg : Subclass} {w v : World} {a : Action} (h : Inv w)
    (hattach : AttachInv w.sup) (hstep : step cfg w a = some v) : AttachInv v.sup := by
  cases a with
  | sup a =>
    obtain ⟨t, ht, rfl⟩ := Option.map_eq_some_iff.1 hstep
    exact attach_step h.sup hattach ht
  | heartbeat writer state =>
    simp only [step] at hstep
    split at hstep <;> cases hstep
    exact hattach
  | external running =>
    cases hstep
    exact hattach
  | userRestart ended e =>
    cases hstep
    exact restartHost_attach cfg ended e w.sup
  | poll ended e =>
    simp only [step] at hstep
    split at hstep
    · cases hstep
    · cases hstep
      unfold World.poll
      split
      · split
        · exact restartHost_attach cfg ended e w.sup
        · exact hattach
      · split <;> exact hattach
  | resetHostLiveness =>
    simp only [step] at hstep
    split at hstep <;> cases hstep
    exact hattach
  | tick ms =>
    cases hstep
    exact hattach

theorem start_attach {cfg : Subclass} {e : SpawnAnswers} {s : State 0}
    (hs : State.start cfg e = some s) : AttachInv s := by
  simp only [State.start] at hs
  split at hs
  · cases hs
    obtain ⟨hh, hc, hm, -, -⟩ := Spawn_frame cfg e (State.new 0)
    have hzero : ((State.new 0).Spawn cfg e).consecutive_fast_exits_ = 0 := hc
    refine ⟨fun hf => ?_, fun _ _ => hzero, fun _ _ => ?_, fun _ _ => ?_, fun _ _ => ?_⟩
    · exact absurd (hh.symm.trans hf) (by decide)
    all_goals
      rw [hzero]
      exact Nat.zero_le 1
  · cases hs

theorem start_inv {cfg : Subclass} {e : SpawnAnswers} {s : State 0}
    (hs : State.start cfg e = some s) (now : ℕ) (state : HostState) (heartbeat : ℕ)
    (external : Bool) : Inv (World.start s now state heartbeat external) := by
  simp only [State.start] at hs
  split at hs
  · cases hs
    obtain ⟨hh, hc, hm, -, hhi⟩ := Spawn_frame cfg e (State.new 0)
    have hzero : (State.new 0).procs.length = 0 := rfl
    refine ⟨⟨?_, fun _ => ?_, fun hf => ?_, fun p code hp => ?_⟩, (fun hf => by cases hf),
      (by simp [World.start]), fun _ => ?_, List.length_replicate, fun t ht => ?_,
      (fun p hp => by cases hp)⟩
    · simp only [World.start, hc]
      exact Nat.zero_le _
    · simp only [World.start, hc]
      decide
    · simp only [World.start, hh] at hf
      cases hf
    · simp only [World.start, hm] at hp
      obtain hp | hp := hp <;> cases hp
    · have := credit_le ((State.new 0).Spawn cfg e)
      simp only [World.start]
      omega
    · exact (List.eq_of_mem_replicate ht).le
  · cases hs

/-- **The wedge detector and the breaker**: over every run of the worker loop with the monitor loop
    and hosts that write heartbeats, hang and exit at any time, in which the heartbeat that the
    detector finds too old was written by the running host, a tripped breaker stays until the user
    asks for a restart, only running hosts are restarted, and hosts that all crash fast are created
    a bounded number of times. -/
theorem wedge_safe (cfg : Subclass) (e : SpawnAnswers) (s : State 0)
    (hs : State.start cfg e = some s) (now : ℕ) (state : HostState) (heartbeat : ℕ)
    (external : Bool) (as : List Action)
    (h : AllSteps (step cfg) FreshOrRunning (World.start s now state heartbeat external) as) :
    Always (step cfg) WedgeSafe (World.start s now state heartbeat external) as :=
  Always.of_inv (I := fun w => Inv w ∧ AttachInv w.sup)
    (fun _ _ _ hw hc hstep => ⟨step_inv hw.1 hw.2 hc hstep, step_attach hw.1 hw.2 hstep⟩)
    (fun _ hw => hw.1.safe) ⟨start_inv hs now state heartbeat external, start_attach hs⟩ h

/-! ## A hang and a crash loop -/

instance : DecidablePred WedgeSafe := fun w =>
  decidable_of_iff ((w.tripped = true → w.sup.halted_ = true) ∧ (∀ b ∈ w.wedges, b = true) ∧
    (w.outlived = false → w.spawns ≤ kCircuitBreakerThreshold + 2))
    ⟨fun h => ⟨h.1, h.2.1, h.2.2⟩, fun h => ⟨h.stays, h.alive, h.bounded⟩⟩

/-- The supervisor behind a `Start` that created a process. -/
def startedHost : State 0 :=
  { State.new 0 with process_handle_ := some 0, running_ := true, procs := [.alive] }

/-- The world of that supervisor, with a new shared memory. -/
def startedWorld : World := World.start startedHost 1 .legacy 0 false

/-- The host writes a heartbeat and hangs; the detector replaces it, and the next one writes. -/
def hang : List Action :=
  [.heartbeat (some 0) .publishing, .tick 2500, .poll true creates, .resetHostLiveness,
    .heartbeat (some 1) .publishing, .tick 100, .poll true creates]

theorem hang_safe : AllSteps (step noMutex) FreshOrRunning startedWorld hang ∧
    Always (step noMutex) WedgeSafe startedWorld hang := by
  have hstart : State.start noMutex creates = some startedHost := rfl
  have h : AllSteps (step noMutex) FreshOrRunning startedWorld hang := by decide +kernel
  exact ⟨h, wedge_safe noMutex creates startedHost hstart 1 .legacy 0 false hang h⟩

/-- Host `i` writes a heartbeat and crashes in its first second. -/
def crash (i : ℕ) : List Action :=
  [.sup .copy, .sup (.enterWait (some i)), .heartbeat (some i) .publishing, .tick 500,
    .sup (.exits i 1), .sup (.waitReturns true), .sup .relock, .sup .record, .sup (.count 500)]

/-- The backoff, and the next host. -/
def nextHost : List Action := [.tick 1000, .sup (.respawn creates)]

/-- Five hosts crash and the breaker trips; two seconds later the last heartbeat is too old, and the
    detector restarts the host that is gone. -/
theorem crashLoop_restarted : ¬ Always (step noMutex)
    (fun w => w.tripped = true → w.sup.halted_ = true) startedWorld
    (crash 0 ++ nextHost ++ crash 1 ++ nextHost ++ crash 2 ++ nextHost ++ crash 3 ++ nextHost ++
      crash 4 ++ [.tick 2000, .poll true creates]) := by
  decide +kernel

end WKPairDriver.FaceTracking.WedgeDetector
