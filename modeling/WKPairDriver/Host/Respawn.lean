import Mathlib
import WKPairDriver.Host.HostSupervisor

/-!
# Respawning after a failed spawn

With no tracked process, `MonitorLoop` calls `Spawn` only where it has just lost a host.  When that
one `Spawn` fails, the loop finds no process, no attachment and no halt in every later iteration
and takes the branch that sleeps: the doubled backoff is never used.

* `MonitorRun` — an endless run of the loop after a successful `Start`.
* `retries_iff` — every stranded state of a run is left by another `Spawn` exactly when every
  `Spawn` of the run finds a host to attach to or can create a process.
* `failedRespawn_strands` — the run in which the first respawn fails.
-/

set_option autoImplicit false

namespace WKPairDriver.Host

/-- At the loop head: no tracked process, not attached, not halted. -/
def Stranded (s : Supervisor) : Prop :=
  s.process_handle_ = none ∧ s.attached_to_existing_ = false ∧ s.halted_ = false

/-- An existing host answers, or the process can be created. -/
def SpawnEnv.canSucceed (cfg : Subclass) (e : SpawnEnv) : Prop :=
  e.attaches cfg = true ∨ e.createProcess.isSome = true

/-- A run of the monitor loop that keeps iterating after `Start` succeeded. -/
structure MonitorRun (cfg : Subclass) where
  first : SpawnEnv
  state : ℕ → Supervisor
  env : ℕ → Env
  started : Supervisor.new.start cfg first = some (state 0)
  iterates : ∀ i, (state i).iterate cfg (env i) = state (i + 1)

namespace MonitorRun

variable {cfg : Subclass}

/-- Iteration `i` calls `Spawn`. -/
def Spawns (r : MonitorRun cfg) (i : ℕ) : Prop :=
  (r.state i).spawnAttempts < (r.state (i + 1)).spawnAttempts

/-- Whenever the loop head finds no host, some later iteration calls `Spawn`. -/
def Retries (r : MonitorRun cfg) : Prop :=
  ∀ i, Stranded (r.state i) → ∃ j ≥ i, r.Spawns j

end MonitorRun

variable {cfg : Subclass} {s : Supervisor}

theorem respawn_attempts (cfg : Subclass) (e : SpawnEnv) (s : Supervisor) :
    (s.respawn cfg e).spawnAttempts = s.spawnAttempts + 1 := by
  obtain ⟨ms, h⟩ := respawn_eq cfg e s
  rw [h]
  unfold Supervisor.spawn
  simp only
  split_ifs
  · rfl
  · rfl
  · split <;> rfl

/-- A respawn that can succeed leaves a tracked process or an attachment. -/
theorem respawn_not_stranded {e : SpawnEnv} (hp : s.process_handle_ = none)
    (he : e.canSucceed cfg) : ¬ Stranded (s.respawn cfg e) := by
  obtain ⟨ms, h⟩ := respawn_eq cfg e s
  rw [h]
  rcases spawn_cases e hp with ⟨-, hs⟩ | ⟨t, -, -, hs⟩ | ⟨hatt, hcp, -⟩
  · rw [hs]
    exact fun hst => by cases hst.2.1
  · rw [hs]
    exact fun hst => by cases hst.1
  · rcases he with he | he
    · rw [hatt] at he; cases he
    · rw [hcp] at he; cases he

/-- One that cannot strands the supervisor. -/
theorem respawn_stranded {e : SpawnEnv} (hs : Stranded s) (he : ¬ e.canSucceed cfg) :
    Stranded (s.respawn cfg e) := by
  obtain ⟨hp, hatt, hhalt⟩ := hs
  obtain ⟨ms, h⟩ := respawn_eq cfg e s
  rw [h]
  rcases spawn_cases e hp with ⟨h', -⟩ | ⟨t, -, h', -⟩ | ⟨-, -, hs⟩
  · exact absurd (.inl h') he
  · exact absurd (.inr (by rw [h']; rfl)) he
  · rw [hs]
    exact ⟨hp, hatt, hhalt⟩

/-- **A stranded supervisor only sleeps.** -/
theorem stranded_iterate (hs : Stranded s) (e : Env) : s.iterate cfg e = s := by
  obtain ⟨hp, hatt, hhalt⟩ := hs
  unfold Supervisor.iterate
  simp only [hhalt, hp, hatt, Bool.false_eq_true, if_false]

/-- A tracked process is one the supervisor created, not one it attached to. -/
def TrackedNotAttached (s : Supervisor) : Prop :=
  s.process_handle_.isSome = true → s.attached_to_existing_ = false

theorem TrackedNotAttached.respawn {e : SpawnEnv} (hp : s.process_handle_ = none) :
    TrackedNotAttached (s.respawn cfg e) := by
  obtain ⟨ms, h⟩ := respawn_eq cfg e s
  rw [h]
  rcases spawn_cases e hp with ⟨-, hs⟩ | ⟨t, -, -, hs⟩ | ⟨-, -, hs⟩
  · rw [hs]
    exact fun hsome => by rw [hp] at hsome; cases hsome
  · rw [hs]
    exact fun _ => rfl
  · rw [hs]
    exact fun hsome => by rw [hp] at hsome; cases hsome

/-- **The iterations that call `Spawn`**: the supervisor has just lost its host, and what it does
    next is the respawn. -/
theorem iterate_respawns (cfg : Subclass) (e : Env) (hs : TrackedNotAttached s) :
    ((s.iterate cfg e).spawnAttempts = s.spawnAttempts ∧ TrackedNotAttached (s.iterate cfg e) ∧
      (Stranded (s.iterate cfg e) → Stranded s)) ∨
    ∃ lost, Stranded lost ∧ lost.spawnAttempts = s.spawnAttempts ∧
      s.iterate cfg e = lost.respawn cfg e.spawn := by
  rcases iterate_cases cfg e s with ⟨h, -⟩ | ⟨hhalt, hp, h⟩ | ⟨spawnedAt, code, exitedAt, hhalt, hp, -, h⟩
  · rw [h]
    exact .inl ⟨rfl, hs, id⟩
  · exact .inr ⟨s.detach, ⟨hp, rfl, hhalt⟩, rfl, h⟩
  · have hatt : s.attached_to_existing_ = false := hs (by rw [hp]; rfl)
    rw [h]
    unfold Supervisor.hostExited
    simp only
    split_ifs with hclean htrip
    · exact .inr ⟨s.reap cfg code, ⟨rfl, hatt, hhalt⟩, rfl, rfl⟩
    · exact .inl ⟨rfl, fun _ => hatt, fun hst => by cases hst.2.2⟩
    · exact .inr ⟨(s.reap cfg code).countCrash e.uptime_ms ⟨code, spawnedAt, exitedAt⟩,
        ⟨rfl, hatt, hhalt⟩, rfl, rfl⟩

theorem start_spec {e : SpawnEnv} (h : Supervisor.new.start cfg e = some s) :
    TrackedNotAttached s ∧ ¬ Stranded s := by
  unfold Supervisor.start at h
  split at h
  · rename_i s' hspawn
    cases h
    have hnew : Supervisor.new.reset.process_handle_ = none := rfl
    rcases spawn_cases e hnew with ⟨-, hs⟩ | ⟨t, -, -, hs⟩ | ⟨-, -, hs⟩
    · rw [hs] at hspawn
      cases hspawn
      refine ⟨?_, fun hst => by cases hst.2.1⟩
      intro hh
      cases hh
    · rw [hs] at hspawn
      cases hspawn
      exact ⟨fun _ => rfl, fun hst => by cases hst.1⟩
    · rw [hs] at hspawn
      cases hspawn
  · cases h

namespace MonitorRun

theorem trackedNotAttached (r : MonitorRun cfg) (i : ℕ) : TrackedNotAttached (r.state i) := by
  induction i with
  | zero => exact (start_spec r.started).1
  | succ i ih =>
    rw [← r.iterates i]
    rcases iterate_respawns cfg (r.env i) ih with ⟨-, h, -⟩ | ⟨lost, hlost, -, h⟩
    · exact h
    · rw [h]
      exact TrackedNotAttached.respawn hlost.1

/-- From a stranded state on nothing changes. -/
theorem stranded_forever (r : MonitorRun cfg) {i : ℕ} (h : Stranded (r.state i)) (k : ℕ) :
    r.state (i + k) = r.state i := by
  induction k with
  | zero => rfl
  | succ k ih => rw [← Nat.add_assoc, ← r.iterates (i + k), ih, stranded_iterate h]

theorem stranded_never_spawns (r : MonitorRun cfg) {i : ℕ} (h : Stranded (r.state i)) {j : ℕ}
    (hj : i ≤ j) : ¬ r.Spawns j := by
  obtain ⟨k, rfl⟩ := Nat.exists_eq_add_of_le hj
  unfold Spawns
  rw [Nat.add_assoc, r.stranded_forever h, r.stranded_forever h]
  exact Nat.lt_irrefl _

/-- **Retries.**  The loop retries after every loss of its host exactly when no `Spawn` it calls
    fails: one that fails is never repeated. -/
theorem retries_iff (r : MonitorRun cfg) :
    r.Retries ↔ ∀ i, r.Spawns i → (r.env i).spawn.canSucceed cfg := by
  constructor
  · intro h i hi
    by_contra he
    have hst : Stranded (r.state (i + 1)) := by
      rw [← r.iterates i]
      rcases iterate_respawns cfg (r.env i) (r.trackedNotAttached i) with ⟨h', -⟩ | ⟨lost, hl, -, h'⟩
      · unfold Spawns at hi
        rw [← r.iterates i, h'] at hi
        exact absurd hi (Nat.lt_irrefl _)
      · rw [h']
        exact respawn_stranded hl he
    obtain ⟨j, hj, hspawn⟩ := h (i + 1) hst
    exact r.stranded_never_spawns hst hj hspawn
  · intro h i hst
    have hnever : ∀ i, ¬ Stranded (r.state i) := by
      intro i
      induction i with
      | zero => exact (start_spec r.started).2
      | succ i ih =>
        have hi := h i
        unfold Spawns at hi
        rw [← r.iterates i] at hi ⊢
        rcases iterate_respawns cfg (r.env i) (r.trackedNotAttached i) with
          ⟨-, -, h'⟩ | ⟨lost, hl, hattempts, h'⟩
        · exact fun hst => ih (h' hst)
        · rw [h', respawn_attempts, hattempts] at hi
          rw [h']
          exact respawn_not_stranded hl.1 (hi (Nat.lt_succ_self _))
    exact absurd hst (hnever i)

end MonitorRun

/-- The host of a run that exits at once; then no process can be created. -/
def failedRespawn : MonitorRun ⟨false, fun _ => ""⟩ where
  first := ⟨false, false, false, some 0⟩
  state := fun i =>
    let started := { Supervisor.new with
      process_handle_ := some 0, running_ := true, spawnAttempts := 1 }
    if i = 0 then started
    else { started with
      process_handle_ := none, running_ := false, consecutive_fast_exits_ := 1,
      last_exit_code_ := 1, backoff_ms := 2000, crashes := [⟨1, 0, 100⟩], spawnAttempts := 2 }
  env := fun _ => ⟨0, .exited 1 100, 100, false, ⟨false, false, false, none⟩⟩
  started := rfl
  iterates := fun i => by
    cases i with
    | zero => rfl
    | succ i => exact stranded_iterate ⟨rfl, rfl, rfl⟩ _

/-- One failed respawn, and no `Spawn` is ever called again. -/
theorem failedRespawn_strands : ¬ failedRespawn.Retries := by
  intro h
  have hst : Stranded (failedRespawn.state 1) := ⟨rfl, rfl, rfl⟩
  obtain ⟨j, hj, hspawn⟩ := h 1 hst
  exact failedRespawn.stranded_never_spawns hst hj hspawn

end WKPairDriver.Host
