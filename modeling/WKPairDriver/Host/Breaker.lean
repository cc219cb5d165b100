import WKPairDriver.Host.HostSupervisor
import WKPairDriver.Lib.Run

/-!
# The crash breaker of the host supervisor

The breaker halts the respawning of a host after `kCircuitBreakerThreshold` consecutive exits of
hosts that did not live for `kFastExitThresholdMs`.  `MonitorLoop` takes the start of a host's life
from the head of its current iteration, and an iteration ends with every wait that times out, so
what it compares with the threshold is the time since the last wake-up.

* `breakerSound_iff` — the breaker is sound along a run exactly when every exit of a host that
  lived for the threshold is noticed at least the threshold after the head of its iteration.
* `lateCrashes_halted` — five hosts that lived for 3.5 seconds each trip it.
-/

set_option autoImplicit false

namespace WKPairDriver.Host

open Lib

/-- The breaker trips only after crashes of hosts younger than the threshold, and the crash of an
    older host leaves the counter at zero. -/
def BreakerSound (s : Supervisor) : Prop :=
  (s.halted_ = true → kCircuitBreakerThreshold ≤ s.crashes.length ∧
    ∀ x ∈ s.crashes.take kCircuitBreakerThreshold, x.lifetime < kFastExitThresholdMs) ∧
  ∀ x ∈ s.crashes.head?, kFastExitThresholdMs ≤ x.lifetime → s.consecutive_fast_exits_ = 0

instance : DecidablePred BreakerSound := fun s => by
  unfold BreakerSound
  infer_instance

/-- If this iteration deals with the crash of a host that lived for the threshold, its wait returns
    at least the threshold after its head. -/
def NoticedLate (s : Supervisor) (e : Env) : Prop :=
  match s.process_handle_, e.wait with
  | some spawnedAt, .exited code exitedAt =>
    s.halted_ = false → isCleanSingletonExit code = false →
      spawnedAt + kFastExitThresholdMs ≤ exitedAt → e.headClock + kFastExitThresholdMs ≤ e.nowClock
  | _, _ => True

instance (s : Supervisor) (e : Env) : Decidable (NoticedLate s e) := by
  unfold NoticedLate
  split <;> infer_instance

/-- The monitor loop as a system: every iteration is enabled. -/
def monitorStep (cfg : Subclass) (s : Supervisor) (e : Env) : Option Supervisor :=
  some (s.iterate cfg e)

/-- What the counter counts. -/
structure BreakerInv (s : Supervisor) : Prop where
  counted : s.consecutive_fast_exits_ ≤ s.crashes.length
  fast : ∀ x ∈ s.crashes.take s.consecutive_fast_exits_, x.lifetime < kFastExitThresholdMs
  reset : ∀ x ∈ s.crashes.head?, kFastExitThresholdMs ≤ x.lifetime → s.consecutive_fast_exits_ = 0
  halted : s.halted_ = true → kCircuitBreakerThreshold ≤ s.consecutive_fast_exits_

theorem BreakerInv.sound {s : Supervisor} (hs : BreakerInv s) : BreakerSound s := by
  refine ⟨fun hh => ⟨Nat.le_trans (hs.halted hh) hs.counted, fun x hx => hs.fast x ?_⟩, hs.reset⟩
  exact (List.take_prefix_take_left (hs.halted hh)).subset hx

/-- The breaker reads nothing else of the state. -/
theorem BreakerInv.frame {s t : Supervisor} (hs : BreakerInv s) (hc : t.crashes = s.crashes)
    (hf : t.consecutive_fast_exits_ = s.consecutive_fast_exits_) (hh : t.halted_ = s.halted_) :
    BreakerInv t := by
  refine ⟨?_, ?_, ?_, ?_⟩
  · rw [hf, hc]; exact hs.counted
  · rw [hf, hc]; exact hs.fast
  · rw [hf, hc]; exact hs.reset
  · rw [hf, hh]; exact hs.halted

theorem BreakerInv.respawn {s : Supervisor} (hs : BreakerInv s) (cfg : Subclass) (e : SpawnEnv) :
    BreakerInv (s.respawn cfg e) :=
  hs.frame (respawn_crashes cfg e s) (respawn_fast_exits cfg e s) (respawn_halted cfg e s)

/-- A crash that is counted as fast only if it was keeps the meaning of the counter. -/
theorem BreakerInv.countCrash {s : Supervisor} (hs : BreakerInv s) (hhalt : s.halted_ = false)
    {x : HostExit} {uptime_ms : ℕ}
    (hx : kFastExitThresholdMs ≤ x.lifetime → kFastExitThresholdMs ≤ uptime_ms) :
    BreakerInv (s.countCrash uptime_ms x) := by
  unfold Supervisor.countCrash
  refine ⟨?_, ?_, ?_, fun h => by rw [hhalt] at h; cases h⟩
  · simp only [List.length_cons]
    have := hs.counted
    split <;> omega
  · simp only
    split
    · rename_i hup
      intro y hy
      rcases List.mem_cons.1 hy with rfl | hy
      · exact Nat.lt_of_not_le fun hlong => absurd (hx hlong) (by omega)
      · exact hs.fast y hy
    · intro y hy
      cases hy
  · intro y hy hlong
    cases hy
    have := hx hlong
    exact if_neg (by omega)

theorem BreakerInv.trip {s : Supervisor} (hs : BreakerInv s)
    (h : kCircuitBreakerThreshold ≤ s.consecutive_fast_exits_) :
    BreakerInv { s with halted_ := true } :=
  ⟨hs.counted, hs.fast, hs.reset, fun _ => h⟩

theorem BreakerInv.hostExited {cfg : Subclass} {s : Supervisor} {e : Env}
    {spawnedAt code exitedAt : ℕ} (hs : BreakerInv s) (hhalt : s.halted_ = false)
    (hlate : isCleanSingletonExit code = false → spawnedAt + kFastExitThresholdMs ≤ exitedAt →
      e.headClock + kFastExitThresholdMs ≤ e.nowClock) :
    BreakerInv (s.hostExited cfg e spawnedAt code exitedAt) := by
  have hreap : BreakerInv (s.reap cfg code) := hs.frame rfl rfl rfl
  unfold Supervisor.hostExited
  simp only
  cases hclean : isCleanSingletonExit code with
  | true => exact hreap.respawn cfg e.spawn
  | false =>
    have hx : kFastExitThresholdMs ≤ (⟨code, spawnedAt, exitedAt⟩ : HostExit).lifetime →
        kFastExitThresholdMs ≤ e.uptime_ms := fun hlong => by
      have hpos : 0 < kFastExitThresholdMs := by decide
      simp only [HostExit.lifetime] at hlong
      have := hlate hclean (by omega)
      simp only [Env.uptime_ms]
      omega
    have hcount := hreap.countCrash hhalt hx
    simp only [Bool.false_eq_true, if_false]
    split
    · rename_i htrip
      exact hcount.trip htrip
    · exact hcount.respawn cfg e.spawn

theorem iterate_inv {cfg : Subclass} {s : Supervisor} {e : Env} (hs : BreakerInv s)
    (hlate : NoticedLate s e) : BreakerInv (s.iterate cfg e) := by
  rcases iterate_cases cfg e s with ⟨h, -⟩ | ⟨-, -, h⟩ | ⟨spawnedAt, code, exitedAt, hhalt, hp, hw, h⟩
  · rw [h]
    exact hs
  · rw [h]
    have hdetach : BreakerInv s.detach := hs.frame rfl rfl rfl
    exact hdetach.respawn cfg e.spawn
  · rw [h]
    simp only [NoticedLate, hp, hw] at hlate
    exact hs.hostExited hhalt (hlate hhalt)

/-- A crash is recorded and counted by its uptime, whether or not the breaker trips. -/
theorem hostExited_crash {code : ℕ} (hclean : isCleanSingletonExit code = false) (cfg : Subclass)
    (e : Env) (spawnedAt exitedAt : ℕ) (s : Supervisor) :
    (s.hostExited cfg e spawnedAt code exitedAt).crashes = ⟨code, spawnedAt, exitedAt⟩ :: s.crashes ∧
      (s.hostExited cfg e spawnedAt code exitedAt).consecutive_fast_exits_ =
        if e.uptime_ms < kFastExitThresholdMs then s.consecutive_fast_exits_ + 1 else 0 := by
  unfold Supervisor.hostExited
  simp only [hclean, Bool.false_eq_true, if_false]
  split
  · exact ⟨rfl, rfl⟩
  · rw [respawn_crashes, respawn_fast_exits]
    exact ⟨rfl, rfl⟩

/-- Conversely, a crash of a long-lived host that leaves the counter at zero was noticed late. -/
theorem noticedLate_of_sound {cfg : Subclass} {s : Supervisor} {e : Env}
    (h : BreakerSound (s.iterate cfg e)) : NoticedLate s e := by
  unfold NoticedLate
  split
  · rename_i spawnedAt code exitedAt hp hw
    intro hhalt hclean hlong
    have hiter : s.iterate cfg e = s.hostExited cfg e spawnedAt code exitedAt := by
      rcases iterate_cases cfg e s with ⟨-, h' | h' | h'⟩ | ⟨-, h', -⟩ | ⟨_, _, _, -, hp', hw', h'⟩
      · rw [hhalt] at h'; cases h'
      · rw [hp] at h'; cases h'
      · rw [hw] at h'; cases h'
      · rw [hp] at h'; cases h'
      · rw [hp] at hp'
        rw [hw] at hw'
        cases hp'
        cases hw'
        exact h'
    obtain ⟨hcrashes, hcount⟩ := hostExited_crash hclean cfg e spawnedAt exitedAt s
    have hzero := h.2 ⟨code, spawnedAt, exitedAt⟩ (by rw [hiter, hcrashes]; rfl)
      (by simp only [HostExit.lifetime]; omega)
    rw [hiter, hcount] at hzero
    have hpos : 0 < kFastExitThresholdMs := by decide
    by_cases hup : e.uptime_ms < kFastExitThresholdMs
    · rw [if_pos hup] at hzero
      omega
    · unfold Env.uptime_ms at hup
      omega
  · trivial

/-- The monitor starts with the breaker untouched. -/
theorem start_inv {cfg : Subclass} {e : SpawnEnv} {s : Supervisor}
    (h : Supervisor.new.start cfg e = some s) : BreakerInv s := by
  have hnew : BreakerInv Supervisor.new := by
    refine ⟨Nat.le_refl _, ?_, ?_, ?_⟩
    · intro y hy
      cases hy
    · intro y hy
      cases hy
    · intro hhalt
      cases hhalt
  unfold Supervisor.start at h
  split at h
  · rename_i s' hspawn
    cases h
    obtain ⟨hc, hf, hh⟩ := spawn_frame cfg e Supervisor.new.reset
    rw [hspawn] at hc hf hh
    exact hnew.frame hc hf hh
  · cases h

/-- **The crash breaker.**  Along every run of the monitor loop from a successful `Start`, the
    breaker is sound exactly when every crash of a host that lived for the threshold is noticed at
    least the threshold after the head of its iteration. -/
theorem breakerSound_iff (cfg : Subclass) (e : SpawnEnv) (s : Supervisor)
    (h : Supervisor.new.start cfg e = some s) (es : List Env) :
    Always (monitorStep cfg) BreakerSound s es ↔ AllSteps (monitorStep cfg) NoticedLate s es :=
  Always.iff_of_inv
    (fun _ _ _ hs hlate hstep => by cases hstep; exact iterate_inv hs hlate)
    (fun _ hs => hs.sound)
    (fun _ _ _ _ hstep ht => by cases hstep; exact noticedLate_of_sound ht)
    (start_inv h)

/-! ## Runs -/

/-- The captions host, which has a singleton mutex. -/
def captionsHost : Subclass := ⟨true, fun _ => ""⟩

/-- Nothing to attach to; a process is created at the given time. -/
def createsAt (t : ℕ) : SpawnEnv := ⟨false, false, false, some t⟩

/-- The supervisor after a `Start` that created a process at time 0. -/
def startedAt0 : Supervisor :=
  { Supervisor.new with process_handle_ := some 0, running_ := true, spawnAttempts := 1 }

/-- A host spawned at `t` lives through three waits of a second and crashes half a second later;
    the next one is created after the backoff. -/
def lateCrash (t : ℕ) : List Env :=
  [⟨t, .timeout, t + 1000, false, createsAt 0⟩,
   ⟨t + 1000, .timeout, t + 2000, false, createsAt 0⟩,
   ⟨t + 2000, .timeout, t + 3000, false, createsAt 0⟩,
   ⟨t + 3000, .exited 1 (t + 3500), t + 3500, false, createsAt (t + 4500)⟩]

/-- A crash within the first wait, and one noticed late because `OnHostReady` was slow to write. -/
def earlyCrash : List Env :=
  [⟨0, .exited 1 400, 400, false, createsAt 1400⟩,
   ⟨1400, .exited 1 4000, 4000, false, createsAt 5000⟩]

theorem earlyCrash_sound : AllSteps (monitorStep captionsHost) NoticedLate startedAt0 earlyCrash ∧
    Always (monitorStep captionsHost) BreakerSound startedAt0 earlyCrash := by
  have hstart : Supervisor.new.start captionsHost (createsAt 0) = some startedAt0 := rfl
  have h : AllSteps (monitorStep captionsHost) NoticedLate startedAt0 earlyCrash := by decide
  exact ⟨h, (breakerSound_iff captionsHost (createsAt 0) startedAt0 hstart earlyCrash).2 h⟩

/-- The fifth crash trips the breaker, and no host lived for less than 3.5 seconds. -/
theorem lateCrashes_halted :
    ¬ Always (monitorStep captionsHost) BreakerSound startedAt0
      ([0, 4500, 9000, 13500, 18000].flatMap lateCrash) := by
  decide +kernel

end WKPairDriver.Host
