import Mathlib
import WKPairDriver.Lib.SlidingWindow

/-!
# The supervisor of the inference sidecar

The worker of `SidecarSupervisor` starts the sidecar, waits for its exit, counts the exits of the
last ten minutes, and starts it again after a backoff. A start that fails counts as an exit.

* `Supervisor.round` — one pass of `SuperviseLoop`.
* `halted_iff` — it gives up exactly when five rounds end within ten minutes.
* `waits_eq` — the backoffs double up to a minute, and never start over.
-/

set_option autoImplicit false

namespace WKPairDriver.Phantom.Sidecar

open Lib.SlidingWindow

/-- `kBackoffSeconds`. -/
def kBackoffSeconds : List ℕ := [1, 2, 4, 8, 16, 32, 60]

def kCircuitBreakerAttempts : ℕ := 5

/-- Ten minutes, in nanoseconds of the steady clock. -/
def kCircuitBreakerWindow : ℤ := 10 * 60 * 1000000000

/-- What the worker keeps: the locals of the loop, the flags that others read, and the backoffs it
    slept for. -/
structure Supervisor where
  running : Bool
  halted : Bool
  last_exit_code : UInt32
  exit_history : List ℤ
  backoff_idx : ℕ
  waits : List ℕ

/-- Behind `Start`. -/
def Supervisor.started : Supervisor := ⟨true, false, 0, [], 0, []⟩

/-- One pass: the exit code of the sidecar, if it could be started, whether a stop was requested by
    then, the time behind the exit, and whether a stop was requested during the backoff. -/
structure Round where
  exit_code : Option UInt32
  stopped : Bool
  now : ℤ
  stoppedInBackoff : Bool

/-- The index into `kBackoffSeconds`, and `backoff_idx` behind the read. -/
def nextBackoff (backoff_idx : ℕ) : ℕ × ℕ :=
  if backoff_idx < kBackoffSeconds.length - 1 then (backoff_idx, backoff_idx + 1)
  else (kBackoffSeconds.length - 1, backoff_idx)

/-- The exit code goes to `last_exit_code`, if the sidecar could be started. -/
def Supervisor.noteExit (s : Supervisor) : Option UInt32 → Supervisor
  | none => s
  | some exit_code => { s with last_exit_code := exit_code }

theorem Supervisor.noteExit_frame (s : Supervisor) (code : Option UInt32) :
    (s.noteExit code).exit_history = s.exit_history ∧
      (s.noteExit code).backoff_idx = s.backoff_idx ∧ (s.noteExit code).waits = s.waits ∧
      (s.noteExit code).halted = s.halted := by
  cases code <;> exact ⟨rfl, rfl, rfl, rfl⟩

/-- One pass of `SuperviseLoop`. -/
def Supervisor.round (s : Supervisor) (r : Round) : Supervisor :=
  if s.running = true then
    let s := s.noteExit r.exit_code
    if r.stopped = true then { s with running := false }
    else
      let exit_history := push kCircuitBreakerWindow s.exit_history r.now
      let s := { s with exit_history := exit_history }
      if exit_history.length ≥ kCircuitBreakerAttempts then
        { s with halted := true, running := false }
      else
        let (at_, backoff_idx) := nextBackoff s.backoff_idx
        { s with
          backoff_idx := backoff_idx
          waits := s.waits ++ [kBackoffSeconds.getD at_ 0]
          running := !r.stoppedInBackoff }
  else s

/-- The supervisor behind some rounds. -/
def Supervisor.after (rs : List Round) : Supervisor := rs.foldl Supervisor.round .started

/-- No stop is requested. -/
def Unstopped (r : Round) : Prop := r.stopped = false ∧ r.stoppedInBackoff = false

/-- Five rounds in a row, the last of them round `i`, end within ten minutes. -/
def FiveWithin (rs : List Round) (i : ℕ) : Prop :=
  4 ≤ i ∧ ∃ first last, rs[i - 4]? = some first ∧ rs[i]? = some last ∧
    last.now - first.now ≤ kCircuitBreakerWindow

/-- The worker behind the rounds `rs`, none of which made it give up. -/
structure Supervising (rs : List Round) (s : Supervisor) : Prop where
  running : s.running = true
  halted : s.halted = false
  exit_history : s.exit_history = (rs.map Round.now).foldl (push kCircuitBreakerWindow) []
  backoff_idx : s.backoff_idx = min rs.length (kBackoffSeconds.length - 1)
  waits : s.waits = (List.range rs.length).map fun k => min (2 ^ k) 60

theorem Supervising.start : Supervising [] .started := ⟨rfl, rfl, rfl, rfl, rfl⟩

/-- The backoff behind round `k`. -/
theorem nextBackoff_eq (k : ℕ) :
    kBackoffSeconds.getD (nextBackoff (min k (kBackoffSeconds.length - 1))).1 0 = min (2 ^ k) 60 ∧
      (nextBackoff (min k (kBackoffSeconds.length - 1))).2 =
        min (k + 1) (kBackoffSeconds.length - 1) := by
  have hlen : kBackoffSeconds.length - 1 = 6 := rfl
  rw [hlen, nextBackoff, hlen]
  by_cases hk : k < 6
  · rw [if_pos (by omega)]
    interval_cases k <;> exact ⟨rfl, rfl⟩
  · have hpow : 2 ^ 6 ≤ 2 ^ k := Nat.pow_le_pow_right (by norm_num) (by omega)
    rw [if_neg (by omega), Nat.min_eq_right (show 60 ≤ 2 ^ k by omega)]
    exact ⟨rfl, by omega⟩

theorem fiveWithin_last {rs : List Round} {r : Round} :
    FiveWithin (rs ++ [r]) rs.length ↔ ∃ h : 4 ≤ rs.length,
      inside kCircuitBreakerWindow r.now
        (((rs ++ [r]).map Round.now).get ⟨((rs ++ [r]).map Round.now).length - 5, by
          rw [List.length_map, List.length_append, List.length_singleton]
          omega⟩) = true := by
  have hlast : (rs ++ [r])[rs.length]? = some r := by
    rw [List.getElem?_append_right le_rfl, Nat.sub_self]
    rfl
  have hlen : ((rs ++ [r]).map Round.now).length - 5 = rs.length - 4 := by
    rw [List.length_map, List.length_append, List.length_singleton]
    omega
  constructor
  · rintro ⟨h, first, last, hfirst, hr, hwithin⟩
    refine ⟨h, ?_⟩
    rw [hlast] at hr
    obtain rfl := Option.some.inj hr
    rw [inside, decide_eq_true_eq]
    obtain ⟨hlt, hget⟩ := List.getElem?_eq_some_iff.1 hfirst
    simp only [List.get_eq_getElem, List.getElem_map, hlen, hget]
    exact hwithin
  · rintro ⟨h, hin⟩
    have hlt : rs.length - 4 < (rs ++ [r]).length := by
      rw [List.length_append, List.length_singleton]
      omega
    refine ⟨h, _, r, List.getElem?_eq_getElem hlt, hlast, ?_⟩
    rw [inside, decide_eq_true_eq] at hin
    simpa only [List.get_eq_getElem, List.getElem_map, hlen] using hin

/-- One more round of a worker that has not given up. -/
theorem Supervising.round {rs : List Round} {s : Supervisor} (h : Supervising rs s) {r : Round}
    (hr : Unstopped r) (hsorted : ((rs ++ [r]).map Round.now).Pairwise (· ≤ ·)) :
    (FiveWithin (rs ++ [r]) rs.length → (s.round r).halted = true ∧ (s.round r).running = false) ∧
      (¬ FiveWithin (rs ++ [r]) rs.length → Supervising (rs ++ [r]) (s.round r)) := by
  have hhistory : push kCircuitBreakerWindow s.exit_history r.now =
      ((rs ++ [r]).map Round.now).foldl (push kCircuitBreakerWindow) [] := by
    rw [h.exit_history, List.map_append, List.foldl_append]
    rfl
  have hwindow : 0 ≤ kCircuitBreakerWindow := by decide
  have hfilter := push_eq_filter hwindow (rs.map Round.now) r.now (by
    rwa [List.map_append] at hsorted)
  have hmap : rs.map Round.now ++ [r.now] = (rs ++ [r]).map Round.now := by
    rw [List.map_append]
    rfl
  rw [hmap] at hfilter
  have hfive : kCircuitBreakerAttempts ≤
      (push kCircuitBreakerWindow s.exit_history r.now).length ↔
      FiveWithin (rs ++ [r]) rs.length := by
    rw [hhistory, hfilter, fiveWithin_last]
    constructor
    · intro hle
      have hlong := hle.trans (List.length_filter_le _ _)
      have hcount : kCircuitBreakerAttempts = 5 := rfl
      rw [List.length_map, List.length_append, List.length_singleton] at hlong
      refine ⟨by omega, ?_⟩
      exact (le_length_iff hsorted (by decide) (by
        rw [List.length_map, List.length_append, List.length_singleton]
        omega)).1 hle
    · rintro ⟨hlong, hin⟩
      exact (le_length_iff hsorted (by decide) (by
        rw [List.length_map, List.length_append, List.length_singleton]
        have hcount : kCircuitBreakerAttempts = 5 := rfl
        omega)).2 hin
  obtain ⟨he, hb, hw, hh⟩ := s.noteExit_frame r.exit_code
  constructor
  · intro hgive
    rw [Supervisor.round, if_pos h.running]
    simp only [hr.1, he]
    rw [if_neg (by decide), if_pos (hfive.2 hgive)]
    exact ⟨rfl, rfl⟩
  · intro hgo
    obtain ⟨hwait, hidx⟩ := nextBackoff_eq rs.length
    rw [Supervisor.round, if_pos h.running]
    simp only [hr.1, hr.2, he, hb, hw]
    rw [if_neg (by decide), if_neg fun hle => hgo (hfive.1 hle), h.backoff_idx]
    simp only [hwait, hidx]
    refine ⟨rfl, hh.trans h.halted, hhistory, ?_, ?_⟩
    · rw [List.length_append, List.length_singleton]
    · rw [List.length_append, List.length_singleton, List.range_succ, List.map_append, h.waits]
      rfl

/-- A worker that ended does nothing more. -/
theorem round_ended {s : Supervisor} (h : s.running = false) (r : Round) : s.round r = s := by
  rw [Supervisor.round, if_neg (by rw [h]; decide)]

theorem fiveWithin_append {rs : List Round} {i : ℕ} (hi : i < rs.length) (r : Round) :
    FiveWithin (rs ++ [r]) i ↔ FiveWithin rs i := by
  rw [FiveWithin, FiveWithin, List.getElem?_append_left hi, List.getElem?_append_left (by omega)]

/-- **Behind any number of rounds without a stop the worker has given up exactly when five rounds in
    a row ended within ten minutes**; until then it runs, and has slept one second, two, four and
    so on up to a minute. -/
theorem supervising_or_halted (rs : List Round) (hstop : ∀ r ∈ rs, Unstopped r)
    (hsorted : (rs.map Round.now).Pairwise (· ≤ ·)) :
    ((∃ i < rs.length, FiveWithin rs i) → (Supervisor.after rs).halted = true ∧
        (Supervisor.after rs).running = false) ∧
      ((¬ ∃ i < rs.length, FiveWithin rs i) → Supervising rs (Supervisor.after rs)) := by
  induction rs using List.reverseRecOn with
  | nil => exact ⟨fun ⟨i, hi, _⟩ => absurd hi (Nat.not_lt_zero i), fun _ => Supervising.start⟩
  | append_singleton rs r ih =>
    have hrs : ∀ r ∈ rs, Unstopped r := fun q hq => hstop q (List.mem_append_left _ hq)
    have hearlier : (rs.map Round.now).Pairwise (· ≤ ·) := by
      rw [List.map_append] at hsorted
      exact (List.pairwise_append.1 hsorted).1
    obtain ⟨hgave, hruns⟩ := ih hrs hearlier
    have hafter : Supervisor.after (rs ++ [r]) = (Supervisor.after rs).round r := by
      rw [Supervisor.after, List.foldl_append]
      rfl
    have hiff : (∃ i < (rs ++ [r]).length, FiveWithin (rs ++ [r]) i) ↔
        (∃ i < rs.length, FiveWithin rs i) ∨ FiveWithin (rs ++ [r]) rs.length := by
      rw [List.length_append, List.length_singleton]
      constructor
      · rintro ⟨i, hi, hfive⟩
        rcases Nat.lt_succ_iff_lt_or_eq.1 hi with hlt | rfl
        · exact .inl ⟨i, hlt, (fiveWithin_append hlt r).1 hfive⟩
        · exact .inr hfive
      · rintro (⟨i, hi, hfive⟩ | hfive)
        · exact ⟨i, by omega, (fiveWithin_append hi r).2 hfive⟩
        · exact ⟨rs.length, by omega, hfive⟩
    rw [hafter, hiff]
    by_cases hpast : ∃ i < rs.length, FiveWithin rs i
    · obtain ⟨hhalted, hended⟩ := hgave hpast
      rw [round_ended hended]
      exact ⟨fun _ => ⟨hhalted, hended⟩, fun hnot => absurd (.inl hpast) hnot⟩
    · obtain ⟨hgive, hgo⟩ := (hruns hpast).round (hstop r (by simp)) hsorted
      refine ⟨fun hor => ?_, fun hnot => hgo fun hfive => hnot (.inr hfive)⟩
      rcases hor with hpast' | hfive
      · exact absurd hpast' hpast
      · exact hgive hfive

/-- **The supervisor gives up exactly when five rounds in a row end within ten minutes**, at the
    first such, and until then it has slept one second, two, four and so on up to a minute. -/
theorem halted_iff (rs : List Round) (hstop : ∀ r ∈ rs, Unstopped r)
    (hsorted : (rs.map Round.now).Pairwise (· ≤ ·)) :
    ((Supervisor.after rs).halted = true ↔ ∃ i < rs.length, FiveWithin rs i) ∧
      ((Supervisor.after rs).halted = false → (Supervisor.after rs).running = true ∧
        (Supervisor.after rs).waits = (List.range rs.length).map fun k => min (2 ^ k) 60) := by
  obtain ⟨hgave, hruns⟩ := supervising_or_halted rs hstop hsorted
  by_cases h : ∃ i < rs.length, FiveWithin rs i
  · refine ⟨⟨fun _ => h, fun _ => (hgave h).1⟩, fun hnot => ?_⟩
    rw [(hgave h).1] at hnot
    cases hnot
  · have hs := hruns h
    refine ⟨⟨fun hhalted => ?_, fun hsome => absurd hsome h⟩, fun _ => ⟨hs.running, hs.waits⟩⟩
    rw [hs.halted] at hhalted
    cases hhalted

/-- A sidecar that crashes at once, two minutes after the round before. -/
def everyTwoMinutes : List Round :=
  [0, 1, 2, 3, 4].map fun k => ⟨some 3, false, k * (120 * 1000000000), false⟩

theorem everyTwoMinutes_halts : (Supervisor.after everyTwoMinutes).halted = true := by
  have hstop : ∀ r ∈ everyTwoMinutes, Unstopped r := by
    intro r hr
    obtain ⟨k, -, rfl⟩ := List.mem_map.1 hr
    exact ⟨rfl, rfl⟩
  refine (halted_iff everyTwoMinutes hstop (by decide)).1.2 ⟨4, by decide, by decide, ?_⟩
  exact ⟨_, _, rfl, rfl, by decide⟩

end WKPairDriver.Phantom.Sidecar
