import WKPairDriver.Lib.Run

/-!
# The circuit breaker of the face-module host: `SubprocessManager.RunActiveAsync`

The run loop spawns the subprocess of the active module again and again.  One pass may fail before
the `try` block, or leave the block by one of its exits; the `finally` block tears the subprocess
down and compares what has passed since the spawn with `FastExitThreshold`.

* `Breaker` — `_breakerUuid` and `_breakerCount`, and what the code does with them.
* `Life` — when a subprocess answers and exits; `Life.tryBlock` and `Life.tornDown` are when the
  `try` block is left and when the teardown has ended.
* `breaker_sound_iff` — the breaker counts right along a run exactly when every pass starts its
  subprocess, and one that exits within the threshold is torn down within it.
* `unanswered_not_counted` — a subprocess that exits without a handshake is not.
-/

set_option autoImplicit false

namespace WKPairDriver.FaceTracking.Subprocess

open Lib

/-! ## The breaker -/

def CrashHaltThreshold : ℕ := 3

/-- In milliseconds, as all times here. -/
def FastExitThreshold : ℕ := 5000

/-- `_breakerUuid` and `_breakerCount`. -/
structure Breaker where
  uuid : Option String
  count : ℕ
deriving DecidableEq

def Breaker.clear : Breaker := ⟨none, 0⟩

/-- `SelectActive` of an installed module. -/
def Breaker.reselect (b : Breaker) (uuid : String) : Breaker :=
  if b.uuid = some uuid then .clear else b

/-- The check at the head of the run loop. -/
def Breaker.trips (b : Breaker) (uuid : String) : Bool :=
  b.uuid = some uuid ∧ CrashHaltThreshold ≤ b.count

/-- The `finally` block. -/
def Breaker.account (b : Breaker) (uuid : String) (lifetime : ℕ) : Breaker :=
  if lifetime < FastExitThreshold then
    if b.uuid = some uuid then { b with count := b.count + 1 } else ⟨some uuid, 1⟩
  else if b.uuid = some uuid then .clear else b

/-- The count as it stands for a module. -/
def Breaker.countOf (b : Breaker) (uuid : String) : ℕ := if b.uuid = some uuid then b.count else 0

@[simp] theorem Breaker.countOf_reselect (b : Breaker) (uuid : String) :
    (b.reselect uuid).countOf uuid = 0 := by
  by_cases h : b.uuid = some uuid <;> simp [reselect, countOf, clear, h]

@[simp] theorem Breaker.countOf_account (b : Breaker) (uuid : String) (lifetime : ℕ) :
    (b.account uuid lifetime).countOf uuid =
      if lifetime < FastExitThreshold then b.countOf uuid + 1 else 0 := by
  by_cases hfast : lifetime < FastExitThreshold <;> by_cases h : b.uuid = some uuid <;>
    simp [account, countOf, clear, h, hfast]

theorem Breaker.trips_iff (b : Breaker) (uuid : String) :
    b.trips uuid = true ↔ CrashHaltThreshold ≤ b.countOf uuid := by
  by_cases h : b.uuid = some uuid <;> simp [trips, countOf, h, CrashHaltThreshold]

/-! ## One pass -/

/-- A wait with a timeout: how long it takes, and whether what it waits for has come. -/
def waitAsync (limit : ℕ) (arrival : Option ℕ) : ℕ × Bool :=
  match arrival with
  | some t => if t ≤ limit then (t, true) else (limit, false)
  | none => (limit, false)

/-- What happens in a pass whose subprocess was started.  `exitAt` and `error` count from the
    spawn, the replies from the beginning of the wait for them. -/
structure Life where
  /-- the exit of the subprocess, unless it is killed before -/
  exitAt : Option ℕ
  handshake : Option ℕ
  supported : Option ℕ
  init : Option ℕ
  /-- how long the pull loop takes to see the exit -/
  noticed : ℕ
  /-- an exception out of the `try` block -/
  error : Option ℕ
  teardownReply : Option ℕ
  /-- time that passes outside all waits until the lifetime is measured -/
  overhead : ℕ

/-- The waits for handshake, capabilities and initialization; none of them ends with the
    subprocess. -/
def Life.replies (l : Life) : ℕ × Bool :=
  let h := waitAsync 30000 l.handshake
  if h.2 = false then h
  else
    let s := waitAsync 30000 l.supported
    if s.2 = false then (h.1 + s.1, false)
    else
      let i := waitAsync 30000 l.init
      (h.1 + s.1 + i.1, i.2)

/-- When the `try` block is left: after a timeout, by the pull loop once it sees the exit, or by an
    exception; `none` if the pull loop goes on for ever. -/
def Life.tryBlock (l : Life) : Option ℕ :=
  let normal :=
    if l.replies.2 then l.exitAt.map fun e => max l.replies.1 e + l.noticed else some l.replies.1
  match l.error, normal with
  | some e, some t => some (min e t)
  | some e, none => some e
  | none, t => t

/-- When `TeardownActiveAsync` has ended: a subprocess that runs is asked to end and has five seconds
    for the reply, and there are three seconds for its exit before it is killed. -/
def Life.tornDown (l : Life) (left : ℕ) : ℕ :=
  let asked :=
    if l.exitAt.any (· ≤ left) then left else left + (waitAsync 5000 l.teardownReply).1
  match l.exitAt with
  | some e => asked + min 3000 (e - asked)
  | none => asked + 3000

/-- When the subprocess is gone. -/
def Life.gone (l : Life) (left : ℕ) : ℕ :=
  match l.exitAt with
  | some e => min e (l.tornDown left)
  | none => l.tornDown left

/-- `DateTime.UtcNow - spawnTime` in the `finally` block. -/
def Life.lifetime (l : Life) (left : ℕ) : ℕ := l.tornDown left + l.overhead

inductive Pass where
  | exeMissing
  | startFailed
  | started (l : Life)

/-- The pass failed to start the subprocess or had it exit within the threshold. -/
def Pass.fast : Pass → Bool
  | .exeMissing | .startFailed => true
  | .started l => l.tryBlock.any fun left => l.gone left < FastExitThreshold

/-! ## The run loop -/

/-- What the run loop keeps; `passes` (the newest first) and `rush`, the spawn attempts since the
    last delay, are history. -/
structure Manager where
  _activeModule : Option String
  breaker : Breaker
  passes : List Pass
  rush : ℕ

/-- `SelectActive` of an installed module. -/
def Manager.SelectActive (s : Manager) (uuid : String) : Manager :=
  ⟨some uuid, s.breaker.reselect uuid, [], 0⟩

/-- `SpawnAndRunCoreAsync`: the early returns are in front of the `try` block. -/
def Manager.SpawnAndRun (s : Manager) (uuid : String) : Pass → Option Manager
  | .exeMissing => some { s with passes := .exeMissing :: s.passes, rush := s.rush + 1 }
  | .startFailed => some { s with passes := .startFailed :: s.passes, rush := s.rush + 1 }
  | .started l => l.tryBlock.map fun left =>
    { s with
      breaker := s.breaker.account uuid (l.lifetime left)
      passes := .started l :: s.passes
      rush := if l.tornDown left = 0 then s.rush + 1 else 0 }

/-- The head of the loop in `RunActiveAsync`. -/
def Manager.loopHead (s : Manager) (uuid : String) : Manager :=
  if s.breaker.trips uuid then { s with _activeModule := none } else s

/-- A pass of the active module and the loop head behind it. -/
def step (uuid : String) (s : Manager) (p : Pass) : Option Manager :=
  if s._activeModule = some uuid then (s.SpawnAndRun uuid p).map (·.loopHead uuid) else none

/-! ## Counting right -/

/-- How many passes have been fast in a row. -/
def streak (passes : List Pass) : ℕ := (passes.takeWhile Pass.fast).length

theorem streak_cons (p : Pass) (passes : List Pass) :
    streak (p :: passes) = if p.fast then streak passes + 1 else 0 := by
  unfold streak
  cases h : p.fast <;> simp [h]

/-- The module is halted exactly when the last three passes were fast, the count is that of the
    fast passes since the last one that was not, and attempts without a delay are few. -/
structure BreakerSound (uuid : String) (s : Manager) : Prop where
  halted : s._activeModule = none ↔ CrashHaltThreshold ≤ streak s.passes
  counted : s.breaker.countOf uuid = streak s.passes
  delayed : s.rush ≤ CrashHaltThreshold

/-- The pass starts its subprocess, and one that is gone within the threshold is so long enough
    before its end for the teardown to be over and the lifetime to be measured. -/
def Counted : Pass → Prop
  | .exeMissing | .startFailed => False
  | .started l =>
    ∀ left ∈ l.tryBlock, l.gone left < FastExitThreshold → l.lifetime left < FastExitThreshold

theorem Life.gone_le_tornDown (l : Life) (left : ℕ) : l.gone left ≤ l.tornDown left := by
  unfold Life.gone
  split
  · exact Nat.min_le_right ..
  · exact Nat.le_refl _

@[simp] theorem loopHead_breaker (s : Manager) (uuid : String) :
    (s.loopHead uuid).breaker = s.breaker := by
  unfold Manager.loopHead
  split <;> rfl

@[simp] theorem loopHead_passes (s : Manager) (uuid : String) :
    (s.loopHead uuid).passes = s.passes := by
  unfold Manager.loopHead
  split <;> rfl

@[simp] theorem loopHead_rush (s : Manager) (uuid : String) : (s.loopHead uuid).rush = s.rush := by
  unfold Manager.loopHead
  split <;> rfl

theorem loopHead_activeModule (s : Manager) (uuid : String) : (s.loopHead uuid)._activeModule =
    if CrashHaltThreshold ≤ s.breaker.countOf uuid then none else s._activeModule := by
  unfold Manager.loopHead
  by_cases h : s.breaker.trips uuid = true
  · rw [if_pos h, if_pos ((Breaker.trips_iff _ _).1 h)]
  · rw [if_neg h, if_neg fun h' => h ((Breaker.trips_iff _ _).2 h')]

/-- What one pass does. -/
theorem step_cases {uuid : String} {s t : Manager} {p : Pass} (h : step uuid s p = some t) :
    s._activeModule = some uuid ∧ t.passes = p :: s.passes ∧
      t._activeModule =
        (if CrashHaltThreshold ≤ t.breaker.countOf uuid then none else some uuid) ∧
      ((p = .exeMissing ∨ p = .startFailed) ∧ t.breaker = s.breaker ∧ t.rush = s.rush + 1 ∨
        ∃ l left, p = .started l ∧ l.tryBlock = some left ∧
          t.breaker = s.breaker.account uuid (l.lifetime left) ∧
          t.rush = if l.tornDown left = 0 then s.rush + 1 else 0) := by
  unfold step at h
  split at h
  · next hactive =>
    refine ⟨hactive, ?_⟩
    obtain ⟨s', hs', rfl⟩ := Option.map_eq_some_iff.1 h
    cases p with
    | exeMissing =>
      cases hs'
      simp [loopHead_activeModule, hactive]
    | startFailed =>
      cases hs'
      simp [loopHead_activeModule, hactive]
    | started l =>
      obtain ⟨left, hleft, rfl⟩ := Option.map_eq_some_iff.1 hs'
      simp [loopHead_activeModule, hactive, hleft]
  · cases h

/-- The breaker is sound, and there is no rush beyond the fast passes. -/
structure Inv (uuid : String) (s : Manager) : Prop where
  halted : s._activeModule = none ↔ CrashHaltThreshold ≤ streak s.passes
  counted : s.breaker.countOf uuid = streak s.passes
  few : streak s.passes ≤ CrashHaltThreshold
  rush : s.rush ≤ streak s.passes

theorem Inv.sound {uuid : String} {s : Manager} (h : Inv uuid s) : BreakerSound uuid s :=
  ⟨h.halted, h.counted, h.rush.trans h.few⟩

theorem SelectActive_inv (s : Manager) (uuid : String) : Inv uuid (s.SelectActive uuid) where
  halted := by simp [Manager.SelectActive, streak, CrashHaltThreshold]
  counted := by simp [Manager.SelectActive, streak]
  few := Nat.zero_le _
  rush := Nat.le_refl _

theorem step_inv {uuid : String} {s t : Manager} {p : Pass} (hs : Inv uuid s) (hp : Counted p)
    (h : step uuid s p = some t) : Inv uuid t := by
  obtain ⟨hactive, hpasses, hhead, hfail | ⟨l, left, rfl, hleft, hbreaker, hrush⟩⟩ := step_cases h
  · obtain ⟨rfl | rfl, -, -⟩ := hfail <;> exact hp.elim
  · have hless : streak s.passes < CrashHaltThreshold := by
      have := hs.halted.2.mt (by simp [hactive])
      omega
    have hfast : (Pass.started l).fast = decide (l.gone left < FastExitThreshold) := by
      simp [Pass.fast, hleft]
    have hgone := l.gone_le_tornDown left
    have hmeasure : l.lifetime left < FastExitThreshold ↔ l.gone left < FastExitThreshold := by
      refine ⟨fun hlt => ?_, hp left hleft⟩
      unfold Life.lifetime at hlt
      omega
    have hcounted : t.breaker.countOf uuid = streak t.passes := by
      rw [hbreaker, Breaker.countOf_account, hs.counted, hpasses, streak_cons, hfast]
      simp only [hmeasure, decide_eq_true_eq]
    have hstreak : streak t.passes =
        if l.gone left < FastExitThreshold then streak s.passes + 1 else 0 := by
      rw [hpasses, streak_cons, hfast]
      simp only [decide_eq_true_eq]
    refine ⟨?_, hcounted, ?_, ?_⟩
    · rw [hhead, hcounted]
      simp
    · rw [hstreak]
      split <;> omega
    · rw [hrush, hstreak]
      have hpos : 0 < FastExitThreshold := by decide
      have := hs.rush
      split <;> split <;> omega

theorem counted_of_sound {uuid : String} {s t : Manager} {p : Pass} (hs : Inv uuid s)
    (h : step uuid s p = some t) (ht : BreakerSound uuid t) : Counted p := by
  have hcounted := ht.counted
  obtain ⟨-, hpasses, -, ⟨hp, hbreaker, -⟩ | ⟨l, left, rfl, hleft, hbreaker, -⟩⟩ := step_cases h
  · have hfast : p.fast = true := by obtain rfl | rfl := hp <;> rfl
    rw [hbreaker, hs.counted, hpasses, streak_cons, if_pos hfast] at hcounted
    omega
  · intro left' hleft' hgone
    cases hleft.symm.trans hleft'
    have hfast : (Pass.started l).fast = true := by simp [Pass.fast, hleft, hgone]
    rw [hbreaker, Breaker.countOf_account, hpasses, streak_cons, if_pos hfast] at hcounted
    by_contra hslow
    rw [if_neg hslow] at hcounted
    omega

/-- **The circuit breaker.**  Along every run of passes behind a selection, the module is halted
    exactly after three fast passes in a row, with the count and the delays that belong to it, if
    and only if every pass starts its subprocess and one that is gone within the threshold is torn
    down within it. -/
theorem breaker_sound_iff (s : Manager) (uuid : String) (passes : List Pass) :
    Always (step uuid) (BreakerSound uuid) (s.SelectActive uuid) passes ↔
      AllSteps (step uuid) (fun _ p => Counted p) (s.SelectActive uuid) passes :=
  Always.iff_of_inv
    (fun _ _ _ hs hp hstep => step_inv hs hp hstep)
    (fun _ hs => hs.sound)
    (fun _ _ _ hs hstep ht => counted_of_sound hs hstep ht)
    (SelectActive_inv s uuid)

/-! ## What is not counted -/

/-- A subprocess that exits at once and never sends its handshake is not counted. -/
theorem unanswered_not_counted {l : Life} {e : ℕ} (hexit : l.exitAt = some e)
    (he : e < FastExitThreshold) (hhandshake : l.handshake = none) (herror : l.error = none) :
    ¬ Counted (.started l) := by
  have hreplies : l.replies = (30000, false) := by simp [Life.replies, waitAsync, hhandshake]
  have hleft : l.tryBlock = some 30000 := by simp [Life.tryBlock, hreplies, herror]
  have htorn : 30000 ≤ l.tornDown 30000 := by
    unfold Life.tornDown
    simp only [hexit]
    split <;> omega
  intro h
  have hgone : l.gone 30000 < FastExitThreshold := by
    unfold Life.gone
    rw [hexit]
    exact (Nat.min_le_left ..).trans_lt he
  have := h 30000 hleft hgone
  unfold Life.lifetime FastExitThreshold at this
  omega

/-- Starts that fail go on without a delay and without an end. -/
theorem failedStarts_rush {uuid : String} (n : ℕ) : ∀ {s : Manager},
    s._activeModule = some uuid → s.breaker.countOf uuid = 0 →
    ∃ t, runTo (step uuid) s (List.replicate n .startFailed) = some t ∧
      t._activeModule = some uuid ∧ t.rush = s.rush + n := by
  induction n with
  | zero =>
    intro s hactive _
    exact ⟨s, rfl, hactive, rfl⟩
  | succ n ih =>
    intro s hactive hcount
    have hstep : step uuid s .startFailed =
        some { s with passes := .startFailed :: s.passes, rush := s.rush + 1 } := by
      have htrips : s.breaker.trips uuid = false := by
        rw [← Bool.not_eq_true, Breaker.trips_iff, hcount]
        decide
      simp [step, hactive, Manager.SpawnAndRun, Manager.loopHead, htrips]
    obtain ⟨t, hrun, htactive, hrush⟩ :=
      @ih { s with passes := .startFailed :: s.passes, rush := s.rush + 1 } hactive hcount
    refine ⟨t, ?_, htactive, ?_⟩
    · rw [List.replicate_succ, runTo, hstep]
      exact hrun
    · rw [hrush]
      exact Nat.add_right_comm _ _ _

/-- Three starts that fail leave the module active. -/
theorem failedStarts_not_halted :
    ¬ Always (step "module") (fun s => s._activeModule = none ↔
        CrashHaltThreshold ≤ streak s.passes)
      (Manager.SelectActive ⟨none, .clear, [], 0⟩ "module")
      [.startFailed, .startFailed, .startFailed] := by
  decide +kernel

end WKPairDriver.FaceTracking.Subprocess
