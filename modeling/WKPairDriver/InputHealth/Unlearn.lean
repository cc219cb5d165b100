import WKPairDriver.Lib.Run
import WKPairDriver.InputHealth.EngineInvariant

/-!
# Paths that are unlearned

`UnlearnPath` and `UnlearnDevice` erase what the engine knows of a path.  The driver's counters go
on, and the ticks behind the call read them again as if they were new.

* `Watched` — the engine with what the driver has reported of every component, and whether something
  new came for the path since the call.
* `TooLittle` — a visit that finds too little in what was reported before to learn from.
* `unlearn_sticks` — as long as every visit of a tick that brings nothing new is one, the path is
  not ready and no enabled compensation is pushed for it.
* `unlearn_relearned` — one tick with the same snapshot as before the call learns a path again.
-/

set_option autoImplicit false

namespace WKPairDriver.InputHealth.Learning

open Lib Discipline

variable {K : Type} [Field K] [LinearOrder K]

/-! ## What the driver has reported -/

/-- The counters of a component. -/
structure Reported where
  bounces : Nat
  presses : Nat
  samples : Nat
  deriving DecidableEq

/-- The counters a snapshot shows. -/
def SnapshotBody.counters {F : Type} (b : SnapshotBody F) : Reported :=
  ⟨b.bounce_transition_count, b.press_count, b.welford_count⟩

/-- The component is one of the path. -/
def SnapshotBody.isOf {F : Type} (b : SnapshotBody F) (serial : UInt64) (path : String) : Bool :=
  decide (b.device_serial_hash = serial) && decide (b.path = path)

/-- The engine, the counters reported last, and whether new evidence came for the path. -/
structure Watched (K : Type) where
  engine : Engine K
  reported : UInt64 → Reported
  evidence : Bool

/-- The snapshot of a tick counts more of the path than was reported before: a bounce, a press, or a
    sample. -/
def newEvidence {F : Type} (reported : UInt64 → Reported) (serial : UInt64) (path : String)
    (t : TickInput F) : Bool :=
  t.entries.any fun b => b.isOf serial path &&
    (decide ((reported b.handle).bounces < b.bounce_transition_count) ||
      decide ((reported b.handle).presses < b.press_count) ||
      decide ((reported b.handle).samples < b.welford_count))

/-- What is reported behind a tick. -/
def report {F : Type} (reported : UInt64 → Reported) (t : TickInput F) (handle : UInt64) :
    Reported :=
  match t.entries.find? fun b => decide (b.handle = handle) with
  | some b => b.counters
  | none => reported handle

section Unlearn

variable (sqrt : K → K) (hypot : K → K → K) (serial : UInt64) (path : String)

/-- A call of the watched engine. -/
def watchStep (w : Watched K) (c : Call K) : Option (Watched K) :=
  some { engine := w.engine.apply sqrt hypot c
         reported := match c with
           | .tick t => report w.reported t
           | _ => w.reported
         evidence := w.evidence || match c with
           | .tick t => newEvidence w.reported serial path t
           | _ => false }

/-- Without new evidence the path is not ready, and no compensation pushed behind the mark enables
    it. -/
def Sticks (mark : Nat) (w : Watched K) : Prop :=
  w.evidence = false →
    (∀ st, w.engine.states serial path = some st → st.ready = false) ∧
    ∀ e ∈ w.engine.pushed.drop mark, e.device_serial_hash = serial → e.path = path →
      e.enabled = false

/-- The call unlearns the path. -/
def Unlearns : Call K → Prop
  | .unlearnPath _ h p => h = serial ∧ p = path ∧ h ≠ 0 ∧ p.isEmpty = false
  | .unlearnDevice _ h => h = serial ∧ h ≠ 0
  | _ => False

/-! ## The condition -/

/-- A visit of the path finds too little to learn from.  A boolean has not bounced enough, and its
    presses are counted already, or too few, or the first that are seen; a scalar is not at rest, or
    has too few samples at rest. -/
def TooLittle (t : TickInput K) (s : Engine K) : Visit K → Bool
  | .boolean b =>
    !(b.is_boolean && compensable b && b.isOf serial path) ||
      !bounceEvidence b &&
        (decide (b.press_count ≤ (s.found serial path).last_press_count) ||
          decide (max (s.found serial path).sample_count b.press_count <
            ReadyThreshold InputHealthCompBoolean) ||
          decide ((s.found serial path).last_press_time_us = 0) &&
            (s.found serial path).inter_press_us.isEmpty)
  | .scalar b =>
    !(b.is_scalar && compensable b && b.isOf serial path) ||
      !(observed hypot t b (s.StateFor serial path) (scalarState b s)).2 ||
      decide ((s.found serial path).rest.count + 1 < ReadyThreshold (KindForBody b))

/-- Every visit of a tick finds too little, unless there is new evidence. -/
def Meets (w : Watched K) : Call K → Prop
  | .tick t => w.evidence = true ∨ newEvidence w.reported serial path t = true ∨
      AllSteps (fun s v => some (visit sqrt hypot t s v))
        (fun s v => TooLittle hypot serial path t s v = true) w.engine t.visits
  | _ => True

end Unlearn

/-! ## Paths that stay unlearned -/

/-- The path is not ready, its records neither, and no push enables it. -/
def quiet (K : Type) [Field K] [LinearOrder K] (serial : UInt64) (path : String) :
    Discipline K where
  state h p st := h = serial → p = path → st.ready = false
  record h r := h = serial → r.path = path → r.ready = false
  file _ _ := True
  push h p enabled := h = serial → p = path → enabled = false
  fresh _ _ _ _ := rfl
  restore _ _ h := h
  toRecord _ _ _ h := h
  filed _ _ _ := trivial
  persisted _ _ _ _ h := h
  disabled _ _ _ _ := rfl
  ready _ _ h hready hs hp := hready.symm.trans (h hs hp)

/-- The other paths may learn. -/
theorem learns_quiet (sqrt : K → K) {serial h : UInt64} {path p : String}
    (hne : h = serial → p = path → False) : (quiet K serial path).Learns sqrt h p where
  withKind _ _ _ hs hp := (hne hs hp).elim
  bounce _ _ _ _ hs hp := (hne hs hp).elim
  press _ _ _ _ hs hp := (hne hs hp).elim
  presses _ _ _ hs hp := (hne hs hp).elim
  peak _ _ _ hs hp := (hne hs hp).elim
  stableRest _ _ _ hs hp := (hne hs hp).elim
  takeRest _ _ _ _ hs hp := (hne hs hp).elim
  driftSince _ _ _ hs hp := (hne hs hp).elim
  noDrift _ _ hs hp := (hne hs hp).elim
  relearn _ _ _ _ hs hp := (hne hs hp).elim
  rest _ _ _ hs hp := (hne hs hp).elim
  push hs hp := (hne hs hp).elim

/-- Observing and taking a value leave the path's readiness and kind, and add at most one sample. -/
structure Observes {F : Type} (st st' : PathState F) (samples : Nat) : Prop where
  ready : st'.ready = st.ready
  kind : st'.kind = st.kind
  count : st'.rest.count ≤ st.rest.count + samples

theorem Observes.trans {F : Type} {st₁ st₂ st₃ : PathState F} {m n : Nat} (h₁ : Observes st₁ st₂ m)
    (h₂ : Observes st₂ st₃ n) : Observes st₁ st₃ (m + n) where
  ready := h₂.ready.trans h₁.ready
  kind := h₂.kind.trans h₁.kind
  count := by
    have := h₁.count
    have := h₂.count
    omega

omit [Field K] in
theorem observes_trackPeak (st : PathState K) (b : SnapshotBody K) :
    Observes st (st.trackPeak b) 0 := by
  unfold PathState.trackPeak
  by_cases htrigger : IsTriggerKind st.kind b.path = true
  · rw [if_pos htrigger]
    exact ⟨rfl, rfl, le_rfl⟩
  · rw [if_neg htrigger]
    exact ⟨rfl, rfl, le_rfl⟩

theorem observes_observeRest (hypot : K → K → K) (st : PathState K) (t : TickInput K)
    (b : SnapshotBody K) (quietButtons : Bool) :
    Observes st (st.observeRest hypot t b quietButtons).1 0 := by
  unfold PathState.observeRest
  split_ifs
  · cases t.entries.find? fun e => decide (e.handle = b.partner_handle) with
    | none => exact ⟨rfl, rfl, le_rfl⟩
    | some partner => exact ⟨rfl, rfl, le_rfl⟩
  · exact ⟨rfl, rfl, le_rfl⟩
  · exact ⟨rfl, rfl, le_rfl⟩

theorem observes_takeRest (st : PathState K) (burst : Bool) (x : K) :
    Observes st (st.takeRest burst x) 1 := by
  have hcredit (credit : K) : Observes st (st.addCredit credit x) 1 := by
    unfold PathState.addCredit
    dsimp only
    split_ifs
    · exact ⟨rfl, rfl, le_rfl⟩
    · exact ⟨rfl, rfl, Nat.le_succ _⟩
  have h := hcredit (if burst then 1 else 0.5)
  exact ⟨h.ready, h.kind, h.count⟩

theorem observes_observed (hypot : K → K → K) (t : TickInput K) (b : SnapshotBody K) (s : Engine K)
    (st : PathState K) : Observes st (observed hypot t b s st).1 0 :=
  (observes_trackPeak st b).trans (observes_observeRest ..)

theorem observes_rested (hypot : K → K → K) (t : TickInput K) (b : SnapshotBody K) (s : Engine K)
    (st : PathState K) : Observes st (rested hypot t b s st) 1 := by
  have h := (observes_observed hypot t b s st).trans
    (observes_takeRest _ s.rest_burst_active b.last_value)
  rwa [Nat.zero_add] at h

/-! ## What the calls erase -/

section Erase

variable {F : Type} (s : Engine F) (around : Surroundings) (serial : UInt64)

@[simp] theorem states_PushCompensation (path : String) (st : PathState F) (enabled : Bool) :
    (s.PushCompensation around serial path st enabled).states = s.states := by
  unfold Engine.PushCompensation
  split_ifs
  · rfl
  · rfl

@[simp] theorem profiles_PushCompensation (path : String) (st : PathState F) (enabled : Bool) :
    (s.PushCompensation around serial path st enabled).profiles = s.profiles := by
  unfold Engine.PushCompensation
  split_ifs
  · rfl
  · rfl

/-- The profile is stored whether its file is written or not. -/
theorem profiles_Save (profile : DeviceProfile F) :
    ((s.setProfile serial profile).Save around serial profile).profiles serial = some profile := by
  unfold Engine.Save
  split_ifs
  · exact if_pos rfl
  · exact if_pos rfl

end Erase

/-- Neither a state nor a record of the path is left. -/
theorem erased_unlearns (sqrt : K → K) (hypot : K → K → K) (s : Engine K) {serial : UInt64}
    {path : String} {u : Call K} (hu : Unlearns serial path u) :
    (s.apply sqrt hypot u).states serial path = none ∧
      ∀ profile, (s.apply sqrt hypot u).profiles serial = some profile →
        ∀ r ∈ profile.learned_paths, r.path ≠ path := by
  cases u with
  | unlearnPath around h p =>
    obtain ⟨rfl, rfl, hh, hp⟩ := hu
    have hgo : ¬(h = 0 ∨ p.isEmpty = true) := by
      rw [hp]
      simpa using hh
    rw [Engine.apply, Engine.UnlearnPath, if_neg hgo]
    refine ⟨by simp [Engine.eraseStates], fun profile hprofile r hr => ?_⟩
    rw [profiles_PushCompensation] at hprofile
    obtain rfl := Option.some_inj.1 ((profiles_Save ..).symm.trans hprofile)
    simpa using (List.mem_filter.1 hr).2
  | unlearnDevice around h =>
    obtain ⟨rfl, hh⟩ := hu
    rw [Engine.apply, Engine.UnlearnDevice, if_neg hh]
    refine ⟨by simp [Engine.eraseStates], fun profile hprofile r hr => ?_⟩
    obtain rfl := Option.some_inj.1 ((profiles_Save ..).symm.trans hprofile)
    simp at hr
  | _ => exact hu.elim

namespace Discipline.Holds

variable {serial : UInt64} {path : String} {mark : Nat} {s : Engine K} {t : TickInput K}
variable {b : SnapshotBody K} {sqrt : K → K} {hypot : K → K → K}

/-- A boolean that finds too little leaves the path quiet. -/
theorem visitBoolean_quiet (h : (quiet K serial path).Holds mark s)
    (hfew : TooLittle hypot serial path t s (.boolean b) = true) :
    (quiet K serial path).Holds mark (Learning.visitBoolean t b s) := by
  by_cases hother : b.isOf serial path = true
  · obtain ⟨rfl, rfl⟩ : b.device_serial_hash = serial ∧ b.path = path := by
      simpa [SnapshotBody.isOf] using hother
    unfold Learning.visitBoolean
    split_ifs with hlearn
    · simp only [TooLittle, hlearn, hother, Bool.and_self, Bool.not_true, Bool.false_or,
        Bool.and_eq_true, Bool.not_eq_true', Bool.or_eq_true, decide_eq_true_eq,
        List.isEmpty_iff] at hfew
      obtain ⟨hbounce, hpress⟩ := hfew
      have hk : (quiet K b.device_serial_hash b.path).Holds mark (Learning.enterBoolean b s) :=
        h.enterBoolean (h.found b.device_serial_hash b.path)
      have hsame : Learning.learnFromBounces t b (Learning.enterBoolean b s) =
          Learning.enterBoolean b s := by
        simp [Learning.learnFromBounces, PathState.bounceLearns, hbounce]
      rw [hsame]
      refine hk.learnFromPresses fun hcount => ?_
      rw [state_enterBoolean] at hcount ⊢
      refine ⟨h.found b.device_serial_hash b.path, fun hlearn => ?_⟩
      simp only [PathState.pressesLearn, Bool.and_eq_true, decide_eq_true_eq, Bool.not_eq_true',
        List.isEmpty_eq_false_iff] at hlearn
      obtain ⟨⟨-, hready⟩, hintervals⟩ := hlearn
      obtain (hle | hfew) | ⟨htime, hnone⟩ := hpress
      · exact absurd hcount (not_lt.2 hle)
      · exact absurd hready (not_le.2 hfew)
      · exact absurd (by simp [PathState.countPress, PathState.pressIntervals,
          PathState.withKind, htime, hnone]) hintervals
    · exact h
  · exact h.visitBoolean (learns_quiet id fun hs hp => hother (by simp [SnapshotBody.isOf, hs, hp]))

/-- So does a scalar. -/
theorem visitScalar_quiet (h : (quiet K serial path).Holds mark s)
    (hfew : TooLittle hypot serial path t s (.scalar b) = true) :
    (quiet K serial path).Holds mark (Learning.visitScalar sqrt hypot t b s) := by
  by_cases hother : b.isOf serial path = true
  · obtain ⟨rfl, rfl⟩ : b.device_serial_hash = serial ∧ b.path = path := by
      simpa [SnapshotBody.isOf] using hother
    unfold Learning.visitScalar
    split_ifs with hlearn
    · simp only [TooLittle, hlearn, hother, Bool.and_self, Bool.not_true, Bool.false_or,
        Bool.not_eq_true', Bool.or_eq_true, decide_eq_true_eq] at hfew
      have hs := h.StateFor b.device_serial_hash b.path
      have hready : (scalarState b s).ready = false := h.found b.device_serial_hash b.path rfl rfl
      dsimp only
      split_ifs
      · have hobs := observes_observed hypot t b (s.StateFor b.device_serial_hash b.path)
          (scalarState b s)
        have hrest := observes_rested hypot t b (s.StateFor b.device_serial_hash b.path)
          (scalarState b s)
        have hnot : (rested hypot t b (s.StateFor b.device_serial_hash b.path)
            (scalarState b s)).ready = false := hrest.ready.trans hready
        refine hs.observeScalar (fun _ _ => hobs.ready.trans hready)
          (fun hyes => absurd hyes (Bool.eq_false_iff.1 hnot)) fun hat _ =>
            ⟨fun _ _ => hnot, fun hyes => ?_⟩
        -- one sample more than before is still below the threshold
        simp only [PathState.restLearns, Bool.and_eq_true, decide_eq_true_eq] at hyes
        obtain ⟨hthreshold, -⟩ := hyes
        rw [hrest.kind] at hthreshold
        have hbelow : (scalarState b s).rest.count + 1 < ReadyThreshold (KindForBody b) :=
          hfew.resolve_left (by simp [hat])
        exact absurd (hthreshold.trans hrest.count) (not_le.2 hbelow)
      · exact hs.put fun _ _ => hready
    · exact h
  · exact h.visitScalar
      (learns_quiet sqrt fun hs hp => hother (by simp [SnapshotBody.isOf, hs, hp]))

theorem visit_quiet (h : (quiet K serial path).Holds mark s) {v : Visit K}
    (hfew : TooLittle hypot serial path t s v = true) :
    (quiet K serial path).Holds mark (visit sqrt hypot t s v) := by
  cases v with
  | boolean b => exact h.visitBoolean_quiet hfew
  | scalar b => exact h.visitScalar_quiet hfew

/-- Visits that all find too little leave the path quiet. -/
theorem visits_quiet {vs : List (Visit K)} (h : (quiet K serial path).Holds mark s)
    (hfew : AllSteps (fun s v => some (visit sqrt hypot t s v))
      (fun s v => TooLittle hypot serial path t s v = true) s vs) :
    (quiet K serial path).Holds mark (vs.foldl (visit sqrt hypot t) s) := by
  induction vs generalizing s with
  | nil => exact h
  | cons v vs ih =>
    obtain ⟨hv, hvs⟩ := hfew _ rfl
    exact ih (h.visit_quiet hv) hvs

/-- Behind the call the path is quiet. -/
theorem quiet_unlearned (s : Engine K) {u : Call K} (hu : Unlearns serial path u) :
    (quiet K serial path).Holds (s.apply sqrt hypot u).pushed.length (s.apply sqrt hypot u) := by
  obtain ⟨hstates, hrecords⟩ := erased_unlearns sqrt hypot s hu
  refine ⟨?_, ?_, fun _ _ _ _ _ => trivial, fun e he => by simp at he⟩
  · rintro k q st hst rfl rfl
    rw [hstates] at hst
    cases hst
  · rintro k profile hprofile r hr rfl rfl
    exact absurd rfl (hrecords profile hprofile r hr)

end Discipline.Holds

section Runs

variable (sqrt : K → K) (hypot : K → K → K) {serial : UInt64} {path : String}

/-- One call of a watched engine keeps the path quiet while there is no new evidence. -/
theorem watchStep_quiet {mark : Nat} {w w' : Watched K} {c : Call K}
    (hstep : watchStep sqrt hypot serial path w c = some w')
    (h : w.evidence = false → (quiet K serial path).Holds mark w.engine)
    (hmeets : Meets sqrt hypot serial path w c) :
    w'.evidence = false → (quiet K serial path).Holds mark w'.engine := by
  cases hstep
  intro hnone
  obtain ⟨hbefore, hnew⟩ := (Bool.or_eq_false_iff).1 hnone
  refine (h hbefore).apply fun t ht => ?_
  subst ht
  obtain hevidence | hevidence | hfew := hmeets
  · exact absurd hevidence (Bool.eq_false_iff.1 hbefore)
  · exact absurd hevidence (Bool.eq_false_iff.1 hnew)
  · exact (h hbefore).visits_quiet hfew

/-- **Behind a call that unlearns a path, in every run whose ticks find too little in what was
    reported before, the path stays unlearned until there is new evidence.** -/
theorem unlearn_sticks (s : Engine K) (reported : UInt64 → Reported) {u : Call K}
    (hu : Unlearns serial path u) {calls : List (Call K)}
    (hmeets : AllSteps (watchStep sqrt hypot serial path) (Meets sqrt hypot serial path)
      ⟨s.apply sqrt hypot u, reported, false⟩ calls) :
    Always (watchStep sqrt hypot serial path)
      (Sticks serial path (s.apply sqrt hypot u).pushed.length)
      ⟨s.apply sqrt hypot u, reported, false⟩ calls := by
  refine Always.of_inv (I := fun w => w.evidence = false →
      (quiet K serial path).Holds (s.apply sqrt hypot u).pushed.length w.engine)
    (fun w c w' h hc hstep => watchStep_quiet sqrt hypot hstep h hc) (fun w h hnone => ?_)
    (fun _ => Discipline.Holds.quiet_unlearned s hu) hmeets
  have hquiet := h hnone
  exact ⟨fun st hst => hquiet.states serial path st hst rfl rfl,
    fun e he => hquiet.pushed e he⟩

end Runs

/-! ## A button that bounced -/

/-- A tick that sees a button with as many bounces. -/
def clickTick (bounces : Nat) : TickInput ℚ where
  now_us := 1000000
  entries := [{
    handle := 7
    device_serial_hash := 1
    partner_handle := 0
    path := "/input/a/click"
    is_scalar := false
    is_boolean := true
    axis_role := 0
    scalar_type := 0
    scalar_units := 0
    welford_count := 0
    last_value := 0
    press_count := 5
    bounce_transition_count := bounces
    bounce_max_interval_us := 800
    scalar_range_initialized := false
    observed_max := 0 }]
  around := fun _ _ => ⟨true, 1000000, 1, true⟩

/-- An engine that has learned the button from its bounces. -/
def clickLearned : Engine ℚ :=
  Tick id (fun _ _ => 0) (.start (fun _ => none) fun _ => none) (clickTick 3)

/-- The button is unlearned. -/
def clickUnlearn : Call ℚ := .unlearnPath ⟨true, 2000000, 2, true⟩ 1 "/input/a/click"

/-- The engine behind the call. -/
def clickWatched : Watched ℚ :=
  ⟨clickLearned.apply id (fun _ _ => 0) clickUnlearn, report (fun _ => ⟨0, 0, 0⟩) (clickTick 3),
    false⟩

/-- After two bounces the button stays unlearned. -/
theorem unlearn_sticks_click :
    Always (watchStep id (fun _ _ => 0) 1 "/input/a/click")
      (Sticks 1 "/input/a/click" (clickLearned.apply id (fun _ _ => 0) clickUnlearn).pushed.length)
      clickWatched [.tick (clickTick 2)] := by
  have hu : Unlearns 1 "/input/a/click" clickUnlearn := ⟨rfl, rfl, by decide, by decide +kernel⟩
  refine unlearn_sticks id (fun _ _ => 0) clickLearned _ hu fun w hw => ?_
  exact ⟨.inr (.inr (by decide +kernel)), trivial⟩

/-- One tick with the snapshot from before the call learns the button again and pushes it enabled,
    without new evidence. -/
theorem unlearn_relearned :
    (clickWatched.engine.states 1 "/input/a/click").isNone = true ∧
      (watchStep id (fun _ _ => 0) 1 "/input/a/click" clickWatched (.tick (clickTick 3))).map
        (fun w => (w.evidence, (w.engine.state 1 "/input/a/click").ready,
          (w.engine.pushed.drop clickWatched.engine.pushed.length).map fun e =>
            (e.device_serial_hash, e.path, e.enabled))) =
        some (false, true, [(1, "/input/a/click", true)]) := by
  decide +kernel

end WKPairDriver.InputHealth.Learning
