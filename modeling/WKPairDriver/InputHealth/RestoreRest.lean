import WKPairDriver.InputHealth.EngineInvariant

/-!
# Restarting while a path is learned

A path's record keeps its number of samples all the time, but an offset and a spread only from the
moment the path is ready.  The engine rebuilds the accumulator of the samples at rest from the
record.

* `notReady_unlearned` — a path that is not ready has the learned offset and spread zero, in every
  state a run reaches.
* `restored_rest_iff` — so the accumulator is rebuilt as it was exactly when no sample has been
  taken into it, or when at least two have been and all were zero.
-/

set_option autoImplicit false

namespace WKPairDriver.InputHealth.Learning

variable {K : Type} [Field K] [LinearOrder K]

/-! ## Paths that are not ready -/

/-- What is not ready has no offset and no spread. -/
def Unlearned (ready : Bool) (offset stddev : K) : Prop := ready = false → offset = 0 ∧ stddev = 0

/-- A state, or a record, that is unlearned unless it is ready. -/
def unlearned (K : Type) [Field K] [LinearOrder K] : Discipline K where
  state _ _ st := Unlearned st.ready st.learned_rest_offset st.learned_stddev
  record _ r := Unlearned r.ready r.learned_rest_offset r.learned_stddev
  file _ r := Unlearned r.ready r.learned_rest_offset r.learned_stddev
  push _ _ _ := True
  fresh _ _ _ := ⟨rfl, rfl⟩
  restore _ _ h := h
  toRecord _ _ _ h := h
  filed _ _ h := h
  persisted _ _ _ _ h := h
  disabled _ _ := trivial
  ready _ _ _ _ := trivial

/-- Learning keeps it. -/
theorem learns_unlearned (sqrt : K → K) (serial : UInt64) (path : String) :
    (unlearned K).Learns sqrt serial path where
  withKind _ _ h := h
  bounce _ _ _ _ hready := by cases hready
  press _ _ _ h := h
  presses _ _ _ hready := by cases hready
  peak st b h := by
    unfold PathState.trackPeak
    by_cases htrigger : IsTriggerKind st.kind b.path = true
    · rw [if_pos htrigger]
      exact h
    · rw [if_neg htrigger]
      exact h
  stableRest _ _ h := h
  takeRest st burst x h := by
    have hcredit (credit : K) : Unlearned (st.addCredit credit x).ready
        (st.addCredit credit x).learned_rest_offset (st.addCredit credit x).learned_stddev := by
      unfold PathState.addCredit
      dsimp only
      split_ifs
      · exact h
      · exact h
    exact hcredit _
  driftSince _ _ h := h
  noDrift _ h := h
  relearn _ _ _ _ _ := ⟨rfl, rfl⟩
  rest _ _ _ hready := by cases hready
  push := trivial

section Runs

variable (sqrt : K → K) (hypot : K → K → K)

theorem holds_restart {s : Engine K} (h : (unlearned K).Holds 0 s) :
    (unlearned K).Holds 0 s.restart where
  states k p st hst := by simp [Engine.restart, Engine.start] at hst
  profiles k profile hp r hr := by
    obtain ⟨file, hfile, rfl⟩ := Option.map_eq_some_iff.1 hp
    exact h.files k file hfile r (List.mem_of_mem_filter hr)
  files := h.files
  pushed e he := trivial

theorem holds_run (events : List (Event K)) : (unlearned K).Holds 0 (run sqrt hypot events) := by
  refine Discipline.Holds.foldl (fun e _ s h => ?_)
    ⟨fun _ _ _ h => by simp [Engine.start] at h, fun _ _ h => by simp [Engine.start] at h,
      fun _ _ h => by simp [Engine.start] at h, fun _ _ => trivial⟩
  cases e with
  | call c => exact h.apply fun t _ => h.Tick (learns_unlearned sqrt) t
  | restart => exact holds_restart h

/-- A path that is not ready has no offset and no spread, in every state a run reaches. -/
theorem notReady_unlearned {events : List (Event K)} {serial : UInt64} {path : String}
    {st : PathState K} (hst : (run sqrt hypot events).states serial path = some st)
    (hready : st.ready = false) : st.learned_rest_offset = 0 ∧ st.learned_stddev = 0 :=
  (holds_run sqrt hypot events).states serial path st hst hready

end Runs

/-! ## Persisting and restoring -/

theorem findRecord_putRecord {F : Type} (record : LearnedPathRecord F)
    (rs : List (LearnedPathRecord F)) :
    (putRecord record rs).find? (fun r => decide (r.path = record.path)) = some record := by
  induction rs with
  | nil => simp [putRecord]
  | cons r rs ih =>
    rw [putRecord]
    split_ifs with hpath
    · simp
    · rw [List.find?_cons_of_neg (by simpa using hpath)]
      exact ih

/-- The state a new engine makes of what the old one has persisted. -/
def restored (s : Engine K) (around : Surroundings) (serial : UInt64) (path : String) :
    PathState K :=
  let persisted := s.SyncProfile around serial path true
  (Engine.start persisted.profiles persisted.files).found serial path

omit [LinearOrder K] in
/-- The store behind an immediate save holds the path's record. -/
theorem profiles_SyncProfile (s : Engine K) (around : Surroundings) (serial : UInt64)
    (path : String) :
    (s.SyncProfile around serial path true).profiles serial = some (s.profileWith serial path) := by
  unfold Engine.SyncProfile
  dsimp only
  rw [if_neg (by simp)]
  split_ifs with hsaved
  · simp [Engine.put, Engine.Save, Engine.setProfile, hsaved]
  · simp [Engine.Save, Engine.setProfile, hsaved]

omit [LinearOrder K] in
/-- The state comes back as its record describes it. -/
theorem restored_eq {s : Engine K} {serial : UInt64} {path : String} {st : PathState K}
    (hst : s.states serial path = some st) (around : Surroundings) :
    restored s around serial path = (st.toRecord path).restore := by
  have hstate : s.state serial path = st := by rw [Engine.state, hst]; rfl
  have hfind : FindRecord (s.profileWith serial path) path = some (st.toRecord path) := by
    unfold FindRecord Engine.profileWith
    rw [hstate]
    exact findRecord_putRecord (st.toRecord path) _
  have hnone : (Engine.start (s.SyncProfile around serial path true).profiles
      (s.SyncProfile around serial path true).files).states serial path = none := rfl
  have hprofile : (Engine.start (s.SyncProfile around serial path true).profiles
      (s.SyncProfile around serial path true).files).GetOrCreate serial =
        s.profileWith serial path := by
    unfold Engine.GetOrCreate Engine.start
    rw [profiles_SyncProfile]
    rfl
  unfold restored Engine.found Engine.StateFor
  dsimp only
  rw [hnone]
  dsimp only
  rw [state_put, hprofile, hfind]

/-- No sample is taken yet, or at least two are and all were zero: the mean and the sum of squared
    deviations are zero. -/
def NothingToLose (st : PathState K) : Prop :=
  st.sample_count ≤ 1 ∧ st.rest = .fresh ∨ 1 < st.sample_count ∧ st.rest = ⟨st.sample_count, 0, 0⟩

/-- In every state a run reaches, persisting and restoring a path that is not ready gives back its
    accumulator, and with it what is learned from any further samples, exactly when no sample is
    taken yet or at least two are and all were zero. -/
theorem restored_rest_iff (sqrt : K → K) (hypot : K → K → K) {events : List (Event K)}
    {serial : UInt64} {path : String} {st : PathState K}
    (hst : (run sqrt hypot events).states serial path = some st) (hready : st.ready = false)
    (around : Surroundings) :
    let rest := (restored (run sqrt hypot events) around serial path).rest
    (rest = st.rest ∧ ∀ xs : List K,
        (xs.foldl WelfordUpdate rest).mean = (xs.foldl WelfordUpdate st.rest).mean ∧
          SampleStdDev sqrt (xs.foldl WelfordUpdate rest) =
            SampleStdDev sqrt (xs.foldl WelfordUpdate st.rest)) ↔
      NothingToLose st := by
  obtain ⟨hoffset, hstddev⟩ := notReady_unlearned sqrt hypot hst hready
  have hrest : (restored (run sqrt hypot events) around serial path).rest =
      if 1 < st.sample_count then ⟨st.sample_count, 0, 0⟩ else .fresh := by
    rw [restored_eq hst]
    simp only [LearnedPathRecord.restore, LearnedPathRecord.rest, PathState.toRecord, hoffset,
      hstddev, zero_mul]
  intro rest
  -- equal accumulators learn the same from the same samples
  rw [and_iff_left_of_imp fun heq xs => by rw [heq]; exact ⟨rfl, rfl⟩]
  change (restored (run sqrt hypot events) around serial path).rest = st.rest ↔ _
  rw [hrest, NothingToLose]
  split_ifs with hcount
  · simp [hcount, not_le.2 hcount, eq_comm]
  · simp [hcount, not_lt.1 hcount, eq_comm]

/-! ## A dial -/

/-- A world outside in which everything works. -/
def working : Surroundings := ⟨true, 1000000, 1, true⟩

/-- The snapshot of a dial with a value. -/
def dialBody (value : ℚ) : SnapshotBody ℚ where
  handle := 7
  device_serial_hash := 1
  partner_handle := 0
  path := "/input/dial"
  is_scalar := true
  is_boolean := false
  axis_role := 0
  scalar_type := kOpenVrScalarTypeAbsolute
  scalar_units := kOpenVrScalarUnitsNormalizedOneSided
  welford_count := 1
  last_value := value
  press_count := 0
  bounce_transition_count := 0
  bounce_max_interval_us := 0
  scalar_range_initialized := false
  observed_max := 0

/-- Ticks in a rest burst that see the dial at some values. -/
def dialEvents (values : List ℚ) : List (Event ℚ) :=
  .call (.setRestBurstActive true) ::
    values.map fun value => .call (.tick ⟨1000000, [dialBody value], fun _ _ => working⟩)

/-- A dial that rests at zero comes back as it was; the spreads are those of equal samples, and the
    square root of zero is zero. -/
theorem restored_rest_dial :
    (restored (run id (fun _ _ => 0) (dialEvents [0, 0])) working 1 "/input/dial").rest =
      ⟨2, 0, 0⟩ := by
  have hstate : ((run id (fun _ _ => 0) (dialEvents [0, 0])).states 1 "/input/dial").any
      (fun st => decide (st.ready = false ∧ st.sample_count = 2 ∧ st.rest = ⟨2, 0, 0⟩)) = true := by
    decide +kernel
  obtain ⟨st, hst, h⟩ := (Option.any_eq_true _ _).1 hstate
  obtain ⟨hready, hcount, hrest⟩ := of_decide_eq_true h
  have hlose : NothingToLose st := .inr ⟨by omega, by rw [hrest, hcount]⟩
  exact (((restored_rest_iff id (fun _ _ => 0) hst hready working).2 hlose).1).trans hrest

/-- A dial that rests at a hundredth comes back as one that rests at zero. -/
theorem restored_rest_lost :
    let s := run id (fun _ _ => 0) (dialEvents [0.01, 0.01])
    (s.states 1 "/input/dial").isSome = true ∧ (s.state 1 "/input/dial").ready = false ∧
      (s.state 1 "/input/dial").rest = ⟨2, 0.01, 0⟩ ∧
      (restored s working 1 "/input/dial").rest = ⟨2, 0, 0⟩ := by
  decide +kernel

end WKPairDriver.InputHealth.Learning
