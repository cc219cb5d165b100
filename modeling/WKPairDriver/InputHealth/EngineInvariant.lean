import WKPairDriver.InputHealth.LearningEngine

/-!
# Invariants of the learning engine

A property of path states, of records and of pushes is a discipline if it goes with a state into its
record and back, and allows to push what is not enabled or what a record holds as ready.

* `Discipline.Holds` — every state, every record and every push behind a mark has the property.
* `Holds.StateFor`, `Holds.SyncProfile`, `Holds.publish` — the operations the engine is made of keep
  it.
* `Holds.visitBoolean`, `Holds.visitScalar` — a visit keeps it when what the visit learns has the
  property.
* `Holds.apply` — so do the calls that learn nothing.
-/

set_option autoImplicit false

namespace WKPairDriver.InputHealth.Learning

variable {K : Type} [Field K] [LinearOrder K]

/-! ## Records and states -/

/-- A record that is put into a list is there, and the others were there before. -/
theorem mem_putRecord {F : Type} {record r : LearnedPathRecord F} {rs : List (LearnedPathRecord F)}
    (h : r ∈ putRecord record rs) : r = record ∨ r ∈ rs := by
  induction rs with
  | nil => exact .inl (List.mem_singleton.1 h)
  | cons q rs ih =>
    rw [putRecord] at h
    split_ifs at h
    · obtain rfl | h := List.mem_cons.1 h
      · exact .inl rfl
      · exact .inr (List.mem_cons_of_mem _ h)
    · obtain rfl | h := List.mem_cons.1 h
      · exact .inr List.mem_cons_self
      · exact (ih h).imp_right (List.mem_cons_of_mem _)

/-- The state of a path at the beginning of a visit. -/
def Engine.found (s : Engine K) (serial : UInt64) (path : String) : PathState K :=
  (s.StateFor serial path).state serial path

omit [LinearOrder K] in
@[simp] theorem state_put (s : Engine K) (serial : UInt64) (path : String) (st : PathState K) :
    (s.put serial path st).state serial path = st := by
  simp [Engine.state, Engine.put]

omit [LinearOrder K] in
@[simp] theorem state_enterBoolean (b : SnapshotBody K) (s : Engine K) :
    (enterBoolean b s).state b.device_serial_hash b.path =
      (s.found b.device_serial_hash b.path).withKind InputHealthCompBoolean :=
  state_put ..

section Scalars

variable (hypot : K → K → K) (t : TickInput K) (b : SnapshotBody K) (s : Engine K)

/-- What a visit of a scalar observes. -/
def observed (st : PathState K) : PathState K × Bool :=
  (st.trackPeak b).observeRest hypot t b (buttonsQuiet t b s)

/-- The state when the value is one at rest. -/
def rested (st : PathState K) : PathState K :=
  (observed hypot t b s st).1.takeRest s.rest_burst_active b.last_value

end Scalars

/-! ## Disciplines -/

/-- A property of states, records in profiles and in files, and pushes. -/
structure Discipline (K : Type) [Field K] [LinearOrder K] where
  state : UInt64 → String → PathState K → Prop
  record : UInt64 → LearnedPathRecord K → Prop
  file : UInt64 → LearnedPathRecord K → Prop
  push : UInt64 → String → Bool → Prop
  fresh : ∀ h p, state h p .fresh
  restore : ∀ h r, record h r → state h r.path r.restore
  toRecord : ∀ h p st, state h p st → record h (st.toRecord p)
  filed : ∀ h r, record h r → file h r
  persisted : ∀ h p st us, state h p st → state h p { st with last_persist_us := us }
  disabled : ∀ h p, push h p false
  ready : ∀ h r, record h r → r.ready = true → push h r.path true

namespace Discipline

/-- The property of an engine; pushes count from a mark on. -/
structure Holds (D : Discipline K) (mark : Nat) (s : Engine K) : Prop where
  states : ∀ h p st, s.states h p = some st → D.state h p st
  profiles : ∀ h profile, s.profiles h = some profile → ∀ r ∈ profile.learned_paths, D.record h r
  files : ∀ h file, s.files h = some file → ∀ r ∈ file.learned_paths, D.file h r
  pushed : ∀ e ∈ s.pushed.drop mark, D.push e.device_serial_hash e.path e.enabled

namespace Holds

variable {D : Discipline K} {mark : Nat} {s : Engine K} {serial : UInt64} {path : String}

/-! ## Operations -/

theorem state (h : D.Holds mark s) (serial : UInt64) (path : String) :
    D.state serial path (s.state serial path) := by
  unfold Engine.state
  cases hst : s.states serial path with
  | none => exact D.fresh serial path
  | some st => exact h.states serial path st hst

theorem GetOrCreate (h : D.Holds mark s) (serial : UInt64) :
    ∀ r ∈ (s.GetOrCreate serial).learned_paths, D.record serial r := by
  unfold Engine.GetOrCreate
  cases hp : s.profiles serial with
  | none => simp [DeviceProfile.fresh]
  | some profile => exact h.profiles serial profile hp

theorem put (h : D.Holds mark s) {st : PathState K} (hst : D.state serial path st) :
    D.Holds mark (s.put serial path st) where
  states k p st' hst' := by
    simp only [Engine.put] at hst'
    split_ifs at hst' with hkey
    · obtain ⟨rfl, rfl⟩ := hkey
      cases hst'
      exact hst
    · exact h.states k p st' hst'
  profiles := h.profiles
  files := h.files
  pushed := h.pushed

theorem setProfile (h : D.Holds mark s) {profile : DeviceProfile K}
    (hr : ∀ r ∈ profile.learned_paths, D.record serial r) :
    D.Holds mark (s.setProfile serial profile) where
  states := h.states
  profiles k profile' hp := by
    simp only [Engine.setProfile] at hp
    split_ifs at hp with hkey
    · subst hkey
      cases hp
      exact hr
    · exact h.profiles k profile' hp
  files := h.files
  pushed := h.pushed

theorem Save (h : D.Holds mark s) (around : Surroundings) {profile : DeviceProfile K}
    (hr : ∀ r ∈ profile.learned_paths, D.record serial r) :
    D.Holds mark (s.Save around serial profile) := by
  unfold Engine.Save
  split_ifs
  · exact {
      states := h.states
      profiles := (h.setProfile hr).profiles
      files := fun k file hf => by
        dsimp only at hf
        split_ifs at hf with hkey
        · subst hkey
          cases hf
          exact fun r hmem => D.filed k r (hr r hmem)
        · exact h.files k file hf
      pushed := h.pushed }
  · exact h

/-- A state is made of the path's record, or fresh. -/
theorem StateFor (h : D.Holds mark s) (serial : UInt64) (path : String) :
    D.Holds mark (s.StateFor serial path) := by
  unfold Engine.StateFor
  cases s.states serial path with
  | some st => exact h
  | none =>
    refine (h.setProfile (h.GetOrCreate serial)).put ?_
    cases hr : FindRecord (s.GetOrCreate serial) path with
    | none => exact D.fresh serial path
    | some r =>
      have hpath : r.path = path := by simpa using List.find?_some hr
      subst hpath
      exact D.restore serial r (h.GetOrCreate serial r (List.mem_of_find?_eq_some hr))

theorem SyncProfile (h : D.Holds mark s) (around : Surroundings) (serial : UInt64) (path : String)
    (immediate : Bool) : D.Holds mark (s.SyncProfile around serial path immediate) := by
  have hrecords : ∀ r ∈ (s.profileWith serial path).learned_paths, D.record serial r := by
    intro r hr
    obtain rfl | hr := mem_putRecord hr
    · exact D.toRecord serial path _ (h.state serial path)
    · exact h.GetOrCreate serial r hr
  have hsaved := (h.setProfile hrecords).Save around hrecords
  unfold Engine.SyncProfile
  dsimp only
  split_ifs
  · exact h
  · exact hsaved.put (D.persisted serial path _ _ (h.state serial path))
  · exact hsaved

theorem PushCompensation (h : D.Holds mark s) (around : Surroundings) (st : PathState K)
    {enabled : Bool} (hp : D.push serial path enabled) :
    D.Holds mark (s.PushCompensation around serial path st enabled) := by
  unfold Engine.PushCompensation
  split_ifs
  · refine ⟨h.states, h.profiles, h.files, fun e he => ?_⟩
    rw [List.drop_append, List.mem_append] at he
    obtain he | he := he
    · exact h.pushed e he
    · obtain rfl := List.mem_singleton.1 (List.mem_of_mem_drop he)
      change D.push serial path (enabled && (s.profiles serial).all (·.corrections_enabled))
      cases (s.profiles serial).all (·.corrections_enabled) with
      | false =>
        rw [Bool.and_false]
        exact D.disabled serial path
      | true =>
        rw [Bool.and_true]
        exact hp
  · exact h

theorem publish (h : D.Holds mark s) (around : Surroundings) {enabled : Bool}
    (hp : D.push serial path enabled) : D.Holds mark (s.publish around serial path enabled) :=
  (h.SyncProfile around serial path true).PushCompensation around _ hp

end Holds

namespace Holds

variable {D : Discipline K} {mark : Nat} {s : Engine K} {t : TickInput K} {b : SnapshotBody K}

theorem found (h : D.Holds mark s) (serial : UInt64) (path : String) :
    D.state serial path (s.found serial path) :=
  (h.StateFor serial path).state serial path

/-! ## Visits -/

theorem enterBoolean (h : D.Holds mark s)
    (hk : D.state b.device_serial_hash b.path
      ((s.found b.device_serial_hash b.path).withKind InputHealthCompBoolean)) :
    D.Holds mark (enterBoolean b s) :=
  (h.StateFor b.device_serial_hash b.path).put hk

theorem learnFromBounces (h : D.Holds mark s)
    (hl : (s.state b.device_serial_hash b.path).bounceLearns b = true →
      (∀ unixSeconds, D.state b.device_serial_hash b.path
        ((s.state b.device_serial_hash b.path).learnBounce b unixSeconds)) ∧
      D.push b.device_serial_hash b.path true) :
    D.Holds mark (learnFromBounces t b s) := by
  unfold Learning.learnFromBounces
  dsimp only
  split_ifs with hb
  · exact (h.put ((hl hb).1 _)).publish _ (hl hb).2
  · exact h

theorem unquiet (h : D.Holds mark s) : D.Holds mark (unquiet t b s) :=
  ⟨h.states, h.profiles, h.files, h.pushed⟩

theorem learnFromPresses (h : D.Holds mark s)
    (hc : (s.state b.device_serial_hash b.path).last_press_count < b.press_count →
      D.state b.device_serial_hash b.path
          ((s.state b.device_serial_hash b.path).countPress b t.now_us) ∧
        (((s.state b.device_serial_hash b.path).countPress b t.now_us).pressesLearn = true →
          (∀ unixSeconds, D.state b.device_serial_hash b.path
            (((s.state b.device_serial_hash b.path).countPress b t.now_us).learnPresses
              unixSeconds)) ∧
          D.push b.device_serial_hash b.path true)) :
    D.Holds mark (learnFromPresses t b s) := by
  unfold Learning.learnFromPresses
  dsimp only
  split_ifs with hcount hlearn
  · obtain ⟨hstate, hpush⟩ := (hc hcount).2 hlearn
    exact (h.unquiet.put (hstate _)).publish _ hpush
  · exact (h.unquiet.put (hc hcount).1).SyncProfile ..
  · exact h

theorem watchDrift (h : D.Holds mark s) {st : PathState K}
    (hst : D.state b.device_serial_hash b.path (st.withDriftSince t.now_us))
    (hno : D.state b.device_serial_hash b.path st.noDrift)
    (hrelearn : ∀ unixSeconds, D.state b.device_serial_hash b.path
      ((st.withDriftSince t.now_us).relearn t.now_us unixSeconds)) :
    D.Holds mark (watchDrift t b s st) := by
  unfold Learning.watchDrift
  dsimp only
  split_ifs
  · exact (h.put (hrelearn _)).publish _ (D.disabled ..)
  · exact h.put hst
  · exact h.put hno

variable {sqrt : K → K} {hypot : K → K → K}

theorem learnFromRest (h : D.Holds mark s) {st : PathState K}
    (hst : D.state b.device_serial_hash b.path st)
    (hl : st.restLearns sqrt b.path = true →
      (∀ unixSeconds, D.state b.device_serial_hash b.path
        (st.learnRest sqrt b.path unixSeconds)) ∧
      D.push b.device_serial_hash b.path true) :
    D.Holds mark (learnFromRest sqrt t b s st) := by
  unfold Learning.learnFromRest
  dsimp only
  split_ifs with hlearn
  · exact (h.put ((hl hlearn).1 _)).publish _ (hl hlearn).2
  · exact (h.put hst).SyncProfile ..

theorem observeScalar (h : D.Holds mark s) {st : PathState K}
    (hobs : D.state b.device_serial_hash b.path (observed hypot t b s st).1)
    (hready : (rested hypot t b s st).ready = true →
      D.state b.device_serial_hash b.path ((rested hypot t b s st).withDriftSince t.now_us) ∧
      D.state b.device_serial_hash b.path (rested hypot t b s st).noDrift ∧
      ∀ unixSeconds, D.state b.device_serial_hash b.path
        (((rested hypot t b s st).withDriftSince t.now_us).relearn t.now_us unixSeconds))
    (hlearn : (observed hypot t b s st).2 = true → (rested hypot t b s st).ready = false →
      D.state b.device_serial_hash b.path (rested hypot t b s st) ∧
      ((rested hypot t b s st).restLearns sqrt b.path = true →
        (∀ unixSeconds, D.state b.device_serial_hash b.path
          ((rested hypot t b s st).learnRest sqrt b.path unixSeconds)) ∧
        D.push b.device_serial_hash b.path true)) :
    D.Holds mark (observeScalar sqrt hypot t b s st) := by
  change D.Holds mark (if (observed hypot t b s st).2 = false then
    s.put b.device_serial_hash b.path (observed hypot t b s st).1
    else if (rested hypot t b s st).ready then Learning.watchDrift t b s (rested hypot t b s st)
    else Learning.learnFromRest sqrt t b s (rested hypot t b s st))
  split_ifs with hrest hr
  · exact h.put hobs
  · obtain ⟨hsince, hno, hrelearn⟩ := hready hr
    exact h.watchDrift hsince hno hrelearn
  · obtain ⟨hst, hl⟩ := hlearn (Bool.not_eq_false _ ▸ hrest) (Bool.not_eq_true _ ▸ hr)
    exact h.learnFromRest hst hl

end Holds

/-- Everything the visits make of a state of the path has the property again, and the path may be
    pushed as ready. -/
structure Learns (D : Discipline K) (sqrt : K → K) (serial : UInt64) (path : String) : Prop where
  withKind : ∀ st kind, D.state serial path st → D.state serial path (st.withKind kind)
  bounce : ∀ st b us, D.state serial path st → D.state serial path (st.learnBounce b us)
  press : ∀ st b us, D.state serial path st → D.state serial path (st.countPress b us)
  presses : ∀ st us, D.state serial path st → D.state serial path (st.learnPresses us)
  peak : ∀ st b, D.state serial path st → D.state serial path (st.trackPeak b)
  stableRest : ∀ st w, D.state serial path st → D.state serial path (st.withStableRest w)
  takeRest : ∀ st burst x, D.state serial path st → D.state serial path (st.takeRest burst x)
  driftSince : ∀ st us, D.state serial path st → D.state serial path (st.withDriftSince us)
  noDrift : ∀ st, D.state serial path st → D.state serial path st.noDrift
  relearn : ∀ st us unix, D.state serial path st → D.state serial path (st.relearn us unix)
  rest : ∀ st us, D.state serial path st → D.state serial path (st.learnRest sqrt path us)
  push : D.push serial path true

namespace Holds

variable {D : Discipline K} {mark : Nat} {s : Engine K} {t : TickInput K} {b : SnapshotBody K}
variable {sqrt : K → K} {hypot : K → K → K}

/-- The observation moves the stable-rest window of the state only. -/
theorem observed_state {serial : UInt64} {path : String} {st : PathState K} {quiet : Bool}
    (hstable : ∀ w, D.state serial path (st.withStableRest w)) (hst : D.state serial path st) :
    D.state serial path (st.observeRest hypot t b quiet).1 := by
  unfold PathState.observeRest
  split_ifs
  · cases t.entries.find? fun e => decide (e.handle = b.partner_handle) with
    | none => exact hstable _
    | some partner => exact hstable _
  · exact hstable _
  · exact hst

theorem visitBoolean (h : D.Holds mark s)
    (hl : D.Learns sqrt b.device_serial_hash b.path) : D.Holds mark (visitBoolean t b s) := by
  unfold Learning.visitBoolean
  split_ifs
  · have hk := h.enterBoolean (hl.withKind _ _ ((h.StateFor _ _).state _ _))
    have hb : D.Holds mark (Learning.learnFromBounces t b (Learning.enterBoolean b s)) :=
      hk.learnFromBounces fun _ => ⟨fun _ => hl.bounce _ _ _ (hk.state _ _), hl.push⟩
    refine hb.learnFromPresses fun _ => ?_
    have hcount := hl.press _ b t.now_us (hb.state _ _)
    exact ⟨hcount, fun _ => ⟨fun _ => hl.presses _ _ hcount, hl.push⟩⟩
  · exact h

theorem visitScalar (h : D.Holds mark s)
    (hl : D.Learns sqrt b.device_serial_hash b.path) :
    D.Holds mark (visitScalar sqrt hypot t b s) := by
  unfold Learning.visitScalar
  split_ifs
  · have hs := h.StateFor b.device_serial_hash b.path
    have hst : D.state b.device_serial_hash b.path (scalarState b s) :=
      hl.withKind _ _ (hs.state _ _)
    have hpeak := hl.peak _ b hst
    dsimp only
    split_ifs
    · have hobs : D.state b.device_serial_hash b.path (observed hypot t b
          (s.StateFor b.device_serial_hash b.path) (scalarState b s)).1 :=
        observed_state (fun w => hl.stableRest _ w hpeak) hpeak
      have hrest := hl.takeRest _ (s.StateFor b.device_serial_hash b.path).rest_burst_active
        b.last_value hobs
      have hsince := hl.driftSince _ t.now_us hrest
      exact hs.observeScalar hobs
        (fun _ => ⟨hsince, hl.noDrift _ hrest, fun _ => hl.relearn _ _ _ hsince⟩)
        fun _ _ => ⟨hrest, fun _ => ⟨fun _ => hl.rest _ _ hrest, hl.push⟩⟩
    · exact hs.put hst
  · exact h

/-! ## Calls that learn nothing -/

/-- A loop of steps that keep the property keeps it. -/
theorem foldl {A : Type} {f : Engine K → A → Engine K} {as : List A}
    (hf : ∀ a ∈ as, ∀ s, D.Holds mark s → D.Holds mark (f s a)) (h : D.Holds mark s) :
    D.Holds mark (as.foldl f s) := by
  induction as generalizing s with
  | nil => exact h
  | cons a as ih =>
    exact ih (fun b hb => hf b (List.mem_cons_of_mem _ hb)) (hf a List.mem_cons_self s h)

theorem eraseStates (h : D.Holds mark s) (gone : UInt64 → String → Bool) :
    D.Holds mark (s.eraseStates gone) where
  states k p st hst := by
    simp only [Engine.eraseStates] at hst
    split_ifs at hst
    exact h.states k p st hst
  profiles := h.profiles
  files := h.files
  pushed := h.pushed

theorem SetDeviceCorrectionsEnabled (h : D.Holds mark s) (around : Surroundings) (serial : UInt64)
    (enabled : Bool) : D.Holds mark (s.SetDeviceCorrectionsEnabled around serial enabled) := by
  have hrecords := h.GetOrCreate serial
  unfold Engine.SetDeviceCorrectionsEnabled
  dsimp only
  split_ifs
  · exact h
  · exact h.setProfile hrecords
  · have hprofile : ∀ r ∈ ({ s.GetOrCreate serial with
        corrections_enabled := enabled } : DeviceProfile K).learned_paths, D.record serial r :=
      hrecords
    refine foldl (fun r hr s hs => hs.PushCompensation around _ ?_)
      ((h.setProfile hprofile).Save around hprofile)
    have hrecord := hrecords r (List.mem_of_mem_filter hr)
    cases hready : r.ready with
    | false =>
      rw [Bool.and_false]
      exact D.disabled ..
    | true =>
      cases enabled with
      | false => exact D.disabled ..
      | true => exact D.ready serial r hrecord hready

theorem pushReadyProfile (h : D.Holds mark s) (around : Surroundings) (serial : UInt64) :
    D.Holds mark (s.pushReadyProfile around serial) := by
  unfold Engine.pushReadyProfile
  cases hp : s.profiles serial with
  | none => exact h
  | some profile =>
    dsimp only
    split_ifs
    · refine foldl (fun r hr s hs => hs.PushCompensation around _ ?_) h
      obtain ⟨hmem, hready⟩ := List.mem_filter.1 hr
      exact D.ready serial r (h.profiles serial profile hp r hmem) hready
    · exact h

theorem UnlearnPath (h : D.Holds mark s) (around : Surroundings) (serial : UInt64)
    (path : String) : D.Holds mark (s.UnlearnPath around serial path) := by
  unfold Engine.UnlearnPath
  dsimp only
  split_ifs
  · exact h
  · have hrecords : ∀ r ∈ (s.GetOrCreate serial).learned_paths.filter
        (fun record => !decide (record.path = path)), D.record serial r :=
      fun r hr => h.GetOrCreate serial r (List.mem_of_mem_filter hr)
    exact (((h.setProfile hrecords).Save around hrecords).eraseStates _).PushCompensation around _
      (D.disabled ..)

theorem UnlearnDevice (h : D.Holds mark s) (around : Surroundings) (serial : UInt64) :
    D.Holds mark (s.UnlearnDevice around serial) := by
  unfold Engine.UnlearnDevice
  dsimp only
  split_ifs
  · exact h
  · have hnone : ∀ r ∈ ({ s.GetOrCreate serial with
        learned_paths := [] } : DeviceProfile K).learned_paths, D.record serial r := by simp
    refine ((Holds.setProfile ?_ hnone).Save around hnone).eraseStates _
    exact foldl (fun r _ s hs => hs.PushCompensation around _ (D.disabled ..))
      (h.setProfile (h.GetOrCreate serial))

theorem Flush (h : D.Holds mark s) (around : UInt64 → String → Surroundings)
    (order : List (UInt64 × String)) : D.Holds mark (s.Flush around order) :=
  foldl (fun key _ s hs => by
    cases s.states key.1 key.2 with
    | none => exact hs
    | some st => exact hs.SyncProfile ..) h

/-- The calls keep the property if the ticks do. -/
theorem apply (h : D.Holds mark s) {c : Call K}
    (ht : ∀ t, c = .tick t → D.Holds mark (Tick sqrt hypot s t)) :
    D.Holds mark (s.apply sqrt hypot c) := by
  cases c with
  | tick t => exact ht t rfl
  | setRestBurstActive active => exact ⟨h.states, h.profiles, h.files, h.pushed⟩
  | setDeviceCorrectionsEnabled around serial enabled =>
    exact h.SetDeviceCorrectionsEnabled around serial enabled
  | pushReadyCompensations around order =>
    exact foldl (fun serial _ s hs => hs.pushReadyProfile around serial) h
  | unlearnPath around serial path => exact h.UnlearnPath around serial path
  | unlearnDevice around serial => exact h.UnlearnDevice around serial
  | flush around order => exact h.Flush around order

/-- A tick keeps the property if every visit does. -/
theorem Tick (h : D.Holds mark s) (hl : ∀ serial path, D.Learns sqrt serial path)
    (t : TickInput K) : D.Holds mark (Tick sqrt hypot s t) :=
  foldl (fun v _ s hs => by
    cases v with
    | boolean b => exact hs.visitBoolean (hl _ _)
    | scalar b => exact hs.visitScalar (hl _ _)) h

end Holds

end Discipline

end WKPairDriver.InputHealth.Learning
