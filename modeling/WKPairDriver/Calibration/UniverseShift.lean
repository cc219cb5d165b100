import Mathlib
import WKPairDriver.Calibration.Relocalization

/-!
# Universe shifts over whole runs

A tracking system whose base stations move by common rigid motions only: at every tick each of its
stations is seen where the universe of the system puts it.  One of the stored calibrations is
followed through ticks in any states and through solves, together with the universes since it was
last solved or corrected.

The cache of the detector is as old as the last tick that ran it.  A solve in between is not noticed
by the detector; apart from that a shift it applies is new to the calibration, and a shift it sees
is applied unless a threshold or the throttle holds it back.

* `mem_systemDeltas` — every delta is the motion of the universe since the cache was written.
* `universeShift_compensated` — over whole runs.
* `throttledShift_dropped` — a second shift within five seconds is lost.
-/

set_option autoImplicit false

namespace WKPairDriver.Calibration.Recovery

open Lib

variable {G V K : Type}

/-! ## Following a calibration -/

inductive CalibrationSlot where
  | primary
  | additional (i : ℕ)
deriving DecidableEq

/-- A shift of the system is applied to the calibration. -/
def Calibrations.isHitBy (c : Calibrations G) (system : String) : CalibrationSlot → Bool
  | .primary => system == c.referenceTrackingSystem || system == c.targetTrackingSystem
  | .additional i =>
    match c.additionalCalibrations[i]? with
    | none => false
    | some extra =>
      extra.valid && (system == c.referenceTrackingSystem || extra.targetTrackingSystem == system)

def Calibrations.set (c : Calibrations G) (value : G) : CalibrationSlot → Calibrations G
  | .primary => { c with calibrated := value }
  | .additional i =>
    { c with
      additionalCalibrations :=
        c.additionalCalibrations.modify i fun extra => { extra with calibrated := value } }

theorem Calibrations.involves_of_isHitBy {c : Calibrations G} {system : String}
    {slot : CalibrationSlot} (h : c.isHitBy system slot = true) : c.involves system = true := by
  unfold isHitBy at h
  unfold involves
  cases slot with
  | primary => exact Bool.or_eq_true_iff.2 (.inl h)
  | additional i =>
    dsimp only at h
    cases hget : c.additionalCalibrations[i]? with
    | none => simp [hget] at h
    | some extra =>
      simp only [hget, Bool.and_eq_true, Bool.or_eq_true] at h
      obtain ⟨hvalid, href | htarget⟩ := h
      · simp [href]
      · have hmem : extra ∈ c.additionalCalibrations := List.mem_of_getElem? hget
        have hany : (c.additionalCalibrations.any fun extra =>
            extra.valid && extra.targetTrackingSystem == system) = true :=
          List.any_eq_true.2 ⟨extra, hmem, by rw [hvalid, htarget]; rfl⟩
        rw [hany, Bool.or_true]

variable [Group G] [AddGroup V] [Field K] [LinearOrder K]

/-- The detectors, where the universe of the system is now and was when the cache was written, where
    it has been since the calibration was last solved or corrected, and whether that calibration was
    solved since the cache was written. -/
structure ShiftWatch (G V K : Type) where
  recovery : RecoverySystem G V K
  origin : G
  cachedOrigin : G
  sinceSettled : List G
  solvedSinceCached : Bool

def watchStart (calibrations : Calibrations G) : ShiftWatch G V K where
  recovery := recoveryStart calibrations
  origin := 1
  cachedOrigin := 1
  sinceSettled := [1]
  solvedSinceCached := false

inductive ShiftEvent (G V K : Type) where
  /-- A tick, with the origin of the system's universe at that time. -/
  | tick (t : RecoveryTick G V K) (origin : G)
  /-- A one-shot or continuous solve of a calibration. -/
  | solve (slot : CalibrationSlot) (value : G)

variable (geo : RigidGeometry G V K) (system : String) (slot : CalibrationSlot)

def ShiftWatch.ticked (w : ShiftWatch G V K) (t : RecoveryTick G V K) (origin : G) :
    ShiftWatch G V K :=
  let corrected := w.recovery.calibrations.isHitBy system slot &&
    (CalibrationTick geo w.recovery t).2.2.any fun shift => shift.1 == system
  { recovery := (CalibrationTick geo w.recovery t).1
    origin := origin
    cachedOrigin := if t.refreshes then origin else w.cachedOrigin
    sinceSettled := if corrected then [origin] else origin :: w.sinceSettled
    solvedSinceCached := if t.refreshes then false else w.solvedSinceCached }

def ShiftWatch.solved (w : ShiftWatch G V K) (slot' : CalibrationSlot) (value : G) :
    ShiftWatch G V K :=
  { w with
    recovery := { w.recovery with calibrations := w.recovery.calibrations.set value slot' }
    sinceSettled := if slot' = slot then [w.origin] else w.sinceSettled
    solvedSinceCached := w.solvedSinceCached || decide (slot' = slot) }

def shiftStep (w : ShiftWatch G V K) : ShiftEvent G V K → Option (ShiftWatch G V K)
  | .tick t origin => some (w.ticked geo system slot t origin)
  | .solve slot' value => some (w.solved slot slot' value)

/-- The stations of the system are where its universe puts them. -/
def Rigid (station : String → G) (_ : ShiftWatch G V K) : ShiftEvent G V K → Prop
  | .tick t origin => ∀ obs ∈ observations t.devicePoses, obs.system = system →
      obs.pose = origin * station obs.serial
  | .solve _ _ => True

/-- The deltas the detector computes at a tick. -/
def deltasAt (w : ShiftWatch G V K) (t : RecoveryTick G V K) : List G :=
  systemDeltas w.recovery.drift.baseStationCache (observations t.devicePoses) system

/-- What the detector applies is the motion since a tick behind the last solve or correction of the
    calibration, and a motion it sees is applied. -/
def Compensated (w : ShiftWatch G V K) : ShiftEvent G V K → Prop
  | .tick t origin =>
    w.recovery.calibrations.isHitBy system slot = true →
      (∀ D, (system, D) ∈ (CalibrationTick geo w.recovery t).2.2 →
        ∃ v ∈ w.sinceSettled, D = origin * v⁻¹) ∧
      (t.refreshes = true → deltasAt system w t ≠ [] → origin ≠ w.cachedOrigin →
        (system, origin * w.cachedOrigin⁻¹) ∈ (CalibrationTick geo w.recovery t).2.2)
  | .solve _ _ => True

/-- The motion passes the thresholds, and the throttle is not on. -/
def Accepts (w : ShiftWatch G V K) (t : RecoveryTick G V K) (D : G) : Prop :=
  ¬t.time - w.recovery.drift.lastBaseStationShiftAcceptedTime < kBsThrottleSec ∧
    exceeds geo D kBsDeltaSignificanceTransM kBsDeltaSignificanceRotRad = true ∧
    (2 ≤ (deltasAt system w t).length ∨
      ¬(geo.norm (geo.translation D) < kBsSingleTransM ∧ geo.angleRad D < kBsSingleRotRad))

/-- The same for a calibration that was not solved since the cache was written, and for a motion
    that is accepted. -/
def CompensatedByDesign (w : ShiftWatch G V K) : ShiftEvent G V K → Prop
  | .tick t origin =>
    w.recovery.calibrations.isHitBy system slot = true → w.solvedSinceCached = false →
      (∀ D, (system, D) ∈ (CalibrationTick geo w.recovery t).2.2 →
        ∃ v ∈ w.sinceSettled, D = origin * v⁻¹) ∧
      (t.refreshes = true → deltasAt system w t ≠ [] →
        Accepts geo system w t (origin * w.cachedOrigin⁻¹) →
        (system, origin * w.cachedOrigin⁻¹) ∈ (CalibrationTick geo w.recovery t).2.2)
  | .solve _ _ => True

/-! ## The shifts of a tick -/

variable {geo system slot} {w : ShiftWatch G V K} {t : RecoveryTick G V K}

omit [Group G] [AddGroup V] [Field K] [LinearOrder K] in
theorem mem_systemsOf {current : List (Observation G)} :
    system ∈ systemsOf current ↔ ∃ obs ∈ current, obs.system = system := by
  simp [systemsOf, List.mem_insertionSort]

theorem mem_acceptedShifts {s : DriftState G K} {c : Calibrations G}
    {current : List (Observation G)} {now : K} {D : G} :
    (system, D) ∈ acceptedShifts geo s c current now ↔
      (∃ obs ∈ current, obs.system = system) ∧ c.involves system = true ∧
        ¬now - s.lastBaseStationShiftAcceptedTime < kBsThrottleSec ∧
        acceptedDelta geo (systemDeltas s.baseStationCache current system) = some D := by
  unfold acceptedShifts
  rw [List.mem_filterMap]
  constructor
  · rintro ⟨system', hmem, hsome⟩
    split_ifs at hsome with hguard
    obtain ⟨D', hD', hpair⟩ := Option.map_eq_some_iff.1 hsome
    obtain ⟨rfl, rfl⟩ := Prod.mk.inj hpair
    simp only [Bool.and_eq_true, Bool.not_eq_true', decide_eq_false_iff_not] at hguard
    exact ⟨mem_systemsOf.1 hmem, hguard.1, hguard.2, hD'⟩
  · rintro ⟨hseen, hinvolves, hthrottle, hD⟩
    refine ⟨system, mem_systemsOf.2 hseen, ?_⟩
    rw [if_pos (by simp [hinvolves, hthrottle]), hD]
    rfl

/-- A tick that does not write the cache shifts nothing, any other what the detector accepts. -/
theorem mem_CalibrationTick_shifts {D : G} :
    (system, D) ∈ (CalibrationTick geo w.recovery t).2.2 ↔
      t.refreshes = true ∧ (system, D) ∈ acceptedShifts geo w.recovery.drift
        w.recovery.calibrations (observations t.devicePoses) t.time := by
  unfold CalibrationTick RecoveryTick.refreshes
  cases hruns : t.runsDrift with
  | false => simp
  | true =>
    cases hactive : t.cfg.active with
    | false => simp [TickBaseStationDriftImpl_inactive geo hactive]
    | true =>
      simp only [if_true, TickBaseStationDriftImpl_shifts geo hactive, Bool.and_self, true_and]
      split_ifs <;> rfl

/-! ## The invariant -/

variable (system) in
/-- The cache holds the stations where they were when it was written, and that is a time behind the
    last solve or correction unless a solve went unnoticed. -/
structure Watched (station : String → G) (w : ShiftWatch G V K) : Prop where
  cache : ∀ serial e, w.recovery.drift.baseStationCache serial = some e →
    e.trackingSystem = system → e.pose = w.cachedOrigin * station serial
  settled : w.solvedSinceCached = false → w.cachedOrigin ∈ w.sinceSettled

variable {station : String → G} {origin : G}

omit [LinearOrder K] in
theorem Watched.start (calibrations : Calibrations G) :
    Watched system station (watchStart calibrations : ShiftWatch G V K) where
  cache serial e h := by cases h
  settled _ := List.mem_singleton.2 rfl

omit [AddGroup V] [Field K] [LinearOrder K] in
/-- **Every delta** of the system is the motion of its universe since the cache was written. -/
theorem mem_systemDeltas (hw : Watched system station w)
    (hr : Rigid system station w (.tick t origin)) {D : G} (hD : D ∈ deltasAt system w t) :
    D = origin * w.cachedOrigin⁻¹ := by
  obtain ⟨obs, hobs, hsome⟩ := List.mem_filterMap.1 hD
  obtain ⟨hmem, hsystem⟩ := List.mem_filter.1 hobs
  cases hcache : w.recovery.drift.baseStationCache obs.serial with
  | none => simp [hcache] at hsome
  | some e =>
    simp only [hcache] at hsome
    split_ifs at hsome with hsame
    obtain rfl := Option.some.inj hsome
    rw [hr obs hmem (beq_iff_eq.1 hsystem), hw.cache obs.serial e hcache hsame]
    group

theorem Watched.tick (hw : Watched system station w)
    (hr : Rigid system station w (.tick t origin)) :
    Watched system station (w.ticked geo system slot t origin) where
  cache serial e he hsystem := by
    rw [ShiftWatch.ticked, CalibrationTick_cache] at he
    show e.pose = (if t.refreshes then origin else w.cachedOrigin) * station serial
    split_ifs at he ⊢ with hrefresh
    · obtain ⟨obs, hmem, rfl, hsys, hpose⟩ := refreshed_eq_some he
      rw [← hpose]
      exact hr obs hmem (hsys.trans hsystem)
    · exact hw.cache serial e he hsystem
  settled hsolved := by
    simp only [ShiftWatch.ticked] at hsolved ⊢
    cases hrefresh : t.refreshes with
    | true =>
      rw [if_pos rfl]
      split_ifs <;> simp
    | false =>
      -- the detector did not run, so nothing was corrected
      have hnone : (CalibrationTick geo w.recovery t).2.2.any (fun shift => shift.1 == system) =
          false := by
        rw [List.any_eq_false]
        rintro ⟨system', D⟩ hD
        rw [mem_CalibrationTick_shifts, hrefresh] at hD
        exact absurd hD.1 (by decide)
      rw [hnone, Bool.and_false]
      rw [hrefresh] at hsolved
      exact List.mem_cons_of_mem _ (hw.settled hsolved)

omit [AddGroup V] [Field K] [LinearOrder K] in
theorem Watched.solve (hw : Watched system station w) (slot' : CalibrationSlot) (value : G) :
    Watched system station (w.solved slot slot' value) where
  cache := hw.cache
  settled hsolved := by
    obtain ⟨hbefore, hne⟩ := Bool.or_eq_false_iff.1 hsolved
    show w.cachedOrigin ∈ if slot' = slot then [w.origin] else w.sinceSettled
    rw [if_neg (of_decide_eq_false hne)]
    exact hw.settled hbefore

theorem Watched.step (hw : Watched system station w) {e : ShiftEvent G V K}
    (hr : Rigid system station w e) {w' : ShiftWatch G V K}
    (hs : shiftStep geo system slot w e = some w') : Watched system station w' := by
  cases e with
  | tick t origin =>
    obtain rfl := Option.some.inj hs
    exact hw.tick hr
  | solve slot' value =>
    obtain rfl := Option.some.inj hs
    exact hw.solve slot' value

/-! ## Accepted shifts -/

omit [Group G] in
theorem head?_eq_some_of_forall {deltas : List G} {D : G} (hne : deltas ≠ [])
    (hall : ∀ d ∈ deltas, d = D) : deltas.head? = some D := by
  cases deltas with
  | nil => exact absurd rfl hne
  | cons d ds => rw [List.head?_cons, hall d List.mem_cons_self]

/-- A single rotation or translation of zero exceeds no threshold. -/
theorem not_exceeds_one [IsStrictOrderedRing K] :
    exceeds geo 1 kBsConsensusTransM kBsConsensusRotRad = false := by
  have htrans : (0 : K) ≤ kBsConsensusTransM := by unfold kBsConsensusTransM; norm_num
  have hrot : (0 : K) ≤ kBsConsensusRotRad := by
    unfold kBsConsensusRotRad EIGEN_PI
    norm_num
  simp [exceeds, geo.translation_one, geo.norm_zero, geo.angleRad_one, htrans, hrot]

/-- Deltas that are all the same agree; a single one has to be substantial. -/
theorem consensus_of_forall [IsStrictOrderedRing K] {deltas : List G} {D : G}
    (hall : ∀ d ∈ deltas, d = D)
    (hsize : 2 ≤ deltas.length ∨
      ¬(geo.norm (geo.translation D) < kBsSingleTransM ∧ geo.angleRad D < kBsSingleRotRad)) :
    consensus geo deltas = true := by
  match deltas, hall, hsize with
  | [], _, _ => rfl
  | [only], hall, hsize =>
    obtain rfl : only = D := hall only List.mem_cons_self
    have hbig := hsize.resolve_left (by simp)
    simp only [consensus, Bool.not_eq_true', ← Bool.not_eq_true, Bool.and_eq_true,
      decide_eq_true_eq]
    exact hbig
  | ref :: d :: ds, hall, _ =>
    show ((d :: ds).all fun d => !exceeds geo (d * ref⁻¹) kBsConsensusTransM kBsConsensusRotRad) =
      true
    rw [List.all_eq_true]
    intro d' hd'
    rw [hall d' (List.mem_cons_of_mem _ hd'), hall ref List.mem_cons_self, mul_inv_cancel,
      not_exceeds_one]
    rfl

theorem acceptedDelta_of_forall [IsStrictOrderedRing K] {deltas : List G} {D : G}
    (hne : deltas ≠ []) (hall : ∀ d ∈ deltas, d = D)
    (hsignificant : exceeds geo D kBsDeltaSignificanceTransM kBsDeltaSignificanceRotRad = true)
    (hsize : 2 ≤ deltas.length ∨
      ¬(geo.norm (geo.translation D) < kBsSingleTransM ∧ geo.angleRad D < kBsSingleRotRad)) :
    acceptedDelta geo deltas = some D := by
  have hhead := head?_eq_some_of_forall hne hall
  have hany : anySignificant geo deltas = true :=
    List.any_eq_true.2 ⟨D, List.mem_of_mem_head? hhead, hsignificant⟩
  rw [acceptedDelta, hany, consensus_of_forall hall hsize]
  exact hhead

/-- What is accepted is one of the deltas. -/
theorem mem_of_acceptedDelta {deltas : List G} {D : G} (h : acceptedDelta geo deltas = some D) :
    D ∈ deltas := by
  unfold acceptedDelta at h
  split_ifs at h
  exact List.mem_of_mem_head? h

theorem CompensatedByDesign.of_watched [IsStrictOrderedRing K] (hw : Watched system station w)
    {e : ShiftEvent G V K} (hr : Rigid system station w e) :
    CompensatedByDesign geo system slot w e := by
  cases e with
  | solve slot' value => trivial
  | tick t origin =>
    intro hhit hsolved
    refine ⟨fun D hD => ⟨w.cachedOrigin, hw.settled hsolved, ?_⟩, fun hrefresh hne haccepts => ?_⟩
    · obtain ⟨_, _, _, hdelta⟩ := mem_acceptedShifts.1 (mem_CalibrationTick_shifts.1 hD).2
      exact mem_systemDeltas hw hr (mem_of_acceptedDelta hdelta)
    · obtain ⟨hthrottle, hsignificant, hsize⟩ := haccepts
      have hseen : ∃ obs ∈ observations t.devicePoses, obs.system = system := by
        obtain ⟨d, hd⟩ := List.exists_mem_of_ne_nil _ hne
        obtain ⟨obs, hobs, _⟩ := List.mem_filterMap.1 hd
        obtain ⟨hmem, hsystem⟩ := List.mem_filter.1 hobs
        exact ⟨obs, hmem, beq_iff_eq.1 hsystem⟩
      exact mem_CalibrationTick_shifts.2 ⟨hrefresh, mem_acceptedShifts.2
        ⟨hseen, Calibrations.involves_of_isHitBy hhit, hthrottle,
          acceptedDelta_of_forall hne (fun d hd => mem_systemDeltas hw hr hd) hsignificant hsize⟩⟩

variable (geo system slot) in
/-- **Universe shifts are compensated** in every run of a system whose stations move by common rigid
    motions. -/
theorem universeShift_compensated [IsStrictOrderedRing K] (station : String → G)
    (calibrations : Calibrations G) (es : List (ShiftEvent G V K))
    (h : AllSteps (shiftStep geo system slot) (Rigid system station) (watchStart calibrations) es) :
    AllSteps (shiftStep geo system slot) (CompensatedByDesign geo system slot)
      (watchStart calibrations) es :=
  AllSteps.of_inv (fun _ _ _ hw hr hs => hw.step hr hs) (fun _ _ _ hw hr _ => .of_watched hw hr)
    (Watched.start calibrations) h

/-! ## Runs on a line -/

/-- The room with its stations moved by `x`, and the headset at `x`. -/
def shiftedRoom (x : ℚ) : DevicePoses (Multiplicative ℚ) ℚ := fun id =>
  { room x false id with pose := .ofAdd x * (room 0 false id).pose }

def shiftTick (time : ℚ) (state : CalibrationState) (x : ℚ) : ShiftEvent (Multiplicative ℚ) ℚ ℚ :=
  .tick { tickIn time state x false with devicePoses := shiftedRoom x } (.ofAdd x)

/-- Where the two stations stand. -/
def stationAt (serial : String) : Multiplicative ℚ := .ofAdd (if serial = "LHB-2" then 1 else 0)

instance (w : ShiftWatch (Multiplicative ℚ) ℚ ℚ) (e : ShiftEvent (Multiplicative ℚ) ℚ ℚ) :
    Decidable (Rigid "lighthouse" stationAt w e) := by
  cases e <;> unfold Rigid <;> infer_instance

/-- Two shifts of twenty centimetres, six seconds apart, with a solve in between. -/
theorem universeShift_compensated_twice :
    AllSteps (shiftStep line "lighthouse" .primary)
      (CompensatedByDesign line "lighthouse" .primary) (watchStart stored)
      [shiftTick 1.0 .None 0, shiftTick 2.0 .None 0.2, .solve .primary (.ofAdd 1),
       shiftTick 7.0 .None 0.2, shiftTick 8.0 .None 0.4] :=
  universeShift_compensated line "lighthouse" .primary stationAt stored _ (by decide +kernel)

/-- The second of two shifts that are two seconds apart. -/
theorem throttledShift_dropped :
    AllSteps (shiftStep line "lighthouse" .primary) (Rigid "lighthouse" stationAt)
      (watchStart stored)
      [shiftTick 1.0 .None 0, shiftTick 2.0 .None 0.2, shiftTick 4.0 .None 0.4] ∧
    ¬AllSteps (shiftStep line "lighthouse" .primary) (Compensated line "lighthouse" .primary)
      (watchStart stored)
      [shiftTick 1.0 .None 0, shiftTick 2.0 .None 0.2, shiftTick 4.0 .None 0.4] := by
  refine ⟨by decide +kernel, fun h => ?_⟩
  have hthird := (((h _ rfl).2 _ rfl).2 _ rfl).1
  have happlied := (hthird (by decide +kernel)).2 (by decide +kernel) (by decide +kernel)
    (by decide +kernel)
  exact absurd happlied (by decide +kernel)

end WKPairDriver.Calibration.Recovery
