import Mathlib
import WKPairDriver.Driver.FallbackMap
import WKPairDriver.Lib.Run

/-!
# The publication of tracking-system fallbacks

The overlay next to the driver: what `ScanAndApplyProfile` sends of the calibration of the target
system and of the additional ones, through a cache per system that drops a message equal to the one
sent last, and the message that disables the fallback of a target system that was left, which goes
past the cache.

* `CalibrationContext.current` — the fallbacks that the driver should hold.
* `publish_spec` — where no message is dropped that the driver has lost, all of them are held after
  the sends.
* `scans_published` — over every run of scans, of which no step loses or keeps a fallback it should
  not.
* `returnedTarget_dropped` — a target system that is left and taken up again stays disabled.
-/

set_option autoImplicit false

namespace WKPairDriver.Calibration.FallbackPublication

open Lib Lib.Bytes Driver

variable {T E V Q S P : Type}

/-! ## The context -/

/-- A calibration in the units of the profile: `T` centimetres, `E` degrees. -/
structure AdditionalCalibration (T E S : Type) where
  targetTrackingSystem : List UInt8
  calibratedTranslation : T
  calibratedRotation : E
  calibratedScale : S
  enabled : Bool
  valid : Bool

structure CalibrationContext (T E S : Type) where
  validProfile : Bool
  targetTrackingSystem : List UInt8
  calibratedTranslation : T
  calibratedRotation : E
  calibratedScale : S
  recalibrateOnMovement : Bool
  additionalCalibrations : List (AdditionalCalibration T E S)

/-- From the units of the profile to those of the driver: metres, and the product of the rotations
    about the axes. -/
structure ProfileUnits (T E V Q : Type) where
  metres : T → V
  rotQuat : E → Q

/-! ## The overlay -/

/-- The payload of `SendFallbackIfChanged`, in which the name is cut to leave room for a NUL.  The
    smoothness is 0 in all of them. -/
def fallbackPayload (u : ProfileUnits T E V Q) (systemName : List UInt8) (enabled : Bool)
    (translationCm : T) (rotation : E) (scale : S) (recalibrateOnMovement : Bool) :
    SetTrackingSystemFallback V Q S where
  system_name := nulPadded (systemName.take (MaxTrackingSystemNameLen - 1))
  enabled := enabled
  translation := u.metres translationCm
  rotation := u.rotQuat rotation
  scale := scale
  recalibrateOnMovement := recalibrateOnMovement

/-- The payload that disables the fallback of a target system that was left. -/
def disablePayload (m : PoseMath V Q S P) (systemName : List UInt8) :
    SetTrackingSystemFallback V Q S where
  system_name := nulPadded (systemName.take (MaxTrackingSystemNameLen - 1))
  enabled := false
  translation := m.identity.translation
  rotation := m.identity.rotation
  scale := m.one
  recalibrateOnMovement := false

/-- The statics of the profile application.  `g_lastFallback` is `none` where it is `{}`. -/
structure Overlay (V Q S : Type) where
  g_lastFallbacksBySystem : List UInt8 → Option (SetTrackingSystemFallback V Q S)
  g_lastFallback : Option (SetTrackingSystemFallback V Q S)
  g_lastFallbackSent : Bool
  g_lastTargetSystem : List UInt8
  g_lastEnabled : Bool

def Overlay.start : Overlay V Q S := ⟨fun _ => none, none, false, [], false⟩

/-- What becomes of a message. -/
inductive Output (V Q S : Type) where
  | sent (msg : SetTrackingSystemFallback V Q S)
  /-- It is the message cached for its system. -/
  | suppressed (msg : SetTrackingSystemFallback V Q S)

/-- What a scan goes through: the primary calibration, then the additional ones, each with the name
    of its system. -/
def CalibrationContext.published (u : ProfileUnits T E V Q) (ctx : CalibrationContext T E S) :
    List (List UInt8 × SetTrackingSystemFallback V Q S) :=
  (if ctx.validProfile && !ctx.targetTrackingSystem.isEmpty then
    [(ctx.targetTrackingSystem,
      fallbackPayload u ctx.targetTrackingSystem true ctx.calibratedTranslation
        ctx.calibratedRotation ctx.calibratedScale ctx.recalibrateOnMovement)]
  else []) ++
  (ctx.additionalCalibrations.filter fun extra =>
    extra.enabled && extra.valid && !extra.targetTrackingSystem.isEmpty &&
      extra.targetTrackingSystem != ctx.targetTrackingSystem).map fun extra =>
    (extra.targetTrackingSystem,
      fallbackPayload u extra.targetTrackingSystem true extra.calibratedTranslation
        extra.calibratedRotation extra.calibratedScale ctx.recalibrateOnMovement)

namespace Overlay

variable (o : Overlay V Q S)

/-- `InvalidateAllTransformCaches`, of which the rest is about single devices. -/
def InvalidateAllTransformCaches : Overlay V Q S := { o with g_lastFallbackSent := false }

/-- The scan disables the fallback of the last target system. -/
def disables (ctx : CalibrationContext T E S) : Bool :=
  ctx.targetTrackingSystem != o.g_lastTargetSystem && !o.g_lastTargetSystem.isEmpty &&
    o.g_lastFallbackSent && o.g_lastFallback.any (·.enabled)

variable [DecidableEq V] [DecidableEq Q] [DecidableEq S]

/-- The end of `SendFallbackIfChanged`. -/
def SendFallbackIfChanged (systemName : List UInt8) (payload : SetTrackingSystemFallback V Q S) :
    Overlay V Q S × Output V Q S :=
  if o.g_lastFallbacksBySystem systemName = some payload then (o, .suppressed payload)
  else
    ({ o with
        g_lastFallbacksBySystem :=
          Function.update o.g_lastFallbacksBySystem systemName (some payload)
        g_lastFallback := some payload
        g_lastFallbackSent := true },
      .sent payload)

def publish : Overlay V Q S → List (List UInt8 × SetTrackingSystemFallback V Q S) →
    Overlay V Q S × List (Output V Q S)
  | o, [] => (o, [])
  | o, (systemName, payload) :: rest =>
    let r := o.SendFallbackIfChanged systemName payload
    let q := publish r.1 rest
    (q.1, r.2 :: q.2)

/-- The part of `ScanAndApplyProfile` that is about fallbacks.  A call without SteamVR returns
    before it. -/
def ScanAndApplyProfile (m : PoseMath V Q S P) (u : ProfileUnits T E V Q)
    (ctx : CalibrationContext T E S) : Overlay V Q S × List (Output V Q S) :=
  let enabled := ctx.validProfile
  let targetSystemChanged := ctx.targetTrackingSystem != o.g_lastTargetSystem
  let disabled := if o.disables ctx then [.sent (disablePayload m o.g_lastTargetSystem)] else []
  let o :=
    if targetSystemChanged || enabled != o.g_lastEnabled then
      { o.InvalidateAllTransformCaches with
        g_lastTargetSystem := ctx.targetTrackingSystem
        g_lastEnabled := enabled }
    else o
  let r := o.publish (ctx.published u)
  (r.1, disabled ++ r.2)

end Overlay

/-! ## The driver -/

/-- The enabled fallbacks with the names of their systems. -/
def enabledFallbacks (p : Provider V Q S) : Set (List UInt8 × FallbackTransform V Q S) :=
  {x | ∃ i, ((p.systemFallbacks i).occupied = true ∧
    nameOf (p.systemFallbacks i).system_name = x.1) ∧ (p.systemFallbacks i).tf = x.2 ∧
      x.2.enabled = true}

instance [DecidableEq V] [DecidableEq Q] [DecidableEq S] (p : Provider V Q S)
    (x : List UInt8 × FallbackTransform V Q S) : Decidable (x ∈ enabledFallbacks p) :=
  inferInstanceAs (Decidable (∃ _, _))

/-- The driver, with the suppressed messages that it did not hold. -/
structure Receiver (V Q S : Type) where
  driver : Provider V Q S
  missed : List (SetTrackingSystemFallback V Q S)

variable [DecidableEq V] [DecidableEq Q] [DecidableEq S]

def Receiver.receive (m : PoseMath V Q S P) (now : ℤ) (r : Receiver V Q S) :
    Output V Q S → Receiver V Q S
  | .sent msg => { r with driver := r.driver.setTrackingSystemFallback m msg now }
  | .suppressed msg =>
    if (nameOf msg.system_name, msg.payload) ∈ enabledFallbacks r.driver then r
    else { r with missed := msg :: r.missed }

/-! ## Runs -/

/-- The fallbacks of the calibrations that are in use: the primary one of an enabled profile, and
    the valid and enabled additional ones of other systems than that. -/
def CalibrationContext.current (u : ProfileUnits T E V Q) (ctx : CalibrationContext T E S) :
    List (List UInt8 × FallbackTransform V Q S) :=
  let primary := ctx.validProfile && !ctx.targetTrackingSystem.isEmpty
  (if primary then
    [(ctx.targetTrackingSystem,
      ⟨true, ⟨u.metres ctx.calibratedTranslation, u.rotQuat ctx.calibratedRotation⟩,
        ctx.calibratedScale, ctx.recalibrateOnMovement⟩)]
  else []) ++
  (ctx.additionalCalibrations.filter fun extra =>
    extra.enabled && extra.valid && !extra.targetTrackingSystem.isEmpty &&
      !(primary && extra.targetTrackingSystem == ctx.targetTrackingSystem)).map fun extra =>
    (extra.targetTrackingSystem,
      ⟨true, ⟨u.metres extra.calibratedTranslation, u.rotQuat extra.calibratedRotation⟩,
        extra.calibratedScale, ctx.recalibrateOnMovement⟩)

/-- The two sides, and what the driver should hold since the scan that was the last event. -/
structure Publication (V Q S : Type) where
  overlay : Overlay V Q S
  receiver : Receiver V Q S
  scanned : Option (List (List UInt8 × FallbackTransform V Q S))

def start (m : PoseMath V Q S P) (qpcFreq : ℤ) : Publication V Q S :=
  ⟨.start, ⟨(State.new m qpcFreq).provider, []⟩, none⟩

inductive Event (T E S : Type) where
  | scan (ctx : CalibrationContext T E S) (now : ℤ)
  | invalidateAllTransformCaches
  /-- A new driver, which the overlay connects to again. -/
  | driverRestart (qpcFreq : ℤ)

variable (m : PoseMath V Q S P) (u : ProfileUnits T E V Q)

def Publication.scan (s : Publication V Q S) (ctx : CalibrationContext T E S) (now : ℤ) :
    Publication V Q S :=
  let r := s.overlay.ScanAndApplyProfile m u ctx
  { overlay := r.1
    receiver := r.2.foldl (Receiver.receive m now) s.receiver
    scanned := some (ctx.current u) }

def step (s : Publication V Q S) : Event T E S → Option (Publication V Q S)
  | .scan ctx now => some (s.scan m u ctx now)
  | .invalidateAllTransformCaches =>
    some { s with overlay := s.overlay.InvalidateAllTransformCaches, scanned := none }
  | .driverRestart qpcFreq =>
    some { s with
      receiver := { s.receiver with driver := (State.new m qpcFreq).provider }
      scanned := none }

/-- After a scan the driver holds the current fallbacks and no other, and no message was dropped
    that differs from what it held. -/
def Agree (s : Publication V Q S) : Prop :=
  (∀ current ∈ s.scanned, enabledFallbacks s.receiver.driver = {x | x ∈ current}) ∧
    s.receiver.missed = []

/-- The names of the slots in use. -/
def occupiedNames (p : Provider V Q S) : Finset (List UInt8) :=
  (Finset.univ.filter fun i => (p.systemFallbacks i).occupied = true).image fun i =>
    nameOf (p.systemFallbacks i).system_name

/-- The system that the scan disables. -/
def Overlay.disabledSystem (o : Overlay V Q S) (ctx : CalibrationContext T E S) :
    Option (List UInt8) :=
  if o.disables ctx then
    some (nameOf (nulPadded (o.g_lastTargetSystem.take (MaxTrackingSystemNameLen - 1))))
  else none

/-- The scan neither loses nor keeps a fallback that it should not. -/
structure Lossless (s : Publication V Q S) (ctx : CalibrationContext T E S) : Prop where
  /-- The names fit their buffer. -/
  named : ∀ w ∈ ctx.published u, 0 ∉ w.1 ∧ w.1.length < MaxTrackingSystemNameLen
  /-- A system has one calibration. -/
  single : ∀ w ∈ ctx.published u, ∀ w' ∈ ctx.published u, w.1 = w'.1 → w = w'
  /-- Slots are never given back. -/
  room : (occupiedNames s.receiver.driver ∪
    ((ctx.published u).map Prod.fst).toFinset).card ≤ MaxFallbackSlots
  /-- An additional calibration of the target system counts only while the primary is off. -/
  shown : ∀ extra ∈ ctx.additionalCalibrations, extra.enabled = true → extra.valid = true →
    extra.targetTrackingSystem = ctx.targetTrackingSystem →
      ctx.validProfile = true ∨ ctx.targetTrackingSystem = []
  /-- What the driver holds is still current, or is the target that was just left. -/
  kept : ∀ i, (s.receiver.driver.systemFallbacks i).occupied = true →
    (s.receiver.driver.systemFallbacks i).tf.enabled = true →
      nameOf (s.receiver.driver.systemFallbacks i).system_name ∈ (ctx.published u).map Prod.fst ∨
        s.overlay.disabledSystem ctx =
          some (nameOf (s.receiver.driver.systemFallbacks i).system_name)
  /-- A message that is cached was neither disabled past the cache nor lost with a driver. -/
  cached : ∀ w ∈ ctx.published u, s.overlay.g_lastFallbacksBySystem w.1 = some w.2 →
    s.overlay.disabledSystem ctx ≠ some w.1 ∧
      ∃ i, (s.receiver.driver.systemFallbacks i).occupied = true ∧
        nameOf (s.receiver.driver.systemFallbacks i).system_name = w.1 ∧
          (s.receiver.driver.systemFallbacks i).tf.enabled = true

def Condition (s : Publication V Q S) : Event T E S → Prop
  | .scan ctx _ => Lossless u s ctx
  | _ => True

/-! ## What is published -/

variable {u} {ctx : CalibrationContext T E S} {w : List UInt8 × SetTrackingSystemFallback V Q S}

omit [DecidableEq V] [DecidableEq Q] [DecidableEq S] in
/-- The messages are enabling ones and carry the name, cut to fit. -/
theorem mem_published (hw : w ∈ ctx.published u) :
    w.1 ≠ [] ∧ w.2.enabled = true ∧
      w.2.system_name = nulPadded (w.1.take (MaxTrackingSystemNameLen - 1)) := by
  rcases List.mem_append.1 hw with hw | hw
  · split_ifs at hw with hprimary
    · obtain rfl := List.mem_singleton.1 hw
      simp only [Bool.and_eq_true, Bool.not_eq_true', List.isEmpty_eq_false_iff] at hprimary
      exact ⟨hprimary.2, rfl, rfl⟩
    · cases hw
  · obtain ⟨extra, hextra, rfl⟩ := List.mem_map.1 hw
    have hcond := (List.mem_filter.1 hextra).2
    simp only [Bool.and_eq_true, Bool.not_eq_true', List.isEmpty_eq_false_iff] at hcond
    exact ⟨hcond.1.2, rfl, rfl⟩

omit [DecidableEq V] [DecidableEq Q] [DecidableEq S] in
theorem nameOf_published (hw : w ∈ ctx.published u) (hnul : 0 ∉ w.1)
    (hlen : w.1.length < MaxTrackingSystemNameLen) : nameOf w.2.system_name = w.1 := by
  rw [(mem_published hw).2.2, List.take_of_length_le (by omega), nameOf_nulPadded hnul hlen.le]

omit [DecidableEq V] [DecidableEq Q] [DecidableEq S] in
/-- The current fallbacks are the payloads of the published messages. -/
theorem current_eq (hshown : ∀ extra ∈ ctx.additionalCalibrations, extra.enabled = true →
      extra.valid = true → extra.targetTrackingSystem = ctx.targetTrackingSystem →
        ctx.validProfile = true ∨ ctx.targetTrackingSystem = []) :
    ctx.current u = (ctx.published u).map fun w => (w.1, w.2.payload) := by
  unfold CalibrationContext.current CalibrationContext.published
  dsimp only
  rw [List.map_append, List.map_map]
  congr 1
  · split_ifs <;> rfl
  · have hfilter : (ctx.additionalCalibrations.filter fun extra =>
        extra.enabled && extra.valid && !extra.targetTrackingSystem.isEmpty &&
          !(ctx.validProfile && !ctx.targetTrackingSystem.isEmpty &&
            extra.targetTrackingSystem == ctx.targetTrackingSystem)) =
        ctx.additionalCalibrations.filter fun extra =>
          extra.enabled && extra.valid && !extra.targetTrackingSystem.isEmpty &&
            extra.targetTrackingSystem != ctx.targetTrackingSystem := by
      apply List.filter_congr
      intro extra hextra
      by_cases hsame : extra.targetTrackingSystem = ctx.targetTrackingSystem
      · cases hen : extra.enabled <;> cases hvalid : extra.valid <;> try rfl
        rcases hshown extra hextra hen hvalid hsame with hprofile | hempty
        · simp [hsame, hprofile]
        · simp [hsame, hempty]
      · simp [bne, beq_eq_false_iff_ne.2 hsame]
    rw [hfilter]
    rfl

/-! ## The driver and the cache -/

variable {m} {p : Provider V Q S} {map : FallbackMap V Q S}

omit [DecidableEq V] [DecidableEq Q] [DecidableEq S] in
theorem mem_enabledFallbacks (h : p.systemFallbacks.Refines map) {name : List UInt8}
    (hnul : 0 ∉ name) {fb : FallbackTransform V Q S} :
    (name, fb) ∈ enabledFallbacks p ↔ map name = some fb ∧ fb.enabled = true := by
  rw [← h.lookup name hnul, h.wf.lookup_iff hnul]
  constructor
  · rintro ⟨i, hi, htf, hen⟩
    exact ⟨⟨i, hi, htf⟩, hen⟩
  · rintro ⟨⟨i, hi, htf⟩, hen⟩
    exact ⟨i, hi, htf, hen⟩

omit [DecidableEq V] [DecidableEq Q] [DecidableEq S] in
theorem nul_notMem_of_mem_enabledFallbacks {x : List UInt8 × FallbackTransform V Q S}
    (hx : x ∈ enabledFallbacks p) : 0 ∉ x.1 := by
  obtain ⟨i, ⟨-, hname⟩, -⟩ := hx
  rw [← hname]
  exact nul_notMem_nameOf _

omit [DecidableEq V] [DecidableEq Q] [DecidableEq S] in
/-- The map has the names of the slots in use. -/
theorem mem_occupiedNames (h : p.systemFallbacks.Refines map) {name : List UInt8}
    (hnul : 0 ∉ name) (hname : map name ≠ none) : name ∈ occupiedNames p := by
  obtain ⟨fb, hfb⟩ := Option.ne_none_iff_exists'.1 hname
  rw [← h.lookup name hnul, h.wf.lookup_iff hnul] at hfb
  obtain ⟨i, ⟨hocc, rfl⟩, -⟩ := hfb
  exact Finset.mem_image_of_mem _ (Finset.mem_filter.2 ⟨Finset.mem_univ i, hocc⟩)

/-- What the driver holds enabled is what was cached for its system. -/
def Caches (o : Overlay V Q S) (map : FallbackMap V Q S) : Prop :=
  ∀ name fb, map name = some fb → fb.enabled = true →
    ∃ msg, o.g_lastFallbacksBySystem name = some msg ∧ msg.payload = fb

omit [DecidableEq V] [DecidableEq Q] [DecidableEq S] in
theorem set_of_enabled {msg : SetTrackingSystemFallback V Q S} {name : List UInt8}
    (hname : nameOf msg.system_name = name) (hne : name ≠ []) (hen : msg.enabled = true) :
    map.set msg = Function.update map name (some msg.payload) := by
  unfold FallbackMap.set
  rw [hname, if_neg hne, if_pos hen]

omit [DecidableEq V] [DecidableEq Q] [DecidableEq S] in
/-- A disabling message clears the flag of its system. -/
theorem set_of_disabled {msg : SetTrackingSystemFallback V Q S}
    (hen : msg.enabled = false) {name : List UInt8} {fb : FallbackTransform V Q S} :
    map.set msg name = some fb ∧ fb.enabled = true ↔
      (map name = some fb ∧ fb.enabled = true) ∧ (name = [] ∨ name ≠ nameOf msg.system_name) := by
  unfold FallbackMap.set
  split_ifs with hempty h
  · simp only [hempty, ne_eq]
    have := em (name = [])
    tauto
  · rw [hen] at h
    cases h
  · by_cases hname : name = nameOf msg.system_name
    · subst hname
      rw [Function.update_self]
      apply iff_of_false
      · rintro ⟨hmap, hfb⟩
        obtain ⟨fb', -, rfl⟩ := Option.map_eq_some_iff.1 hmap
        cases hfb
      · rintro ⟨-, h | h⟩
        · exact hempty h
        · exact h rfl
    · rw [Function.update_of_ne hname]
      exact ⟨fun h => ⟨h, .inr hname⟩, fun h => h.1⟩

variable {o : Overlay V Q S} {r : Receiver V Q S} {names : Finset (List UInt8)} {now : ℤ}

/-- **One message.** Unless it is dropped although its system is not enabled in the driver, the
    driver holds it afterwards, and what it holds for other systems stays as it is. -/
theorem SendFallbackIfChanged_spec (hr : r.driver.systemFallbacks.Refines map)
    (hcaches : Caches o map) (hnames : ∀ name, map name ≠ none → name ∈ names)
    (hcard : names.card ≤ MaxFallbackSlots) {name : List UInt8}
    {msg : SetTrackingSystemFallback V Q S} (hname : nameOf msg.system_name = name)
    (hne : name ≠ []) (hmem : name ∈ names) (hen : msg.enabled = true)
    (hlive : o.g_lastFallbacksBySystem name = some msg →
      ∃ fb, map name = some fb ∧ fb.enabled = true) :
    ((r.receive m now (o.SendFallbackIfChanged name msg).2).driver.systemFallbacks.Refines
        (Function.update map name (some msg.payload)) ∧
      Caches (o.SendFallbackIfChanged name msg).1
        (Function.update map name (some msg.payload))) ∧
      (o.SendFallbackIfChanged name msg).1.g_lastFallbacksBySystem =
        Function.update o.g_lastFallbacksBySystem name (some msg) ∧
      (r.receive m now (o.SendFallbackIfChanged name msg).2).missed = r.missed := by
  unfold Overlay.SendFallbackIfChanged
  split_ifs with hcached
  · -- the driver holds what is cached
    obtain ⟨fb, hfb, hfben⟩ := hlive hcached
    obtain ⟨msg', hmsg', hpayload⟩ := hcaches name fb hfb hfben
    obtain rfl : msg = msg' := Option.some.inj (hcached.symm.trans hmsg')
    have hmap : Function.update map name (some msg.payload) = map := by
      rw [hpayload, ← hfb, Function.update_eq_self]
    have hheld : (nameOf msg.system_name, msg.payload) ∈ enabledFallbacks r.driver := by
      rw [mem_enabledFallbacks hr (nul_notMem_nameOf _), hname, hpayload]
      exact ⟨hfb, hfben⟩
    have hsame : r.receive m now (.suppressed msg) = r := if_pos hheld
    rw [hmap, hsame, ← hcached, Function.update_eq_self]
    exact ⟨⟨hr, hcaches⟩, rfl, rfl⟩
  · refine ⟨⟨?_, ?_⟩, rfl, rfl⟩
    · rw [← set_of_enabled hname hne hen]
      apply Provider.setTrackingSystemFallback_refines hr
      intro _ _ hfull
      rw [hname]
      exact hr.room hnames hcard hmem hfull
    · intro name' fb hfb hfben
      dsimp only
      by_cases heq : name' = name
      · subst heq
        rw [Function.update_self] at hfb ⊢
        exact ⟨msg, rfl, Option.some.inj hfb⟩
      · rw [Function.update_of_ne heq] at hfb ⊢
        exact hcaches name' fb hfb hfben

/-- **All messages of a scan.** -/
theorem publish_spec (hcard : names.card ≤ MaxFallbackSlots) :
    ∀ {l : List (List UInt8 × SetTrackingSystemFallback V Q S)} {o : Overlay V Q S}
      {r : Receiver V Q S} {map : FallbackMap V Q S},
      r.driver.systemFallbacks.Refines map → Caches o map →
      (∀ name, map name ≠ none → name ∈ names) →
      (∀ w ∈ l, nameOf w.2.system_name = w.1 ∧ w.1 ≠ [] ∧ w.1 ∈ names ∧ w.2.enabled = true) →
      (∀ w ∈ l, ∀ w' ∈ l, w.1 = w'.1 → w = w') →
      (∀ w ∈ l, o.g_lastFallbacksBySystem w.1 = some w.2 →
        ∃ fb, map w.1 = some fb ∧ fb.enabled = true) →
      ∃ map', ((o.publish l).2.foldl (Receiver.receive m now) r).driver.systemFallbacks.Refines
          map' ∧ Caches (o.publish l).1 map' ∧
        (∀ w ∈ l, map' w.1 = some w.2.payload) ∧ (∀ name ∉ l.map Prod.fst, map' name = map name) ∧
        ((o.publish l).2.foldl (Receiver.receive m now) r).missed = r.missed
  | [], o, r, map, hr, hcaches, _, _, _, _ =>
    ⟨map, hr, hcaches, fun w hw => absurd hw List.not_mem_nil, fun _ _ => rfl, rfl⟩
  | (name, msg) :: l, o, r, map, hr, hcaches, hnames, hl, hsingle, hlive => by
    obtain ⟨hname, hne, hmem, hen⟩ := hl (name, msg) List.mem_cons_self
    obtain ⟨⟨hr', hcaches'⟩, hcache', hmissed'⟩ := SendFallbackIfChanged_spec (m := m)
      hr hcaches hnames hcard hname hne hmem hen (hlive (name, msg) List.mem_cons_self)
    have hnames' : ∀ name', Function.update map name (some msg.payload) name' ≠ none →
        name' ∈ names := by
      intro name' hname'
      by_cases heq : name' = name
      · rwa [heq]
      · rw [Function.update_of_ne heq] at hname'
        exact hnames name' hname'
    have hlive' : ∀ w ∈ l,
        (o.SendFallbackIfChanged name msg).1.g_lastFallbacksBySystem w.1 = some w.2 →
          ∃ fb, Function.update map name (some msg.payload) w.1 = some fb ∧ fb.enabled = true := by
      intro w hw hcached
      by_cases heq : w.1 = name
      · rw [heq, Function.update_self]
        exact ⟨_, rfl, rfl⟩
      · rw [hcache', Function.update_of_ne heq] at hcached
        rw [Function.update_of_ne heq]
        exact hlive w (List.mem_cons_of_mem _ hw) hcached
    obtain ⟨map', hrefines, hcaches'', hheld, hother, hmissed⟩ := publish_spec hcard hr' hcaches'
      hnames' (fun w hw => hl w (List.mem_cons_of_mem _ hw))
      (fun w hw w' hw' => hsingle w (List.mem_cons_of_mem _ hw) w' (List.mem_cons_of_mem _ hw'))
      hlive'
    refine ⟨map', hrefines, hcaches'', fun w hw => ?_, fun name' hname' => ?_,
      hmissed.trans hmissed'⟩
    · rcases List.mem_cons.1 hw with rfl | hw
      · -- its system may come again, with the same message
        by_cases hagain : name ∈ l.map Prod.fst
        · obtain ⟨w', hw', heq⟩ := List.mem_map.1 hagain
          obtain rfl := hsingle w' (List.mem_cons_of_mem _ hw') _ List.mem_cons_self heq
          exact hheld _ hw'
        · rw [hother name hagain, Function.update_self]
      · exact hheld w hw
    · rw [List.map_cons, List.mem_cons, not_or] at hname'
      rw [hother name' hname'.2, Function.update_of_ne hname'.1]

/-! ## The invariant -/

/-- The driver's table is a map, and what is enabled in it is cached. -/
structure Synced (s : Publication V Q S) (map : FallbackMap V Q S) : Prop where
  refines : s.receiver.driver.systemFallbacks.Refines map
  caches : Caches s.overlay map
  nulFree : ∀ name, map name ≠ none → 0 ∉ name
  missed : s.receiver.missed = []

omit [DecidableEq V] [DecidableEq Q] [DecidableEq S] in
variable (m) in
theorem Synced.new (s : Publication V Q S) (qpcFreq : ℤ)
    (hdriver : s.receiver.driver = (State.new m qpcFreq).provider)
    (hmissed : s.receiver.missed = []) : Synced s fun _ => none where
  refines := by
    rw [hdriver]
    exact (MapInv.new ∅ m qpcFreq).refines
  caches name fb h := by cases h
  nulFree name h := absurd rfl h
  missed := hmissed

omit [DecidableEq V] [DecidableEq Q] [DecidableEq S] in
theorem map_nil (h : p.systemFallbacks.Refines map) : map [] = none := by
  rw [← h.lookup [] List.not_mem_nil, FallbackTable.lookup,
    FallbackTable.findFallbackSlot_eq_none_of_length (.inl rfl)]
  rfl

variable {s : Publication V Q S}

/-- The message past the cache, if there is one, disables the system that was left. -/
theorem disable_spec (hs : Synced s map) (now : ℤ) :
    ∃ map', Synced { s with
        receiver := (if s.overlay.disables ctx then
          [.sent (disablePayload m s.overlay.g_lastTargetSystem)] else []).foldl
            (Receiver.receive m now) s.receiver } map' ∧
      (∀ name, map' name ≠ none → map name ≠ none) ∧
      ∀ name fb, map' name = some fb ∧ fb.enabled = true ↔
        (map name = some fb ∧ fb.enabled = true) ∧ s.overlay.disabledSystem ctx ≠ some name := by
  unfold Overlay.disabledSystem
  split_ifs
  · have hset : ∀ name fb, map.set (disablePayload m s.overlay.g_lastTargetSystem) name = some fb ∧
        fb.enabled = true ↔ (map name = some fb ∧ fb.enabled = true) ∧
          name ≠ nameOf (disablePayload m s.overlay.g_lastTargetSystem).system_name := by
      intro name fb
      rw [set_of_disabled rfl]
      apply and_congr_right
      rintro ⟨hmap, -⟩
      apply or_iff_right
      rintro rfl
      rw [map_nil hs.refines] at hmap
      cases hmap
    have hsub : ∀ name, map.set (disablePayload m s.overlay.g_lastTargetSystem) name ≠ none →
        map name ≠ none := by
      intro name hname hnone
      unfold FallbackMap.set at hname
      split_ifs at hname with hempty hen
      · exact hname hnone
      · exact absurd hen (by simp [disablePayload])
      · by_cases heq : name = nameOf (disablePayload m s.overlay.g_lastTargetSystem).system_name
        · rw [heq, Function.update_self, ← heq, hnone] at hname
          exact hname rfl
        · rw [Function.update_of_ne heq] at hname
          exact hname hnone
    refine ⟨_, ⟨?_, ?_, fun name hname => hs.nulFree name (hsub name hname), hs.missed⟩, hsub, ?_⟩
    · apply Provider.setTrackingSystemFallback_refines hs.refines
      intro hen
      cases hen
    · intro name fb hfb hen
      obtain ⟨hfb, hen⟩ := ((hset name fb).1 ⟨hfb, hen⟩).1
      exact hs.caches name fb hfb hen
    · intro name fb
      rw [hset]
      apply and_congr_right
      intro _
      rw [ne_eq, ne_eq, Option.some.injEq, eq_comm]
      rfl
  · exact ⟨map, hs, fun _ h => h, fun name fb => by simp⟩

/-- Before it publishes, a scan leaves the cache as it is. -/
theorem ScanAndApplyProfile_eq (o : Overlay V Q S) : ∃ o' : Overlay V Q S,
    o'.g_lastFallbacksBySystem = o.g_lastFallbacksBySystem ∧
      o.ScanAndApplyProfile m u ctx = ((o'.publish (ctx.published u)).1,
        (if o.disables ctx then [.sent (disablePayload m o.g_lastTargetSystem)] else []) ++
          (o'.publish (ctx.published u)).2) := by
  refine ⟨_, ?_, rfl⟩
  split_ifs <;> rfl

/-- **One scan.** The driver holds the current fallbacks afterwards. -/
theorem scan_spec (hs : Synced s map) (hc : Lossless u s ctx) :
    (∃ map', Synced (s.scan m u ctx now) map') ∧
      enabledFallbacks (s.scan m u ctx now).receiver.driver = {x | x ∈ ctx.current u} := by
  obtain ⟨mapD, hsD, hsub, hmapD⟩ := disable_spec (m := m) hs now
  obtain ⟨o', hcache, hscan⟩ := ScanAndApplyProfile_eq (m := m) (u := u) s.overlay
  have hnames : ∀ name, mapD name ≠ none →
      name ∈ occupiedNames s.receiver.driver ∪ ((ctx.published u).map Prod.fst).toFinset := by
    intro name hname
    have hmap := hsub name hname
    exact Finset.mem_union_left _ (mem_occupiedNames hs.refines (hs.nulFree name hmap) hmap)
  have hpublished : ∀ w ∈ ctx.published u, nameOf w.2.system_name = w.1 ∧ w.1 ≠ [] ∧
      w.1 ∈ occupiedNames s.receiver.driver ∪ ((ctx.published u).map Prod.fst).toFinset ∧
        w.2.enabled = true := by
    intro w hw
    obtain ⟨hne, hen, -⟩ := mem_published hw
    exact ⟨nameOf_published hw (hc.named w hw).1 (hc.named w hw).2, hne,
      Finset.mem_union_right _ (List.mem_toFinset.2 (List.mem_map_of_mem hw)), hen⟩
  have hcaches : Caches o' mapD := by
    intro name fb
    rw [hcache]
    exact hsD.caches name fb
  have hlive : ∀ w ∈ ctx.published u, o'.g_lastFallbacksBySystem w.1 = some w.2 →
      ∃ fb, mapD w.1 = some fb ∧ fb.enabled = true := by
    intro w hw hcached
    rw [hcache] at hcached
    obtain ⟨hdisabled, i, hocc, hname, hen⟩ := hc.cached w hw hcached
    have hheld : (w.1, (s.receiver.driver.systemFallbacks i).tf) ∈
        enabledFallbacks s.receiver.driver := ⟨i, ⟨hocc, hname⟩, rfl, hen⟩
    rw [mem_enabledFallbacks hs.refines (hc.named w hw).1] at hheld
    exact ⟨_, (hmapD _ _).2 ⟨hheld, hdisabled⟩⟩
  obtain ⟨map', hrefines, hcaches', hheld, hother, hmissed⟩ := publish_spec (m := m)
    hc.room hsD.refines hcaches hnames hpublished hc.single hlive
  have hreceiver : (s.scan m u ctx now).receiver =
      (o'.publish (ctx.published u)).2.foldl (Receiver.receive m now)
        ((if s.overlay.disables ctx then
          [.sent (disablePayload m s.overlay.g_lastTargetSystem)] else []).foldl
            (Receiver.receive m now) s.receiver) := by
    rw [Publication.scan, hscan, List.foldl_append]
  have hoverlay : (s.scan m u ctx now).overlay = (o'.publish (ctx.published u)).1 := by
    rw [Publication.scan, hscan]
  rw [← hreceiver] at hrefines hmissed
  rw [← hoverlay] at hcaches'
  refine ⟨⟨map', hrefines, hcaches', ?_, hmissed.trans hsD.missed⟩, ?_⟩
  · intro name hname
    by_cases hmem : name ∈ (ctx.published u).map Prod.fst
    · obtain ⟨w, hw, rfl⟩ := List.mem_map.1 hmem
      exact (hc.named w hw).1
    · rw [hother name hmem] at hname
      exact hsD.nulFree name hname
  · ext ⟨name, fb⟩
    rw [Set.mem_ofPred_eq, current_eq hc.shown, List.mem_map]
    constructor
    · intro hmem
      have hnul := nul_notMem_of_mem_enabledFallbacks hmem
      obtain ⟨hmap', hen⟩ := (mem_enabledFallbacks hrefines hnul).1 hmem
      by_cases hname : name ∈ (ctx.published u).map Prod.fst
      · obtain ⟨w, hw, rfl⟩ := List.mem_map.1 hname
        exact ⟨w, hw, Prod.ext rfl (Option.some.inj ((hheld w hw).symm.trans hmap'))⟩
      · -- an older one, which the scan left enabled
        rw [hother name hname] at hmap'
        obtain ⟨hbefore, hdisabled⟩ := (hmapD name fb).1 ⟨hmap', hen⟩
        obtain ⟨i, ⟨hocc, rfl⟩, htf, -⟩ := (mem_enabledFallbacks hs.refines hnul).2 hbefore
        rcases hc.kept i hocc (by rw [htf]; exact hen) with hkept | hkept
        · exact absurd hkept hname
        · exact absurd hkept hdisabled
    · rintro ⟨w, hw, heq⟩
      obtain ⟨rfl, rfl⟩ := Prod.mk.inj heq
      exact (mem_enabledFallbacks hrefines (hc.named w hw).1).2 ⟨hheld w hw, rfl⟩

/-- A step that meets the condition keeps the two sides in agreement. -/
theorem step_inv {s' : Publication V Q S} {e : Event T E S}
    (hs : (∃ map, Synced s map) ∧ Agree s) (hc : Condition u s e) (h : step m u s e = some s') :
    (∃ map, Synced s' map) ∧ Agree s' := by
  obtain ⟨⟨map, hsynced⟩, hagree⟩ := hs
  cases e with
  | scan ctx now =>
    obtain rfl := Option.some.inj h
    obtain ⟨⟨map', hsynced'⟩, hheld⟩ := scan_spec (m := m) hsynced hc
    refine ⟨⟨map', hsynced'⟩, fun current hcurrent => ?_, hsynced'.missed⟩
    obtain rfl := Option.some.inj hcurrent
    exact hheld
  | invalidateAllTransformCaches =>
    obtain rfl := Option.some.inj h
    refine ⟨⟨map, hsynced.refines, hsynced.caches, hsynced.nulFree, hsynced.missed⟩,
      fun current hcurrent => ?_, hsynced.missed⟩
    cases hcurrent
  | driverRestart qpcFreq =>
    obtain rfl := Option.some.inj h
    refine ⟨⟨_, Synced.new m _ qpcFreq rfl hsynced.missed⟩, fun current hcurrent => ?_,
      hsynced.missed⟩
    cases hcurrent

variable (m u) in
/-- **Publication.** In every run of scans, of which none loses or keeps a fallback that it should
    not, the driver holds the current fallbacks after each. -/
theorem scans_published (qpcFreq : ℤ) (es : List (Event T E S))
    (h : AllSteps (step m u) (Condition u) (start m qpcFreq) es) :
    Always (step m u) Agree (start m qpcFreq) es := by
  refine Always.of_inv (fun s e s' hs hc hstep => step_inv hs hc hstep) (fun s hs => hs.2) ?_ h
  refine ⟨⟨_, Synced.new m _ qpcFreq rfl rfl⟩, fun current hcurrent => ?_, rfl⟩
  cases hcurrent

/-! ## Runs on a line -/

set_option synthInstance.maxSize 512 in
/-- The condition of a scan can be evaluated. -/
instance (s : Publication V Q S) (e : Event T E S) : Decidable (Condition u s e) := by
  cases e with
  | scan ctx now =>
    exact decidable_of_iff (_ ∧ _ ∧ _ ∧ _ ∧ _ ∧ _)
      ⟨fun ⟨h1, h2, h3, h4, h5, h6⟩ => ⟨h1, h2, h3, h4, h5, h6⟩,
       fun h => ⟨h.named, h.single, h.room, h.shown, h.kept, h.cached⟩⟩
  | invalidateAllTransformCaches => exact isTrue trivial
  | driverRestart qpcFreq => exact isTrue trivial

def lineUnits : ProfileUnits ℤ Unit ℤ Unit := ⟨fun cm => cm / 100, fun _ => ()⟩

/-- A profile with a tracker system as the target, and an additional calibration for another. -/
def profile (target : String) (cm : ℤ) (extras : List (AdditionalCalibration ℤ Unit ℤ)) :
    CalibrationContext ℤ Unit ℤ :=
  ⟨true, ascii target, cm, (), 1, false, extras⟩

def extra (system : String) (cm : ℤ) : AdditionalCalibration ℤ Unit ℤ :=
  ⟨ascii system, cm, (), 1, true, true⟩

/-- A calibration that moves while a second system joins, and another target after it. -/
theorem scans_published_retarget :
    Always (step onLine lineUnits) Agree (start onLine 10)
      [.scan (profile "lighthouse" 100 []) 1,
       .scan (profile "lighthouse" 200 [extra "slimevr" 300]) 2,
       .invalidateAllTransformCaches,
       .scan (profile "lighthouse" 300 [extra "slimevr" 300]) 3,
       .scan (profile "quest" 500 [extra "slimevr" 400]) 4] :=
  scans_published onLine lineUnits 10 _ (by decide +kernel)

/-- The target changes and changes back. -/
def returnedTarget : List (Event ℤ Unit ℤ) :=
  [.scan (profile "lighthouse" 100 []) 1, .scan (profile "quest" 500 []) 2,
   .scan (profile "lighthouse" 100 []) 3]

/-- The state behind it. -/
def afterReturn : Publication ℤ Unit ℤ :=
  returnedTarget.foldl (fun s e => (step onLine lineUnits s e).getD s) (start onLine 10)

def lighthouseCurrent : List UInt8 × FallbackTransform ℤ Unit ℤ :=
  (ascii "lighthouse", ⟨true, ⟨1, ()⟩, 1, false⟩)

/-- The message for the first target is the one cached for it, and the driver has no fallback for
    it that is enabled. -/
theorem returnedTarget_dropped :
    ¬ Always (step onLine lineUnits) Agree (start onLine 10) returnedTarget := by
  intro h
  obtain ⟨hcurrent, -⟩ := h.runTo (t := afterReturn) (by rfl)
  have hscanned : afterReturn.scanned = some [lighthouseCurrent] := by decide +kernel
  have hheld : lighthouseCurrent ∈ enabledFallbacks afterReturn.receiver.driver := by
    rw [hcurrent _ hscanned]
    exact List.mem_singleton.2 rfl
  exact absurd hheld (by decide +kernel)

end WKPairDriver.Calibration.FallbackPublication
