import WKPairDriver.Lib.Run
import WKPairDriver.Smoothing.DevicePrediction

/-!
# Saved strengths reach the driver

Over runs of the plugin while devices come and go, calibration locks and unlocks them, and the
driver restarts: when nothing changes any more, the slots of the driver have the strengths they
should have one rescan interval later.

* `strengths_reach_driver` — the condition on the steps of a run under which this holds of every
  state it reaches: each slot that a change leaves with a wrong strength has a saved one, and a
  replay of it is due.
* `released_lock_keeps_zero` — the saved strength of a device whose lock is released is never sent.
-/

set_option autoImplicit false

namespace WKPairDriver.Smoothing

open Lib

namespace Prediction

/-! ## What the slots should have -/

section Specification
variable (s : Prediction)

def occupied (id : Slot) : Bool := s.vrSystem && decide ((s.devices id).deviceClass ≠ .Invalid)

/-- The strength a slot should have. -/
def desired (id : Slot) : ℕ :=
  if s.isHmd id = true ∨ s.TryGetCalibrationDeviceLockKind (s.devices id).serial = true ∨
      s.eligible id = false ∨ s.readable id = false then 0
  else clampStrength ((s.saved id).getD 0)

/-- Every occupied slot has the strength it should have. -/
def Settled : Prop := ∀ id, s.occupied id = true → s.predictionSmoothness id = s.desired id

/-- The device in the slot has a saved strength. -/
def Saved (id : Slot) : Prop := s.readable id = true ∧ (s.saved id).isSome = true

/-- The next scan finds another list than the last one. -/
def Changed : Prop :=
  s.lastPredictionDeviceSignature ≠ "" ∧ s.BuildPredictionDeviceSignature ≠ "" ∧
    s.BuildPredictionDeviceSignature ≠ s.lastPredictionDeviceSignature

/-- The next scan or connection replays all saved strengths, or the next tick clears this one. -/
def Due (id : Slot) : Prop :=
  s.connected = false ∨ s.Changed ∨
    (s.devices id).serial ∈ s.calibrationLocks ∧
      (s.devices id).serial ∉ s.lastKnownCalibrationLocks

/-- Every occupied slot has the strength it should have, or a saved one that is due. -/
def Covered : Prop := ∀ id, s.occupied id = true →
  s.predictionSmoothness id = s.desired id ∨ s.Saved id ∧ s.Due id

/-- A slot without a saved strength has none in the driver. -/
def Clean : Prop := ∀ id, s.occupied id = true → ¬ s.Saved id → s.predictionSmoothness id = 0

instance decidableSettled : Decidable s.Settled := inferInstanceAs (Decidable (∀ _, _ → _))
instance decidableSaved (id : Slot) : Decidable (s.Saved id) := inferInstanceAs (Decidable (_ ∧ _))
instance decidableChanged : Decidable s.Changed := inferInstanceAs (Decidable (_ ∧ _))
instance decidableDue (id : Slot) : Decidable (s.Due id) := inferInstanceAs (Decidable (_ ∨ _))
instance decidableCovered : Decidable s.Covered := inferInstanceAs (Decidable (∀ _, _ → _))
instance decidableClean : Decidable s.Clean := inferInstanceAs (Decidable (∀ _, _ → _ → _))

end Specification

/-! ## Runs -/

inductive Action where
  | start (now : ℕ) (connects : Bool) (sends : List SendOutcome)
  | tick (now : ℕ) (connects : Bool) (sends : List SendOutcome)
  | slider (id : Slot) (smoothness : ℤ) (sends : List SendOutcome)
  | prune (id : Slot) (sends : List SendOutcome)
  /-- The checkbox of smart smoothing replays the strengths. -/
  | toggleSmart (sends : List SendOutcome)
  /-- Devices appear, leave or exchange slots. -/
  | setDevices (vrSystem : Bool) (devices : Slot → Device)
  | setLocks (locks : List String)
  /-- A restart of the driver that no request has noticed. -/
  | restart

def step (s : Prediction) : Action → Option Prediction
  | .start now connects sends =>
    if s.clock ≤ now then some ({ s with clock := now, sends := sends }.OnStart now connects)
    else none
  | .tick now connects sends =>
    if s.clock ≤ now then some ({ s with clock := now, sends := sends }.Tick now connects)
    else none
  | .slider id smoothness sends => { s with sends := sends }.slider id smoothness
  | .prune id sends => { s with sends := sends }.prune id
  | .toggleSmart sends => some { s with sends := sends }.ReplayDevicePredictions
  | .setDevices vrSystem devices => some { s with vrSystem := vrSystem, devices := devices }
  | .setLocks locks => some { s with locks := locks }
  | .restart => some { s with predictionSmoothness := fun _ => 0 }

/-- Nothing changes any more, and all requests succeed. -/
def quiet (times : List ℕ) : List Action := times.map fun now => .tick now true []

/-- Ticks in which nothing changes any more, the last of them a rescan interval later, leave the
    slots with the strengths they should have. -/
def Converges (s : Prediction) : Prop := ∀ times t, runTo step s (quiet times) = some t →
  (∃ now ∈ times, s.clock + 2000 ≤ now) → t.Settled

/-- The next connection replays what the request of a slider does not bring. -/
def Lost (s : Prediction) (sends : List SendOutcome) : Prop :=
  s.connected = false ∨ ∃ applied restarted, sends.head? = some (.closed applied restarted)

/-- The condition on a step. -/
def Meets (s : Prediction) : Action → Prop
  | .start _ _ sends | .tick _ _ sends | .toggleSmart sends =>
    .repaired ∈ sends → ∀ id, s.desired id = 0
  | .slider id smoothness sends =>
    0 < smoothness ∧ s.Lost sends ∨
    (∀ i, i ≠ id → s.occupied i = true → (s.devices i).serial ≠ (s.devices id).serial) ∧
    (s.eligible id = true ∨ smoothness ≤ 0) ∧
    (.repaired ∈ sends → ∀ i, i ≠ id → s.desired i = 0) ∧
    (smoothness ≤ 0 → s.predictionSmoothness id = 0 ∨
      s.connected = true ∧ sends.head? ≠ some (.closed false false))
  | .prune id sends =>
    (∀ i, i ≠ id → s.occupied i = true → (s.devices i).serial ≠ (s.devices id).serial) ∧
    (.repaired ∈ sends → ∀ i, i ≠ id → s.desired i = 0) ∧
    (s.predictionSmoothness id = 0 ∨
      s.connected = true ∧ sends.head? ≠ some (.closed false false))
  | .setDevices vrSystem devices => { s with vrSystem := vrSystem, devices := devices }.Covered
  | .setLocks locks => { s with locks := locks }.Covered
  | .restart => { s with predictionSmoothness := fun _ => 0 }.Covered

instance decidableLost (s : Prediction) (sends : List SendOutcome) : Decidable (s.Lost sends) :=
  inferInstanceAs (Decidable (_ ∨ ∃ _ _, _))

instance decidableMeets : ∀ (s : Prediction) (a : Action), Decidable (s.Meets a)
  | s, .start _ _ sends | s, .tick _ _ sends | s, .toggleSmart sends =>
    inferInstanceAs (Decidable (.repaired ∈ sends → ∀ id, s.desired id = 0))
  | _, .slider _ _ _ => inferInstanceAs (Decidable (_ ∨ _))
  | _, .prune _ _ => inferInstanceAs (Decidable (_ ∧ _ ∧ _))
  | s, .setDevices vrSystem devices =>
    inferInstanceAs (Decidable { s with vrSystem := vrSystem, devices := devices }.Covered)
  | s, .setLocks locks => inferInstanceAs (Decidable { s with locks := locks }.Covered)
  | s, .restart => inferInstanceAs (Decidable { s with predictionSmoothness := fun _ => 0 }.Covered)

/-! ## What the code sends is what a slot should have -/

section Values
variable {s t : Prediction} {id : Slot}

theorem desired_of_not_saved (h : ¬ s.Saved id) : s.desired id = 0 := by
  unfold desired
  split
  · rfl
  · next hcond =>
    push Not at hcond
    have hr : s.readable id = true := by simpa using hcond.2.2.2
    have hnone : s.saved id = none := by
      by_contra hne
      exact h ⟨hr, Option.isSome_iff_ne_none.2 hne⟩
    rw [hnone]
    rfl

theorem replayValue_of_not_saved (h : ¬ s.Saved id) : s.replayValue id = none := by
  unfold replayValue
  by_cases hr : s.readable id = false
  · rw [if_pos hr]
  · have hnone : s.saved id = none := by
      by_contra hne
      exact h ⟨by simpa using hr, Option.isSome_iff_ne_none.2 hne⟩
    rw [hnone]
    simp

theorem replayValue_of_saved (h : s.Saved id) :
    ∃ v, s.replayValue id = some v ∧ clampStrength v = s.desired id := by
  obtain ⟨hr, hsome⟩ := h
  obtain ⟨v, hv⟩ := Option.isSome_iff_exists.1 hsome
  unfold replayValue desired
  rw [hr, hv]
  cases s.eligible id with
  | false => exact ⟨0, by simp, by simp [clampStrength]⟩
  | true =>
    cases s.isHmd id with
    | true => exact ⟨0, by simp, by simp [clampStrength]⟩
    | false =>
      cases s.TryGetCalibrationDeviceLockKind (s.devices id).serial with
      | true => exact ⟨0, by simp, by simp [clampStrength]⟩
      | false => exact ⟨v, by simp, by simp⟩

/-- A slot that calibration clears should have no strength. -/
theorem lockValue_eq (id : Slot) : s.lockValue id = none ∨
    s.lockValue id = some 0 ∧ s.Saved id ∧ s.desired id = 0 := by
  unfold lockValue
  dsimp only
  split
  · exact .inl rfl
  · next hr =>
    split
    · exact .inl rfl
    · next hlocks =>
      split
      · exact .inl rfl
      · rw [not_not, calibrationLocks, Finset.mem_filter, Strengths.mem_keys] at hlocks
        refine .inr ⟨rfl, ⟨by simpa using hr, Option.isSome_iff_ne_none.2 hlocks.1⟩, ?_⟩
        exact if_pos (.inr (.inl hlocks.2))

theorem Frame.eq (h : Frame s t) : t = { s with
    predictionSmoothness := t.predictionSmoothness
    connected := t.connected
    sends := t.sends } := by
  obtain ⟨h1, h2, h3, h4, h5, h6, h7, h8, h9⟩ := h
  cases s
  cases t
  simp_all

theorem Frame.desired (h : Frame s t) (id : Slot) : t.desired id = s.desired id := by
  rw [h.eq]
  rfl

theorem Frame.occupied (h : Frame s t) (id : Slot) : t.occupied id = s.occupied id := by
  rw [h.eq]
  rfl

theorem Frame.saved (h : Frame s t) (id : Slot) : t.Saved id ↔ s.Saved id := by
  rw [h.eq]
  rfl

theorem Covered.clean (h : s.Covered) : s.Clean := by
  intro id hocc hsaved
  obtain hslot | ⟨hs, -⟩ := h id hocc
  · rw [hslot, desired_of_not_saved hsaved]
  · exact absurd hs hsaved

theorem Clean.sent {value : Slot → Option ℤ} (h : s.Clean) (hsent : Sent value s t)
    (hvalue : ∀ id, ¬ s.Saved id → value id = none) : t.Clean := by
  intro id hocc hsaved
  rw [hsent.frame.occupied] at hocc
  rw [hsent.frame.saved] at hsaved
  obtain hslot | hzero := hsent.untouched id (hvalue id hsaved)
  · rw [hslot, h id hocc hsaved]
  · exact hzero

/-- Without a connection every saved strength is due. -/
theorem Clean.covered_of_disconnected (h : s.Clean) (hoff : s.connected = false) : s.Covered := by
  intro id hocc
  by_cases hsaved : s.Saved id
  · exact .inr ⟨hsaved, .inl hoff⟩
  · exact .inl (by rw [h id hocc hsaved, desired_of_not_saved hsaved])

/-- The restarts that are repaired in the next requests leave nothing to restore. -/
def RepairsHarmless (s : Prediction) : Prop := .repaired ∈ s.sends → ∀ id, s.desired id = 0

theorem RepairsHarmless.sent {value : Slot → Option ℤ} (h : s.RepairsHarmless)
    (hsent : Sent value s t) : t.RepairsHarmless := by
  intro hrep id
  rw [hsent.frame.desired]
  exact h (hsent.sends.subset hrep) id

/-- **A replay covers every slot.** -/
theorem Clean.covered_replay (h : s.Clean) (hrep : s.RepairsHarmless) :
    s.ReplayDevicePredictions.Covered := by
  unfold ReplayDevicePredictions
  split
  · next hoff =>
    obtain hoff | hvr := hoff
    · exact h.covered_of_disconnected hoff
    · intro id hocc
      simp [Prediction.occupied, hvr] at hocc
  · have hsent := sent_sendEach s s.replayValue
    have hclean := h.sent hsent fun id => replayValue_of_not_saved
    cases hon : (s.sendEach s.replayValue).connected with
    | false => exact hclean.covered_of_disconnected hon
    | true =>
      intro id hocc
      refine .inl ?_
      by_cases hsaved : s.Saved id
      · obtain ⟨v, hv, hdesired⟩ := replayValue_of_saved hsaved
        rw [hsent.frame.desired]
        obtain hslot | ⟨hmem, hzero⟩ := hsent.slots hon id
        · rw [hslot, hv, Option.elim_some, hdesired]
        · rw [hzero, hrep hmem id]
      · have hsaved' := fun hs => hsaved ((hsent.frame.saved id).1 hs)
        rw [hclean id hocc hsaved', desired_of_not_saved hsaved']

/-! ## The stages of a tick -/

theorem ConnectIfNeeded_cases (s : Prediction) (now : ℕ) (connects : Bool) :
    s.ConnectIfNeeded now connects = (s, false) ∨
    s.connected = false ∧ connects = false ∧
      s.ConnectIfNeeded now connects = ({ s with nextConnectAttempt := some (now + 1000) }, false) ∨
    s.connected = false ∧
      s.ConnectIfNeeded now connects =
        ({ s with connected := true, nextConnectAttempt := none }, true) := by
  unfold ConnectIfNeeded
  split
  · exact .inl rfl
  · next hoff =>
    rw [Bool.not_eq_true] at hoff
    split
    · exact .inl rfl
    · split
      · exact .inr (.inr ⟨hoff, rfl⟩)
      · next hc => exact .inr (.inl ⟨hoff, by simpa using hc, rfl⟩)

theorem Clean.covered_config_replay (h : s.Clean) (hrep : s.RepairsHarmless) :
    s.SendConfig.ReplayDevicePredictions.Covered := by
  have hsent := sent_SendConfig s
  exact (h.sent hsent fun _ _ => rfl).covered_replay (hrep.sent hsent)

theorem Covered.tickConnect (h : s.Covered) (hrep : s.RepairsHarmless) (now : ℕ)
    (connects : Bool) : (s.tickConnect now connects).Covered := by
  unfold Prediction.tickConnect
  obtain hc | ⟨hoff, -, hc⟩ | ⟨-, hc⟩ := ConnectIfNeeded_cases s now connects
  · rw [hc]
    exact h
  · rw [hc]
    exact h
  · rw [hc]
    have hclean : Clean { s with connected := true, nextConnectAttempt := none } := h.clean
    exact hclean.covered_config_replay hrep

/-- A scan that finds no other list leaves every strength as due as it was. -/
theorem Covered.of_scan (h : s.Covered) (sig : String) (now : ℕ)
    (hsame : s.lastPredictionDeviceSignature ≠ "" → sig = s.lastPredictionDeviceSignature) :
    Covered { s with lastPredictionReplayScan := now, lastPredictionDeviceSignature := sig } := by
  intro id hocc
  obtain hslot | ⟨hsaved, hdue⟩ := h id hocc
  · exact .inl hslot
  · refine .inr ⟨hsaved, ?_⟩
    obtain hoff | ⟨hne, hnonempty, hdiff⟩ | hlock := hdue
    · exact .inl hoff
    · refine .inr (.inl ⟨?_, hnonempty, ?_⟩)
      · rw [hsame hne]
        exact hne
      · rw [hsame hne]
        exact hdiff
    · exact .inr (.inr hlock)

theorem Covered.tickPredictionRestore (h : s.Covered) (hrep : s.RepairsHarmless) (now : ℕ) :
    (s.TickPredictionRestore now).Covered := by
  unfold TickPredictionRestore
  split
  · exact h
  · split
    · exact h
    · dsimp only
      split
      · exact h.of_scan s.lastPredictionDeviceSignature now (fun _ => rfl)
      · split
        · next hempty =>
          exact h.of_scan s.BuildPredictionDeviceSignature now fun hne => absurd hempty hne
        · split
          · exact h.of_scan s.lastPredictionDeviceSignature now (fun _ => rfl)
          · have hclean : Clean { s with
                lastPredictionReplayScan := now
                lastPredictionDeviceSignature := s.BuildPredictionDeviceSignature } := h.clean
            exact hclean.covered_replay hrep

theorem Covered.tickCalibrationLockClear (h : s.Covered) (hrep : s.RepairsHarmless) :
    s.TickCalibrationLockClear.Covered := by
  unfold TickCalibrationLockClear
  split
  · exact h
  · split
    · exact h
    · next hon =>
      push Not at hon
      have hsent := sent_sendEach s s.lockValue
      have hclean : (s.sendEach s.lockValue).Clean := h.clean.sent hsent fun id hs => by
        obtain hnone | ⟨-, hsaved, -⟩ := lockValue_eq (s := s) id
        · exact hnone
        · exact absurd hsaved hs
      cases hconn : (s.sendEach s.lockValue).connected with
      | false =>
        have hclean' : Clean { s.sendEach s.lockValue with
            lastKnownCalibrationLocks := s.calibrationLocks } := hclean
        exact hclean'.covered_of_disconnected hconn
      | true =>
        intro id hocc
        have hocc' : s.occupied id = true := (hsent.frame.occupied id).symm.trans hocc
        have hdes : (s.sendEach s.lockValue).desired id = s.desired id := hsent.frame.desired id
        obtain hslot | ⟨hmem, hzero⟩ := hsent.slots hconn id
        · obtain hnone | ⟨hsome, -, hzero⟩ := lockValue_eq (s := s) id
          · rw [hnone, Option.elim_none] at hslot
            obtain hright | ⟨hsaved, hoff | hsig | hlock⟩ := h id hocc'
            · exact .inl (hslot.trans (hright.trans hdes.symm))
            · rw [hoff] at hon
              exact absurd rfl hon.2
            · refine .inr ⟨(hsent.frame.saved id).2 hsaved, .inr (.inl ?_)⟩
              rw [hsent.frame.eq]
              exact hsig
            · -- a lock that is due is not skipped
              have hval : s.lockValue id = some 0 := by
                unfold lockValue
                dsimp only
                rw [if_neg (by rw [hsaved.1]; decide), if_neg (not_not.2 hlock.1), if_neg hlock.2]
              rw [hval] at hnone
              cases hnone
          · rw [hsome, Option.elim_some] at hslot
            refine .inl (hslot.trans (?_ : _ = (s.sendEach s.lockValue).desired id))
            rw [hdes, hzero]
            rfl
        · refine .inl (hzero.trans (?_ : _ = (s.sendEach s.lockValue).desired id))
          rw [hdes, hrep hmem id]

theorem sent_replay (s : Prediction) : ∃ value, Sent value s s.ReplayDevicePredictions := by
  unfold ReplayDevicePredictions
  split
  · exact ⟨_, .refl s⟩
  · exact ⟨_, sent_sendEach s _⟩

theorem RepairsHarmless.replay (h : s.RepairsHarmless) :
    s.ReplayDevicePredictions.RepairsHarmless := by
  obtain ⟨value, hsent⟩ := sent_replay s
  exact h.sent hsent

theorem RepairsHarmless.tickConnect (h : s.RepairsHarmless) (now : ℕ) (connects : Bool) :
    (s.tickConnect now connects).RepairsHarmless := by
  unfold Prediction.tickConnect
  obtain hc | ⟨-, -, hc⟩ | ⟨-, hc⟩ := ConnectIfNeeded_cases s now connects
  · rw [hc]
    exact h
  · rw [hc]
    exact h
  · rw [hc]
    have hrep : RepairsHarmless { s with connected := true, nextConnectAttempt := none } := h
    exact (hrep.sent (sent_SendConfig _)).replay

theorem RepairsHarmless.tickPredictionRestore (h : s.RepairsHarmless) (now : ℕ) :
    (s.TickPredictionRestore now).RepairsHarmless := by
  unfold TickPredictionRestore
  split
  · exact h
  · split
    · exact h
    · dsimp only
      split
      · exact h
      · split
        · exact h
        · split
          · exact h
          · have hrep : RepairsHarmless { s with
                lastPredictionReplayScan := now
                lastPredictionDeviceSignature := s.BuildPredictionDeviceSignature } := h
            exact hrep.replay

theorem Covered.tick (h : s.Covered) (hrep : s.RepairsHarmless) (now : ℕ) (connects : Bool) :
    (s.Tick now connects).Covered :=
  ((h.tickConnect hrep now connects).tickPredictionRestore (hrep.tickConnect now connects)
    now).tickCalibrationLockClear ((hrep.tickConnect now connects).tickPredictionRestore now)

theorem Covered.onStart (h : s.Covered) (hrep : s.RepairsHarmless) (now : ℕ) (connects : Bool) :
    (s.OnStart now connects).Covered := by
  unfold OnStart
  obtain hc | ⟨-, -, hc⟩ | ⟨-, hc⟩ := ConnectIfNeeded_cases s now connects
  · rw [hc]
    exact h.clean.covered_config_replay hrep
  · rw [hc]
    have hclean : Clean { s with nextConnectAttempt := some (now + 1000) } := h.clean
    exact hclean.covered_config_replay hrep
  · rw [hc]
    have hclean : Clean { s with connected := true, nextConnectAttempt := none } := h.clean
    exact hclean.covered_config_replay hrep

/-! ## Sliders -/

theorem SendDevicePrediction_self (s : Prediction) (id : Slot) (smoothness : ℤ)
    (hon : (s.SendDevicePrediction id smoothness).connected = true) :
    (s.SendDevicePrediction id smoothness).predictionSmoothness id = clampStrength smoothness := by
  unfold SendDevicePrediction at hon ⊢
  split at hon
  · next hoff =>
    rw [hoff] at hon
    cases hon
  · next hconn =>
    rw [if_neg hconn]
    obtain ⟨-, h | ⟨-, h⟩⟩ | ⟨hoff, -⟩ := send_cases s fun slots =>
      Function.update slots id (clampStrength smoothness)
    · rw [h, Function.update_self]
    · rw [h, Function.update_self]
    · rw [hoff] at hon
      cases hon

/-- A slot that is cleared, unless the request is lost. -/
theorem SendDevicePrediction_zero (s : Prediction) (id : Slot) {smoothness : ℤ}
    (hzero : clampStrength smoothness = 0)
    (h : s.predictionSmoothness id = 0 ∨
      s.connected = true ∧ s.sends.head? ≠ some (.closed false false)) :
    (s.SendDevicePrediction id smoothness).predictionSmoothness id = 0 := by
  unfold SendDevicePrediction
  split
  · next hoff =>
    obtain h | ⟨hon, -⟩ := h
    · exact h
    · rw [hoff] at hon
      cases hon
  · unfold send
    rw [hzero]
    cases hs : s.sends with
    | nil => simp
    | cons outcome rest =>
      rw [hs] at h
      cases outcome with
      | delivered => simp
      | repaired => simp
      | oversized => simp
      | closed applied restarted =>
        cases applied with
        | true => simp
        | false =>
          cases restarted with
          | true => simp
          | false => simpa using h

theorem SendDevicePrediction_lost (s : Prediction) (id : Slot) (smoothness : ℤ)
    (h : s.Lost s.sends) : (s.SendDevicePrediction id smoothness).connected = false := by
  unfold SendDevicePrediction
  split
  · assumption
  · next hon =>
    obtain hoff | ⟨applied, restarted, hhead⟩ := h
    · exact absurd hoff hon
    · unfold send
      cases hs : s.sends with
      | nil =>
        rw [hs] at hhead
        cases hhead
      | cons outcome rest =>
        rw [hs, List.head?_cons, Option.some_inj] at hhead
        subst hhead
        rfl

/-- A request for one slot, behind a change of the strength of its device only. -/
theorem Covered.request {strengths : Strengths} {smoothness : ℤ} (h : s.Covered)
    (hkeep : ∀ serial, serial ≠ (s.devices id).serial →
      strengths.find? serial = s.trackerSmoothness.find? serial)
    (hother : ∀ i, i ≠ id → s.occupied i = true → (s.devices i).serial ≠ (s.devices id).serial)
    (hrep : .repaired ∈ s.sends → ∀ i, i ≠ id → s.desired i = 0)
    (ht : t = { s with trackerSmoothness := strengths }.SendDevicePrediction id smoothness)
    (hself : t.predictionSmoothness id = t.desired id ∨ t.Saved id ∧ t.Due id) : t.Covered := by
  intro i hocc
  by_cases hi : i = id
  · rw [hi]
    exact hself
  have hsent := sent_SendDevicePrediction { s with trackerSmoothness := strengths } id smoothness
  rw [← ht] at hsent
  have hframe := hsent.frame
  have hocc' : s.occupied i = true := (hframe.occupied i).symm.trans hocc
  have hsaved : t.saved i = s.saved i := by
    rw [hframe.eq]
    exact hkeep _ (hother i hi hocc')
  have hdes : t.desired i = s.desired i := by
    unfold desired
    rw [hsaved, hframe.eq]
    rfl
  have hSaved : t.Saved i ↔ s.Saved i := by
    unfold Saved
    rw [hsaved, hframe.eq]
    rfl
  rw [hdes, hSaved]
  by_cases hS : s.Saved i
  · cases hon : t.connected with
    | false => exact .inr ⟨hS, .inl hon⟩
    | true =>
      have hslot : t.predictionSmoothness i = s.predictionSmoothness i ∨
          .repaired ∈ s.sends ∧ t.predictionSmoothness i = 0 := by
        have := hsent.slots hon i
        rwa [if_neg hi] at this
      obtain hslot | ⟨hmem, hzero⟩ := hslot
      · rw [hslot]
        obtain hright | ⟨-, hoff | hsig | hlock⟩ := h i hocc'
        · exact .inl hright
        · have hoff' : ({ s with trackerSmoothness := strengths } : Prediction).connected = true :=
            hsent.connected hon
          rw [show s.connected = true from hoff'] at hoff
          cases hoff
        · refine .inr ⟨hS, .inr (.inl ?_)⟩
          rw [hframe.eq]
          exact hsig
        · refine .inr ⟨hS, .inr (.inr ?_)⟩
          rw [hframe.eq]
          refine ⟨?_, hlock.2⟩
          have hkey := hlock.1
          rw [calibrationLocks, Finset.mem_filter, Strengths.mem_keys] at hkey ⊢
          exact ⟨fun hnone => hkey.1 ((hkeep _ (hother i hi hocc')).symm.trans hnone), hkey.2⟩
      · exact .inl (hzero.trans (hrep hmem i hi).symm)
  · have hzero : s.predictionSmoothness i = 0 := h.clean i hocc' hS
    refine .inl ?_
    rw [desired_of_not_saved hS]
    obtain hslot | hslot := hsent.untouched i (if_neg hi)
    · exact hslot.trans hzero
    · exact hslot

theorem clampStrength_nonpos {smoothness : ℤ} (h : smoothness ≤ 0) :
    clampStrength smoothness = 0 := by
  unfold clampStrength
  omega

/-- A strength above 0 whose request is lost. -/
theorem Covered.slider_lost (h : s.Covered) {smoothness : ℤ} (hpos : 0 < smoothness)
    (hlost : s.Lost s.sends) (ht : s.slider id smoothness = some t) : t.Covered := by
  unfold slider at ht
  split at ht
  · next hcond =>
    obtain ⟨-, hread, -, -⟩ := hcond
    dsimp only at ht
    rw [if_neg (by omega), Option.some_inj] at ht
    set strengths := s.trackerSmoothness.assign (s.devices id).serial smoothness
    have hsent := sent_SendDevicePrediction { s with trackerSmoothness := strengths } id smoothness
    have hoff := SendDevicePrediction_lost { s with trackerSmoothness := strengths } id smoothness
      hlost
    rw [ht] at hsent hoff
    have hclean : Clean { s with trackerSmoothness := strengths } := fun i hocc hS =>
      h.clean i hocc fun hSaved => hS ⟨hSaved.1, by
        change ((s.trackerSmoothness.assign (s.devices id).serial smoothness).find?
          (s.devices i).serial).isSome = true
        rw [Strengths.find?_assign]
        split
        · rfl
        · exact hSaved.2⟩
    refine (hclean.sent hsent fun i hS => ?_).covered_of_disconnected hoff
    refine if_neg fun hi => hS ?_
    subst hi
    refine ⟨hread, ?_⟩
    change ((s.trackerSmoothness.assign (s.devices i).serial smoothness).find?
      (s.devices i).serial).isSome = true
    rw [Strengths.find?_assign, if_pos rfl]
    rfl
  · cases ht

theorem Covered.slider (h : s.Covered) {smoothness : ℤ}
    (hother : ∀ i, i ≠ id → s.occupied i = true → (s.devices i).serial ≠ (s.devices id).serial)
    (heligible : s.eligible id = true ∨ smoothness ≤ 0)
    (hrep : .repaired ∈ s.sends → ∀ i, i ≠ id → s.desired i = 0)
    (hclear : smoothness ≤ 0 → s.predictionSmoothness id = 0 ∨
      s.connected = true ∧ s.sends.head? ≠ some (.closed false false))
    (ht : s.slider id smoothness = some t) : t.Covered := by
  unfold Prediction.slider at ht
  split at ht
  · next hcond =>
    obtain ⟨-, hread, -, hlocked⟩ := hcond
    dsimp only at ht
    rw [isLocked, Bool.or_eq_false_iff] at hlocked
    rw [Option.some_inj] at ht
    refine h.request (fun serial hne => ?_) hother hrep ht.symm ?_
    · split
      · rw [Strengths.find?_erase, if_neg hne]
      · rw [Strengths.find?_assign, if_neg hne]
    · by_cases hpos : smoothness ≤ 0
      · rw [if_pos hpos] at ht
        refine .inl ?_
        have hframe := (sent_SendDevicePrediction { s with
          trackerSmoothness := s.trackerSmoothness.erase (s.devices id).serial } id
            smoothness).frame
        rw [ht] at hframe
        have hslot := SendDevicePrediction_zero { s with
          trackerSmoothness := s.trackerSmoothness.erase (s.devices id).serial } id
            (clampStrength_nonpos hpos) (hclear hpos)
        rw [ht] at hslot
        rw [hslot, hframe.desired, desired_of_not_saved]
        rintro ⟨-, hsome⟩
        change ((s.trackerSmoothness.erase (s.devices id).serial).find?
          (s.devices id).serial).isSome = true at hsome
        rw [Strengths.find?_erase, if_pos rfl] at hsome
        cases hsome
      · rw [if_neg hpos] at ht
        have hframe := (sent_SendDevicePrediction { s with
          trackerSmoothness := s.trackerSmoothness.assign (s.devices id).serial smoothness } id
            smoothness).frame
        have hself := SendDevicePrediction_self { s with
          trackerSmoothness := s.trackerSmoothness.assign (s.devices id).serial smoothness } id
            smoothness
        rw [ht] at hframe hself
        have hsaved : Prediction.saved { s with
            trackerSmoothness := s.trackerSmoothness.assign (s.devices id).serial smoothness } id =
              some smoothness := by
          change (s.trackerSmoothness.assign (s.devices id).serial smoothness).find?
            (s.devices id).serial = some smoothness
          rw [Strengths.find?_assign, if_pos rfl]
        cases hon : t.connected with
        | false => exact .inr ⟨(hframe.saved id).2 ⟨hread, by rw [hsaved]; rfl⟩, .inl hon⟩
        | true =>
          refine .inl ((hself hon).trans ?_)
          have he : s.eligible id = true := heligible.resolve_right hpos
          rw [hframe.desired, desired, if_neg, hsaved, Option.getD_some]
          rintro (hhmd | hlock | hel | hre)
          · exact absurd (hlocked.1.symm.trans hhmd) (by decide)
          · exact absurd (hlocked.2.symm.trans hlock) (by decide)
          · exact absurd (he.symm.trans hel) (by decide)
          · exact absurd (hread.symm.trans hre) (by decide)
  · cases ht

theorem Covered.prune (h : s.Covered)
    (hother : ∀ i, i ≠ id → s.occupied i = true → (s.devices i).serial ≠ (s.devices id).serial)
    (hrep : .repaired ∈ s.sends → ∀ i, i ≠ id → s.desired i = 0)
    (hclear : s.predictionSmoothness id = 0 ∨
      s.connected = true ∧ s.sends.head? ≠ some (.closed false false))
    (ht : s.prune id = some t) : t.Covered := by
  unfold Prediction.prune at ht
  split at ht
  · rw [Option.some_inj] at ht
    refine h.request (fun serial hne => ?_) hother hrep ht.symm (.inl ?_)
    · rw [Strengths.find?_erase, if_neg hne]
    · have hframe := (sent_SendDevicePrediction { s with
        trackerSmoothness := s.trackerSmoothness.erase (s.devices id).serial } id 0).frame
      have hslot := SendDevicePrediction_zero { s with
        trackerSmoothness := s.trackerSmoothness.erase (s.devices id).serial } id
          (clampStrength_nonpos le_rfl) hclear
      rw [ht] at hframe hslot
      rw [hslot, hframe.desired, desired_of_not_saved]
      rintro ⟨-, hsome⟩
      change ((s.trackerSmoothness.erase (s.devices id).serial).find?
        (s.devices id).serial).isSome = true at hsome
      rw [Strengths.find?_erase, if_pos rfl] at hsome
      cases hsome
  · cases ht

/-! ## Steps -/

/-- **Every step that meets its condition** keeps the slots covered. -/
theorem Covered.step {a : Action} (h : s.Covered) (hmeets : s.Meets a)
    (ht : Prediction.step s a = some t) : t.Covered := by
  cases a with
  | start now connects sends =>
    simp only [Prediction.step, Option.ite_none_right_eq_some, Option.some_inj] at ht
    have hcov : Covered { s with clock := now, sends := sends } := h
    rw [← ht.2]
    exact hcov.onStart hmeets now connects
  | tick now connects sends =>
    simp only [Prediction.step, Option.ite_none_right_eq_some, Option.some_inj] at ht
    have hcov : Covered { s with clock := now, sends := sends } := h
    rw [← ht.2]
    exact hcov.tick hmeets now connects
  | slider id smoothness sends =>
    have hcov : Covered { s with sends := sends } := h
    obtain ⟨hpos, hlost⟩ | ⟨hother, heligible, hrep, hclear⟩ := hmeets
    · exact hcov.slider_lost hpos hlost ht
    · exact hcov.slider hother heligible hrep hclear ht
  | prune id sends =>
    have hcov : Covered { s with sends := sends } := h
    obtain ⟨hother, hrep, hclear⟩ := hmeets
    exact hcov.prune hother hrep hclear ht
  | toggleSmart sends =>
    have hcov : Covered { s with sends := sends } := h
    rw [← Option.some_inj.1 ht]
    exact hcov.clean.covered_replay hmeets
  | setDevices vrSystem devices =>
    rw [← Option.some_inj.1 ht]
    exact hmeets
  | setLocks locks =>
    rw [← Option.some_inj.1 ht]
    exact hmeets
  | restart =>
    rw [← Option.some_inj.1 ht]
    exact hmeets

/-- Neither the last scan nor the next attempt is far in the future. -/
structure Timed (s : Prediction) : Prop where
  scan : s.lastPredictionReplayScan ≤ s.clock
  attempt : ∀ at' ∈ s.nextConnectAttempt, at' ≤ s.clock + 1000

theorem Frame.timed (h : Frame s t) (hs : s.Timed) : t.Timed where
  scan := by rw [h.lastPredictionReplayScan, h.clock]; exact hs.scan
  attempt := by rw [h.nextConnectAttempt, h.clock]; exact hs.attempt

theorem Timed.replay (h : s.Timed) : s.ReplayDevicePredictions.Timed := by
  obtain ⟨value, hsent⟩ := sent_replay s
  exact hsent.frame.timed h

theorem Timed.config_replay (h : s.Timed) : s.SendConfig.ReplayDevicePredictions.Timed :=
  ((sent_SendConfig s).frame.timed h).replay

theorem Timed.connectIfNeeded (h : s.Timed) (connects : Bool) :
    (s.ConnectIfNeeded s.clock connects).1.Timed := by
  obtain hc | ⟨-, -, hc⟩ | ⟨-, hc⟩ := ConnectIfNeeded_cases s s.clock connects
  · rw [hc]
    exact h
  · rw [hc]
    refine ⟨h.scan, fun at' hat => ?_⟩
    rw [Option.mem_some_iff] at hat
    exact hat.ge
  · rw [hc]
    exact ⟨h.scan, fun at' hat => by cases hat⟩

theorem clock_connectIfNeeded (s : Prediction) (now : ℕ) (connects : Bool) :
    (s.ConnectIfNeeded now connects).1.clock = s.clock := by
  obtain hc | ⟨-, -, hc⟩ | ⟨-, hc⟩ := ConnectIfNeeded_cases s now connects
  all_goals rw [hc]

theorem clock_replay (s : Prediction) : s.ReplayDevicePredictions.clock = s.clock := by
  obtain ⟨value, hsent⟩ := sent_replay s
  exact hsent.frame.clock

theorem Timed.tickConnect (h : s.Timed) (connects : Bool) :
    (s.tickConnect s.clock connects).Timed ∧
      (s.tickConnect s.clock connects).clock = s.clock := by
  have hconnect := h.connectIfNeeded connects
  have hclock := clock_connectIfNeeded s s.clock connects
  unfold Prediction.tickConnect
  rcases hc : s.ConnectIfNeeded s.clock connects with ⟨u, new⟩
  rw [hc] at hconnect hclock
  cases new with
  | false => exact ⟨hconnect, hclock⟩
  | true =>
    refine ⟨hconnect.config_replay, ?_⟩
    exact (clock_replay _).trans ((sent_SendConfig u).frame.clock.trans hclock)

theorem Timed.tickPredictionRestore (h : s.Timed) :
    (s.TickPredictionRestore s.clock).Timed ∧
      (s.TickPredictionRestore s.clock).clock = s.clock := by
  unfold TickPredictionRestore
  split
  · exact ⟨h, rfl⟩
  · split
    · exact ⟨h, rfl⟩
    · dsimp only
      split
      · exact ⟨⟨le_rfl, h.attempt⟩, rfl⟩
      · split
        · exact ⟨⟨le_rfl, h.attempt⟩, rfl⟩
        · split
          · exact ⟨⟨le_rfl, h.attempt⟩, rfl⟩
          · have hscanned : Timed { s with
                lastPredictionReplayScan := s.clock
                lastPredictionDeviceSignature := s.BuildPredictionDeviceSignature } :=
              ⟨le_rfl, h.attempt⟩
            exact ⟨hscanned.replay, clock_replay _⟩

theorem Timed.tickCalibrationLockClear (h : s.Timed) : s.TickCalibrationLockClear.Timed := by
  unfold TickCalibrationLockClear
  split
  · exact h
  · split
    · exact h
    · have hframe := (sent_sendEach s s.lockValue).frame
      have htimed := hframe.timed h
      exact ⟨htimed.scan, htimed.attempt⟩

theorem Timed.tick (h : s.Timed) (connects : Bool) : (s.Tick s.clock connects).Timed := by
  unfold Prediction.Tick
  obtain ⟨hconnect, hclock⟩ := h.tickConnect connects
  obtain ⟨hrestore, -⟩ := hconnect.tickPredictionRestore
  rw [hclock] at hrestore
  exact hrestore.tickCalibrationLockClear

theorem Timed.at (h : s.Timed) {now : ℕ} (hnow : s.clock ≤ now) (sends : List SendOutcome) :
    Timed { s with clock := now, sends := sends } :=
  ⟨h.scan.trans hnow, fun at' hat => (h.attempt at' hat).trans (Nat.add_le_add_right hnow 1000)⟩

theorem Timed.step {a : Action} (h : s.Timed) (ht : Prediction.step s a = some t) : t.Timed := by
  cases a with
  | start now connects sends =>
    simp only [Prediction.step, Option.ite_none_right_eq_some, Option.some_inj] at ht
    rw [← ht.2]
    exact ((h.at ht.1 sends).connectIfNeeded connects).config_replay
  | tick now connects sends =>
    simp only [Prediction.step, Option.ite_none_right_eq_some, Option.some_inj] at ht
    rw [← ht.2]
    exact (h.at ht.1 sends).tick connects
  | slider id smoothness sends =>
    simp only [Prediction.step, Prediction.slider, Option.ite_none_right_eq_some,
      Option.some_inj] at ht
    rw [← ht.2]
    exact (sent_SendDevicePrediction _ id smoothness).frame.timed ⟨h.scan, h.attempt⟩
  | prune id sends =>
    simp only [Prediction.step, Prediction.prune, Option.ite_none_right_eq_some,
      Option.some_inj] at ht
    rw [← ht.2]
    exact (sent_SendDevicePrediction _ id 0).frame.timed ⟨h.scan, h.attempt⟩
  | toggleSmart sends =>
    rw [← Option.some_inj.1 ht]
    exact Timed.replay ⟨h.scan, h.attempt⟩
  | setDevices vrSystem devices =>
    rw [← Option.some_inj.1 ht]
    exact ⟨h.scan, h.attempt⟩
  | setLocks locks =>
    rw [← Option.some_inj.1 ht]
    exact ⟨h.scan, h.attempt⟩
  | restart =>
    rw [← Option.some_inj.1 ht]
    exact ⟨h.scan, h.attempt⟩

/-! ## The ticks of the quiet phase -/

/-- All requests succeed. -/
theorem send_quiet (hs : s.sends = []) (handle : (Slot → ℕ) → Slot → ℕ) :
    (s.send handle).connected = s.connected ∧ (s.send handle).sends = [] := by
  unfold send
  rw [hs]
  exact ⟨rfl, rfl⟩

theorem sendEach_quiet (hs : s.sends = []) (value : Slot → Option ℤ) :
    (s.sendEach value).connected = s.connected ∧ (s.sendEach value).sends = [] := by
  unfold sendEach
  induction List.finRange k_unMaxTrackedDeviceCount generalizing s with
  | nil => exact ⟨rfl, hs⟩
  | cons id l ih =>
    have hhead : ∀ smoothness, (s.SendDevicePrediction id smoothness).connected = s.connected ∧
        (s.SendDevicePrediction id smoothness).sends = [] := by
      intro smoothness
      unfold SendDevicePrediction
      split
      · exact ⟨rfl, hs⟩
      · exact send_quiet hs _
    rw [List.foldl_cons]
    cases value id with
    | none => exact ih hs
    | some smoothness =>
      obtain ⟨hconn, hsends⟩ := ih (hhead smoothness).2
      exact ⟨hconn.trans (hhead smoothness).1, hsends⟩

theorem replay_quiet (hs : s.sends = []) :
    s.ReplayDevicePredictions.connected = s.connected ∧ s.ReplayDevicePredictions.sends = [] := by
  unfold ReplayDevicePredictions
  split
  · exact ⟨rfl, hs⟩
  · exact sendEach_quiet hs _

theorem config_replay_quiet (hs : s.sends = []) :
    s.SendConfig.ReplayDevicePredictions.connected = s.connected ∧
      s.SendConfig.ReplayDevicePredictions.sends = [] := by
  have hconfig : s.SendConfig.connected = s.connected ∧ s.SendConfig.sends = [] := by
    unfold SendConfig
    split
    · exact ⟨rfl, hs⟩
    · exact send_quiet hs _
  obtain ⟨hconn, hsends⟩ := replay_quiet hconfig.2
  exact ⟨hconn.trans hconfig.1, hsends⟩

theorem Frame.changed (h : Frame s t) : t.Changed ↔ s.Changed := by
  rw [h.eq]
  rfl

/-- What a quiet tick makes of the connection. -/
theorem tickConnect_quiet (hs : s.sends = []) (now : ℕ) :
    (s.tickConnect now true).sends = [] ∧ Frame s { s.tickConnect now true with
        nextConnectAttempt := s.nextConnectAttempt } ∧
      ((s.tickConnect now true).connected = false →
        s.connected = false ∧ (s.tickConnect now true).nextConnectAttempt = s.nextConnectAttempt ∧
          ∃ at' ∈ s.nextConnectAttempt, now < at') := by
  unfold tickConnect ConnectIfNeeded
  by_cases hon : s.connected = true
  · rw [if_pos hon]
    exact ⟨hs, .refl s, fun hoff => absurd (hon.symm.trans hoff) (by decide)⟩
  · rw [if_neg hon]
    by_cases hwait : s.nextConnectAttempt.any (fun t => decide (now < t)) = true
    · rw [if_pos hwait]
      refine ⟨hs, .refl s, fun hoff => ⟨hoff, rfl, ?_⟩⟩
      cases hnext : s.nextConnectAttempt with
      | none =>
        rw [hnext] at hwait
        cases hwait
      | some at' =>
        rw [hnext] at hwait
        exact ⟨at', rfl, by simpa using hwait⟩
    · rw [if_neg hwait, if_pos rfl]
      have hs' : Prediction.sends { s with connected := true, nextConnectAttempt := none } = [] := hs
      obtain ⟨hconn, hsends⟩ := config_replay_quiet hs'
      refine ⟨hsends, ?_, fun hoff => absurd (show true = false from hconn.symm.trans hoff)
        (by decide)⟩
      obtain ⟨value, hreplay⟩ := sent_replay
        (SendConfig { s with connected := true, nextConnectAttempt := none })
      have hframe := (sent_SendConfig { s with
        connected := true, nextConnectAttempt := none }).frame.trans hreplay.frame
      exact ⟨hframe.1, hframe.2, hframe.3, hframe.4, rfl, hframe.6, hframe.7, hframe.8, hframe.9⟩

/-- What a quiet tick makes of the list of devices. -/
theorem tickPredictionRestore_quiet (hs : s.sends = []) (now : ℕ) :
    (s.TickPredictionRestore now).sends = [] ∧
      (s.TickPredictionRestore now).connected = s.connected ∧
      (s.TickPredictionRestore now).nextConnectAttempt = s.nextConnectAttempt ∧
      ((s.TickPredictionRestore now).Changed → s.Changed ∧
        (s.TickPredictionRestore now).lastPredictionReplayScan = s.lastPredictionReplayScan ∧
        (s.connected = true → now - s.lastPredictionReplayScan < 2000)) := by
  unfold TickPredictionRestore
  split
  · next hoff => exact ⟨hs, rfl, rfl, fun h => ⟨h, rfl, fun hon => by rw [hoff] at hon; cases hon⟩⟩
  · split
    · next hwait => exact ⟨hs, rfl, rfl, fun h => ⟨h, rfl, fun _ => hwait⟩⟩
    · dsimp only
      split
      · next hempty => exact ⟨hs, rfl, rfl, fun h => absurd hempty h.2.1⟩
      · split
        · exact ⟨hs, rfl, rfl, fun h => absurd rfl h.2.2⟩
        · split
          · next hsame => exact ⟨hs, rfl, rfl, fun h => absurd hsame h.2.2⟩
          · have hs' : Prediction.sends { s with
                lastPredictionReplayScan := now
                lastPredictionDeviceSignature := s.BuildPredictionDeviceSignature } = [] := hs
            obtain ⟨hconn, hsends⟩ := replay_quiet hs'
            obtain ⟨value, hsent⟩ := sent_replay { s with
              lastPredictionReplayScan := now
              lastPredictionDeviceSignature := s.BuildPredictionDeviceSignature }
            refine ⟨hsends, hconn, hsent.frame.nextConnectAttempt, fun h => ?_⟩
            rw [hsent.frame.changed] at h
            exact absurd rfl h.2.2

/-- What a quiet tick makes of the locks. -/
theorem tickCalibrationLockClear_quiet (hs : s.sends = []) :
    s.TickCalibrationLockClear.connected = s.connected ∧
      s.TickCalibrationLockClear.nextConnectAttempt = s.nextConnectAttempt ∧
      s.TickCalibrationLockClear.lastPredictionReplayScan = s.lastPredictionReplayScan ∧
      (s.TickCalibrationLockClear.Changed ↔ s.Changed) ∧
      (s.connected = true → s.TickCalibrationLockClear.vrSystem = false ∨
        s.TickCalibrationLockClear.calibrationLocks =
          s.TickCalibrationLockClear.lastKnownCalibrationLocks) := by
  unfold TickCalibrationLockClear
  split
  · next hsame => exact ⟨rfl, rfl, rfl, Iff.rfl, fun _ => .inr hsame⟩
  · split
    · next hidle =>
      refine ⟨rfl, rfl, rfl, Iff.rfl, fun hon => .inl (hidle.resolve_right fun hoff => ?_)⟩
      rw [hoff] at hon
      cases hon
    · have hframe := (sent_sendEach s s.lockValue).frame
      refine ⟨(sendEach_quiet hs s.lockValue).1, hframe.nextConnectAttempt,
        hframe.lastPredictionReplayScan, ?_, fun _ => .inr ?_⟩
      · exact hframe.changed
      · change (s.sendEach s.lockValue).calibrationLocks = s.calibrationLocks
        rw [hframe.eq]
        rfl

/-- The connection is attempted and the devices are scanned soon after `c`, where they need to. -/
structure Pending (c : ℕ) (s : Prediction) : Prop where
  attempt : s.connected = false → ∀ at' ∈ s.nextConnectAttempt, at' ≤ c + 1000
  scan : s.Changed → s.lastPredictionReplayScan ≤ c

/-- Nothing is due. -/
structure Rested (s : Prediction) : Prop where
  connected : s.connected = true
  unchanged : ¬ s.Changed
  locks : s.vrSystem = false ∨ s.calibrationLocks = s.lastKnownCalibrationLocks

theorem Rested.settled (h : s.Rested) (hcov : s.Covered) : s.Settled := by
  intro id hocc
  obtain hright | ⟨-, hoff | hchanged | hlock⟩ := hcov id hocc
  · exact hright
  · exact absurd (h.connected.symm.trans hoff) (by decide)
  · exact absurd hchanged h.unchanged
  · obtain hvr | hlocks := h.locks
    · rw [occupied, hvr] at hocc
      cases hocc
    · rw [hlocks] at hlock
      exact absurd hlock.1 hlock.2

/-- **A quiet tick** keeps what is pending where it was, and a rescan interval later nothing is. -/
theorem tick_quiet {c : ℕ} (hs : s.sends = []) (now : ℕ) (h : s.Pending c) :
    (s.Tick now true).Pending c ∧
      (s.Rested ∨ c + 2000 ≤ now → (s.Tick now true).Rested) := by
  obtain ⟨hs₁, hframe₁, hoff₁⟩ := tickConnect_quiet hs now
  have hchanged₁ : (s.tickConnect now true).Changed ↔ s.Changed := hframe₁.changed
  have hscan₁ : (s.tickConnect now true).lastPredictionReplayScan = s.lastPredictionReplayScan :=
    hframe₁.lastPredictionReplayScan
  obtain ⟨hs₂, hconn₂, hnext₂, hchanged₂⟩ := tickPredictionRestore_quiet hs₁ now
  obtain ⟨hconn₃, hnext₃, hscan₃, hchanged₃, hlocks₃⟩ := tickCalibrationLockClear_quiet hs₂
  refine ⟨⟨fun hoff => ?_, fun hchanged => ?_⟩, fun hlate => ?_⟩
  · obtain ⟨hoff', hnext, -⟩ := hoff₁ (hconn₂.symm.trans (hconn₃.symm.trans hoff))
    intro at' hat
    refine h.attempt hoff' at' ?_
    rw [← hnext, ← hnext₂, ← hnext₃]
    exact hat
  · obtain ⟨hchanged', hscan, -⟩ := hchanged₂ (hchanged₃.1 hchanged)
    rw [Tick, hscan₃, hscan, hscan₁]
    exact h.scan (hchanged₁.1 hchanged')
  · have hon₁ : (s.tickConnect now true).connected = true := by
      by_contra hoff
      obtain ⟨hoff', -, at', hat, hwait⟩ := hoff₁ (by simpa using hoff)
      obtain hrest | hnow := hlate
      · exact absurd (hrest.connected.symm.trans hoff') (by decide)
      · have := h.attempt hoff' at' hat
        omega
    have hon₂ := hconn₂.trans hon₁
    refine ⟨hconn₃.trans hon₂, fun hchanged => ?_, hlocks₃ hon₂⟩
    obtain ⟨hchanged', -, hsoon⟩ := hchanged₂ (hchanged₃.1 hchanged)
    rw [hchanged₁] at hchanged'
    obtain hrest | hnow := hlate
    · exact hrest.unchanged hchanged'
    · have hscan := h.scan hchanged'
      have := hsoon hon₁
      rw [hscan₁] at this
      omega

/-- **Quiet ticks**, the last of them late. -/
theorem Rested.quiet {c : ℕ} {times : List ℕ} (hcov : s.Covered) (hpend : s.Pending c)
    (ht : runTo Prediction.step s (Prediction.quiet times) = some t)
    (hlate : s.Rested ∨ ∃ now ∈ times, c + 2000 ≤ now) : t.Rested ∧ t.Covered := by
  induction times generalizing s with
  | nil =>
    cases ht
    obtain hrest | ⟨now, hnow, -⟩ := hlate
    · exact ⟨hrest, hcov⟩
    · cases hnow
  | cons now times ih =>
    rw [Prediction.quiet, List.map_cons, runTo, Option.bind_eq_some_iff] at ht
    obtain ⟨u, hu, hrun⟩ := ht
    have hcov' : u.Covered := hcov.step (a := .tick now true []) (by rintro ⟨⟩) hu
    simp only [Prediction.step, Option.ite_none_right_eq_some, Option.some_inj] at hu
    obtain ⟨-, rfl⟩ := hu
    have hpend' : Pending c { s with clock := now, sends := [] } := ⟨hpend.attempt, hpend.scan⟩
    obtain ⟨hkeep, hrested⟩ := tick_quiet rfl now hpend'
    refine ih hcov' hkeep hrun ?_
    obtain hrest | ⟨late, hmem, hle⟩ := hlate
    · exact .inl (hrested (.inl ⟨hrest.connected, hrest.unchanged, hrest.locks⟩))
    · obtain rfl | hmem := List.mem_cons.1 hmem
      · exact .inl (hrested (.inr hle))
      · exact .inr ⟨late, hmem, hle⟩

theorem Covered.converges (hcov : s.Covered) (htimed : s.Timed) : s.Converges := by
  intro times t ht hlate
  have hpend : s.Pending s.clock := ⟨fun _ => htimed.attempt, fun _ => htimed.scan⟩
  obtain ⟨hrest, hcov'⟩ := Rested.quiet hcov hpend ht (.inr hlate)
  exact hrest.settled hcov'

end Values

/-! ## From the start of the plugin -/

/-- The plugin before its start. -/
def initial (vrSystem : Bool) (devices : Slot → Device) (locks : List String)
    (predictionSmoothness : Slot → ℕ) (trackerSmoothness : Strengths) : Prediction :=
  { vrSystem := vrSystem, devices := devices, locks := locks
    predictionSmoothness := predictionSmoothness, trackerSmoothness := trackerSmoothness }

/-- **Saved strengths reach the driver** in every run whose steps meet the condition. -/
theorem strengths_reach_driver (vrSystem : Bool) (devices : Slot → Device) (locks : List String)
    (predictionSmoothness : Slot → ℕ) (trackerSmoothness : Strengths) (actions : List Action)
    (hclean : (initial vrSystem devices locks predictionSmoothness trackerSmoothness).Clean)
    (hmeets : AllSteps step Meets
      (initial vrSystem devices locks predictionSmoothness trackerSmoothness) actions) :
    Always step Converges
      (initial vrSystem devices locks predictionSmoothness trackerSmoothness) actions := by
  refine Always.of_inv (I := fun s => s.Covered ∧ s.Timed)
    (fun s a t hs ha ht => ⟨hs.1.step ha ht, hs.2.step ht⟩)
    (fun s hs => hs.1.converges hs.2) ⟨hclean.covered_of_disconnected rfl, le_rfl, ?_⟩ hmeets
  intro at' hat
  cases hat

/-- A tracker in a slot. -/
def tracker (slot id : Slot) : Device :=
  if id = slot then
    { deviceClass := .GenericTracker, serial := "LHR-1", modelNumber := "Tracker"
      trackingSystemName := "lighthouse" }
  else {}

/-- The tracker changes its slot, the pipe breaks, and calibration locks the tracker. -/
theorem strengths_reach_driver_tracker :
    Always step Converges
      (initial true (tracker ⟨1, by decide⟩) [] (fun _ => 0) [("LHR-1", 40)])
      [.start 0 true [], .tick 2000 true [], .setDevices true (tracker ⟨2, by decide⟩),
        .tick 4000 true [.closed false true], .tick 4100 true [], .slider ⟨2, by decide⟩ 30 [],
        .setLocks ["LHR-1"], .tick 4200 true []] :=
  strengths_reach_driver true (tracker ⟨1, by decide⟩) [] (fun _ => 0) [("LHR-1", 40)] _
    (fun _ _ _ => rfl) (by decide +kernel)

/-- Calibration locks the tracker and releases it. -/
def lockAndRelease : List Action :=
  [.start 0 true [], .setLocks ["LHR-1"], .tick 100 true [], .setLocks [], .tick 200 true []]

/-- The strength that a lock clears stays 0 when the lock is released. -/
theorem released_lock_keeps_zero :
    ¬ Always step Converges
      (initial true (tracker ⟨1, by decide⟩) [] (fun _ => 0) [("LHR-1", 40)]) lockAndRelease := by
  intro h
  have hend : ∃ s ∈ runTo step (initial true (tracker ⟨1, by decide⟩) [] (fun _ => 0)
      [("LHR-1", 40)]) lockAndRelease,
        s.clock = 200 ∧ ∃ t ∈ runTo step s (quiet [2300]), ¬ t.Settled := by
    decide +kernel
  obtain ⟨s, hs, hclock, t, ht, hne⟩ := hend
  refine hne (h.runTo hs [2300] t ht ⟨2300, List.mem_singleton_self _, ?_⟩)
  rw [hclock]
  decide

end Prediction

end WKPairDriver.Smoothing
