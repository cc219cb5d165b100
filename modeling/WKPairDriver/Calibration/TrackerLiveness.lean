import Mathlib
import WKPairDriver.Lib.History

/-!
# Which tracker is still there: `TrackerLiveness.h`

SteamVR keeps the last pose of a tracker that went silent.  `TickTrackerLiveness` declares a device
offline when its pose stays the same while the headset moves, and online again once its pose has
changed for a while.

* `offline_edges` — a tick that declares a device offline found it disconnected, or frozen for eight
  seconds with a headset that moved; `stillHeadset_offline` has one that stands still.
* `recoveries_debounced` — a recovery has two seconds of changing poses behind it, if no
  disconnected tick falls into a debounce that runs.
* `disconnectedTick_bridged` — such a tick is not noticed.
-/

set_option autoImplicit false

namespace WKPairDriver.Calibration.Liveness

open Lib

def kFrozenPoseThresholdSec : ℚ := 8.0
def kHmdMovedThresholdMps : ℚ := 0.02
def kReconnectDebounceSec : ℚ := 2.0

structure TrackerLivenessState where
  poseHashSinceSec : ℚ
  lastPoseHash : UInt64
  offlineSinceSec : ℚ
  reconnectSinceSec : ℚ
  hmdMovedDuringFreeze : Bool
deriving DecidableEq

/-- `TrackerLivenessState{}`, which is also what `Reset` leaves. -/
def TrackerLivenessState.new : TrackerLivenessState := ⟨-1.0, 0, -1.0, -1.0, false⟩

structure TrackerLivenessInputs where
  posHash : UInt64
  deviceIsConnected : Bool
  hmdSpeedMps : ℚ
  now : ℚ
deriving DecidableEq

variable (s : TrackerLivenessState) (input : TrackerLivenessInputs)

def IsOffline : Bool := decide (0 ≤ s.offlineSinceSec)

/-- The offline edge. -/
def TrackerLivenessState.goOffline (now : ℚ) : TrackerLivenessState :=
  { s with offlineSinceSec := now, reconnectSinceSec := -1.0 }

/-! Each branch below is the new state and what the function returns. -/

def tickDisconnected : TrackerLivenessState × Bool :=
  if !IsOffline s then (s.goOffline input.now, true) else (s, false)

def tickChanged : TrackerLivenessState × Bool :=
  let s' := { s with
    lastPoseHash := input.posHash
    poseHashSinceSec := input.now
    hmdMovedDuringFreeze := false }
  if IsOffline s then
    if s.reconnectSinceSec < 0 then ({ s' with reconnectSinceSec := input.now }, false)
    else if kReconnectDebounceSec ≤ input.now - s.reconnectSinceSec then (.new, false)
    else (s', false)
  else (s', false)

/-- An unchanged pose abandons the debounce, and the headset may move. -/
def TrackerLivenessState.noteFrozen : TrackerLivenessState :=
  { s with
    reconnectSinceSec := if 0 ≤ s.reconnectSinceSec then -1.0 else s.reconnectSinceSec
    hmdMovedDuringFreeze :=
      s.hmdMovedDuringFreeze || decide (kHmdMovedThresholdMps ≤ input.hmdSpeedMps) }

def tickFrozen : TrackerLivenessState × Bool :=
  let s := s.noteFrozen input
  if IsOffline s then (s, false)
  else if s.poseHashSinceSec < 0 then ({ s with poseHashSinceSec := input.now }, false)
  else if kFrozenPoseThresholdSec ≤ input.now - s.poseHashSinceSec ∧ s.hmdMovedDuringFreeze = true
  then (s.goOffline input.now, true)
  else (s, false)

def TickTrackerLiveness : TrackerLivenessState × Bool :=
  if !input.deviceIsConnected then tickDisconnected s input
  else if input.posHash ≠ s.lastPoseHash then tickChanged s input
  else tickFrozen s input

/-! ## Ticks -/

def next : TrackerLivenessState := (TickTrackerLiveness s input).1

/-- A tick with the state it found. -/
abbrev LivenessTick := TrackerLivenessState × TrackerLivenessInputs

/-- The tick `u` comes right after the ticks `past` in the run on `inputs`. -/
abbrev TickAfter (inputs : List TrackerLivenessInputs) (past : List LivenessTick)
    (u : LivenessTick) : Prop :=
  CallAfter next .new inputs past u

section Ticks

variable (u : LivenessTick)

/-- Connected, with a pose that changed. -/
def Live : Prop := u.2.deviceIsConnected = true ∧ u.2.posHash ≠ u.1.lastPoseHash

def Frozen : Prop := u.2.deviceIsConnected = true ∧ u.2.posHash = u.1.lastPoseHash

def HmdMoves : Prop := kHmdMovedThresholdMps ≤ u.2.hmdSpeedMps

/-- The tick returns true. -/
def Fires : Prop := (TickTrackerLiveness u.1 u.2).2 = true

def GoesOffline : Prop := IsOffline u.1 = false ∧ IsOffline (next u.1 u.2) = true

def Recovers : Prop := IsOffline u.1 = true ∧ IsOffline (next u.1 u.2) = false

end Ticks

instance (inputs : List TrackerLivenessInputs) (past : List LivenessTick) (u : LivenessTick) :
    Decidable (TickAfter inputs past u) := inferInstanceAs (Decidable (_ <+: _))

instance (u : LivenessTick) : Decidable (Live u) := inferInstanceAs (Decidable (_ ∧ _))

instance (u : LivenessTick) : Decidable (Fires u) := inferInstanceAs (Decidable (_ = _))

instance (u : LivenessTick) : Decidable (Recovers u) := inferInstanceAs (Decidable (_ ∧ _))

/-- What one tick does, by the branch it takes. -/
theorem tick_cases {motive : TrackerLivenessState × Bool → Prop} (u : LivenessTick)
    (disconnected : u.2.deviceIsConnected = false → motive (tickDisconnected u.1 u.2))
    (changed : Live u → motive (tickChanged u.1 u.2))
    (frozen : Frozen u → motive (tickFrozen u.1 u.2)) : motive (TickTrackerLiveness u.1 u.2) := by
  unfold TickTrackerLiveness
  split_ifs with hconn hhash
  · exact disconnected (by simpa using hconn)
  · exact changed ⟨by simpa using hconn, hhash⟩
  · exact frozen ⟨by simpa using hconn, not_not.1 hhash⟩

theorem tickChanged_cases {motive : TrackerLivenessState × Bool → Prop}
    (online : IsOffline s = false → motive
      ({ s with
        lastPoseHash := input.posHash
        poseHashSinceSec := input.now
        hmdMovedDuringFreeze := false }, false))
    (recovers : IsOffline s = true → 0 ≤ s.reconnectSinceSec →
      kReconnectDebounceSec ≤ input.now - s.reconnectSinceSec → motive (.new, false))
    (waits : ∀ s' : TrackerLivenessState, IsOffline s = true →
      s'.offlineSinceSec = s.offlineSinceSec →
      (s'.reconnectSinceSec = input.now ∨ s'.reconnectSinceSec = s.reconnectSinceSec ∧
        0 ≤ s.reconnectSinceSec) → motive (s', false)) : motive (tickChanged s input) := by
  simp only [tickChanged]
  cases hoff : IsOffline s
  · rw [if_neg Bool.false_ne_true]
    exact online hoff
  · rw [if_pos rfl]
    split_ifs with hnone hdone
    · exact waits _ hoff rfl (.inl rfl)
    · exact recovers hoff (not_lt.1 hnone) hdone
    · exact waits _ hoff rfl (.inr ⟨rfl, not_lt.1 hnone⟩)

theorem tickFrozen_cases {motive : TrackerLivenessState × Bool → Prop}
    (offline : IsOffline s = true → motive (s.noteFrozen input, false))
    (stamps : IsOffline s = false → s.poseHashSinceSec < 0 →
      motive ({ s.noteFrozen input with poseHashSinceSec := input.now }, false))
    (fires : IsOffline s = false → 0 ≤ s.poseHashSinceSec →
      kFrozenPoseThresholdSec ≤ input.now - s.poseHashSinceSec →
      (s.noteFrozen input).hmdMovedDuringFreeze = true →
      motive ((s.noteFrozen input).goOffline input.now, true))
    (waits : IsOffline s = false → 0 ≤ s.poseHashSinceSec →
      motive (s.noteFrozen input, false)) : motive (tickFrozen s input) := by
  unfold tickFrozen
  cases hoff : IsOffline s
  · have hoff' : IsOffline (s.noteFrozen input) = false := hoff
    simp only [hoff', Bool.false_eq_true, if_false]
    split_ifs with hfirst hfire
    · exact stamps hoff hfirst
    · exact fires hoff (not_lt.1 hfirst) hfire.1 hfire.2
    · exact waits hoff (not_lt.1 hfirst)
  · have hoff' : IsOffline (s.noteFrozen input) = true := hoff
    simp only [hoff', if_true]
    exact offline hoff

@[simp] theorem goOffline_offline (now : ℚ) : IsOffline (s.goOffline now) = decide (0 ≤ now) := rfl

@[simp] theorem noteFrozen_offline : IsOffline (s.noteFrozen input) = IsOffline s := rfl

/-! ## Recovery -/

/-- The debounce at `past` before the tick `u`: every tick of the last two seconds was live, and a
    streak of live ticks is at least two seconds long. -/
structure Debounced (past : List LivenessTick) (u : LivenessTick) : Prop where
  window : ∀ v ∈ past ++ [u], u.2.now - kReconnectDebounceSec < v.2.now → Live v
  streak : Streak Live (fun first => Live first ∧ first.2.now + kReconnectDebounceSec ≤ u.2.now)
    past
  live : Live u

/-- Every recovery of the run has its debounce behind it. -/
def RecoveriesDebounced (inputs : List TrackerLivenessInputs) : Prop :=
  ∀ past u, TickAfter inputs past u → Recovers u → Debounced past u

/-- The debounce that runs began with a live tick, and all ticks since then were live. -/
def DebounceInv (past : List LivenessTick) (s : TrackerLivenessState) : Prop :=
  0 ≤ s.reconnectSinceSec →
    Streak Live (fun first => Live first ∧ first.2.now = s.reconnectSinceSec) past

theorem DebounceInv.step {past : List LivenessTick} {u : LivenessTick} (h : DebounceInv past u.1)
    (hconn : u.2.deviceIsConnected = false → u.1.reconnectSinceSec < 0) :
    DebounceInv (past ++ [u]) (next u.1 u.2) := by
  unfold next
  refine tick_cases u (motive := fun r => DebounceInv (past ++ [u]) r.1) ?_ ?_ ?_
  · intro hdisc
    have hnone := hconn hdisc
    unfold tickDisconnected
    split
    · exact fun hpos => (by norm_num [TrackerLivenessState.goOffline] at hpos)
    · exact fun hpos => absurd hpos hnone.not_ge
  · intro hlive
    refine tickChanged_cases u.1 u.2 (motive := fun r => DebounceInv (past ++ [u]) r.1) ?_ ?_ ?_
    · exact fun _ hpos => (h hpos).extend hlive
    · exact fun _ _ _ hpos => (by norm_num [TrackerLivenessState.new] at hpos)
    · rintro s' - - (hrec | ⟨hrec, hruns⟩) hpos
      · exact .start ⟨hlive, hrec.symm⟩ past
      · rw [hrec] at hpos ⊢
        exact (h hpos).extend hlive
  · intro _
    have hnone : (u.1.noteFrozen u.2).reconnectSinceSec < 0 := by
      simp only [TrackerLivenessState.noteFrozen]
      split_ifs with hrec
      · norm_num
      · exact not_le.1 hrec
    refine tickFrozen_cases u.1 u.2 (motive := fun r => DebounceInv (past ++ [u]) r.1) ?_ ?_ ?_ ?_
    · exact fun _ hpos => absurd hpos hnone.not_ge
    · exact fun _ _ hpos => absurd hpos hnone.not_ge
    · exact fun _ _ _ _ hpos => (by norm_num [TrackerLivenessState.goOffline] at hpos)
    · exact fun _ _ hpos => absurd hpos hnone.not_ge

/-- A tick recovers only by a live tick at the end of a debounce. -/
theorem Recovers.elapsed {u : LivenessTick} (h : Recovers u) :
    Live u ∧ 0 ≤ u.1.reconnectSinceSec ∧
      kReconnectDebounceSec ≤ u.2.now - u.1.reconnectSinceSec := by
  obtain ⟨hoff, hon⟩ := h
  have honline : ¬ IsOffline u.1 = false := by simp [hoff]
  revert hon
  unfold next
  refine tick_cases u (motive := fun r => IsOffline r.1 = false → _) ?_ ?_ ?_
  · intro _ hon
    simp [tickDisconnected, hoff] at hon
  · intro hlive
    refine tickChanged_cases u.1 u.2 (motive := fun r => IsOffline r.1 = false → _) ?_ ?_ ?_
    · exact fun hon => absurd hon honline
    · exact fun _ hpos helapsed _ => ⟨hlive, hpos, helapsed⟩
    · intro s' _ hsince _ hon
      rw [IsOffline, hsince] at hon
      exact absurd hon honline
  · intro _
    refine tickFrozen_cases u.1 u.2 (motive := fun r => IsOffline r.1 = false → _) ?_ ?_ ?_ ?_
    · exact fun _ hon => absurd hon honline
    · exact fun hon => absurd hon honline
    · exact fun hon => absurd hon honline
    · exact fun hon => absurd hon honline

/-- **Recovery**, over every run with times that do not go back: if no disconnected tick finds a
    debounce that runs, a device comes back only behind two seconds of changing poses. -/
theorem recoveries_debounced {inputs : List TrackerLivenessInputs}
    (htime : inputs.Pairwise fun a b => a.now ≤ b.now)
    (hconn : ∀ u ∈ steps next .new inputs,
      u.2.deviceIsConnected = false → u.1.reconnectSinceSec < 0) : RecoveriesDebounced inputs := by
  intro past u hu hrec
  obtain ⟨hlive, hpos, helapsed⟩ := Recovers.elapsed hrec
  have hinv : DebounceInv past u.1 := by
    refine steps_inv (fun past x h hx => DebounceInv.step h hx) ?_ hconn hu
    exact fun h => (by norm_num [TrackerLivenessState.new] at h)
  obtain ⟨older, first, newer, rfl, ⟨hfirst, hfrom⟩, hnewer⟩ := hinv hpos
  refine ⟨?_, ⟨older, first, newer, rfl, ⟨hfirst, ?_⟩, hnewer⟩, hlive⟩
  · intro v hv hwindow
    rw [List.append_assoc, List.mem_append] at hv
    rcases hv with hv | hv
    · -- a tick before the streak is older than the window
      have hsorted := hu.pairwise htime
      rw [List.append_assoc, List.pairwise_append] at hsorted
      have hle : v.2.now ≤ first.2.now := hsorted.2.2 v hv first (by simp)
      exact absurd hwindow (by linarith)
    · rcases List.mem_cons.1 hv with rfl | hv
      · exact hfirst
      · rcases List.mem_append.1 hv with hv | hv
        · exact hnewer v hv
        · rw [List.mem_singleton.1 hv]
          exact hlive
  · linarith

/-- A tick at `now` with a headset that stands still. -/
def still (posHash : UInt64) (deviceIsConnected : Bool) (now : ℚ) : TrackerLivenessInputs :=
  ⟨posHash, deviceIsConnected, 0, now⟩

/-- Lost at 0 s, with a changed pose at 1 s, 2 s and 3 s. -/
def recoveringRun : List TrackerLivenessInputs :=
  [still 0 false 0, still 1 true 1, still 2 true 2, still 3 true 3]

theorem recoveringRun_debounced : RecoveriesDebounced recoveringRun :=
  recoveries_debounced (by decide +kernel) (by decide +kernel)

/-- The same with a disconnected tick at 2 s. -/
def bridgedRun : List TrackerLivenessInputs :=
  [still 0 false 0, still 1 true 1, still 2 false 2, still 3 true 3]

/-- **The disconnected tick is not noticed**: the device is back a second later. -/
theorem disconnectedTick_bridged : ¬ RecoveriesDebounced bridgedRun := by
  intro h
  have hwindow := (h ((steps next .new bridgedRun).take 3)
    ((steps next .new bridgedRun).getLast (by decide +kernel)) (by decide +kernel)
    (by decide +kernel)).window
  revert hwindow
  decide +kernel

/-! ## The offline edge -/

/-- While the device is online, every tick since the pose hash was stamped was frozen, and the
    evidence of a moving headset is from these ticks. -/
def FreezeInv (past : List LivenessTick) (s : TrackerLivenessState) : Prop :=
  IsOffline s = false →
    (s.poseHashSinceSec < 0 → s.hmdMovedDuringFreeze = false) ∧
    (0 ≤ s.poseHashSinceSec → ∃ older first newer, past = older ++ first :: newer ∧
      first.2.now = s.poseHashSinceSec ∧ (∀ v ∈ newer, Frozen v) ∧
      (s.hmdMovedDuringFreeze = true → ∃ v ∈ first :: newer, HmdMoves v))

/-- Since a tick eight seconds ago or earlier every tick was connected with an unchanged pose, and
    from that tick on the headset moved. -/
def FrozenOut (past : List LivenessTick) (u : LivenessTick) : Prop :=
  ∃ older first newer, past = older ++ first :: newer ∧
    first.2.now + kFrozenPoseThresholdSec ≤ u.2.now ∧ (∀ v ∈ newer ++ [u], Frozen v) ∧
    ∃ v ∈ first :: newer ++ [u], HmdMoves v

theorem noteFrozen_moved :
    (s.noteFrozen input).hmdMovedDuringFreeze = true ↔
      s.hmdMovedDuringFreeze = true ∨ kHmdMovedThresholdMps ≤ input.hmdSpeedMps := by
  simp [TrackerLivenessState.noteFrozen]

/-- A frozen tick that does not stamp the hash belongs to the freeze. -/
theorem FreezeInv.frozen {past : List LivenessTick} {u : LivenessTick} (h : FreezeInv past u.1)
    (hon : IsOffline u.1 = false) (hpos : 0 ≤ u.1.poseHashSinceSec) (hu : Frozen u) :
    ∃ older first newer, past ++ [u] = older ++ first :: (newer ++ [u]) ∧
      past = older ++ first :: newer ∧ first.2.now = u.1.poseHashSinceSec ∧
      (∀ v ∈ newer ++ [u], Frozen v) ∧
      ((u.1.noteFrozen u.2).hmdMovedDuringFreeze = true →
        ∃ v ∈ first :: (newer ++ [u]), HmdMoves v) := by
  obtain ⟨older, first, newer, heq, hfirst, hnewer, hmoved⟩ := (h hon).2 hpos
  refine ⟨older, first, newer, by simp [heq], heq, hfirst, ?_, ?_⟩
  · intro v hv
    rcases List.mem_append.1 hv with hv | hv
    · exact hnewer v hv
    · rw [List.mem_singleton.1 hv]
      exact hu
  · intro hnoted
    rcases (noteFrozen_moved ..).1 hnoted with hbefore | hnow
    · obtain ⟨v, hv, hmoves⟩ := hmoved hbefore
      refine ⟨v, ?_, hmoves⟩
      rw [← List.cons_append]
      exact List.mem_append_left _ hv
    · exact ⟨u, by simp, hnow⟩

theorem FreezeInv.of_offline {past : List LivenessTick} (h : IsOffline s = true) :
    FreezeInv past s := fun hon => absurd (h.symm.trans hon) (by decide)

theorem FreezeInv.step {past : List LivenessTick} {u : LivenessTick} (h : FreezeInv past u.1)
    (hnow : 0 ≤ u.2.now) : FreezeInv (past ++ [u]) (next u.1 u.2) := by
  have hedge : ∀ s, FreezeInv (past ++ [u]) (TrackerLivenessState.goOffline s u.2.now) :=
    fun s => .of_offline _ (by simp [hnow])
  unfold next
  refine tick_cases u (motive := fun r => FreezeInv (past ++ [u]) r.1) ?_ ?_ ?_
  · intro _
    unfold tickDisconnected
    split_ifs with hoff
    · exact hedge u.1
    · exact .of_offline _ (by simpa using hoff)
  · intro _
    refine tickChanged_cases u.1 u.2 (motive := fun r => FreezeInv (past ++ [u]) r.1) ?_ ?_ ?_
    · refine fun _ _ => ⟨fun hneg => absurd hnow hneg.not_ge, fun _ => ?_⟩
      exact ⟨past, u, [], rfl, rfl, by simp, fun hmoved => (by cases hmoved)⟩
    · exact fun _ _ _ _ =>
        ⟨fun _ => rfl, fun hpos => (by norm_num [TrackerLivenessState.new] at hpos)⟩
    · intro s' hoff hsince _
      refine .of_offline _ ?_
      rw [IsOffline, hsince]
      exact hoff
  · intro hfrozen
    refine tickFrozen_cases u.1 u.2 (motive := fun r => FreezeInv (past ++ [u]) r.1) ?_ ?_ ?_ ?_
    · exact fun hoff => .of_offline _ hoff
    · refine fun hon hfirst _ => ⟨fun hneg => absurd hnow hneg.not_ge, fun _ => ?_⟩
      refine ⟨past, u, [], rfl, rfl, by simp, fun hmoved => ⟨u, by simp, ?_⟩⟩
      -- nothing was noted before the first stamp
      refine ((noteFrozen_moved ..).1 hmoved).resolve_left ?_
      rw [(h hon).1 hfirst]
      decide
    · exact fun _ _ _ _ => hedge _
    · intro hon hpos _
      obtain ⟨older, first, newer, heq, -, hsince, hnewer, hmoved⟩ := h.frozen hon hpos hfrozen
      exact ⟨fun hneg => absurd hpos hneg.not_ge,
        fun _ => ⟨older, first, newer ++ [u], heq, hsince, hnewer, hmoved⟩⟩

/-- A tick returns true at the edge only. -/
theorem fires_iff_goesOffline {u : LivenessTick} (hnow : 0 ≤ u.2.now) :
    Fires u ↔ GoesOffline u := by
  -- without an edge nothing is returned
  have hquiet : ∀ s : TrackerLivenessState, s.offlineSinceSec = u.1.offlineSinceSec →
      (false = true ↔ IsOffline u.1 = false ∧ IsOffline s = true) := by
    intro s hs
    rw [IsOffline, IsOffline, hs]
    simp
  have hedge : ∀ s : TrackerLivenessState, IsOffline u.1 = false →
      (true = true ↔ IsOffline u.1 = false ∧ IsOffline (s.goOffline u.2.now) = true) := by
    intro s hon
    simp [hon, hnow]
  unfold Fires GoesOffline next
  refine tick_cases u (motive := fun r => r.2 = true ↔ IsOffline u.1 = false ∧ IsOffline r.1 = true)
    ?_ ?_ ?_
  · intro _
    unfold tickDisconnected
    split
    · next hon => exact hedge _ (by simpa using hon)
    · exact hquiet _ rfl
  · intro _
    refine tickChanged_cases u.1 u.2
      (motive := fun r => r.2 = true ↔ IsOffline u.1 = false ∧ IsOffline r.1 = true) ?_ ?_ ?_
    · exact fun _ => hquiet _ rfl
    · exact fun hoff _ _ => by simp [hoff]
    · exact fun s' _ hsince _ => hquiet s' hsince
  · intro _
    refine tickFrozen_cases u.1 u.2
      (motive := fun r => r.2 = true ↔ IsOffline u.1 = false ∧ IsOffline r.1 = true) ?_ ?_ ?_ ?_
    · exact fun _ => hquiet _ rfl
    · exact fun _ _ => hquiet _ rfl
    · exact fun hon _ _ _ => hedge _ hon
    · exact fun _ _ => hquiet _ rfl

/-- **The offline edge**, over every run: `TickTrackerLiveness` returns true exactly where a device
    goes offline, and it does so at a disconnected tick, or at one behind eight frozen seconds in
    which the headset moved. -/
theorem offline_edges {inputs : List TrackerLivenessInputs} (h0 : ∀ i ∈ inputs, 0 ≤ i.now)
    {past : List LivenessTick} {u : LivenessTick} (hu : TickAfter inputs past u) :
    (Fires u ↔ GoesOffline u) ∧
      (Fires u → u.2.deviceIsConnected = false ∨ FrozenOut past u) := by
  have htimes : ∀ v ∈ steps next .new inputs, 0 ≤ v.2.now := steps_forall h0
  refine ⟨fires_iff_goesOffline (htimes u hu.mem), ?_⟩
  have hinv : FreezeInv past u.1 :=
    steps_inv (fun _ _ h hx => FreezeInv.step h hx)
      (fun _ => ⟨fun _ => rfl, fun hpos => (by norm_num [TrackerLivenessState.new] at hpos)⟩)
      htimes hu
  unfold Fires
  refine tick_cases u (motive := fun r => r.2 = true → _) ?_ ?_ ?_
  · exact fun hdisc _ => .inl hdisc
  · intro _
    refine tickChanged_cases u.1 u.2 (motive := fun r => r.2 = true → _) ?_ ?_ ?_
    · exact fun _ h => (by cases h)
    · exact fun _ _ _ h => (by cases h)
    · exact fun _ _ _ _ h => (by cases h)
  · intro hfrozen
    refine tickFrozen_cases u.1 u.2 (motive := fun r => r.2 = true → _) ?_ ?_ ?_ ?_
    · exact fun _ h => (by cases h)
    · exact fun _ _ h => (by cases h)
    · intro hon hpos helapsed hnoted _
      obtain ⟨older, first, newer, -, heq, hsince, hnewer, hmoved⟩ :=
        hinv.frozen hon hpos hfrozen
      refine .inr ⟨older, first, newer, heq, ?_, hnewer, hmoved hnoted⟩
      linarith
    · exact fun _ _ h => (by cases h)

/-- A tracker that is lost at 0 s while the headset moves at 4 s. -/
def frozenRun : List TrackerLivenessInputs :=
  [⟨1, true, 0, 0⟩, ⟨1, true, 1, 4⟩, ⟨1, true, 0, 8⟩]

/-- The last tick of a run, behind the others. -/
def lastTick (inputs : List TrackerLivenessInputs) (h : steps next .new inputs ≠ []) :
    List LivenessTick × LivenessTick :=
  ((steps next .new inputs).dropLast, (steps next .new inputs).getLast h)

theorem frozenRun_offline :
    let t := lastTick frozenRun (by decide +kernel)
    (Fires t.2 ↔ GoesOffline t.2) ∧
      (Fires t.2 → t.2.2.deviceIsConnected = false ∨ FrozenOut t.1 t.2) :=
  offline_edges (by decide +kernel) (by decide +kernel : TickAfter frozenRun _ _)

/-- Behind each edge of the run the last eight seconds were frozen or disconnected, with a headset
    that moved in them. -/
def EdgesInWindow (inputs : List TrackerLivenessInputs) : Prop :=
  ∀ past u, TickAfter inputs past u → Fires u →
    (∀ v ∈ past ++ [u], u.2.now - kFrozenPoseThresholdSec < v.2.now →
      v.2.deviceIsConnected = false ∨ Frozen v) ∧
    ∃ v ∈ past ++ [u], u.2.now - kFrozenPoseThresholdSec < v.2.now ∧ HmdMoves v

instance (u : LivenessTick) : Decidable (HmdMoves u) := inferInstanceAs (Decidable (_ ≤ _))

theorem edgesInWindow_last {inputs : List TrackerLivenessInputs} (h : EdgesInWindow inputs)
    (hne : steps next .new inputs ≠ []) (hfires : Fires (lastTick inputs hne).2) :
    ∃ v ∈ steps next .new inputs,
      (lastTick inputs hne).2.2.now - kFrozenPoseThresholdSec < v.2.now ∧ HmdMoves v := by
  have hsplit := List.dropLast_append_getLast hne
  have hafter : TickAfter inputs (lastTick inputs hne).1 (lastTick inputs hne).2 := by
    unfold TickAfter CallAfter lastTick
    rw [hsplit]
  have hmoved := (h _ _ hafter hfires).2
  rw [lastTick, hsplit] at hmoved
  exact hmoved

/-- **A headset that stands still**: a disconnected tick does not wait for the freeze, and the
    movement of a freeze of ten seconds may be older than eight. -/
theorem stillHeadset_offline : ¬ EdgesInWindow [still 0 false 0] ∧
    ¬ EdgesInWindow [⟨1, true, 0, 0⟩, ⟨1, true, 1, 1⟩, ⟨1, true, 0, 10⟩] := by
  refine ⟨fun h => ?_, fun h => ?_⟩
  · have hmoved := edgesInWindow_last h (by decide +kernel) (by decide +kernel)
    revert hmoved
    decide +kernel
  · have hmoved := edgesInWindow_last h (by decide +kernel) (by decide +kernel)
    revert hmoved
    decide +kernel

end WKPairDriver.Calibration.Liveness
