import Mathlib
import WKPairDriver.InputHealth.BooleanComponent
import WKPairDriver.Lib.Run

/-!
# Debounced buttons over whole runs

One boolean component with the driver that reports it on one side and SteamVR on the other: calls of
`UpdateBooleanComponent`, time that passes, and everything that changes the statistics, the
compensation entries or the configuration in between.  The master switch stays on.

The detour holds back a value that comes too soon behind the committed one and keeps no note to send
it later: what SteamVR has is what the device reported exactly when the last call was not held back.

* `forwarded_eq_raw_iff` — at the end of every run.
* `debouncedButton_settles_iff` — at every settled time of every run.
* `polledCall_settles` — a driver that calls again behind the debounce interval is always right.
-/

set_option autoImplicit false

namespace WKPairDriver.InputHealth

open Lib

/-! ## Runs -/

structure InputHealthResetStats where
  device_serial_hash : UInt64
  reset_passive : Bool
  reset_curves : Bool

inductive ButtonEvent where
  | update (bNewValue : Bool) (now_us : UInt64) (ResolveSerialHash : UInt64 → UInt64)
  | wait (now_us : UInt64)
  | config (cfg : InputHealthConfig)
  | setCompensation (entry : InputHealthCompensationEntry)
  | clearCompensation (serial_hash : UInt64)
  | create (container : UInt64) (path : String) (ResolveSerialHash : UInt64 → UInt64)
  | reset (req : InputHealthResetStats) (ResolveSerialHash : UInt64 → UInt64)

/-- A call of `UpdateBooleanComponent`. -/
def ButtonEvent.isCall : ButtonEvent → Bool
  | .update _ _ _ => true
  | _ => false

/-- What a reset does to one component: its serial is resolved first. -/
def ApplyResetRequest (ResolveSerialHash : UInt64 → UInt64) (req : InputHealthResetStats)
    (s : ComponentStats) : ComponentStats :=
  let s :=
    if s.device_serial_hash = 0 then
      { s with device_serial_hash := ResolveSerialHash s.container_handle }
    else s
  if req.device_serial_hash = kSerialHashAllDevices ∨
      s.device_serial_hash = req.device_serial_hash then
    if req.reset_passive then ComponentStatsResetPassive s else s
  else s

/-- The driver's state for one component, with the value the device reported last, when it changed
    last, and the value SteamVR was given last. -/
structure ButtonLine where
  cfg : InputHealthConfig
  inputHealthComp : CompensationTable
  component : Option ComponentStats
  now : UInt64
  raw : Option Bool
  rawTransitionAt : UInt64
  forwarded : Option Bool

def start : ButtonLine where
  cfg := { master_enabled := true, diagnostics_only := true }
  inputHealthComp := fun _ _ => none
  component := none
  now := 0
  raw := none
  rawTransitionAt := 0
  forwarded := none

/-- What a call of `UpdateBooleanComponent` leaves behind. -/
def ButtonLine.call (s : ButtonLine) (bNewValue : Bool) (now_us : UInt64)
    (ResolveSerialHash : UInt64 → UInt64) : ButtonLine :=
  let result := DetourUpdateBooleanComponent ResolveSerialHash s.cfg s.inputHealthComp
    s.component bNewValue now_us
  { s with
    now := now_us
    component := result.1
    raw := some bNewValue
    rawTransitionAt := if s.raw = some bNewValue then s.rawTransitionAt else now_us
    forwarded := if result.2 then s.forwarded else some bNewValue }

/-- Time does not run backwards and the master switch is not turned off. -/
def step (s : ButtonLine) : ButtonEvent → Option ButtonLine
  | .update bNewValue now_us ResolveSerialHash =>
    if s.now ≤ now_us then some (s.call bNewValue now_us ResolveSerialHash) else none
  | .wait now_us => if s.now ≤ now_us then some { s with now := now_us } else none
  | .config cfg => if cfg.master_enabled then some { s with cfg := cfg } else none
  | .setCompensation entry =>
    some { s with inputHealthComp := SetInputHealthCompensation s.inputHealthComp entry }
  | .clearCompensation serial_hash =>
    some { s with inputHealthComp := ClearInputHealthCompensation s.inputHealthComp serial_hash }
  | .create container path ResolveSerialHash =>
    some { s with
      component := some (RegisterBooleanComponent ResolveSerialHash s.component container path) }
  | .reset req ResolveSerialHash =>
    some { s with
      component := s.component.map (ApplyResetRequest ResolveSerialHash req)
      inputHealthComp :=
        if req.reset_curves then
          ClearInputHealthCompensation s.inputHealthComp req.device_serial_hash
        else s.inputHealthComp }

/-- The device has not changed its value for an interval of `debounce` microseconds. -/
def ButtonLine.SettledFor (debounce : Nat) (s : ButtonLine) : Prop :=
  s.rawTransitionAt.toNat + debounce ≤ s.now.toNat

/-- Once settled, SteamVR has the value the device reported last. -/
def Settles (debounce : Nat) (s : ButtonLine) : Prop :=
  s.SettledFor debounce → s.forwarded = s.raw

instance (debounce : Nat) : DecidablePred (Settles debounce) := fun s =>
  inferInstanceAs (Decidable (s.rawTransitionAt.toNat + debounce ≤ s.now.toNat → _))

/-- The last call of the run was held back: read in the state before that call. -/
def LastSwallowed (es : List ButtonEvent) : Prop :=
  ∃ pre bNewValue now_us ResolveSerialHash post s,
    es = pre ++ .update bNewValue now_us ResolveSerialHash :: post ∧
    (∀ e ∈ post, e.isCall = false) ∧ runTo step start pre = some s ∧
    swallows ResolveSerialHash s.cfg s.inputHealthComp s.component bNewValue now_us

/-! ## The committed value is the one SteamVR has -/

/-- The master switch is on, and what is committed was forwarded last. -/
structure Consistent (s : ButtonLine) : Prop where
  master : s.cfg.master_enabled = true
  committed : ∀ st, s.component = some st → st.last_committed_us ≠ 0 →
    s.forwarded = some st.last_boolean

theorem consistent_start : Consistent start := ⟨rfl, fun _ h => by cases h⟩

theorem ApplyResetRequest_committed (ResolveSerialHash : UInt64 → UInt64)
    (req : InputHealthResetStats) (s : ComponentStats) :
    (ApplyResetRequest ResolveSerialHash req s).last_committed_us = 0 ∨
      ((ApplyResetRequest ResolveSerialHash req s).last_committed_us = s.last_committed_us ∧
        (ApplyResetRequest ResolveSerialHash req s).last_boolean = s.last_boolean) := by
  simp only [ApplyResetRequest, ComponentStatsResetPassive]
  split_ifs <;> simp

variable {s t : ButtonLine} {bNewValue : Bool} {now_us : UInt64}
  {ResolveSerialHash : UInt64 → UInt64}

theorem Consistent.call (h : Consistent s) :
    Consistent (s.call bNewValue now_us ResolveSerialHash) := by
  refine ⟨h.master, fun st hst hne => ?_⟩
  simp only [ButtonLine.call] at hst ⊢
  cases hc : s.component with
  | none =>
    rw [hc] at hst
    simp [DetourUpdateBooleanComponent, h.master] at hst
  | some c =>
    rw [hc] at hst
    obtain ⟨d, hd, hheld, hsent⟩ := DetourUpdateBooleanComponent_component ResolveSerialHash
      (s := c) h.master
    rw [hd] at hst
    cases hst
    cases hsw : (DetourUpdateBooleanComponent ResolveSerialHash s.cfg s.inputHealthComp (some c)
        bNewValue now_us).2 with
    | true =>
      obtain ⟨hb, ht, -⟩ := hheld hsw
      rw [ht] at hne
      rw [if_pos rfl, hb]
      exact h.committed c hc hne
    | false =>
      rw [if_neg Bool.false_ne_true, (hsent hsw).1]

theorem Consistent.step {e : ButtonEvent} (h : Consistent s) (ht : step s e = some t) :
    Consistent t := by
  cases e with
  | update v n r =>
    simp only [InputHealth.step] at ht
    split_ifs at ht
    cases ht
    exact h.call
  | wait n =>
    simp only [InputHealth.step] at ht
    split_ifs at ht
    cases ht
    exact ⟨h.master, h.committed⟩
  | config cfg =>
    simp only [InputHealth.step] at ht
    split_ifs at ht with hm
    cases ht
    exact ⟨hm, h.committed⟩
  | setCompensation entry =>
    cases ht
    exact ⟨h.master, h.committed⟩
  | clearCompensation serial_hash =>
    cases ht
    exact ⟨h.master, h.committed⟩
  | create container path r =>
    cases ht
    refine ⟨h.master, fun st hst hne => ?_⟩
    cases hst
    cases hc : s.component with
    | none => exact absurd (by rw [hc]; rfl) hne
    | some c =>
      rw [hc] at hne
      exact h.committed c hc hne
  | reset req r =>
    cases ht
    refine ⟨h.master, fun st hst hne => ?_⟩
    obtain ⟨c, hc, rfl⟩ := Option.map_eq_some_iff.1 hst
    rcases ApplyResetRequest_committed r req c with h0 | ⟨hcommit, hb⟩
    · exact absurd h0 hne
    · rw [hb]
      exact h.committed c hc (hcommit ▸ hne)

theorem consistent_runTo {es : List ButtonEvent} (h : runTo InputHealth.step start es = some s) :
    Consistent s :=
  (Always.of_inv' (I := Consistent) (fun _ _ _ hs ht => hs.step ht) (fun _ h => h)
    consistent_start).runTo h

/-! ## After a call -/

/-- A call that is let through gives SteamVR its value. -/
theorem forwarded_call (h : ¬swallows ResolveSerialHash s.cfg s.inputHealthComp s.component
    bNewValue now_us) :
    (s.call bNewValue now_us ResolveSerialHash).forwarded =
      (s.call bNewValue now_us ResolveSerialHash).raw := by
  rw [← DetourUpdateBooleanComponent_swallow] at h
  simp only [ButtonLine.call, if_neg h]

/-- A call that is held back leaves SteamVR with the other value. -/
theorem forwarded_call_ne (hs : Consistent s)
    (h : swallows ResolveSerialHash s.cfg s.inputHealthComp s.component bNewValue now_us) :
    (s.call bNewValue now_us ResolveSerialHash).forwarded ≠
      (s.call bNewValue now_us ResolveSerialHash).raw := by
  have hsw := (DetourUpdateBooleanComponent_swallow ResolveSerialHash s.cfg s.inputHealthComp
    s.component).2 h
  obtain ⟨-, -, c, entry, hc, -, hshould⟩ := h
  simp only [ShouldSwallowBooleanUpdate, Bool.and_eq_true, bne_iff_ne] at hshould
  obtain ⟨⟨⟨-, hvalue⟩, hcommitted⟩, -⟩ := hshould
  have hforwarded := hs.committed c hc hcommitted
  simp only [ButtonLine.call, if_pos hsw, hforwarded]
  intro heq
  exact hvalue (Option.some.inj heq).symm

/-- Nothing but a call changes what the two sides have seen. -/
theorem step_other {e : ButtonEvent} (he : e.isCall = false) (ht : step s e = some t) :
    t.forwarded = s.forwarded ∧ t.raw = s.raw := by
  cases e with
  | update v n r => cases he
  | wait n =>
    simp only [step] at ht
    split_ifs at ht
    cases ht
    exact ⟨rfl, rfl⟩
  | config cfg =>
    simp only [step] at ht
    split_ifs at ht
    cases ht
    exact ⟨rfl, rfl⟩
  | _ =>
    cases ht
    exact ⟨rfl, rfl⟩

/-! ## The last call of a run -/

theorem lastSwallowed_append_other {es : List ButtonEvent} {e : ButtonEvent}
    (he : e.isCall = false) : LastSwallowed (es ++ [e]) ↔ LastSwallowed es := by
  constructor
  · rintro ⟨pre, v, n, r, post, s, heq, hpost, hrun, hsw⟩
    rcases List.eq_nil_or_concat' post with rfl | ⟨post, e', rfl⟩
    · have hlast := (List.append_inj' heq rfl).2
      cases hlast
      cases he
    · rw [← List.cons_append, ← List.append_assoc] at heq
      exact ⟨pre, v, n, r, post, s, (List.append_inj' heq rfl).1,
        fun x hx => hpost x (List.mem_append_left _ hx), hrun, hsw⟩
  · rintro ⟨pre, v, n, r, post, s, rfl, hpost, hrun, hsw⟩
    refine ⟨pre, v, n, r, post ++ [e], s, by simp, fun x hx => ?_, hrun, hsw⟩
    rcases List.mem_append.1 hx with hx | hx
    · exact hpost x hx
    · rw [List.mem_singleton.1 hx, he]

theorem lastSwallowed_append_update {es : List ButtonEvent}
    (hs : runTo step start es = some s) :
    LastSwallowed (es ++ [.update bNewValue now_us ResolveSerialHash]) ↔
      swallows ResolveSerialHash s.cfg s.inputHealthComp s.component bNewValue now_us := by
  constructor
  · rintro ⟨pre, v, n, r, post, s', heq, hpost, hrun, hsw⟩
    rcases List.eq_nil_or_concat' post with rfl | ⟨post, e', rfl⟩
    · obtain ⟨rfl, hlast⟩ := List.append_inj' heq rfl
      cases hlast
      rw [hs] at hrun
      cases hrun
      exact hsw
    · rw [← List.cons_append, ← List.append_assoc] at heq
      have hlast := (List.append_inj' heq rfl).2
      cases hlast
      have := hpost _ (List.mem_append_right _ (List.mem_singleton_self _))
      cases this
  · intro hsw
    exact ⟨es, bNewValue, now_us, ResolveSerialHash, [], s, rfl, by simp, hs, hsw⟩

/-- **At the end of every run** SteamVR has the value the device reported last, unless the last
    call was held back. -/
theorem forwarded_eq_raw_iff (es : List ButtonEvent) :
    ∀ {s : ButtonLine}, runTo step start es = some s →
      (s.forwarded = s.raw ↔ ¬LastSwallowed es) := by
  -- Only the last event of a run matters, so the induction is on its end.
  induction es using List.reverseRecOn with
  | nil =>
    intro s hs
    cases hs
    refine iff_of_true rfl ?_
    rintro ⟨pre, v, n, r, post, s, heq, -⟩
    cases pre <;> cases heq
  | append_singleton es e ih =>
    intro t ht
    rw [runTo_append] at ht
    obtain ⟨s, hs, hst⟩ := Option.bind_eq_some_iff.1 ht
    have hstep : step s e = some t := by
      obtain ⟨u, hu, hut⟩ := Option.bind_eq_some_iff.1 hst
      cases hut
      exact hu
    cases he : e.isCall with
    | false =>
      obtain ⟨hf, hr⟩ := step_other he hstep
      rw [hf, hr, lastSwallowed_append_other he]
      exact ih hs
    | true =>
      cases e with
      | update v n r =>
        rw [lastSwallowed_append_update hs]
        simp only [step] at hstep
        split_ifs at hstep
        cases hstep
        by_cases hsw : swallows r s.cfg s.inputHealthComp s.component v n
        · exact iff_of_false (forwarded_call_ne (consistent_runTo hs) hsw) (not_not.2 hsw)
        · exact iff_of_true (forwarded_call hsw) hsw
      | _ => cases he

/-- **Debounced buttons.**  In a run the two sides agree at every settled time exactly when no call
    that is the last one before a settled time was held back. -/
theorem debouncedButton_settles_iff (debounce : Nat) (es : List ButtonEvent) :
    Always step (Settles debounce) start es ↔
      ∀ pre, pre <+: es → ∀ s, runTo step start pre = some s → s.SettledFor debounce →
        ¬LastSwallowed pre := by
  rw [always_iff_initial]
  refine forall_congr' fun pre => forall_congr' fun _ => forall_congr' fun s =>
    forall_congr' fun hs => forall_congr' fun _ => ?_
  exact forwarded_eq_raw_iff pre hs

/-- A press, and a release 2 ms behind it on a button debounced for 5 ms; the driver calls on
    changes only, and reports nothing for a second. -/
def shortTap : List ButtonEvent :=
  [.config { master_enabled := true, diagnostics_only := false },
   .create 1 "/input/a/click" (fun _ => 7),
   .setCompensation
     { device_serial_hash := 7, path := "/input/a/click", kind := InputHealthCompBoolean,
       enabled := true, learned_debounce_us := 5000 },
   .update true 1000000 (fun _ => 7),
   .update false 1002000 (fun _ => 7),
   .wait 2000000]

theorem shortTap_sticks : ¬Always step (Settles 5000) start shortTap := by
  decide +kernel

/-! ## Drivers that poll -/

/-- When the committed value is not the one the device reports, it was committed before the device
    changed. -/
structure Timely (s : ButtonLine) : Prop where
  committed_le_now : ∀ st, s.component = some st → st.last_committed_us ≤ s.now
  committed_le_transition : ∀ st, s.component = some st → s.raw ≠ some st.last_boolean →
    st.last_committed_us ≠ 0 → st.last_committed_us ≤ s.rawTransitionAt

theorem timely_start : Timely start :=
  ⟨fun _ h => (by cases h), fun _ h => (by cases h)⟩

theorem Timely.call (hm : s.cfg.master_enabled = true) (h : Timely s) (hnow : s.now ≤ now_us) :
    Timely (s.call bNewValue now_us ResolveSerialHash) := by
  cases hc : s.component with
  | none =>
    have hnone : (s.call bNewValue now_us ResolveSerialHash).component = none := by
      simp [ButtonLine.call, DetourUpdateBooleanComponent, hc, hm]
    refine ⟨fun st hst => ?_, fun st hst => ?_⟩ <;>
    · rw [hnone] at hst
      cases hst
  | some c =>
    obtain ⟨d, hd, hheld, hsent⟩ := @DetourUpdateBooleanComponent_component ResolveSerialHash
      c bNewValue now_us s.cfg s.inputHealthComp hm
    have hsome : (s.call bNewValue now_us ResolveSerialHash).component = some d := by
      simp only [ButtonLine.call, hc, hd]
    have hcnow : c.last_committed_us ≤ now_us := UInt64.le_trans (h.committed_le_now c hc) hnow
    cases hsw : (DetourUpdateBooleanComponent ResolveSerialHash s.cfg s.inputHealthComp (some c)
        bNewValue now_us).2 with
    | true =>
      obtain ⟨hb, ht, -⟩ := hheld hsw
      refine ⟨fun st hst => ?_, fun st hst hraw hne => ?_⟩
      · rw [hsome] at hst
        cases hst
        exact ht ▸ hcnow
      · rw [hsome] at hst
        cases hst
        show d.last_committed_us ≤ if s.raw = some bNewValue then s.rawTransitionAt else now_us
        rw [ht] at hne ⊢
        split_ifs with hsame
        · apply h.committed_le_transition c hc _ hne
          rw [hsame, ← hb]
          exact hraw
        · exact hcnow
    | false =>
      obtain ⟨hb, ht⟩ := hsent hsw
      refine ⟨fun st hst => ?_, fun st hst hraw _ => ?_⟩
      · rw [hsome] at hst
        cases hst
        rcases ht with ht | ht
        · exact ht ▸ UInt64.le_refl _
        · exact ht ▸ hcnow
      · rw [hsome] at hst
        cases hst
        rw [hb] at hraw
        exact absurd rfl hraw

theorem Timely.step {e : ButtonEvent} (hs : Consistent s) (h : Timely s)
    (ht : step s e = some t) : Timely t := by
  cases e with
  | update v n r =>
    simp only [InputHealth.step] at ht
    split_ifs at ht with hnow
    cases ht
    exact h.call hs.master hnow
  | wait n =>
    simp only [InputHealth.step] at ht
    split_ifs at ht with hnow
    cases ht
    exact ⟨fun st hst => UInt64.le_trans (h.committed_le_now st hst) hnow, h.committed_le_transition⟩
  | config cfg =>
    simp only [InputHealth.step] at ht
    split_ifs at ht with hm
    cases ht
    exact ⟨h.committed_le_now, h.committed_le_transition⟩
  | setCompensation entry =>
    cases ht
    exact ⟨h.committed_le_now, h.committed_le_transition⟩
  | clearCompensation serial_hash =>
    cases ht
    exact ⟨h.committed_le_now, h.committed_le_transition⟩
  | create container path r =>
    cases ht
    cases hc : s.component with
    | none =>
      refine ⟨fun st hst => ?_, fun st hst _ hne => ?_⟩
      · cases hst
        exact UInt64.zero_le
      · cases hst
        exact absurd rfl hne
    | some c =>
      refine ⟨fun st hst => ?_, fun st hst hraw hne => ?_⟩
      · cases hst
        exact h.committed_le_now c hc
      · cases hst
        exact h.committed_le_transition c hc hraw hne
  | reset req r =>
    cases ht
    refine ⟨fun st hst => ?_, fun st hst hraw hne => ?_⟩
    · obtain ⟨c, hc, rfl⟩ := Option.map_eq_some_iff.1 hst
      rcases ApplyResetRequest_committed r req c with h0 | ⟨hcommit, -⟩
      · rw [h0]
        exact UInt64.zero_le
      · rw [hcommit]
        exact h.committed_le_now c hc
    · obtain ⟨c, hc, rfl⟩ := Option.map_eq_some_iff.1 hst
      rcases ApplyResetRequest_committed r req c with h0 | ⟨hcommit, hb⟩
      · exact absurd h0 hne
      · rw [hb] at hraw
        rw [hcommit] at hne ⊢
        exact h.committed_le_transition c hc hraw hne

/-- **Polling.**  In every run, a call that repeats the last value once it is as old as the debounce
    interval of the entry in force gives SteamVR that value. -/
theorem polledCall_settles {es : List ButtonEvent} (hrun : runTo InputHealth.step start es = some s)
    (hraw : s.raw = some bNewValue) (hold : ∀ st entry, s.component = some st →
      lookupEntry ResolveSerialHash s.inputHealthComp st now_us = some entry →
      s.rawTransitionAt.toNat + entry.learned_debounce_us.toNat ≤ now_us.toNat) :
    (s.call bNewValue now_us ResolveSerialHash).forwarded = some bNewValue := by
  have hinv : Consistent s ∧ Timely s :=
    (Always.of_inv' (I := fun s => Consistent s ∧ Timely s)
      (fun _ _ _ hs ht => ⟨hs.1.step ht, hs.2.step hs.1 ht⟩) (fun _ h => h)
      ⟨consistent_start, timely_start⟩).runTo hrun
  apply forwarded_call
  rintro ⟨-, -, st, entry, hst, hentry, hshould⟩
  simp only [ShouldSwallowBooleanUpdate, Bool.and_eq_true, bne_iff_ne, decide_eq_true_eq]
    at hshould
  obtain ⟨⟨⟨-, hvalue⟩, hcommitted⟩, hyoung⟩ := hshould
  have hbefore := hinv.2.committed_le_transition st hst
    (by rw [hraw]; exact fun h => hvalue (Option.some.inj h)) hcommitted
  have hdue := hold st entry hst hentry
  rw [UInt64.le_iff_toNat_le] at hbefore
  have hage : (now_us - st.last_committed_us).toNat =
      now_us.toNat - st.last_committed_us.toNat := by
    apply UInt64.toNat_sub_of_le
    rw [UInt64.le_iff_toNat_le]
    omega
  rw [UInt64.lt_iff_toNat_lt, hage, UInt16.toNat_toUInt64] at hyoung
  omega

end WKPairDriver.InputHealth
