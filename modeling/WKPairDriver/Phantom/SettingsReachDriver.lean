import Mathlib
import WKPairDriver.Lib.Run
import WKPairDriver.Phantom.ConfigReplay

/-!
# Phantom settings reach the driver

Over runs of the plugin in which requests fail, pipes break and the driver restarts: behind a tick
with a working pipe the driver has the stored configuration.

* `Agrees` — a timing of 0 stands for the default, and the rotation of an offset is normalized.
* `settings_reach_driver` — the condition on the steps of a run under which this holds of every
  state it reaches: no edit that takes an entry away is lost, and no request repairs the pipe to a
  driver that has restarted.
* `settings_missed` — a timing of 0, an opt-out that is lost, and a restart behind a repaired pipe.
-/

set_option autoImplicit false

namespace WKPairDriver.Phantom

open Driver Inference Lib
open Smoothing (SendOutcome Slot)

/-- The driver has the stored configuration. -/
structure Agrees (cfg : Config) (m : PhantomModule) : Prop where
  master : m.master_enabled = cfg.master_enabled
  timings : m.timings = cfg.timings.timings
  ladders : ∀ id, (m.slots id).ladder.timings = cfg.timings.timings
  optIn : ∀ hash, m.opt_in_by_serial_hash hash = some true ↔
    ∃ serial, cfg.dropout_enabled.lookup serial = some true ∧ Fnv1a64 serial = hash
  role : ∀ hash role, m.role_by_serial_hash hash = some role ↔
    ∃ serial, cfg.device_role.lookup serial = some role ∧ Fnv1a64 serial = hash
  offset : ∀ role, m.ik_fallback role =
    ((cfg.role_offset.lookup role).map TrackerOffset.stored).getD noOffset
  virtual : ∀ role, m.virtual_enabled role = (cfg.virtual_enabled.lookup role).getD false

theorem Config.Sound.mirrors_iff {cfg : Config} (h : cfg.Sound) {m : PhantomModule} :
    phantomStore.Mirrors cfg.want m ↔ Agrees cfg m := by
  constructor
  · intro hm
    refine ⟨hm .master, hm .timings, fun id => hm (.ladder id), fun hash => ?_,
      fun hash role => ?_, fun role => hm (.offset role), fun role => hm (.virtual role)⟩
    · have hread : decide (m.opt_in_by_serial_hash hash = some true) = cfg.want (.optIn hash) :=
        hm (.optIn hash)
      rw [← Config.want_optIn, ← hread, decide_eq_true_eq]
    · have hread : m.role_by_serial_hash hash = cfg.want (.role hash) := hm (.role hash)
      rw [hread]
      exact h.want_role hash role
  · intro ha p
    cases p with
    | master => exact ha.master
    | timings => exact ha.timings
    | ladder id => exact ha.ladders id
    | optIn hash =>
      apply Bool.eq_iff_iff.2
      rw [Config.want_optIn, ← ha.optIn]
      exact decide_eq_true_iff
    | role hash =>
      apply Option.ext
      intro role
      exact (ha.role hash role).trans (h.want_role hash role).symm
    | offset role => exact ha.offset role
    | virtual role => exact ha.virtual role

/-! ## Runs -/

/-- The other end of the pipe goes. -/
def Pipe.cut (restarted : Bool) : Pipe → Pipe
  | .closed => .closed
  | .opened => .broken restarted
  | .broken r => .broken (r || restarted)

namespace PhantomPlugin

inductive Action where
  | start (now : ℕ) (connects : Bool) (sends : List SendOutcome)
  | tick (now : ℕ) (connects : Bool) (sends : List SendOutcome)
  | edit (e : Edit) (sends : List SendOutcome)
  | captureTPose (devices : List Captured) (sends : List SendOutcome)
  /-- A pose of a device reaches the driver. -/
  | observe (id : Slot) (serial : String)
  /-- The pipe breaks, which no request has noticed. -/
  | breakPipe
  | restart

noncomputable def step (s : PhantomPlugin) : Action → Option PhantomPlugin
  | .start now connects sends => some ({ s with sends := sends }.OnStart now connects)
  | .tick now connects sends => some ({ s with sends := sends }.Tick now connects)
  | .edit e sends => if s.cfg.offers e = true then some ({ s with sends := sends }.edit e) else none
  | .captureTPose devices sends => some ({ s with sends := sends }.CaptureTPose devices)
  | .observe id serial => some { s with driver := s.driver.OnRealPoseObserved id serial }
  | .breakPipe => some { s with pipe := s.pipe.cut false }
  | .restart => some { s with driver := .fresh, pipe := s.pipe.cut true }

/-- The driver has the stored configuration after the next tick without a fault that leaves a
    working pipe. -/
def Converges (s : PhantomPlugin) : Prop := ∀ now connects,
  ({ s with sends := [] }.Tick now connects).pipe = .opened →
    Agrees s.cfg ({ s with sends := [] }.Tick now connects).driver

/-- The next request reaches, behind a reconnect, a driver that has restarted. -/
def repairsRestart (s : PhantomPlugin) (sends : List SendOutcome) : Bool :=
  match s.pipe, sends.headD .delivered with
  | .closed, _ => false
  | _, .closed _ _ => false
  | _, .repaired => true
  | pipe, _ => decide (pipe = .broken true)

/-- The next request leaves the driver as it is. -/
def loses (s : PhantomPlugin) (sends : List SendOutcome) : Bool :=
  decide (s.pipe = .closed) || decide (sends.headD .delivered = .closed false false)

/-- The condition on a step. -/
def Meets (s : PhantomPlugin) : Action → Prop
  | .start _ _ sends | .tick _ _ sends => .repaired ∉ sends.tail
  | .edit e sends =>
    s.cfg.Clear e ∧ (s.repairsRestart sends = true → Agrees s.cfg .fresh) ∧
      (e.clears = true → s.loses sends = true → s.driver.Lacks e)
  | .captureTPose _ sends => s.repairsRestart sends = false ∧ .repaired ∉ sends.tail
  | _ => True

/-! ## What the steps keep -/

/-- A replay would make the driver agree, and it does agree while the pipe is in use. -/
structure Inv (s : PhantomPlugin) : Prop where
  sound : s.cfg.Sound
  covered : phantomStore.Covered s.cfg.requests s.driver
  restarted : s.pipe = .broken true → ∀ p, s.driver.read p = PhantomModule.fresh.read p
  mirrors : s.pipe = .opened ∨ s.pipe = .broken false → phantomStore.Mirrors s.cfg.want s.driver

variable {s t : PhantomPlugin}

theorem Inv.of_mirrors (hsound : s.cfg.Sound) (h : phantomStore.Mirrors s.cfg.want s.driver)
    (hpipe : s.pipe ≠ .broken true) : s.Inv :=
  ⟨hsound, h.covered hsound.tells, fun hbroken => absurd hbroken hpipe, fun _ => h⟩

theorem Inv.of_closed (hsound : s.cfg.Sound) (h : phantomStore.Covered s.cfg.requests s.driver)
    (hpipe : s.pipe = .closed) : s.Inv := by
  refine ⟨hsound, h, fun hbroken => ?_, fun hopen => ?_⟩
  · rw [hpipe] at hbroken
    cases hbroken
  · rw [hpipe] at hopen
    rcases hopen with hopen | hopen <;> cases hopen

/-- What a call of `SendBlocking` leaves. -/
theorem send_cases (s : PhantomPlugin) (r : PhantomRequest) :
    s.pipe = .closed ∧ s.send r = s ∨
    (s.pipe ≠ .closed ∧ s.send r =
      { s with sends := s.sends.tail, driver := s.driver.HandleRequest r, pipe := .opened }) ∧
      s.sends.headD .delivered ≠ .repaired ∧
      (∀ applied restarted, s.sends.headD .delivered ≠ .closed applied restarted) ∨
    (s.pipe ≠ .closed ∧ s.send r =
      { s with sends := s.sends.tail, driver := .HandleRequest .fresh r, pipe := .opened }) ∧
      s.sends.headD .delivered = .repaired ∨
    ∃ m applied restarted, s.pipe ≠ .closed ∧
      s.send r = { s with
        sends := s.sends.tail
        driver := if applied = true then m.HandleRequest r else m
        pipe := .closed } ∧
      s.sends.headD .delivered = .closed applied restarted ∧
      m = if restarted = true then .fresh else s.driver := by
  by_cases hpipe : s.pipe = .closed
  · exact .inl ⟨hpipe, send_closed hpipe r⟩
  · unfold send
    rw [if_neg hpipe]
    cases hout : s.sends.headD .delivered with
    | delivered => exact .inr (.inl ⟨⟨hpipe, rfl⟩, by simp, by simp⟩)
    | oversized => exact .inr (.inl ⟨⟨hpipe, rfl⟩, by simp, by simp⟩)
    | repaired => exact .inr (.inr (.inl ⟨⟨hpipe, rfl⟩, rfl⟩))
    | closed applied restarted =>
      exact .inr (.inr (.inr ⟨_, applied, restarted, hpipe, rfl, rfl, rfl⟩))

/-! ## An edit -/

/-- An edit whose request arrives at a driver that agrees leaves it so. -/
theorem Inv.edit_delivered {cfg : Config} {e : Edit} {m : PhantomModule} (hsound : cfg.Sound)
    (hclear : cfg.Clear e) (hm : phantomStore.Mirrors cfg.want m) (ht : t.cfg = cfg.edit e)
    (hdriver : t.driver = m.HandleRequest ((cfg.edit e).request e)) (hpipe : t.pipe = .opened) :
    t.Inv := by
  refine .of_mirrors (ht ▸ hsound.edit hclear) ?_ (by rw [hpipe]; simp)
  rw [ht, hdriver]
  exact hm.edit (hsound.edits hclear)

/-- An edit that does not arrive is in the next replay, or changes nothing in the driver. -/
theorem Inv.edit_lost (h : s.Inv) {e : Edit} (hclear : s.cfg.Clear e)
    (hlacks : e.clears = true → s.driver.Lacks e) (ht : t.cfg = s.cfg.edit e)
    (hdriver : t.driver = s.driver) (hpipe : t.pipe = .closed) : t.Inv := by
  refine .of_closed (ht ▸ h.sound.edit hclear) ?_ hpipe
  rw [ht, hdriver]
  refine h.covered.edit_lost (r := (s.cfg.edit e).request e) (fun p hp => ?_) fun p hp => ?_
  · rw [Config.replayed_iff] at hp ⊢
    exact Config.sets_edit e hp
  · rw [Config.replayed_iff]
    cases hc : e.clears with
    | false => exact .inl (Config.sets_of_write hc hp)
    | true => exact .inr ((hlacks hc).read hp)

/-- An edit that arrives before the pipe is closed is in the driver or in the next replay. -/
theorem Inv.edit_closed {cfg : Config} {e : Edit} {m : PhantomModule} (hsound : cfg.Sound)
    (hclear : cfg.Clear e) (hm : phantomStore.Covered cfg.requests m) (ht : t.cfg = cfg.edit e)
    (hdriver : t.driver = m.HandleRequest ((cfg.edit e).request e)) (hpipe : t.pipe = .closed) :
    t.Inv := by
  have hsound' := hsound.edit hclear
  refine .of_closed (ht ▸ hsound') ?_ hpipe
  rw [ht, hdriver]
  refine hm.edit_applied (hsound.edits hclear) hsound'.tells fun p hp => ?_
  rw [Config.replayed_iff] at hp ⊢
  exact Config.sets_edit e hp

theorem covered_fresh (cfg : Config) : phantomStore.Covered cfg.requests .fresh :=
  Store.covered_of_fresh fun _ => rfl

/-- **An edit keeps the invariant**, whatever becomes of its request. -/
theorem Inv.edit (h : s.Inv) {e : Edit} (hclear : s.cfg.Clear e)
    (hrepairs : s.repairsRestart s.sends = true → Agrees s.cfg .fresh)
    (hloses : e.clears = true → s.loses s.sends = true → s.driver.Lacks e) : (s.edit e).Inv := by
  rw [edit_eq]
  rcases send_cases { s with cfg := s.cfg.edit e } ((s.cfg.edit e).request e) with
    ⟨hpipe, hsend⟩ | ⟨⟨hpipe, hsend⟩, hout, hnot⟩ | ⟨⟨hpipe, hsend⟩, hout⟩ |
    ⟨m, applied, restarted, hpipe, hsend, hout, hm⟩
  · rw [hsend]
    have hpipe : s.pipe = .closed := hpipe
    exact h.edit_lost hclear (fun hc => hloses hc (by simp [loses, hpipe])) rfl rfl hpipe
  · rw [hsend]
    refine .edit_delivered (m := s.driver) h.sound hclear ?_ rfl rfl rfl
    cases hs : s.pipe with
    | closed => exact absurd hs hpipe
    | opened => exact h.mirrors (.inl hs)
    | broken r =>
      cases r with
      | false => exact h.mirrors (.inr hs)
      | true =>
        -- the driver has restarted, and has nothing of the configuration
        have hrep : s.repairsRestart s.sends = true := by
          unfold repairsRestart
          rw [hs]
          cases hd : s.sends.headD .delivered with
          | closed applied restarted => exact absurd hd (hnot applied restarted)
          | _ => rfl
        intro p
        rw [← h.sound.mirrors_iff.2 (hrepairs hrep) p]
        exact h.restarted hs p
  · rw [hsend]
    have hrep : s.repairsRestart s.sends = true := by
      unfold repairsRestart
      rw [hout]
      cases hs : s.pipe with
      | closed => exact absurd hs hpipe
      | _ => rfl
    exact .edit_delivered h.sound hclear (h.sound.mirrors_iff.2 (hrepairs hrep)) rfl rfl rfl
  · rw [hsend]
    have hcovered : phantomStore.Covered s.cfg.requests m := by
      rw [hm]
      split
      · exact covered_fresh _
      · exact h.covered
    cases applied with
    | true => exact .edit_closed h.sound hclear hcovered rfl rfl rfl
    | false =>
      cases restarted with
      | true =>
        refine .of_closed (h.sound.edit hclear) ?_ rfl
        rw [hm]
        exact covered_fresh _
      | false =>
        have hout : s.sends.headD .delivered = .closed false false := hout
        refine h.edit_lost hclear (fun hc => hloses hc ?_) rfl hm rfl
        rw [loses, hout, decide_eq_true rfl, Bool.or_true]

/-! ## A replay -/

theorem send_covered (h : phantomStore.Covered s.cfg.requests s.driver) {r : PhantomRequest}
    (hr : r ∈ s.cfg.requests) : phantomStore.Covered s.cfg.requests (s.send r).driver := by
  have hfresh := covered_fresh s.cfg
  rcases send_cases s r with ⟨-, hsend⟩ | ⟨⟨-, hsend⟩, -⟩ | ⟨⟨-, hsend⟩, -⟩ |
    ⟨m, applied, restarted, -, hsend, -, hm⟩
  · rw [hsend]
    exact h
  · rw [hsend]
    exact h.handle hr
  · rw [hsend]
    exact hfresh.handle hr
  · rw [hsend]
    have hcovered : phantomStore.Covered s.cfg.requests m := by
      rw [hm]
      split
      · exact hfresh
      · exact h
    cases applied with
    | true => exact hcovered.handle hr
    | false => exact hcovered

theorem foldl_send_covered {cfg : Config} {rs : List PhantomRequest} (hrs : rs ⊆ cfg.requests)
    (hcfg : s.cfg = cfg) (h : phantomStore.Covered cfg.requests s.driver) :
    phantomStore.Covered cfg.requests (rs.foldl send s).driver := by
  induction rs generalizing s with
  | nil => exact h
  | cons r rs ih =>
    obtain ⟨hr, hrs⟩ := List.cons_subset.1 hrs
    subst hcfg
    exact ih hrs (send_cfg s r) (send_covered h hr)

/-- Without a restart in between, requests are all handled, or the pipe is closed. -/
theorem foldl_send_opened (rs : List PhantomRequest) (hpipe : s.pipe = .opened)
    (hno : .repaired ∉ s.sends) : (rs.foldl send s).pipe = .closed ∨
      (rs.foldl send s).pipe = .opened ∧
        (rs.foldl send s).driver = rs.foldl PhantomModule.HandleRequest s.driver := by
  induction rs generalizing s with
  | nil => exact .inr ⟨hpipe, rfl⟩
  | cons r rs ih =>
    have htail : .repaired ∉ s.sends.tail := fun hmem => hno (List.mem_of_mem_tail hmem)
    rw [List.foldl_cons, List.foldl_cons]
    rcases send_cases s r with ⟨hclosed, -⟩ | ⟨⟨-, hsend⟩, -⟩ | ⟨-, hout⟩ |
      ⟨m, applied, restarted, -, hsend, -, -⟩
    · rw [hpipe] at hclosed
      cases hclosed
    · rw [hsend]
      exact ih rfl htail
    · cases hs : s.sends with
      | nil =>
        rw [hs] at hout
        cases hout
      | cons o os =>
        rw [hs] at hno hout
        exact absurd (hout ▸ List.mem_cons_self) hno
    · rw [hsend, foldl_send_closed rfl]
      exact .inl rfl

/-- **A replay establishes the invariant** where only its first request may find the driver
    restarted. -/
theorem replay_inv (hsound : s.cfg.Sound) (h : phantomStore.Covered s.cfg.requests s.driver)
    (hno : .repaired ∉ s.sends.tail) : s.replay.Inv := by
  have hcfg : s.replay.cfg = s.cfg := by rw [replay_eq, foldl_send_cfg]
  have hcovered : phantomStore.Covered s.cfg.requests s.replay.driver := by
    rw [replay_eq]
    exact foldl_send_covered (List.Subset.refl _) rfl h
  have hclosed : s.replay.pipe = .closed → s.replay.Inv := by
    intro hpipe
    refine .of_closed (hcfg ▸ hsound) ?_ hpipe
    rw [hcfg]
    exact hcovered
  -- behind the first request no driver restarts unnoticed
  have hrest : ∀ {base : PhantomModule} {r rs}, s.cfg.requests = r :: rs →
      phantomStore.Covered s.cfg.requests base →
      s.send r = { s with
        sends := s.sends.tail, driver := base.HandleRequest r, pipe := .opened } →
      s.replay.Inv := by
    intro base r rs hreqs hbase hsend
    have hreplay : s.replay = rs.foldl send (s.send r) := by rw [replay_eq, hreqs, List.foldl_cons]
    have hopened := foldl_send_opened (s := s.send r) rs (by rw [hsend]) (by rw [hsend]; exact hno)
    rw [← hreplay] at hopened
    rcases hopened with hpipe | ⟨hpipe, hdriver⟩
    · exact hclosed hpipe
    · refine .of_mirrors (hcfg ▸ hsound) ?_ (by rw [hpipe]; simp)
      have hmirrors := hbase.mirrors_foldl hsound.tells
      rw [hreqs, List.foldl_cons] at hmirrors
      rw [hcfg, hdriver, hsend]
      exact hmirrors
  obtain ⟨r, rs, hreqs⟩ : ∃ r rs, s.cfg.requests = r :: rs := ⟨_, _, rfl⟩
  rcases send_cases s r with ⟨hpipe, -⟩ | ⟨⟨-, hsend⟩, -⟩ | ⟨⟨-, hsend⟩, -⟩ |
    ⟨m, applied, restarted, -, hsend, -, -⟩
  · exact hclosed (by rw [replay_eq, foldl_send_closed hpipe, hpipe])
  · exact hrest hreqs h hsend
  · exact hrest hreqs (covered_fresh _) hsend
  · apply hclosed
    rw [replay_eq, hreqs, List.foldl_cons, hsend, foldl_send_closed rfl]

/-! ## The steps -/

theorem connect_cases (s : PhantomPlugin) (now : ℕ) (connects : Bool) :
    s.ConnectIfNeeded now connects = (s, false) ∨
    s.pipe = .closed ∧ s.ConnectIfNeeded now connects =
      ({ s with nextConnectAttempt := some (now + 1000) }, false) ∨
    s.pipe = .closed ∧ s.ConnectIfNeeded now connects =
      ({ s with pipe := .opened, nextConnectAttempt := none }, true) := by
  unfold ConnectIfNeeded
  split
  · exact .inl rfl
  · next hclosed =>
    rw [not_not] at hclosed
    split
    · exact .inl rfl
    · split
      · exact .inr (.inr ⟨hclosed, rfl⟩)
      · exact .inr (.inl ⟨hclosed, rfl⟩)

theorem Inv.start (h : s.Inv) (hno : .repaired ∉ s.sends.tail) (now : ℕ) (connects : Bool) :
    (s.OnStart now connects).Inv := by
  unfold OnStart
  rcases connect_cases s now connects with hc | ⟨-, hc⟩ | ⟨-, hc⟩
  · rw [hc]
    exact replay_inv h.sound h.covered hno
  · rw [hc]
    exact replay_inv h.sound h.covered hno
  · rw [hc]
    exact replay_inv h.sound h.covered hno

theorem Inv.tick (h : s.Inv) (hno : .repaired ∉ s.sends.tail) (now : ℕ) (connects : Bool) :
    (s.Tick now connects).Inv := by
  unfold Tick
  rcases connect_cases s now connects with hc | ⟨hpipe, hc⟩ | ⟨-, hc⟩
  · rw [hc]
    exact h
  · rw [hc]
    exact .of_closed h.sound h.covered hpipe
  · rw [hc]
    exact replay_inv h.sound h.covered hno

/-- The requests of a capture meet no restart behind a repaired pipe. -/
def Steady (s : PhantomPlugin) : Prop :=
  s.repairsRestart s.sends = false ∧ .repaired ∉ s.sends.tail

theorem Steady.send (h : s.Steady) (r : PhantomRequest) : (s.send r).Steady := by
  obtain ⟨hrep, hno⟩ := h
  have htail : .repaired ∉ s.sends.tail.tail := fun hmem => hno (List.mem_of_mem_tail hmem)
  have hhead : s.sends.tail.headD .delivered ≠ .repaired := by
    intro hhead
    cases hs : s.sends.tail with
    | nil =>
      rw [hs] at hhead
      cases hhead
    | cons o os =>
      rw [hs] at hhead hno
      exact hno (hhead ▸ List.mem_cons_self)
  have hopened : ∀ m : PhantomModule, Steady { s with
      sends := s.sends.tail, driver := m, pipe := .opened } := by
    refine fun m => ⟨?_, htail⟩
    simp only [repairsRestart]
    cases hout : s.sends.tail.headD .delivered with
    | repaired => exact absurd hout hhead
    | _ => rfl
  rcases send_cases s r with ⟨-, hsend⟩ | ⟨⟨-, hsend⟩, -⟩ | ⟨⟨-, hsend⟩, -⟩ |
    ⟨m, applied, restarted, -, hsend, -, -⟩
  · rw [hsend]
    exact ⟨hrep, hno⟩
  · rw [hsend]
    exact hopened _
  · rw [hsend]
    exact hopened _
  · rw [hsend]
    exact ⟨rfl, htail⟩

theorem Inv.captureTPose (h : s.Inv) (hsteady : s.Steady) (devices : List Captured) :
    (s.CaptureTPose devices).Inv := by
  suffices hloop : (s.CaptureTPose devices).Inv ∧ (s.CaptureTPose devices).Steady from hloop.1
  unfold CaptureTPose
  induction devices generalizing s with
  | nil => exact ⟨h, hsteady⟩
  | cons d devices ih =>
    rw [List.foldl_cons]
    split
    · exact ih h hsteady
    · next role _ =>
      split
      · exact ih h hsteady
      · refine ih (h.edit trivial (fun hrep => ?_) fun hc => ?_) ?_
        · rw [hsteady.1] at hrep
          cases hrep
        · cases hc
        · have hsteady' :
              Steady { s with cfg := s.cfg.edit (.offset role d.rel_position d.rel_rotation) } :=
            hsteady
          rw [edit_eq]
          exact hsteady'.send _

theorem Inv.observe (h : s.Inv) (id : Slot) (serial : String) :
    Inv { s with driver := s.driver.OnRealPoseObserved id serial } := by
  refine ⟨h.sound, fun p hp => ?_, fun hpipe p => ?_, fun hpipe p => ?_⟩
  · by_cases hid : p = .ladder id
    · rw [hid]
      exact (Config.replayed_iff _).2 trivial
    · refine h.covered p fun hread => hp ?_
      exact (PhantomModule.observed_read s.driver serial hid).trans hread
  · by_cases hid : p = .ladder id
    · rw [hid]
      exact (PhantomModule.observed_ladder s.driver id serial).trans (h.restarted hpipe .timings)
    · exact (PhantomModule.observed_read s.driver serial hid).trans (h.restarted hpipe p)
  · by_cases hid : p = .ladder id
    · rw [hid]
      exact (PhantomModule.observed_ladder s.driver id serial).trans (h.mirrors hpipe .timings)
    · exact (PhantomModule.observed_read s.driver serial hid).trans (h.mirrors hpipe p)

theorem Inv.breakPipe (h : s.Inv) : Inv { s with pipe := s.pipe.cut false } := by
  refine ⟨h.sound, h.covered, fun hpipe => h.restarted ?_, fun hpipe => h.mirrors ?_⟩
  · cases hs : s.pipe with
    | broken r => simpa [Pipe.cut, hs] using hpipe
    | _ => simp [Pipe.cut, hs] at hpipe
  · cases hs : s.pipe with
    | closed => simp [Pipe.cut, hs] at hpipe
    | opened => exact .inl rfl
    | broken r => simpa [Pipe.cut, hs] using hpipe

theorem Inv.restart (h : s.Inv) : Inv { s with driver := .fresh, pipe := s.pipe.cut true } := by
  refine ⟨h.sound, covered_fresh _, fun _ _ => rfl, fun hpipe => ?_⟩
  cases hs : s.pipe <;> simp [Pipe.cut, hs] at hpipe

/-- **Every step that meets the condition keeps the invariant.** -/
theorem Inv.step (h : s.Inv) {a : Action} (hmeets : s.Meets a) (ht : step s a = some t) :
    t.Inv := by
  -- what becomes of the next requests is no part of the invariant
  have hsends : ∀ sends, Inv { s with sends := sends } :=
    fun _ => ⟨h.sound, h.covered, h.restarted, h.mirrors⟩
  cases a with
  | start now connects sends =>
    obtain rfl := Option.some.inj ht
    exact (hsends sends).start hmeets now connects
  | tick now connects sends =>
    obtain rfl := Option.some.inj ht
    exact (hsends sends).tick hmeets now connects
  | edit e sends =>
    simp only [PhantomPlugin.step] at ht
    split at ht
    · obtain rfl := Option.some.inj ht
      exact (hsends sends).edit hmeets.1 hmeets.2.1 hmeets.2.2
    · cases ht
  | captureTPose devices sends =>
    obtain rfl := Option.some.inj ht
    exact (hsends sends).captureTPose hmeets devices
  | observe id serial =>
    obtain rfl := Option.some.inj ht
    exact h.observe id serial
  | breakPipe =>
    obtain rfl := Option.some.inj ht
    exact h.breakPipe
  | restart =>
    obtain rfl := Option.some.inj ht
    exact h.restart

theorem tick_cfg (s : PhantomPlugin) (now : ℕ) (connects : Bool) :
    (s.Tick now connects).cfg = s.cfg := by
  unfold Tick
  rcases connect_cases s now connects with hc | ⟨-, hc⟩ | ⟨-, hc⟩
  · rw [hc]
  · rw [hc]
  · rw [hc]
    simp only [replay_eq, foldl_send_cfg]

theorem Inv.converges (h : s.Inv) : s.Converges := by
  intro now connects hpipe
  have hinv := h.step (a := .tick now connects []) List.not_mem_nil rfl
  have hagrees := hinv.sound.mirrors_iff.1 (hinv.mirrors (.inl hpipe))
  rwa [tick_cfg] at hagrees

/-- A plugin that has not connected yet. -/
def initial (cfg : Config) (driver : PhantomModule) : PhantomPlugin where
  cfg := cfg
  driver := driver

/-- **Phantom settings reach the driver** in every run whose steps meet the condition, from a driver
    without entries that the configuration does not set. -/
theorem settings_reach_driver {cfg : Config} (hcfg : cfg.Sound) {driver : PhantomModule}
    (hdriver : phantomStore.Covered cfg.requests driver) {acts : List Action}
    (hmeets : AllSteps step Meets (initial cfg driver) acts) :
    Always step Converges (initial cfg driver) acts :=
  Always.of_inv (I := Inv) (fun _ _ _ h hm ht => h.step hm ht) (fun _ h => h.converges)
    (.of_closed hcfg hdriver rfl) hmeets

/-- The defaults, and nothing assigned. -/
def noConfig : Config where
  master_enabled := false
  timings := defaultTimings
  dropout_enabled := ∅
  device_role := ∅
  role_offset := ∅
  virtual_enabled := ∅

theorem noConfig_sound : noConfig.Sound :=
  ⟨fun _ h => (by cases h), fun a ha => absurd ha (AList.notMem_empty a)⟩

/-- The timings change while the driver restarts, which the next tick notices. -/
theorem settings_reach_driver_restarted :
    Always step Converges (initial noConfig .fresh)
      [.start 0 true [], .edit (.optIn "LHR-1" true) [], .restart,
        .edit (.sliderMs .blend_out 120) [.closed false false], .tick 5000 true []] := by
  refine settings_reach_driver noConfig_sound (covered_fresh _) ?_
  intro t ht
  obtain rfl := Option.some.inj ht
  refine ⟨List.not_mem_nil, fun t ht => ?_⟩
  obtain rfl := Option.some.inj ht
  refine ⟨⟨fun _ h => (by cases h), fun h => (by cases h), fun h => (by cases h)⟩, fun t ht => ?_⟩
  obtain rfl := Option.some.inj ht
  refine ⟨trivial, fun t ht => ?_⟩
  obtain rfl := Option.some.inj ht
  refine ⟨⟨trivial, fun h => (by cases h), fun h => (by cases h)⟩, fun t ht => ?_⟩
  obtain rfl := Option.some.inj ht
  exact ⟨List.not_mem_nil, trivial⟩

/-- **Stored settings that never arrive**: a timing of 0, an opt-out that is lost, and an opt-in
    that a driver forgets in a restart behind a repaired pipe. -/
theorem settings_missed :
    (∃ t, runTo step (initial noConfig .fresh)
        [.start 0 true [], .edit (.sliderMs .blend_out 0) [], .tick 1 true []] = some t ∧
      t.pipe = .opened ∧ t.cfg.timings.blend_out_ms = 0 ∧ t.driver.timings.blend_out_ms = 80) ∧
    (∃ t, runTo step (initial noConfig .fresh)
        [.start 0 true [], .edit (.optIn "LHR-1" true) [],
          .edit (.optIn "LHR-1" false) [.closed false false], .tick 1 true []] = some t ∧
      t.pipe = .opened ∧ t.cfg.dropout_enabled.lookup "LHR-1" = some false ∧
      t.driver.opt_in_by_serial_hash (Fnv1a64 "LHR-1") = some true) ∧
    ∃ t, runTo step (initial noConfig .fresh)
        [.start 0 true [], .edit (.optIn "LHR-1" true) [], .restart,
          .edit (.masterSwitch true) [], .tick 1 true []] = some t ∧
      t.pipe = .opened ∧ t.cfg.dropout_enabled.lookup "LHR-1" = some true ∧
      t.driver.opt_in_by_serial_hash (Fnv1a64 "LHR-1") = none := by
  refine ⟨⟨_, rfl, rfl, rfl, rfl⟩, ⟨_, rfl, rfl, ?_, ?_⟩, ⟨_, rfl, rfl, ?_, ?_⟩⟩
  · decide +kernel
  · decide +kernel
  · decide +kernel
  · decide +kernel

end PhantomPlugin

end WKPairDriver.Phantom
