import Mathlib
import WKPairDriver.Phantom.PhantomPlugin

/-!
# What a replay of the Phantom configuration brings

* `Config.want` — what each place of the driver should have.
* `Sound.tells` — a replay brings all of it that a fresh driver does not have.
* `Sound.edits` — the request of an edit brings what the edit changes.
* `sets_edit`, `sets_of_write` — an edit leaves the replay as it was, up to the edit's own entry,
  which is in the replay unless the edit clears it.
-/

set_option autoImplicit false

namespace WKPairDriver.Phantom

open Driver Inference

/-! ## What the driver should have -/

namespace Config

variable {cfg : Config}

/-- A serial's role is not `None`, and no other serial with a role has its hash. -/
structure Sound (cfg : Config) : Prop where
  role_ne : ∀ serial, cfg.device_role.lookup serial ≠ some noRole
  hash_inj : ∀ a ∈ cfg.device_role, ∀ b ∈ cfg.device_role, Fnv1a64 a = Fnv1a64 b → a = b

noncomputable def want (cfg : Config) : (p : Place) → p.Val
  | .master => cfg.master_enabled
  | .timings | .ladder _ => cfg.timings.timings
  | .optIn hash => cfg.dropout_enabled.entries.any fun e => e.2 && decide (Fnv1a64 e.1 = hash)
  | .role hash =>
    (cfg.device_role.entries.find? fun e => decide (Fnv1a64 e.1 = hash)).map fun e => e.2
  | .offset role => ((cfg.role_offset.lookup role).map TrackerOffset.stored).getD noOffset
  | .virtual role => (cfg.virtual_enabled.lookup role).getD false

theorem want_optIn (cfg : Config) (hash : UInt64) : cfg.want (.optIn hash) = true ↔
    ∃ serial, cfg.dropout_enabled.lookup serial = some true ∧ Fnv1a64 serial = hash := by
  simp only [want, List.any_eq_true, Bool.and_eq_true, decide_eq_true_eq]
  constructor
  · rintro ⟨⟨serial, on⟩, he, hon, hhash⟩
    obtain rfl : on = true := hon
    exact ⟨serial, AList.mem_lookup_iff.2 he, hhash⟩
  · rintro ⟨serial, hon, hhash⟩
    exact ⟨⟨serial, true⟩, AList.mem_lookup_iff.1 hon, rfl, hhash⟩

theorem Sound.want_role (h : cfg.Sound) (hash : UInt64) (role : BodyRole) :
    cfg.want (.role hash) = some role ↔
      ∃ serial, cfg.device_role.lookup serial = some role ∧ Fnv1a64 serial = hash := by
  simp only [want, Option.map_eq_some_iff]
  constructor
  · rintro ⟨⟨serial, r⟩, he, rfl⟩
    have hhash := List.find?_some he
    exact ⟨serial, AList.mem_lookup_iff.2 (List.mem_of_find?_eq_some he), by simpa using hhash⟩
  · rintro ⟨serial, hrole, hhash⟩
    have hmem := AList.mem_lookup_iff.1 hrole
    cases hf : cfg.device_role.entries.find? fun e => decide (Fnv1a64 e.1 = hash) with
    | none =>
      have hnone := List.find?_eq_none.1 hf ⟨serial, role⟩ hmem
      simp [hhash] at hnone
    | some e =>
      obtain ⟨serial', r⟩ := e
      have hr := AList.mem_lookup_iff.2 (List.mem_of_find?_eq_some hf)
      have hhash' : Fnv1a64 serial' = hash := by simpa using List.find?_some hf
      have hsame : serial' = serial := by
        apply h.hash_inj _ _ _ _ (hhash'.trans hhash.symm)
        · exact AList.lookup_isSome.1 (by rw [hr]; rfl)
        · exact AList.lookup_isSome.1 (by rw [hrole]; rfl)
      subst hsame
      rw [hr] at hrole
      exact ⟨_, rfl, Option.some.inj hrole⟩

theorem want_offset {role : BodyRole} {offset : TrackerOffset}
    (h : cfg.role_offset.lookup role = some offset) : cfg.want (.offset role) = offset.stored := by
  rw [want, h, Option.map_some, Option.getD_some]

theorem want_virtual {role : BodyRole} {enabled : Bool}
    (h : cfg.virtual_enabled.lookup role = some enabled) : cfg.want (.virtual role) = enabled := by
  rw [want, h, Option.getD_some]

/-! ## A replay brings the configuration -/

theorem mem_requests {r : PhantomRequest} : r ∈ cfg.requests ↔
    r = .SetPhantomConfig cfg.master_enabled cfg.timings ∨
    (∃ serial, cfg.dropout_enabled.lookup serial = some true ∧
      r = .SetPhantomDeviceOptIn (Fnv1a64 serial) true) ∨
    (∃ serial role, cfg.device_role.lookup serial = some role ∧
      r = .SetPhantomDeviceRole (Fnv1a64 serial) role) ∨
    (∃ role offset, cfg.role_offset.lookup role = some offset ∧ offset.calibrated = true ∧
      r = .SetPhantomTrackerOffset role offset) ∨
    ∃ role, cfg.virtual_enabled.lookup role = some true ∧
      r = .SetPhantomVirtualEnabled role true := by
  simp only [requests, optInRequests, calibrationRequests, List.cons_append, List.mem_cons,
    List.mem_append, List.mem_map, List.mem_filter, Sigma.exists, ← AList.mem_lookup_iff,
    Option.mem_def, @eq_comm _ _ r, or_assoc, and_assoc, Bool.exists_bool, Bool.false_eq_true,
    false_and, and_false, false_or, true_and]

/-- The entries that a replay sends. -/
def Sets (cfg : Config) : Place → Prop
  | .master | .timings | .ladder _ => True
  | .optIn hash => ∃ serial, cfg.dropout_enabled.lookup serial = some true ∧ Fnv1a64 serial = hash
  | .role hash => ∃ serial ∈ cfg.device_role, Fnv1a64 serial = hash
  | .offset role => ∃ offset, cfg.role_offset.lookup role = some offset ∧ offset.calibrated = true
  | .virtual role => cfg.virtual_enabled.lookup role = some true

theorem mem_device_role {serial : String} :
    serial ∈ cfg.device_role ↔ ∃ role, cfg.device_role.lookup serial = some role := by
  rw [← AList.lookup_isSome, Option.isSome_iff_exists]

theorem replayed_iff (p : Place) : phantomStore.Replayed cfg.requests p ↔ cfg.Sets p := by
  constructor
  · rintro ⟨r, hr, hw⟩
    change (r.write p).isSome at hw
    rcases mem_requests.1 hr with rfl | ⟨serial, hon, rfl⟩ | ⟨serial, role, hrole, rfl⟩ |
      ⟨role, offset, hoffset, hcal, rfl⟩ | ⟨role, hon, rfl⟩
    · cases p <;> simp_all [PhantomRequest.write, Sets]
    · cases p with
      | optIn hash =>
        by_cases hh : hash = Fnv1a64 serial
        · exact ⟨serial, hon, hh.symm⟩
        · simp [PhantomRequest.write, hh] at hw
      | _ => simp [PhantomRequest.write] at hw
    · cases p with
      | role hash =>
        by_cases hh : hash = Fnv1a64 serial
        · exact ⟨serial, mem_device_role.2 ⟨role, hrole⟩, hh.symm⟩
        · simp [PhantomRequest.write, hh] at hw
      | _ => simp [PhantomRequest.write] at hw
    · cases p with
      | offset r =>
        by_cases hr : r = role
        · exact ⟨offset, hr ▸ hoffset, hcal⟩
        · simp [PhantomRequest.write, hr] at hw
      | _ => simp [PhantomRequest.write] at hw
    · cases p with
      | virtual r =>
        by_cases hr : r = role
        · exact hr ▸ hon
        · simp [PhantomRequest.write, hr] at hw
      | _ => simp [PhantomRequest.write] at hw
  · intro h
    cases p with
    | master => exact ⟨_, mem_requests.2 (.inl rfl), rfl⟩
    | timings => exact ⟨_, mem_requests.2 (.inl rfl), rfl⟩
    | ladder id => exact ⟨_, mem_requests.2 (.inl rfl), rfl⟩
    | optIn hash =>
      obtain ⟨serial, hon, rfl⟩ := h
      refine ⟨_, mem_requests.2 (.inr (.inl ⟨serial, hon, rfl⟩)), ?_⟩
      simp [phantomStore, PhantomRequest.write]
    | role hash =>
      obtain ⟨serial, hserial, rfl⟩ := h
      obtain ⟨role, hrole⟩ := mem_device_role.1 hserial
      refine ⟨_, mem_requests.2 (.inr (.inr (.inl ⟨serial, role, hrole, rfl⟩))), ?_⟩
      simp [phantomStore, PhantomRequest.write]
    | offset role =>
      obtain ⟨offset, hoffset, hcal⟩ := h
      refine ⟨_, mem_requests.2 (.inr (.inr (.inr (.inl ⟨role, offset, hoffset, hcal, rfl⟩)))), ?_⟩
      simp [phantomStore, PhantomRequest.write]
    | virtual role =>
      refine ⟨_, mem_requests.2 (.inr (.inr (.inr (.inr ⟨role, h, rfl⟩)))), ?_⟩
      simp [phantomStore, PhantomRequest.write]

/-- What a request of the replay writes is what the driver should have. -/
theorem Sound.agree (h : cfg.Sound) {r : PhantomRequest} (hr : r ∈ cfg.requests) (p : Place)
    (v : p.Val) (hv : r.write p = some v) : v = cfg.want p := by
  rcases mem_requests.1 hr with rfl | ⟨serial, hon, rfl⟩ | ⟨serial, role, hrole, rfl⟩ |
    ⟨role, offset, hoffset, hcal, rfl⟩ | ⟨role, hon, rfl⟩
  · cases p <;> simp_all [PhantomRequest.write, want]
  · cases p with
    | optIn hash =>
      by_cases hh : hash = Fnv1a64 serial
      · have hwant := (want_optIn cfg hash).2 ⟨serial, hon, hh.symm⟩
        simp only [PhantomRequest.write, hh, if_true, Option.some.injEq] at hv
        exact hv.symm.trans hwant.symm
      · simp [PhantomRequest.write, hh] at hv
    | _ => simp [PhantomRequest.write] at hv
  · cases p with
    | role hash =>
      by_cases hh : hash = Fnv1a64 serial
      · have hwant := (h.want_role hash role).2 ⟨serial, hrole, hh.symm⟩
        have hne : role ≠ noRole := by
          rintro rfl
          exact h.role_ne serial hrole
        simp only [PhantomRequest.write, hh, if_true, if_neg hne, Option.some.injEq] at hv
        exact hv.symm.trans hwant.symm
      · simp [PhantomRequest.write, hh] at hv
    | _ => simp [PhantomRequest.write] at hv
  · cases p with
    | offset r =>
      by_cases hr : r = role
      · subst hr
        simp only [PhantomRequest.write, if_true, Option.some.injEq] at hv
        exact hv.symm.trans (want_offset hoffset).symm
      · simp [PhantomRequest.write, hr] at hv
    | _ => simp [PhantomRequest.write] at hv
  · cases p with
    | virtual r =>
      by_cases hr : r = role
      · subst hr
        simp only [PhantomRequest.write, if_true, Option.some.injEq] at hv
        exact hv.symm.trans (want_virtual hon).symm
      · simp [PhantomRequest.write, hr] at hv
    | _ => simp [PhantomRequest.write] at hv

/-- What a fresh driver does not have is in the replay. -/
theorem Sound.complete (h : cfg.Sound) (p : Place) (hp : cfg.want p ≠ PhantomModule.fresh.read p) :
    cfg.Sets p := by
  cases p with
  | master => trivial
  | timings => trivial
  | ladder id => trivial
  | optIn hash =>
    apply (want_optIn cfg hash).1
    cases hwant : cfg.want (.optIn hash) with
    | true => rfl
    | false => exact absurd hwant hp
  | role hash =>
    cases hwant : cfg.want (.role hash) with
    | none => exact absurd hwant hp
    | some role =>
      obtain ⟨serial, hrole, hhash⟩ := (h.want_role hash role).1 hwant
      exact ⟨serial, mem_device_role.2 ⟨role, hrole⟩, hhash⟩
  | offset role =>
    simp only [want] at hp
    cases hlook : cfg.role_offset.lookup role with
    | none =>
      rw [hlook] at hp
      exact absurd rfl hp
    | some offset =>
      refine ⟨offset, hlook, ?_⟩
      by_contra hcal
      rw [hlook, Option.map_some, Option.getD_some, TrackerOffset.stored,
        if_pos (by simpa using hcal)] at hp
      exact hp rfl
  | virtual role =>
    simp only [want] at hp
    cases hlook : cfg.virtual_enabled.lookup role with
    | none =>
      rw [hlook] at hp
      exact absurd rfl hp
    | some on =>
      cases on with
      | true => exact hlook
      | false =>
        rw [hlook] at hp
        exact absurd rfl hp

/-- **A replay brings the whole configuration.** -/
theorem Sound.tells (h : cfg.Sound) : phantomStore.Tells cfg.requests cfg.want where
  agree _ hr := h.agree hr
  complete p hp := (replayed_iff p).2 (h.complete p hp)

/-! ## What an edit does -/

/-- No other serial that is set has the hash of the edit's. -/
def Clear (cfg : Config) : Edit → Prop
  | .optIn serial _ => ∀ other, cfg.dropout_enabled.lookup other = some true →
      Fnv1a64 other = Fnv1a64 serial → other = serial
  | .role serial _ => ∀ other ∈ cfg.device_role, Fnv1a64 other = Fnv1a64 serial → other = serial
  | _ => True

theorem Sound.edit (h : cfg.Sound) {e : Edit} (hclear : cfg.Clear e) : (cfg.edit e).Sound := by
  cases e with
  | role serial role =>
    by_cases hrole : role = noRole
    · have hedit : (cfg.edit (.role serial role)).device_role = cfg.device_role.erase serial :=
        if_pos hrole
      constructor
      · intro other hother
        rw [hedit] at hother
        by_cases hs : other = serial
        · rw [hs, AList.lookup_erase] at hother
          cases hother
        · rw [AList.lookup_erase_ne hs] at hother
          exact h.role_ne other hother
      · intro a ha b hb hab
        rw [hedit, AList.mem_erase] at ha hb
        exact h.hash_inj a ha.2 b hb.2 hab
    · have hedit : (cfg.edit (.role serial role)).device_role =
          cfg.device_role.insert serial role := if_neg hrole
      constructor
      · intro other hother
        rw [hedit] at hother
        by_cases hs : other = serial
        · rw [hs, AList.lookup_insert] at hother
          exact hrole (Option.some.inj hother)
        · rw [AList.lookup_insert_ne hs] at hother
          exact h.role_ne other hother
      · intro a ha b hb hab
        rw [hedit, AList.mem_insert] at ha hb
        rcases ha with rfl | ha
        · rcases hb with rfl | hb
          · rfl
          · exact (hclear b hb hab.symm).symm
        · rcases hb with rfl | hb
          · exact hclear a ha hab
          · exact h.hash_inj a ha b hb hab
  | _ => exact ⟨h.role_ne, h.hash_inj⟩

theorem edits_optIn {serial : String} {enabled : Bool} (hclear : cfg.Clear (.optIn serial enabled))
    (hash : UInt64) : (cfg.edit (.optIn serial enabled)).want (.optIn hash) =
      if hash = Fnv1a64 serial then enabled else cfg.want (.optIn hash) := by
  rw [Bool.eq_iff_iff, want_optIn]
  have hlook : (cfg.edit (.optIn serial enabled)).dropout_enabled =
    cfg.dropout_enabled.insert serial enabled := rfl
  rw [hlook]
  split
  · next hh =>
    constructor
    · rintro ⟨other, hother, hhash⟩
      by_cases hs : other = serial
      · rw [hs, AList.lookup_insert] at hother
        exact Option.some.inj hother
      · rw [AList.lookup_insert_ne hs] at hother
        exact absurd (hclear other hother (hhash.trans hh)) hs
    · rintro rfl
      exact ⟨serial, AList.lookup_insert _, hh.symm⟩
  · next hh =>
    have hne : ∀ other, Fnv1a64 other = hash → other ≠ serial := by
      rintro other hother rfl
      exact hh hother.symm
    rw [want_optIn]
    constructor
    · rintro ⟨other, hother, hhash⟩
      rw [AList.lookup_insert_ne (hne other hhash)] at hother
      exact ⟨other, hother, hhash⟩
    · rintro ⟨other, hother, hhash⟩
      exact ⟨other, (AList.lookup_insert_ne (hne other hhash)).trans hother, hhash⟩

theorem edits_role {serial : String} {role : BodyRole} (h : cfg.Sound)
    (hclear : cfg.Clear (.role serial role)) (hash : UInt64) :
    (cfg.edit (.role serial role)).want (.role hash) =
      if hash = Fnv1a64 serial then (if role = noRole then none else some role)
      else cfg.want (.role hash) := by
  have hlook : ∀ other, (cfg.edit (.role serial role)).device_role.lookup other =
      if other = serial then (if role = noRole then none else some role)
      else cfg.device_role.lookup other := by
    intro other
    simp only [edit]
    by_cases hs : other = serial
    · subst hs
      by_cases hr : role = noRole <;> simp [hr]
    · by_cases hr : role = noRole
      · simp [hs, hr, AList.lookup_erase_ne]
      · simp [hs, hr, AList.lookup_insert_ne]
  apply Option.ext
  intro r
  rw [(h.edit hclear).want_role]
  split
  · next hh =>
    constructor
    · rintro ⟨other, hother, hhash⟩
      rw [hlook] at hother
      by_cases hs : other = serial
      · rwa [if_pos hs] at hother
      · rw [if_neg hs] at hother
        exact absurd (hclear other (mem_device_role.2 ⟨r, hother⟩) (hhash.trans hh)) hs
    · intro hr
      exact ⟨serial, (hlook serial).trans ((if_pos rfl).trans hr), hh.symm⟩
  · next hh =>
    have hne : ∀ other, Fnv1a64 other = hash → other ≠ serial := by
      rintro other hother rfl
      exact hh hother.symm
    rw [h.want_role]
    constructor
    · rintro ⟨other, hother, hhash⟩
      rw [hlook, if_neg (hne other hhash)] at hother
      exact ⟨other, hother, hhash⟩
    · rintro ⟨other, hother, hhash⟩
      exact ⟨other, (hlook other).trans ((if_neg (hne other hhash)).trans hother), hhash⟩

/-- **The request of an edit brings what the edit changes.** -/
theorem Sound.edits (h : cfg.Sound) {e : Edit} (hclear : cfg.Clear e) :
    phantomStore.Edits ((cfg.edit e).request e) cfg.want (cfg.edit e).want := by
  intro p
  change (cfg.edit e).want p = (((cfg.edit e).request e).write p).getD (cfg.want p)
  cases e with
  | masterSwitch enabled => cases p <;> rfl
  | sliderMs label tmp => cases p <;> rfl
  | resetToDefaults => cases p <;> rfl
  | optIn serial enabled =>
    cases p with
    | optIn hash =>
      rw [edits_optIn hclear]
      by_cases hh : hash = Fnv1a64 serial <;> simp [request, PhantomRequest.write, hh]
    | _ => rfl
  | role serial role =>
    cases p with
    | role hash =>
      rw [edits_role h hclear]
      by_cases hh : hash = Fnv1a64 serial <;> simp [request, PhantomRequest.write, hh]
    | _ => rfl
  | offset role rel_position rel_rotation =>
    cases p with
    | offset r =>
      by_cases hr : r = role
      · subst hr
        rw [want_offset (AList.lookup_insert _)]
        simp [request, PhantomRequest.write]
      · have hlook : (cfg.edit (.offset role rel_position rel_rotation)).role_offset.lookup r =
          cfg.role_offset.lookup r := AList.lookup_insert_ne hr
        simp only [want, hlook, request, PhantomRequest.write, if_neg hr, Option.getD_none]
    | _ => rfl
  | virtual role enabled =>
    cases p with
    | virtual r =>
      by_cases hr : r = role
      · subst hr
        rw [want_virtual (AList.lookup_insert _)]
        simp [request, PhantomRequest.write]
      · have hlook : (cfg.edit (.virtual role enabled)).virtual_enabled.lookup r =
          cfg.virtual_enabled.lookup r := AList.lookup_insert_ne hr
        simp only [want, hlook, request, PhantomRequest.write, if_neg hr, Option.getD_none]
    | _ => rfl

/-- What was in a replay stays there, up to what the edit's own request brings. -/
theorem sets_edit (e : Edit) {p : Place} (h : cfg.Sets p) :
    (cfg.edit e).Sets p ∨ (((cfg.edit e).request e).write p).isSome := by
  cases e with
  | optIn serial enabled =>
    cases p with
    | optIn hash =>
      by_cases hh : hash = Fnv1a64 serial
      · exact .inr (by simp [request, PhantomRequest.write, hh])
      · obtain ⟨other, hother, hhash⟩ := h
        have hne : other ≠ serial := by
          rintro rfl
          exact hh hhash.symm
        exact .inl ⟨other, (AList.lookup_insert_ne hne).trans hother, hhash⟩
    | _ => exact .inl h
  | role serial role =>
    cases p with
    | role hash =>
      by_cases hh : hash = Fnv1a64 serial
      · exact .inr (by simp [request, PhantomRequest.write, hh])
      · obtain ⟨other, hother, hhash⟩ := h
        have hne : other ≠ serial := by
          rintro rfl
          exact hh hhash.symm
        refine .inl ⟨other, ?_, hhash⟩
        simp only [edit]
        split
        · exact AList.mem_erase.2 ⟨hne, hother⟩
        · exact (AList.mem_insert _).2 (.inr hother)
    | _ => exact .inl h
  | offset role rel_position rel_rotation =>
    cases p with
    | offset r =>
      by_cases hr : r = role
      · exact .inr (by simp [request, PhantomRequest.write, hr])
      · obtain ⟨offset, hoffset, hcal⟩ := h
        exact .inl ⟨offset, (AList.lookup_insert_ne hr).trans hoffset, hcal⟩
    | _ => exact .inl h
  | virtual role enabled =>
    cases p with
    | virtual r =>
      by_cases hr : r = role
      · exact .inr (by simp [request, PhantomRequest.write, hr])
      · exact .inl ((AList.lookup_insert_ne hr).trans h)
    | _ => exact .inl h
  | _ => cases p <;> exact .inl h

end Config

/-- The edit takes an entry away, which no replay brings. -/
def Edit.clears : Edit → Bool
  | .optIn _ enabled | .virtual _ enabled => !enabled
  | .role _ r => decide (r = noRole)
  | _ => false

/-- What any other edit brings is in a replay. -/
theorem Config.sets_of_write {cfg : Config} {e : Edit} (he : e.clears = false) {p : Place}
    (h : (((cfg.edit e).request e).write p).isSome) : (cfg.edit e).Sets p := by
  cases e with
  | optIn serial enabled =>
    cases p with
    | optIn hash =>
      obtain rfl : enabled = true := by simpa [Edit.clears] using he
      by_cases hh : hash = Fnv1a64 serial
      · exact ⟨serial, AList.lookup_insert _, hh.symm⟩
      · simp [request, PhantomRequest.write, hh] at h
    | _ => simp [request, PhantomRequest.write] at h
  | role serial role =>
    cases p with
    | role hash =>
      have hrole : role ≠ noRole := by simpa [Edit.clears] using he
      by_cases hh : hash = Fnv1a64 serial
      · refine ⟨serial, ?_, hh.symm⟩
        simp only [edit, if_neg hrole]
        exact (AList.mem_insert _).2 (.inl rfl)
      · simp [request, PhantomRequest.write, hh] at h
    | _ => simp [request, PhantomRequest.write] at h
  | offset role rel_position rel_rotation =>
    cases p with
    | offset r =>
      by_cases hr : r = role
      · subst hr
        exact ⟨_, AList.lookup_insert _, rfl⟩
      · simp [request, PhantomRequest.write, hr] at h
    | _ => simp [request, PhantomRequest.write] at h
  | virtual role enabled =>
    cases p with
    | virtual r =>
      obtain rfl : enabled = true := by simpa [Edit.clears] using he
      by_cases hr : r = role
      · subst hr
        exact AList.lookup_insert _
      · simp [request, PhantomRequest.write, hr] at h
    | _ => simp [request, PhantomRequest.write] at h
  | _ => cases p <;> trivial

namespace PhantomModule

/-- The driver does not have the entry that the edit is about. -/
def Lacks (m : PhantomModule) : Edit → Prop
  | .optIn serial _ => m.opt_in_by_serial_hash (Fnv1a64 serial) ≠ some true
  | .role serial _ => m.role_by_serial_hash (Fnv1a64 serial) = none
  | .virtual role _ => m.virtual_enabled role = false
  | _ => False

theorem Lacks.read {m : PhantomModule} {e : Edit} (h : m.Lacks e) {cfg : Config} {p : Place}
    (hp : ((cfg.request e).write p).isSome) : m.read p = fresh.read p := by
  cases e with
  | optIn serial enabled =>
    cases p with
    | optIn hash =>
      by_cases hh : hash = Fnv1a64 serial
      · subst hh
        exact decide_eq_false h
      · simp [Config.request, PhantomRequest.write, hh] at hp
    | _ => simp [Config.request, PhantomRequest.write] at hp
  | role serial role =>
    cases p with
    | role hash =>
      by_cases hh : hash = Fnv1a64 serial
      · subst hh
        exact h
      · simp [Config.request, PhantomRequest.write, hh] at hp
    | _ => simp [Config.request, PhantomRequest.write] at hp
  | virtual role enabled =>
    cases p with
    | virtual r =>
      by_cases hr : r = role
      · subst hr
        exact h
      · simp [Config.request, PhantomRequest.write, hr] at hp
    | _ => simp [Config.request, PhantomRequest.write] at hp
  | _ => exact h.elim

end PhantomModule

end WKPairDriver.Phantom
