import WKPairDriver.Lib.Run

/-!
# Pairing of stick axes

The driver registers every input component by its handle.  A scalar component whose path ends in
`/x` or `/y` is paired with one of the other axis that has the same path stem and the same property
container: each gets the handle of the other.

* `registerScalar_keeps`, `registerScalar_converse`, `registerBoolean_paired_iff` — what each
  registration needs, to keep the pairing symmetric.
* `pairing_symmetric_iff` — in every run, the pairing is symmetric in every state exactly when each
  registration has that.

A hash map is iterated in an unspecified order: the order is part of the state, and may change to
any other at any time.
-/

set_option autoImplicit false

namespace WKPairDriver.InputHealth.Pairing

open Lib

inductive AxisRole where
  | Unpaired
  | StickX
  | StickY
  deriving DecidableEq, Repr

/-- `ClassifyAxisRole`: the role, and `out_stem`. -/
def ClassifyAxisRole (path : List Char) : AxisRole × List Char :=
  match path.reverse with
  | b :: a :: stem =>
    if a = '/' ∧ (b = 'x' ∨ b = 'X') then (.StickX, stem.reverse)
    else if a = '/' ∧ (b = 'y' ∨ b = 'Y') then (.StickY, stem.reverse)
    else (.Unpaired, path)
  | _ => (.Unpaired, path)

/-- The role `FindStickPartner_locked` looks for. -/
def AxisRole.want (this_role : AxisRole) : AxisRole :=
  if this_role = .StickX then .StickY else .StickX

/-- The fields of `ComponentStats` that the registration sets or reads. -/
structure RegisteredComponent where
  path : List Char := []
  is_scalar : Bool := false
  is_boolean : Bool := false
  scalar_type : UInt8 := 0
  scalar_units : UInt8 := 0
  container_handle : UInt64 := 0
  device_serial_hash : UInt64 := 0
  first_update_logged : Bool := false
  axis_role : AxisRole := .Unpaired
  partner_handle : UInt64 := 0
  deriving DecidableEq, Repr

/-- `partner_handle` is assigned. -/
def RegisteredComponent.withPartner (c : RegisteredComponent) (handle : UInt64) :
    RegisteredComponent :=
  { c with partner_handle := handle }

/-- `g_componentStats`, with the order an iteration visits the handles in. -/
structure Registry where
  components : UInt64 → Option RegisteredComponent
  order : List UInt64

namespace Registry

/-- Nothing is registered. -/
def empty : Registry := ⟨fun _ => none, []⟩

/-- `g_componentStats[handle]` is assigned. -/
def set (s : Registry) (handle : UInt64) (stats : RegisteredComponent) : Registry where
  components := Function.update s.components handle (some stats)
  order := if (s.components handle).isSome then s.order else s.order ++ [handle]

/-- `g_componentStats[handle]`, a new one if there is none. -/
def get (s : Registry) (handle : UInt64) : RegisteredComponent :=
  (s.components handle).getD {}

/-- The partner of a handle, zero for a handle that is not registered. -/
def partnerOf (s : Registry) (handle : UInt64) : UInt64 := (s.get handle).partner_handle

/-- The component is the other axis of the stem. -/
def matchesAxis (s : Registry) (stem : List Char) (this_role : AxisRole) (container : UInt64)
    (handle : UInt64) : Bool :=
  match s.components handle with
  | none => false
  | some peer => peer.is_scalar && decide (peer.axis_role = this_role.want) &&
      decide (peer.container_handle = container) && decide ((ClassifyAxisRole peer.path).2 = stem)

end Registry

/-- `FindStickPartner_locked`. -/
def FindStickPartner (s : Registry) (stem : List Char) (this_role : AxisRole)
    (container : UInt64) : UInt64 :=
  (s.order.find? (s.matchesAxis stem this_role container)).getD 0

/-- The arguments of `RegisterScalarComponent`. -/
structure ScalarArgs where
  handle : UInt64
  container : UInt64
  path : List Char
  scalar_type : UInt8
  scalar_units : UInt8
  deriving DecidableEq, Repr

/-- The component `RegisterScalarComponent` writes before it looks for a partner. -/
def scalarStats (ResolveSerialHash : UInt64 → UInt64) (s : Registry) (a : ScalarArgs) :
    RegisteredComponent :=
  { s.get a.handle with
    path := a.path
    is_boolean := false
    is_scalar := true
    scalar_type := a.scalar_type
    scalar_units := a.scalar_units
    first_update_logged := false
    axis_role := (ClassifyAxisRole a.path).1
    partner_handle := 0
    container_handle := a.container
    device_serial_hash := ResolveSerialHash a.container }

/-- `RegisterScalarComponent`. -/
def RegisterScalarComponent (ResolveSerialHash : UInt64 → UInt64) (s : Registry) (a : ScalarArgs) :
    Registry :=
  let stats := scalarStats ResolveSerialHash s a
  let s := s.set a.handle stats
  if stats.axis_role = .StickX ∨ stats.axis_role = .StickY then
    let partner := FindStickPartner s (ClassifyAxisRole a.path).2 stats.axis_role a.container
    if partner ≠ 0 then
      let s := s.set a.handle (stats.withPartner partner)
      s.set partner ((s.get partner).withPartner a.handle)
    else s
  else s

/-- The component `RegisterBooleanComponent` writes. -/
def booleanStats (ResolveSerialHash : UInt64 → UInt64) (s : Registry)
    (handle container : UInt64) (path : List Char) : RegisteredComponent :=
  { s.get handle with
    path := path
    is_boolean := true
    is_scalar := false
    first_update_logged := false
    container_handle := container
    device_serial_hash := ResolveSerialHash container }

/-- `RegisterBooleanComponent`. -/
def RegisterBooleanComponent (ResolveSerialHash : UInt64 → UInt64) (s : Registry)
    (handle container : UInt64) (path : List Char) : Registry :=
  s.set handle (booleanStats ResolveSerialHash s handle container path)

/-- A registration, or a new order of the map. -/
inductive RegistryAction where
  | scalar (a : ScalarArgs)
  | boolean (handle container : UInt64) (path : List Char)
  | rehash (order : List UInt64)

/-- One step.  The detours register no invalid handle. -/
def registryStep (ResolveSerialHash : UInt64 → UInt64) (s : Registry) :
    RegistryAction → Option Registry
  | .scalar a => if a.handle = 0 then none else some (RegisterScalarComponent ResolveSerialHash s a)
  | .boolean handle container path =>
    if handle = 0 then none
    else some (RegisterBooleanComponent ResolveSerialHash s handle container path)
  | .rehash order => if order.Perm s.order then some { s with order := order } else none

/-! ## Symmetry -/

/-- The two components are the two axes of one stick. -/
structure Axes (c p : RegisteredComponent) : Prop where
  role : c.axis_role ≠ .Unpaired
  want : p.axis_role = c.axis_role.want
  container : p.container_handle = c.container_handle
  stem : (ClassifyAxisRole p.path).2 = (ClassifyAxisRole c.path).2

/-- Whenever a component has a partner, the partner exists, points back, and is the other axis of
    the same stick. -/
def PairedSymmetric (s : Registry) : Prop :=
  ∀ h c, s.components h = some c → c.partner_handle ≠ 0 →
    ∃ p, s.components c.partner_handle = some p ∧ p.partner_handle = h ∧ Axes c p

/-- The other axis in the registry, the first one in its order; zero if there is none. -/
def axisCandidate (s : Registry) (a : ScalarArgs) : UInt64 :=
  if (ClassifyAxisRole a.path).1 = .Unpaired then 0
  else
    (s.order.find? fun k => decide (k ≠ a.handle) &&
      s.matchesAxis (ClassifyAxisRole a.path).2 (ClassifyAxisRole a.path).1 a.container k).getD 0

/-- The condition on a registration.  A scalar component that is paired finds its partner again,
    and one that is not finds an axis that is not paired, or none; a boolean component that was one
    axis of a pair keeps container and stem. -/
def KeepsPairing (s : Registry) : RegistryAction → Prop
  | .scalar a => axisCandidate s a = s.partnerOf a.handle ∨
      (s.partnerOf a.handle = 0 ∧ s.partnerOf (axisCandidate s a) = 0)
  | .boolean handle container path => s.partnerOf handle ≠ 0 →
      (s.get (s.partnerOf handle)).container_handle = container ∧
        (ClassifyAxisRole (s.get (s.partnerOf handle)).path).2 = (ClassifyAxisRole path).2
  | .rehash _ => True

/-! ## What a registration does -/

section Step

variable {ResolveSerialHash : UInt64 → UInt64} {s : Registry}

theorem Axes.symm {c p : RegisteredComponent} (h : Axes c p) : Axes p c where
  role := by
    rw [h.want]
    unfold AxisRole.want
    split <;> simp
  want := by
    rw [h.want]
    have hrole := h.role
    revert hrole
    cases c.axis_role <;> simp [AxisRole.want]
  container := h.container.symm
  stem := h.stem.symm

/-- An axis is not its own partner. -/
theorem Axes.ne {c : RegisteredComponent} (h : Axes c c) : False := by
  have hwant := h.want
  have hrole := h.role
  revert hwant hrole
  cases c.axis_role <;> simp [AxisRole.want]

theorem get_of_some {h : UInt64} {c : RegisteredComponent} (hc : s.components h = some c) :
    s.get h = c := by
  rw [Registry.get, hc]
  rfl

theorem partnerOf_of_some {h : UInt64} {c : RegisteredComponent} (hc : s.components h = some c) :
    s.partnerOf h = c.partner_handle := by
  rw [Registry.partnerOf, get_of_some hc]

theorem some_of_partnerOf {h : UInt64} (hp : s.partnerOf h ≠ 0) :
    ∃ c, s.components h = some c ∧ c.partner_handle = s.partnerOf h := by
  unfold Registry.partnerOf Registry.get at hp ⊢
  cases hc : s.components h with
  | none => exact absurd (by rw [hc]; rfl) hp
  | some c => exact ⟨c, rfl, rfl⟩

theorem matchesAxis_iff {stem : List Char} {role : AxisRole} {container k : UInt64} :
    s.matchesAxis stem role container k = true ↔ ∃ peer, s.components k = some peer ∧
      peer.is_scalar = true ∧ peer.axis_role = role.want ∧ peer.container_handle = container ∧
        (ClassifyAxisRole peer.path).2 = stem := by
  unfold Registry.matchesAxis
  cases s.components k with
  | none => simp
  | some peer => simp [and_assoc]

/-- The search behind the registration's own writes is that of the registry before. -/
theorem findStickPartner_eq (a : ScalarArgs)
    (hrole : (ClassifyAxisRole a.path).1 ≠ .Unpaired) :
    FindStickPartner (s.set a.handle (scalarStats ResolveSerialHash s a))
      (ClassifyAxisRole a.path).2 (ClassifyAxisRole a.path).1 a.container = axisCandidate s a := by
  -- the component that was just written is no candidate
  have hself : (s.set a.handle (scalarStats ResolveSerialHash s a)).matchesAxis
      (ClassifyAxisRole a.path).2 (ClassifyAxisRole a.path).1 a.container a.handle = false := by
    rw [← Bool.not_eq_true, matchesAxis_iff]
    rintro ⟨peer, hpeer, _, hwant, _⟩
    have hown : peer = scalarStats ResolveSerialHash s a := by
      simpa [Registry.set] using hpeer.symm
    rw [hown] at hwant
    revert hwant hrole
    simp only [scalarStats]
    cases (ClassifyAxisRole a.path).1 <;> simp [AxisRole.want]
  have hpred : ∀ k, (s.set a.handle (scalarStats ResolveSerialHash s a)).matchesAxis
      (ClassifyAxisRole a.path).2 (ClassifyAxisRole a.path).1 a.container k =
      (decide (k ≠ a.handle) &&
        s.matchesAxis (ClassifyAxisRole a.path).2 (ClassifyAxisRole a.path).1 a.container k) := by
    intro k
    by_cases hk : k = a.handle
    · rw [hk, hself]
      simp
    · simp only [Registry.matchesAxis, Registry.set, Function.update_of_ne hk]
      simp [hk]
  rw [FindStickPartner, axisCandidate, if_neg hrole, funext hpred, Registry.set]
  dsimp only
  split
  · rfl
  · rw [List.find?_append]
    simp

/-- A candidate is another component, the other axis of the stick. -/
theorem axisCandidate_spec {a : ScalarArgs} (h : axisCandidate s a ≠ 0) :
    axisCandidate s a ≠ a.handle ∧ ∃ peer, s.components (axisCandidate s a) = some peer ∧
      Axes (scalarStats ResolveSerialHash s a) peer := by
  unfold axisCandidate at h ⊢
  by_cases hrole : (ClassifyAxisRole a.path).1 = .Unpaired
  · rw [if_pos hrole] at h
    exact absurd rfl h
  · rw [if_neg hrole] at h ⊢
    cases hfind : s.order.find? fun k => decide (k ≠ a.handle) &&
        s.matchesAxis (ClassifyAxisRole a.path).2 (ClassifyAxisRole a.path).1 a.container k with
    | none =>
      rw [hfind] at h
      exact absurd rfl h
    | some k =>
      have hk := List.find?_some hfind
      rw [Bool.and_eq_true, decide_eq_true_eq, matchesAxis_iff] at hk
      obtain ⟨hne, peer, hpeer, _, hwant, hcontainer, hstem⟩ := hk
      exact ⟨hne, peer, hpeer, ⟨hrole, hwant, hcontainer, hstem⟩⟩

theorem set_components (h : UInt64) (c : RegisteredComponent) (k : UInt64) :
    (s.set h c).components k = if k = h then some c else s.components k :=
  Function.update_apply ..

/-- **What the registration of a scalar component leaves:** its own component has the candidate as
    partner, the candidate has it, and all others are as they were. -/
theorem registerScalar_components (a : ScalarArgs) (k : UInt64) :
    (RegisterScalarComponent ResolveSerialHash s a).components k =
      if k = a.handle then
        some ((scalarStats ResolveSerialHash s a).withPartner (axisCandidate s a))
      else if k = axisCandidate s a ∧ axisCandidate s a ≠ 0 then
        some ((s.get k).withPartner a.handle)
      else s.components k := by
  have hstats : (scalarStats ResolveSerialHash s a).axis_role = (ClassifyAxisRole a.path).1 := rfl
  have hzero : (scalarStats ResolveSerialHash s a).withPartner 0 =
      scalarStats ResolveSerialHash s a := rfl
  unfold RegisterScalarComponent
  dsimp only
  rw [hstats]
  by_cases hrole : (ClassifyAxisRole a.path).1 = .Unpaired
  · have hnone : axisCandidate s a = 0 := by rw [axisCandidate, if_pos hrole]
    rw [if_neg (by simp [hrole]), hnone, hzero, set_components]
    simp
  · have hxy : (ClassifyAxisRole a.path).1 = .StickX ∨ (ClassifyAxisRole a.path).1 = .StickY := by
      revert hrole
      cases (ClassifyAxisRole a.path).1 <;> simp
    rw [if_pos hxy, findStickPartner_eq a hrole]
    by_cases hp : axisCandidate s a = 0
    · rw [if_neg (not_not_intro hp), hp, hzero, set_components]
      simp
    · obtain ⟨hne, peer, hpeer, _⟩ := @axisCandidate_spec ResolveSerialHash s a hp
      have hget : ((s.set a.handle (scalarStats ResolveSerialHash s a)).set a.handle
          ((scalarStats ResolveSerialHash s a).withPartner (axisCandidate s a))).get
            (axisCandidate s a) = s.get (axisCandidate s a) := by
        rw [Registry.get, set_components, if_neg hne, set_components, if_neg hne, Registry.get]
      rw [if_pos hp, hget, set_components, set_components, set_components]
      by_cases hk : k = a.handle
      · have hkp : k ≠ axisCandidate s a := fun h => hne (h ▸ hk)
        rw [if_neg hkp, if_pos hk, if_pos hk]
      · by_cases hkp : k = axisCandidate s a
        · rw [if_pos hkp, if_neg hk, if_pos ⟨hkp, hp⟩, hkp]
        · rw [if_neg hkp, if_neg hk, if_neg hk, if_neg hk, if_neg (fun h => hkp h.1)]

/-- The pairing of real handles: symmetric, and the invalid handle has no component. -/
structure Paired (s : Registry) : Prop where
  symmetric : PairedSymmetric s
  valid : s.components 0 = none

theorem Paired.ne_zero (hs : Paired s) {h : UInt64} {c : RegisteredComponent}
    (hc : s.components h = some c) : h ≠ 0 := by
  rintro rfl
  rw [hs.valid] at hc
  cases hc

/-- Who has a partner is its partner's partner. -/
theorem Paired.partnerOf (hs : Paired s) {h k : UInt64} (hk : k ≠ 0) (h1 : s.partnerOf h = k) :
    s.partnerOf k = h ∧ k ≠ h := by
  subst h1
  obtain ⟨c, hc, hpartner⟩ := some_of_partnerOf hk
  obtain ⟨p, hp, hback, haxes⟩ := hs.symmetric h c hc (hpartner ▸ hk)
  rw [hpartner] at hp
  refine ⟨(partnerOf_of_some hp).trans hback, fun heq => ?_⟩
  rw [heq, hc, Option.some.injEq] at hp
  exact (hp ▸ haxes).ne

/-- A registration that meets the condition keeps the pairing. -/
theorem registerScalar_keeps (hs : Paired s) {a : ScalarArgs} (ha : a.handle ≠ 0)
    (hkeeps : KeepsPairing s (.scalar a)) :
    Paired (RegisterScalarComponent ResolveSerialHash s a) where
  valid := by
    rw [registerScalar_components, if_neg ha.symm, if_neg (fun h => h.2 h.1.symm), hs.valid]
  symmetric := by
    intro k c hc hpartner
    rw [registerScalar_components] at hc
    by_cases hk : k = a.handle
    · -- the registered component and its candidate
      rw [if_pos hk, Option.some.injEq] at hc
      subst hc
      have hp : axisCandidate s a ≠ 0 := hpartner
      obtain ⟨hne, peer, hpeer, haxes⟩ := @axisCandidate_spec ResolveSerialHash s a hp
      refine ⟨peer.withPartner a.handle, ?_, hk.symm, ⟨haxes.role, haxes.want, haxes.container,
        haxes.stem⟩⟩
      show (RegisterScalarComponent ResolveSerialHash s a).components (axisCandidate s a) = _
      rw [registerScalar_components, if_neg hne, if_pos ⟨rfl, hp⟩, get_of_some hpeer]
    · rw [if_neg hk] at hc
      by_cases hkp : k = axisCandidate s a ∧ axisCandidate s a ≠ 0
      · rw [if_pos hkp, Option.some.injEq] at hc
        subst hc
        obtain ⟨hne, peer, hpeer, haxes⟩ := @axisCandidate_spec ResolveSerialHash s a hkp.2
        rw [hkp.1, get_of_some hpeer]
        refine ⟨(scalarStats ResolveSerialHash s a).withPartner (axisCandidate s a), ?_, rfl,
          haxes.symm.role, haxes.symm.want, haxes.symm.container, haxes.symm.stem⟩
        show (RegisterScalarComponent ResolveSerialHash s a).components a.handle = _
        rw [registerScalar_components, if_pos rfl]
      · -- another component: its partner is neither of the two
        rw [if_neg hkp] at hc
        obtain ⟨p, hp, hback, haxes⟩ := hs.symmetric k c hc hpartner
        have hk0 : k ≠ 0 := hs.ne_zero hc
        have hback' : s.partnerOf c.partner_handle = k := (partnerOf_of_some hp).trans hback
        have hown : c.partner_handle ≠ a.handle := by
          intro heq
          rw [heq] at hback'
          rcases hkeeps with hfound | ⟨hnone, _⟩
          · rw [hback'] at hfound
            exact hkp ⟨hfound.symm, hfound ▸ hk0⟩
          · exact hk0 (hback'.symm.trans hnone)
        have hcand : ¬ (c.partner_handle = axisCandidate s a ∧ axisCandidate s a ≠ 0) := by
          rintro ⟨heq, hne0⟩
          rw [heq] at hback'
          rcases hkeeps with hfound | ⟨_, hfree⟩
          · have hmine := (hs.partnerOf hne0 hfound.symm).1
            exact hk (hback'.symm.trans hmine)
          · exact hk0 (hback'.symm.trans hfree)
        exact ⟨p, by rw [registerScalar_components, if_neg hown, if_neg hcand]; exact hp, hback,
          haxes⟩

/-- A registration that leaves the pairing symmetric met the condition. -/
theorem registerScalar_converse (hs : Paired s) {a : ScalarArgs} (ha : a.handle ≠ 0)
    (ht : PairedSymmetric (RegisterScalarComponent ResolveSerialHash s a)) :
    KeepsPairing s (.scalar a) := by
  have hown := @registerScalar_components ResolveSerialHash s a a.handle
  rw [if_pos rfl] at hown
  by_cases hold : s.partnerOf a.handle = 0
  · by_cases hfree : s.partnerOf (axisCandidate s a) = 0
    · exact .inr ⟨hold, hfree⟩
    · -- the partner of the candidate still points to it
      exfalso
      obtain ⟨c, hc, hpartner⟩ := some_of_partnerOf hfree
      have hback := hs.partnerOf hfree rfl
      have hcand0 : axisCandidate s a ≠ 0 := hs.ne_zero hc
      obtain ⟨r, hr, hrp⟩ := some_of_partnerOf (s := s)
        (h := s.partnerOf (axisCandidate s a)) (by rw [hback.1]; exact hcand0)
      have hrown : s.partnerOf (axisCandidate s a) ≠ a.handle := by
        intro heq
        rw [heq] at hback
        exact hcand0 (hback.1.symm.trans hold)
      have hr' : (RegisterScalarComponent ResolveSerialHash s a).components
          (s.partnerOf (axisCandidate s a)) = some r := by
        rw [registerScalar_components, if_neg hrown, if_neg (fun h => hback.2 h.1), hr]
      rw [hback.1] at hrp
      obtain ⟨q, hq, hqback, _⟩ := ht _ r hr' (hrp ▸ hcand0)
      obtain ⟨hne, _⟩ := @axisCandidate_spec ResolveSerialHash s a hcand0
      rw [hrp, registerScalar_components, if_neg hne, if_pos ⟨rfl, hcand0⟩,
        Option.some.injEq] at hq
      rw [← hq] at hqback
      exact hrown hqback.symm
  · -- the partner of before still points to the registered handle
    left
    by_contra hne
    obtain ⟨hback, hqne⟩ := hs.partnerOf hold rfl
    obtain ⟨q, hq, hqp⟩ := some_of_partnerOf (s := s) (h := s.partnerOf a.handle)
      (by rw [hback]; exact ha)
    have hq' : (RegisterScalarComponent ResolveSerialHash s a).components
        (s.partnerOf a.handle) = some q := by
      rw [registerScalar_components, if_neg hqne, if_neg (fun h => hne h.1.symm), hq]
    rw [hback] at hqp
    obtain ⟨c, hc, hcback, _⟩ := ht _ q hq' (hqp ▸ ha)
    rw [hqp, hown, Option.some.injEq] at hc
    rw [← hc] at hcback
    exact hne hcback

/-- A boolean registration keeps role and partner of its component, and all others. -/
theorem registerBoolean_paired_iff (hs : Paired s) {handle : UInt64} (hh : handle ≠ 0)
    (container : UInt64) (path : List Char) :
    Paired (RegisterBooleanComponent ResolveSerialHash s handle container path) ↔
      KeepsPairing s (.boolean handle container path) := by
  have hcomp : ∀ k, (RegisterBooleanComponent ResolveSerialHash s handle container path).components
      k = if k = handle then some (booleanStats ResolveSerialHash s handle container path)
        else s.components k :=
    fun k => set_components _ _ k
  constructor
  · intro ht hpaired
    obtain ⟨q, hq, hqback, haxes⟩ := ht.symmetric handle
      (booleanStats ResolveSerialHash s handle container path) (by rw [hcomp, if_pos rfl]) hpaired
    have hqne : s.partnerOf handle ≠ handle := (hs.partnerOf hpaired rfl).2
    have hq' : s.components (s.partnerOf handle) = some q := by
      have hkept : (booleanStats ResolveSerialHash s handle container path).partner_handle =
          s.partnerOf handle := rfl
      rw [hkept, hcomp, if_neg hqne] at hq
      exact hq
    rw [get_of_some hq']
    exact ⟨haxes.container, haxes.stem⟩
  · intro hkeeps
    refine ⟨fun k c hc hpartner => ?_, by rw [hcomp, if_neg hh.symm, hs.valid]⟩
    rw [hcomp] at hc
    by_cases hk : k = handle
    · rw [if_pos hk, Option.some.injEq] at hc
      subst hc
      subst hk
      have hpaired : s.partnerOf k ≠ 0 := hpartner
      obtain ⟨c, hc, hcp⟩ := some_of_partnerOf hpaired
      obtain ⟨q, hq, hqback, haxes⟩ := hs.symmetric k c hc (hcp ▸ hpaired)
      rw [hcp] at hq
      obtain ⟨hcontainer, hstem⟩ := hkeeps hpaired
      rw [get_of_some hq] at hcontainer hstem
      refine ⟨q, ?_, hqback, ?_⟩
      · show (RegisterBooleanComponent ResolveSerialHash s k container path).components
          (s.partnerOf k) = some q
        rw [hcomp, if_neg (hs.partnerOf hpaired rfl).2, hq]
      · have hrole : (booleanStats ResolveSerialHash s k container path).axis_role =
            c.axis_role := by
          show (s.get k).axis_role = _
          rw [get_of_some hc]
        exact ⟨by rw [hrole]; exact haxes.role, by rw [hrole]; exact haxes.want, hcontainer,
          hstem⟩
    · rw [if_neg hk] at hc
      obtain ⟨q, hq, hqback, haxes⟩ := hs.symmetric k c hc hpartner
      by_cases hq0 : c.partner_handle = handle
      · -- the other axis of the pair
        have hback : s.partnerOf handle = k := by
          rw [← hq0]
          exact (partnerOf_of_some hq).trans hqback
        obtain ⟨hcontainer, hstem⟩ := hkeeps (by rw [hback]; exact hs.ne_zero hc)
        rw [hback, get_of_some hc] at hcontainer hstem
        rw [hq0] at hq ⊢
        refine ⟨booleanStats ResolveSerialHash s handle container path,
          by rw [hcomp, if_pos rfl], ?_, haxes.role, ?_, hcontainer.symm, hstem.symm⟩
        · show (s.get handle).partner_handle = k
          rw [get_of_some hq]
          exact hqback
        · show (s.get handle).axis_role = c.axis_role.want
          rw [get_of_some hq]
          exact haxes.want
      · exact ⟨q, by rw [hcomp, if_neg hq0, hq], hqback, haxes⟩

end Step

/-! ## Runs -/

section Inversion

variable {ResolveSerialHash : UInt64 → UInt64} {s t : Registry}

theorem registryStep_scalar {a : ScalarArgs} :
    registryStep ResolveSerialHash s (.scalar a) = some t ↔
      a.handle ≠ 0 ∧ RegisterScalarComponent ResolveSerialHash s a = t := by
  simp [registryStep]

theorem registryStep_boolean {handle container : UInt64} {path : List Char} :
    registryStep ResolveSerialHash s (.boolean handle container path) = some t ↔
      handle ≠ 0 ∧ RegisterBooleanComponent ResolveSerialHash s handle container path = t := by
  simp [registryStep]

theorem registryStep_rehash {order : List UInt64} :
    registryStep ResolveSerialHash s (.rehash order) = some t ↔
      order.Perm s.order ∧ { s with order := order } = t := by
  simp [registryStep]

end Inversion

theorem empty_paired : Paired Registry.empty where
  symmetric := by
    intro h c hc
    cases hc
  valid := rfl

/-- **In every run of registrations, whatever order the map is iterated in, the pairing is symmetric
    in every state exactly when each registration of a paired scalar component finds its partner
    again, each registration of another one finds an axis that is not paired or none, and no paired
    component becomes a boolean one of another container or stem.** -/
theorem pairing_symmetric_iff (ResolveSerialHash : UInt64 → UInt64)
    (actions : List RegistryAction) :
    Always (registryStep ResolveSerialHash) PairedSymmetric .empty actions ↔
      AllSteps (registryStep ResolveSerialHash) KeepsPairing .empty actions := by
  refine Always.iff_of_inv (I := Paired) ?_ (fun s hs => hs.symmetric) ?_ empty_paired
  · intro s a t hs hkeeps hstep
    cases a with
    | scalar a =>
      obtain ⟨hne, rfl⟩ := registryStep_scalar.1 hstep
      exact registerScalar_keeps hs hne hkeeps
    | boolean handle container path =>
      obtain ⟨hne, rfl⟩ := registryStep_boolean.1 hstep
      exact (registerBoolean_paired_iff hs hne container path).2 hkeeps
    | rehash order =>
      obtain ⟨-, rfl⟩ := registryStep_rehash.1 hstep
      exact ⟨hs.symmetric, hs.valid⟩
  · intro s a t hs hstep ht
    cases a with
    | scalar a =>
      obtain ⟨hne, rfl⟩ := registryStep_scalar.1 hstep
      exact registerScalar_converse hs hne ht
    | boolean handle container path =>
      obtain ⟨hne, rfl⟩ := registryStep_boolean.1 hstep
      refine (registerBoolean_paired_iff hs hne container path).1 ⟨ht, ?_⟩
      have hzero := set_components (s := s) handle
        (booleanStats ResolveSerialHash s handle container path) 0
      rw [if_neg (Ne.symm hne), hs.valid] at hzero
      exact hzero
    | rehash order => trivial

/-- An axis of a stick, registered under a handle. -/
def stickAxis (handle : UInt64) (axis : Char) : RegistryAction :=
  .scalar ⟨handle, 7, ['/', 's', '/', axis], 0, 1⟩

/-- A second X axis of a stem whose axes are paired takes the Y axis away from the first. -/
theorem second_axis_takes_partner :
    ¬ Always (registryStep id) PairedSymmetric .empty
      [stickAxis 1 'x', stickAxis 2 'y', stickAxis 3 'x'] := by
  intro h
  obtain ⟨s, hs, hsecond, hfirst⟩ : ∃ s,
      runTo (registryStep id) .empty [stickAxis 1 'x', stickAxis 2 'y', stickAxis 3 'x'] = some s ∧
        (s.components 2).map RegisteredComponent.partner_handle = some 3 ∧
        (s.components 1).map RegisteredComponent.partner_handle = some 2 :=
    ⟨_, rfl, by decide +kernel, by decide +kernel⟩
  obtain ⟨c, hc, hpartner⟩ := Option.map_eq_some_iff.1 hfirst
  obtain ⟨p, hp, hback, -⟩ := h.runTo hs 1 c hc (by rw [hpartner]; decide)
  rw [hpartner] at hp
  rw [hp, Option.map_some, hback] at hsecond
  exact absurd hsecond (by decide)

end WKPairDriver.InputHealth.Pairing
