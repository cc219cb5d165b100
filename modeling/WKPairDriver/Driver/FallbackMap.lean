import Mathlib
import WKPairDriver.Driver.DeviceTransforms
import WKPairDriver.Driver.PerDeviceTransform
import WKPairDriver.Lib.Bytes
import WKPairDriver.Lib.Run

/-!
# The fallback table as a finite map

What the table of tracking-system fallbacks is for: a map from the name of a system to the fallback
set last.  A message with the empty name changes nothing, and one that disables a fallback keeps
its payload.

* `FallbackTable.Wf` — occupied slots have distinct names, and bytes behind a name are NUL.
* `isNamed_iff` — the comparison of the scan is equality of names, prefixes and names that fill
  their buffer included.
* `fallbackTable_refines_map` — in every run of the driver that enables at most as many systems as
  there are slots, the table is the map.
-/

set_option autoImplicit false

namespace WKPairDriver.Driver

open Lib Lib.Bytes

/-! ## Names in buffers -/

theorem nul_notMem_nameOf (buf : SystemName) : 0 ∉ nameOf buf := nul_notMem_cstr _

theorem nameOf_length_le (buf : SystemName) : (nameOf buf).length ≤ MaxTrackingSystemNameLen := by
  have h := cstr_length_le (List.ofFn buf)
  rwa [List.length_ofFn] at h

/-- The bytes of a name stand at the front of its buffer. -/
theorem getD_nameOf {buf : SystemName} {i : Fin MaxTrackingSystemNameLen}
    (h : i.1 < (nameOf buf).length) : (nameOf buf).getD i 0 = buf i := by
  have hpre : nameOf buf <+: List.ofFn buf := List.takeWhile_prefix _
  have hget := hpre.getElem h
  rw [List.getD_eq_getElem _ _ h, hget, List.getElem_ofFn]

/-- A buffer that starts with a name, with a NUL behind it if there is room, holds that name. -/
theorem nameOf_eq {buf : SystemName} {name : List UInt8} (hnul : 0 ∉ name)
    (hlen : name.length ≤ MaxTrackingSystemNameLen)
    (hfront : ∀ i : Fin MaxTrackingSystemNameLen, i.1 < name.length → buf i = name.getD i 0)
    (hbehind : ∀ h : name.length < MaxTrackingSystemNameLen, buf ⟨name.length, h⟩ = 0) :
    nameOf buf = name := by
  have htake : (List.ofFn buf).take name.length = name := by
    apply List.ext_getElem
    · rw [List.length_take, List.length_ofFn]
      omega
    · intro i h1 h2
      rw [List.getElem_take, List.getElem_ofFn]
      have hi := hfront ⟨i, by omega⟩ h2
      rwa [List.getD_eq_getElem _ _ h2] at hi
  rw [nameOf, ← List.take_append_drop name.length (List.ofFn buf), htake]
  apply cstr_append hnul
  intro b hb
  rw [List.head?_drop] at hb
  obtain ⟨hlt, hget⟩ := List.getElem?_eq_some_iff.1 hb
  rw [List.getElem_ofFn] at hget
  rw [← hget]
  exact hbehind (by simpa using hlt)

theorem nameOf_nulPadded {name : List UInt8} (hnul : 0 ∉ name)
    (hlen : name.length ≤ MaxTrackingSystemNameLen) : nameOf (nulPadded name) = name := by
  apply nameOf_eq hnul hlen
  · intro i _
    rfl
  · intro h
    simp [nulPadded]

/-! ## The representation invariant -/

variable {F : Type}

/-- Behind the name there are NULs only. -/
def FallbackSlot.Padded (slot : FallbackSlot F) : Prop :=
  ∀ i : Fin MaxTrackingSystemNameLen, (nameOf slot.system_name).length ≤ i.1 →
    slot.system_name i = 0

/-- The comparison of the scan is equality of names. -/
theorem FallbackSlot.isNamed_iff {slot : FallbackSlot F} (hpad : slot.Padded) {name : List UInt8}
    (hnul : 0 ∉ name) (hlen : name.length ≤ MaxTrackingSystemNameLen) :
    slot.isNamed name = true ↔ slot.occupied = true ∧ nameOf slot.system_name = name := by
  unfold isNamed
  rw [Bool.and_eq_true, Bool.and_eq_true, decide_eq_true_eq, and_assoc]
  apply and_congr_right
  intro _
  constructor
  · intro h
    apply nameOf_eq hnul hlen h.1
    intro hlt
    have hbehind := h.2
    rw [dif_pos hlt] at hbehind
    exact eq_of_beq hbehind
  · intro h
    subst h
    refine ⟨fun i hi => (getD_nameOf hi).symm, ?_⟩
    split
    · rename_i hlt
      rw [hpad ⟨_, hlt⟩ le_rfl]
      rfl
    · rfl

theorem FallbackSlot.padded_nulPadded {name : List UInt8} (hnul : 0 ∉ name)
    (hlen : name.length ≤ MaxTrackingSystemNameLen) (tf : F) (occupied : Bool) :
    (FallbackSlot.mk (nulPadded name) tf occupied).Padded := by
  intro i hi
  rw [nameOf_nulPadded hnul hlen] at hi
  exact List.getD_eq_default _ _ hi

namespace FallbackTable

structure Wf (table : FallbackTable F) : Prop where
  padded : ∀ i, (table i).Padded
  named : ∀ i, (table i).occupied = true → nameOf (table i).system_name ≠ []
  distinct : ∀ i j, (table i).occupied = true → (table j).occupied = true →
    nameOf (table i).system_name = nameOf (table j).system_name → i = j

/-- What a lookup of a name returns. -/
def lookup (table : FallbackTable F) (name : List UInt8) : Option F :=
  (findFallbackSlot table name).map fun i => (table i).tf

variable {table : FallbackTable F}

theorem findFallbackSlot_eq_none_of_length {name : List UInt8}
    (h : name.length = 0 ∨ name.length > MaxTrackingSystemNameLen) :
    findFallbackSlot table name = none := if_pos h

/-- A lookup finds the slot that is occupied under the name. -/
theorem Wf.find_iff (hw : table.Wf) {name : List UInt8} (hnul : 0 ∉ name)
    {i : Fin MaxFallbackSlots} :
    findFallbackSlot table name = some i ↔
      (table i).occupied = true ∧ nameOf (table i).system_name = name := by
  by_cases hlen : name.length = 0 ∨ name.length > MaxTrackingSystemNameLen
  · rw [findFallbackSlot_eq_none_of_length hlen]
    apply iff_of_false
    · intro h
      cases h
    · intro h
      have hne := hw.named i h.1
      have hle := nameOf_length_le (table i).system_name
      rw [h.2] at hne hle
      rcases hlen with hlen | hlen
      · exact hne (List.length_eq_zero_iff.1 hlen)
      · omega
  · have hnamed := fun j => FallbackSlot.isNamed_iff (hw.padded j) hnul (by omega)
    constructor
    · intro h
      rw [findFallbackSlot, if_neg hlen] at h
      have hi := List.find?_some h
      exact (hnamed i).1 hi
    · intro h
      apply findFallbackSlot_eq_some hlen
      intro j
      rw [hnamed j]
      constructor
      · intro hj
        exact hw.distinct j i hj.1 h.1 (hj.2.trans h.2.symm)
      · intro hj
        rw [hj]
        exact h

theorem Wf.lookup_iff (hw : table.Wf) {name : List UInt8} (hnul : 0 ∉ name) {fb : F} :
    table.lookup name = some fb ↔
      ∃ i, ((table i).occupied = true ∧ nameOf (table i).system_name = name) ∧
        (table i).tf = fb := by
  rw [lookup, Option.map_eq_some_iff]
  simp only [hw.find_iff hnul]

/-- Giving a slot a name that no other slot has. -/
theorem Wf.update (hw : table.Wf) {i : Fin MaxFallbackSlots} {slot : FallbackSlot F}
    (hpad : slot.Padded) (hnamed : nameOf slot.system_name ≠ [])
    (hfresh : ∀ j, j ≠ i → (table j).occupied = true →
      nameOf (table j).system_name ≠ nameOf slot.system_name) :
    Wf (Function.update table i slot) := by
  refine ⟨?_, ?_, ?_⟩
  · intro j
    by_cases hj : j = i
    · subst hj
      rwa [Function.update_self]
    · rw [Function.update_of_ne hj]
      exact hw.padded j
  · intro j
    by_cases hj : j = i
    · subst hj
      rw [Function.update_self]
      exact fun _ => hnamed
    · rw [Function.update_of_ne hj]
      exact hw.named j
  · intro j k hj hk hjk
    by_cases hji : j = i
    · by_cases hki : k = i
      · rw [hji, hki]
      · rw [hji, Function.update_self, Function.update_of_ne hki] at hjk
        rw [Function.update_of_ne hki] at hk
        exact absurd hjk.symm (hfresh k hki hk)
    · rw [Function.update_of_ne hji] at hj hjk
      by_cases hki : k = i
      · rw [hki, Function.update_self] at hjk
        exact absurd hjk (hfresh j hji hj)
      · rw [Function.update_of_ne hki] at hk hjk
        exact hw.distinct j k hj hk hjk

/-- An update of the slot of a name, or of a free slot, changes the lookup of that name only. -/
theorem Wf.lookup_update (hw : table.Wf) {i : Fin MaxFallbackSlots} {slot : FallbackSlot F}
    (hw' : Wf (Function.update table i slot)) (hocc : slot.occupied = true)
    (hold : (table i).occupied = true →
      nameOf (table i).system_name = nameOf slot.system_name)
    {name : List UInt8} (hnul : 0 ∉ name) :
    lookup (Function.update table i slot) name =
      if name = nameOf slot.system_name then some slot.tf else table.lookup name := by
  split
  · rename_i hname
    rw [hw'.lookup_iff hnul]
    exact ⟨i, by rw [Function.update_self]; exact ⟨⟨hocc, hname.symm⟩, rfl⟩⟩
  · rename_i hname
    ext fb
    rw [hw'.lookup_iff hnul, hw.lookup_iff hnul]
    apply exists_congr
    intro j
    by_cases hj : j = i
    · subst hj
      rw [Function.update_self]
      apply iff_of_false
      · intro h
        exact hname h.1.2.symm
      · intro h
        exact hname (h.1.2.symm.trans (hold h.1.1))
    · rw [Function.update_of_ne hj]

/-- A name is acquired unless every slot is occupied under another one. -/
theorem Wf.acquire (hw : table.Wf) (empty : F) {name : List UInt8} (hnul : 0 ∉ name)
    (hne : name ≠ []) (hlen : name.length ≤ MaxTrackingSystemNameLen)
    (hroom : (∀ i, (table i).occupied = true) → ∃ i, nameOf (table i).system_name = name) :
    ∃ table' i, acquireFallbackSlot empty table name = some (table', i) ∧
      (table' i).occupied = true ∧ nameOf (table' i).system_name = name ∧ (table' i).Padded ∧
      (∀ j, j ≠ i → table' j = table j ∧
        ((table j).occupied = true → nameOf (table j).system_name ≠ name)) ∧
      ((table i).occupied = true → nameOf (table i).system_name = name) := by
  have hlen' : ¬ (name.length = 0 ∨ name.length > MaxTrackingSystemNameLen) := by
    have := List.length_pos_iff.2 hne
    omega
  rw [acquireFallbackSlot, if_neg hlen']
  cases hfind : findFallbackSlot table name with
  | some i =>
    obtain ⟨hocc, hname⟩ := (hw.find_iff hnul).1 hfind
    refine ⟨table, i, rfl, hocc, hname, hw.padded i, ?_, fun _ => hname⟩
    intro j hj
    refine ⟨rfl, fun hoccj hnamej => ?_⟩
    exact hj (hw.distinct j i hoccj hocc (hnamej.trans hname.symm))
  | none =>
    have hnone : ∀ j, (table j).occupied = true → nameOf (table j).system_name ≠ name := by
      intro j hocc hname
      rw [(hw.find_iff hnul).2 ⟨hocc, hname⟩] at hfind
      cases hfind
    cases hfree : (List.finRange MaxFallbackSlots).find? fun i => !(table i).occupied with
    | none =>
      have hfull : ∀ i, (table i).occupied = true := by
        intro i
        have := List.find?_eq_none.1 hfree i (List.mem_finRange i)
        simpa using this
      obtain ⟨i, hi⟩ := hroom hfull
      exact absurd hi (hnone i (hfull i))
    | some i =>
      have hocc := List.find?_some hfree
      refine ⟨Function.update table i ⟨nulPadded name, empty, true⟩, i, rfl, ?_, ?_, ?_, ?_, ?_⟩
      · rw [Function.update_self]
      · rw [Function.update_self]
        exact nameOf_nulPadded hnul hlen
      · rw [Function.update_self]
        exact FallbackSlot.padded_nulPadded hnul hlen _ _
      · intro j hj
        exact ⟨Function.update_of_ne hj _ _, hnone j⟩
      · intro h
        simp [h] at hocc

end FallbackTable

/-! ## The map -/

variable {V Q S P : Type}

/-- A map from names to fallbacks. -/
abbrev FallbackMap (V Q S : Type) := List UInt8 → Option (FallbackTransform V Q S)

/-- The payload of a message that enables a fallback. -/
def SetTrackingSystemFallback.payload (msg : SetTrackingSystemFallback V Q S) :
    FallbackTransform V Q S where
  enabled := true
  transform := ⟨msg.translation, msg.rotation⟩
  scale := msg.scale
  recalibrateOnMovement := msg.recalibrateOnMovement

/-- What a message does to the map: it sets the entry of its system, or clears the flag of the
    entry there is. -/
def FallbackMap.set (map : FallbackMap V Q S) (msg : SetTrackingSystemFallback V Q S) :
    FallbackMap V Q S :=
  let sys := nameOf msg.system_name
  if sys = [] then map
  else if msg.enabled then Function.update map sys (some msg.payload)
  else Function.update map sys ((map sys).map fun fb => { fb with enabled := false })

/-- The table holds what the map holds, for every name. -/
structure FallbackTable.Refines (table : FallbackTable (FallbackTransform V Q S))
    (map : FallbackMap V Q S) : Prop where
  wf : table.Wf
  lookup : ∀ name : List UInt8, 0 ∉ name → table.lookup name = map name

namespace FallbackTable.Refines

variable {table : FallbackTable (FallbackTransform V Q S)} {map : FallbackMap V Q S}

/-- The names of the slots in use are names of the map. -/
theorem map_ne_none (h : table.Refines map) {i : Fin MaxFallbackSlots}
    (hocc : (table i).occupied = true) : map (nameOf (table i).system_name) ≠ none := by
  rw [← h.lookup _ (nul_notMem_nameOf _),
    (h.wf.lookup_iff (nul_notMem_nameOf _)).2 ⟨i, ⟨hocc, rfl⟩, rfl⟩]
  exact Option.some_ne_none _

/-- Where no slot is free for a name, it is among the names in use, if these are not too many. -/
theorem room (h : table.Refines map) {names : Finset (List UInt8)}
    (hnames : ∀ name, map name ≠ none → name ∈ names) (hcard : names.card ≤ MaxFallbackSlots)
    {name : List UInt8} (hname : name ∈ names) (hfull : ∀ i, (table i).occupied = true) :
    ∃ i, nameOf (table i).system_name = name := by
  by_contra hnone
  have hinj : Function.Injective fun i => nameOf (table i).system_name := by
    intro i j hij
    exact h.wf.distinct i j (hfull i) (hfull j) hij
  have hsub : Finset.univ.image (fun i => nameOf (table i).system_name) ⊆ names.erase name := by
    intro name' hmem
    obtain ⟨i, -, rfl⟩ := Finset.mem_image.1 hmem
    exact Finset.mem_erase.2 ⟨fun heq => hnone ⟨i, heq⟩, hnames _ (h.map_ne_none (hfull i))⟩
  have hle := Finset.card_le_card hsub
  rw [Finset.card_image_of_injective _ hinj, Finset.card_univ, Fintype.card_fin,
    Finset.card_erase_of_mem hname] at hle
  have : 0 < MaxFallbackSlots := by decide
  omega

/-- Writing a fallback to a slot is an update of the map at its name. -/
theorem write (h : table.Refines map) {i : Fin MaxFallbackSlots}
    {slot : FallbackSlot (FallbackTransform V Q S)} (hocc : slot.occupied = true)
    (hpad : slot.Padded) (hne : nameOf slot.system_name ≠ [])
    (hfresh : ∀ j, j ≠ i → (table j).occupied = true →
      nameOf (table j).system_name ≠ nameOf slot.system_name)
    (hold : (table i).occupied = true → nameOf (table i).system_name = nameOf slot.system_name) :
    Refines (Function.update table i slot)
      (Function.update map (nameOf slot.system_name) (some slot.tf)) := by
  have hw := h.wf.update hpad hne hfresh
  refine ⟨hw, fun name hnul => ?_⟩
  rw [h.wf.lookup_update hw hocc hold hnul]
  split
  · rename_i hname
    rw [hname, Function.update_self]
  · rename_i hname
    rw [Function.update_of_ne hname]
    exact h.lookup name hnul

end FallbackTable.Refines

namespace Provider

variable {p : Provider V Q S} {map : FallbackMap V Q S}

/-- **One message.** The table after it is the map after it, unless the table is full. -/
theorem setTrackingSystemFallback_refines (h : p.systemFallbacks.Refines map)
    (m : PoseMath V Q S P) (msg : SetTrackingSystemFallback V Q S) (now : ℤ)
    (hroom : msg.enabled = true → nameOf msg.system_name ≠ [] →
      (∀ i, (p.systemFallbacks i).occupied = true) →
        ∃ i, nameOf (p.systemFallbacks i).system_name = nameOf msg.system_name) :
    (p.setTrackingSystemFallback m msg now).systemFallbacks.Refines (map.set msg) := by
  have hnul := nul_notMem_nameOf msg.system_name
  unfold setTrackingSystemFallback FallbackMap.set
  simp only [List.length_eq_zero_iff]
  by_cases hempty : nameOf msg.system_name = []
  · simp only [if_pos hempty]
    exact h
  simp only [if_neg hempty]
  cases hen : msg.enabled with
  | false =>
    simp only [Bool.not_false, if_true, Bool.false_eq_true, if_false]
    rw [← h.lookup _ hnul, FallbackTable.lookup]
    cases hfind : findFallbackSlot p.systemFallbacks (nameOf msg.system_name) with
    | none =>
      -- the map has no such entry either
      have hnone : map (nameOf msg.system_name) = none := by
        rw [← h.lookup _ hnul, FallbackTable.lookup, hfind]
        rfl
      rw [Option.map_none, Option.map_none, ← hnone, Function.update_eq_self]
      exact h
    | some i =>
      obtain ⟨hocc, hname⟩ := (h.wf.find_iff hnul).1 hfind
      rw [← hname]
      apply h.write
      · exact hocc
      · exact h.wf.padded i
      · exact h.wf.named i hocc
      · intro j hj hoccj hnamej
        exact hj (h.wf.distinct j i hoccj hocc hnamej)
      · intro _
        rfl
  | true =>
    simp only [Bool.not_true, Bool.false_eq_true, if_false, if_true]
    obtain ⟨table, i, hacq, hocc, hname, hpad, hother, hold⟩ :=
      h.wf.acquire ⟨false, m.identity, m.one, false⟩ hnul hempty (nameOf_length_le _)
        (hroom hen hempty)
    rw [hacq]
    have htable : ∀ slot, Function.update table i slot
        = Function.update p.systemFallbacks i slot := by
      intro slot
      funext j
      by_cases hj : j = i
      · rw [hj, Function.update_self, Function.update_self]
      · rw [Function.update_of_ne hj, Function.update_of_ne hj, (hother j hj).1]
    simp only [htable, SetTrackingSystemFallback.payload]
    rw [← hname] at hempty hother hold ⊢
    apply h.write
    · exact hocc
    · exact hpad
    · exact hempty
    · intro j hj
      exact (hother j hj).2
    · exact hold

/-! Only `SetTrackingSystemFallback` writes the table. -/

@[simp] theorem setDeviceTransform_systemFallbacks (msg : SetDeviceTransform V Q S) (now : ℤ) :
    (p.setDeviceTransform msg now).systemFallbacks = p.systemFallbacks := by
  unfold setDeviceTransform
  split <;> rfl

@[simp] theorem setTransform_systemFallbacks (id : Fin k_unMaxTrackedDeviceCount)
    (tf : DeviceTransform V Q S) : (p.setTransform id tf).systemFallbacks = p.systemFallbacks := rfl

@[simp] theorem followFallback_systemFallbacks (m : PoseMath V Q S P)
    (id : Fin k_unMaxTrackedDeviceCount) (pose : P) (now poll : ℤ) :
    (p.followFallback m id pose now poll).1.systemFallbacks = p.systemFallbacks := by
  unfold followFallback
  dsimp only
  split
  · rfl
  · split
    · rfl
    · split <;> rfl

@[simp] theorem handleDevicePoseUpdated_systemFallbacks (m : PoseMath V Q S P)
    (id : Fin k_unMaxTrackedDeviceCount) (pose : P) (synthSlot : Bool) (now poll : ℤ) :
    (p.handleDevicePoseUpdated m id pose synthSlot now poll).1.systemFallbacks
      = p.systemFallbacks := by
  unfold handleDevicePoseUpdated
  dsimp only
  split_ifs <;> simp

@[simp] theorem storeLookup_systemFallbacks (id : Fin k_unMaxTrackedDeviceCount)
    (queried : Option (List UInt8)) (now : ℤ) :
    (p.storeLookup id queried now).systemFallbacks = p.systemFallbacks := by
  unfold storeLookup
  split
  · split <;> rfl
  · rfl

end Provider

/-! ## Runs -/

/-- The message of a request that sets a fallback. -/
def Action.fallback : Action V Q S P → Option (SetTrackingSystemFallback V Q S)
  | .setTrackingSystemFallback msg _ => some msg
  | _ => none

/-- The driver next to the map. -/
def stepMap (m : PoseMath V Q S P) (s : State V Q S P × FallbackMap V Q S)
    (a : Action V Q S P) : Option (State V Q S P × FallbackMap V Q S) :=
  (step m s.1 a).map fun t => (t, a.fallback.elim s.2 s.2.set)

/-- The names of the systems that the requests enable a fallback for. -/
def systemsEnabled (as : List (Action V Q S P)) : Finset (List UInt8) :=
  (((as.filterMap Action.fallback).filter (·.enabled)).map (nameOf ·.system_name)).toFinset.erase []

theorem mem_systemsEnabled {as : List (Action V Q S P)} {a : Action V Q S P} (ha : a ∈ as)
    {msg : SetTrackingSystemFallback V Q S} (hmsg : a.fallback = some msg)
    (hen : msg.enabled = true) (hne : nameOf msg.system_name ≠ []) :
    nameOf msg.system_name ∈ systemsEnabled as := by
  rw [systemsEnabled, Finset.mem_erase, List.mem_toFinset]
  refine ⟨hne, List.mem_map_of_mem (List.mem_filter.2 ⟨?_, hen⟩)⟩
  exact List.mem_filterMap.2 ⟨a, ha, hmsg⟩

/-- A fallback is enabled for the systems in `names` only. -/
def EnablesIn (names : Finset (List UInt8)) (_ : State V Q S P × FallbackMap V Q S)
    (a : Action V Q S P) : Prop :=
  ∀ msg ∈ a.fallback, msg.enabled = true → nameOf msg.system_name ≠ [] →
    nameOf msg.system_name ∈ names

/-- The table is the map, which has names in `names` only. -/
structure MapInv (names : Finset (List UInt8)) (s : State V Q S P × FallbackMap V Q S) : Prop where
  refines : s.1.provider.systemFallbacks.Refines s.2
  names : ∀ name, s.2 name ≠ none → name ∈ names

theorem FallbackMap.set_names {names : Finset (List UInt8)} {map : FallbackMap V Q S}
    (hmap : ∀ name, map name ≠ none → name ∈ names) {msg : SetTrackingSystemFallback V Q S}
    (hmsg : msg.enabled = true → nameOf msg.system_name ≠ [] → nameOf msg.system_name ∈ names)
    {name : List UInt8} (h : map.set msg name ≠ none) : name ∈ names := by
  unfold FallbackMap.set at h
  split at h
  · exact hmap name h
  · rename_i hne
    by_cases hname : name = nameOf msg.system_name
    · subst hname
      split at h
      · rename_i hen
        exact hmsg hen hne
      · rw [Function.update_self, ne_eq, Option.map_eq_none_iff] at h
        exact hmap _ h
    · apply hmap
      split at h <;> rwa [Function.update_of_ne hname] at h

theorem MapInv.new (names : Finset (List UInt8)) (m : PoseMath V Q S P) (qpcFreq : ℤ) :
    MapInv names (State.new m qpcFreq, fun _ => none) := by
  have hw : FallbackTable.Wf (State.new m qpcFreq).provider.systemFallbacks := by
    refine ⟨fun i k _ => rfl, ?_, ?_⟩
    · intro i h
      cases h
    · intro i j h
      cases h
  refine ⟨⟨hw, fun name hnul => ?_⟩, fun name h => absurd rfl h⟩
  rw [Option.eq_none_iff_forall_ne_some]
  intro fb h
  obtain ⟨i, ⟨hocc, -⟩, -⟩ := (hw.lookup_iff hnul).1 h
  cases hocc

variable {m : PoseMath V Q S P} {names : Finset (List UInt8)}

/-- **One step.** A request to set a fallback is the same request to the map, and nothing else
    changes the table. -/
theorem stepMap_inv (hcard : names.card ≤ MaxFallbackSlots)
    {s t : State V Q S P × FallbackMap V Q S} {a : Action V Q S P} (hs : MapInv names s)
    (hc : EnablesIn names s a) (h : stepMap m s a = some t) : MapInv names t := by
  obtain ⟨s', hstep, rfl⟩ := Option.map_eq_some_iff.1 h
  cases a with
  | setTrackingSystemFallback msg now =>
    cases hstep
    have hmsg := hc msg rfl
    refine ⟨?_, fun name => FallbackMap.set_names hs.names hmsg⟩
    apply Provider.setTrackingSystemFallback_refines hs.refines
    intro hen hne
    exact hs.refines.room hs.names hcard (hmsg hen hne)
  | setDeviceTransform msg now =>
    cases hstep
    refine ⟨?_, hs.names⟩
    rw [Provider.setDeviceTransform_systemFallbacks]
    exact hs.refines
  | poseUpdated id pose synthSlot now poll =>
    have htable := s.1.provider.handleDevicePoseUpdated_systemFallbacks m id pose synthSlot now poll
    refine ⟨?_, hs.names⟩
    simp only [step] at hstep
    split at hstep
    all_goals
      rename_i hp
      rw [hp] at htable
      cases hstep
      rw [htable]
      exact hs.refines
  | resume query queried now poll =>
    simp only [step] at hstep
    split at hstep
    · cases hstep
      refine ⟨?_, hs.names⟩
      rw [Provider.resumePoseUpdate, Provider.followFallback_systemFallbacks,
        Provider.storeLookup_systemFallbacks]
      exact hs.refines
    · cases hstep

/-- **The table is a finite map.**  In every run of the driver that enables fallbacks for at most
    as many systems as there are slots, the table is well formed and a lookup of any name finds
    what was set last for that name. -/
theorem fallbackTable_refines_map (m : PoseMath V Q S P) (qpcFreq : ℤ)
    (as : List (Action V Q S P)) (hcard : (systemsEnabled as).card ≤ MaxFallbackSlots) :
    Always (stepMap m) (fun s => s.1.provider.systemFallbacks.Refines s.2)
      (State.new m qpcFreq, fun _ => none) as := by
  have hall : ∀ (as' : List (Action V Q S P)) (s : State V Q S P × FallbackMap V Q S),
      (∀ a ∈ as', a ∈ as) → AllSteps (stepMap m) (EnablesIn (systemsEnabled as)) s as' := by
    intro as'
    induction as' with
    | nil => intros; trivial
    | cons a as' ih =>
      intro s hmem t _
      refine ⟨?_, ih t fun b hb => hmem b (List.mem_cons_of_mem _ hb)⟩
      intro msg hmsg hen hne
      exact mem_systemsEnabled (hmem a List.mem_cons_self) hmsg hen hne
  exact Always.of_inv (fun _ _ _ hs hc h => stepMap_inv hcard hs hc h) (fun _ hs => hs.refines)
    (MapInv.new _ m qpcFreq) (hall as _ fun _ h => h)

/-- A fallback for a system whose name begins that of `lighthouse`. -/
def lightFallback (enabled : Bool) : SetTrackingSystemFallback ℤ Unit ℤ :=
  ⟨nulPadded (ascii "light"), enabled, 20, (), 2, false⟩

/-- The first of two such fallbacks is cleared while a tracker of the second comes up. -/
def namesAlike : List (Action ℤ Unit ℤ ℤ) :=
  [.setTrackingSystemFallback (lightFallback true) 1,
   .setTrackingSystemFallback (lighthouseFallback true) 2,
   .poseUpdated (Fin.last 63) 7 false 3 3, .resume 0 (some (ascii "lighthouse")) 4 4,
   .setTrackingSystemFallback (lightFallback false) 5, .poseUpdated (Fin.last 63) 7 false 6 6,
   .setTrackingSystemFallback (lighthouseFallback false) 7]

theorem namesAlike_refines :
    (systemsEnabled namesAlike).card ≤ MaxFallbackSlots ∧
      Always (stepMap onLine) (fun s => s.1.provider.systemFallbacks.Refines s.2)
        (State.new onLine 10, fun _ => none) namesAlike := by
  have hcard : (systemsEnabled namesAlike).card ≤ MaxFallbackSlots := by decide +kernel
  exact ⟨hcard, fallbackTable_refines_map onLine 10 namesAlike hcard⟩

/-- The fallback a pose update follows is the map's, if it is enabled. -/
theorem FallbackTable.Refines.enabledFallback {p : Provider V Q S} {map : FallbackMap V Q S}
    (h : p.systemFallbacks.Refines map) {id : Fin k_unMaxTrackedDeviceCount}
    (hnul : 0 ∉ p.deviceSystem id) :
    p.enabledFallback id = (map (p.deviceSystem id)).filter (·.enabled) := by
  rw [← h.lookup _ hnul]
  rfl

end WKPairDriver.Driver
