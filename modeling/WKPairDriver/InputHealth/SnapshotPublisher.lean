import Mathlib
import WKPairDriver.Shmem.SlotTables

/-!
# Who gets which slot: the publisher of the input health snapshots

The worker of the driver stages a snapshot of every component and writes each into the slot of its
handle; a handle that comes up gets the next free slot, and none once the table is full.  The
overlay reads the slots and files each snapshot under the handle it carries.

* `publishRecord`, `fileSnapshot` — one record of `PublishOneTick`, one slot of `Refresh`.
* `handles`, `latest`, `lastRead` — what a run has staged, and when the overlay read a slot.
* `entries_eq` — in every interleaving the overlay shows, of each of the first 256 handles, the
  snapshot that was the latest when it last read the slot, and nothing of any other handle.
-/

set_option autoImplicit false

namespace WKPairDriver.InputHealth.Snapshot

open SlotTables.InputHealth (INPUTHEALTH_SLOT_COUNT)

universe v
variable {β : Type v}

/-- `InputHealthSnapshotBody`: the handle, and the other fields. -/
structure Body (β : Type v) where
  handle : UInt64
  stats : β

/-- The driver's table of slots and the overlay's entries.  A slot of zeros is `none`. -/
structure Shared (β : Type v) where
  handleToSlot : UInt64 → Option ℕ
  nextFreeSlot : ℕ
  loggedFullTable : Bool
  slots : ℕ → Option (Body β)
  entries : UInt64 → Option β

/-- Behind `SnapshotPublisherInit` on a fresh mapping. -/
def Shared.new : Shared β := ⟨fun _ => none, 0, false, fun _ => none, fun _ => none⟩

/-- `WriteSlot`. -/
def Shared.writeSlot (s : Shared β) (slot : ℕ) (body : Body β) : Shared β :=
  { s with slots := Function.update s.slots slot (some body) }

/-- One record of `PublishOneTick`. -/
def Shared.publishRecord (s : Shared β) (body : Body β) : Shared β :=
  match s.handleToSlot body.handle with
  | some slot => s.writeSlot slot body
  | none =>
    if s.nextFreeSlot ≥ INPUTHEALTH_SLOT_COUNT then { s with loggedFullTable := true }
    else
      let slot := s.nextFreeSlot
      let s := { s with
        nextFreeSlot := slot + 1
        handleToSlot := Function.update s.handleToSlot body.handle (some slot) }
      s.writeSlot slot body

/-- One slot of `Refresh`, behind a `TryReadSlot` that succeeded. -/
def Shared.fileSnapshot (s : Shared β) (slot : Fin INPUTHEALTH_SLOT_COUNT) : Shared β :=
  match s.slots slot with
  | none => s
  | some body =>
    if body.handle = 0 then s
    else { s with entries := Function.update s.entries body.handle (some body.stats) }

/-- The worker publishes a record; the overlay reads a slot, or closes or opens the mapping.  A read
    that a write disturbs fails, and `Refresh` goes on to the next slot. -/
inductive Action (β : Type v) where
  | publish (body : Body β)
  | read (slot : Fin INPUTHEALTH_SLOT_COUNT)
  | reopen

def Shared.step (s : Shared β) : Action β → Shared β
  | .publish body => s.publishRecord body
  | .read slot => s.fileSnapshot slot
  | .reopen => { s with entries := fun _ => none }

def Shared.after (actions : List (Action β)) : Shared β := actions.foldl Shared.step .new

theorem after_snoc (actions : List (Action β)) (a : Action β) :
    Shared.after (actions ++ [a]) = (Shared.after actions).step a := by
  rw [Shared.after, List.foldl_append]
  rfl

/-! ## What a run says -/

def noteHandle (seen : List UInt64) : Action β → List UInt64
  | .publish body => if body.handle ∈ seen then seen else seen ++ [body.handle]
  | _ => seen

/-- The handles of a run, in the order they came up. -/
def handles (actions : List (Action β)) : List UInt64 := actions.foldl noteHandle []

def noteStats (h : UInt64) (last : Option β) : Action β → Option β
  | .publish body => if body.handle = h then some body.stats else last
  | _ => last

/-- The latest snapshot of a handle. -/
def latest (actions : List (Action β)) (h : UInt64) : Option β :=
  actions.foldl (noteStats h) none

/-- The run up to the last read of a slot, from the newest action back. -/
def readBack (slot : ℕ) : List (Action β) → Option (List (Action β))
  | [] => none
  | .publish _ :: past => readBack slot past
  | .read i :: past => if i.1 = slot then some past.reverse else readBack slot past
  | .reopen :: _ => none

/-- The run up to the last read of a slot since the mapping was opened. -/
def lastRead (slot : ℕ) (actions : List (Action β)) : Option (List (Action β)) :=
  readBack slot actions.reverse

theorem handles_snoc (actions : List (Action β)) (a : Action β) :
    handles (actions ++ [a]) = noteHandle (handles actions) a := by
  rw [handles, List.foldl_append]
  rfl

theorem latest_snoc (actions : List (Action β)) (a : Action β) (h : UInt64) :
    latest (actions ++ [a]) h = noteStats h (latest actions h) a := by
  rw [latest, List.foldl_append]
  rfl

theorem lastRead_snoc (slot : ℕ) (actions : List (Action β)) (a : Action β) :
    lastRead slot (actions ++ [a]) = match a with
      | .publish _ => lastRead slot actions
      | .read i => if i.1 = slot then some actions else lastRead slot actions
      | .reopen => none := by
  rw [lastRead, List.reverse_append, List.reverse_singleton, List.singleton_append]
  cases a with
  | publish body => rfl
  | read i => rw [readBack, List.reverse_reverse]; rfl
  | reopen => rfl

theorem readBack_suffix {slot : ℕ} : ∀ {past actions : List (Action β)},
    readBack slot past = some actions → actions.reverse <:+ past
  | [], _, h => by cases h
  | .publish _ :: past, _, h => by
    rw [readBack] at h
    exact (readBack_suffix h).trans (List.suffix_cons _ _)
  | .read i :: past, actions, h => by
    rw [readBack] at h
    split at h
    next =>
      obtain rfl := Option.some.inj h
      rw [List.reverse_reverse]
      exact List.suffix_cons _ _
    next => exact (readBack_suffix h).trans (List.suffix_cons _ _)
  | .reopen :: past, _, h => by cases h

theorem lastRead_before {slot : ℕ} {actions before : List (Action β)}
    (h : lastRead slot actions = some before) : before <+: actions := by
  have hsuffix := readBack_suffix h
  rwa [List.reverse_suffix] at hsuffix

theorem handles_nodup (actions : List (Action β)) : (handles actions).Nodup := by
  induction actions using List.reverseRecOn with
  | nil => exact List.nodup_nil
  | append_singleton actions a ih =>
    rw [handles_snoc]
    cases a with
    | publish body =>
      rw [noteHandle]
      split
      next => exact ih
      next hnew =>
        rw [← List.concat_eq_append]
        exact ih.concat hnew
    | read i => exact ih
    | reopen => exact ih

theorem mem_handles {actions : List (Action β)} {h : UInt64} :
    h ∈ handles actions ↔ ∃ stats, latest actions h = some stats := by
  induction actions using List.reverseRecOn with
  | nil => simp [handles, latest]
  | append_singleton actions a ih =>
    rw [handles_snoc, latest_snoc]
    cases a with
    | publish body =>
      rw [noteHandle, noteStats]
      by_cases hb : body.handle = h
      · subst hb
        simp only [if_true, Option.some.injEq, exists_eq', iff_true]
        split
        next hmem => exact hmem
        next => simp
      · rw [if_neg hb, ← ih]
        split
        next => exact Iff.rfl
        next => simp [Ne.symm hb]
    | read i => exact ih
    | reopen => exact ih

theorem handles_mono {before actions : List (Action β)} (h : before <+: actions) :
    handles before <+: handles actions := by
  obtain ⟨rest, rfl⟩ := h
  induction rest using List.reverseRecOn with
  | nil => rw [List.append_nil]
  | append_singleton rest a ih =>
    rw [← List.append_assoc, handles_snoc]
    refine ih.trans ?_
    cases a with
    | publish body =>
      rw [noteHandle]
      split
      next => exact List.prefix_refl _
      next => exact List.prefix_append _ _
    | read i => exact List.prefix_refl _
    | reopen => exact List.prefix_refl _

/-- Of a handle that did not come up no slot was read. -/
theorem read_of_not_mem {actions : List (Action β)} {h : UInt64} (hmem : h ∉ handles actions)
    (slot : ℕ) : ((lastRead slot actions).bind fun before => latest before h) = none := by
  cases hread : lastRead slot actions with
  | none => rfl
  | some before =>
    cases hlatest : latest before h with
    | none => exact hlatest
    | some stats =>
      have hbefore : h ∈ handles before := mem_handles.2 ⟨stats, hlatest⟩
      exact absurd ((handles_mono (lastRead_before hread)).subset hbefore) hmem

/-! ## The table and the entries -/

/-- What the overlay shows of a handle. -/
def shown (actions : List (Action β)) (h : UInt64) : Option β :=
  if h ≠ 0 ∧ (handles actions).idxOf h < INPUTHEALTH_SLOT_COUNT then
    (lastRead ((handles actions).idxOf h) actions).bind fun before => latest before h
  else none

/-- What a slot holds. -/
def content (actions : List (Action β)) (slot : ℕ) : Option (Body β) :=
  (handles actions)[slot]?.bind fun h => (latest actions h).map (Body.mk h)

/-- The slot of a handle: the first 256 have one. -/
def slotOf (actions : List (Action β)) (h : UInt64) : Option ℕ :=
  if h ∈ handles actions ∧ (handles actions).idxOf h < INPUTHEALTH_SLOT_COUNT then
    some ((handles actions).idxOf h)
  else none

/-- The state behind a run. -/
structure Inv (actions : List (Action β)) (s : Shared β) : Prop where
  handleToSlot : ∀ h, s.handleToSlot h = slotOf actions h
  nextFreeSlot : s.nextFreeSlot = min (handles actions).length INPUTHEALTH_SLOT_COUNT
  slots : ∀ k < INPUTHEALTH_SLOT_COUNT, s.slots k = content actions k
  entries : ∀ h, s.entries h = shown actions h

theorem Inv.new : Inv [] (Shared.new : Shared β) where
  handleToSlot _ := rfl
  nextFreeSlot := rfl
  slots _ _ := rfl
  entries h := by
    rw [shown]
    split <;> rfl

/-! ### A record of the worker -/

theorem idxOf_of_getElem? {actions : List (Action β)} {k : ℕ} {h : UInt64}
    (hk : (handles actions)[k]? = some h) : (handles actions).idxOf h = k := by
  obtain ⟨hlt, rfl⟩ := List.getElem?_eq_some_iff.1 hk
  exact (handles_nodup actions).idxOf_getElem k hlt

theorem shown_of_not_mem {actions : List (Action β)} {h : UInt64} (hmem : h ∉ handles actions) :
    shown actions h = none := by
  rw [shown, read_of_not_mem hmem]
  split <;> rfl

theorem handles_publish_of_mem {actions : List (Action β)} {body : Body β}
    (hmem : body.handle ∈ handles actions) :
    handles (actions ++ [.publish body]) = handles actions := by
  rw [handles_snoc, noteHandle, if_pos hmem]

theorem handles_publish_of_not_mem {actions : List (Action β)} {body : Body β}
    (hmem : body.handle ∉ handles actions) :
    handles (actions ++ [.publish body]) = handles actions ++ [body.handle] := by
  rw [handles_snoc, noteHandle, if_neg hmem]

/-- A slot stays with its handle. -/
theorem idxOf_publish {actions : List (Action β)} (body : Body β) {h : UInt64}
    (hmem : h ∈ handles actions) :
    (handles (actions ++ [.publish body])).idxOf h = (handles actions).idxOf h := by
  by_cases hb : body.handle ∈ handles actions
  · rw [handles_publish_of_mem hb]
  · rw [handles_publish_of_not_mem hb, List.idxOf_append_of_mem hmem]

theorem latest_publish_self (actions : List (Action β)) (body : Body β) :
    latest (actions ++ [.publish body]) body.handle = some body.stats := by
  rw [latest_snoc, noteStats, if_pos rfl]

theorem latest_publish_other (actions : List (Action β)) {body : Body β} {h : UInt64}
    (hne : h ≠ body.handle) : latest (actions ++ [.publish body]) h = latest actions h := by
  rw [latest_snoc, noteStats, if_neg hne.symm]

/-- The overlay sees a record no sooner than it reads the slot. -/
theorem shown_publish (actions : List (Action β)) (body : Body β) (h : UInt64) :
    shown (actions ++ [.publish body]) h = shown actions h := by
  by_cases hmem : h ∈ handles actions
  · rw [shown, shown, idxOf_publish body hmem]
    simp only [lastRead_snoc]
  · have hnone := read_of_not_mem hmem
    rw [shown_of_not_mem hmem, shown]
    simp only [lastRead_snoc, hnone, ite_self]

theorem content_publish_self {actions : List (Action β)} {body : Body β} {slot : ℕ}
    (hslot : (handles (actions ++ [.publish body]))[slot]? = some body.handle) :
    content (actions ++ [.publish body]) slot = some body := by
  rw [content, hslot, Option.bind_some, latest_publish_self]
  rfl

theorem content_publish_other {actions : List (Action β)} {body : Body β} {slot : ℕ}
    (hslot : (handles (actions ++ [.publish body]))[slot]? ≠ some body.handle) :
    content (actions ++ [.publish body]) slot = content actions slot := by
  have hsame : (handles (actions ++ [.publish body]))[slot]? = (handles actions)[slot]? := by
    by_cases hmem : body.handle ∈ handles actions
    · rw [handles_publish_of_mem hmem]
    · rw [handles_publish_of_not_mem hmem] at hslot ⊢
      rcases lt_trichotomy slot (handles actions).length with hlt | rfl | hgt
      · exact List.getElem?_append_left hlt
      · exact absurd List.getElem?_concat_length hslot
      · rw [List.getElem?_eq_none (by simp; omega), List.getElem?_eq_none hgt.le]
  rw [content, content, hsame]
  rw [hsame] at hslot
  cases hget : (handles actions)[slot]? with
  | none => rfl
  | some h =>
    have hne : h ≠ body.handle := fun heq => hslot (by rw [hget, heq])
    rw [Option.bind_some, Option.bind_some, latest_publish_other actions hne]

/-- The record goes to the slot of its handle. -/
theorem slots_publish {actions : List (Action β)} {s : Shared β} (hs : Inv actions s) {body : Body β}
    {slot : ℕ} (hslot : (handles (actions ++ [.publish body]))[slot]? = some body.handle) {k : ℕ}
    (hk : k < INPUTHEALTH_SLOT_COUNT) :
    (Function.update s.slots slot (some body)) k = content (actions ++ [.publish body]) k := by
  by_cases heq : k = slot
  · rw [heq, Function.update_self, content_publish_self hslot]
  · have hother : (handles (actions ++ [.publish body]))[k]? ≠ some body.handle := fun hat =>
      heq ((idxOf_of_getElem? hat).symm.trans (idxOf_of_getElem? hslot))
    rw [Function.update_of_ne heq, content_publish_other hother, hs.slots k hk]

/-- The record of a handle whose slot would be behind the table. -/
theorem slots_full {actions : List (Action β)} {s : Shared β} (hs : Inv actions s) {body : Body β}
    (hfull : INPUTHEALTH_SLOT_COUNT ≤ (handles (actions ++ [.publish body])).idxOf body.handle) {k : ℕ}
    (hk : k < INPUTHEALTH_SLOT_COUNT) :
    s.slots k = content (actions ++ [.publish body]) k := by
  have hother : (handles (actions ++ [.publish body]))[k]? ≠ some body.handle := fun hat => by
    rw [idxOf_of_getElem? hat] at hfull
    omega
  rw [content_publish_other hother, hs.slots k hk]

/-- The other handles keep their slots, or their having none. -/
theorem slotOf_publish_other {actions : List (Action β)} {body : Body β} {h : UInt64}
    (hne : h ≠ body.handle) : slotOf (actions ++ [.publish body]) h = slotOf actions h := by
  rw [slotOf, slotOf]
  by_cases hmem : h ∈ handles actions
  · have hstill : h ∈ handles (actions ++ [.publish body]) :=
      (handles_mono (List.prefix_append actions _)).subset hmem
    rw [idxOf_publish body hmem]
    simp only [hmem, hstill]
  · have hstill : h ∉ handles (actions ++ [.publish body]) := by
      by_cases hb : body.handle ∈ handles actions
      · rwa [handles_publish_of_mem hb]
      · rw [handles_publish_of_not_mem hb, List.mem_append, List.mem_singleton]
        exact fun hor => hor.elim hmem hne
    rw [if_neg fun hand => hstill hand.1, if_neg fun hand => hmem hand.1]

/-- A record of a handle that came up before. -/
theorem Inv.publish_known {actions : List (Action β)} {s : Shared β} (hs : Inv actions s)
    {body : Body β} (hmem : body.handle ∈ handles actions) :
    Inv (actions ++ [.publish body]) (s.publishRecord body) := by
  have hhandles := handles_publish_of_mem hmem
  have hslots : ∀ h, s.handleToSlot h = slotOf (actions ++ [.publish body]) h := fun h => by
    rw [slotOf, hhandles]
    exact hs.handleToSlot h
  have hnext : s.nextFreeSlot =
      min (handles (actions ++ [.publish body])).length INPUTHEALTH_SLOT_COUNT := by
    rw [hhandles]
    exact hs.nextFreeSlot
  have hentries : ∀ h, s.entries h = shown (actions ++ [.publish body]) h := fun h => by
    rw [shown_publish, hs.entries]
  have hto := hs.handleToSlot body.handle
  rw [slotOf] at hto
  by_cases hroom : (handles actions).idxOf body.handle < INPUTHEALTH_SLOT_COUNT
  · rw [if_pos ⟨hmem, hroom⟩] at hto
    rw [Shared.publishRecord, hto]
    refine ⟨hslots, hnext, fun k hk => slots_publish hs ?_ hk, hentries⟩
    rw [hhandles, List.getElem?_idxOf hmem]
  · have hlt := List.idxOf_lt_length_iff.2 hmem
    have hfull : s.nextFreeSlot ≥ INPUTHEALTH_SLOT_COUNT := by
      rw [hs.nextFreeSlot]
      omega
    rw [if_neg fun hand => hroom hand.2] at hto
    rw [Shared.publishRecord, hto]
    simp only [if_pos hfull]
    exact ⟨hslots, hnext, fun k hk => slots_full hs (by rw [hhandles]; omega) hk, hentries⟩

/-- A record of a handle that comes up: it takes the next slot, if there is one. -/
theorem Inv.publish_new {actions : List (Action β)} {s : Shared β} (hs : Inv actions s)
    {body : Body β} (hmem : body.handle ∉ handles actions) :
    Inv (actions ++ [.publish body]) (s.publishRecord body) := by
  have hhandles := handles_publish_of_not_mem hmem
  have hentries : ∀ h, s.entries h = shown (actions ++ [.publish body]) h := fun h => by
    rw [shown_publish, hs.entries]
  have hto := hs.handleToSlot body.handle
  rw [slotOf, if_neg fun hand => hmem hand.1] at hto
  have hself : (handles (actions ++ [.publish body])).idxOf body.handle =
      (handles actions).length := by
    rw [hhandles, List.idxOf_append_of_notMem hmem, List.idxOf_cons_self, Nat.add_zero]
  have hlen : (handles (actions ++ [.publish body])).length = (handles actions).length + 1 := by
    rw [hhandles, List.length_append, List.length_singleton]
  have hnext := hs.nextFreeSlot
  rw [Shared.publishRecord, hto]
  by_cases hfull : s.nextFreeSlot ≥ INPUTHEALTH_SLOT_COUNT
  · simp only [if_pos hfull]
    refine ⟨fun h => ?_, ?_, fun k hk => slots_full hs (by omega) hk, hentries⟩
    · by_cases hne : h = body.handle
      · rw [hne, slotOf, hself, if_neg (by omega)]
        exact hto
      · rw [slotOf_publish_other hne]
        exact hs.handleToSlot h
    · rw [hlen]
      exact hnext.trans (by omega)
  · have hfree : s.nextFreeSlot = (handles actions).length := by omega
    simp only [if_neg hfull]
    refine ⟨fun h => ?_, ?_, fun k hk => slots_publish hs ?_ hk, hentries⟩
    · by_cases hne : h = body.handle
      · have hin : body.handle ∈ handles (actions ++ [.publish body]) := by
          rw [hhandles]
          simp
        rw [hne, slotOf, hself, if_pos ⟨hin, by omega⟩, ← hfree]
        exact Function.update_self ..
      · rw [slotOf_publish_other hne]
        exact (Function.update_of_ne hne _ _).trans (hs.handleToSlot h)
    · rw [hlen]
      change s.nextFreeSlot + 1 = _
      omega
    · rw [hhandles, hfree]
      exact List.getElem?_concat_length

theorem Inv.publish {actions : List (Action β)} {s : Shared β} (hs : Inv actions s)
    (body : Body β) : Inv (actions ++ [.publish body]) (s.publishRecord body) := by
  by_cases hmem : body.handle ∈ handles actions
  · exact hs.publish_known hmem
  · exact hs.publish_new hmem

/-! ### A slot of the overlay -/

theorem shown_read (actions : List (Action β)) (slot : Fin INPUTHEALTH_SLOT_COUNT) (h : UInt64) :
    shown (actions ++ [.read slot]) h =
      if h ≠ 0 ∧ (handles actions).idxOf h = slot then latest actions h else shown actions h := by
  have hhandles : handles (actions ++ [.read slot]) = handles actions := by
    rw [handles_snoc]
    rfl
  rw [shown, shown, hhandles]
  simp only [lastRead_snoc]
  by_cases hslot : (handles actions).idxOf h = slot
  · by_cases hzero : h = 0
    · simp [hzero]
    · rw [if_pos ⟨hzero, hslot ▸ slot.isLt⟩, if_pos hslot.symm, if_pos ⟨hzero, hslot⟩]
      rfl
  · rw [if_neg (Ne.symm hslot), if_neg (c := h ≠ 0 ∧ _ = slot.1) fun hand => hslot hand.2]

/-- The overlay leaves the table as it is. -/
theorem Inv.of_overlay {actions : List (Action β)} {s s' : Shared β} (hs : Inv actions s)
    {a : Action β} (ha : ∀ body, a ≠ .publish body) (hto : s'.handleToSlot = s.handleToSlot)
    (hnext : s'.nextFreeSlot = s.nextFreeSlot) (hslots : s'.slots = s.slots)
    (hentries : ∀ h, s'.entries h = shown (actions ++ [a]) h) : Inv (actions ++ [a]) s' := by
  have hhandles : handles (actions ++ [a]) = handles actions := by
    rw [handles_snoc]
    cases a with
    | publish body => exact absurd rfl (ha body)
    | read slot => rfl
    | reopen => rfl
  have hlatest : ∀ h, latest (actions ++ [a]) h = latest actions h := fun h => by
    rw [latest_snoc]
    cases a with
    | publish body => exact absurd rfl (ha body)
    | read slot => rfl
    | reopen => rfl
  refine ⟨fun h => ?_, ?_, fun k hk => ?_, hentries⟩
  · rw [hto, hs.handleToSlot, slotOf, slotOf, hhandles]
  · rw [hnext, hhandles]
    exact hs.nextFreeSlot
  · rw [hslots, hs.slots k hk, content, content, hhandles]
    simp only [hlatest]

theorem Inv.read {actions : List (Action β)} {s : Shared β} (hs : Inv actions s)
    (slot : Fin INPUTHEALTH_SLOT_COUNT) : Inv (actions ++ [.read slot]) (s.fileSnapshot slot) := by
  have hread : ∀ body, Action.read slot ≠ (.publish body : Action β) := fun body h => by cases h
  have hat := hs.slots slot slot.isLt
  rw [Shared.fileSnapshot, hat, content]
  cases hget : (handles actions)[slot.1]? with
  | none =>
    refine hs.of_overlay hread rfl rfl rfl fun h => ?_
    rw [shown_read]
    refine (hs.entries h).trans ?_
    split
    next hand =>
      have hmem : h ∉ handles actions := by
        rw [← List.idxOf_lt_length_iff, hand.2]
        exact not_lt.2 (List.getElem?_eq_none_iff.1 hget)
      have hlatest : latest actions h = none := by
        cases hl : latest actions h with
        | none => rfl
        | some stats => exact absurd (mem_handles.2 ⟨stats, hl⟩) hmem
      rw [shown_of_not_mem hmem, hlatest]
    next => rfl
  | some h₀ =>
    have hidx := idxOf_of_getElem? hget
    obtain ⟨stats, hstats⟩ := mem_handles.1 (List.mem_of_getElem? hget)
    have honly : ∀ h, (handles actions).idxOf h = slot → h = h₀ := by
      intro h hh
      have hlt : (handles actions).idxOf h < (handles actions).length := by
        rw [hh]
        exact (List.getElem?_eq_some_iff.1 hget).1
      have hgot := List.getElem?_idxOf (List.idxOf_lt_length_iff.1 hlt)
      rw [hh, hget] at hgot
      exact (Option.some.inj hgot).symm
    simp only [Option.bind_some, hstats, Option.map_some]
    by_cases hzero : h₀ = 0
    · rw [if_pos hzero]
      refine hs.of_overlay hread rfl rfl rfl fun h => ?_
      rw [shown_read, if_neg fun hand => hand.1 ((honly h hand.2).trans hzero)]
      exact hs.entries h
    · rw [if_neg hzero]
      refine hs.of_overlay hread rfl rfl rfl fun h => ?_
      rw [shown_read]
      by_cases hh : h = h₀
      · rw [hh, if_pos ⟨hzero, hidx⟩, hstats]
        exact Function.update_self ..
      · rw [if_neg fun hand => hh (honly h hand.2), ← hs.entries]
        exact Function.update_of_ne hh _ _

theorem Inv.reopen {actions : List (Action β)} {s : Shared β} (hs : Inv actions s) :
    Inv (actions ++ [.reopen]) (s.step .reopen) := by
  refine hs.of_overlay (fun body h => by cases h) rfl rfl rfl fun h => ?_
  rw [shown]
  simp only [lastRead_snoc, Option.bind_none, ite_self]
  rfl

theorem inv_after (actions : List (Action β)) : Inv actions (Shared.after actions) := by
  induction actions using List.reverseRecOn with
  | nil => exact Inv.new
  | append_singleton actions a ih =>
    rw [after_snoc]
    cases a with
    | publish body => exact ih.publish body
    | read slot => exact ih.read slot
    | reopen => exact ih.reopen

/-- **What the overlay shows.**  In every interleaving of records, reads and reopenings an entry of
    the overlay is the latest snapshot of its handle at the last read of the handle's slot since the
    mapping was opened; the handles get the slots in the order they come up, and a handle behind the
    first 256, or the handle 0, is never shown. -/
theorem entries_eq (actions : List (Action β)) (h : UInt64) :
    (Shared.after actions).entries h =
      if h ≠ 0 ∧ (handles actions).idxOf h < INPUTHEALTH_SLOT_COUNT then
        (lastRead ((handles actions).idxOf h) actions).bind fun before => latest before h
      else none :=
  (inv_after actions).entries h

/-- Two components, read between two passes of the worker. -/
example : (Shared.after [.publish ⟨7, 1⟩, .publish ⟨9, 2⟩, .read ⟨1, by decide⟩,
    .publish ⟨9, 3⟩]).entries 9 = some 2 := by decide

end WKPairDriver.InputHealth.Snapshot
