import Mathlib
import WKPairDriver.Osc.PatternMatch
import WKPairDriver.Shmem.SlotTables

/-!
# The router's subscriptions: `RouteTable`

A table of `kMaxRoutes` entries, one for each subscriber, with the counters of what its pattern
matched.

* `Subscribe_cases`, `Unsubscribe_entry`, `Dispatch_entry`, `BumpDropCount_entry` — what each
  operation does to the table.
* `run_inv` — one entry for an id, and each active entry tells the history since its id was last
  subscribed.
* `run_bookkeeping` — that, with what the next operation does to a table a run leaves.
* `match_count_wraps` — the count is one of 64 bits.

The operations of a run come one after another: the bodies run under the table's mutex or in the
send worker.
-/

set_option autoImplicit false

namespace WKPairDriver.Osc

open Lib.Bytes SlotTables.OscRouter

abbrev OscSubscriberId := UInt32

def kMaxRoutes : ℕ := OSC_ROUTER_ROUTE_SLOTS

/-- `sizeof(RouteEntry::subscriber_label)` -/
def labelSize : ℕ := 32

/-- The texts are C strings: the bytes before the NUL. -/
structure RouteEntry where
  subscriber_id : OscSubscriberId
  pattern : List UInt8
  subscriber_label : List UInt8
  match_count : UInt64
  drop_count : UInt64
  last_match_tick : UInt64
  active : Bool

structure RouteTable where
  entries_ : Fin kMaxRoutes → RouteEntry

namespace RouteTable

/-- A new table: the members without an initialiser hold whatever was there. -/
def new (uninit : Fin kMaxRoutes → RouteEntry) : RouteTable where
  entries_ i :=
    { uninit i with match_count := 0, drop_count := 0, last_match_tick := 0, active := false }

def FindSlot (t : RouteTable) (id : OscSubscriberId) : Option (Fin kMaxRoutes) :=
  (List.finRange kMaxRoutes).find? fun i =>
    (t.entries_ i).active && (t.entries_ i).subscriber_id == id

def FindFreeSlot (t : RouteTable) : Option (Fin kMaxRoutes) :=
  (List.finRange kMaxRoutes).find? fun i => !(t.entries_ i).active

/-- The copy of a string into a `char[size]`. -/
def copyText (size : ℕ) (s : List UInt8) : List UInt8 := (cstr s).take (size - 1)

/-- The entry `Subscribe` writes. -/
def subscribed (id : OscSubscriberId) (pattern label : List UInt8) : RouteEntry where
  subscriber_id := id
  pattern := copyText OSC_ROUTE_ADDR_LEN pattern
  subscriber_label := copyText labelSize label
  match_count := 0
  drop_count := 0
  last_match_tick := 0
  active := true

def Subscribe (t : RouteTable) (id : OscSubscriberId) (pattern label : List UInt8) :
    RouteTable × Bool :=
  match (t.FindSlot id).or t.FindFreeSlot with
  | none => (t, false)
  | some slot => (⟨Function.update t.entries_ slot (subscribed id pattern label)⟩, true)

def Unsubscribe (t : RouteTable) (id : OscSubscriberId) : RouteTable :=
  match t.FindSlot id with
  | none => t
  | some slot =>
    ⟨Function.update t.entries_ slot { t.entries_ slot with active := false }⟩

/-- The test both loops make of an entry. -/
def RouteEntry.takes (e : RouteEntry) (address : List UInt8) : Bool :=
  e.active && oscPatternMatch (some e.pattern) (some address)

/-- The table and `matched_out`. -/
def Dispatch (t : RouteTable) (address : List UInt8) (qpc_tick : UInt64) : RouteTable × Bool :=
  (⟨fun i =>
    let e := t.entries_ i
    if RouteEntry.takes e address then
      { e with match_count := e.match_count + 1, last_match_tick := qpc_tick }
    else e⟩,
   (List.finRange kMaxRoutes).any fun i => RouteEntry.takes (t.entries_ i) address)

def BumpDropCount (t : RouteTable) (address : List UInt8) : RouteTable where
  entries_ i :=
    let e := t.entries_ i
    if RouteEntry.takes e address then { e with drop_count := e.drop_count + 1 } else e

/-! ## Runs -/

inductive Op where
  | Subscribe (id : OscSubscriberId) (pattern label : List UInt8)
  | Unsubscribe (id : OscSubscriberId)
  | Dispatch (address : List UInt8) (qpc_tick : UInt64)
  | BumpDropCount (address : List UInt8)

def step (t : RouteTable) : Op → RouteTable
  | .Subscribe id pattern label => (t.Subscribe id pattern label).1
  | .Unsubscribe id => t.Unsubscribe id
  | .Dispatch address qpc_tick => (t.Dispatch address qpc_tick).1
  | .BumpDropCount address => t.BumpDropCount address

def run (uninit : Fin kMaxRoutes → RouteEntry) (ops : List Op) : RouteTable :=
  ops.foldl step (new uninit)

theorem run_snoc (uninit : Fin kMaxRoutes → RouteEntry) (ops : List Op) (op : Op) :
    run uninit (ops ++ [op]) = step (run uninit ops) op := by
  rw [run, List.foldl_append]
  rfl

/-- The operation subscribes or unsubscribes `id`. -/
def Op.concerns (id : OscSubscriberId) : Op → Bool
  | .Subscribe id' .. => id' == id
  | .Unsubscribe id' => id' == id
  | _ => false

/-- The operation is the dispatch of an address that `pattern` matches. -/
def Op.dispatches (pattern : List UInt8) : Op → Bool
  | .Dispatch address _ => oscPatternMatch (some pattern) (some address)
  | _ => false

/-- What a history says of an active entry: `after` is the part of it since the entry's id was last
    subscribed. -/
structure Since (ops : List Op) (e : RouteEntry) (after : List Op) : Prop where
  subscribed : ∃ before pattern label,
    ops = before ++ .Subscribe e.subscriber_id pattern label :: after ∧
      e.pattern = copyText OSC_ROUTE_ADDR_LEN pattern
  last : ∀ op ∈ after, op.concerns e.subscriber_id = false
  match_count : e.match_count.toNat = after.countP (Op.dispatches e.pattern) % 2 ^ 64

/-- No two active entries have one id. -/
def Distinct (t : RouteTable) : Prop :=
  ∀ i j, (t.entries_ i).active = true → (t.entries_ j).active = true →
    (t.entries_ i).subscriber_id = (t.entries_ j).subscriber_id → i = j

structure Inv (ops : List Op) (t : RouteTable) : Prop where
  distinct : Distinct t
  since : ∀ i, (t.entries_ i).active = true → ∃ after, Since ops (t.entries_ i) after

/-! ## What the operations do -/

theorem FindSlot_eq_none {t : RouteTable} {id : OscSubscriberId} :
    t.FindSlot id = none ↔
      ∀ i, (t.entries_ i).active = true → (t.entries_ i).subscriber_id ≠ id := by
  simp [FindSlot, List.find?_eq_none]

theorem FindSlot_eq_some {t : RouteTable} {id : OscSubscriberId} {slot : Fin kMaxRoutes}
    (h : t.FindSlot id = some slot) :
    (t.entries_ slot).active = true ∧ (t.entries_ slot).subscriber_id = id := by
  have := List.find?_some h
  simpa using this

theorem FindFreeSlot_eq_none {t : RouteTable} :
    t.FindFreeSlot = none ↔ ∀ i, (t.entries_ i).active = true := by
  simp [FindFreeSlot, List.find?_eq_none]

theorem FindFreeSlot_eq_some {t : RouteTable} {slot : Fin kMaxRoutes}
    (h : t.FindFreeSlot = some slot) : (t.entries_ slot).active = false := by
  have := List.find?_some h
  simpa using this

/-- **`Subscribe`** gives up on a full table without the id, or rewrites a slot outside of which
    the id is not active. -/
theorem Subscribe_cases {t : RouteTable} (ht : Distinct t) (id : OscSubscriberId)
    (pattern label : List UInt8) :
    ((∀ i, (t.entries_ i).active = true ∧ (t.entries_ i).subscriber_id ≠ id) ∧
      t.Subscribe id pattern label = (t, false)) ∨
    ∃ slot, (∀ i, i ≠ slot → (t.entries_ i).active = true → (t.entries_ i).subscriber_id ≠ id) ∧
      ((t.entries_ slot).active = true → (t.entries_ slot).subscriber_id = id) ∧
      t.Subscribe id pattern label =
        (⟨Function.update t.entries_ slot (subscribed id pattern label)⟩, true) := by
  cases hslot : t.FindSlot id with
  | some slot =>
    obtain ⟨hactive, hid⟩ := FindSlot_eq_some hslot
    refine .inr ⟨slot, ?_, fun _ => hid, by simp [Subscribe, hslot]⟩
    intro i hne hi hsame
    exact hne (ht i slot hi hactive (hsame.trans hid.symm))
  | none =>
    have habsent := FindSlot_eq_none.1 hslot
    cases hfree : t.FindFreeSlot with
    | some slot =>
      have hidle := FindFreeSlot_eq_some hfree
      refine .inr ⟨slot, fun i _ => habsent i, ?_, by simp [Subscribe, hslot, hfree]⟩
      intro hactive
      rw [hidle] at hactive
      cases hactive
    | none =>
      have hfull := FindFreeSlot_eq_none.1 hfree
      exact .inl ⟨fun i => ⟨hfull i, habsent i (hfull i)⟩, by simp [Subscribe, hslot, hfree]⟩

/-- **`Unsubscribe`** ends the entry with the id and touches no other. -/
theorem Unsubscribe_entry {t : RouteTable} (ht : Distinct t) (id : OscSubscriberId)
    (i : Fin kMaxRoutes) :
    (t.Unsubscribe id).entries_ i =
      if (t.entries_ i).active = true ∧ (t.entries_ i).subscriber_id = id then
        { t.entries_ i with active := false }
      else t.entries_ i := by
  cases hslot : t.FindSlot id with
  | none =>
    have habsent := FindSlot_eq_none.1 hslot
    rw [if_neg fun h => habsent i h.1 h.2]
    simp [Unsubscribe, hslot]
  | some slot =>
    obtain ⟨hactive, hid⟩ := FindSlot_eq_some hslot
    simp only [Unsubscribe, hslot]
    by_cases hi : i = slot
    · subst hi
      rw [Function.update_self, if_pos ⟨hactive, hid⟩]
    · rw [Function.update_of_ne hi, if_neg]
      intro h
      exact hi (ht i slot h.1 hactive (h.2.trans hid.symm))

theorem Dispatch_entry (t : RouteTable) (address : List UInt8) (qpc_tick : UInt64)
    (i : Fin kMaxRoutes) :
    (t.Dispatch address qpc_tick).1.entries_ i =
      if RouteEntry.takes (t.entries_ i) address then
        { t.entries_ i with
          match_count := (t.entries_ i).match_count + 1, last_match_tick := qpc_tick }
      else t.entries_ i := rfl

theorem BumpDropCount_entry (t : RouteTable) (address : List UInt8) (i : Fin kMaxRoutes) :
    (t.BumpDropCount address).entries_ i =
      if RouteEntry.takes (t.entries_ i) address then
        { t.entries_ i with drop_count := (t.entries_ i).drop_count + 1 }
      else t.entries_ i := rfl

/-! ## The history of an entry -/

/-- A fresh subscription. -/
theorem Since.new (ops : List Op) (id : OscSubscriberId) (pattern label : List UInt8) :
    Since (ops ++ [.Subscribe id pattern label]) (RouteTable.subscribed id pattern label) [] where
  subscribed := ⟨ops, pattern, label, rfl, rfl⟩
  last := by simp
  match_count := rfl

/-- One more operation, which does not concern the entry's id. -/
theorem Since.snoc {ops after : List Op} {e e' : RouteEntry} {op : Op} (h : Since ops e after)
    (hop : op.concerns e.subscriber_id = false) (hid : e'.subscriber_id = e.subscriber_id)
    (hpattern : e'.pattern = e.pattern)
    (hcount : e'.match_count = e.match_count + if op.dispatches e.pattern then 1 else 0) :
    Since (ops ++ [op]) e' (after ++ [op]) where
  subscribed := by
    obtain ⟨before, pattern, label, hops, hcopy⟩ := h.subscribed
    exact ⟨before, pattern, label, by rw [hops, hid]; simp, hpattern.trans hcopy⟩
  last := by
    intro op' hmem
    rw [hid]
    rcases List.mem_append.1 hmem with hmem | hmem
    · exact h.last op' hmem
    · rw [List.mem_singleton.1 hmem]
      exact hop
  match_count := by
    rw [hcount, hpattern, List.countP_append, List.countP_singleton, UInt64.toNat_add,
      h.match_count]
    split <;> simp

/-- The entry that an operation leaves alone. -/
theorem Since.keep {ops after : List Op} {e : RouteEntry} {op : Op} (h : Since ops e after)
    (hop : op.concerns e.subscriber_id = false) (hdispatch : op.dispatches e.pattern = false) :
    Since (ops ++ [op]) e (after ++ [op]) :=
  h.snoc hop rfl rfl (by simp [hdispatch])

/-! ## The invariant -/

theorem Inv.new (uninit : Fin kMaxRoutes → RouteEntry) : Inv [] (new uninit) where
  distinct := by
    intro i j hi
    cases hi
  since := by
    intro i hi
    cases hi

theorem Inv.subscribe {ops : List Op} {t : RouteTable} (h : Inv ops t) (id : OscSubscriberId)
    (pattern label : List UInt8) :
    Inv (ops ++ [.Subscribe id pattern label]) (t.Subscribe id pattern label).1 := by
  rcases Subscribe_cases h.distinct id pattern label with ⟨hfull, heq⟩ | ⟨slot, hother, -, heq⟩
  · rw [heq]
    refine ⟨h.distinct, fun i hi => ?_⟩
    obtain ⟨after, hsince⟩ := h.since i hi
    exact ⟨_, hsince.keep (by simpa [Op.concerns] using (hfull i).2.symm) rfl⟩
  · rw [heq]
    constructor
    · intro i j hi hj hsame
      dsimp only at hi hj hsame
      by_cases his : i = slot <;> by_cases hjs : j = slot
      · rw [his, hjs]
      · subst his
        rw [Function.update_self] at hsame
        rw [Function.update_of_ne hjs] at hj hsame
        exact absurd hsame.symm (hother j hjs hj)
      · subst hjs
        rw [Function.update_self] at hsame
        rw [Function.update_of_ne his] at hi hsame
        exact absurd hsame (hother i his hi)
      · rw [Function.update_of_ne his] at hi hsame
        rw [Function.update_of_ne hjs] at hj hsame
        exact h.distinct i j hi hj hsame
    · intro i hi
      dsimp only at hi ⊢
      by_cases his : i = slot
      · subst his
        rw [Function.update_self]
        exact ⟨[], Since.new ops id pattern label⟩
      · rw [Function.update_of_ne his] at hi ⊢
        obtain ⟨after, hsince⟩ := h.since i hi
        exact ⟨_, hsince.keep (by simpa [Op.concerns] using (hother i his hi).symm) rfl⟩

theorem Inv.unsubscribe {ops : List Op} {t : RouteTable} (h : Inv ops t) (id : OscSubscriberId) :
    Inv (ops ++ [.Unsubscribe id]) (t.Unsubscribe id) := by
  -- an entry that is still active was active before, with another id
  have hstill : ∀ i, ((t.Unsubscribe id).entries_ i).active = true →
      (t.Unsubscribe id).entries_ i = t.entries_ i ∧ (t.entries_ i).active = true ∧
        (t.entries_ i).subscriber_id ≠ id := by
    intro i hi
    rw [Unsubscribe_entry h.distinct] at hi ⊢
    split at hi
    · cases hi
    · rename_i hnot
      exact ⟨if_neg hnot, hi, fun hid => hnot ⟨hi, hid⟩⟩
  constructor
  · intro i j hi hj hsame
    obtain ⟨hi', hai, -⟩ := hstill i hi
    obtain ⟨hj', haj, -⟩ := hstill j hj
    rw [hi', hj'] at hsame
    exact h.distinct i j hai haj hsame
  · intro i hi
    obtain ⟨heq, hactive, hid⟩ := hstill i hi
    rw [heq]
    obtain ⟨after, hsince⟩ := h.since i hactive
    exact ⟨_, hsince.keep (by simpa [Op.concerns] using hid.symm) rfl⟩

/-- A step that rewrites counters only. -/
theorem Inv.count {ops : List Op} {t t' : RouteTable} (h : Inv ops t) {op : Op}
    (hop : ∀ id, op.concerns id = false)
    (hactive : ∀ i, (t'.entries_ i).active = (t.entries_ i).active)
    (hid : ∀ i, (t'.entries_ i).subscriber_id = (t.entries_ i).subscriber_id)
    (hpattern : ∀ i, (t'.entries_ i).pattern = (t.entries_ i).pattern)
    (hcount : ∀ i, (t.entries_ i).active = true → (t'.entries_ i).match_count =
      (t.entries_ i).match_count + if op.dispatches (t.entries_ i).pattern then 1 else 0) :
    Inv (ops ++ [op]) t' where
  distinct := by
    intro i j hi hj hsame
    rw [hactive] at hi hj
    rw [hid, hid] at hsame
    exact h.distinct i j hi hj hsame
  since := by
    intro i hi
    rw [hactive] at hi
    obtain ⟨after, hsince⟩ := h.since i hi
    exact ⟨_, hsince.snoc (hop _) (hid i) (hpattern i) (hcount i hi)⟩

theorem Inv.dispatch {ops : List Op} {t : RouteTable} (h : Inv ops t) (address : List UInt8)
    (qpc_tick : UInt64) :
    Inv (ops ++ [.Dispatch address qpc_tick]) (t.Dispatch address qpc_tick).1 := by
  apply h.count
  · exact fun _ => rfl
  all_goals intro i
  · rw [Dispatch_entry]; split <;> rfl
  · rw [Dispatch_entry]; split <;> rfl
  · rw [Dispatch_entry]; split <;> rfl
  · intro hactive
    rw [Dispatch_entry, RouteEntry.takes, hactive]
    simp only [Op.dispatches, Bool.true_and]
    split <;> rename_i hmatch <;> simp [hmatch]

theorem Inv.bumpDropCount {ops : List Op} {t : RouteTable} (h : Inv ops t) (address : List UInt8) :
    Inv (ops ++ [.BumpDropCount address]) (t.BumpDropCount address) := by
  apply h.count
  · exact fun _ => rfl
  all_goals intro i
  · rw [BumpDropCount_entry]; split <;> rfl
  · rw [BumpDropCount_entry]; split <;> rfl
  · rw [BumpDropCount_entry]; split <;> rfl
  · intro _
    rw [BumpDropCount_entry]
    simp only [Op.dispatches, Bool.false_eq_true, if_false, add_zero]
    split <;> rfl

theorem Inv.step {ops : List Op} {t : RouteTable} (h : Inv ops t) (op : Op) :
    Inv (ops ++ [op]) (step t op) := by
  cases op with
  | Subscribe id pattern label => exact h.subscribe id pattern label
  | Unsubscribe id => exact h.unsubscribe id
  | Dispatch address qpc_tick => exact h.dispatch address qpc_tick
  | BumpDropCount address => exact h.bumpDropCount address

theorem run_inv (uninit : Fin kMaxRoutes → RouteEntry) (ops : List Op) :
    Inv ops (run uninit ops) := by
  induction ops using List.reverseRecOn with
  | nil => exact Inv.new uninit
  | append_singleton ops op ih =>
    rw [run_snoc]
    exact ih.step op

/-! ## A full table -/

/-- `Subscribe` fails exactly on a full table without the id, and then changes nothing. -/
theorem Subscribe_fails_iff {t : RouteTable} (ht : Distinct t) (id : OscSubscriberId)
    (pattern label : List UInt8) :
    ((t.Subscribe id pattern label).2 = false ↔
      ∀ i, (t.entries_ i).active = true ∧ (t.entries_ i).subscriber_id ≠ id) ∧
    ((t.Subscribe id pattern label).2 = false → (t.Subscribe id pattern label).1 = t) := by
  rcases Subscribe_cases ht id pattern label with ⟨hfull, heq⟩ | ⟨slot, -, hsame, heq⟩
  · rw [heq]
    exact ⟨⟨fun _ => hfull, fun _ => rfl⟩, fun _ => rfl⟩
  · rw [heq]
    constructor
    · constructor
      · intro h
        cases h
      · intro hfull
        exact absurd (hsame (hfull slot).1) (hfull slot).2
    · intro h
      cases h

/-- **The bookkeeping of every run**, and what the next operation does to the table it leaves. -/
theorem run_bookkeeping (uninit : Fin kMaxRoutes → RouteEntry) (ops : List Op) :
    Distinct (run uninit ops) ∧
    (∀ i, ((run uninit ops).entries_ i).active = true →
      ∃ after, Since ops ((run uninit ops).entries_ i) after) ∧
    (∀ id i, ((run uninit ops).Unsubscribe id).entries_ i =
      if ((run uninit ops).entries_ i).active = true ∧
          ((run uninit ops).entries_ i).subscriber_id = id then
        { (run uninit ops).entries_ i with active := false }
      else (run uninit ops).entries_ i) ∧
    ∀ id pattern label,
      (((run uninit ops).Subscribe id pattern label).2 = false ↔
        ∀ i, ((run uninit ops).entries_ i).active = true ∧
          ((run uninit ops).entries_ i).subscriber_id ≠ id) ∧
      (((run uninit ops).Subscribe id pattern label).2 = false →
        ((run uninit ops).Subscribe id pattern label).1 = run uninit ops) := by
  have hinv := run_inv uninit ops
  refine ⟨hinv.distinct, hinv.since, ?_, ?_⟩
  · intro id i
    exact Unsubscribe_entry hinv.distinct id i
  · intro id pattern label
    exact Subscribe_fails_iff hinv.distinct id pattern label

/-! ## The width of the counter -/

/-- One subscription to `/`, and `n` dispatches of `/`. -/
def repeated (n : ℕ) : List Op :=
  .Subscribe 1 (ascii "/") (ascii "sub-1") :: List.replicate n (.Dispatch (ascii "/") 0)

theorem slash_matches : oscPatternMatch (some (ascii "/")) (some (ascii "/")) = true := by
  simp [oscPatternMatch, patternMatchImpl, ascii, byte]

/-- Everything behind the subscription is the dispatches. -/
theorem repeated_after {n : ℕ} {before after : List Op} {id : OscSubscriberId}
    {pattern label : List UInt8}
    (h : repeated n = before ++ .Subscribe id pattern label :: after) :
    after = List.replicate n (.Dispatch (ascii "/") 0) := by
  cases before with
  | nil =>
    rw [List.nil_append, repeated, List.cons.injEq] at h
    exact h.2.symm
  | cons op before =>
    rw [List.cons_append, repeated, List.cons.injEq] at h
    have hmem : Op.Subscribe id pattern label ∈ List.replicate n (.Dispatch (ascii "/") 0) := by
      rw [h.2]
      simp
    cases List.eq_of_mem_replicate hmem

/-- The subscription leaves an active entry. -/
theorem run_repeated (uninit : Fin kMaxRoutes → RouteEntry) (n : ℕ) :
    ∃ i, ((run uninit (repeated n)).entries_ i).active = true ∧
      ((run uninit (repeated n)).entries_ i).pattern = ascii "/" := by
  induction n with
  | zero =>
    rcases Subscribe_cases (Inv.new uninit).distinct 1 (ascii "/") (ascii "sub-1") with
      ⟨hfull, -⟩ | ⟨slot, -, -, heq⟩
    · obtain ⟨slot⟩ : Nonempty (Fin kMaxRoutes) := Fin.pos_iff_nonempty.1 (by decide)
      cases (hfull slot).1
    · refine ⟨slot, ?_⟩
      have hrun : run uninit (repeated 0) =
          ((new uninit).Subscribe 1 (ascii "/") (ascii "sub-1")).1 := rfl
      rw [hrun, heq]
      dsimp only
      rw [Function.update_self]
      exact ⟨rfl, by decide⟩
  | succ n ih =>
    obtain ⟨i, hactive, hpattern⟩ := ih
    refine ⟨i, ?_⟩
    have hrun : run uninit (repeated (n + 1)) =
        ((run uninit (repeated n)).Dispatch (ascii "/") 0).1 := by
      rw [repeated, List.replicate_succ', ← List.cons_append, run_snoc]
      rfl
    have htakes : RouteEntry.takes ((run uninit (repeated n)).entries_ i) (ascii "/") = true := by
      rw [RouteEntry.takes, hactive, hpattern, slash_matches]
      rfl
    rw [hrun, Dispatch_entry, if_pos htakes]
    exact ⟨hactive, hpattern⟩

def zeroed (_ : Fin kMaxRoutes) : RouteEntry := ⟨0, [], [], 0, 0, 0, false⟩

/-- **The count is not the number of matches** after `2 ^ 64` of them: it is 0 again. -/
theorem match_count_wraps :
    ¬ ∀ i, ((run zeroed (repeated (2 ^ 64))).entries_ i).active = true →
      ∃ after, Since (repeated (2 ^ 64)) ((run zeroed (repeated (2 ^ 64))).entries_ i) after ∧
        ((run zeroed (repeated (2 ^ 64))).entries_ i).match_count.toNat =
          after.countP (Op.dispatches ((run zeroed (repeated (2 ^ 64))).entries_ i).pattern) := by
  intro h
  obtain ⟨i, hactive, hpattern⟩ := run_repeated zeroed (2 ^ 64)
  obtain ⟨after, hsince, hexact⟩ := h i hactive
  obtain ⟨before, pattern, label, hops, -⟩ := hsince.subscribed
  have hmatches : after.countP (Op.dispatches (ascii "/")) = 2 ^ 64 := by
    rw [repeated_after hops, List.countP_replicate]
    exact if_pos slash_matches
  rw [hpattern, hmatches] at hexact
  have := UInt64.toNat_lt ((run zeroed (repeated (2 ^ 64))).entries_ i).match_count
  omega

end RouteTable

end WKPairDriver.Osc
