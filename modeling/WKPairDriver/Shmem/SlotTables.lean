import Mathlib
import WKPairDriver.Lib.Bytes
import WKPairDriver.Lib.SeqlockTable

/-!
# The driver's slot tables: `InputHealthSnapshotShmem`, `OscRouterStatsShmem`

Two tables of seqlock slots, written by one thread of the driver and read by the overlay.

* `InputHealth.code` — `WriteSlot` and `TryReadSlot` copy whole bodies with `memcpy`.
* `OscRouter.code` — `WriteRoute` stores two strings up to their NUL and five fields;
  `TryReadRoute` copies the whole slot, its generation first.
* `OscRouter.written_carries` — what `WriteRoute` leaves in a slot shows its arguments.
* `slotTables_readForward` — in both tables a read returns a publication of its slot, whole, and
  no earlier one than a read before it.
* `freshRead_wrappedRead` — a slot that was never written is read, and a generation that comes
  round lets a torn body through.
-/

set_option autoImplicit false

namespace WKPairDriver.SlotTables

open Lib Lib.Bytes Lib.SeqlockTable

universe v r

/-- The generations are `uint64_t`. -/
abbrev Generations : ℕ := 64

/-! ## Input health -/

namespace InputHealth

def INPUTHEALTH_SLOT_COUNT : ℕ := 256

variable {n : ℕ} {β : Type v}

/-- `WriteSlot` and `TryReadSlot` of a body of `n` words. -/
def code (n : ℕ) (β : Type v) : Code (Fin n → β) fun _ : Fin n => β where
  stores body := (List.finRange n).map fun i => ⟨i, body i⟩
  copies := (List.finRange n).map some
  copies_all := by simp

/-- `WriteSlot` leaves its argument in the slot. -/
theorem code_written (before body : Fin n → β) : (code n β).written before body = body := by
  funext i
  have hkeys : (((code n β).stores body).map Sigma.fst).Nodup := by
    simpa [code, Function.comp_def] using List.nodup_finRange n
  exact foldl_put_of_mem hkeys (x := ⟨i, body i⟩) (by simp [code]) before

end InputHealth

/-! ## OSC routes -/

namespace OscRouter

def OSC_ROUTER_ROUTE_SLOTS : ℕ := 32

def OSC_ROUTE_ADDR_LEN : ℕ := 64

/-- The cells of an `OscRouterRouteSlot` behind its generation. -/
inductive RouteCell where
  | address_pattern (i : Fin OSC_ROUTE_ADDR_LEN)
  | subscriber_id (i : Fin 32)
  | match_count
  | drop_count
  | last_match_tick
  | active
  | _reserved (i : Fin 7)
deriving DecidableEq

def RouteCell.Value : RouteCell → Type
  | .match_count | .drop_count | .last_match_tick => BitVec 64
  | _ => UInt8

def RouteCell.all : List RouteCell :=
  (List.finRange OSC_ROUTE_ADDR_LEN).map .address_pattern ++
    (List.finRange 32).map .subscriber_id ++
      [.match_count, .drop_count, .last_match_tick, .active] ++ (List.finRange 7).map ._reserved

theorem RouteCell.mem_all (c : RouteCell) : c ∈ RouteCell.all := by
  cases c <;> simp [RouteCell.all]

/-- The arguments of `WriteRoute`; a string is what it points to, or `none` for `nullptr`. -/
structure Route where
  pattern : Option (List UInt8)
  subscriber_id : Option (List UInt8)
  match_count : BitVec 64
  drop_count : BitVec 64
  last_match_tick : BitVec 64
  active : Bool

/-- The text that a field of `dst_size` bytes takes. -/
def fieldText (dst_size : ℕ) (src : Option (List UInt8)) : List UInt8 :=
  match src with
  | none => []
  | some src => (cstr src).take (dst_size - 1)

variable {dst_size : ℕ} [NeZero dst_size]

theorem fieldText_length (src : Option (List UInt8)) :
    (fieldText dst_size src).length < dst_size := by
  have h := NeZero.pos dst_size
  unfold fieldText
  split
  · exact h
  · rw [List.length_take]
    omega

/-- `CopyStrField`: the text byte by byte, and its NUL; what is behind it stays. -/
def copyStrField (src : Option (List UInt8)) : List (Fin dst_size × UInt8) :=
  let text := fieldText dst_size src
  (List.ofFn fun i : Fin text.length => (⟨i, i.isLt.trans (fieldText_length src)⟩, text.get i)) ++
    [(⟨text.length, fieldText_length src⟩, 0)]

instance : NeZero OSC_ROUTE_ADDR_LEN := ⟨by decide⟩

def flag (b : Bool) : UInt8 := if b then 1 else 0

/-- `WriteRoute` between its two bumps of the generation. -/
def writeRoute (route : Route) : List (Σ c : RouteCell, c.Value) :=
  (copyStrField route.pattern).map (fun x => ⟨.address_pattern x.1, x.2⟩) ++
    (copyStrField route.subscriber_id).map (fun x => ⟨.subscriber_id x.1, x.2⟩) ++
    [⟨.match_count, route.match_count⟩, ⟨.drop_count, route.drop_count⟩,
      ⟨.last_match_tick, route.last_match_tick⟩, ⟨.active, flag route.active⟩]

/-- `WriteRoute` and `TryReadRoute`. -/
def code : Code Route RouteCell.Value where
  stores := writeRoute
  copies := none :: RouteCell.all.map some
  copies_all c := List.mem_cons_of_mem _ (List.mem_map_of_mem (RouteCell.mem_all c))

/-! What a write leaves. -/

/-- A field shows a string up to its first NUL, cut to the field. -/
theorem cstr_of_copyStrField {src : Option (List UInt8)} {field : Fin dst_size → UInt8}
    (h : ∀ x ∈ copyStrField src, field x.1 = x.2) :
    cstr (List.ofFn field) = fieldText dst_size src := by
  set text := fieldText dst_size src with htext
  have hlt : text.length < dst_size := fieldText_length src
  have hnul : 0 ∉ text := by
    rw [htext]
    unfold fieldText
    split
    · exact List.not_mem_nil
    · exact fun h0 => nul_notMem_cstr _ (List.mem_of_mem_take h0)
  have hchars : (List.ofFn field).take text.length = text := by
    apply List.ext_getElem (by simp; omega)
    intro i hi hi'
    rw [List.getElem_take, List.getElem_ofFn]
    exact h (⟨i, hi'.trans hlt⟩, text[i]) (List.mem_append_left _ (List.mem_ofFn.2 ⟨⟨i, hi'⟩, rfl⟩))
  have hend : field ⟨text.length, hlt⟩ = 0 :=
    h (⟨text.length, hlt⟩, 0) (List.mem_append_right _ (List.mem_singleton.2 rfl))
  rw [← List.take_append_drop text.length (List.ofFn field), hchars]
  apply cstr_append hnul
  rw [List.head?_drop, List.getElem?_ofFn, dif_pos hlt, hend]
  intro b hb
  exact (Option.some.inj hb).symm

theorem copyStrField_keys_nodup (src : Option (List UInt8)) :
    ((copyStrField src : List (Fin dst_size × UInt8)).map Prod.fst).Nodup := by
  rw [copyStrField, List.map_append, List.nodup_append]
  refine ⟨?_, List.nodup_singleton _, ?_⟩
  · rw [List.map_ofFn, List.nodup_ofFn]
    intro i j hij
    exact Fin.ext (Fin.mk.inj hij)
  · intro i hi j hj hij
    rw [List.map_ofFn, List.mem_ofFn] at hi
    obtain ⟨i', rfl⟩ := hi
    rw [List.map_singleton, List.mem_singleton] at hj
    rw [hj] at hij
    exact absurd (Fin.mk.inj hij) i'.isLt.ne

/-- A slot that shows what `WriteRoute` was given. -/
structure Carries (body : ∀ c : RouteCell, c.Value) (route : Route) : Prop where
  address_pattern : cstr (List.ofFn fun i => body (.address_pattern i)) =
    fieldText OSC_ROUTE_ADDR_LEN route.pattern
  subscriber_id : cstr (List.ofFn fun i => body (.subscriber_id i)) =
    fieldText 32 route.subscriber_id
  match_count : body .match_count = route.match_count
  drop_count : body .drop_count = route.drop_count
  last_match_tick : body .last_match_tick = route.last_match_tick
  active : body .active = flag route.active

theorem writeRoute_keys_nodup (route : Route) : ((writeRoute route).map Sigma.fst).Nodup := by
  have hkeys : (writeRoute route).map Sigma.fst =
      ((copyStrField route.pattern).map Prod.fst).map RouteCell.address_pattern ++
        ((copyStrField route.subscriber_id).map Prod.fst).map RouteCell.subscriber_id ++
          [.match_count, .drop_count, .last_match_tick, .active] := by
    simp [writeRoute, Function.comp_def]
  rw [hkeys]
  refine List.Nodup.append (List.Nodup.append ?_ ?_ ?_) (by decide) ?_
  · exact (copyStrField_keys_nodup _).map fun _ _ h => RouteCell.address_pattern.inj h
  · exact (copyStrField_keys_nodup _).map fun _ _ h => RouteCell.subscriber_id.inj h
  · intro c hc hc'
    obtain ⟨i, -, rfl⟩ := List.mem_map.1 hc
    obtain ⟨j, -, hj⟩ := List.mem_map.1 hc'
    cases hj
  · intro c hc hc'
    rcases List.mem_append.1 hc with hc | hc <;> obtain ⟨i, -, rfl⟩ := List.mem_map.1 hc <;>
      simp at hc'

theorem written_carries (before : ∀ c : RouteCell, c.Value) (route : Route) :
    Carries (code.written before route) route := by
  have hput : ∀ x ∈ writeRoute route, code.written before route x.1 = x.2 := fun x hx =>
    foldl_put_of_mem (writeRoute_keys_nodup route) hx before
  constructor
  · apply cstr_of_copyStrField
    intro x hx
    exact hput ⟨.address_pattern x.1, x.2⟩
      (List.mem_append_left _ (List.mem_append_left _ (List.mem_map_of_mem hx)))
  · apply cstr_of_copyStrField
    intro x hx
    exact hput ⟨.subscriber_id x.1, x.2⟩
      (List.mem_append_left _ (List.mem_append_right _ (List.mem_map_of_mem hx)))
  · exact hput ⟨.match_count, route.match_count⟩ (by simp [writeRoute])
  · exact hput ⟨.drop_count, route.drop_count⟩ (by simp [writeRoute])
  · exact hput ⟨.last_match_tick, route.last_match_tick⟩ (by simp [writeRoute])
  · exact hput ⟨.active, flag route.active⟩ (by simp [writeRoute])

end OscRouter

/-! ## Reads -/

open InputHealth OscRouter

/-- A slot's generation is even before the first write. -/
def Even {N : ℕ} {γ : Type} {α : γ → Type v} (slots : Fin N → Slot Generations α) : Prop :=
  ∀ k, (slots k).generation &&& 1 = 0

section Runs

variable {ρ : Type r} [DecidableEq ρ] {n : ℕ} {β : Type v}

/-- **The slot tables.**  In every run of either table, in which no generation comes round during
    an attempt of a reader, the reads return whole publications and never go back. -/
theorem slotTables_readForward
    {inputs : Fin INPUTHEALTH_SLOT_COUNT → Slot Generations fun _ : Fin n => β}
    {routes : Fin OSC_ROUTER_ROUTE_SLOTS → Slot Generations RouteCell.Value}
    {as : List (Action Generations (Fin n → β) ρ fun _ : Fin n => β)}
    {bs : List (Action Generations Route ρ RouteCell.Value)}
    (hinputs : Even inputs) (hroutes : Even routes)
    (has : AllSteps (step (InputHealth.code n β)) NotWrapped (State.new inputs) as)
    (hbs : AllSteps (step OscRouter.code) NotWrapped (State.new routes) bs) :
    Always (step (InputHealth.code n β))
        (fun s => ReadsForward (InputHealth.code n β) inputs s.log) (State.new inputs) as ∧
      Always (step OscRouter.code) (fun s => ReadsForward OscRouter.code routes s.log)
        (State.new routes) bs :=
  ⟨readsForward (by decide) hinputs has, readsForward (by decide) hroutes hbs⟩

omit [DecidableEq ρ] in
/-- A body read was given to a completed `WriteSlot`, or was in the slot at first. -/
theorem inputRead_written {inputs : Fin INPUTHEALTH_SLOT_COUNT → Slot Generations fun _ : Fin n => β}
    {log : List (Event INPUTHEALTH_SLOT_COUNT (Fin n → β) ρ fun _ : Fin n => β)}
    (h : ReadsForward (InputHealth.code n β) inputs log) {r : ρ} {k : Fin INPUTHEALTH_SLOT_COUNT}
    {body : Fin n → β} (hread : .read r k body ∈ log) :
    body = (inputs k).body ∨ body ∈ writesOf k log := by
  rcases h.read_cases hread with hbody | ⟨before, arg, harg, hbody⟩
  · exact .inl hbody
  · rw [InputHealth.code_written] at hbody
    exact .inr (hbody ▸ harg)

omit [DecidableEq ρ] in
/-- A route read shows the arguments of one completed `WriteRoute`, or is what the slot held at
    first. -/
theorem routeRead_carries {routes : Fin OSC_ROUTER_ROUTE_SLOTS → Slot Generations RouteCell.Value}
    {log : List (Event OSC_ROUTER_ROUTE_SLOTS Route ρ RouteCell.Value)}
    (h : ReadsForward OscRouter.code routes log) {r : ρ} {k : Fin OSC_ROUTER_ROUTE_SLOTS}
    {body : ∀ c : RouteCell, c.Value} (hread : .read r k body ∈ log) :
    body = (routes k).body ∨ ∃ route ∈ writesOf k log, Carries body route := by
  rcases h.read_cases hread with hbody | ⟨before, route, hroute, hbody⟩
  · exact .inl hbody
  · exact .inr ⟨route, hroute, hbody ▸ written_carries before route⟩

end Runs

/-- A slot of two words, and a slot of a route, with nothing in them. -/
def zeroInput : Fin INPUTHEALTH_SLOT_COUNT → Slot Generations fun _ : Fin 2 => ℕ :=
  fun _ => ⟨0, fun _ => 0⟩

theorem zeroInput_even : Even zeroInput := by
  intro k
  show (0 : BitVec 64) &&& 1 = 0
  decide

def zeroRoute : Fin OSC_ROUTER_ROUTE_SLOTS → Slot Generations RouteCell.Value :=
  fun _ => ⟨0, fun c => match c with
    | .match_count | .drop_count | .last_match_tick => (0 : BitVec 64)
    | .address_pattern _ | .subscriber_id _ | .active | ._reserved _ => (0 : UInt8)⟩

/-- A reader that starts before a write, and ends behind it. -/
def readAcrossWrite : List (Action Generations (Fin 2 → ℕ) Unit fun _ : Fin 2 => ℕ) :=
  [.tryRead () 3 ⟨0, fun _ => 9⟩ 8, .reader (), .reader (), .write 3 ![5, 6], .writer, .writer,
    .reader (), .writer, .writer, .reader (), .reader (), .reader (), .reader (), .reader ()]

/-- A route is read, written and read again; a step of a reader or writer that is through does
    nothing. -/
def routeAcrossWrite : List (Action Generations Route Unit RouteCell.Value) :=
  [.tryRead () 5 (zeroRoute ⟨5, by decide⟩) 8] ++ List.replicate 200 (.reader ()) ++
    [.write 5 ⟨some [47, 97], some [98], 3, 1, 7, true⟩] ++ List.replicate 20 .writer ++
    [.tryRead () 5 (zeroRoute ⟨5, by decide⟩) 8] ++ List.replicate 200 (.reader ())

theorem readAcrossWrite_forward :
    Even zeroInput ∧ Even zeroRoute ∧
      AllSteps (step (InputHealth.code 2 ℕ)) NotWrapped (State.new zeroInput) readAcrossWrite ∧
      AllSteps (step OscRouter.code) NotWrapped (State.new zeroRoute) routeAcrossWrite ∧
      Always (step (InputHealth.code 2 ℕ))
        (fun s => ReadsForward (InputHealth.code 2 ℕ) zeroInput s.log) (State.new zeroInput)
        readAcrossWrite ∧
      Always (step OscRouter.code) (fun s => ReadsForward OscRouter.code zeroRoute s.log)
        (State.new zeroRoute) routeAcrossWrite := by
  have hinputs : Even zeroInput := zeroInput_even
  have hroutes : Even zeroRoute := by
    intro k
    show (0 : BitVec 64) &&& 1 = 0
    decide
  have has : AllSteps (step (InputHealth.code 2 ℕ)) NotWrapped (State.new zeroInput)
      readAcrossWrite :=
    notWrapped_of_short (by decide) hinputs Inv.new fun k => by
      show 0 + 14 < 2 ^ 63
      norm_num
  have hbs : AllSteps (step OscRouter.code) NotWrapped (State.new zeroRoute) routeAcrossWrite :=
    notWrapped_of_short (by decide) hroutes Inv.new fun k => by
      show 0 + routeAcrossWrite.length < 2 ^ 63
      simp only [routeAcrossWrite, List.length_append, List.length_cons, List.length_nil,
        List.length_replicate]
      norm_num
  exact ⟨hinputs, hroutes, has, hbs, slotTables_readForward hinputs hroutes has hbs⟩

/-- What is read there: the write's body. -/
example : ((runTo (step (InputHealth.code 2 ℕ)) (State.new zeroInput) readAcrossWrite).map
    fun s => s.log.map fun
      | .wrote k body => (true, k.1, body 0, body 1)
      | .read _ k body => (false, k.1, body 0, body 1)) =
    some [(false, 3, 5, 6), (true, 3, 5, 6)] := by
  decide +kernel

def slot3 : Fin INPUTHEALTH_SLOT_COUNT := ⟨3, by decide⟩

/-- A reader copies one of two words. -/
def halfRead : List (Action Generations (Fin 2 → ℕ) Unit fun _ : Fin 2 => ℕ) :=
  [.tryRead () 3 ⟨0, fun _ => 9⟩ 8, .reader (), .reader ()]

theorem halfRead_copying : ∃ s out,
    runTo (step (InputHealth.code 2 ℕ)) (State.new zeroInput) halfRead = some s ∧ s.writer = .idle ∧
    s.log = [] ∧ s.slots = zeroInput ∧ s.readers () = .copying slot3 7 0 0 [some 1] out ∧
    out.body 0 = 0 :=
  ⟨_, _, rfl, rfl, rfl, rfl, rfl, rfl⟩

/-- It copies the other word, and finds the generation it loaded. -/
theorem halfRead_returns {s : State Generations INPUTHEALTH_SLOT_COUNT (Fin 2 → ℕ) Unit _}
    {out : Slot Generations fun _ : Fin 2 => ℕ}
    (hreader : s.readers () = .copying slot3 7 0 0 [some 1] out)
    (hgeneration : (s.slots slot3).generation = 0) :
    ∃ t body, runTo (step (InputHealth.code 2 ℕ)) s [.reader (), .reader ()] = some t ∧
      t.log = .read () slot3 body :: s.log ∧ body 0 = out.body 0 ∧ body 1 = (s.slots slot3).body 1 := by
  refine ⟨_, put out.body ⟨1, (s.slots slot3).body 1⟩, rfl, ?_, ?_, ?_⟩
  · simp [stepReader, hreader, State.setReader, State.note, hgeneration, Slot.put]
  · rfl
  · rfl

/-- A slot that was never written is read; and a reader that `2 ^ 63` writes overtake in the middle
    of its copy returns a word from before them and a word from behind them. -/
theorem freshRead_wrappedRead :
    (∃ as s body, runTo (step (InputHealth.code 2 ℕ)) (State.new zeroInput) as = some s ∧
      .read () slot3 body ∈ s.log ∧ writesOf slot3 s.log = []) ∧
    ∃ as s body, runTo (step (InputHealth.code 2 ℕ)) (State.new zeroInput) as = some s ∧
      .read () slot3 body ∈ s.log ∧ body ≠ (zeroInput slot3).body ∧ body ∉ writesOf slot3 s.log := by
  obtain ⟨s, out, hrun, hwriter, hlog, hslots, hreader, hout⟩ := halfRead_copying
  constructor
  · obtain ⟨t, body, hrun', hlog', -⟩ := halfRead_returns hreader (by rw [hslots]; rfl)
    refine ⟨halfRead ++ [.reader (), .reader ()], t, body, ?_, ?_, ?_⟩
    · rw [runTo_append, hrun]
      exact hrun'
    · rw [hlog']
      exact List.mem_cons_self
    · rw [hlog', hlog]
      rfl
  · obtain ⟨as, t, hrun', -, hreaders, hgeneration, hbody, hlog'⟩ :=
      runTo_writes (InputHealth.code 2 ℕ) hwriter slot3 ![5, 6] (2 ^ 63)
    obtain ⟨before, hbody⟩ := hbody (by norm_num)
    rw [InputHealth.code_written] at hbody
    have hzero : (t.slots slot3).generation = 0 := by
      rw [hgeneration, hslots]
      decide
    obtain ⟨u, body, hrun'', hlog'', hword, hword'⟩ :=
      halfRead_returns ((congrFun hreaders ()).trans hreader) hzero
    rw [hbody] at hword'
    refine ⟨halfRead ++ (as ++ [.reader (), .reader ()]), u, body, ?_, ?_, ?_, ?_⟩
    · rw [runTo_append, hrun, Option.bind_some, runTo_append, hrun']
      exact hrun''
    · rw [hlog'']
      exact List.mem_cons_self
    · intro h
      rw [h] at hword'
      cases hword'
    · intro h
      rw [hlog'', hlog', hlog] at h
      have hwrote := mem_writesOf.1 h
      simp only [List.append_nil, List.mem_cons, reduceCtorEq, false_or] at hwrote
      have harg := Event.wrote.inj (List.eq_of_mem_replicate hwrote)
      rw [harg.2, hout] at hword
      cases hword

end WKPairDriver.SlotTables
