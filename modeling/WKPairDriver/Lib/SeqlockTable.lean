import Mathlib
import WKPairDriver.Lib.Run

/-!
# Tables of seqlock slots, with counters of `w` bits

A table of `N` slots, each a generation counter of `w` bits in front of a body of cells.  One
writer brackets its stores of some of the cells between two stores of the generation; any number
of readers copy the cells between two loads of it.  Every step is at most one access to the table,
so their interleavings are all sequentially consistent schedules.  The log is the history: the
writes that were completed and the reads that succeeded, the latest first.

* `Code` — which cells a write stores, in which order, and in which order a read copies them.
* `Stable`, `WriterInv`, `ReaderInv` — the invariant of the joint state.
* `step_inv` — every step keeps it, unless a reader is about to find a counter that has come
  round to the value it loaded (`NotWrapped`).
* `Inv.publications` — what is read is what the last completed write left in the slot, so reads
  never go back.
-/

set_option autoImplicit false

namespace Lib.SeqlockTable

universe u v t r
variable {w N : ℕ} {γ : Type u} {α : γ → Type v} {τ : Type t} {ρ : Type r}

structure Slot (w : ℕ) (α : γ → Type v) where
  generation : BitVec w
  body : ∀ c, α c

/-- The stores of a write with an argument, and the copies of a read; `none` is the generation. -/
structure Code (τ : Type t) (α : γ → Type v) where
  stores : τ → List (Σ c, α c)
  copies : List (Option γ)
  copies_all : ∀ c, some c ∈ copies

/-! ## History -/

inductive Event (N : ℕ) (τ : Type t) (ρ : Type r) (α : γ → Type v) where
  | wrote (k : Fin N) (arg : τ)
  | read (r : ρ) (k : Fin N) (body : ∀ c, α c)

/-- The arguments of the completed writes to a slot, the latest first. -/
def writesOf (k : Fin N) : List (Event N τ ρ α) → List τ
  | [] => []
  | .wrote k' arg :: log => if k' = k then arg :: writesOf k log else writesOf k log
  | .read _ _ _ :: log => writesOf k log

theorem mem_writesOf {k : Fin N} {arg : τ} {log : List (Event N τ ρ α)} :
    arg ∈ writesOf k log ↔ .wrote k arg ∈ log := by
  induction log with
  | nil => simp [writesOf]
  | cons e log ih =>
    cases e with
    | wrote k' arg' =>
      rw [writesOf]
      split
      · rename_i hk
        simp [ih, hk]
      · rename_i hk
        simp [ih, Ne.symm hk]
    | read r k' body => simp [writesOf, ih]

theorem writesOf_append (k : Fin N) (later earlier : List (Event N τ ρ α)) :
    writesOf k (later ++ earlier) = writesOf k later ++ writesOf k earlier := by
  induction later with
  | nil => rfl
  | cons e later ih =>
    cases e with
    | wrote k' arg =>
      simp only [List.cons_append, writesOf, ih]
      split <;> rfl
    | read r k' body => exact ih

variable [DecidableEq γ]

/-- Store one cell. -/
def put (body : ∀ c, α c) (x : Σ c, α c) : ∀ c, α c := Function.update body x.1 x.2

def Slot.put (s : Slot w α) (x : Σ c, α c) : Slot w α := { s with body := SeqlockTable.put s.body x }

/-- The body that a write leaves behind. -/
def Code.written (code : Code τ α) (body : ∀ c, α c) (arg : τ) : ∀ c, α c :=
  (code.stores arg).foldl put body

/-! What a row of stores leaves in a cell. -/

theorem foldl_put_of_notMem {xs : List (Σ c, α c)} {c : γ} (hc : c ∉ xs.map Sigma.fst)
    (body : ∀ c, α c) : xs.foldl put body c = body c := by
  induction xs generalizing body with
  | nil => rfl
  | cons x xs ih =>
    rw [List.map_cons, List.mem_cons, not_or] at hc
    rw [List.foldl_cons, ih hc.2]
    exact Function.update_of_ne hc.1 ..

theorem foldl_put_of_mem {xs : List (Σ c, α c)} (hxs : (xs.map Sigma.fst).Nodup) {x : Σ c, α c}
    (hx : x ∈ xs) (body : ∀ c, α c) : xs.foldl put body x.1 = x.2 := by
  induction xs generalizing body with
  | nil => cases hx
  | cons y xs ih =>
    rw [List.map_cons, List.nodup_cons] at hxs
    rw [List.foldl_cons]
    rcases List.mem_cons.1 hx with rfl | hx
    · rw [foldl_put_of_notMem hxs.1]
      exact Function.update_self ..
    · exact ih hxs.2 hx _

/-! ## What is published -/

/-- What a slot holds after some writes, the latest first. -/
def content (code : Code τ α) (first : ∀ c, α c) (args : List τ) : ∀ c, α c :=
  args.foldr (fun arg body => code.written body arg) first

/-- The bodies a slot holds between its completed writes, in order; the one it starts with is
    number 0. -/
def publications (code : Code τ α) (init : Fin N → Slot w α) (k : Fin N)
    (log : List (Event N τ ρ α)) : List (∀ c, α c) :=
  (writesOf k log).reverse.scanl code.written (init k).body

/-- What a slot held at a time is a publication, numbered by the writes complete at that time. -/
theorem publications_getElem (code : Code τ α) (init : Fin N → Slot w α) (k : Fin N)
    (later earlier : List (Event N τ ρ α)) :
    (publications code init k (later ++ earlier))[(writesOf k earlier).length]? =
      some (content code (init k).body (writesOf k earlier)) := by
  have hle : (writesOf k earlier).length ≤ (writesOf k (later ++ earlier)).reverse.length := by
    rw [writesOf_append, List.length_reverse, List.length_append]
    omega
  rw [publications, List.getElem?_scanl, if_pos hle, writesOf_append, List.reverse_append,
    ← List.length_reverse, List.take_left, List.foldl_reverse]
  rfl

/-- Every publication but number 0 is what a completed write left. -/
theorem publications_written {code : Code τ α} {init : Fin N → Slot w α} {k : Fin N}
    {log : List (Event N τ ρ α)} {m : ℕ} {body : ∀ c, α c}
    (h : (publications code init k log)[m + 1]? = some body) :
    ∃ before, ∃ arg ∈ writesOf k log, body = code.written before arg := by
  rw [publications, List.getElem?_succ_scanl] at h
  obtain ⟨before, -, h⟩ := Option.bind_eq_some_iff.1 h
  obtain ⟨arg, harg, hbody⟩ := Option.map_eq_some_iff.1 h
  exact ⟨before, arg, List.mem_reverse.1 (List.mem_of_getElem? harg), hbody.symm⟩

/-- Every read returns a publication of its slot, and a later read of the slot no earlier one. -/
structure ReadsForward (code : Code τ α) (init : Fin N → Slot w α) (log : List (Event N τ ρ α)) :
    Prop where
  /-- The publication that was the latest when the read returned. -/
  whole : ∀ {later r k body earlier}, log = later ++ .read r k body :: earlier →
    (publications code init k log)[(writesOf k earlier).length]? = some body
  forward : ∀ {later r r' k body body' between earlier},
    log = later ++ .read r' k body' :: between ++ .read r k body :: earlier →
      ∃ m m' : ℕ, m ≤ m' ∧ (publications code init k log)[m]? = some body ∧
        (publications code init k log)[m']? = some body'

/-- What is read is what a completed write left, or what the slot held at first. -/
theorem ReadsForward.read_cases {code : Code τ α} {init : Fin N → Slot w α}
    {log : List (Event N τ ρ α)} (h : ReadsForward code init log) {r : ρ} {k : Fin N}
    {body : ∀ c, α c} (hread : .read r k body ∈ log) :
    body = (init k).body ∨ ∃ before, ∃ arg ∈ writesOf k log, body = code.written before arg := by
  obtain ⟨later, earlier, hlog⟩ := List.append_of_mem hread
  have hpub := h.whole hlog
  cases hm : (writesOf k earlier).length with
  | zero =>
    rw [hm, publications, List.getElem?_scanl_zero] at hpub
    exact .inl (Option.some.inj hpub).symm
  | succ m =>
    rw [hm] at hpub
    exact .inr (publications_written hpub)

/-- Every read returned what its slot held then. -/
def ReadsContent (code : Code τ α) (init : Fin N → Slot w α) : List (Event N τ ρ α) → Prop
  | [] => True
  | .wrote _ _ :: log => ReadsContent code init log
  | .read _ k body :: log =>
    body = content code (init k).body (writesOf k log) ∧ ReadsContent code init log

theorem ReadsContent.of_append {code : Code τ α} {init : Fin N → Slot w α}
    {later earlier : List (Event N τ ρ α)} (h : ReadsContent code init (later ++ earlier)) :
    ReadsContent code init earlier := by
  induction later with
  | nil => exact h
  | cons e later ih =>
    cases e with
    | wrote k arg => exact ih h
    | read r k body => exact ih h.2

theorem ReadsContent.readsForward {code : Code τ α} {init : Fin N → Slot w α}
    {log : List (Event N τ ρ α)} (h : ReadsContent code init log) : ReadsForward code init log := by
  have hwhole : ∀ {later r k body earlier}, log = later ++ .read r k body :: earlier →
      (publications code init k log)[(writesOf k earlier).length]? = some body := by
    rintro later r k body earlier rfl
    have hpub := publications_getElem code init k later (.read r k body :: earlier)
    rw [h.of_append.1]
    rw [h.of_append.1] at hpub
    exact hpub
  refine ⟨hwhole, ?_⟩
  intro later r r' k body body' between earlier hlog
  have hlog' : log = later ++ .read r' k body' :: (between ++ .read r k body :: earlier) := by
    rw [hlog, List.append_assoc, List.cons_append]
  refine ⟨_, _, ?_, hwhole hlog, hwhole hlog'⟩
  rw [writesOf_append, List.length_append]
  exact Nat.le_add_left _ _

/-! ## The protocol -/

inductive Writer (w N : ℕ) (τ : Type t) (α : γ → Type v) where
  | idle
  | loaded (k : Fin N) (prev : BitVec w) (arg : τ)
  | storing (k : Fin N) (prev : BitVec w) (arg : τ) (todo : List (Σ c, α c))

/-- A reader; `since` is history, the number of writes to the slot that were complete when the
    reader loaded `g1`. -/
inductive Reader (w N : ℕ) (α : γ → Type v) where
  | idle
  | attempt (k : Fin N) (left : ℕ) (out : Slot w α)
  | copying (k : Fin N) (left : ℕ) (g1 : BitVec w) (since : ℕ) (todo : List (Option γ))
      (out : Slot w α)

structure State (w N : ℕ) (τ : Type t) (ρ : Type r) (α : γ → Type v) where
  slots : Fin N → Slot w α
  writer : Writer w N τ α
  readers : ρ → Reader w N α
  log : List (Event N τ ρ α)

inductive Action (w : ℕ) (τ : Type t) (ρ : Type r) (α : γ → Type v) where
  | write (index : ℕ) (arg : τ)
  | writer
  | tryRead (r : ρ) (index : ℕ) (out : Slot w α) (max_retries : ℕ)
  | reader (r : ρ)

section Protocol

variable [DecidableEq ρ]

namespace State

variable (s : State w N τ ρ α)

def setSlot (k : Fin N) (slot : Slot w α) : State w N τ ρ α :=
  { s with slots := Function.update s.slots k slot }

def setWriter (writer : Writer w N τ α) : State w N τ ρ α := { s with writer := writer }

def setReader (r : ρ) (reader : Reader w N α) : State w N τ ρ α :=
  { s with readers := Function.update s.readers r reader }

def note (e : Event N τ ρ α) : State w N τ ρ α := { s with log := e :: s.log }

end State

/-- The writer's next store. -/
def stepWriter (code : Code τ α) (s : State w N τ ρ α) : State w N τ ρ α :=
  match s.writer with
  | .idle => s
  | .loaded k prev arg =>
    (s.setSlot k { s.slots k with generation := prev + 1 }).setWriter
      (.storing k prev arg (code.stores arg))
  | .storing k prev arg (x :: todo) =>
    (s.setSlot k ((s.slots k).put x)).setWriter (.storing k prev arg todo)
  | .storing k prev arg [] =>
    ((s.setSlot k { s.slots k with generation := prev + 2 }).setWriter .idle).note (.wrote k arg)

/-- The reader's next load. -/
def stepReader (code : Code τ α) (s : State w N τ ρ α) (r : ρ) : State w N τ ρ α :=
  match s.readers r with
  | .idle => s
  | .attempt _ 0 _ => s.setReader r .idle
  | .attempt k (left + 1) out =>
    if (s.slots k).generation &&& 1 ≠ 0 then s.setReader r (.attempt k left out)
    else s.setReader r (.copying k left (s.slots k).generation (writesOf k s.log).length
      code.copies out)
  | .copying k left g1 since (none :: todo) out =>
    s.setReader r (.copying k left g1 since todo { out with generation := (s.slots k).generation })
  | .copying k left g1 since (some c :: todo) out =>
    s.setReader r (.copying k left g1 since todo (out.put ⟨c, (s.slots k).body c⟩))
  | .copying k left g1 _ [] out =>
    if (s.slots k).generation = g1 then (s.setReader r .idle).note (.read r k out.body)
    else s.setReader r (.attempt k left out)

/-- The writer runs one write at a time, and each reader one read; a call with an index outside of
    the table returns. -/
def step (code : Code τ α) (s : State w N τ ρ α) : Action w τ ρ α → Option (State w N τ ρ α)
  | .write index arg =>
    match s.writer with
    | .idle =>
      if h : index < N then
        some (s.setWriter (.loaded ⟨index, h⟩ (s.slots ⟨index, h⟩).generation arg))
      else some s
    | _ => none
  | .writer => some (stepWriter code s)
  | .tryRead r index out max_retries =>
    match s.readers r with
    | .idle =>
      if h : index < N then some (s.setReader r (.attempt ⟨index, h⟩ max_retries out)) else some s
    | _ => none
  | .reader r => some (stepReader code s r)

/-- Nothing under way, over slots with some content. -/
def State.new (slots : Fin N → Slot w α) : State w N τ ρ α := ⟨slots, .idle, fun _ => .idle, []⟩

end Protocol

/-! ## Generations -/

/-- The generation of a slot after `m` bumps. -/
def bumped (g : BitVec w) (m : ℕ) : BitVec w := g + BitVec.ofNat w m

theorem bumped_add (g : BitVec w) (m n : ℕ) : bumped g m + BitVec.ofNat w n = bumped g (m + n) := by
  rw [bumped, bumped, BitVec.ofNat_add, BitVec.add_assoc]

theorem bumped_even {g : BitVec w} (hw : 0 < w) (hg : g &&& 1 = 0) (m : ℕ) :
    bumped g m &&& 1 = 0 ↔ m % 2 = 0 := by
  have hparity : ∀ x : BitVec w, x &&& 1 = 0 ↔ x.toNat % 2 = 0 := by
    intro x
    rw [← BitVec.toNat_inj, BitVec.toNat_and]
    have hone : (1 : BitVec w).toNat = 1 := BitVec.toNat_one hw
    rw [hone, Nat.and_one_is_mod]
    simp
  have hdvd : 2 ∣ 2 ^ w := dvd_pow_self 2 hw.ne'
  rw [hparity] at hg ⊢
  rw [bumped, BitVec.toNat_add, BitVec.toNat_ofNat, Nat.mod_mod_of_dvd _ hdvd, Nat.add_mod, hg,
    Nat.mod_mod_of_dvd _ hdvd]
  omega

theorem bumped_inj {g : BitVec w} (hw : 0 < w) {a b : ℕ} (h : bumped g (2 * a) = bumped g (2 * b)) :
    a ≡ b [MOD 2 ^ (w - 1)] := by
  have hnat := congrArg BitVec.toNat (BitVec.add_right_inj g |>.1 h)
  simp only [BitVec.toNat_ofNat] at hnat
  have hpow : 2 ^ w = 2 * 2 ^ (w - 1) := by
    rw [← Nat.pow_succ']
    congr 1
    omega
  rw [hpow] at hnat
  exact Nat.ModEq.mul_left_cancel' two_ne_zero hnat

/-! ## The invariant -/

section Invariant

variable (code : Code τ α)

/-- No write to the slot is under way: two bumps a completed write, and what the last one left. -/
structure Stable (first slot : Slot w α) (done : List τ) : Prop where
  generation : slot.generation = bumped first.generation (2 * done.length)
  body : slot.body = content code first.body done

/-- One bump more while a write is under way, whose stores to come complete its body. -/
structure Storing (first slot : Slot w α) (done : List τ) (prev : BitVec w) (arg : τ)
    (todo : List (Σ c, α c)) : Prop where
  prev : prev = bumped first.generation (2 * done.length)
  generation : slot.generation = bumped first.generation (2 * done.length + 1)
  body : todo.foldl put slot.body = code.written (content code first.body done) arg

variable (init : Fin N → Slot w α)

def WriterInv (slots : Fin N → Slot w α) (done : Fin N → List τ) : Writer w N τ α → Prop
  | .idle => ∀ k, Stable code (init k) (slots k) (done k)
  | .loaded k prev _ =>
    (∀ k, Stable code (init k) (slots k) (done k)) ∧
      prev = bumped (init k).generation (2 * (done k).length)
  | .storing k prev arg todo =>
    (∀ k', k' ≠ k → Stable code (init k') (slots k') (done k')) ∧
      Storing code (init k) (slots k) (done k) prev arg todo

/-- A reader's copy agrees with the slot as long as no write has been completed or is under way
    since it loaded the generation. -/
def ReaderInv (slots : Fin N → Slot w α) (done : Fin N → List τ) : Reader w N α → Prop
  | .copying k _ g1 since todo out =>
    since ≤ (done k).length ∧ g1 = bumped (init k).generation (2 * since) ∧
      ((done k).length = since → Stable code (init k) (slots k) (done k) →
        ∀ c, some c ∈ todo ∨ out.body c = (slots k).body c)
  | _ => True

/-- The arguments of the completed writes to each slot. -/
def State.done (s : State w N τ ρ α) (k : Fin N) : List τ := writesOf k s.log

structure Inv (s : State w N τ ρ α) : Prop where
  writer : WriterInv code init s.slots s.done s.writer
  readers : ∀ r, ReaderInv code init s.slots s.done (s.readers r)
  log : ReadsContent code init s.log

end Invariant

/-- The reader does not find a generation that has come round to the one it loaded, by a multiple
    of `2 ^ (w - 1)` writes. -/
def NotWrapped (s : State w N τ ρ α) (a : Action w τ ρ α) : Prop :=
  ∀ r, a = .reader r → ∀ k left g1 since out, s.readers r = .copying k left g1 since [] out →
    (s.done k).length ≡ since [MOD 2 ^ (w - 1)] → (s.done k).length = since

section Lemmas

variable {code : Code τ α} {init slots slots' : Fin N → Slot w α} {done done' : Fin N → List τ}

/-- While a write is under way the slot is not stable. -/
theorem Storing.not_stable (hw : 0 < w) {first slot : Slot w α} (heven : first.generation &&& 1 = 0)
    {args : List τ} {prev : BitVec w} {arg : τ} {todo : List (Σ c, α c)}
    (h : Storing code first slot args prev arg todo) : ¬ Stable code first slot args := by
  intro hstable
  have hodd := (bumped_even hw heven (2 * args.length + 1)).not.2 (by omega)
  rw [← h.generation, hstable.generation] at hodd
  exact hodd ((bumped_even hw heven _).2 (by omega))

/-- A slot with an even generation is stable. -/
theorem WriterInv.stable_of_even (hw : 0 < w) (heven : ∀ k, (init k).generation &&& 1 = 0)
    {writer : Writer w N τ α} (h : WriterInv code init slots done writer) {k : Fin N}
    (hk : (slots k).generation &&& 1 = 0) : Stable code (init k) (slots k) (done k) := by
  cases writer with
  | idle => exact h k
  | loaded k' prev arg => exact h.1 k
  | storing k' prev arg todo =>
    by_cases hkk' : k = k'
    · subst hkk'
      rw [h.2.generation, bumped_even hw (heven k)] at hk
      omega
    · exact h.1 k hkk'

/-- The writer leaves a reader's copy right: it completes a write, leaves the slot alone, or is in
    the middle of a write to it. -/
theorem ReaderInv.mono (hle : ∀ k, (done k).length ≤ (done' k).length)
    (hslot : ∀ k, (done' k).length = (done k).length →
      Stable code (init k) (slots' k) (done' k) →
        Stable code (init k) (slots k) (done k) ∧ slots' k = slots k)
    {r : Reader w N α} (h : ReaderInv code init slots done r) :
    ReaderInv code init slots' done' r := by
  cases r with
  | copying k left g1 since todo out =>
    obtain ⟨hsince, hg1, hcopy⟩ := h
    refine ⟨hsince.trans (hle k), hg1, fun hcount hstable => ?_⟩
    have hsame : (done k).length = since := le_antisymm (hcount ▸ hle k) hsince
    obtain ⟨hstable', hk⟩ := hslot k (hcount.trans hsame.symm) hstable
    rw [hk]
    exact hcopy hsame hstable'
  | _ => trivial

end Lemmas

/-! ## The writer's steps -/

section Step

variable {code : Code τ α} {init : Fin N → Slot w α} {s : State w N τ ρ α} (hw : 0 < w)
  (heven : ∀ k, (init k).generation &&& 1 = 0)

include hw heven

/-- A store inside a write to `k`. -/
theorem Inv.store (h : Inv code init s) {k : Fin N} {slot : Slot w α} {prev : BitVec w} {arg : τ}
    {todo : List (Σ c, α c)}
    (hstable : ∀ k', k' ≠ k → Stable code (init k') (s.slots k') (s.done k'))
    (hstoring : Storing code (init k) slot (s.done k) prev arg todo) :
    Inv code init ((s.setSlot k slot).setWriter (.storing k prev arg todo)) := by
  have hself : Function.update s.slots k slot k = slot := Function.update_self ..
  have hother : ∀ k', k' ≠ k → Function.update s.slots k slot k' = s.slots k' :=
    fun k' hk' => Function.update_of_ne hk' ..
  constructor
  · constructor
    · intro k' hk'
      show Stable code (init k') (Function.update s.slots k slot k') (s.done k')
      rw [hother k' hk']
      exact hstable k' hk'
    · show Storing code (init k) (Function.update s.slots k slot k) (s.done k) prev arg todo
      rwa [hself]
  · intro r
    refine ReaderInv.mono (fun _ => le_rfl) ?_ (h.readers r)
    intro k' _ hk'
    by_cases hkk' : k' = k
    · subst hkk'
      exact absurd (hself ▸ hk') (hstoring.not_stable hw (heven k'))
    · exact ⟨hstable k' hkk', hother k' hkk'⟩
  · exact h.log

omit hw heven in
/-- The closing store of a write to `k`. -/
theorem Inv.close (h : Inv code init s) {k : Fin N} {prev : BitVec w} {arg : τ}
    (hstable : ∀ k', k' ≠ k → Stable code (init k') (s.slots k') (s.done k'))
    (hstoring : Storing code (init k) (s.slots k) (s.done k) prev arg []) :
    Inv code init (((s.setSlot k { s.slots k with generation := prev + 2 }).setWriter .idle).note
      (.wrote k arg)) := by
  have hself : writesOf k (.wrote k arg :: s.log) = arg :: s.done k := if_pos rfl
  have hother : ∀ k', k' ≠ k → writesOf k' (.wrote k arg :: s.log) = s.done k' :=
    fun k' hk' => if_neg hk'.symm
  have hslot : ∀ k', k' ≠ k →
      Function.update s.slots k { s.slots k with generation := prev + 2 } k' = s.slots k' :=
    fun k' hk' => Function.update_of_ne hk' ..
  constructor
  · intro k'
    show Stable code (init k') (Function.update s.slots k _ k') (writesOf k' (.wrote k arg :: s.log))
    by_cases hk' : k' = k
    · subst hk'
      rw [hself, Function.update_self]
      constructor
      · show prev + 2 = bumped _ (2 * (s.done k').length + 2)
        rw [hstoring.prev]
        exact bumped_add _ _ 2
      · exact hstoring.body
    · rw [hother k' hk', hslot k' hk']
      exact hstable k' hk'
  · intro r
    refine ReaderInv.mono ?_ ?_ (h.readers r)
    · intro k'
      show _ ≤ (writesOf k' (.wrote k arg :: s.log)).length
      by_cases hk' : k' = k
      · subst hk'
        rw [hself]
        exact Nat.le_succ _
      · rw [hother k' hk']
    · intro k' hcount _
      by_cases hk' : k' = k
      · subst hk'
        have hcount : (writesOf k' (.wrote k' arg :: s.log)).length = (s.done k').length := hcount
        rw [hself] at hcount
        exact absurd hcount (Nat.succ_ne_self _)
      · exact ⟨hstable k' hk', hslot k' hk'⟩
  · exact h.log

theorem stepWriter_inv (h : Inv code init s) : Inv code init (stepWriter code s) := by
  have hwriter := h.writer
  unfold stepWriter
  split
  · exact h
  · rename_i k prev arg hs
    rw [hs] at hwriter
    obtain ⟨hstable, hprev⟩ := hwriter
    apply h.store hw heven (fun k' _ => hstable k')
    refine ⟨hprev, ?_, congrArg (List.foldl put · (code.stores arg)) (hstable k).body⟩
    rw [hprev]
    exact bumped_add _ _ 1
  · rename_i k prev arg x todo hs
    rw [hs] at hwriter
    obtain ⟨hstable, hstoring⟩ := hwriter
    exact h.store hw heven hstable ⟨hstoring.prev, hstoring.generation, hstoring.body⟩
  · rename_i k prev arg hs
    rw [hs] at hwriter
    exact h.close hwriter.1 hwriter.2

/-! ## The readers' steps -/

omit hw heven in
theorem Inv.setReader [DecidableEq ρ] (h : Inv code init s) {r : ρ} {reader : Reader w N α}
    (hreader : ReaderInv code init s.slots s.done reader) : Inv code init (s.setReader r reader) := by
  refine ⟨h.writer, fun r' => ?_, h.log⟩
  show ReaderInv code init s.slots s.done (Function.update s.readers r reader r')
  by_cases hr : r' = r
  · subst hr
    rwa [Function.update_self]
  · rw [Function.update_of_ne hr]
    exact h.readers r'

omit hw heven in
/-- A read that returns what the slot holds. -/
theorem Inv.note (h : Inv code init s) {r : ρ} {k : Fin N} {body : ∀ c, α c}
    (hbody : body = content code (init k).body (s.done k)) :
    Inv code init (s.note (.read r k body)) :=
  ⟨h.writer, h.readers, hbody, h.log⟩

/-- **A read that finds the generation it loaded has copied what the slot holds.** -/
theorem Inv.copied (h : Inv code init s) {r : ρ} {k : Fin N} {left : ℕ} {g1 : BitVec w} {since : ℕ}
    {out : Slot w α} (hr : s.readers r = .copying k left g1 since [] out)
    (hgeneration : (s.slots k).generation = g1) (hwrap : NotWrapped s (.reader r)) :
    out.body = content code (init k).body (s.done k) := by
  have hreader := h.readers r
  rw [hr] at hreader
  obtain ⟨-, hg1, hcopy⟩ := hreader
  have hstable : Stable code (init k) (s.slots k) (s.done k) := by
    apply h.writer.stable_of_even hw heven
    rw [hgeneration, hg1, bumped_even hw (heven k)]
    omega
  have hcount : (s.done k).length = since := by
    apply hwrap r rfl k left g1 since out hr
    apply bumped_inj hw
    rw [← hstable.generation, hgeneration, hg1]
  rw [← hstable.body]
  funext c
  rcases hcopy hcount hstable c with hc | hc
  · cases hc
  · exact hc

theorem stepReader_inv [DecidableEq ρ] (h : Inv code init s) {r : ρ}
    (hwrap : NotWrapped s (.reader r)) : Inv code init (stepReader code s r) := by
  have hreader := h.readers r
  unfold stepReader
  split
  · exact h
  · exact h.setReader trivial
  · split
    · exact h.setReader trivial
    · rename_i hg
      have hstable := h.writer.stable_of_even hw heven (not_not.1 hg)
      exact h.setReader ⟨le_rfl, hstable.generation, fun _ _ c => .inl (code.copies_all c)⟩
  · rename_i hs
    rw [hs] at hreader
    obtain ⟨hsince, hg1, hcopy⟩ := hreader
    refine h.setReader ⟨hsince, hg1, fun hcount hstable c => ?_⟩
    rcases hcopy hcount hstable c with hc | hc
    · exact .inl ((List.mem_cons.1 hc).resolve_left (Option.some_ne_none c))
    · exact .inr hc
  · rename_i c' todo out hs
    rw [hs] at hreader
    obtain ⟨hsince, hg1, hcopy⟩ := hreader
    refine h.setReader ⟨hsince, hg1, fun hcount hstable c => ?_⟩
    by_cases hcc' : c = c'
    · subst hcc'
      exact .inr (Function.update_self ..)
    · rcases hcopy hcount hstable c with hc | hc
      · rcases List.mem_cons.1 hc with hc | hc
        · exact absurd (Option.some.inj hc) hcc'
        · exact .inl hc
      · exact .inr ((Function.update_of_ne hcc' ..).trans hc)
  · rename_i hs
    split
    · rename_i hg
      have hidle : Inv code init (s.setReader r .idle) := h.setReader trivial
      exact hidle.note (h.copied hw heven hs hg hwrap)
    · exact h.setReader trivial

/-- **Every step keeps the invariant**, unless a reader finds a generation that has come round. -/
theorem step_inv [DecidableEq ρ] {t : State w N τ ρ α} {a : Action w τ ρ α} (h : Inv code init s)
    (hwrap : NotWrapped s a) (hstep : step code s a = some t) : Inv code init t := by
  cases a with
  | write index arg =>
    have hwriter := h.writer
    simp only [step] at hstep
    split at hstep
    · rename_i hs
      split at hstep
      · cases hstep
        rw [hs] at hwriter
        exact ⟨⟨hwriter, (hwriter _).generation⟩, h.readers, h.log⟩
      · cases hstep
        exact h
    · cases hstep
  | writer =>
    cases hstep
    exact stepWriter_inv hw heven h
  | tryRead r index out max_retries =>
    simp only [step] at hstep
    split at hstep
    · split at hstep
      · cases hstep
        exact h.setReader trivial
      · cases hstep
        exact h
    · cases hstep
  | reader r =>
    cases hstep
    exact stepReader_inv hw heven h hwrap

omit hw heven in
theorem Inv.new : Inv code init (State.new init : State w N τ ρ α) :=
  ⟨fun _ => ⟨(BitVec.add_zero _).symm, rfl⟩, fun _ => trivial, trivial⟩

/-- **Slots without crashes.**  From slots with even generations, whatever the writer and the
    readers do, every read returns what the last completed write left, and no earlier publication
    than a read before it. -/
theorem readsForward [DecidableEq ρ] {as : List (Action w τ ρ α)}
    (hwrap : AllSteps (step code) NotWrapped (State.new init) as) :
    Always (step code) (fun s => ReadsForward code init s.log) (State.new init) as :=
  Always.of_inv (fun _ _ _ h hc hs => step_inv hw heven h hc hs)
    (fun _ h => h.log.readsForward) Inv.new hwrap

omit hw heven in
/-- A step completes at most one write. -/
theorem step_done_length [DecidableEq ρ] {t : State w N τ ρ α} {a : Action w τ ρ α}
    (hstep : step code s a = some t) (k : Fin N) :
    (t.done k).length ≤ (s.done k).length + 1 := by
  cases a with
  | write index arg =>
    simp only [step] at hstep
    split at hstep
    · split at hstep <;> cases hstep <;> exact Nat.le_succ _
    · cases hstep
  | writer =>
    cases hstep
    unfold stepWriter
    split
    · exact Nat.le_succ _
    · exact Nat.le_succ _
    · exact Nat.le_succ _
    · show (writesOf k (.wrote _ _ :: s.log)).length ≤ _
      rw [writesOf]
      split
      · exact le_rfl
      · exact Nat.le_succ _
  | tryRead r index out max_retries =>
    simp only [step] at hstep
    split at hstep
    · split at hstep <;> cases hstep <;> exact Nat.le_succ _
    · cases hstep
  | reader r =>
    cases hstep
    unfold stepReader
    split <;> try split
    all_goals exact Nat.le_succ _

/-- No generation comes round in fewer than `2 ^ (w - 1)` steps. -/
theorem notWrapped_of_short [DecidableEq ρ] : ∀ {as : List (Action w τ ρ α)}
    {s : State w N τ ρ α}, Inv code init s →
      (∀ k, (s.done k).length + as.length < 2 ^ (w - 1)) → AllSteps (step code) NotWrapped s as
  | [], _, _, _ => trivial
  | a :: as, s, h, hshort => by
    intro t hstep
    have hwrap : NotWrapped s a := by
      intro r _ k left g1 since out hr hmod
      have hreader := h.readers r
      rw [hr] at hreader
      have hk := hshort k
      have hsince := hreader.1
      exact hmod.eq_of_lt_of_lt (by omega) (by omega)
    refine ⟨hwrap, notWrapped_of_short (step_inv hw heven h hwrap hstep) fun k => ?_⟩
    have hdone := step_done_length hstep k
    have hk := hshort k
    rw [List.length_cons] at hk
    omega

end Step

/-! ## A write that nothing interrupts -/

section Alone

variable [DecidableEq ρ] (code : Code τ α)

/-- `t` is `s` after one more write to `k`. -/
structure Wrote (s t : State w N τ ρ α) (k : Fin N) (generation : BitVec w) (body : ∀ c, α c)
    (arg : τ) : Prop where
  slot : t.slots k = ⟨generation, body⟩
  writer : t.writer = .idle
  readers : t.readers = s.readers
  log : t.log = .wrote k arg :: s.log

theorem runTo_writer (s : State w N τ ρ α) (as : List (Action w τ ρ α)) :
    runTo (step code) s (.writer :: as) = runTo (step code) (stepWriter code s) as := rfl

theorem runTo_storing {k : Fin N} {prev : BitVec w} {arg : τ} {todo : List (Σ c, α c)} :
    ∀ {s : State w N τ ρ α}, s.writer = .storing k prev arg todo →
      ∃ t, runTo (step code) s (List.replicate (todo.length + 1) .writer) = some t ∧
        Wrote s t k (prev + 2) (todo.foldl put (s.slots k).body) arg := by
  induction todo with
  | nil =>
    intro s hs
    refine ⟨_, rfl, ?_⟩
    simp only [stepWriter, hs]
    exact ⟨Function.update_self .., rfl, rfl, rfl⟩
  | cons x todo ih =>
    intro s hs
    obtain ⟨t, ht, hslot, hwriter, hreaders, hlog⟩ := ih (s := (s.setSlot k
      ((s.slots k).put x)).setWriter (.storing k prev arg todo)) rfl
    refine ⟨t, ?_, ?_, hwriter, hreaders, hlog⟩
    · rw [List.length_cons, List.replicate_succ, runTo_writer]
      simpa only [stepWriter, hs] using ht
    · rw [hslot]
      simp [State.setSlot, State.setWriter, Slot.put]

/-- A write from a state without one takes as many steps as it has stores, and three. -/
theorem runTo_write {s : State w N τ ρ α} (hs : s.writer = .idle) (k : Fin N) (arg : τ) :
    ∃ t, runTo (step code) s
        (.write k.1 arg :: List.replicate ((code.stores arg).length + 2) .writer) = some t ∧
      Wrote s t k ((s.slots k).generation + 2) (code.written (s.slots k).body arg) arg := by
  set u := (s.setSlot k ⟨(s.slots k).generation + 1, (s.slots k).body⟩).setWriter
    (.storing k (s.slots k).generation arg (code.stores arg)) with hu
  obtain ⟨t, ht, hslot, hwriter, hreaders, hlog⟩ := runTo_storing code (s := u) rfl
  refine ⟨t, ?_, ?_, hwriter, hreaders, hlog⟩
  · have hcall : step code s (.write k.1 arg) =
        some (s.setWriter (.loaded k (s.slots k).generation arg)) := by
      simp only [step, hs, k.isLt, dite_true]
    rw [runTo, hcall, List.replicate_succ]
    exact ht
  · rw [hslot, hu]
    simp [State.setSlot, State.setWriter, Code.written]

/-- Any number of writes with one argument. -/
theorem runTo_writes {s : State w N τ ρ α} (hs : s.writer = .idle) (k : Fin N) (arg : τ) (m : ℕ) :
    ∃ as t, runTo (step code) s as = some t ∧ t.writer = .idle ∧ t.readers = s.readers ∧
      (t.slots k).generation = bumped (s.slots k).generation (2 * m) ∧
      (0 < m → ∃ before, (t.slots k).body = code.written before arg) ∧
      t.log = List.replicate m (.wrote k arg) ++ s.log := by
  induction m with
  | zero => exact ⟨[], s, rfl, hs, rfl, (BitVec.add_zero _).symm,
      fun h => absurd h (Nat.lt_irrefl 0), rfl⟩
  | succ m ih =>
    obtain ⟨as, t, hrun, hwriter, hreaders, hgeneration, -, hlog⟩ := ih
    obtain ⟨t', hrun', hslot', hwriter', hreaders', hlog'⟩ := runTo_write code hwriter k arg
    refine ⟨as ++ (.write k.1 arg :: List.replicate ((code.stores arg).length + 2) .writer), t', ?_,
      hwriter', hreaders'.trans hreaders, ?_, fun _ => ?_, ?_⟩
    · rw [runTo_append, hrun]
      exact hrun'
    · rw [hslot', hgeneration]
      exact bumped_add _ _ 2
    · exact ⟨_, congrArg Slot.body hslot'⟩
    · rw [hlog', hlog]
      rfl

end Alone

end Lib.SeqlockTable
