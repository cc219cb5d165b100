import Mathlib

/-!
# The monotone chain

Andrew's scan over a stack: a point is pushed after the points of the stack are popped at which the
boundary would not turn left.  `turn a b c` says that the way from `a` over `b` to `c` turns left,
`lt` is the order in which the points come.  Stacks have their top first.

* `Turns` — what the scan needs of an order and of left turns.
* `Chain.foldl_push` — along a sorted list the stack stays sorted, and every three of its points
  turn left.
* `hull_triplewise` — every three points of the hull turn left.
-/

set_option autoImplicit false

namespace Lib.MonotoneChain

universe u
variable {α : Type u}

/-! ## The scan -/

section Scan

variable (turn : α → α → α → Prop) [∀ a b c, Decidable (turn a b c)]

/-- Pop while there are more than `floor` points and the top is no left turn on the way to `p`. -/
def popTurns (floor : ℕ) (p : α) : List α → List α
  | [] => []
  | [q] => [q]
  | q :: r :: rest =>
    if floor < rest.length + 2 ∧ ¬ turn r q p then popTurns floor p (r :: rest)
    else q :: r :: rest

def push (floor : ℕ) (stack : List α) (p : α) : List α := p :: popTurns turn floor p stack

/-- The lower hull from the first point to the last and on top of it the upper one back, without
    the first point that closes it.  Three points or fewer are returned as they are. -/
def hull (points : List α) : List α :=
  if points.length ≤ 3 then points
  else
    let lower := points.foldl (push turn 1) []
    (points.reverse.foldl (push turn lower.length) lower).tail.reverse

end Scan

/-! ## Left turns -/

/-- An order of the plane and its left turns. -/
structure Turns (lt : α → α → Prop) (turn : α → α → α → Prop) : Prop where
  trans : ∀ {a b c}, lt a b → lt b c → lt a c
  irrefl : ∀ {a b}, ¬ turn a a b
  rotate : ∀ {a b c}, turn a b c → turn b c a
  /-- Two left turns in a row make one. -/
  extend : ∀ {a b c d}, lt a b → lt b c → lt c d → turn a b c → turn b c d →
    turn a b d ∧ turn a c d
  /-- A point above the way from `p` to `q` is above every left-turning way between them. -/
  above : ∀ {p q a b u}, lt p u → lt u q → turn p q u → lt a b → (a = p ∨ turn p a b) →
    (b = q ∨ lt b q ∧ turn a b q) → turn a b u

/-- A sorted stack, every three points of which turn left. -/
structure Chain (lt : α → α → Prop) (turn : α → α → α → Prop) (stack : List α) : Prop where
  sorted : stack.Pairwise fun b a => lt a b
  convex : stack.Triplewise fun c b a => turn a b c

section Rules

variable {lt : α → α → Prop} {turn : α → α → α → Prop} [∀ a b c, Decidable (turn a b c)]

variable (turn) in
/-- The stack that is left is a part of the old one with the same bottom, and on the way from it to
    the new point there is a left turn. -/
theorem popTurns_spec (p : α) : ∀ stack : List α, stack ≠ [] →
    ∃ above, stack = above ++ popTurns turn 1 p stack ∧ popTurns turn 1 p stack ≠ [] ∧
      ∀ q r rest, popTurns turn 1 p stack = q :: r :: rest → turn r q p
  | [], h => absurd rfl h
  | [q], _ => ⟨[], rfl, List.cons_ne_nil _ _, fun q' r rest h => by simp [popTurns] at h⟩
  | q :: r :: rest, _ => by
    unfold popTurns
    split_ifs with hpop
    · obtain ⟨above, hsplit, hne, hturn⟩ := popTurns_spec p (r :: rest) (List.cons_ne_nil _ _)
      refine ⟨q :: above, ?_, hne, hturn⟩
      rw [List.cons_append, ← hsplit]
    · refine ⟨[], rfl, List.cons_ne_nil _ _, fun q' r' rest' h => ?_⟩
      obtain ⟨rfl, htail⟩ := List.cons.inj h
      obtain ⟨rfl, -⟩ := List.cons.inj htail
      rw [not_and_not_right] at hpop
      exact hpop (by omega)

/-- **One push.** -/
theorem Chain.push (ht : Turns lt turn) {stack : List α} {p : α} (h : Chain lt turn stack)
    (hne : stack ≠ []) (hp : ∀ q ∈ stack, lt q p) : Chain lt turn (push turn 1 stack p) := by
  obtain ⟨above, hsplit, hleft, hturn⟩ := popTurns_spec turn p stack hne
  unfold MonotoneChain.push
  generalize popTurns turn 1 p stack = left at hsplit hleft hturn
  have hsuffix : Chain lt turn left := by
    subst hsplit
    exact ⟨(List.pairwise_append.1 h.sorted).2.1, (List.triplewise_append.1 h.convex).2.1⟩
  have hlt : ∀ q ∈ left, lt q p := by
    intro q hq
    apply hp
    rw [hsplit]
    exact List.mem_append_right _ hq
  refine ⟨List.pairwise_cons.2 ⟨hlt, hsuffix.sorted⟩, List.triplewise_cons.2 ⟨?_, hsuffix.convex⟩⟩
  match left, hsuffix, hlt, hturn with
  | [], _, _, _ => exact List.Pairwise.nil
  | [q], _, _, _ => exact List.pairwise_singleton _ _
  | q :: r :: rest, hsuffix, hlt, hturn =>
    have hqp := hlt q List.mem_cons_self
    obtain ⟨hbelow, hsorted⟩ := List.pairwise_cons.1 hsuffix.sorted
    obtain ⟨hconvex, -⟩ := List.triplewise_cons.1 hsuffix.convex
    -- every way from below over the top to the new point turns left
    have htop : ∀ a ∈ r :: rest, turn a q p := by
      intro a ha
      rcases List.mem_cons.1 ha with rfl | ha
      · exact hturn q _ rest rfl
      · exact (ht.extend ((List.pairwise_cons.1 hsorted).1 a ha) (hbelow r List.mem_cons_self) hqp
          ((List.pairwise_cons.1 hconvex).1 a ha) (hturn q r rest rfl)).2
    refine List.pairwise_cons.2 ⟨htop, ?_⟩
    refine (hsorted.and hconvex).imp_of_mem ?_
    intro b a hb ha hab
    exact (ht.extend hab.1 (hbelow b hb) hqp hab.2 (htop b hb)).1

variable (turn) in
/-- A push keeps the bottom. -/
theorem push_bottom (above : List α) (p x : α) :
    ∃ mid, push turn 1 (above ++ [p]) x = x :: (mid ++ [p]) := by
  obtain ⟨popped, hsplit, hne, -⟩ :=
    popTurns_spec turn x (above ++ [p]) (List.append_ne_nil_of_right_ne_nil _ (by simp))
  unfold push
  obtain ⟨mid, bottom, hleft⟩ := (List.eq_nil_or_concat' _).resolve_left hne
  rw [hleft] at hsplit ⊢
  rw [← List.append_assoc] at hsplit
  obtain ⟨-, hbottom⟩ := List.append_inj' hsplit rfl
  exact ⟨mid, by rw [List.singleton_inj.1 hbottom]⟩

/-- **The scan of a sorted list** ends with its last point on top of a chain. -/
theorem Chain.foldl_push (ht : Turns lt turn) {p q : α} : ∀ {l above : List α},
    Chain lt turn (above ++ [p]) → (∀ x ∈ above ++ [p], ∀ y ∈ l ++ [q], lt x y) →
    (l ++ [q]).Pairwise lt →
    ∃ mid, (l ++ [q]).foldl (MonotoneChain.push turn 1) (above ++ [p]) = q :: (mid ++ [p]) ∧
      Chain lt turn (q :: (mid ++ [p]))
  | [], above, hchain, hlt, _ => by
    have hpush := hchain.push ht (by simp) fun x hx => hlt x hx q List.mem_cons_self
    obtain ⟨mid, hmid⟩ := push_bottom turn above p q
    exact ⟨mid, hmid, hmid ▸ hpush⟩
  | x :: l, above, hchain, hlt, hsorted => by
    have hpush := hchain.push ht (by simp) fun y hy => hlt y hy x List.mem_cons_self
    obtain ⟨mid, hmid⟩ := push_bottom turn above p x
    obtain ⟨hx, hsorted⟩ := List.pairwise_cons.1 hsorted
    rw [List.cons_append, List.foldl_cons, hmid]
    rw [hmid] at hpush
    refine @Chain.foldl_push ht p q l (x :: mid) hpush ?_ hsorted
    intro y hy z hz
    rcases List.mem_cons.1 hy with rfl | hy
    · exact hx z hz
    · exact ht.trans ((List.pairwise_cons.1 hpush.sorted).1 y hy) (hx z hz)

/-- With a floor under the stack, what is below stays. -/
theorem popTurns_floor (below : List α) (p : α) : ∀ stack : List α, stack ≠ [] →
    popTurns turn (below.length + 1) p (stack ++ below) = popTurns turn 1 p stack ++ below
  | [], h => absurd rfl h
  | [q], _ => by
    cases below with
    | nil => rfl
    | cons r rest => simp [popTurns]
  | q :: r :: rest, _ => by
    have ih := popTurns_floor below p (r :: rest) (List.cons_ne_nil _ _)
    have hfloor : below.length + 1 < (rest ++ below).length + 2 ↔ 1 < rest.length + 2 := by
      rw [List.length_append]
      omega
    simp only [popTurns, List.cons_append, hfloor] at ih ⊢
    split_ifs with hpop
    · exact ih
    · rfl

theorem foldl_push_floor (below : List α) : ∀ (l : List α) {stack : List α}, stack ≠ [] →
    l.foldl (push turn (below.length + 1)) (stack ++ below) =
      l.foldl (push turn 1) stack ++ below
  | [], _, _ => rfl
  | x :: l, stack, hne => by
    rw [List.foldl_cons, List.foldl_cons, push, popTurns_floor below x stack hne,
      ← List.cons_append]
    exact foldl_push_floor below l (List.cons_ne_nil _ _)

end Rules

/-! ## The hull -/

section Hull

theorem popTurns_suffix (turn : α → α → α → Prop) [∀ a b c, Decidable (turn a b c)] (floor : ℕ)
    (p : α) : ∀ stack, popTurns turn floor p stack <:+ stack
  | [] => List.suffix_rfl
  | [q] => List.suffix_rfl
  | q :: r :: rest => by
    unfold popTurns
    split_ifs
    · exact (popTurns_suffix turn floor p (r :: rest)).trans (List.suffix_cons _ _)
    · exact List.suffix_rfl

theorem foldl_push_subset (turn : α → α → α → Prop) [∀ a b c, Decidable (turn a b c)]
    (floor : ℕ) : ∀ (l stack : List α), l.foldl (push turn floor) stack ⊆ l ++ stack
  | [], stack => List.Subset.refl _
  | p :: l, stack => by
    refine List.Subset.trans (foldl_push_subset turn floor l (push turn floor stack p)) ?_
    intro q hq
    simp only [push, List.mem_append, List.mem_cons] at hq ⊢
    rcases hq with hq | hq | hq
    · exact .inl (.inr hq)
    · exact .inl (.inl hq)
    · exact .inr ((popTurns_suffix turn floor p stack).subset hq)

/-- The hull is among the points. -/
theorem hull_subset (turn : α → α → α → Prop) [∀ a b c, Decidable (turn a b c)]
    (points : List α) : hull turn points ⊆ points := by
  unfold hull
  dsimp only
  split_ifs
  · exact List.Subset.refl _
  · intro q hq
    have hstack := foldl_push_subset turn _ _ _ (List.mem_of_mem_tail (List.mem_reverse.1 hq))
    rcases List.mem_append.1 hstack with hmem | hmem
    · exact List.mem_reverse.1 hmem
    · simpa using foldl_push_subset turn _ _ _ hmem

variable {lt : α → α → Prop} {turn : α → α → α → Prop}

/-- Every edge between the ends of a chain has a point above the chain to its left. -/
theorem Turns.pairwise_above (ht : Turns lt turn) {p q u : α} {l : List α}
    (hsorted : (p :: l ++ [q]).Pairwise lt) (hconvex : (p :: l ++ [q]).Triplewise turn)
    (hpu : lt p u) (huq : lt u q) (hu : turn p q u) :
    (p :: l ++ [q]).Pairwise fun a b => turn a b u := by
  have hfirst : (p :: l ++ [q]).Pairwise fun a b => a = p ∨ turn p a b := by
    rw [List.cons_append, List.triplewise_cons] at hconvex
    exact List.pairwise_cons.2 ⟨fun _ _ => .inl rfl, hconvex.1.imp .inr⟩
  have hlast : (p :: l ++ [q]).Pairwise fun a b => b = q ∨ lt b q ∧ turn a b q := by
    obtain ⟨-, -, hlt⟩ := List.pairwise_append.1 hsorted
    obtain ⟨-, -, -, hturn⟩ := List.triplewise_append.1 hconvex
    rw [List.pairwise_append]
    refine ⟨?_, List.pairwise_singleton _ _, fun a _ b hb => .inl (List.mem_singleton.1 hb)⟩
    refine (hturn q List.mem_cons_self).imp_of_mem ?_
    intro a b _ hb hab
    exact .inr ⟨hlt b hb q List.mem_cons_self, hab⟩
  refine ((hsorted.and hfirst).and hlast).imp ?_
  rintro a b ⟨⟨hab, ha⟩, hb⟩
  exact ht.above hpu huq hu hab ha hb

/-- **A chain and the one back above it** turn left everywhere. -/
theorem triplewise_join (ht : Turns lt turn) (ht' : Turns (fun a b => lt b a) turn) {p q : α}
    {lower upper : List α} (hlower : (p :: lower ++ [q]).Pairwise lt)
    (hlower' : (p :: lower ++ [q]).Triplewise turn)
    (hupper : (q :: upper ++ [p]).Pairwise fun a b => lt b a)
    (hupper' : (q :: upper ++ [p]).Triplewise turn) :
    (p :: lower ++ [q] ++ upper).Triplewise turn := by
  -- both ends with a point in between turn left, along either chain
  have hbetween : ∀ {p q : α} {l : List α}, (p :: l ++ [q]).Triplewise turn → ∀ a ∈ l,
      turn p a q := by
    intro p q l h a ha
    rw [List.cons_append, List.triplewise_cons, List.pairwise_append] at h
    exact h.1.2.2 a ha q List.mem_cons_self
  obtain ⟨hq, hsorted⟩ := List.pairwise_cons.1 hupper
  obtain ⟨hp, hsorted'⟩ := List.pairwise_cons.1 hlower
  obtain ⟨hqturn, htriples⟩ := List.triplewise_cons.1 hupper'
  have hpturn := (List.triplewise_append.1 htriples).2.2.2 p List.mem_cons_self
  refine List.triplewise_append.2 ⟨hlower', (List.triplewise_append.1 htriples).1, ?_, ?_⟩
  · intro a ha
    rw [List.mem_append, List.mem_cons, List.mem_singleton] at ha
    rcases ha with (rfl | ha) | rfl
    · exact hpturn.imp fun h => ht.rotate (ht.rotate h)
    · have habove := ht'.pairwise_above hupper hupper'
        ((List.pairwise_append.1 hsorted').2.2 a ha q List.mem_cons_self)
        (hp a (List.mem_append_left _ ha)) (ht.rotate (ht.rotate (hbetween hlower' a ha)))
      have hinner := (List.pairwise_append.1 (List.pairwise_cons.1 habove).2).1
      exact hinner.imp fun h => ht.rotate (ht.rotate h)
    · exact (List.pairwise_append.1 hqturn).1
  · intro u hu
    exact ht.pairwise_above hlower hlower'
      ((List.pairwise_append.1 hsorted).2.2 u hu p List.mem_cons_self)
      (hq u (List.mem_append_left _ hu)) (ht.rotate (ht.rotate (hbetween hupper' u hu)))

variable [∀ a b c, Decidable (turn a b c)]

/-- **The hull.** Of more than three sorted points, every three of the hull turn left. -/
theorem hull_triplewise (ht : Turns lt turn) (ht' : Turns (fun a b => lt b a) turn)
    {points : List α} (hsorted : points.Pairwise lt) (hlen : 3 < points.length) :
    (hull turn points).Triplewise turn := by
  obtain ⟨p, points, rfl⟩ := List.exists_cons_of_length_pos (by omega : 0 < points.length)
  obtain ⟨l, q, rfl⟩ := (List.eq_nil_or_concat' points).resolve_left (by rintro rfl; simp at hlen)
  obtain ⟨hp, hlq⟩ := List.pairwise_cons.1 hsorted
  obtain ⟨lower, hlower, hchain⟩ := @Chain.foldl_push _ _ _ _ ht p q l []
    ⟨List.pairwise_singleton _ _, List.triplewise_singleton _ _⟩
    (fun x hx y hy => by rw [List.mem_singleton.1 hx]; exact hp y hy) hlq
  -- the scan back starts with the last point once more, and pops it again
  obtain ⟨l', x, hl⟩ := (List.eq_nil_or_concat' l).resolve_left (by rintro rfl; simp at hlen)
  have hback : (p :: (l ++ [q])).reverse.foldl (push turn 1) [q] =
      (l.reverse ++ [p]).foldl (push turn 1) ([] ++ [q]) := by
    rw [hl]
    simp [push, popTurns, ht.irrefl]
  have hreverse : (q :: (l.reverse ++ [p])).Pairwise fun a b => lt b a := by
    have : (p :: (l ++ [q])).reverse.Pairwise fun a b => lt b a := List.pairwise_reverse.2 hsorted
    simpa using this
  obtain ⟨hq, hlp⟩ := List.pairwise_cons.1 hreverse
  obtain ⟨upper, hupper, hchain'⟩ := @Chain.foldl_push _ _ _ _ ht' q p l.reverse []
    ⟨List.pairwise_singleton _ _, List.triplewise_singleton _ _⟩
    (fun x hx y hy => by rw [List.mem_singleton.1 hx]; exact hq y hy) hlp
  have hhull : hull turn (p :: (l ++ [q])) = p :: lower.reverse ++ [q] ++ upper.reverse := by
    unfold hull
    rw [if_neg (by omega)]
    dsimp only
    have hfirst : (p :: (l ++ [q])).foldl (push turn 1) [] = [q] ++ (lower ++ [p]) := hlower
    have hfloor : ([q] ++ (lower ++ [p])).length = (lower ++ [p]).length + 1 := by simp
    rw [hfirst, hfloor, foldl_push_floor _ _ (List.cons_ne_nil _ _), hback, hupper]
    simp
  rw [hhull]
  apply triplewise_join ht ht'
  · have : (q :: (lower ++ [p])).reverse.Pairwise lt := List.pairwise_reverse.2 hchain.sorted
    simpa using this
  · have : (q :: (lower ++ [p])).reverse.Triplewise turn :=
      List.triplewise_reverse.2 hchain.convex
    simpa using this
  · have : (p :: (upper ++ [q])).reverse.Pairwise fun a b => lt b a :=
      List.pairwise_reverse.2 hchain'.sorted
    simpa using this
  · have : (p :: (upper ++ [q])).reverse.Triplewise turn :=
      List.triplewise_reverse.2 hchain'.convex
    simpa using this

end Hull

end Lib.MonotoneChain
