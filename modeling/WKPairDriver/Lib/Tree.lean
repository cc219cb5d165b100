import Mathlib

/-!
# Trees of named entries

A directory with its files, or a registry key with its values: leaves with a content, and nodes
with named children.

* `Tree.get_put_self`, `Tree.get_put_of_disjoint`, `Tree.get_put_append` — what is found after an
  entry was put in place, at its path, away from it and above it.
* `Tree.get_remove_of_disjoint`, `Tree.get_remove_append` — the same after a removal.
* `Tree.copyUpTo_of_size_le` — a copy that may do one operation for each entry is the tree.
-/

set_option autoImplicit false

namespace Lib

mutual

inductive Tree (ν β : Type) where
  | leaf (content : β)
  | node (children : Forest ν β)

/-- The children of a node, in the order in which they are listed. -/
inductive Forest (ν β : Type) where
  | nil
  | cons (name : ν) (tree : Tree ν β) (rest : Forest ν β)

end

variable {ν β : Type}

/-! ## Children -/

namespace Forest

section Names
variable [DecidableEq ν]

def find? (name : ν) : Forest ν β → Option (Tree ν β)
  | .nil => none
  | .cons n t rest => if n = name then some t else rest.find? name

/-- Replaces the child of this name, or adds one. -/
def assign (name : ν) (x : Tree ν β) : Forest ν β → Forest ν β
  | .nil => .cons name x .nil
  | .cons n t rest => if n = name then .cons n x rest else .cons n t (rest.assign name x)

def erase (name : ν) : Forest ν β → Forest ν β
  | .nil => .nil
  | .cons n t rest => if n = name then rest.erase name else .cons n t (rest.erase name)

theorem find?_assign (name n : ν) (x : Tree ν β) : ∀ cs : Forest ν β,
    (cs.assign name x).find? n = if n = name then some x else cs.find? n
  | .nil => by
    rw [assign, find?, find?]
    by_cases hn : n = name
    · rw [if_pos hn.symm, if_pos hn]
    · rw [if_neg (Ne.symm hn), if_neg hn, find?]
  | .cons m t rest => by
    rw [assign]
    by_cases hm : m = name
    · rw [if_pos hm, find?, find?, hm]
      by_cases hn : n = name
      · rw [if_pos hn.symm, if_pos hn]
      · rw [if_neg (Ne.symm hn), if_neg hn, if_neg (Ne.symm hn)]
    · rw [if_neg hm, find?, find?, find?_assign name n x rest]
      by_cases hmn : m = n
      · rw [if_pos hmn, if_pos hmn, if_neg (hmn ▸ hm)]
      · rw [if_neg hmn, if_neg hmn]

theorem find?_erase (name n : ν) : ∀ cs : Forest ν β,
    (cs.erase name).find? n = if n = name then none else cs.find? n
  | .nil => by rw [erase, find?, ite_self]
  | .cons m t rest => by
    rw [erase]
    by_cases hm : m = name
    · rw [if_pos hm, find?_erase name n rest, find?, hm]
      by_cases hn : n = name
      · rw [if_pos hn, if_pos hn]
      · rw [if_neg hn, if_neg hn, if_neg (Ne.symm hn)]
    · rw [if_neg hm, find?, find?, find?_erase name n rest]
      by_cases hmn : m = n
      · rw [if_pos hmn, if_pos hmn, if_neg (hmn ▸ hm)]
      · rw [if_neg hmn, if_neg hmn]

end Names

end Forest

namespace Tree

section Paths
variable [DecidableEq ν]

/-! ## Paths -/

def get : Tree ν β → List ν → Option (Tree ν β)
  | t, [] => some t
  | .leaf _, _ :: _ => none
  | .node cs, n :: p => (cs.find? n).bind fun t => get t p

/-- Puts `x` at a path, in place of what is there; above it nothing is created. -/
def put (x : Tree ν β) : Tree ν β → List ν → Tree ν β
  | _, [] => x
  | .leaf b, _ :: _ => .leaf b
  | .node cs, n :: p =>
    match cs.find? n with
    | some t => .node (cs.assign n (put x t p))
    | none => if p = [] then .node (cs.assign n x) else .node cs

def remove : Tree ν β → List ν → Tree ν β
  | t, [] => t
  | .leaf b, _ :: _ => .leaf b
  | .node cs, n :: p =>
    match cs.find? n with
    | some t => if p = [] then .node (cs.erase n) else .node (cs.assign n (remove t p))
    | none => .node cs

/-- Neither path leads to the other. -/
def Disjoint (p q : List ν) : Prop := ¬ p <+: q ∧ ¬ q <+: p

instance decidableDisjoint (p q : List ν) : Decidable (Disjoint p q) :=
  inferInstanceAs (Decidable (_ ∧ _))

omit [DecidableEq ν] in
theorem Disjoint.of_cons {n : ν} {p q : List ν} (h : Disjoint (n :: p) (n :: q)) : Disjoint p q :=
  ⟨fun hp => h.1 (List.cons_prefix_cons.2 ⟨rfl, hp⟩),
    fun hq => h.2 (List.cons_prefix_cons.2 ⟨rfl, hq⟩)⟩

@[simp] theorem get_nil (t : Tree ν β) : t.get [] = some t := by
  cases t <;> rfl

theorem get_append : ∀ (t : Tree ν β) (p q : List ν),
    t.get (p ++ q) = (t.get p).bind fun u => u.get q
  | t, [], q => by rw [List.nil_append, get, Option.bind_some]
  | .leaf b, _ :: _, _ => rfl
  | .node cs, n :: p, q => by
    rw [List.cons_append, get, get]
    cases cs.find? n with
    | none => rfl
    | some t => exact get_append t p q

/-- A node with children is found at the path. -/
def IsNode (t : Tree ν β) (p : List ν) : Prop := ∃ cs, t.get p = some (.node cs)

theorem isNode_of_get {t u : Tree ν β} {p : List ν} {n : ν} (h : t.get (p ++ [n]) = some u) :
    t.IsNode p := by
  rw [get_append] at h
  obtain ⟨v, hv, h⟩ := Option.bind_eq_some_iff.1 h
  cases v with
  | leaf b => cases h
  | node cs => exact ⟨cs, hv⟩

/-- What is put below a path is put into what stands there. -/
theorem get_put_append (x : Tree ν β) : ∀ (t u : Tree ν β) (q r : List ν), t.get q = some u →
    (put x t (q ++ r)).get q = some (put x u r)
  | t, u, [], r, h => by
    rw [get] at h
    rw [List.nil_append, get, Option.some.inj h]
  | .leaf b, _, _ :: _, _, h => by cases h
  | .node cs, u, n :: q, r, h => by
    rw [get] at h
    obtain ⟨t, ht, h⟩ := Option.bind_eq_some_iff.1 h
    have hput : put x (.node cs) (n :: q ++ r) = .node (cs.assign n (put x t (q ++ r))) := by
      rw [List.cons_append, put, ht]
    rw [hput, get, Forest.find?_assign, if_pos rfl]
    exact get_put_append x t u q r h

theorem get_remove_append : ∀ (t u : Tree ν β) (q r : List ν), r ≠ [] → t.get q = some u →
    (t.remove (q ++ r)).get q = some (u.remove r)
  | t, u, [], r, _, h => by
    rw [get] at h
    rw [List.nil_append, get, Option.some.inj h]
  | .leaf b, _, _ :: _, _, _, h => by cases h
  | .node cs, u, n :: q, r, hr, h => by
    rw [get] at h
    obtain ⟨t, ht, h⟩ := Option.bind_eq_some_iff.1 h
    have hne : q ++ r ≠ [] := fun h => hr (List.append_eq_nil_iff.1 h).2
    have hremove : (Tree.node cs).remove (n :: q ++ r) =
        .node (cs.assign n (t.remove (q ++ r))) := by
      rw [List.cons_append, remove, ht]
      exact if_neg hne
    rw [hremove, get, Forest.find?_assign, if_pos rfl]
    exact get_remove_append t u q r hr h

theorem put_child (x : Tree ν β) (cs : Forest ν β) (n : ν) :
    put x (.node cs) [n] = .node (cs.assign n x) := by
  rw [put]
  split
  · rw [put]
  · exact if_pos rfl

theorem IsNode.put {t : Tree ν β} {p : List ν} (h : t.IsNode p) (x : Tree ν β) (n : ν) :
    (put x t (p ++ [n])).IsNode p := by
  obtain ⟨cs, h⟩ := h
  exact ⟨cs.assign n x, by rw [get_put_append x t _ p [n] h, put_child]⟩

theorem IsNode.remove {t : Tree ν β} {p : List ν} (h : t.IsNode p) (n : ν) :
    (t.remove (p ++ [n])).IsNode p := by
  obtain ⟨cs, h⟩ := h
  have hget := get_remove_append t _ p [n] (List.cons_ne_nil n []) h
  rw [Tree.remove] at hget
  split at hget
  · exact ⟨_, hget⟩
  · exact ⟨_, hget⟩

theorem get_put_self {t : Tree ν β} {p : List ν} (h : t.IsNode p) (x : Tree ν β) (n : ν) :
    (put x t (p ++ [n])).get (p ++ [n]) = some x := by
  obtain ⟨cs, h⟩ := h
  rw [get_append, get_put_append x t _ p [n] h, put_child, Option.bind_some, get,
    Forest.find?_assign, if_pos rfl, Option.bind_some, get]

theorem get_put_of_disjoint (x : Tree ν β) : ∀ (t : Tree ν β) (p q : List ν), Disjoint p q →
    (put x t p).get q = t.get q
  | _, [], q, h => absurd List.nil_prefix h.1
  | _, _ :: _, [], h => absurd List.nil_prefix h.2
  | .leaf b, _ :: _, _ :: _, _ => rfl
  | .node cs, n :: p, m :: q, h => by
    rw [put]
    by_cases hm : m = n
    · subst hm
      have hp : p ≠ [] := fun hp => h.1 (hp ▸ List.cons_prefix_cons.2 ⟨rfl, List.nil_prefix⟩)
      split
      · next t ht =>
        rw [get, get, Forest.find?_assign, if_pos rfl, ht]
        exact get_put_of_disjoint x t p q h.of_cons
      · rw [if_neg hp]
    · have hassign : ∀ y : Tree ν β, (Tree.node (cs.assign n y)).get (m :: q) =
          (Tree.node cs).get (m :: q) := fun y => by
        rw [get, get, Forest.find?_assign, if_neg hm]
      split
      · exact hassign _
      · split
        · exact hassign _
        · rfl

theorem get_remove_of_disjoint : ∀ (t : Tree ν β) (p q : List ν), Disjoint p q →
    (t.remove p).get q = t.get q
  | _, [], q, h => absurd List.nil_prefix h.1
  | _, _ :: _, [], h => absurd List.nil_prefix h.2
  | .leaf b, _ :: _, _ :: _, _ => rfl
  | .node cs, n :: p, m :: q, h => by
    rw [remove]
    split
    · next t ht =>
      by_cases hm : m = n
      · subst hm
        have hp : p ≠ [] := fun hp => h.1 (hp ▸ List.cons_prefix_cons.2 ⟨rfl, List.nil_prefix⟩)
        rw [if_neg hp, get, get, Forest.find?_assign, if_pos rfl, ht]
        exact get_remove_of_disjoint t p q h.of_cons
      · split
        · rw [get, get, Forest.find?_erase, if_neg hm]
        · rw [get, get, Forest.find?_assign, if_neg hm]
    · rfl

/-- Above the path of an entry that is put, everything stays. -/
theorem isSome_get_put (x : Tree ν β) : ∀ (t : Tree ν β) (q r : List ν), r ≠ [] →
    ((put x t (q ++ r)).get q).isSome = (t.get q).isSome
  | _, [], _, _ => rfl
  | .leaf b, _ :: _, _, _ => rfl
  | .node cs, n :: q, r, hr => by
    have hne : q ++ r ≠ [] := fun h => hr (List.append_eq_nil_iff.1 h).2
    rw [List.cons_append, put]
    split
    · next t ht =>
      rw [get, get, Forest.find?_assign, if_pos rfl, ht]
      exact isSome_get_put x t q r hr
    · rw [if_neg hne]

theorem isSome_get_remove : ∀ (t : Tree ν β) (q r : List ν), r ≠ [] →
    ((t.remove (q ++ r)).get q).isSome = (t.get q).isSome
  | _, [], _, _ => rfl
  | .leaf b, _ :: _, _, _ => rfl
  | .node cs, n :: q, r, hr => by
    have hne : q ++ r ≠ [] := fun h => hr (List.append_eq_nil_iff.1 h).2
    rw [List.cons_append, remove]
    split
    · next t ht =>
      rw [if_neg hne, get, get, Forest.find?_assign, if_pos rfl, ht]
      exact isSome_get_remove t q r hr
    · rfl

end Paths

end Tree

/-! ## Copies -/

mutual

/-- The number of entries. -/
def Tree.size : Tree ν β → ℕ
  | .leaf _ => 1
  | .node cs => cs.size + 1

def Forest.size : Forest ν β → ℕ
  | .nil => 0
  | .cons _ t rest => t.size + rest.size

end

/-- What stands at the destination after a copy, and how many of its operations are left; `none`
    when the copy has failed. -/
structure Copied (τ : Type) where
  copy : τ
  left : Option ℕ

/-- A child that was copied, behind its name. -/
def Forest.ofCopy (name : ν) : Option (Tree ν β) → Forest ν β → Forest ν β
  | none, rest => rest
  | some t, rest => .cons name t rest

mutual

/-- A copy to an absent destination, entry by entry and a node before its children, in which `n`
    operations succeed and the next one fails.  A leaf whose copy fails may leave something. -/
def Tree.copyUpTo (kept : β → Option β) : Tree ν β → ℕ → Copied (Option (Tree ν β))
  | .leaf b, 0 => ⟨(kept b).map .leaf, none⟩
  | .leaf b, n + 1 => ⟨some (.leaf b), some n⟩
  | .node _, 0 => ⟨none, none⟩
  | .node cs, n + 1 => ⟨some (.node (cs.copyUpTo kept n).copy), (cs.copyUpTo kept n).left⟩

def Forest.copyUpTo (kept : β → Option β) : Forest ν β → ℕ → Copied (Forest ν β)
  | .nil, n => ⟨.nil, some n⟩
  | .cons name t rest, n =>
    match t.copyUpTo kept n with
    | ⟨copy, none⟩ => ⟨.ofCopy name copy .nil, none⟩
    | ⟨copy, some m⟩ => ⟨.ofCopy name copy (rest.copyUpTo kept m).copy, (rest.copyUpTo kept m).left⟩

end

mutual

/-- **A complete copy is the tree.** -/
theorem Tree.copyUpTo_of_size_le (kept : β → Option β) : ∀ (t : Tree ν β) (n : ℕ), t.size ≤ n →
    t.copyUpTo kept n = ⟨some t, some (n - t.size)⟩
  | .leaf b, 0, h => absurd h (by rw [Tree.size]; omega)
  | .leaf b, n + 1, _ => rfl
  | .node cs, 0, h => absurd h (by rw [Tree.size]; omega)
  | .node cs, n + 1, h => by
    rw [Tree.size] at h
    rw [Tree.copyUpTo, Forest.copyUpTo_of_size_le kept cs n (by omega), Tree.size,
      Nat.add_sub_add_right]

theorem Forest.copyUpTo_of_size_le (kept : β → Option β) : ∀ (cs : Forest ν β) (n : ℕ),
    cs.size ≤ n → cs.copyUpTo kept n = ⟨cs, some (n - cs.size)⟩
  | .nil, n, _ => rfl
  | .cons name t rest, n, h => by
    rw [Forest.size] at h
    rw [Forest.copyUpTo, Tree.copyUpTo_of_size_le kept t n (by omega)]
    dsimp only
    rw [Forest.copyUpTo_of_size_le kept rest _ (by omega), Forest.size, Nat.sub_add_eq,
      Forest.ofCopy]

end

end Lib
