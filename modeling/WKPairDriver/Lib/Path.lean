import Mathlib

/-!
# Paths that are joined and resolved

A path is the list of its names from the root on.  A relative path is a string with separators in
which an empty name and `.` stay where they are and `..` goes up by one.

* `resolve` — where a relative path leads from a folder.
* `resolve_join` — a path joined from two parts is resolved part by part.
* `resolve_of_plain` — names without `..` lead into the folder.
-/

set_option autoImplicit false

namespace Lib

abbrev Path := List String

def isSeparator (c : Char) : Bool := c == '\\' || c == '/'

/-- What is between the separators. -/
def splitNames : List Char → List (List Char)
  | [] => [[]]
  | c :: cs =>
    if isSeparator c then [] :: splitNames cs
    else
      match splitNames cs with
      | [] => [[c]]
      | w :: ws => (c :: w) :: ws

/-- The names of a relative path, in the form in which they are compared. -/
def names (s : String) : List String := (splitNames (s.toList.map Char.toLower)).map String.ofList

/-- One name further. -/
def enter (folder : Path) (name : String) : Path :=
  if name = "" ∨ name = "." then folder
  else if name = ".." then folder.dropLast
  else folder ++ [name]

def resolve (folder : Path) (relative : String) : Path := (names relative).foldl enter folder

theorem splitNames_ne_nil (cs : List Char) : splitNames cs ≠ [] := by
  cases cs with
  | nil => exact List.cons_ne_nil _ _
  | cons c cs =>
    rw [splitNames]
    split
    · exact List.cons_ne_nil _ _
    · split <;> exact List.cons_ne_nil _ _

theorem splitNames_append {c : Char} (hc : isSeparator c = true) (bs : List Char) :
    ∀ as, splitNames (as ++ c :: bs) = splitNames as ++ splitNames bs
  | [] => by
    show splitNames (c :: bs) = [] :: splitNames bs
    rw [splitNames, if_pos hc]
  | a :: as => by
    have ih := splitNames_append hc bs as
    rw [List.cons_append, splitNames, splitNames, ih]
    split
    · rfl
    · cases has : splitNames as with
      | nil => exact absurd has (splitNames_ne_nil as)
      | cons w ws => rfl

theorem names_join (a b : String) : names (a ++ "\\" ++ b) = names a ++ names b := by
  have hsep : ("\\" : String).toList = ['\\'] := rfl
  have hlower : Char.toLower '\\' = '\\' := by decide
  simp only [names, String.toList_append, List.map_append, hsep, List.map_cons, hlower,
    List.append_assoc, List.singleton_append, splitNames_append (c := '\\') rfl]

/-- **A path joined from two parts is resolved part by part.** -/
theorem resolve_join (folder : Path) (a b : String) :
    resolve folder (a ++ "\\" ++ b) = resolve (resolve folder a) b := by
  rw [resolve, names_join, List.foldl_append]
  rfl

/-- The name leads from a folder into it. -/
def PlainName (name : String) : Prop := name ≠ "" ∧ name ≠ "." ∧ name ≠ ".."

instance (name : String) : Decidable (PlainName name) := inferInstanceAs (Decidable (_ ∧ _ ∧ _))

theorem enter_of_plain (folder : Path) {name : String} (h : PlainName name) :
    enter folder name = folder ++ [name] := by
  obtain ⟨hempty, hdot, hup⟩ := h
  rw [enter, if_neg (by simp [hempty, hdot]), if_neg hup]

/-- **Plain names lead into the folder.** -/
theorem resolve_of_plain (folder : Path) {relative : String}
    (h : ∀ name ∈ names relative, PlainName name) :
    resolve folder relative = folder ++ names relative := by
  have hfold : ∀ (ns : List String) (base : Path), (∀ name ∈ ns, PlainName name) →
      ns.foldl enter base = base ++ ns := by
    intro ns
    induction ns with
    | nil => exact fun base _ => (List.append_nil base).symm
    | cons n ns ih =>
      intro base hns
      rw [List.foldl_cons, enter_of_plain base (hns n List.mem_cons_self),
        ih _ fun name hname => hns name (List.mem_cons_of_mem _ hname), List.append_assoc,
        List.singleton_append]
  exact hfold _ _ h

end Lib
