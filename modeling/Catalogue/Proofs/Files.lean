import Catalogue.FileTree.Database
import Catalogue.Logging.Directory
import Catalogue.Proofs.Success
import Mathlib.Data.List.Basic

/-! Files that leave each other alone. A node that is put somewhere is seen there and nowhere else, and making
directories only adds to what is there; so the way to a place stays, and it is the way that its name spells. -/

set_option autoImplicit false

namespace Catalogue.FileTree

variable {tree : FileTree} {place other : NodePath}

/-! ## Nodes -/

@[simp] theorem node?_nil (tree : FileTree) : tree.node? [] = some .directory := rfl

theorem node?_of_ne_nil (nonempty : place ≠ []) : tree.node? place = tree.nodes.lookup place := by
  simp [node?, nonempty]

theorem lookup_filter_ne {nodes : List (NodePath × Node)} (apart : other ≠ place) :
    (nodes.filter (·.1 != place)).lookup other = nodes.lookup other := by
  induction nodes with
  | nil => rfl
  | cons entry rest ih =>
    obtain ⟨key, node⟩ := entry
    by_cases same : key = place
    · have different : (other == key) = false := by simpa [same] using apart
      rw [List.filter_cons_of_neg (by simpa using same), ih, List.lookup_cons, different]
    · rw [List.filter_cons_of_pos (by simpa using same), List.lookup_cons, List.lookup_cons, ih]

theorem node?_put_of_ne (apart : other ≠ place) (node : Node) : (tree.put place node).node? other = tree.node? other := by
  by_cases nonempty : other = []
  · rw [nonempty, node?_nil, node?_nil]
  · have different : (other == place) = false := by simpa using apart
    rw [node?_of_ne_nil nonempty, node?_of_ne_nil nonempty, put, List.lookup_cons, different]
    exact lookup_filter_ne apart

/-- All that a place is in are directories. -/
def Above (tree : FileTree) (place : NodePath) : Prop :=
  ∀ base name rest, place = base ++ name :: rest → tree.node? base = some .directory

def Plain (place : NodePath) : Prop := ∀ name ∈ place, name ≠ "." ∧ name ≠ ".." ∧ Text.size name ≤ nameLimit

theorem Above.of_append {rest : NodePath} (above : tree.Above (place ++ rest)) : tree.Above place := by
  rintro base name rest' rfl
  exact above base name (rest' ++ rest) (by simp)

theorem Above.directory {rest : NodePath} (above : tree.Above (place ++ rest)) (more : rest ≠ []) :
    tree.node? place = some .directory := by
  obtain ⟨name, rest, rfl⟩ := List.exists_cons_of_ne_nil more
  exact above place name rest rfl

theorem step_eq {base : NodePath} {name : String} (plain : name ≠ "." ∧ name ≠ ".." ∧ Text.size name ≤ nameLimit) :
    tree.step base name = if (tree.node? (base ++ [name])).isSome then .ok (base ++ [name]) else .error .missing := by
  simp [step, plain.1, plain.2.1, Nat.not_lt.mpr plain.2.2]

theorem walk_eq {base rest : NodePath} (plain : Plain rest) (above : tree.Above (base ++ rest))
    (here : (tree.node? base).isSome) :
    tree.walk base rest =
      if (tree.node? (base ++ rest)).isSome then .ok (base ++ rest) else .error .missing := by
  induction rest generalizing base with
  | nil => simp [walk, here]
  | cons name rest ih =>
    obtain ⟨first, plain⟩ := List.forall_mem_cons.mp plain
    have directory : tree.node? base = some .directory := above base name rest rfl
    have whole : base ++ name :: rest = base ++ [name] ++ rest := by simp
    rw [walk, directory]
    simp only [step_eq first]
    split
    · rename_i there
      rw [whole] at above ⊢
      exact ih plain above there
    · rename_i absent
      cases rest with
      | nil => simp [absent, bind, Except.bind]
      | cons next rest =>
        refine absurd ?_ absent
        rw [above (base ++ [name]) next rest (by simp)]
        rfl

/-- All that was there stays, and what is new is in one of these places. -/
structure Grows (places : List NodePath) (before after : FileTree) : Prop where
  kept : ∀ place node, before.node? place = some node → after.node? place = some node
  apart : ∀ place, place ∉ places → after.node? place = before.node? place

namespace Grows

variable {places : List NodePath} {before after last : FileTree}

theorem refl (places : List NodePath) (tree : FileTree) : Grows places tree tree := ⟨fun _ _ => id, fun _ _ => rfl⟩

theorem trans (first : Grows places before after) (second : Grows places after last) : Grows places before last :=
  ⟨fun place node there => second.kept place node (first.kept place node there),
    fun place other => (second.apart place other).trans (first.apart place other)⟩

theorem above (grows : Grows places before after) (above : before.Above place) : after.Above place :=
  fun base name rest split => grows.kept base _ (above base name rest split)

end Grows

variable {parts : List String} {places : List NodePath}

end Catalogue.FileTree

namespace Catalogue.Logging

open FileTree

end Catalogue.Logging
