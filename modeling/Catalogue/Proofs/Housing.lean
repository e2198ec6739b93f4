import Catalogue.Proofs.Files
import Catalogue.Proofs.Opening
import Catalogue.Proofs.Soundness

/-! A database in its place among the files. Once it is there, opening it finds it and closing it leaves there what
was written, and neither files that are made elsewhere nor the way to it get in between. -/

set_option autoImplicit false

namespace Catalogue

theorem Text.size_append (a b : String) : Text.size (a ++ b) = Text.size a + Text.size b := by
  have shifted (f : Char → Nat) (cs : List Char) (n : Nat) :
      cs.foldl (fun n c => n + f c) n = n + cs.foldl (fun n c => n + f c) 0 := by
    induction cs generalizing n with
    | nil => rfl
    | cons c cs ih =>
      rw [List.foldl_cons, ih, List.foldl_cons, ih (0 + f c), Nat.zero_add, Nat.add_assoc]
  rw [size, String.toList_append, List.foldl_append, shifted]
  rfl

namespace FileTree

/-- A place that a database can have: its names stand for themselves, and there is room for its journal. -/
structure Suits (place : NodePath) : Prop where
  nonempty : place ≠ []
  plain : Plain place
  journal : Companion.journal.fits place = true
  short : byteSize place + Text.size Companion.journal.ending ≤ databasePathBound

def reserved (place : NodePath) : List NodePath :=
  place :: [Companion.journal, .log, .index, .lock].map (·.beside place)

/-- There is a way to the place and nothing beside it, and a store is kept there, or nothing yet. -/
structure Houses (tree : FileTree) (place : NodePath) (store : Store) : Prop where
  above : tree.Above place
  beside : ∀ companion : Companion, tree.node? (companion.beside place) = none
  kept : tree.node? place = some (.database store) ∨ tree.node? place = none ∧ store = .fresh

variable {tree : FileTree} {place : NodePath} {store : Store}

theorem Suits.eq_append (suits : Suits place) : place.dropLast ++ [place.getLast?.getD ""] = place := by
  rw [List.getLast?_eq_some_getLast suits.nonempty, Option.getD_some, List.dropLast_append_getLast]

theorem Suits.lock (suits : Suits place) : Companion.lock.fits place = true := by
  have journal := suits.journal
  have longer : Text.size Companion.lock.ending ≤ Text.size Companion.journal.ending := by decide
  simp only [Companion.fits, Companion.nameBeside, Text.size_append, decide_eq_true_eq] at journal ⊢
  omega

theorem beside_mem_reserved (companion : Companion) : companion.beside place ∈ reserved place := by
  cases companion <;> simp [reserved]

theorem Houses.grows {after : FileTree} {places : List NodePath} (houses : tree.Houses place store)
    (grows : Grows places tree after) (apart : ∀ other ∈ places, other ∉ reserved place) :
    after.Houses place store := by
  have same (other : NodePath) (listed : other ∈ reserved place) : after.node? other = tree.node? other :=
    grows.apart other fun member => apart other member listed
  refine ⟨grows.above houses.above, fun companion => ?_, same place List.mem_cons_self ▸ houses.kept⟩
  rw [same _ (beside_mem_reserved companion), houses.beside]

/-! ## Opening -/

structure Ordinary (location : Location) : Prop where
  kept : location.isTransient = false
  access : location.access = .create
  changing : location.immutable = false
  permissions : location.modeOf = none

theorem Ordinary.isReadOnly {location : Location} (ordinary : Ordinary location) : location.isReadOnly = false := by
  simp [Location.isReadOnly, ordinary.access, ordinary.changing]

theorem run_get {α : Type} (look : FileTree → Visit α) (tree : FileTree) :
    (get >>= look : Visit α).run tree = (look tree).run tree := rfl

theorem run_bind {α β : Type} {x : Visit α} {rest : α → Visit β} {a : α} {after : FileTree}
    (done : x.run tree = (.ok a, after)) : (x >>= rest).run tree = (rest a).run after := by
  have done : x tree = (.ok a, after) := done
  simp only [ExceptT.run, bind, ExceptT.bind, ExceptT.mk, StateT.bind, done]
  rfl

theorem run_takeLock (suits : Suits place) (free : tree.node? (Companion.lock.beside place) = none)
    (location : Location) : (takeLock location place).run tree = (.ok (), tree) := by
  unfold takeLock
  split
  · simp only [suits.lock]
    exact (run_get _ tree).trans (by simp only [free]; rfl)
  · rfl

theorem run_settleJournal (free : tree.companion? place .journal = none) (location : Location) (blank : Bool) :
    (settleJournal location place blank).run tree = (.ok (), tree) := by
  unfold settleJournal
  rw [run_get]
  simp only [free]
  rfl

theorem run_settleLog (free : tree.companion? place .log = none) (location : Location) (blank : Bool) :
    (settleLog location place blank).run tree = (.ok (), tree) := by
  unfold settleLog
  rw [run_get]
  simp only [free]
  rfl

theorem settled_eq (suits : Suits place) (beside : ∀ companion : Companion, tree.node? (companion.beside place) = none)
    (location : Location) (blank : Bool) (found : FileTree → Found) :
    tree.settled location place blank found = (found tree, tree) := by
  have settled : (settle location place blank).run tree = (.ok (), tree) := by
    rw [settle, run_bind (run_takeLock suits (beside .lock) location),
      run_bind (run_settleJournal (by rw [companion?, beside]) location blank)]
    exact run_settleLog (by rw [companion?, beside]) location blank
  unfold FileTree.settled
  split
  · rfl
  · rw [settled]

theorem writing_eq (suits : Suits place) {location : Location} (ordinary : Ordinary location)
    (beside : tree.node? (Companion.journal.beside place) = none) : tree.writing location place = .allowed := by
  simp [writing, ordinary.isReadOnly, suits.journal, beside]

theorem Suits.ne_beside (suits : Suits place) (companion : Companion) : companion.beside place ≠ place := by
  intro same
  have names := suits.eq_append
  nth_rewrite 3 [← same] at names
  have lengths := congrArg String.length (List.cons.inj (List.append_cancel_left names)).1
  rw [Companion.nameBeside, String.length_append] at lengths
  cases companion <;> simp [Companion.ending] at lengths

theorem beside_put (suits : Suits place) (beside : ∀ companion : Companion, tree.node? (companion.beside place) = none)
    (node : Node) (companion : Companion) : (tree.put place node).node? (companion.beside place) = none := by
  rw [node?_put_of_ne (suits.ne_beside companion), beside]

theorem Houses.directory?_dropLast (houses : tree.Houses place store) (suits : Suits place) :
    tree.directory? place.dropLast = .ok place.dropLast := by
  have split := suits.eq_append.symm
  have directory : tree.node? place.dropLast = some .directory := houses.above _ _ _ split
  have plain : Plain place.dropLast := fun name member => suits.plain name (List.dropLast_subset _ member)
  have walked : tree.walk [] place.dropLast = .ok place.dropLast := by
    have above : tree.Above (place.dropLast ++ [place.getLast?.getD ""]) := split ▸ houses.above
    rw [walk_eq plain above.of_append rfl, List.nil_append, directory]
    rfl
  simp only [directory?, walked, bind, Except.bind, directory]
  rfl

theorem Houses.openAt (houses : tree.Houses place store) (suits : Suits place) {location : Location}
    (ordinary : Ordinary location) (name : String) :
    tree.node? place = some (.database store) ∧ tree.openAt location place name = (.store store .allowed, tree) ∨
      store = .fresh ∧ tree.openAt location place name =
        (.store .empty .allowed, tree.put place (.database .empty)) := by
  have walked : tree.walk [] place = if (tree.node? place).isSome then .ok place else .error .missing :=
    walk_eq suits.plain houses.above rfl
  rcases houses.kept with kept | ⟨absent, rfl⟩
  · left
    rw [kept] at walked
    simp only [FileTree.openAt, walked, kept, Option.isSome_some, if_true, settled_eq suits houses.beside,
      writing_eq suits ordinary (houses.beside .journal), and_self]
  · right
    have parent := houses.directory?_dropLast suits
    rw [absent] at walked
    have beside := beside_put suits houses.beside (.database .empty)
    simp only [FileTree.openAt, walked, absent, Option.isSome_none, ordinary.access, parent, settled_eq suits beside,
      writing_eq suits ordinary (beside .journal), true_and]
    rfl

end FileTree

end Catalogue
