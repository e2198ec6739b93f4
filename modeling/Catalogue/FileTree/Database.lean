import Catalogue.FileTree.Companion
import Catalogue.Opening

/-! Databases among the files: the place to which a name leads, and what opening and closing one finds and
leaves there. -/

set_option autoImplicit false

namespace Catalogue.FileTree

def byteSize (place : NodePath) : Nat := place.foldl (fun size name => size + Text.size name + 1) 0

def databasePathBound : Nat := 512

/-- Follow a path by its names: two dots lead to the name before them, be it there or not. A name that
stands under a file, or is too long, is no way on. -/
def locateFrom (tree : FileTree) (place : NodePath) : (parts : List String) → Option NodePath
  | [] => some place
  | part :: rest =>
    if part == "." then locateFrom tree place rest
    else if part == ".." then locateFrom tree place.dropLast rest
    else if databasePathBound ≤ byteSize (place ++ [part]) then none
    else match tree.walk [] (place ++ [part]) with
      | .ok _ | .error .missing => locateFrom tree (place ++ [part]) rest
      | .error _ => none

/-- The place of a database, seen from a directory; its journal has to fit the same bound. -/
def locate? (tree : FileTree) (directory : NodePath) (path : String) : Option NodePath := do
  let place ← tree.locateFrom (if Path.isAbsolute path then [] else directory) (Path.parts path)
  if place.isEmpty || databasePathBound < byteSize place + Text.size Companion.journal.ending then none
  else some place

def writing (tree : FileTree) (location : Location) (place : NodePath) : Writing :=
  if location.isReadOnly then .readOnly
  else match Companion.journal.fits place, tree.node? (Companion.journal.beside place) with
    | false, _ | true, some .directory => .unjournaled
    | true, _ => .allowed

/-- What comes of a database that was found, once all beside it is seen to. A file that is promised not to
change is read without that. -/
def settled (tree : FileTree) (location : Location) (place : NodePath) (blank : Bool)
    (found : FileTree → Found) : Found × FileTree :=
  if location.immutable then (found tree, tree)
  else
    match (settle location place blank).run tree with
    | (.ok _, tree) => (found tree, tree)
    | (.error e, tree) => (.unusable e, tree)

/-- Open what stands at a place. A file that does not exist yet is made, if it may be and its directory
exists. `name` is what was asked for. -/
def openAt (tree : FileTree) (location : Location) (place : NodePath) (name : String) : Found × FileTree :=
  match tree.walk [] place with
  | .ok _ =>
    match tree.node? place with
    | some (.database store) =>
      tree.settled location place (store = .empty) fun tree => .store store (tree.writing location place)
    | some .foreign => tree.settled location place false fun _ => .unusable .notADatabase
    | some .device =>
      tree.settled location place true fun _ =>
        if location.isReadOnly then .store .empty .readOnly else .unusable .notKept
    | some .directory | none =>
      if location.access == .read then tree.settled location place false fun _ => .unusable .unreadable
      else (.refused (.cannotOpen name), tree)
  | .error fault =>
    match fault, location.access, tree.directory? place.dropLast with
    | .missing, .create, .ok _ =>
      (tree.put place (.database .empty)).settled location place true fun tree =>
        .store .empty (tree.writing location place)
    | _, _, _ => (.refused (.cannotOpen name), tree)

def knowsPermissions (tree : FileTree) (directory : NodePath) (location : Location) : Bool :=
  location.modeOf.all (tree.holds directory)

def openLocation (tree : FileTree) (directory : NodePath) (location : Location) (name : String) :
    Found × Option NodePath × FileTree :=
  if location.isTransient then
    (if location.isTooLong then .refused (.cannotOpen name)
      else .store .empty (if location.isReadOnly then .readOnly else .allowed), none, tree)
  else match tree.locate? directory location.path with
    | none => (.refused (.cannotOpen name), none, tree)
    | some place =>
      if tree.knowsPermissions directory location then
        let (found, tree) := tree.openAt location place name
        (found, some place, tree)
      else (.refused .permissionsUnknown, none, tree)

/-- The files after a database was closed. What was written went through a journal, which is gone. -/
def closeAt (tree : FileTree) (place : NodePath) (written : Bool) (store : Store) : FileTree :=
  if written then (tree.put place (.database store)).discard place .journal else tree

end Catalogue.FileTree
