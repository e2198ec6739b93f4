import Catalogue.Path
import Catalogue.Store.Basic

/-! The files that a run can see: directories, databases, and what is neither. A place is the list of names
on the way down from the root; the parts of a path may hold dots besides. -/

set_option autoImplicit false

namespace Catalogue

inductive Node where
  | directory
  | database (store : Store)
  | foreign
  | device

abbrev NodePath := List String

inductive PathFault where
  | missing
  | taken
  | notADirectory
  | nameTooLong
  | hasNul
  deriving DecidableEq, Repr

def PathFault.message : PathFault → String
  | missing => "No such file or directory (os error 2)"
  | taken => "File exists (os error 17)"
  | notADirectory => "Not a directory (os error 20)"
  | nameTooLong => "File name too long (os error 36)"
  | hasNul => "file name contained an unexpected NUL byte"

structure FileTree where
  nodes : List (NodePath × Node)

namespace FileTree

def nameLimit : Nat := 255

def node? (tree : FileTree) (place : NodePath) : Option Node :=
  if place.isEmpty then some .directory else tree.nodes.lookup place

def erase (tree : FileTree) (place : NodePath) : FileTree := ⟨tree.nodes.filter (·.1 != place)⟩

def put (tree : FileTree) (place : NodePath) (node : Node) : FileTree :=
  ⟨(place, node) :: (tree.erase place).nodes⟩

def step (tree : FileTree) (place : NodePath) (part : String) : Except PathFault NodePath :=
  if part == "." then .ok place
  else if part == ".." then .ok place.dropLast
  else if nameLimit < Text.size part then .error .nameTooLong
  else if (tree.node? (place ++ [part])).isSome then .ok (place ++ [part])
  else .error .missing

/-- Follow the parts of a path from a place that exists. Steps lead on from directories only. -/
def walk (tree : FileTree) (place : NodePath) : (parts : List String) → Except PathFault NodePath
  | [] => .ok place
  | part :: rest => do
    match tree.node? place with
    | some .directory => walk tree (← tree.step place part) rest
    | _ => .error .notADirectory

def directory? (tree : FileTree) (parts : List String) : Except PathFault NodePath := do
  let place ← tree.walk [] parts
  match tree.node? place with
  | some .directory => return place
  | _ => throw .notADirectory

def pathLimit : Nat := 4095

/-- Whether there is something where a path leads to from a directory; a separator at the end asks for a
directory. -/
def holds (tree : FileTree) (directory : NodePath) (path : String) : Bool :=
  let parts := Path.parts path ++ (if path.toList.getLast? == some '/' then ["."] else [])
  let start := if Path.isAbsolute path then [] else directory
  !path.isEmpty && Text.size path ≤ pathLimit && (tree.walk start parts).toOption.isSome

/-! Making directories. -/

/-- Make one directory in an existing one. A dot at the end names what exists already. -/
def makeDirectory (tree : FileTree) (parts : List String) : Except PathFault FileTree :=
  match parts.getLast? with
  | none => .error .taken
  | some last => do
    let place ← tree.directory? parts.dropLast
    match tree.step place last with
    | .ok _ => throw .taken
    | .error .missing => return tree.put (place ++ [last]) .directory
    | .error fault => throw fault

structure Attempt where
  tree : FileTree
  result : Except PathFault Unit

def unlessThere (tree : FileTree) (parts : List String) (fault : PathFault) : Attempt :=
  ⟨tree, match tree.directory? parts with
    | .ok _ => .ok ()
    | .error _ => .error fault⟩

/-- Make a directory; where something on the way is missing, make its parent first and try again. -/
def makeAfter (tree : FileTree) (parts : List String) (parent : FileTree → Attempt) : Attempt :=
  match tree.makeDirectory parts with
  | .ok tree => ⟨tree, .ok ()⟩
  | .error .missing =>
    match parent tree with
    | ⟨tree, .error fault⟩ => ⟨tree, .error fault⟩
    | ⟨tree, .ok ()⟩ =>
      match tree.makeDirectory parts with
      | .ok tree => ⟨tree, .ok ()⟩
      | .error fault => tree.unlessThere parts fault
  | .error fault => tree.unlessThere parts fault

def makeAll : (reversed : List String) → FileTree → Attempt
  | [] => fun tree => ⟨tree, .ok ()⟩
  | name :: rest => fun tree => tree.makeAfter (name :: rest).reverse (makeAll rest)

/-- Make the directory of an absolute path and those above it. Single dots count at the end of the path
only, where they ask for a directory that exists. -/
def createDirectories (tree : FileTree) (path : String) : Attempt :=
  if path.toList.contains '\x00' then ⟨tree, .error .hasNul⟩
  else if pathLimit < Text.size path then ⟨tree, .error .nameTooLong⟩
  else tree.makeAfter (Path.parts path) (makeAll ((Path.names path).reverse.drop 1))

def ofDirectories (places : List NodePath) : FileTree :=
  let tree : FileTree := ⟨[(["dev"], .directory), (["dev", "null"], .device)]⟩
  places.foldl (fun tree place => (makeAll place.reverse tree).tree) tree

end FileTree

end Catalogue
