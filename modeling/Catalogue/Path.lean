/-! Absolute and relative paths as lists of names. -/

set_option autoImplicit false

namespace Catalogue.Path

/-- What stands between the separators of a path; repeated separators do not count, dots do. -/
def parts (path : String) : List String :=
  ((path.toList.splitOn '/').map String.ofList).filter (· != "")

def names (path : String) : List String := (parts path).filter (· != ".")

def isAbsolute (path : String) : Bool := path.toList.head? == some '/'

/-- Follow two dots to the name before them; above the root there is only the root. -/
def follow : (reversed names : List String) → List String
  | reversed, [] => reversed.reverse
  | reversed, name :: rest =>
    if name == ".." then follow (reversed.drop 1) rest else follow (name :: reversed) rest

def resolve (directory : List String) (path : String) : List String :=
  follow (if isAbsolute path then [] else directory.reverse) (names path)

/-- The places that a path leads past, its own included. -/
def visited (directory : List String) (path : String) : List (List String) :=
  let start := if isAbsolute path then [] else directory.reverse
  (List.range ((names path).length + 1)).map fun n => follow start ((names path).take n)

end Catalogue.Path
