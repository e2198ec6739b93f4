import Catalogue.Store.Connection

/-! The names under which databases are opened: paths, and addresses, which begin with `file:`. An address
holds a path, and behind a question mark settings; in both a byte may be written as `%` and two hexadecimal
digits. What stands behind a `#` does not count. -/

set_option autoImplicit false

namespace Catalogue

inductive Access where
  | read
  | write
  | create
  | memory
  deriving DecidableEq, Repr

namespace Access

def ofName? : String → Option Access
  | "ro" => some read
  | "rw" => some write
  | "rwc" => some create
  | "memory" => some memory
  | _ => none

/-- Whether a setting may replace an earlier one: on files it may not ask for more. -/
def admits : (earlier later : Access) → Bool
  | _, memory | memory, _ | create, _ | read, read | write, read | write, write => true
  | read, write | read, create | write, create => false

end Access

structure Location where
  path : String
  access : Access
  fileSystem : String
  /-- Whether the file is promised not to change. -/
  immutable : Bool
  unlocked : Bool
  modeOf : Option String
  deriving DecidableEq, Repr

namespace Location

def ofPath (path : String) : Location := ⟨path, .create, "unix", false, false, none⟩

def isNamed (location : Location) : Bool :=
  location.access != .memory && !location.path.isEmpty && location.path != ":memory:"

/-- A database that is gone when its connection is closed. -/
def isTransient (location : Location) : Bool := !location.isNamed || location.fileSystem == "memdb"

def isTooLong (location : Location) : Bool := location.isNamed && 1016 < Text.size location.path

def isReadOnly (location : Location) : Bool :=
  location.access == .read || (location.immutable && location.isNamed)

def locksRegions (location : Location) : Bool :=
  !location.unlocked && (location.fileSystem == "unix" || location.fileSystem == "unix-excl")

def locksByDirectory (location : Location) : Bool :=
  !location.unlocked && location.fileSystem == "unix-dotfile"

/-! Addresses. -/

def hexValue? (c : Char) : Option Nat :=
  if c.isDigit then some (c.toNat - '0'.toNat)
  else if 'a' ≤ c && c ≤ 'f' then some (c.toNat - 'a'.toNat + 10)
  else if 'A' ≤ c && c ≤ 'F' then some (c.toNat - 'A'.toNat + 10)
  else none

def utf8 (c : Char) : List UInt8 := (String.singleton c).toUTF8.toList

/-- The bytes of a text with escapes; a `%` without two digits behind it stands for itself. -/
def unescape : List Char → List UInt8
  | c :: a :: b :: rest =>
    match c, hexValue? a, hexValue? b with
    | '%', some high, some low => UInt8.ofNat (16 * high + low) :: unescape rest
    | _, _, _ => utf8 c ++ unescape (a :: b :: rest)
  | c :: rest => utf8 c ++ unescape rest
  | [] => []

def unescaped (cs : List Char) : List UInt8 := (unescape cs).takeWhile (· ≠ 0)

def splitFirst (separator : Char) (cs : List Char) : List Char × List Char :=
  (cs.takeWhile (· ≠ separator), (cs.dropWhile (· ≠ separator)).drop 1)

/-- The settings of an address in their order; one without a name does not count. -/
def settings (cs : List Char) : List (String × List UInt8) :=
  (cs.splitOn '&').filterMap fun setting =>
    let (name, value) := splitFirst '=' setting
    if (unescaped name).isEmpty then none else some (Text.ofBytes (unescaped name), unescaped value)

def digitsOf (read? : Char → Option Nat) (cs : List Char) : List Nat :=
  (cs.takeWhile fun c => (read? c).isSome).filterMap read?

def leadingNumber (cs : List Char) : Nat :=
  let value (base : Nat) (digits : List Nat) : Nat := digits.foldl (fun n d => base * n + d) 0
  let decimal := digitsOf fun c => if c.isDigit then hexValue? c else none
  match cs with
  | '0' :: mark :: rest =>
    let digits := digitsOf hexValue? rest
    if mark.toLower == 'x' && !digits.isEmpty then value 16 digits else value 10 (decimal cs)
  | _ => value 10 (decimal cs)

/-- Numbers of at most thirty-one bits whose lowest byte is not zero, and three words in any case, switch a
setting on. -/
def isOn (value : String) : Bool :=
  if value.toList.head?.any Char.isDigit then
    let n := leadingNumber value.toList
    n ≤ 0x7FFFFFFF && n % 256 != 0
  else ["on", "yes", "true"].contains value.toLower

def set (location : Location) (setting : String × List UInt8) : Except EngineError Location :=
  let value := Text.display setting.2
  match setting.1 with
  | "cache" =>
    if value == "shared" || value == "private" then .ok location else .error (.unknownMode "cache" value)
  | "mode" =>
    match Access.ofName? value with
    | none => .error (.unknownMode "access" value)
    | some access =>
      if location.access.admits access then .ok { location with access }
      else .error (.modeNotAllowed value)
  | "vfs" => .ok { location with fileSystem := value }
  | _ => .ok location

def fileSystems : List String := ["unix", "unix-none", "unix-dotfile", "unix-excl", "memdb"]

/-- Read what follows `file:` and the name of a machine. Of the settings that switch something or name a file
the first counts. -/
def ofAddress (cs : List Char) : Except EngineError Location := do
  let (path, query) := splitFirst '?' (cs.takeWhile (· ≠ '#'))
  let settings := settings query
  let switch (name : String) : Bool := (settings.lookup name).any fun value => isOn (Text.display value)
  let location ← settings.foldlM set (ofPath (Text.ofBytes (unescaped path)))
  if !fileSystems.contains location.fileSystem then throw (.unknownFileSystem location.fileSystem)
  return { location with
    immutable := switch "immutable"
    unlocked := switch "nolock"
    modeOf := (settings.lookup "modeof").map Text.ofBytes }

/-- Read a name. Only this machine may be named between two slashes and the path. -/
def parse (name : String) : Except EngineError Location :=
  match name.toList with
  | 'f' :: 'i' :: 'l' :: 'e' :: ':' :: '/' :: '/' :: rest =>
    let host := String.ofList (rest.takeWhile (· ≠ '/'))
    if host.isEmpty || host == "localhost" then ofAddress (rest.dropWhile (· ≠ '/'))
    else .error (.foreignHost host)
  | 'f' :: 'i' :: 'l' :: 'e' :: ':' :: rest => ofAddress rest
  | _ => .ok (ofPath name)

end Location

end Catalogue
