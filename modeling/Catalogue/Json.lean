import Catalogue.IntRange

/-! JSON values, and how records of named fields are taken from them.

A record is written as an object, but it may also be given as an array of its fields in declaration
order. Both forms come down to a list of named fields. -/

set_option autoImplicit false

namespace Catalogue

inductive Json where
  | null
  | bool (value : Bool)
  | int (value : Int)
  | fraction (text : String)
  | str (value : String)
  | arr (items : List Json)
  | obj (fields : List (String × Json))
  deriving Repr, BEq, Inhabited

namespace Json

def str? : Json → Option String
  | .str s => some s
  | _ => none

def bool? : Json → Option Bool
  | .bool b => some b
  | _ => none

/-- An integer that lies in a range; nothing else counts as one. -/
def intWithin? (range : IntRange) : Json → Option Int
  | .int n => range.restrict? n
  | _ => none

def int64? : Json → Option Int := intWithin? .int64

def int32? (v : Json) : Option Int32 := (v.intWithin? .int32).map Int32.ofInt

def uint32? (v : Json) : Option UInt32 := (v.intWithin? .uint32).map fun n => UInt32.ofNat n.toNat

def uint64? (v : Json) : Option Nat := (v.intWithin? .uint64).map Int.toNat

def list? {α : Type} (read : Json → Option α) : Json → Option (List α)
  | .arr items => items.mapM read
  | _ => none

/-- The fields of a record. An array gives them in the order of `names` and may leave out the last
`defaulted` of them. -/
def record? (names : List String) (defaulted : Nat) : Json → Option (List (String × Json))
  | .obj fields => some fields
  | .arr items =>
    if names.length ≤ items.length + defaulted ∧ items.length ≤ names.length then some (names.zip items)
    else none
  | _ => none

def required {α : Type} (read : Json → Option α) (fields : List (String × Json)) (name : String) :
    Option α :=
  (fields.lookup name).bind read

/-- A field that may be null, which is also what its absence means. -/
def nullable {α : Type} (read : Json → Option α) (fields : List (String × Json)) (name : String) :
    Option (Option α) :=
  match fields.lookup name with
  | none | some .null => some none
  | some v => (read v).map some

/-- A field whose absence, but not null, means `default`. -/
def defaulted {α : Type} (read : Json → Option α) (default : α) (fields : List (String × Json))
    (name : String) : Option α :=
  match fields.lookup name with
  | none => some default
  | some v => read v

def ofOption {α : Type} (write : α → Json) : Option α → Json
  | none => .null
  | some a => write a

end Json

end Catalogue
