import Catalogue.Decimal.Numeral
import Catalogue.Extended
import Catalogue.IntRange
import Catalogue.Store.Error
import Catalogue.Text.Octets

/-! Stored values: what a column makes of a value it is given, how values compare, and how they are
read back as the types the program works with. -/

set_option autoImplicit false

namespace Catalogue

inductive Cell where
  | null
  | int (value : Int)
  | real (value : Binary64)
  | text (value : String)
  | garbled (bytes : List UInt8)
  | blob (bytes : List UInt8)
  deriving DecidableEq, Repr

inductive Affinity where
  | integer
  | text
  deriving DecidableEq, Repr

namespace Cell

def ofTextBytes (bytes : List UInt8) : Cell :=
  match Text.decode bytes with
  | .ok s => .text s
  | .error _ => .garbled bytes

def storageClass : Cell → StorageClass
  | null => .null
  | int _ => .integer
  | real _ => .real
  | text _ | garbled _ => .text
  | blob _ => .blob

/-- A number without a fraction is an integer if it lies strictly inside the 64-bit range. -/
def ofReal (x : Binary64) : Cell :=
  match x.toInt? with
  | some n => if IntRange.int64.low < n ∧ n < IntRange.int64.high then .int n else .real x
  | none => .real x

def isSpace (c : Char) : Bool := c == ' ' || (9 ≤ c.toNat && c.toNat ≤ 13)

/-- The digits of a text that count towards its number: those behind nineteen or twenty are taken as
zeros, since the number so far has to stay below a tenth of the 64-bit range. -/
def significant (value _ : Nat) : Bool := value < 1844674407370955160

/-- An exponent as text gives it: one of more than five digits counts as ten thousand. -/
def bounded (exponent : Int) : Int :=
  if exponent.natAbs < 100000 then exponent else if exponent < 0 then -10000 else 10000

def ofNumeral? (s : String) : Option Cell :=
  let cs := (((s.toList.dropWhile isSpace).reverse.dropWhile isSpace).reverse)
  match (Text.readInt? (String.ofList cs)).bind IntRange.int64.restrict? with
  | some n => some (.int n)
  | none => (Numeral.read? cs).map fun numeral =>
    let numeral := { numeral with exponent := bounded numeral.exponent }
    ofReal (Extended.approximate (numeral.leading significant))

/-- Text columns write numbers without an exponent from `10 ^ -4` up to fifteen places before the point. -/
def textLayout : Decimal.Layout := ⟨14, true, 2, true⟩

def textOfReal : Binary64 → String
  | .finite significand exponent => (Extended.fifteenDigits significand exponent).render textLayout
  | .infinite negative => if negative then "-Inf" else "Inf"

def withAffinity : Affinity → Cell → Cell
  | .integer, real x => ofReal x
  | .integer, text s => (ofNumeral? s).getD (.text s)
  | .integer, c => c
  | .text, int n => .text (toString n)
  | .text, real x => .text (textOfReal x)
  | .text, c => c

def bytes : Cell → List UInt8
  | text s => s.toUTF8.toList
  | garbled bs | blob bs => bs
  | _ => []

def rank : Cell → Nat
  | null => 0
  | int _ | real _ => 1
  | text _ | garbled _ => 2
  | blob _ => 3

/-- Numbers compare by value, text and blobs by their bytes, and other pairs by rank. -/
def compare : Cell → Cell → Ordering
  | int m, int n => Ord.compare m n
  | int m, real y => Binary64.compareInt m y
  | real x, int n => (Binary64.compareInt n x).swap
  | real x, real y => x.compare y
  | a, b => (Ord.compare a.rank b.rank).then (Ord.compare a.bytes b.bytes)

def glyph (c : Char) : Nat := if c.toNat = 0xFFFE ∨ c.toNat = 0xFFFF then 0xFFFD else c.toNat

/-- What pattern matching sees of a value: nothing of a null, and text up to its first NUL. -/
def glyphs? : Cell → Option (List Nat)
  | null => none
  | int n => some ((toString n).toList.map glyph)
  | real x => some ((textOfReal x).toList.map glyph)
  | text s => some ((s.toList.takeWhile (· ≠ '\x00')).map glyph)
  | garbled bs | blob bs => some (Text.lenient none (bs.takeWhile (· ≠ 0)))

def startsWith (start : List Char) : Cell → Bool
  | text s => start.isPrefixOf s.toList
  | garbled bs | blob bs => (String.ofList start).toUTF8.toList.isPrefixOf bs
  | _ => false

/-! Reading: `index` and `column` say which column of the row is read. -/

def toText (index : Nat) (column : String) : Cell → Except EngineError String
  | text s => .ok s
  | garbled bs =>
    match Text.decode bs with
    | .ok s => .ok s
    | .error fault => .error (.malformedText index fault)
  | c => .error (.wrongClass c.storageClass index column)

def toInt32 (index : Nat) (column : String) : Cell → Except EngineError Int32
  | int n =>
    if IntRange.int32.contains n then .ok (Int32.ofInt n) else .error (.integerOutOfRange n index)
  | c => .error (.wrongClass c.storageClass index column)

def toKey? (index : Nat) (column : String) : Cell → Except EngineError (Option Int)
  | null => .ok none
  | int n => .ok (some n)
  | c => .error (.wrongClass c.storageClass index column)

end Cell

end Catalogue
