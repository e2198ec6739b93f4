/-! Numbers with a fraction, kept exactly as `coefficient * 10 ^ exponent`, and their layout as text: where
the point goes, and when an exponent is written instead of zeros. -/

set_option autoImplicit false

namespace Catalogue

structure Decimal where
  coefficient : Int
  exponent : Int
  deriving DecidableEq, Repr

namespace Decimal

def powerOfTen (n : Nat) : Nat := Nat.pow 10 n

/-- Move the zeros at the end of a coefficient into the exponent, `fuel` of them at most. -/
def strip : (fuel : Nat) → (coefficient exponent : Int) → Decimal
  | 0, c, e => ⟨c, e⟩
  | fuel + 1, c, e =>
    if c == 0 then ⟨0, 0⟩ else if c % 10 == 0 then strip fuel (c / 10) (e + 1) else ⟨c, e⟩

def ofScientific (coefficient exponent : Int) : Decimal :=
  strip (toString coefficient.natAbs).length coefficient exponent

def digits (d : Decimal) : List Char := (toString d.coefficient.natAbs).toList

def order (d : Decimal) : Int := d.digits.length - 1 + d.exponent

structure Layout where
  /-- The largest order that is written without an exponent; the smallest is -4. -/
  positionalTo : Int
  plus : Bool
  exponentWidth : Nat
  /-- Whether a point stands also behind a single digit in front of an exponent. -/
  pointed : Bool

/-- All digits and a point, which has a digit on both sides. -/
def positional (d : Decimal) : List Char :=
  if 0 ≤ d.exponent then d.digits ++ List.replicate d.exponent.toNat '0' ++ ['.', '0']
  else
    let places := (-d.exponent).toNat
    let digits := List.replicate (places + 1 - d.digits.length) '0' ++ d.digits
    let split := digits.length - places
    digits.take split ++ '.' :: digits.drop split

def powerText (layout : Layout) (power : Int) : List Char :=
  let digits := (toString power.natAbs).toList
  let sign := if power < 0 then ['-'] else if layout.plus then ['+'] else []
  sign ++ List.replicate (layout.exponentWidth - digits.length) '0' ++ digits

def scientific (layout : Layout) (d : Decimal) : List Char :=
  let tail := match d.digits.drop 1, layout.pointed with
    | [], true => ['.', '0']
    | [], false => []
    | rest, _ => '.' :: rest
  d.digits.take 1 ++ tail ++ 'e' :: powerText layout d.order

def render (layout : Layout) (d : Decimal) : String :=
  let text := if d.order < -4 || layout.positionalTo < d.order then d.scientific layout else d.positional
  String.ofList (if d.coefficient < 0 then '-' :: text else text)

end Decimal

end Catalogue
