import Catalogue.Decimal

/-! Numbers of the 64-bit binary floating-point format, as whole numbers times powers of two. Every
operation computes exactly and rounds once, to the nearest number of the format, and a tie to the one with
an even significand. A zero has no sign. -/

set_option autoImplicit false

namespace Catalogue

inductive Binary64 where
  | finite (significand exponent : Int)
  | infinite (negative : Bool)
  deriving DecidableEq, Repr

namespace Binary64

def powerOfTwo (n : Nat) : Nat := Nat.pow 2 n

def significandBound : Nat := powerOfTwo 53

def leastExponent : Int := -1074

def greatestExponent : Int := 971

def roundHalfEven (num den : Nat) : Nat :=
  let quotient := num / den
  let twice := 2 * (num % den)
  if den < twice || (twice == den && quotient % 2 == 1) then quotient + 1 else quotient

/-- The exponent of the largest power of two that is no larger than a quotient. -/
def binaryOrder (num den : Nat) : Int :=
  let e : Int := num.log2 - den.log2
  if den * powerOfTwo e.toNat ≤ num * powerOfTwo (-e).toNat then e else e - 1

def ofMagnitude (negative : Bool) (significand : Nat) (exponent : Int) : Binary64 :=
  if greatestExponent < exponent then infinite negative
  else finite (if negative then -significand else significand) exponent

def ofQuotient (negative : Bool) (num den : Nat) : Binary64 :=
  if num == 0 then finite 0 leastExponent
  else
    let exponent := max (binaryOrder num den - 52) leastExponent
    let rounded :=
      roundHalfEven (num * powerOfTwo (-exponent).toNat) (den * powerOfTwo exponent.toNat)
    if rounded == significandBound then ofMagnitude negative (rounded / 2) (exponent + 1)
    else ofMagnitude negative rounded exponent

def ofInt (n : Int) : Binary64 := ofQuotient (n < 0) n.natAbs 1

/-- The number next to a decimal. From `10 ^ 309` on all are infinite, and below `10 ^ -324` all are zero. -/
def ofDecimal (d : Decimal) : Binary64 :=
  if d.coefficient == 0 || d.order < -325 then finite 0 leastExponent
  else if 308 < d.order then infinite (d.coefficient < 0)
  else
    ofQuotient (d.coefficient < 0) (d.coefficient.natAbs * Decimal.powerOfTen d.exponent.toNat)
      (Decimal.powerOfTen (-d.exponent).toNat)

def isInfinite : Binary64 → Bool
  | infinite _ => true
  | finite _ _ => false

def isNegative : Binary64 → Bool
  | infinite negative => negative
  | finite m _ => m < 0

/-- The product; nothing here multiplies an infinity by zero. -/
def mul : Binary64 → Binary64 → Binary64
  | finite m p, finite n q =>
    ofQuotient (decide (m < 0) != decide (n < 0)) (m.natAbs * n.natAbs * powerOfTwo (p + q).toNat)
      (powerOfTwo (-(p + q)).toNat)
  | a, b => infinite (a.isNegative != b.isNegative)

def toInt? : Binary64 → Option Int
  | finite m p =>
    let scale : Int := powerOfTwo (-p).toNat
    if m % scale == 0 then some (m / scale * powerOfTwo p.toNat) else none
  | infinite _ => none

def compareScaled (m p n q : Int) : Ordering :=
  let e := min p q
  Ord.compare (m * powerOfTwo (p - e).toNat) (n * powerOfTwo (q - e).toNat)

def compare : Binary64 → Binary64 → Ordering
  | finite m p, finite n q => compareScaled m p n q
  | infinite a, infinite b => Ord.compare b a
  | infinite negative, finite _ _ => if negative then .lt else .gt
  | finite _ _, infinite negative => if negative then .gt else .lt

/-- The order of an integer and a number; the integer is not rounded. -/
def compareInt (n : Int) : Binary64 → Ordering
  | finite m p => compareScaled n 0 m p
  | infinite negative => if negative then .gt else .lt

end Binary64

end Catalogue
