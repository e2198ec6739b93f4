import Catalogue.Binary64

/-! Numbers with significands of sixty-four bits, none of them negative, in which decimals are brought to
another power of ten: in steps of a hundred, ten and one places. Each step rounds to the nearest number of
the format, and a tie to the one with an even significand. Exponents have no bounds. -/

set_option autoImplicit false

namespace Catalogue

structure Extended where
  significand : Nat
  exponent : Int
  deriving DecidableEq, Repr

namespace Extended

open Binary64 (powerOfTwo roundHalfEven binaryOrder)

def ofQuotient (num den : Nat) : Extended :=
  let exponent := binaryOrder num den - 63
  ⟨roundHalfEven (num * powerOfTwo (-exponent).toNat) (den * powerOfTwo exponent.toNat), exponent⟩

def ofNat (n : Nat) : Extended := ofQuotient n 1

/-- The product of the significands is rounded; exponents add up. -/
def mul (x y : Extended) : Extended :=
  let z := ofNat (x.significand * y.significand)
  { z with exponent := z.exponent + x.exponent + y.exponent }

def powerOfTen (n : Int) : Extended :=
  ofQuotient (Decimal.powerOfTen n.toNat) (Decimal.powerOfTen (-n).toNat)

def isLess (x y : Extended) : Bool :=
  Binary64.compareScaled x.significand x.exponent y.significand y.exponent == .lt

def floor (x : Extended) : Nat := x.significand * powerOfTwo x.exponent.toNat / powerOfTwo (-x.exponent).toNat

/-! From decimals to the 64-bit format. -/

def greatest : Extended := ⟨Binary64.significandBound - 1, Binary64.greatestExponent⟩

/-- The nearest number of the 64-bit format; all beyond the largest finite one are infinite. -/
def toBinary64 (negative : Bool) (x : Extended) : Binary64 :=
  if greatest.isLess x then .infinite negative
  else
    .ofQuotient negative (x.significand * powerOfTwo x.exponent.toNat) (powerOfTwo (-x.exponent).toNat)

def scale (x : Extended) (places : Int) : Extended :=
  let steps (count : Nat) (size : Int) : Extended → Extended :=
    Nat.repeat (·.mul (powerOfTen (if places < 0 then -size else size))) count
  let n := places.natAbs
  steps (n % 10) 1 (steps (n / 10 % 10) 10 (steps (n / 100) 100 x))

/-- Move an exponent towards zero, `fuel` places at most: up as long as the coefficient stays inside the
64-bit range, down as long as zeros are left out. -/
def balance : (fuel coefficient : Nat) → (exponent : Int) → Nat × Int
  | 0, c, e => (c, e)
  | fuel + 1, c, e =>
    if 0 < e && c < 1844674407370955161 then balance fuel (10 * c) (e - 1)
    else if e < 0 && c % 10 == 0 then balance fuel (c / 10) (e + 1)
    else (c, e)

/-- The 64-bit number for a decimal whose coefficient lies in the 64-bit range. It may miss the nearest one
by a rounding of the steps on the way. -/
def approximate (d : Decimal) : Binary64 :=
  if d.coefficient == 0 then .ofInt 0
  else
    let (c, e) := balance 20 d.coefficient.natAbs d.exponent
    (scale (ofNat c) e).toBinary64 (d.coefficient < 0)

/-! From the 64-bit format to decimals. -/

/-- Take steps of so many places out of a number as long as it lies outside of some bounds, and count the
places. -/
def shift (places : Int) (outside : Extended → Bool) : (fuel : Nat) → Extended × Int → Extended × Int
  | 0, result => result
  | fuel + 1, (x, taken) =>
    if outside x then shift places outside fuel (x.mul (powerOfTen (-places)), taken + places)
    else (x, taken)

/-- A number of the 64-bit format as `x * 10 ^ n` with an `x` of eighteen or nineteen digits in front of
the point. -/
def normalize (x : Extended) : Extended × Int :=
  let above (n : Int) (x : Extended) : Bool := !x.isLess (powerOfTen n)
  let below (n : Int) (x : Extended) : Bool := x.isLess (powerOfTen n)
  if above 19 x then
    shift 1 (above 19) 16 (shift 10 (above 29) 16 (shift 100 (above 119) 16 (x, 0)))
  else
    shift (-1) (below 17) 16 (shift (-10) (below 7) 16 (shift (-100) (below (-97)) 16 (x, 0)))

/-- The decimal of fifteen digits for `significand * 2 ^ exponent`. The sixteenth digit alone decides
whether it is rounded up. -/
def fifteenDigits (significand exponent : Int) : Decimal :=
  if significand == 0 then ⟨0, 0⟩
  else
    let (x, taken) := normalize ⟨significand.natAbs, exponent⟩
    let length := (toString x.floor).length
    let c : Int := (x.floor / Decimal.powerOfTen (length - 16) + 5) / 10
    .ofScientific (if significand < 0 then -c else c) (taken + length - 15)

end Extended

end Catalogue
