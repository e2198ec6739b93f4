import Catalogue.Binary64

/-! The shortest decimal that reads back as a number of the 64-bit format. -/

set_option autoImplicit false

namespace Catalogue.Binary64

def roundHalfUp (num den : Nat) : Nat := (2 * num + den) / (2 * den)

/-- The exponent of the largest power of ten that is no larger than a quotient; the quotient is at least
`10 ^ -330`. -/
def decimalOrder (num den : Nat) : Int :=
  (toString (num * Decimal.powerOfTen 330 / den)).length - 331

def onGrid (num den : Nat) (exponent : Int) : Nat × Nat :=
  (num * Decimal.powerOfTen (-exponent).toNat, den * Decimal.powerOfTen exponent.toNat)

def fraction (significand : Nat) (exponent : Int) : Nat × Nat :=
  (significand * powerOfTwo exponent.toNat, powerOfTwo (-exponent).toNat)

/-- The coefficient of a decimal on a grid that rounds to `significand * 2 ^ exponent`, if there is one:
the value's neighbour below or above, and of both the nearer one, at a tie the one above.

A decimal rounds to the value when it lies between the midpoints towards the value's neighbours in the
format; on a midpoint it does so when the significand is even. Below a power of two the neighbours are half
as far apart. -/
def readBack? (significand : Nat) (exponent place : Int) : Option Nat :=
  let (num, den) := fraction significand (exponent - 2)
  let (num, den) := onGrid num den place
  let value := 4 * num
  let unit := num / significand
  let low := if significand * 2 == significandBound && exponent ≠ leastExponent then unit else 2 * unit
  let within (distance reach : Nat) : Bool :=
    distance < reach || (distance == reach && significand % 2 == 0)
  let floor := value / den
  let below := value % den
  let above := den - below
  match within below low, within above (2 * unit) with
  | true, true => some (if below < above then floor else floor + 1)
  | true, false => some floor
  | false, true => some (floor + 1)
  | false, false => none

/-- The first of the grids, from the coarsest down, that holds a decimal which reads back; the last is
taken to hold one. -/
def shortestFrom (significand : Nat) (exponent : Int) : (grids : Nat) → (place : Int) → Decimal
  | 0, place =>
    let (num, den) := fraction significand exponent
    let (num, den) := onGrid num den place
    .ofScientific (roundHalfUp num den) place
  | grids + 1, place =>
    match readBack? significand exponent place with
    | some c => .ofScientific c place
    | none => shortestFrom significand exponent grids (place - 1)

def shortest (significand exponent : Int) : Decimal :=
  if significand == 0 then ⟨0, 0⟩
  else
    let (num, den) := fraction significand.natAbs exponent
    let d := shortestFrom significand.natAbs exponent 17 (decimalOrder num den)
    ⟨if significand < 0 then -d.coefficient else d.coefficient, d.exponent⟩

end Catalogue.Binary64
