namespace DropletClient

/-!
# Double precision numbers

Finite binary numbers with 53 significant bits, as exact values. A magnitude is
a whole number of units, where the unit is the smallest positive double
`2^-1074`; every finite double is such a number. Rounding to the nearest double,
with ties to the even mantissa, is stated on ratios of natural numbers.
-/

/--
A finite double: the mantissa times two to the power, in units of `2^-1074`,
with a sign.
-/
structure Double where
  negative : Bool
  mantissa : Nat
  power : Nat
  deriving Repr, DecidableEq

namespace Double

/-- How many units make one. -/
def unitsPerOne : Nat :=
  Nat.pow 2 1074

/-- The greatest power; a double that needs a greater one is out of range. -/
def greatestPower : Nat :=
  2045

/-- The magnitude in units. -/
def units (number : Double) : Nat :=
  number.mantissa * Nat.pow 2 number.power

/-- Zero, of either sign. -/
def isZero (number : Double) : Bool :=
  number.mantissa == 0

/-- The whole number nearest to a ratio; a tie goes to the even neighbour. -/
def nearest (numerator denominator : Nat) : Nat :=
  let quotient := numerator / denominator
  let remainder := numerator % denominator
  if 2 * remainder < denominator then quotient
  else if denominator < 2 * remainder then quotient + 1
  else quotient + quotient % 2

/--
The double nearest to a ratio, or none if the nearest one is out of range.
-/
def ofRatio (negative : Bool) (numerator denominator : Nat) : Option Double :=
  let scaled := numerator * unitsPerOne
  let power := Nat.log2 (scaled / denominator) - 52
  let mantissa := nearest scaled (denominator * Nat.pow 2 power)
  let rounded : Double :=
    if mantissa = Nat.pow 2 53 then ⟨negative, Nat.pow 2 52, power + 1⟩
    else ⟨negative, mantissa, power⟩
  if rounded.power ≤ greatestPower then some rounded else none

/-- The zero of the given sign. -/
def zeroWithSign (negative : Bool) : Double :=
  ⟨negative, 0, 0⟩

/--
The product of a double and a double, rounded; the sign is that of the first.
-/
def times (number factor : Double) : Option Double :=
  ofRatio number.negative (number.units * factor.units)
    (unitsPerOne * unitsPerOne)

/--
The quotient of a double and a double that is not zero, rounded; the sign is
that of the first.
-/
def dividedBy (number divisor : Double) : Option Double :=
  ofRatio number.negative number.units divisor.units

end Double

end DropletClient
