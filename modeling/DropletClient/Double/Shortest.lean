import DropletClient.Double.Basic
import DropletClient.Text.Decimal

namespace DropletClient.Double

/-!
# Shortest decimal text

A double is written with the fewest significant digits that are read back as the
same double, and with the nearest such digits to its value. Between one
hundred-thousandth and ten to the sixteenth the text is positional and has a
fraction; beyond, it is scientific.
-/

/-- A significand times a power of ten. -/
structure Scientific where
  significand : Nat
  exponent : Int
  deriving Repr, DecidableEq

/-- The power of ten of the leading digit of a positive ratio. -/
def leadingExponent (numerator denominator : Nat) : Int :=
  if denominator ≤ numerator then
    (Text.Decimal.digits (numerator / denominator)).length - 1
  else
    -(Text.Decimal.digits ((denominator - 1) / numerator)).length

/--
The power of ten, and its inverse, of which one is a whole number and the
other is one.
-/
def tenToThe (exponent : Int) : Nat × Nat :=
  (Nat.pow 10 exponent.toNat, Nat.pow 10 (-exponent).toNat)

/-- Four times the least number of units that still rounds to the double. -/
def quadrupleLow (number : Double) : Nat :=
  let gap := if number.mantissa = Nat.pow 2 52 ∧ 0 < number.power then 1 else 2
  (4 * number.mantissa - gap) * Nat.pow 2 number.power

/-- Four times the greatest number of units that still rounds to the double. -/
def quadrupleHigh (number : Double) : Nat :=
  (4 * number.mantissa + 2) * Nat.pow 2 number.power

/--
A decimal is read back as the double if it lies between the midpoints to the
neighbours; the midpoints themselves belong to the double with the even
mantissa.
-/
def readsBack (number : Double) (decimal : Scientific) : Bool :=
  let (up, down) := tenToThe decimal.exponent
  let low := quadrupleLow number * down
  let high := quadrupleHigh number * down
  let value := 4 * decimal.significand * up * unitsPerOne
  if number.mantissa % 2 = 0 then low ≤ value && value ≤ high
  else low < value && value < high

/--
The nearer of the two neighbours with the given number of digits that are
read back.
-/
def withDigits? (number : Double) (count : Nat) : Option Scientific :=
  let exponent := leadingExponent number.units unitsPerOne - (count - 1 : Nat)
  let (up, down) := tenToThe exponent
  let scaled := number.units * down
  let step := unitsPerOne * up
  let below : Scientific := ⟨scaled / step, exponent⟩
  let above : Scientific := ⟨scaled / step + 1, exponent⟩
  let closest : Scientific := ⟨nearest scaled step, exponent⟩
  if readsBack number closest then some closest
  else if readsBack number below then some below
  else if readsBack number above then some above
  else none

/-- The fewest digits, up to seventeen, that are read back as the double. -/
def shortest (number : Double) : Scientific :=
  match (List.range 17).findSome? fun count =>
    withDigits? number (count + 1) with
  | some decimal => decimal
  | none => ⟨0, 0⟩

/-- Digits without the zeros at their end. -/
def withoutTrailingZeros (digits : List Char) : List Char :=
  (digits.reverse.dropWhile (· == '0')).reverse

/-- The digits of a fraction part: those given, or a single zero. -/
def fractionDigits (digits : List Char) : List Char :=
  if digits.isEmpty then ['0'] else digits

/-- Positional text, with one digit at least on both sides of the point. -/
def positional (digits : List Char) (leading : Int) : List Char :=
  if leading < 0 then
    ['0', '.'] ++ List.replicate ((-leading).toNat - 1) '0' ++ digits
  else
    let width := leading.toNat + 1
    let padded := digits ++ List.replicate (width - digits.length) '0'
    padded.take width ++ ['.'] ++ fractionDigits (padded.drop width)

/--
Scientific text: one digit, a fraction if there is one, and the exponent with
its sign.
-/
def scientific (digits : List Char) (leading : Int) : List Char :=
  let fraction := if digits.length ≤ 1 then [] else '.' :: digits.drop 1
  let sign := if leading < 0 then '-' else '+'
  digits.take 1 ++ fraction ++ ['e', sign] ++ Text.Decimal.digits leading.natAbs

/-- The least power of ten of a leading digit that is written positionally. -/
def leastPositional : Int := -5

/--
The greatest power of ten of a leading digit that is written positionally.
-/
def greatestPositional : Int := 15

/-- The text of the magnitude. -/
def magnitudeText (number : Double) : List Char :=
  if number.isZero then
    ['0', '.', '0']
  else
    let decimal := shortest number
    let written := Text.Decimal.digits decimal.significand
    let leading := decimal.exponent + written.length - 1
    let digits := withoutTrailingZeros written
    if leastPositional ≤ leading ∧
      leading ≤ greatestPositional then positional digits leading
    else scientific digits leading

/-- The shortest text that is read back as the double. -/
def text (number : Double) : String :=
  String.ofList
    (if number.negative then '-' :: magnitudeText number
    else magnitudeText number)

end DropletClient.Double
