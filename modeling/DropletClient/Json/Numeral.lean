import DropletClient.Json.Basic

namespace DropletClient.Json

/-!
# Numerals

The grammar of a number in JSON text, and the value it denotes. A whole number
that fits 64 bits is exact. Every other number is a double: as many leading
digits as fit 64 bits, rounded, and then multiplied or divided once by a rounded
power of ten.
-/

/-- The parts of a numeral, as digits. -/
structure Numeral where
  negative : Bool
  whole : List Char
  fraction : Option (List Char)
  exponent : Option (Bool × List Char)
  deriving Repr, DecidableEq

namespace Numeral

/-- Digits in front of a text, one at least, and what follows them. -/
def someDigits? (text : List Char) : Option (List Char × List Char) :=
  match text.span Text.Decimal.isDigit with
  | ([], _) => none
  | (digits, rest) => some (digits, rest)

/-- The fraction part, if the text goes on with a point. -/
def fraction? : List Char → Option (Option (List Char) × List Char)
  | '.' :: rest =>
      (someDigits? rest).map fun (digits, rest) => (some digits, rest)
  | rest => some (none, rest)

/--
The exponent part, if the text goes on with its letter; true marks a negative
exponent.
-/
def exponent? : List Char → Option (Option (Bool × List Char) × List Char)
  | letter :: rest =>
      if letter == 'e' || letter == 'E' then
        let (negative, digits) :=
          match rest with
          | '-' :: digits => (true, digits)
          | '+' :: digits => (false, digits)
          | digits => (false, digits)
        (someDigits? digits).map fun (digits, rest) =>
          (some (negative, digits), rest)
      else
        some (none, letter :: rest)
  | [] => some (none, [])

/--
The parts of a text that is a numeral as a whole; only the number zero begins
with a zero.
-/
def ofText? (text : List Char) : Option Numeral := do
  let (negative, unsigned) :=
    match text with
    | '-' :: rest => (true, rest)
    | rest => (false, rest)
  let (whole, rest) ← someDigits? unsigned
  if whole.head? = some '0' ∧ whole ≠ ['0'] then none
  let (fraction, rest) ← fraction? rest
  let (exponent, rest) ← exponent? rest
  if rest.isEmpty then some { negative, whole, fraction, exponent } else none

/-- The numbers that fit 64 bits are below this one. -/
def significandLimit : Nat :=
  Nat.pow 2 64

/-- The greatest exponent that is read as a number. -/
def greatestExponent : Nat :=
  Nat.pow 2 31 - 1

/-- The value of a digit. -/
def digitValue (character : Char) : Nat :=
  character.toNat - 48

/--
Reads digits while the significand fits; the second part counts those left over.
-/
def takeWhole (significand : Nat) : List Char → Nat × Nat
  | [] => (significand, 0)
  | digit :: rest =>
      let next := significand * 10 + digitValue digit
      if next < significandLimit then takeWhole next rest
      else (significand, rest.length + 1)

/--
Reads digits while the significand fits; the second part counts those read.
-/
def takeFraction (significand count : Nat) : List Char → Nat × Nat
  | [] => (significand, count)
  | digit :: rest =>
      let next := significand * 10 + digitValue digit
      if next < significandLimit then takeFraction next (count + 1) rest
      else (significand, count)

/-- The greatest power of ten that is a double. -/
def greatestTenPower : Nat := 308

/-- A power of ten as a double. -/
def tenPower? (exponent : Nat) : Option Double :=
  Double.ofRatio false (Nat.pow 10 exponent) 1

/--
Divides by the greatest power of ten as often as asked, or until nothing is
left.
-/
def divideByGreatest : Nat → Double → Option Double
  | 0, dividend => some dividend
  | times + 1, dividend =>
      if dividend.isZero then
        some dividend
      else
        match (tenPower? greatestTenPower).bind dividend.dividedBy with
        | some smaller => divideByGreatest times smaller
        | none => none

/--
Divides by a power of ten, in steps of the greatest one while more than that
is needed.
-/
def divideByTens (dividend : Double) (count : Nat) : Option Double := do
  let times := (count - 1) / greatestTenPower
  let smaller ← divideByGreatest times dividend
  let divisor ← tenPower? (count - times * greatestTenPower)
  smaller.dividedBy divisor

/-- A significand times a power of ten; none if it is out of range. -/
def scale?
    (negative : Bool)
    (significand : Nat)
    (exponent : Int) :
    Option Double := do
  let leading ← Double.ofRatio negative significand 1
  if exponent < 0 then
    divideByTens leading exponent.natAbs
  else if exponent.natAbs ≤ greatestTenPower then
    (tenPower? exponent.natAbs).bind leading.times
  else if leading.isZero then
    some leading
  else
    none

/-- The double that a numeral denotes. -/
def double? (numeral : Numeral) : Option Double :=
  let (leading, left) := takeWhole 0 numeral.whole
  let (significand, read) := takeFraction leading 0 (numeral.fraction.getD [])
  let shift : Int := left - read
  match numeral.exponent with
  | none => scale? numeral.negative significand shift
  | some (below, digits) =>
      let exponent := Text.Decimal.valueFrom 0 digits
      if exponent ≤ greatestExponent then
        scale? numeral.negative significand
          (if below then shift - exponent else shift + exponent)
      else if significand ≠ 0 ∧ !below then
        none
      else
        some (Double.zeroWithSign numeral.negative)

/--
The whole number that a numeral denotes, if it has neither fraction nor exponent
and fits.
-/
def integer? (numeral : Numeral) : Option Int :=
  let value := Text.Decimal.valueFrom 0 numeral.whole
  if numeral.fraction.isSome || numeral.exponent.isSome then none
  else if numeral.negative then
    if 0 < value ∧ value ≤ Nat.pow 2 63 then some (-value) else none
  else
    if value < significandLimit then some value else none

/--
The number that a numeral denotes; none if it is beyond the range of a double.
-/
def number? (numeral : Numeral) : Option Number :=
  match numeral.integer? with
  | some value => some (.integer value)
  | none => numeral.double?.map .double

end Numeral

/-- The number that a text denotes. -/
def readNumber? (text : List Char) : Option Number :=
  (Numeral.ofText? text).bind Numeral.number?

end DropletClient.Json
