import DropletClient.Double.Basic
import DropletClient.Text.Hexadecimal

namespace DropletClient.Toml.Numeral

/-!
# Numbers

Whole numbers in four bases and decimal fractions. Single underscores may stand
between digits. A whole number fits 64 bits with a sign, and a fraction is
within the range of doubles.
-/

/--
A text has a minus sign in front, and what follows the sign, if there is one.
-/
def sign : List Char → Bool × List Char
  | '+' :: rest => (false, rest)
  | '-' :: rest => (true, rest)
  | rest => (false, rest)

/--
Digits with or without an underscore in front of each; the digits alone, and
what follows.
-/
def moreDigits (isDigit : Char → Bool) : List Char → List Char × List Char
  | '_' :: digit :: rest =>
      if isDigit digit then
        let (later, rest) := moreDigits isDigit rest
        (digit :: later, rest)
      else
        ([], '_' :: digit :: rest)
  | digit :: rest =>
      if isDigit digit then
        let (later, rest) := moreDigits isDigit rest
        (digit :: later, rest)
      else
        ([], digit :: rest)
  | [] => ([], [])

/--
One digit at least, with single underscores between them; the digits alone, and
what follows.
-/
def digits? (isDigit : Char → Bool) : List Char → Option (List Char × List Char)
  | digit :: rest =>
      if isDigit digit then
        let (later, rest) := moreDigits isDigit rest
        some (digit :: later, rest)
      else
        none
  | [] => none

/-- The digits of a decimal number; a zero in front stands alone. -/
def decimalDigits? : List Char → Option (List Char × List Char)
  | '0' :: rest => some (['0'], rest)
  | rest => digits? Text.Decimal.isDigit rest

/-- A whole number of a base in its digits. -/
def basedInteger?
    (base : Nat)
    (text : List Char) :
    Option (Int × List Char) := do
  let isDigit (character : Char) : Bool :=
    ((Text.hexValue? character).map fun value =>
      decide (value < base)).getD false
  let (digits, rest) ← digits? isDigit text
  let values ← digits.mapM Text.hexValue?
  let value : Nat := values.foldl (fun number digit => number * base + digit) 0
  some (value, rest)

/-- A decimal whole number, with or without a sign. -/
def decimalInteger? (text : List Char) : Option (Int × List Char) := do
  let (minus, rest) := sign text
  let (digits, rest) ← decimalDigits? rest
  let value : Int := Text.Decimal.valueFrom 0 digits
  some (if minus then -value else value, rest)

/-- A whole number of any size, and what follows it. -/
def anyInteger? : List Char → Option (Int × List Char)
  | '0' :: 'x' :: rest => basedInteger? 16 rest
  | '0' :: 'o' :: rest => basedInteger? 8 rest
  | '0' :: 'b' :: rest => basedInteger? 2 rest
  | rest => decimalInteger? rest

/-- Whole numbers are below this one, and not below its negative. -/
def integerLimit : Nat := Nat.pow 2 63

/-- A whole number, and what follows it. -/
def integer? (text : List Char) : Option (Int × List Char) := do
  let (value, rest) ← anyInteger? text
  if -(integerLimit : Int) ≤ value ∧
    value < integerLimit then some (value, rest) else none

/--
The digits of a fraction behind its point; without a point there are none.
-/
def fraction? : List Char → Option (List Char × List Char)
  | '.' :: rest => digits? Text.Decimal.isDigit rest
  | rest => some ([], rest)

/-- The exponent, if there is one. -/
def exponent? : List Char → Option (Int × List Char)
  | letter :: rest =>
      if letter == 'e' || letter == 'E' then do
        let (minus, rest) := sign rest
        let (digits, rest) ← digits? Text.Decimal.isDigit rest
        let value : Int := Text.Decimal.valueFrom 0 digits
        some (if minus then -value else value, rest)
      else
        some (0, letter :: rest)
  | [] => some (0, [])

/-- The numbers below ten to this power are doubles when they are rounded. -/
def surePower : Int := 308

/--
Digits times a power of ten are within the range of doubles when they
are rounded.
-/
def inRange (digits : List Char) (power : Int) : Bool :=
  let significant := digits.dropWhile (· == '0')
  let value := Text.Decimal.valueFrom 0 significant
  let magnitude := significant.length + power
  if significant.isEmpty || magnitude ≤ surePower then true
  else if surePower + 1 < magnitude then false
  else
    (Double.ofRatio false (value * Nat.pow 10 power.toNat)
      (Nat.pow 10 (-power).toNat)).isSome

/-- What follows a word for a number that is not finite. -/
def unbounded? : List Char → Option (List Char)
  | 'i' :: 'n' :: 'f' :: rest => some rest
  | 'n' :: 'a' :: 'n' :: rest => some rest
  | _ => none

/--
What follows a decimal fraction without its sign; it has a point or an exponent.
-/
def finite? (text : List Char) : Option (List Char) := do
  let (whole, afterWhole) ← decimalDigits? text
  let (fraction, afterFraction) ← fraction? afterWhole
  let (exponent, rest) ← exponent? afterFraction
  if rest.length < afterWhole.length ∧
      inRange (whole ++ fraction) (exponent - fraction.length) = true then
    some rest
  else
    none

/-- What follows a fraction. -/
def skipFraction? (text : List Char) : Option (List Char) :=
  let (_, rest) := sign text
  (unbounded? rest).or (finite? rest)

end DropletClient.Toml.Numeral
