import DropletClient.Text.Decimal

namespace DropletClient.Text

/-!
# Hexadecimal numerals

Numbers written with lower-case hexadecimal digits, and the value of digits of
either case.
-/

/-- The lower-case hexadecimal digit of a number below sixteen. -/
def hexDigit (value : Nat) : Char :=
  if value < 10 then Char.ofNat (48 + value) else Char.ofNat (87 + value)

/-- A number in hexadecimal digits, without leading zeros. -/
def hexadecimal (value : Nat) : List Char :=
  if value < 16 then [hexDigit value]
  else hexadecimal (value / 16) ++ [hexDigit (value % 16)]

/-- The last hexadecimal digits of a number, as many as asked for. -/
def hexDigits : Nat → Nat → List Char
  | 0, _ => []
  | count + 1, value => hexDigits count (value / 16) ++ [hexDigit (value % 16)]

/-- The value of a hexadecimal digit of either case. -/
def hexValue? (character : Char) : Option Nat :=
  if Decimal.isDigit character then some (character.toNat - 48)
  else if 'a' ≤ character ∧ character ≤ 'f' then some (character.toNat - 87)
  else if 'A' ≤ character ∧ character ≤ 'F' then some (character.toNat - 55)
  else none

/-- A hexadecimal digit of either case. -/
def isHexDigit (character : Char) : Bool :=
  (hexValue? character).isSome

end DropletClient.Text
