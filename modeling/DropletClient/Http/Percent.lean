import DropletClient.Request.Action
import DropletClient.Text.Split
import DropletClient.Text.Utf8

namespace DropletClient.Http

/-!
# Percent encoding

Bytes that must not stand in an address as themselves are written as a percent
sign and two upper-case hexadecimal digits. A query is written as a form: a
blank becomes a plus sign, and only letters, digits and four marks stay as
they are.
-/

/-- The upper-case hexadecimal digit of a number below sixteen. -/
def upperHexDigit (value : Nat) : Char :=
  if value < 10 then Char.ofNat (48 + value) else Char.ofNat (55 + value)

/-- A byte as a percent sign and two digits. -/
def percentByte (byte : UInt8) : List Char :=
  ['%', upperHexDigit (byte.toNat / 16), upperHexDigit (byte.toNat % 16)]

/-- A character as itself, or as the bytes of its UTF-8 form. -/
def percentEncode (isKept : Char → Bool) (character : Char) : List Char :=
  if isKept character then [character]
  else (String.utf8EncodeChar character).flatMap percentByte

/-- An ASCII letter or digit. -/
def isAlphanumeric (character : Char) : Bool :=
  Text.Decimal.isDigit character || ('a' ≤ character && character ≤ 'z') ||
    ('A' ≤ character && character ≤ 'Z')

/-- A character that stands in a form as itself. -/
def isKeptInForm (character : Char) : Bool :=
  isAlphanumeric character || character == '*' || character == '-' ||
    character == '.' || character == '_'

/-- A character of a form. -/
def formCharacter (character : Char) : List Char :=
  if character == ' ' then ['+'] else percentEncode isKeptInForm character

/-- A text of a form. -/
def formText (text : String) : List Char :=
  text.toList.flatMap formCharacter

/-- A name and a value of a form. -/
def formPair (pair : QueryPair) : List Char :=
  formText pair.1 ++ '=' :: formText pair.2

/-- Names and values as a form. -/
def form (pairs : List QueryPair) : List Char :=
  Text.join ['&'] (pairs.map formPair)

end DropletClient.Http
