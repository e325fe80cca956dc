import DropletClient.Json.Basic
import DropletClient.Text.Hexadecimal

namespace DropletClient.Json

/-!
# Writing JSON text

The text of a value without white space. Texts are written character by
character, with escapes for the quote, the backslash and the control characters.
-/

/-- A code unit escape of a character below U+0100. -/
def controlEscape (character : Char) : List Char :=
  ['\\', 'u', '0', '0', Text.hexDigit (character.toNat / 16),
    Text.hexDigit (character.toNat % 16)]

/-- How one character is written inside a text. -/
def writtenCharacter (character : Char) : List Char :=
  match character with
  | '"' => ['\\', '"']
  | '\\' => ['\\', '\\']
  | '\n' => ['\\', 'n']
  | '\r' => ['\\', 'r']
  | '\t' => ['\\', 't']
  | other => if other < ' ' then controlEscape other else [other]

/-- A text between double quotes. -/
def writtenText (text : String) : List Char :=
  ['"'] ++ text.toList.flatMap writtenCharacter ++ ['"']

mutual

/-- The text of a value. -/
def write : Json → List Char
  | .null => "null".toList
  | .boolean value => if value then "true".toList else "false".toList
  | .number value => value.text.toList
  | .text value => writtenText value
  | .array items => '[' :: (writeItems items ++ [']'])
  | .object members => '\x7b' :: (writeMembers members ++ ['\x7d'])

/-- The texts of items, with commas between them. -/
def writeItems : List Json → List Char
  | [] => []
  | [item] => write item
  | item :: rest => write item ++ ',' :: writeItems rest

/-- The texts of members, with commas between them. -/
def writeMembers : List (String × Json) → List Char
  | [] => []
  | [(name, value)] => writtenText name ++ ':' :: write value
  | (name, value) :: rest =>
      writtenText name ++ ':' :: (write value ++ ',' :: writeMembers rest)

end

/-- The text of a value as a string. -/
def render (value : Json) : String :=
  String.ofList (write value)

end DropletClient.Json
