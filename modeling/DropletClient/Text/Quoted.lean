import DropletClient.Text.Hexadecimal
import DropletClient.Text.Invisible

namespace DropletClient.Text

/-!
# Quoted text

How a text is shown inside a message: between double quotes, with escapes for
the quote, the backslash and everything that has no visible form of its own.
-/

/-- How one character is shown between the quotes. -/
def quotedCharacter (character : Char) : List Char :=
  match character with
  | '\x00' => ['\\', '0']
  | '\t' => ['\\', 't']
  | '\r' => ['\\', 'r']
  | '\n' => ['\\', 'n']
  | '\\' => ['\\', '\\']
  | '"' => ['\\', '"']
  | other =>
      if isInvisible other then
        ['\\', 'u', '\x7b'] ++ hexadecimal other.toNat ++ ['\x7d']
      else
        [other]

/-- A text between double quotes, with escapes. -/
def quoted (text : String) : String :=
  String.ofList (['"'] ++ text.toList.flatMap quotedCharacter ++ ['"'])

end DropletClient.Text
