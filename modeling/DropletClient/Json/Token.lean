import DropletClient.Json.Numeral
import DropletClient.Text.Hexadecimal

namespace DropletClient.Json

/-!
# Tokens of JSON text

A machine reads a text character by character and gives out its tokens. White
space stands only between tokens and leaves no trace: `scan_blank`. A text with
a fault anywhere has no tokens.
-/

/-- The lexical units of JSON text. -/
inductive Token where
  | beginObject
  | endObject
  | beginArray
  | endArray
  | colon
  | comma
  | null
  | boolean (value : Bool)
  | number (value : Number)
  | text (value : String)
  deriving Repr, DecidableEq

/--
What the machine is reading. The characters of an unfinished token are kept
with the newest one first; a pair of escapes that spells one character is read
in parts.
-/
inductive Mode where
  | between
  | word (letters : List Char)
  | numeral (characters : List Char)
  | text (characters : List Char)
  | escape (characters : List Char)
  | codeUnit (characters : List Char) (leading : Option Nat) (value count : Nat)
  | pairEscape (characters : List Char) (leading : Nat)
  | pairLetter (characters : List Char) (leading : Nat)
  deriving Repr, DecidableEq

/-- The white space of JSON text. -/
def isSpace (character : Char) : Bool :=
  character == ' ' || character == '\t' || character == '\n' ||
    character == '\r'

/-- A character that may stand inside a numeral. -/
def isNumeralCharacter (character : Char) : Bool :=
  Text.Decimal.isDigit character || character == '-' || character == '+' ||
    character == '.' || character == 'e' || character == 'E'

/-- A letter that may stand inside a word. -/
def isWordLetter (character : Char) : Bool :=
  'a' ≤ character && character ≤ 'z'

/-- The tokens that are words. -/
def wordToken? (word : List Char) : Option Token :=
  if word = ['n', 'u', 'l', 'l'] then some .null
  else if word = ['t', 'r', 'u', 'e'] then some (.boolean true)
  else if word = ['f', 'a', 'l', 's', 'e'] then some (.boolean false)
  else none

/-- The token that a character is on its own. -/
def markToken? (character : Char) : Option Token :=
  match character with
  | '\x7b' => some .beginObject
  | '\x7d' => some .endObject
  | '[' => some .beginArray
  | ']' => some .endArray
  | ':' => some .colon
  | ',' => some .comma
  | _ => none

/-- What a character between two tokens gives out, and what it begins. -/
def opening (character : Char) : Option (List Token × Mode) :=
  if isSpace character then some ([], .between)
  else if character == '"' then some ([], .text [])
  else if Text.Decimal.isDigit character || character == '-' then
    some ([], .numeral [character])
  else if isWordLetter character then some ([], .word [character])
  else (markToken? character).map fun token => ([token], .between)

/-- The character that an escape of one letter stands for. -/
def escaped? (letter : Char) : Option Char :=
  match letter with
  | '"' => some '"'
  | '\\' => some '\\'
  | '/' => some '/'
  | 'b' => some '\x08'
  | 'f' => some '\x0c'
  | 'n' => some '\n'
  | 'r' => some '\r'
  | 't' => some '\t'
  | _ => none

/-- The first half of a pair of code units. -/
def isLeading (unit : Nat) : Bool :=
  0xD800 ≤ unit && unit ≤ 0xDBFF

/-- The second half of a pair of code units. -/
def isTrailing (unit : Nat) : Bool :=
  0xDC00 ≤ unit && unit ≤ 0xDFFF

/-- What follows a complete code unit: a half of a pair never stands alone. -/
def afterCodeUnit
    (characters : List Char)
    (leading : Option Nat)
    (unit : Nat) :
    Option Mode :=
  match leading with
  | none =>
      if isLeading unit then some (.pairEscape characters unit)
      else if isTrailing unit then none
      else some (.text (Char.ofNat unit :: characters))
  | some first =>
      if isTrailing unit then
        let value := 0x10000 + (first - 0xD800) * 0x400 + (unit - 0xDC00)
        some (.text (Char.ofNat value :: characters))
      else
        none

/-- What a character gives out, and what is read after it. -/
def step (mode : Mode) (character : Char) : Option (List Token × Mode) :=
  match mode with
  | .between => opening character
  | .word letters =>
      if isWordLetter character then some ([], .word (character :: letters))
      else do
        let token ← wordToken? letters.reverse
        let (tokens, next) ← opening character
        some (token :: tokens, next)
  | .numeral characters =>
      if isNumeralCharacter character then
        some ([], .numeral (character :: characters))
      else do
        let value ← readNumber? characters.reverse
        let (tokens, next) ← opening character
        some (.number value :: tokens, next)
  | .text characters =>
      if character == '"' then
        some ([.text (String.ofList characters.reverse)], .between)
      else if character == '\\' then some ([], .escape characters)
      else if character < ' ' then none
      else some ([], .text (character :: characters))
  | .escape characters =>
      if character == 'u' then some ([], .codeUnit characters none 0 0)
      else (escaped? character).map fun meaning =>
        ([], .text (meaning :: characters))
  | .codeUnit characters leading value count => do
      let digit ← Text.hexValue? character
      let next := value * 16 + digit
      if count < 3 then some ([], .codeUnit characters leading next (count + 1))
      else (afterCodeUnit characters leading next).map fun mode => ([], mode)
  | .pairEscape characters leading =>
      if character == '\\' then
        some ([], .pairLetter characters leading)
      else
        none
  | .pairLetter characters leading =>
      if character == 'u' then
        some ([], .codeUnit characters (some leading) 0 0)
      else
        none

/-- What the end of the text gives out; it must not cut a text short. -/
def finish : Mode → Option (List Token)
  | .between => some []
  | .word letters => (wordToken? letters.reverse).map fun token => [token]
  | .numeral characters =>
      (readNumber? characters.reverse).map fun value => [.number value]
  | _ => none

/-- The tokens of a text, read from a mode on. -/
def scanFrom (mode : Mode) : List Char → Option (List Token)
  | [] => finish mode
  | character :: rest => do
      let (tokens, next) ← step mode character
      let later ← scanFrom next rest
      some (tokens ++ later)

/-- The tokens of a text. -/
def scan (text : List Char) : Option (List Token) :=
  scanFrom .between text

/-- White space in front of a text leaves no trace. -/
theorem scan_blank
    {character : Char}
    (space : isSpace character = true)
    (text : List Char) :
    scan (character :: text) = scan text := by
  simp only [scan, scanFrom, step, opening, space, if_true, Option.bind_eq_bind,
    Option.bind_some, List.nil_append]
  cases scanFrom .between text <;> rfl

end DropletClient.Json
