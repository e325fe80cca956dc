import DropletClient.Text.Hexadecimal

namespace DropletClient.Text.Escape

/-!
# Escapes

A text between double quotes stands on one line. A backslash in it begins an
escape: one letter that stands for a character, or the letter `u` or `U` with
the four or eight hexadecimal digits of a code point.
-/

/--
A character that can stand for itself: no control character of ASCII but the
tab.
-/
def isPlain (character : Char) : Bool :=
  character == '\t' || (' ' ≤ character && character != '\x7f')

/-- The character that a letter after a backslash stands for. -/
def letter? : Char → Option Char
  | '"' => some '"'
  | '\\' => some '\\'
  | 'b' => some '\x08'
  | 'f' => some '\x0c'
  | 'n' => some '\n'
  | 'r' => some '\r'
  | 't' => some '\t'
  | _ => none

/--
The character of a code point in hexadecimal digits, as many as asked for, and
what follows.
-/
def codePoint?
    (count : Nat)
    (text : List Char) :
    Option (Char × List Char) := do
  let digits := text.take count
  if digits.length < count then none
  let values ← digits.mapM hexValue?
  let value := values.foldl (fun number digit => number * 16 + digit) 0
  if value.isValidChar then some (Char.ofNat value, text.drop count) else none

/-- The character of an escape without its backslash, and what follows it. -/
def character? : List Char → Option (Char × List Char)
  | 'u' :: rest => codePoint? 4 rest
  | 'U' :: rest => codePoint? 8 rest
  | letter :: rest => (letter? letter).map fun character => (character, rest)
  | [] => none

/--
The text up to the closing quote, and what follows it, in a bounded number
of steps.
-/
def textWithin? : (fuel : Nat) → List Char → Option (List Char × List Char)
  | 0, _ => none
  | _, [] => none
  | _, '"' :: rest => some ([], rest)
  | fuel + 1, '\\' :: rest => do
      let (character, rest) ← character? rest
      let (later, rest) ← textWithin? fuel rest
      some (character :: later, rest)
  | fuel + 1, character :: rest =>
      if isPlain character then
        (textWithin? fuel rest).map fun (later, rest) =>
          (character :: later, rest)
      else
        none

/--
The text behind an opening quote up to the closing one, and what follows it.
-/
def text? (text : List Char) : Option (List Char × List Char) :=
  textWithin? (text.length + 1) text

end DropletClient.Text.Escape
