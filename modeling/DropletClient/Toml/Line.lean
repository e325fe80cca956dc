import DropletClient.Text.Escape

namespace DropletClient.Toml

/-!
# Lines

What stands between the parts of a document: blanks, comments and line ends. A
line ends with a line feed, or with a carriage return and a line feed; a
carriage return alone ends nothing.
-/

/-- A blank inside a line. -/
def isBlank (character : Char) : Bool :=
  character == ' ' || character == '\t'

/-- What follows the blanks of a line. -/
def skipBlanks (text : List Char) : List Char :=
  text.dropWhile isBlank

/-- What follows a line end. -/
def lineEnd? : List Char → Option (List Char)
  | '\n' :: rest => some rest
  | '\r' :: '\n' :: rest => some rest
  | _ => none

/-- What follows a comment, if there is one. -/
def skipComment : List Char → List Char
  | '#' :: rest => rest.dropWhile Text.Escape.isPlain
  | rest => rest

/--
What follows a line on which nothing more stands but a comment; the last line
needs no end.
-/
def endOfLine? (text : List Char) : Option (List Char) :=
  match skipComment (skipBlanks text) with
  | [] => some []
  | rest => lineEnd? rest

/-- What follows blanks and line ends. -/
def skipBlankLines : List Char → List Char
  | '\n' :: rest => skipBlankLines rest
  | '\r' :: '\n' :: rest => skipBlankLines rest
  | character :: rest =>
      if isBlank character then skipBlankLines rest else character :: rest
  | [] => []

/-- What follows blanks, line ends and comments. -/
def skipLines : (inComment : Bool) → List Char → List Char
  | _, [] => []
  | _, '\n' :: rest => skipLines false rest
  | _, '\r' :: '\n' :: rest => skipLines false rest
  | true, character :: rest =>
      if Text.Escape.isPlain character then skipLines true rest
      else character :: rest
  | false, '#' :: rest => skipLines true rest
  | false, character :: rest =>
      if isBlank character then skipLines false rest else character :: rest

end DropletClient.Toml
