import DropletClient.Toml.Line

namespace DropletClient.Toml.Quoted

/-!
# Quoted text

A text stands between double quotes, with escapes, or between apostrophes, as it
is. Between three of either it can go over several lines, and every line end in
it is a line feed.
-/

/-- The text up to the closing apostrophe, and what follows it. -/
def literal? : List Char → Option (List Char × List Char)
  | [] => none
  | '\'' :: rest => some ([], rest)
  | character :: rest =>
      if Text.Escape.isPlain character then
        (literal? rest).map fun (later, rest) => (character :: later, rest)
      else
        none

/-- Three marks close a text; up to two more in front of them belong to it. -/
def closing?
    (mark : Char)
    (text : List Char) :
    Option (List Char × List Char) :=
  let count := (text.takeWhile (· == mark)).length
  if count < 3 then none
  else some (List.replicate (min (count - 3) 2) mark, text.drop (min count 5))

/-- The text of several lines without escapes, and what follows it. -/
def literalLines? : List Char → Option (List Char × List Char)
  | [] => none
  | '\'' :: rest =>
      match closing? '\'' ('\'' :: rest) with
      | some closed => some closed
      | none =>
          (literalLines? rest).map fun (later, rest) => ('\'' :: later, rest)
  | '\n' :: rest =>
      (literalLines? rest).map fun (later, rest) => ('\n' :: later, rest)
  | '\r' :: '\n' :: rest =>
      (literalLines? rest).map fun (later, rest) => ('\n' :: later, rest)
  | character :: rest =>
      if Text.Escape.isPlain character then
        (literalLines? rest).map fun (later, rest) => (character :: later, rest)
      else
        none

/--
The text of several lines with escapes, and what follows it. A backslash at the
end of a line joins the line to the next one that is not blank.
-/
def escapedLines? : (fuel : Nat) → List Char → Option (List Char × List Char)
  | 0, _ => none
  | _, [] => none
  | fuel + 1, '"' :: rest =>
      match closing? '"' ('"' :: rest) with
      | some closed => some closed
      | none =>
          (escapedLines? fuel rest).map fun (later, rest) =>
            ('"' :: later, rest)
  | fuel + 1, '\n' :: rest =>
      (escapedLines? fuel rest).map fun (later, rest) => ('\n' :: later, rest)
  | fuel + 1, '\r' :: '\n' :: rest =>
      (escapedLines? fuel rest).map fun (later, rest) => ('\n' :: later, rest)
  | fuel + 1, '\\' :: rest =>
      match lineEnd? (skipBlanks rest) with
      | some later => escapedLines? fuel (skipBlankLines later)
      | none => do
          let (character, rest) ← Text.Escape.character? rest
          let (later, rest) ← escapedLines? fuel rest
          some (character :: later, rest)
  | fuel + 1, character :: rest =>
      if Text.Escape.isPlain character then
        (escapedLines? fuel rest).map fun (later, rest) =>
          (character :: later, rest)
      else
        none

/-- A line end right behind the opening marks does not belong to the text. -/
def skipFirstLineEnd (text : List Char) : List Char :=
  (lineEnd? text).getD text

/-- A text in one of the two forms of one line, and what follows it. -/
def line? : List Char → Option (List Char × List Char)
  | '"' :: rest => Text.Escape.text? rest
  | '\'' :: rest => literal? rest
  | _ => none

/-- A text in one of the four forms, and what follows it. -/
def text? (text : List Char) : Option (List Char × List Char) :=
  match text with
  | '"' :: '"' :: '"' :: rest =>
      escapedLines? text.length (skipFirstLineEnd rest)
  | '\'' :: '\'' :: '\'' :: rest => literalLines? (skipFirstLineEnd rest)
  | rest => line? rest

end DropletClient.Toml.Quoted
