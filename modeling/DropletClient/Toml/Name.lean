import DropletClient.Toml.Quoted

namespace DropletClient.Toml.Name

/-!
# Names

A name is a row of parts with points between them. A part is quoted, or
else made of letters, digits, underscores and hyphens; only quoted parts
can be empty.
-/

/-- A name has fewer parts than this. -/
def partLimit : Nat := 80

/-- A character of a part without quotes. -/
def isBare (character : Char) : Bool :=
  Text.Decimal.isDigit character || ('a' ≤ character && character ≤ 'z') ||
    ('A' ≤ character && character ≤ 'Z') || character == '_' || character == '-'

/-- One part, and what follows it. -/
def part? (text : List Char) : Option (List Char × List Char) :=
  match Quoted.line? text with
  | some quoted => some quoted
  | none =>
      match text.span isBare with
      | ([], _) => none
      | (part, rest) => some (part, rest)

/--
Fewer parts than a limit, and what follows them; blanks around the parts are
passed over.
-/
def parts? : (limit : Nat) → List Char → Option (List String × List Char)
  | 0, _ => none
  | limit + 1, text => do
      let (part, rest) ← part? (skipBlanks text)
      match skipBlanks rest with
      | '.' :: rest => do
          let (parts, rest) ← parts? limit rest
          some (String.ofList part :: parts, rest)
      | rest => if limit = 0 then none else some ([String.ofList part], rest)

/-- A name, and what follows it. -/
def read? (text : List Char) : Option (List String × List Char) :=
  parts? partLimit text

end DropletClient.Toml.Name
