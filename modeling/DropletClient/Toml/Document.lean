import DropletClient.Toml.Value

namespace DropletClient.Toml.Document

/-!
# Documents

A document is a row of lines: names with values, and headers of tables. A header
says to which table the values below it belong.
-/

/--
A name between brackets, the row of closing brackets being given, and what
follows its line.
-/
def header? (closing text : List Char) : Option (List String × List Char) := do
  let (name, rest) ← Name.read? text
  if closing.isPrefixOf rest then
    let rest ← endOfLine? (rest.drop closing.length)
    some (name, rest)
  else
    none

/-- A name with its value, and what follows its line. -/
def entry? (text : List Char) : Option (List String × Value × List Char) := do
  let (name, rest) ← Name.read? text
  match rest with
  | '=' :: rest => do
      let (value, rest) ← Value.read? (skipBlanks rest)
      let rest ← endOfLine? rest
      some (name, value, rest)
  | _ => none

/--
The members after all lines, the last header and the members before being given.
-/
def lines? :
    (fuel : Nat) → (header : List String) → Members → List Char → Option Members
  | 0, _, _, _ => none
  | fuel + 1, header, members, text =>
      match skipLines false text with
      | [] => some members
      | '[' :: '[' :: rest => do
          let (name, rest) ← header? [']', ']'] rest
          let last ← name.getLast?
          let members ← members.changeAt? (·.appendTable? last) name.dropLast
          lines? fuel name members rest
      | '[' :: rest => do
          let (name, rest) ← header? [']'] rest
          let last ← name.getLast?
          let members ← members.changeAt? (·.openTable? last) name.dropLast
          lines? fuel name members rest
      | rest => do
          let (name, value, rest) ← entry? rest
          let members ← members.changeAt? (·.addValue? value true name) header
          lines? fuel header members rest

/-- A mark of the byte order in front of a document does not belong to it. -/
def skipByteOrderMark : List Char → List Char
  | '\uFEFF' :: rest => rest
  | rest => rest

/-- The names of a document with what they stand for. -/
def read? (document : List Char) : Option Members :=
  let text := skipByteOrderMark document
  lines? (text.length + 1) [] [] text

end DropletClient.Toml.Document
