import DropletClient.Toml.Moment
import DropletClient.Toml.Name
import DropletClient.Toml.Numeral
import DropletClient.Toml.Table

namespace DropletClient.Toml.Value

/-!
# Reading values

A value is a text, a truth value, a moment, a number, an array or an inline
table. An array may go over several lines and may end with a comma; an inline
table may do neither.
-/

/-- Arrays and inline tables are nested less deep than this. -/
def depthLimit : Nat := 80

/-- A value that holds no other values, and what follows it. -/
def simple? (text : List Char) : Option (Value × List Char) :=
  match text with
  | '"' :: _ => quoted?
  | '\'' :: _ => quoted?
  | 't' :: 'r' :: 'u' :: 'e' :: rest => some (.boolean true, rest)
  | 'f' :: 'a' :: 'l' :: 's' :: 'e' :: rest => some (.boolean false, rest)
  | _ =>
      ((Moment.skip? text).map fun rest => (Value.moment, rest)).or
        (((Numeral.skipFraction? text).map fun rest =>
          (Value.fraction, rest)).or
          ((Numeral.integer? text).map fun (value, rest) =>
            (Value.integer value, rest)))
where
  /-- A quoted text. -/
  quoted? : Option (Value × List Char) :=
    (Quoted.text? text).map fun (value, rest) =>
      (.text (String.ofList value), rest)

mutual

/-- A value inside so many arrays and inline tables, and what follows it. -/
def within? :
    (fuel : Nat) → (depth : Nat) → List Char → Option (Value × List Char)
  | 0, _, _ => none
  | fuel + 1, depth, unread =>
      match unread with
      | '[' :: rest =>
          if depth + 1 < depthLimit then
            (items? fuel (depth + 1) (skipLines false rest)).map fun rest =>
              (.array, rest)
          else
            none
      | '\x7b' :: rest =>
          if depth + 1 < depthLimit then
            match skipBlanks rest with
            | '\x7d' :: rest => some (.table, rest)
            | rest =>
                (members? fuel (depth + 1) [] rest).map fun rest =>
                  (.table, rest)
          else
            none
      | _ => simple? unread

/-- What follows the items of an array and its closing bracket. -/
def items? : (fuel : Nat) → (depth : Nat) → List Char → Option (List Char)
  | 0, _, _ => none
  | _, _, ']' :: rest => some rest
  | fuel + 1, depth, unread => do
      let (_, rest) ← within? fuel depth unread
      match skipLines false rest with
      | ',' :: rest => items? fuel depth (skipLines false rest)
      | ']' :: rest => some rest
      | _ => none

/--
What follows the members of an inline table, beside those before, and its
closing brace.
-/
def members? :
    (fuel : Nat) → (depth : Nat) → Members → List Char → Option (List Char)
  | 0, _, _, _ => none
  | fuel + 1, depth, members, unread => do
      let (name, rest) ← Name.read? unread
      match rest with
      | '=' :: rest => do
          let (value, rest) ← within? fuel depth (skipBlanks rest)
          let members ← members.addValue? value true name
          match skipBlanks rest with
          | ',' :: rest => members? fuel depth members rest
          | '\x7d' :: rest => some rest
          | _ => none
      | _ => none

end

/-- A value, and what follows it. -/
def read? (text : List Char) : Option (Value × List Char) :=
  within? (2 * text.length + 2) 0 text

end DropletClient.Toml.Value
