import DropletClient.Text.Utf8

namespace DropletClient

/-!
# The environment

The variables that a program is started with. In bytes, each is a name, an
equals sign and a value, and a zero byte ends it.
-/

/--
The names of variables with their values, in the order in which they are given.
-/
abbrev Environment := List (String × String)

namespace Environment

/-- The parts of a byte sequence between its zero bytes. -/
def records : List UInt8 → List (List UInt8)
  | [] => [[]]
  | byte :: rest =>
      if byte = 0 then [] :: records rest
      else
        match records rest with
        | [] => [[byte]]
        | record :: later => (byte :: record) :: later

/--
The name and the value in a text; an equals sign in front belongs to the name.
-/
def assignment? : List Char → Option (String × String)
  | [] => none
  | head :: text =>
      match text.span (· != '=') with
      | (name, '=' :: value) =>
          some (String.ofList (head :: name), String.ofList value)
      | _ => none

/-- The variables in a byte sequence; what is no text is passed over. -/
def ofBytes (bytes : List UInt8) : Environment :=
  (records bytes).filterMap fun record =>
    (Text.Utf8.decode? record).bind assignment?

end Environment

end DropletClient
