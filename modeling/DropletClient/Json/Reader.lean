import DropletClient.Json.Token
import DropletClient.Text.Utf8

namespace DropletClient.Json

/-!
# Reading JSON text

Tokens are folded into a value by a pushdown machine, which remembers the
containers that are still open. A container that would be nested too deeply
is refused.
-/

/--
A container that is still open, with what it holds so far, the newest first.
-/
inductive Frame where
  | items (read : List Json)
  | members (read : List (String × Json)) (name : String)
  deriving Repr

/-- Where the machine stands in the value that it reads. -/
inductive Reader where
  | awaitValue (frames : List Frame)
  | awaitFirstItem (frames : List Frame)
  | awaitFirstName (frames : List Frame)
  | awaitName (frames : List Frame) (read : List (String × Json))
  | awaitColon
      (frames : List Frame)
      (read : List (String × Json))
      (name : String)
  | complete (frames : List Frame) (value : Json)
  deriving Repr

/-- How many containers may be open at once. -/
def greatestDepth : Nat := 127

namespace Reader

/--
The start of a value that a token makes: a scalar is complete, a
container is open.
-/
def beginValue (frames : List Frame) : Token → Option Reader
  | .null => some (.complete frames .null)
  | .boolean value => some (.complete frames (.boolean value))
  | .number value => some (.complete frames (.number value))
  | .text value => some (.complete frames (.text value))
  | .beginArray =>
      if frames.length < greatestDepth then
        some (.awaitFirstItem frames)
      else
        none
  | .beginObject =>
      if frames.length < greatestDepth then
        some (.awaitFirstName frames)
      else
        none
  | _ => none

/-- What a token does to a complete value inside the open containers. -/
def continueAfter
    (frames : List Frame)
    (value : Json)
    (token : Token) :
    Option Reader :=
  match frames, token with
  | .items read :: outer, .comma =>
      some (.awaitValue (.items (value :: read) :: outer))
  | .items read :: outer, .endArray =>
      some (.complete outer (.array (value :: read).reverse))
  | .members read name :: outer, .comma =>
      some (.awaitName outer ((name, value) :: read))
  | .members read name :: outer, .endObject =>
      some (.complete outer (.object ((name, value) :: read).reverse))
  | _, _ => none

/-- What a token does to the machine. -/
def step (reader : Reader) (token : Token) : Option Reader :=
  match reader with
  | .awaitValue frames => beginValue frames token
  | .awaitFirstItem frames =>
      if token = .endArray then some (.complete frames (.array []))
      else beginValue (.items [] :: frames) token
  | .awaitFirstName frames =>
      match token with
      | .endObject => some (.complete frames (.object []))
      | .text name => some (.awaitColon frames [] name)
      | _ => none
  | .awaitName frames read =>
      match token with
      | .text name => some (.awaitColon frames read name)
      | _ => none
  | .awaitColon frames read name =>
      if token = .colon then
        some (.awaitValue (.members read name :: frames))
      else
        none
  | .complete frames value => continueAfter frames value token

/-- The value of a machine that has read one whole value and nothing else. -/
def result? : Reader → Option Json
  | .complete [] value => some value
  | _ => none

end Reader

/-- The value that a token sequence spells. -/
def ofTokens? (tokens : List Token) : Option Json :=
  (tokens.foldlM Reader.step (.awaitValue [])).bind Reader.result?

/-- The value that a text spells. -/
def ofText? (text : List Char) : Option Json :=
  (scan text).bind ofTokens?

/--
The value that a byte sequence spells; the bytes must be UTF-8 throughout.
-/
def ofBytes? (bytes : List UInt8) : Option Json :=
  (Text.Utf8.decode? bytes).bind ofText?

end DropletClient.Json
