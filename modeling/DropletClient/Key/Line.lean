import DropletClient.Key.Component
import DropletClient.Text.Blank
import DropletClient.Text.Split
import DropletClient.Text.Utf8

namespace DropletClient

/-!
# Public key lines

A public key is written as one line: the label of its type, a payload in base64,
and a comment. The payload is a sequence of fields, of which the first repeats
the label and the others are the components. Reading takes the first part that
looks like a payload and ignores all else on the line.
-/

/--
A public key; of a key that is neither RSA nor DSA only the name of its
algorithm is known.
-/
inductive PublicKey where
  | rsa (e n : Key.Component)
  | dsa (p q g y : Key.Component)
  | other (algorithm : String)
  deriving Repr, DecidableEq

namespace PublicKey

/-- The label of RSA keys. -/
def rsaLabel : String := "ssh-rsa"

/-- The label of DSA keys. -/
def dsaLabel : String := "ssh-dss"

/-- The comment at the end of every written line. -/
def comment : String := "user@host"

/--
How every payload begins, because its first field is shorter than 65536 bytes.
-/
def payloadStart : List Char :=
  ['A', 'A', 'A', 'A']

/-- The bytes of a text. -/
def textBytes (text : String) : List UInt8 :=
  Text.Utf8.encode text.toList

/-- The part of a line that is taken as the payload. -/
def payload? (line : String) : Option (List Char) :=
  ((Text.split ' ' (Text.trim line.toList)).find? payloadStart.isPrefixOf).map
    Text.trimEnd

/-- The component in the next field, and what follows it. -/
def nextComponent
    (name : String)
    (bytes : List UInt8) :
    Except Key.Fault (Key.Component × List UInt8) := do
  let (field, rest) ← Key.Wire.read bytes
  let component ← Key.Component.ofField name field
  return (component, rest)

/-- The label in the next field, and what follows it. -/
def nextLabel
    (bytes : List UInt8) :
    Except Key.Fault (String × List UInt8) := do
  let (field, rest) ← Key.Wire.read bytes
  match Text.Utf8.decode? field with
  | some text => return (String.ofList text, rest)
  | none => throw .labelNotText

/--
The key that a payload holds; bytes after the last component are passed over.
-/
def ofBytes (bytes : List UInt8) : Except Key.Fault PublicKey := do
  let (label, rest) ← nextLabel bytes
  if label = rsaLabel then do
    let (e, rest) ← nextComponent "e" rest
    let (n, _) ← nextComponent "n" rest
    return .rsa e n
  else if label = dsaLabel then do
    let (p, rest) ← nextComponent "p" rest
    let (q, rest) ← nextComponent "q" rest
    let (g, rest) ← nextComponent "g" rest
    let (y, _) ← nextComponent "y" rest
    return .dsa p q g y
  else
    throw (.unknownType label)

/-- The RSA or DSA key on a line. -/
def ofLine (line : String) : Except Key.Fault PublicKey :=
  match payload? line with
  | none => .error .noPayload
  | some payload =>
      match Base64.decode (Text.Utf8.encode payload) with
      | .error fault => .error (.payload fault)
      | .ok bytes => ofBytes bytes

/-- The label and the components of a key that can be written. -/
def fields : PublicKey → Except Key.Fault (String × List (List UInt8))
  | .rsa e n => .ok (rsaLabel, [e.bytes, n.bytes])
  | .dsa p q g y => .ok (dsaLabel, [p.bytes, q.bytes, g.bytes, y.bytes])
  | .other algorithm => .error (.unsupportedAlgorithm algorithm)

/-- The payload of a key as bytes, with its label. -/
def toBytes (key : PublicKey) : Except Key.Fault (String × List UInt8) := do
  let (label, components) ← key.fields
  let bytes ← Key.Wire.writeAll (textBytes label :: components)
  return (label, bytes)

/-- The line of a key. -/
def toLine (key : PublicKey) : Except Key.Fault String := do
  let (label, bytes) ← key.toBytes
  let payload :=
    String.ofList ((Base64.encode bytes).map Text.Utf8.asciiCharacter)
  return label ++ " " ++ payload ++ " " ++ comment

end PublicKey

end DropletClient
