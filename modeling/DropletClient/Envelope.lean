import DropletClient.Failure
import DropletClient.Json.Reader
import DropletClient.Text.Blank

namespace DropletClient

/-!
# Envelopes

The provider answers with a JSON object that carries a status word, up to two
explanations, and the payload under a name of its own. A failed call may come
with a good HTTP status, so both are looked at: `interpret` folds the HTTP
status and the body into a payload, an absent value, or one failure.
-/

/-- What the provider wraps an answer in. -/
structure Envelope where
  status : Option String
  explanation : Option String
  otherExplanation : Option String
  payload : List (String × Json)
  deriving Repr

/-- What an answer without the thing asked for means. -/
inductive NotFoundPolicy where
  | absent
  | raise
  deriving Repr, DecidableEq

namespace Envelope

/-- The name of the status word. -/
def statusName : String := "status"

/-- The name of the explanation. -/
def explanationName : String := "message"

/-- The name of the explanation that is used where the other one is missing. -/
def otherExplanationName : String := "error_message"

/-- The names that belong to the envelope and never to the payload. -/
def reservedNames : List String :=
  [statusName, explanationName, otherExplanationName]

/--
A text of the envelope: it may be missing or null, and is given once at most.
-/
def readReserved?
    (name : String)
    (members : List (String × Json)) :
    Option (Option String) :=
  if 1 < Json.occurrences name members then
    none
  else
    match Json.lookup name members with
    | none => some none
    | some .null => some none
    | some (.text value) => some (some value)
    | some _ => none

/-- The envelope that a value is. -/
def ofJson? : Json → Option Envelope
  | .object members => do
      let status ← readReserved? statusName members
      let explanation ← readReserved? explanationName members
      let otherExplanation ← readReserved? otherExplanationName members
      let payload :=
        members.filter fun member => !reservedNames.contains member.1
      some { status, explanation, otherExplanation, payload }
  | _ => none

/-- The envelope that a byte sequence spells. -/
def ofBytes? (bytes : List UInt8) : Option Envelope :=
  (Json.ofBytes? bytes).bind ofJson?

/-- A text in lower-case ASCII letters. -/
def lowered (text : String) : List Char :=
  text.toList.map Char.toLower

/-- The status word for a failed call, in letters of either case. -/
def errorWord : List Char :=
  "error".toList

/-- The envelope of a failed call. -/
def isError (envelope : Envelope) : Bool :=
  match envelope.status with
  | some word => lowered word == errorWord
  | none => false

/-- The first explanation that is given, unless it is blank. -/
def details? (envelope : Envelope) : Option String :=
  (envelope.explanation.or envelope.otherExplanation).filter fun text =>
    !Text.isBlankString text

/-- What an explanation of refused access contains. -/
def accessMarkers : List String :=
  ["access denied", "not authorized", "authentication"]

/-- One text occurs inside another. -/
def occursIn (part : List Char) : List Char → Bool
  | [] => part.isEmpty
  | character :: rest =>
      part.isPrefixOf (character :: rest) || occursIn part rest

/-- An explanation of refused access, in letters of either case. -/
def explainsRefusedAccess (details : String) : Bool :=
  accessMarkers.any fun marker => occursIn marker.toList (lowered details)

/-- The failure that an explanation tells of. -/
def failureOf (details : String) : Failure :=
  if explainsRefusedAccess details then .authorization details
  else .provider details

/-- The failure of a failed call. -/
def toFailure (envelope : Envelope) : Failure :=
  failureOf (envelope.details?.getD "unspecified provider error")

end Envelope

namespace Response

/-- The blanks of a body, as bytes. -/
def isBlankByte (byte : UInt8) : Bool :=
  byte == 32 || byte == 9 || byte == 10 || byte == 12 || byte == 13

/-- A body that is not blank. -/
def content? (body : Option (List UInt8)) : Option (List UInt8) :=
  body.filter fun bytes => !bytes.all isBlankByte

/--
What a body tells about a failure: the explanation of an envelope, or else
all of it.
-/
def describe (bytes : List UInt8) : String :=
  match (Envelope.ofBytes? bytes).bind Envelope.details? with
  | some details => details
  | none => String.ofList (Text.trim (Text.Utf8.decodeLossy bytes))

/-- What a body tells about a failure, if there is one. -/
def describe? (content : Option (List UInt8)) : Option String :=
  content.map describe

/-- The text for a failure that nothing is told about. -/
def statusText (status : Nat) : String :=
  "HTTP " ++ Text.Decimal.ofNat status

/-- The HTTP status for refused access. -/
def unauthorized : Nat := 401

/-- The HTTP status for what does not exist. -/
def notFound : Nat := 404

/-- An HTTP status that announces success. -/
def isSuccess (status : Nat) : Bool :=
  200 ≤ status && status ≤ 299

/--
The envelope of an answer; absent for a blank body, and where the thing asked
for is absent.
-/
def envelope
    (status : Nat)
    (body : Option (List UInt8))
    (policy : NotFoundPolicy) :
    Except Failure (Option Envelope) :=
  let content := content? body
  if status = unauthorized then
    .error (.authorization ((describe? content).getD (statusText status)))
  else if status = notFound then
    match policy with
    | .absent => .ok none
    | .raise =>
        .error (.notFound ((describe? content).getD (statusText status)))
  else if isSuccess status then
    match content with
    | none => .ok none
    | some bytes =>
        match Envelope.ofBytes? bytes with
        | none => .error (.transport (.malformed .notAnEnvelope))
        | some envelope =>
            if envelope.isError then .error envelope.toFailure
            else .ok (some envelope)
  else
    .error (.transport (.httpStatus status (describe? content)))

/--
The payload of an answer under a name, read as a record; null is no payload.
-/
def interpret
    (read : Json → Except Mismatch α)
    (status : Nat)
    (body : Option (List UInt8))
    (field : String)
    (policy : NotFoundPolicy) :
    Except Failure (Option α) := do
  match ← envelope status body policy with
  | none => return none
  | some envelope =>
      match (Json.lookup field envelope.payload).bind Json.present? with
      | none => throw (.transport (.missingPayload field))
      | some value =>
          match read value with
          | .ok record => return some record
          | .error mismatch =>
              throw (.transport (.malformed (.record mismatch)))

/-- An answer that carries no payload. -/
def interpretUnit
    (status : Nat)
    (body : Option (List UInt8)) :
    Except Failure Unit :=
  (envelope status body .raise).map fun _ => ()

end Response

end DropletClient
