import DropletClient.Json.Basic
import DropletClient.Key.Fault
import DropletClient.Text.Quoted

namespace DropletClient

/-!
# Mismatches

Why a JSON value is not the record that was expected.
-/

/--
What a message tells of a value that was found: its kind, and a scalar itself.
-/
inductive Found where
  | null
  | boolean (value : Bool)
  | number (value : Number)
  | text (value : String)
  | sequence
  | map
  deriving Repr, DecidableEq

namespace Found

/-- What a message tells of a value. -/
def ofJson : Json → Found
  | .null => .null
  | .boolean value => .boolean value
  | .number value => .number value
  | .text value => .text value
  | .array _ => .sequence
  | .object _ => .map

/-- A text between backquotes. -/
def backquoted (text : String) : String :=
  "\x60" ++ text ++ "\x60"

/-- The wording for a value. -/
def message : Found → String
  | .null => "null"
  | .boolean value =>
      "boolean " ++ backquoted (if value then "true" else "false")
  | .number (.integer value) =>
      "integer " ++ backquoted (Text.Decimal.ofInt value)
  | .number (.double value) => "floating point " ++ backquoted value.text
  | .text value => "string " ++ Text.quoted value
  | .sequence => "sequence"
  | .map => "map"

end Found

/-- Why a JSON value is not the record that was expected. -/
inductive Mismatch where
  | missingField (name : String)
  | wrongType (found : Found) (expected : String)
  | outOfRange (value : Int) (expected : String)
  | severalMembers
  | wrongLength (length : Nat) (expected : String)
  | neitherTextNorNumber
  | timestamp
  | key (fault : Key.Fault)
  deriving Repr, DecidableEq

namespace Mismatch

/-- The wording of a mismatch. -/
def message : Mismatch → String
  | .missingField name => "missing field " ++ Found.backquoted name
  | .wrongType found expected =>
      "invalid type: " ++ found.message ++ ", expected " ++ expected
  | .outOfRange value expected =>
      "invalid value: " ++ (Found.number (.integer value)).message ++
        ", expected " ++ expected
  | .severalMembers => "invalid value: map, expected map with a single key"
  | .wrongLength length expected =>
      "invalid length " ++ Text.Decimal.ofNat length ++
        ", expected " ++ expected
  | .neitherTextNorNumber =>
      "data did not match any variant of untagged enum Scalar"
  | .timestamp => "input is not a date, a time of day and an offset"
  | .key fault => fault.message

end Mismatch

end DropletClient
