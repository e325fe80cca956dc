import DropletClient.Identifier
import DropletClient.Record.Mismatch

namespace DropletClient.Record

/-!
# Scalars in records

How the values of single fields are read: numbers that identify, texts, flags,
texts that may arrive as numbers, and lists.
-/

/-- A whole number with 32 bits. -/
def readInt32 : Json → Except Mismatch Int32
  | .number (.integer value) =>
      if Identifier.inRange value then .ok (Int32.ofInt value)
      else .error (.outOfRange value "i32")
  | other => .error (.wrongType (Found.ofJson other) "i32")

/-- A text. -/
def readText : Json → Except Mismatch String
  | .text value => .ok value
  | other => .error (.wrongType (Found.ofJson other) "a string")

/-- A value that may be null. -/
def readNullable
    (read : Json → Except Mismatch α) :
    Json → Except Mismatch (Option α)
  | .null => .ok none
  | value => (read value).map some

/-- A flag. -/
def readBoolean : Json → Except Mismatch Bool
  | .boolean value => .ok value
  | other => .error (.wrongType (Found.ofJson other) "a boolean")

/-- A flag that is not set if it is null. -/
def readFlag (value : Json) : Except Mismatch Bool :=
  (readNullable readBoolean value).map (·.getD false)

/-- A text that may arrive as a number. -/
def readTextOrNumber : Json → Except Mismatch String
  | .text value => .ok value
  | .number value => .ok value.text
  | _ => .error .neitherTextNorNumber

/--
All items, each read in the same way; the first fault is the one reported.
-/
def readItems
    (read : Json → Except Mismatch α) :
    List Json → Except Mismatch (List α)
  | [] => .ok []
  | item :: rest => do
      let value ← read item
      let later ← readItems read rest
      return value :: later

/-- A list of values that are read in the same way. -/
def readList (read : Json → Except Mismatch α) : Json → Except Mismatch (List α)
  | .array items => readItems read items
  | other => .error (.wrongType (Found.ofJson other) "a sequence")

end DropletClient.Record
