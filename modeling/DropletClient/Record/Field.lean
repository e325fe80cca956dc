import DropletClient.Record.Mismatch

namespace DropletClient.Record

/-!
# Fields of records

A record arrives as an object, or as an array of its fields in declaration
order. Of an object, the fields that are there are read in the order of their
names, so that the fault reported does not depend on the order of the members;
only then are missing fields reported, in declaration order. Members that no
field asks for are passed over.
-/

/--
A field: its name, how its value is read, and what stands for it where it
is missing.
-/
structure Field (α : Type) where
  name : String
  read : Json → Except Mismatch α
  fallback : Option α

/-- A field that must be there. -/
def required (name : String) (read : Json → Except Mismatch α) : Field α :=
  ⟨name, read, none⟩

/-- A field that may be missing. -/
def optional
    (name : String)
    (read : Json → Except Mismatch α)
    (fallback : α) :
    Field α :=
  ⟨name, read, some fallback⟩

namespace Field

/-- The value of a field of an object, if the field is there. -/
def visit
    (field : Field α)
    (members : List (String × Json)) :
    Except Mismatch (Option α) :=
  match Json.lookup field.name members with
  | none => .ok none
  | some value => (field.read value).map some

/-- The value of a field that was visited, or what stands for it. -/
def settle (field : Field α) (visited : Option α) : Except Mismatch α :=
  match visited.or field.fallback with
  | some value => .ok value
  | none => .error (.missingField field.name)

end Field

/-- The items of an array that are still to be read, and how many have been. -/
structure Cursor where
  taken : Nat
  rest : List Json

/-- How a record is read from the items of an array. -/
abbrev ItemReader (α : Type) := StateT Cursor (Except Mismatch) α

/-- How a record of a type is read, and how it is called in messages. -/
structure Layout (α : Type) where
  name : String
  size : Nat
  ofMembers : List (String × Json) → Except Mismatch α
  ofItems : ItemReader α

/-- How a record with a number of fields is called in messages. -/
def nameWithSize (name : String) (size : Nat) : String :=
  "struct " ++ name ++ " with " ++ Text.Decimal.ofNat size ++
    (if size = 1 then " element" else " elements")

/-- The value of a field that is the next item of an array. -/
def Field.next (field : Field α) (name : String) (size : Nat) : ItemReader α :=
  fun cursor =>
  match cursor.rest with
  | item :: rest =>
      (field.read item).map fun value => (value, ⟨cursor.taken + 1, rest⟩)
  | [] =>
      match field.fallback with
      | some value => .ok (value, ⟨cursor.taken + 1, []⟩)
      | none => .error (.wrongLength cursor.taken (nameWithSize name size))

/-- The record that a value holds. -/
def Layout.decode (layout : Layout α) : Json → Except Mismatch α
  | .object members => layout.ofMembers members
  | .array items => do
      let (value, cursor) ← layout.ofItems ⟨0, items⟩
      if cursor.rest.isEmpty then .ok value
      else .error (.wrongLength items.length "fewer elements in array")
  | other => .error (.wrongType (Found.ofJson other) ("struct " ++ layout.name))

end DropletClient.Record
