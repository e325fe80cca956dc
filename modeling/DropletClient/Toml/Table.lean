import DropletClient.Toml.Basic

namespace DropletClient.Toml

/-!
# Tables

The tables of a document while it is read. A name is given once, and a table is
opened once: what is already there decides what may still be added. A table
whose header has not come yet may only be passed on the way to others, and one
that dotted names have made is open to dotted names alone.
-/

/--
Where a table comes from: its own header, the header of a table inside it, or a
dotted name.
-/
inductive Origin where
  | header
  | inside
  | dotted
  deriving Repr, DecidableEq

/--
What a name stands for. Of an array of tables only the last one can
still change.
-/
inductive Item where
  | value (value : Value)
  | table (origin : Origin) (members : List (String × Item))
  | tables (last : List (String × Item))
  deriving Repr

/-- Names with what they stand for. -/
abbrev Members := List (String × Item)

namespace Members

/-- The members with one name standing for an item, and all else as it was. -/
def put (name : String) (item : Item) (members : Members) : Members :=
  (name, item) :: members.filter fun member => member.1 != name

/--
The members after a change to the members of the table behind names. Tables that
are not there yet are made, and of an array of tables the last one is taken.
-/
def changeAt?
    (change : Members → Option Members) :
    List String → Members → Option Members
  | [], members => change members
  | name :: rest, members =>
      match members.lookup name with
      | none =>
          (changeAt? change rest []).map fun inner =>
            members.put name (.table .inside inner)
      | some (.table origin inner) =>
          (changeAt? change rest inner).map fun inner =>
            members.put name (.table origin inner)
      | some (.tables inner) =>
          (changeAt? change rest inner).map fun inner =>
            members.put name (.tables inner)
      | some (.value _) => none

/-- The members after the header of a table with the given last part. -/
def openTable? (name : String) (members : Members) : Option Members :=
  match members.lookup name with
  | none => some (members.put name (.table .header []))
  | some (.table .inside inner) =>
      some (members.put name (.table .header inner))
  | some _ => none

/-- The members after the header of a new table in an array of tables. -/
def appendTable? (name : String) (members : Members) : Option Members :=
  match members.lookup name with
  | none => some (members.put name (.tables []))
  | some (.tables _) => some (members.put name (.tables []))
  | some _ => none

/--
The members with one more value. The last part of a name must be new, and the
table around it must be open to values: the table of the last header, or one
that dotted names have made.
-/
def addValue?
    (value : Value)
    (isOpen : Bool) :
    List String → Members → Option Members
  | [], _ => none
  | [name], members =>
      if isOpen &&
        (members.lookup name).isNone then some (members.put name (.value value))
      else none
  | name :: rest, members =>
      match members.lookup name with
      | none =>
          (addValue? value true rest []).map fun inner =>
            members.put name (.table .dotted inner)
      | some (.table .dotted inner) =>
          (addValue? value true rest inner).map fun inner =>
            members.put name (.table .dotted inner)
      | some (.table .inside inner) =>
          (addValue? value false rest inner).map fun inner =>
            members.put name (.table .inside inner)
      | some (.tables inner) =>
          (addValue? value false rest inner).map fun inner =>
            members.put name (.tables inner)
      | some (.table .header _) => none
      | some (.value _) => none

end Members

end DropletClient.Toml
