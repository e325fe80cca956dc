import DropletClient.Record.Field
import DropletClient.Record.Scalar

namespace DropletClient

/-!
# Events

The handle of an operation that the provider carries out in its own time.
-/

open Record

/-- How far an operation has come. -/
inductive EventStatus where
  | pending
  | done
  | error
  deriving Repr, DecidableEq

namespace EventStatus

/-- An operation that has ended, well or not. -/
def isTerminal : EventStatus → Bool
  | .pending => false
  | .done => true
  | .error => true

/-- The word for a state. -/
def label : EventStatus → String
  | .pending => "pending"
  | .done => "done"
  | .error => "error"

/--
The state that a word stands for, in letters of either case; other words are
not final.
-/
def ofLabel (word : String) : EventStatus :=
  let lowered := word.toList.map Char.toLower
  if lowered = "done".toList then .done
  else if lowered = "error".toList ∨ lowered = "failed".toList then .error
  else .pending

/-- A state is a word, and null is not final. -/
def read (value : Json) : Except Mismatch EventStatus :=
  (readNullable readText value).map fun word => (word.map ofLabel).getD .pending

end EventStatus

/-- The handle of an operation. -/
structure Event where
  id : Int32
  status : EventStatus
  droplet : Option Int32
  action : Option Int32
  percentage : Option String
  deriving Repr, DecidableEq

namespace Event

/-- The identifier of an event. -/
def idField := required "id" readInt32

/-- The state of an event; without one it is pending. -/
def statusField := optional "action_status" EventStatus.read .pending

/-- The droplet of an event, if it has one. -/
def dropletField := optional "droplet_id" (readNullable readInt32) none

/-- The kind of action of an event, if it has one. -/
def actionField := optional "event_type_id" (readNullable readInt32) none

/-- How far an event has come, if that is known. -/
def percentageField :=
  optional "percentage" (readNullable readTextOrNumber) none

/-- The event with the members of an object. -/
def ofMembers (members : List (String × Json)) : Except Mismatch Event := do
  let status ← statusField.visit members
  let droplet ← dropletField.visit members
  let action ← actionField.visit members
  let id ← idField.visit members
  let percentage ← percentageField.visit members
  return {
    id := ← idField.settle id
    status := ← statusField.settle status
    droplet := ← dropletField.settle droplet
    action := ← actionField.settle action
    percentage := ← percentageField.settle percentage
  }

/-- The event with the items of an array. -/
def ofItems : ItemReader Event := do
  return {
    id := ← idField.next "Event" 5
    status := ← statusField.next "Event" 5
    droplet := ← dropletField.next "Event" 5
    action := ← actionField.next "Event" 5
    percentage := ← percentageField.next "Event" 5
  }

/-- How an event is read. -/
def layout : Layout Event :=
  ⟨"Event", 5, ofMembers, ofItems⟩

end Event

end DropletClient
