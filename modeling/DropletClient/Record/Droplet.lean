import DropletClient.Record.Field
import DropletClient.Record.Scalar
import DropletClient.Timestamp

namespace DropletClient

/-!
# Droplets

The virtual machines of an account, and what the provider tells of one that was
just ordered.
-/

/-- The state of a droplet as the provider reports it. -/
inductive DropletStatus where
  | new
  | active
  | off
  | archive
  | unrecognized
  deriving Repr, DecidableEq

namespace DropletStatus

/-- The provider's word for a state. -/
def label : DropletStatus → String
  | .new => "new"
  | .active => "active"
  | .off => "off"
  | .archive => "archive"
  | .unrecognized => "unrecognized"

/-- The state that a word stands for; words are compared letter by letter. -/
def ofLabel (word : String) : DropletStatus :=
  if word = "new" then .new
  else if word = "active" then .active
  else if word = "off" then .off
  else if word = "archive" then .archive
  else .unrecognized

/-- The distinct names of members. -/
def memberNames (members : List (String × Json)) : List String :=
  (members.map Prod.fst).eraseDups

/--
A state is a word, or an object with the word as its only name and null as
its value.
-/
def read : Json → Except Mismatch DropletStatus
  | .text word => .ok (ofLabel word)
  | .object members =>
      match memberNames members with
      | [word] =>
          match Json.lookup word members with
          | some .null => .ok (ofLabel word)
          | some other => .error (.wrongType (Found.ofJson other) "unit")
          | none => .error .severalMembers
      | _ => .error .severalMembers
  | other => .error (.wrongType (Found.ofJson other) "string or map")

end DropletStatus

namespace Timestamp

/-- An instant is a text. -/
def read : Json → Except Mismatch Timestamp
  | .text text =>
      match ofText? text.toList with
      | some instant => .ok instant
      | none => .error .timestamp
  | other =>
      .error (.wrongType (Found.ofJson other)
        "an RFC 3339 formatted date and time string")

end Timestamp

/-- A virtual machine. -/
structure Droplet where
  id : Int32
  name : String
  imageId : Int32
  sizeId : Int32
  regionId : Int32
  backupsActive : Bool
  ip : String
  privateIp : Option String
  locked : Bool
  status : DropletStatus
  created : Timestamp
  deriving Repr, DecidableEq

namespace Droplet

open Record

/-- The identifier. -/
def idField := required "id" readInt32

/-- The name of a droplet. -/
def nameField := required "name" readText

/-- The image that a droplet was made from. -/
def imageIdField := required "image_id" readInt32

/-- The size of a droplet. -/
def sizeIdField := required "size_id" readInt32

/-- The region of a droplet. -/
def regionIdField := required "region_id" readInt32

/-- Whether a droplet is backed up; without a word it is not. -/
def backupsActiveField := optional "backups_active" readFlag false

/-- The public address of a droplet. -/
def ipField := required "ip_address" readText

/-- The private address of a droplet, if it has one. -/
def privateIpField := optional "private_ip_address" (readNullable readText) none

/-- Whether a droplet is locked; without a word it is not. -/
def lockedField := optional "locked" readFlag false

/-- The status of a droplet. -/
def statusField := required "status" DropletStatus.read

/-- When a droplet was created. -/
def createdField := required "created_at" Timestamp.read

/-- The droplet with the members of an object. -/
def ofMembers (members : List (String × Json)) : Except Mismatch Droplet := do
  let backupsActive ← backupsActiveField.visit members
  let created ← createdField.visit members
  let id ← idField.visit members
  let imageId ← imageIdField.visit members
  let ip ← ipField.visit members
  let locked ← lockedField.visit members
  let name ← nameField.visit members
  let privateIp ← privateIpField.visit members
  let regionId ← regionIdField.visit members
  let sizeId ← sizeIdField.visit members
  let status ← statusField.visit members
  return {
    id := ← idField.settle id
    name := ← nameField.settle name
    imageId := ← imageIdField.settle imageId
    sizeId := ← sizeIdField.settle sizeId
    regionId := ← regionIdField.settle regionId
    backupsActive := ← backupsActiveField.settle backupsActive
    ip := ← ipField.settle ip
    privateIp := ← privateIpField.settle privateIp
    locked := ← lockedField.settle locked
    status := ← statusField.settle status
    created := ← createdField.settle created
  }

/-- The name of the record. -/
def recordName : String := "Droplet"

/-- The number of fields. -/
def recordSize : Nat := 11

/-- The droplet with the items of an array. -/
def ofItems : ItemReader Droplet := do
  return {
    id := ← idField.next recordName recordSize
    name := ← nameField.next recordName recordSize
    imageId := ← imageIdField.next recordName recordSize
    sizeId := ← sizeIdField.next recordName recordSize
    regionId := ← regionIdField.next recordName recordSize
    backupsActive := ← backupsActiveField.next recordName recordSize
    ip := ← ipField.next recordName recordSize
    privateIp := ← privateIpField.next recordName recordSize
    locked := ← lockedField.next recordName recordSize
    status := ← statusField.next recordName recordSize
    created := ← createdField.next recordName recordSize
  }

/-- How a droplet is read. -/
def layout : Layout Droplet :=
  ⟨recordName, recordSize, ofMembers, ofItems⟩

end Droplet

/--
What the provider tells of a droplet that was just ordered: its id and the event
of the order.
-/
structure DropletCreation where
  id : Int32
  eventId : Int32
  deriving Repr, DecidableEq

namespace DropletCreation

open Record

/-- The identifier. -/
def idField := required "id" readInt32

/-- The event that tracks a creation. -/
def eventIdField := required "event_id" readInt32

/-- The order with the members of an object. -/
def ofMembers
    (members : List (String × Json)) :
    Except Mismatch DropletCreation := do
  let eventId ← eventIdField.visit members
  let id ← idField.visit members
  return {
    id := ← idField.settle id
    eventId := ← eventIdField.settle eventId
  }

/-- The order with the items of an array. -/
def ofItems : ItemReader DropletCreation := do
  return {
    id := ← idField.next "DropletCreation" 2
    eventId := ← eventIdField.next "DropletCreation" 2
  }

/-- How an order is read. -/
def layout : Layout DropletCreation :=
  ⟨"DropletCreation", 2, ofMembers, ofItems⟩

end DropletCreation

end DropletClient
