import DropletClient.Record.Field
import DropletClient.Record.Scalar

namespace DropletClient

/-!
# Images, regions and sizes

What a droplet is built from: the image it boots, the region that hosts it, and
its size.
-/

open Record

/-- A disk image of the provider, or a snapshot of the account. -/
structure Image where
  id : Int32
  name : String
  distribution : String
  isPublic : Bool
  slug : Option String
  deriving Repr, DecidableEq

namespace Image

/-- The identifier. -/
def idField := required "id" readInt32

/-- The name. -/
def nameField := required "name" readText

/-- The distribution of an image. -/
def distributionField := required "distribution" readText

/-- Whether an image is public; without a word it is not. -/
def isPublicField := optional "public" readFlag false

/-- The short name. -/
def slugField := optional "slug" (readNullable readText) none

/-- The image with the members of an object. -/
def ofMembers (members : List (String × Json)) : Except Mismatch Image := do
  let distribution ← distributionField.visit members
  let id ← idField.visit members
  let name ← nameField.visit members
  let isPublic ← isPublicField.visit members
  let slug ← slugField.visit members
  return {
    id := ← idField.settle id
    name := ← nameField.settle name
    distribution := ← distributionField.settle distribution
    isPublic := ← isPublicField.settle isPublic
    slug := ← slugField.settle slug
  }

/-- The image with the items of an array. -/
def ofItems : ItemReader Image := do
  return {
    id := ← idField.next "Image" 5
    name := ← nameField.next "Image" 5
    distribution := ← distributionField.next "Image" 5
    isPublic := ← isPublicField.next "Image" 5
    slug := ← slugField.next "Image" 5
  }

/-- How an image is read. -/
def layout : Layout Image :=
  ⟨"Image", 5, ofMembers, ofItems⟩

end Image

/--
A place that hosts droplets; its id may arrive as a number and is kept as text.
-/
structure Region where
  id : String
  name : String
  slug : String
  deriving Repr, DecidableEq

namespace Region

/-- The identifier. -/
def idField := required "id" readTextOrNumber

/-- The name. -/
def nameField := required "name" readText

/-- The short name. -/
def slugField := required "slug" readText

/-- The region with the members of an object. -/
def ofMembers (members : List (String × Json)) : Except Mismatch Region := do
  let id ← idField.visit members
  let name ← nameField.visit members
  let slug ← slugField.visit members
  return {
    id := ← idField.settle id
    name := ← nameField.settle name
    slug := ← slugField.settle slug
  }

/-- The region with the items of an array. -/
def ofItems : ItemReader Region := do
  return {
    id := ← idField.next "Region" 3
    name := ← nameField.next "Region" 3
    slug := ← slugField.next "Region" 3
  }

/-- How a region is read. -/
def layout : Layout Region :=
  ⟨"Region", 3, ofMembers, ofItems⟩

end Region

/-- A hardware profile, with its prices as the provider writes them. -/
structure Size where
  id : Int32
  name : String
  slug : String
  memory : Int32
  cpu : Int32
  disk : Int32
  costPerHour : String
  costPerMonth : String
  deriving Repr, DecidableEq

namespace Size

/-- The identifier. -/
def idField := required "id" readInt32

/-- The name. -/
def nameField := required "name" readText

/-- The short name. -/
def slugField := required "slug" readText

/-- The memory of a size; zero if it is not told. -/
def memoryField := optional "memory" readInt32 0

/-- The processors of a size; zero if they are not told. -/
def cpuField := optional "cpu" readInt32 0

/-- The disk of a size; zero if it is not told. -/
def diskField := optional "disk" readInt32 0

/-- The price of an hour. -/
def costPerHourField := required "cost_per_hour" readTextOrNumber

/-- The price of a month. -/
def costPerMonthField := required "cost_per_month" readTextOrNumber

/-- The size with the members of an object. -/
def ofMembers (members : List (String × Json)) : Except Mismatch Size := do
  let costPerHour ← costPerHourField.visit members
  let costPerMonth ← costPerMonthField.visit members
  let cpu ← cpuField.visit members
  let disk ← diskField.visit members
  let id ← idField.visit members
  let memory ← memoryField.visit members
  let name ← nameField.visit members
  let slug ← slugField.visit members
  return {
    id := ← idField.settle id
    name := ← nameField.settle name
    slug := ← slugField.settle slug
    memory := ← memoryField.settle memory
    cpu := ← cpuField.settle cpu
    disk := ← diskField.settle disk
    costPerHour := ← costPerHourField.settle costPerHour
    costPerMonth := ← costPerMonthField.settle costPerMonth
  }

/-- The size with the items of an array. -/
def ofItems : ItemReader Size := do
  return {
    id := ← idField.next "Size" 8
    name := ← nameField.next "Size" 8
    slug := ← slugField.next "Size" 8
    memory := ← memoryField.next "Size" 8
    cpu := ← cpuField.next "Size" 8
    disk := ← diskField.next "Size" 8
    costPerHour := ← costPerHourField.next "Size" 8
    costPerMonth := ← costPerMonthField.next "Size" 8
  }

/-- How a size is read. -/
def layout : Layout Size :=
  ⟨"Size", 8, ofMembers, ofItems⟩

end Size

end DropletClient
