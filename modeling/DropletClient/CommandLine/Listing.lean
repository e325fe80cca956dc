import DropletClient.Portable.Catalog
import DropletClient.Text.Split

namespace DropletClient.CommandLine

/-!
# Listings

Entities are listed one a line, with tabs between the columns.
-/

/-- A line of columns. -/
def line (columns : List String) : String :=
  Text.joinStrings "\t" columns ++ "\n"

/-- Lines one after the other. -/
def listing (columns : α → List String) (entities : List α) : String :=
  Text.joinStrings "" (entities.map fun entity => line (columns entity))

/-- What stands for a value that is not known. -/
def orDash (value : Option String) : String :=
  value.getD "-"

/-- The columns of a node. -/
def nodeColumns (node : Node) : List String :=
  [node.id, node.name, node.status.label,
    Text.joinStrings "," node.publicAddresses,
    orDash (node.hardware.map Hardware.name),
    orDash (node.location.map Location.slug),
    orDash (node.operatingSystem.map OperatingSystem.description)]

/-- The columns of an image. -/
def imageColumns (image : PortableImage) : List String :=
  [image.id, image.name, image.operatingSystem.family.displayName,
    image.operatingSystem.arch]

/-- The columns of a size, with units. -/
def sizeColumns (size : Size) : List String :=
  [Identifier.text size.id, size.name, Identifier.text size.memory ++ " MB",
   Identifier.text size.cpu ++ " vCPU", Identifier.text size.disk ++ " GB",
   size.costPerHour ++ "/h"]

/-- The columns of a region. -/
def regionColumns (region : Region) : List String :=
  [region.id, region.slug, region.name]

end DropletClient.CommandLine
