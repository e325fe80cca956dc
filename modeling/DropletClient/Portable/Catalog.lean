import DropletClient.Identifier
import DropletClient.Portable.Node
import DropletClient.Record.Catalog

namespace DropletClient

/-!
# From records to the portable model

A droplet refers to its image, size and region by id. A catalog resolves these
references; the first entry with an id counts, and a reference without an entry
is left out.
-/

/-- The portable form of an image. -/
def Image.toPortable (image : Image) : PortableImage where
  id := Identifier.text image.id
  providerId := Identifier.text image.id
  name := image.name
  description := image.name
  operatingSystem := OperatingSystem.ofImageNames image.distribution image.name
  defaultCredentials := none

/-- The portable form of a size. -/
def Size.toHardware (size : Size) : Hardware where
  id := Identifier.text size.id
  providerId := Identifier.text size.id
  name := size.name
  ramMegabytes := size.memory
  processors := size.cpu
  diskGigabytes := size.disk
  costPerHour := size.costPerHour

/-- The portable form of a region. -/
def Region.toLocation (region : Region) : Location where
  id := region.id
  description := region.name
  slug := region.slug

/-- What droplets refer to. -/
structure Catalog where
  images : List Image
  sizes : List Size
  regions : List Region
  deriving Repr, DecidableEq

namespace Catalog

/-- The hardware of the first size with an id. -/
def hardware? (catalog : Catalog) (id : Int32) : Option Hardware :=
  (catalog.sizes.find? fun size => size.id == id).map Size.toHardware

/--
The location of the first region with an id; regions are known by the text of
their id.
-/
def location? (catalog : Catalog) (id : Int32) : Option Location :=
  (catalog.regions.find? fun region => region.id == Identifier.text id).map
    Region.toLocation

/-- The operating system of the first image with an id. -/
def operatingSystem?
    (catalog : Catalog)
    (id : Int32) :
    Option OperatingSystem :=
  (catalog.images.find? fun image => image.id == id).map fun image =>
    OperatingSystem.ofImageNames image.distribution image.name

/-- The portable form of a droplet, whose group is recovered from its name. -/
def toNode
    (catalog : Catalog)
    (groupOf : String → Option String)
    (droplet : Droplet) :
    Node where
  id := Identifier.text droplet.id
  providerId := Identifier.text droplet.id
  name := droplet.name
  group := groupOf droplet.name
  hardware := catalog.hardware? droplet.sizeId
  location := catalog.location? droplet.regionId
  imageId := Identifier.text droplet.imageId
  operatingSystem := catalog.operatingSystem? droplet.imageId
  status := NodeStatus.ofDroplet droplet.status
  backendStatus := droplet.status.label
  publicAddresses := [droplet.ip]
  privateAddresses := droplet.privateIp.toList

end Catalog

end DropletClient
