import DropletClient.Naming
import DropletClient.Poll.Wait
import DropletClient.Portable.Catalog

namespace DropletClient

/-!
# Nodes

Workflows on nodes. A change of the power state is waited for, so that what is
read afterwards shows it; the destruction of a droplet is not.
-/

/--
How long workflows wait, and how they recover the group of a node from its name.
-/
structure Compute where
  policies : PollPolicies
  patience : Nat
  groupOf : String → Option String

namespace Compute

/-- Waits until an event is done. -/
def waitFor
    (compute : Compute)
    (event : Int32)
    (kind : EventKind) :
    Workflow Unit :=
  Workflow.waitFor compute.policies compute.patience event kind

/-- The failure for a droplet that does not exist. -/
def missingDroplet (id : String) : Failure :=
  .noSuchElement (.droplet id)

/-- The droplet that a text names. -/
def requireDropletId (id : String) : Workflow Int32 :=
  match Identifier.read? id with
  | some dropletId => pure dropletId
  | none => .fail (missingDroplet id)

/-- The key line of a template, unless it is missing or blank. -/
def templateKey? (template : Template) : Option String :=
  template.publicKey.filter fun line => !Text.isBlankString line

/-- Registers the key of a template under a name, if there is one. -/
def registerTemplateKey
    (name : String)
    (template : Template) :
    Workflow (List Int32) :=
  match templateKey? template with
  | none => pure []
  | some line =>
      match PublicKey.ofLine line with
      | .error fault => .fail (.keyFormat fault)
      | .ok _ => do
          let key ← Workflow.send (.createKey name line)
          return [key.id]

/--
The order for a node: the keys that were registered for it come before
those listed.
-/
def orderOf
    (name : String)
    (template : Template)
    (registered : List Int32) :
    NewDroplet where
  name := name
  imageId := template.imageId
  sizeId := template.hardwareId
  regionId := template.locationId
  options := {
    CreateOptions.none.addSshKeyIds (registered ++ template.sshKeyIds) with
    privateNetworking := template.privateNetworking
    backupsEnabled := template.backupsEnabled
  }

/-- A droplet that must exist. -/
def readBack (id : Int32) : Workflow Droplet := do
  match ← Workflow.send (.getDroplet id) with
  | some droplet => return droplet
  | none => .fail (missingDroplet (Identifier.text id))

/-- Creates a droplet, waits until it runs, and reads it back. -/
def createNode
    (compute : Compute)
    (name : String)
    (template : Template) :
    Workflow CreatedNode := do
  let registered ← registerTemplateKey name template
  let creation ← Workflow.send
    (.createDroplet (orderOf name template registered))
  compute.waitFor creation.eventId .nodeRunning
  let droplet ← readBack creation.id
  return {
    id := Identifier.text droplet.id, node := droplet, credentials := none }

/-- All droplets. -/
def listNodes : Workflow (List Droplet) :=
  Workflow.send .listDroplets

/-- The droplets that texts name, in the order of the provider. -/
def listNodesByIds (ids : List String) : Workflow (List Droplet) := do
  let wanted := ids.filterMap Identifier.read?
  let droplets ← listNodes
  return droplets.filter fun droplet => wanted.contains droplet.id

/-- All images. -/
def listImages : Workflow (List Image) :=
  Workflow.send .listImages

/-- All sizes. -/
def listHardware : Workflow (List Size) :=
  Workflow.send .listSizes

/-- All regions. -/
def listLocations : Workflow (List Region) :=
  Workflow.send .listRegions

/-- The droplet that a text names, if there is one. -/
def getNode (id : String) : Workflow (Option Droplet) :=
  match Identifier.read? id with
  | some dropletId => Workflow.send (.getDroplet dropletId)
  | none => pure none

/-- The image that a text names, if there is one. -/
def getImage (id : String) : Workflow (Option Image) :=
  match Identifier.read? id with
  | some imageId => Workflow.send (.getImage imageId)
  | none => pure none

/-- Destroys a droplet and wipes its disk, without waiting for it. -/
def destroyNode (id : String) : Workflow Unit := do
  let dropletId ← requireDropletId id
  let _ ← Workflow.send (.dropletAction dropletId (.destroy true))
  return ()

/-- Does something to a droplet and waits until it is done. -/
def actAndWait
    (compute : Compute)
    (id : String)
    (action : DropletAction)
    (kind : EventKind) :
    Workflow Unit := do
  let dropletId ← requireDropletId id
  let event ← Workflow.send (.dropletAction dropletId action)
  compute.waitFor event kind

/-- Reboots a droplet and waits until it runs again. -/
def rebootNode (compute : Compute) (id : String) : Workflow Unit :=
  compute.actAndWait id .reboot .nodeRunning

/-- Powers a droplet on and waits until it runs. -/
def resumeNode (compute : Compute) (id : String) : Workflow Unit :=
  compute.actAndWait id .powerOn .nodeRunning

/-- Powers a droplet off and waits until it is off. -/
def suspendNode (compute : Compute) (id : String) : Workflow Unit :=
  compute.actAndWait id .powerOff .nodeSuspended

/--
All droplets as nodes. The four lists are asked for before any failure among
them counts.
-/
def describeNodes (compute : Compute) : Workflow (List Node) := do
  let droplets ← Workflow.attempt .listDroplets
  let images ← Workflow.attempt .listImages
  let sizes ← Workflow.attempt .listSizes
  let regions ← Workflow.attempt .listRegions
  let droplets ← Workflow.ofExcept droplets
  let images ← Workflow.ofExcept images
  let sizes ← Workflow.ofExcept sizes
  let regions ← Workflow.ofExcept regions
  let catalog : Catalog := { images, sizes, regions }
  return droplets.map (catalog.toNode compute.groupOf)

end Compute

end DropletClient
