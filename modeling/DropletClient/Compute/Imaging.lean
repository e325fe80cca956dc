import DropletClient.Compute.Nodes

namespace DropletClient.Compute

/-!
# Capturing nodes as images

A node is powered off, a snapshot is taken of it, and the new image is found by
its name, because the provider does not tell its id.
-/

/-- The wish to capture a node, which must exist. -/
def buildCloneTemplate (name id : String) : Workflow CloneTemplate := do
  let dropletId ← requireDropletId id
  match ← Workflow.send (.getDroplet dropletId) with
  | some _ => return { name, sourceNodeId := id }
  | none => .fail (missingDroplet id)

/-- The first listed image with a name. -/
def imageNamed (name : String) : Workflow Image := do
  let images ← Workflow.send .listImages
  match images.find? fun image => image.name == name with
  | some image => return image
  | none => .fail (.noSuchElement (.image name))

/-- Powers a node off, captures it, and gives the image back. -/
def createImage
    (compute : Compute)
    (template : CloneTemplate) :
    Workflow PortableImage := do
  let dropletId ← requireDropletId template.sourceNodeId
  let powerOff ← Workflow.send (.dropletAction dropletId .powerOff)
  compute.waitFor powerOff .nodeSuspended
  let snapshot ← Workflow.send
    (.dropletAction dropletId (.snapshot (some template.name)))
  compute.waitFor snapshot .imageAvailable
  let image ← imageNamed template.name
  return image.toPortable

/-- Captures a node, which must exist, as an image with a name. -/
def createImageFromNode
    (compute : Compute)
    (name id : String) :
    Workflow PortableImage := do
  let template ← buildCloneTemplate name id
  compute.createImage template

/-- Deletes the image that a text names, and tells whether that went well. -/
def deleteImage (id : String) : Workflow Bool :=
  match Identifier.read? id with
  | none => pure false
  | some imageId => do
      match ← Workflow.attempt (.deleteImage imageId) with
      | .ok _ => return true
      | .error _ => return false

end DropletClient.Compute
