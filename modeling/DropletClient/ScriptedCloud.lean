import DropletClient.Workflow.Run

namespace DropletClient

/-!
# A scripted provider

A stand-in for the provider whose answers are prepared in advance. The states of
an event are given out one after the other, and the last one stays. Actions and
transfers take event ids from one queue, and orders take theirs from another. A
snapshot with a name adds an image. Every call is logged.
-/

/-- The states that are still to be given out for each event. -/
abbrev Scripts := List (Int32 × List EventStatus)

namespace Scripts

/-- What is still to be given out for an event. -/
def statuses (scripts : Scripts) (event : Int32) : List EventStatus :=
  (scripts.lookup event).getD []

/-- Replaces what is to be given out for an event. -/
def set
    (scripts : Scripts)
    (event : Int32)
    (statuses : List EventStatus) :
    Scripts :=
  (event, statuses) :: scripts.filter fun script => script.1 != event

end Scripts

/-- An entry of one of the catalogs of the stand-in. -/
inductive CatalogEntry where
  | droplet (droplet : Droplet)
  | image (image : Image)
  | size (size : Size)
  | region (region : Region)
  | key (key : SshKey)

/-- The state of the stand-in; the log has the newest call first. -/
structure ScriptedCloud where
  droplets : List Droplet
  images : List Image
  sizes : List Size
  regions : List Region
  keys : List SshKey
  scripts : Scripts
  actionEvents : List Int32
  creations : List DropletCreation
  nextKeyId : Int32
  nextImageId : Int32
  registersSnapshots : Bool
  refusesImageDeletion : Bool
  log : List Request
  deriving Repr, DecidableEq

namespace ScriptedCloud

/-- A stand-in without anything prepared. -/
def empty : ScriptedCloud where
  droplets := []
  images := []
  sizes := []
  regions := []
  keys := []
  scripts := []
  actionEvents := []
  creations := []
  nextKeyId := 1000
  nextImageId := 5000
  registersSnapshots := true
  refusesImageDeletion := false
  log := []

/-- The next identifier; the greatest one is followed by itself. -/
def successor (id : Int32) : Int32 :=
  if id = Int32.maxValue then id else id + 1

/-- Adds an entry to its catalog. -/
def seed (cloud : ScriptedCloud) : CatalogEntry → ScriptedCloud
  | .droplet droplet => { cloud with droplets := cloud.droplets ++ [droplet] }
  | .image image => { cloud with images := cloud.images ++ [image] }
  | .size size => { cloud with sizes := cloud.sizes ++ [size] }
  | .region region => { cloud with regions := cloud.regions ++ [region] }
  | .key key => { cloud with keys := cloud.keys ++ [key] }

/-- Prepares the states of an event. -/
def scriptEvent
    (cloud : ScriptedCloud)
    (event : Int32)
    (statuses : List EventStatus) :
    ScriptedCloud :=
  { cloud with scripts := cloud.scripts.set event statuses }

/-- Prepares the answer to one more order. -/
def pushCreation
    (cloud : ScriptedCloud)
    (creation : DropletCreation) :
    ScriptedCloud :=
  { cloud with creations := cloud.creations ++ [creation] }

/-- Prepares the event id of one more action or transfer. -/
def pushActionEvent (cloud : ScriptedCloud) (event : Int32) : ScriptedCloud :=
  { cloud with actionEvents := cloud.actionEvents ++ [event] }

/-- Makes every deletion of an image fail. -/
def refuseImageDeletion (cloud : ScriptedCloud) : ScriptedCloud :=
  { cloud with refusesImageDeletion := true }

/-- Keeps snapshots from adding images. -/
def skipSnapshotRegistration (cloud : ScriptedCloud) : ScriptedCloud :=
  { cloud with registersSnapshots := false }

/-- How often an event was looked at. -/
def eventFetches (cloud : ScriptedCloud) (event : Int32) : Nat :=
  cloud.log.count (.getEvent event)

/-- The image that a snapshot with a name adds. -/
def snapshotImage (id : Int32) (name : String) : Image where
  id := id
  name := name
  distribution := "Ubuntu"
  isPublic := false
  slug := none

/-- The failure for an event that was not prepared. -/
def unknownEvent (event : Int32) : Failure :=
  .notFound ("event " ++ Identifier.text event)

/-- The failure for an image that does not exist. -/
def unknownImage (id : Int32) : Failure :=
  .notFound ("image " ++ Identifier.text id)

/-- The failure for a key that does not exist. -/
def unknownKey (id : Int32) : Failure :=
  .notFound ("ssh key " ++ Identifier.text id)

/--
The failure for an action or a transfer that no event id was prepared for.
-/
def noEventId (what : String) : Failure :=
  .provider ("no scripted event id for " ++ what)

/-- The next prepared event id. -/
def nextActionEvent (cloud : ScriptedCloud) (what : String) :
    Except Failure Int32 × ScriptedCloud :=
  match cloud.actionEvents with
  | [] => (.error (noEventId what), cloud)
  | event :: rest => (.ok event, { cloud with actionEvents := rest })

/-- Adds the image of a snapshot, if the action is one with a name. -/
def registerSnapshot (cloud : ScriptedCloud) : DropletAction → ScriptedCloud
  | .snapshot (some name) =>
      if cloud.registersSnapshots then
        { cloud with
          images := cloud.images ++ [snapshotImage cloud.nextImageId name]
          nextImageId := successor cloud.nextImageId }
      else
        cloud
  | _ => cloud

/-- The next prepared answer to an order. -/
def nextCreation
    (cloud : ScriptedCloud) :
    Except Failure DropletCreation × ScriptedCloud :=
  match cloud.creations with
  | [] => (.error (.provider "no scripted creation"), cloud)
  | creation :: rest => (.ok creation, { cloud with creations := rest })

/-- The next state of an event; the last one stays. -/
def nextStatus (cloud : ScriptedCloud) (event : Int32) :
    Except Failure EventStatus × ScriptedCloud :=
  match cloud.scripts.statuses event with
  | [] => (.error (unknownEvent event), cloud)
  | [last] => (.ok last, cloud)
  | status :: rest =>
      (.ok status, { cloud with scripts := cloud.scripts.set event rest })

/-- Removes the images with an id; it fails if there was none. -/
def removeImages
    (cloud : ScriptedCloud)
    (id : Int32) :
    Except Failure Unit × ScriptedCloud :=
  if cloud.refusesImageDeletion then
    (.error (.provider "image is in use"), cloud)
  else
    let later :=
      { cloud with images := cloud.images.filter fun image => image.id != id }
    if later.images.length = cloud.images.length then
      (.error (unknownImage id), later)
    else (.ok (), later)

/-- Removes the keys with an id; it fails if there was none. -/
def removeKeys
    (cloud : ScriptedCloud)
    (id : Int32) :
    Except Failure Unit × ScriptedCloud :=
  let later := { cloud with keys := cloud.keys.filter fun key => key.id != id }
  if later.keys.length = cloud.keys.length then (.error (unknownKey id), later)
  else (.ok (), later)

/-- Registers the key on a line under a name. -/
def registerKey (cloud : ScriptedCloud) (name line : String) :
    Except Failure SshKey × ScriptedCloud :=
  match PublicKey.ofLine line with
  | .error fault => (.error (.keyFormat fault), cloud)
  | .ok publicKey =>
      let key : SshKey :=
        { id := cloud.nextKeyId, name, publicKey := some publicKey }
      (.ok key, { cloud with
        keys := cloud.keys ++ [key]
        nextKeyId := successor cloud.nextKeyId })

/-- Replaces the public key of the first registered key with an id. -/
def replaceKey
    (id : Int32)
    (publicKey : PublicKey) :
    List SshKey → Option (SshKey × List SshKey)
  | [] => none
  | key :: rest =>
      if key.id = id then
        let changed := { key with publicKey := some publicKey }
        some (changed, changed :: rest)
      else
        (replaceKey id publicKey rest).map fun (changed, later) =>
          (changed, key :: later)

/--
Puts the key on a line in the place of the one that is registered with an id.
-/
def changeKey (cloud : ScriptedCloud) (id : Int32) (line : String) :
    Except Failure SshKey × ScriptedCloud :=
  match PublicKey.ofLine line with
  | .error fault => (.error (.keyFormat fault), cloud)
  | .ok publicKey =>
      match replaceKey id publicKey cloud.keys with
      | none => (.error (unknownKey id), cloud)
      | some (key, keys) => (.ok key, { cloud with keys })

/-- Carries out a request. What was changed before a failure stays changed. -/
def carryOut (cloud : ScriptedCloud) :
    (request : Request) → Except Failure request.Answer × ScriptedCloud
  | .listDroplets => (.ok cloud.droplets, cloud)
  | .getDroplet id =>
      (.ok (cloud.droplets.find? fun droplet => droplet.id == id), cloud)
  | .createDroplet _ => cloud.nextCreation
  | .dropletAction _ action =>
      match cloud.nextActionEvent action.segment with
      | (.error failure, later) => (.error failure, later)
      | (.ok event, later) => (.ok event, later.registerSnapshot action)
  | .listImages => (.ok cloud.images, cloud)
  | .getImage id =>
      (.ok (cloud.images.find? fun image => image.id == id), cloud)
  | .deleteImage id => cloud.removeImages id
  | .transferImage _ _ => cloud.nextActionEvent "transfer"
  | .listSizes => (.ok cloud.sizes, cloud)
  | .listRegions => (.ok cloud.regions, cloud)
  | .listKeys => (.ok cloud.keys, cloud)
  | .getKey id => (.ok (cloud.keys.find? fun key => key.id == id), cloud)
  | .createKey name line => cloud.registerKey name line
  | .editKey id line => cloud.changeKey id line
  | .deleteKey id => cloud.removeKeys id
  | .getEvent id =>
      match cloud.nextStatus id with
      | (.error failure, later) => (.error failure, later)
      | (.ok status, later) =>
          (.ok
            { id, status, droplet := none, action := none, percentage := none },
            later)

/-- Logs a request and carries it out. -/
def answer (cloud : ScriptedCloud) (request : Request) :
    Except Failure request.Answer × ScriptedCloud :=
  { cloud with log := request :: cloud.log }.carryOut request

end ScriptedCloud

end DropletClient
