import DropletClient.Request.Action
import DropletClient.Text.Split

namespace DropletClient

/-!
# Orders for droplets

What is needed to order a droplet, and the query pairs that spell it.
-/

/-- What an order may ask for beside the droplet itself. -/
structure CreateOptions where
  sshKeyIds : List Int32
  privateNetworking : Option Bool
  backupsEnabled : Option Bool
  deriving Repr, DecidableEq

namespace CreateOptions

/-- An order that asks for nothing else. -/
def none : CreateOptions :=
  ⟨[], .none, .none⟩

/-- Asks for one more key, unless it is asked for already. -/
def addSshKeyId (options : CreateOptions) (id : Int32) : CreateOptions :=
  if options.sshKeyIds.contains id then options
  else { options with sshKeyIds := options.sshKeyIds ++ [id] }

/-- Asks for more keys, one after the other. -/
def addSshKeyIds (options : CreateOptions) (ids : List Int32) : CreateOptions :=
  ids.foldl addSshKeyId options

/-- The query pair of the keys, if there are any. -/
def keyQuery (ids : List Int32) : List QueryPair :=
  if ids.isEmpty then []
  else [("ssh_key_ids", Text.joinStrings "," (ids.map Identifier.text))]

/-- The query pair of a flag, if it is given. -/
def flagQuery (name : String) (flag : Option Bool) : List QueryPair :=
  (flag.map fun value => (name, flagText value)).toList

/-- The query pairs of the options. -/
def query (options : CreateOptions) : List QueryPair :=
  keyQuery options.sshKeyIds ++
    flagQuery "private_networking" options.privateNetworking ++
    flagQuery "backups_enabled" options.backupsEnabled

end CreateOptions

/-- An order for a droplet. -/
structure NewDroplet where
  name : String
  imageId : Int32
  sizeId : Int32
  regionId : Int32
  options : CreateOptions
  deriving Repr, DecidableEq

/-- The query pairs of an order. -/
def NewDroplet.query (order : NewDroplet) : List QueryPair :=
  [("name", order.name), ("size_id", Identifier.text order.sizeId),
    ("image_id", Identifier.text order.imageId),
    ("region_id", Identifier.text order.regionId)] ++ order.options.query

end DropletClient
