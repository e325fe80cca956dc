import DropletClient.Record.Catalog
import DropletClient.Record.Droplet
import DropletClient.Record.Event
import DropletClient.Record.SshKey
import DropletClient.Request.NewDroplet

namespace DropletClient

/-!
# Requests

The sixteen things that can be asked of the provider, what each of them is
answered with, and how each is spelled as a path and query pairs.
-/

/-- What can be asked of the provider. -/
inductive Request where
  | listDroplets
  | getDroplet (id : Int32)
  | createDroplet (order : NewDroplet)
  | dropletAction (id : Int32) (action : DropletAction)
  | listImages
  | getImage (id : Int32)
  | deleteImage (id : Int32)
  | transferImage (id regionId : Int32)
  | listSizes
  | listRegions
  | listKeys
  | getKey (id : Int32)
  | createKey (name publicKey : String)
  | editKey (id : Int32) (publicKey : String)
  | deleteKey (id : Int32)
  | getEvent (id : Int32)
  deriving Repr, DecidableEq

namespace Request

/--
What a request is answered with; changes that take a while are answered with an
event id.
-/
abbrev Answer : Request → Type
  | .listDroplets => List Droplet
  | .getDroplet _ => Option Droplet
  | .createDroplet _ => DropletCreation
  | .dropletAction _ _ => Int32
  | .listImages => List Image
  | .getImage _ => Option Image
  | .deleteImage _ => Unit
  | .transferImage _ _ => Int32
  | .listSizes => List Size
  | .listRegions => List Region
  | .listKeys => List SshKey
  | .getKey _ => Option SshKey
  | .createKey _ _ => SshKey
  | .editKey _ _ => SshKey
  | .deleteKey _ => Unit
  | .getEvent _ => Event

/-- The name of the operation that a request asks for. -/
def operation : Request → String
  | .listDroplets => "list_droplets"
  | .getDroplet _ => "get_droplet"
  | .createDroplet _ => "create_droplet"
  | .dropletAction _ _ => "droplet_action"
  | .listImages => "list_images"
  | .getImage _ => "get_image"
  | .deleteImage _ => "delete_image"
  | .transferImage _ _ => "transfer_image"
  | .listSizes => "list_sizes"
  | .listRegions => "list_regions"
  | .listKeys => "list_keys"
  | .getKey _ => "get_key"
  | .createKey _ _ => "create_key"
  | .editKey _ _ => "edit_key"
  | .deleteKey _ => "delete_key"
  | .getEvent _ => "get_event"

/-- The path of a request, below the address of the provider. -/
def path : Request → String
  | .listDroplets => "/droplets"
  | .getDroplet id => "/droplets/" ++ Identifier.text id
  | .createDroplet _ => "/droplets/new"
  | .dropletAction id action =>
      "/droplets/" ++ Identifier.text id ++ "/" ++ action.segment
  | .listImages => "/images"
  | .getImage id => "/images/" ++ Identifier.text id
  | .deleteImage id => "/images/" ++ Identifier.text id ++ "/destroy"
  | .transferImage id _ => "/images/" ++ Identifier.text id ++ "/transfer"
  | .listSizes => "/sizes"
  | .listRegions => "/regions"
  | .listKeys => "/ssh_keys"
  | .getKey id => "/ssh_keys/" ++ Identifier.text id
  | .createKey _ _ => "/ssh_keys/new"
  | .editKey id _ => "/ssh_keys/" ++ Identifier.text id ++ "/edit"
  | .deleteKey id => "/ssh_keys/" ++ Identifier.text id ++ "/destroy"
  | .getEvent id => "/events/" ++ Identifier.text id

/-- The query pairs of a request. -/
def query : Request → List QueryPair
  | .createDroplet order => order.query
  | .dropletAction _ action => action.query
  | .transferImage _ regionId => [("region_id", Identifier.text regionId)]
  | .createKey name publicKey => [("name", name), ("ssh_pub_key", publicKey)]
  | .editKey _ publicKey => [("ssh_pub_key", publicKey)]
  | _ => []

end Request

end DropletClient
