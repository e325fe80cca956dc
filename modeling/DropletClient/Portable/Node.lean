import DropletClient.Portable.OperatingSystem
import DropletClient.Record.Droplet
import DropletClient.Text.Quoted

namespace DropletClient

/-!
# The portable model

Nodes, images, hardware and locations in words that do not depend on the
provider.
-/

/-- The state of a node. -/
inductive NodeStatus where
  | pending
  | running
  | suspended
  | terminated
  | error
  | unrecognized
  deriving Repr, DecidableEq

namespace NodeStatus

/-- The upper-case word for a state. -/
def label : NodeStatus → String
  | .pending => "PENDING"
  | .running => "RUNNING"
  | .suspended => "SUSPENDED"
  | .terminated => "TERMINATED"
  | .error => "ERROR"
  | .unrecognized => "UNRECOGNIZED"

/-- The state of a node whose droplet is in a state. -/
def ofDroplet : DropletStatus → NodeStatus
  | .active => .running
  | .new => .pending
  | .off => .suspended
  | .archive => .terminated
  | .unrecognized => .unrecognized

end NodeStatus

/-- How to log in to a node. -/
structure LoginCredentials where
  user : String
  privateKey : Option String
  deriving Repr, DecidableEq

namespace LoginCredentials

/--
What a diagnostic shows: the user, and whether there is a private key, but
never the key.
-/
def diagnostic (credentials : LoginCredentials) : String :=
  let key :=
    match credentials.privateKey with
    | none => "None"
    | some _ => "Some(\"<redacted>\")"
  "LoginCredentials \x7b user: " ++ Text.quoted credentials.user ++
    ", private_key: " ++ key ++ " \x7d"

end LoginCredentials

/--
An image that a node can boot; the provider lists only images that are ready.
-/
structure PortableImage where
  id : String
  providerId : String
  name : String
  description : String
  operatingSystem : OperatingSystem
  defaultCredentials : Option LoginCredentials
  deriving Repr, DecidableEq

/-- The state of every image that is listed. -/
def PortableImage.statusLabel : String := "Available"

/-- A hardware profile. -/
structure Hardware where
  id : String
  providerId : String
  name : String
  ramMegabytes : Int32
  processors : Int32
  diskGigabytes : Int32
  costPerHour : String
  deriving Repr, DecidableEq

/-- A place for nodes. -/
structure Location where
  id : String
  description : String
  slug : String
  deriving Repr, DecidableEq

/-- A node; what the catalog does not list is left out. -/
structure Node where
  id : String
  providerId : String
  name : String
  group : Option String
  hardware : Option Hardware
  location : Option Location
  imageId : String
  operatingSystem : Option OperatingSystem
  status : NodeStatus
  backendStatus : String
  publicAddresses : List String
  privateAddresses : List String
  deriving Repr, DecidableEq

/-- What a node is built from, and how. -/
structure Template where
  imageId : Int32
  hardwareId : Int32
  locationId : Int32
  publicKey : Option String
  sshKeyIds : List Int32
  privateNetworking : Option Bool
  backupsEnabled : Option Bool
  deriving Repr, DecidableEq

/--
A node that was just created, and the credentials that are known from the start.
-/
structure CreatedNode where
  id : String
  node : Droplet
  credentials : Option LoginCredentials
  deriving Repr, DecidableEq

/-- The wish to capture a node as an image. -/
structure CloneTemplate where
  name : String
  sourceNodeId : String
  deriving Repr, DecidableEq

end DropletClient
