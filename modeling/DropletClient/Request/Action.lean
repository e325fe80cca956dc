import DropletClient.Identifier

namespace DropletClient

/-!
# Actions on droplets

What can be done to a droplet that exists, and how a request spells it: a
segment of the path and query pairs.
-/

/-- A name and a value in the query of a request. -/
abbrev QueryPair := String × String

/-- The text of a flag in a query. -/
def flagText (flag : Bool) : String :=
  if flag then "true" else "false"

/-- What can be done to a droplet. -/
inductive DropletAction where
  | reboot
  | powerCycle
  | shutdown
  | powerOff
  | powerOn
  | resetPassword
  | resize (sizeId : Int32)
  | snapshot (name : Option String)
  | restore (imageId : Int32)
  | rebuild (imageId : Int32)
  | rename (name : String)
  | destroy (scrubData : Bool)
  deriving Repr, DecidableEq

namespace DropletAction

/-- The segment of the path that spells an action. -/
def segment : DropletAction → String
  | .reboot => "reboot"
  | .powerCycle => "power_cycle"
  | .shutdown => "shutdown"
  | .powerOff => "power_off"
  | .powerOn => "power_on"
  | .resetPassword => "password_reset"
  | .resize _ => "resize"
  | .snapshot _ => "snapshot"
  | .restore _ => "restore"
  | .rebuild _ => "rebuild"
  | .rename _ => "rename"
  | .destroy _ => "destroy"

/-- The query pairs of an action. -/
def query : DropletAction → List QueryPair
  | .resize sizeId => [("size_id", Identifier.text sizeId)]
  | .snapshot (some name) => [("name", name)]
  | .rename name => [("name", name)]
  | .restore imageId => [("image_id", Identifier.text imageId)]
  | .rebuild imageId => [("image_id", Identifier.text imageId)]
  | .destroy scrubData => [("scrub_data", flagText scrubData)]
  | .snapshot none => []
  | .reboot => []
  | .powerCycle => []
  | .shutdown => []
  | .powerOff => []
  | .powerOn => []
  | .resetPassword => []

end DropletAction

end DropletClient
