import DropletClient.CommandLine.Help

namespace DropletClient.CommandLine

/-!
# Commands

The commands of the program, and how a command line names one of them.
-/

/-- What is asked for when a node is created. -/
structure CreateArguments where
  group : String
  name : Option String
  image : Int32
  size : Int32
  region : Int32
  publicKeyFile : Option String
  sshKeyIds : List Int32
  privateNetworking : Bool
  backups : Bool
  deriving Repr, DecidableEq

/-- The commands of the program. -/
inductive Command where
  | nodes
  | images
  | sizes
  | regions
  | create (arguments : CreateArguments)
  | destroy (id : String)
  | reboot (id : String)
  | suspend (id : String)
  | resume (id : String)
  | cloneImage (node name : String)
  | deleteImage (id : String)
  | defaultCredentials
  deriving Repr, DecidableEq

/-- What a command line asks for. -/
inductive Invocation where
  | run (command : Command)
  | showHelp (help : String)
  | usageError
  deriving Repr, DecidableEq

/-- An option that must be given. -/
def requiredOption
    (name : String)
    (kind : ValueKind)
    (valueName about : String) :
    OptionSpec :=
  ⟨name, kind, valueName, true, false, about⟩

/-- An option that may be given. -/
def optionalOption
    (name : String)
    (kind : ValueKind)
    (valueName about : String) :
    OptionSpec :=
  ⟨name, kind, valueName, false, false, about⟩

/-- A command without anything behind its name. -/
def plainSpec (name about : String) : CommandSpec :=
  ⟨name, about, none, []⟩

/-- A command with an identifier behind its name. -/
def idSpec (name about idAbout : String) : CommandSpec :=
  ⟨name, about, some ⟨"ID", idAbout⟩, []⟩

/-- What the creation of a node accepts. -/
def createSpec : CommandSpec where
  name := "create"
  about := "Create a droplet and wait until it is running"
  argument := none
  options := [
    requiredOption "group" .text "GROUP" "Group encoded into the droplet name",
    optionalOption "name" .text "NAME"
      "Explicit droplet name; generated from the group when omitted",
    requiredOption "image" .integer "ID" "Image identifier",
    requiredOption "size" .integer "ID" "Size identifier",
    requiredOption "region" .integer "ID" "Region identifier",
    optionalOption "public-key-file" .text "PATH"
      "OpenSSH public key file to register and authorize on the droplet",
    ⟨"ssh-key-id", .integer, "ID", false, true,
      "Already registered SSH key to authorize; may be repeated"⟩,
    optionalOption "private-networking" .flag "" "Enable private networking",
    optionalOption "backups" .flag "" "Enable automatic backups"]

/-- What the capture of a node accepts. -/
def cloneImageSpec : CommandSpec where
  name := "clone-image"
  about := "Snapshot a droplet into a new image"
  argument := none
  options := [
    requiredOption "node" .text "ID" "Droplet to snapshot",
    requiredOption "name" .text "NAME" "Name of the new image"]

/-- What identifies the droplet of a command. -/
def dropletIdAbout : String := "Droplet identifier"

/-- All commands, in the order of the help. -/
def specs : List CommandSpec :=
  [plainSpec "nodes"
      "List droplets with their size, region, and operating system",
    plainSpec "images" "List the images visible to the account",
    plainSpec "sizes" "List the available droplet sizes",
    plainSpec "regions" "List the available regions",
    createSpec,
    idSpec "destroy" "Destroy a droplet, scrubbing its disk" dropletIdAbout,
    idSpec "reboot" "Reboot a droplet and wait until it is running again"
      dropletIdAbout,
    idSpec "suspend" "Power a droplet off and wait until it is off"
      dropletIdAbout,
    idSpec "resume" "Power a droplet on and wait until it is running"
      dropletIdAbout,
    cloneImageSpec,
    idSpec "delete-image" "Delete an image" "Image identifier",
    plainSpec "default-credentials"
      "Register the default login key pair and print its private half"]

/-- The creation that complete arguments ask for. -/
def createArguments? (arguments : Arguments) : Option CreateArguments := do
  let integerOf (name : String) : Option Int32 :=
    (arguments.value? name).bind integer?
  return {
    group := ← arguments.value? "group"
    name := arguments.value? "name"
    image := ← integerOf "image"
    size := ← integerOf "size"
    region := ← integerOf "region"
    publicKeyFile := arguments.value? "public-key-file"
    sshKeyIds := (arguments.allValues "ssh-key-id").filterMap integer?
    privateNetworking := arguments.hasFlag "private-networking"
    backups := arguments.hasFlag "backups"
  }

/-- The command with a name that complete arguments ask for. -/
def command? (name : String) (arguments : Arguments) : Option Command :=
  match name with
  | "nodes" => some .nodes
  | "images" => some .images
  | "sizes" => some .sizes
  | "regions" => some .regions
  | "create" => (createArguments? arguments).map .create
  | "destroy" => arguments.argument.map .destroy
  | "reboot" => arguments.argument.map .reboot
  | "suspend" => arguments.argument.map .suspend
  | "resume" => arguments.argument.map .resume
  | "clone-image" => do
      let node ← arguments.value? "node"
      let image ← arguments.value? "name"
      return .cloneImage node image
  | "delete-image" => arguments.argument.map .deleteImage
  | "default-credentials" => some .defaultCredentials
  | _ => none

/-- The command with a name. -/
def spec? (name : String) : Option CommandSpec :=
  specs.find? fun spec => spec.name == name

/-- The help that the words behind the help command ask for. -/
def helpFor : List String → Invocation
  | [] => .showHelp (programHelp specs)
  | [name] =>
      match spec? name with
      | some spec => .showHelp spec.help
      | none =>
          if name == helpCommandName then .showHelp helpCommandHelp
          else .usageError
  | _ => .usageError

/-- What the words behind the name of a command ask for. -/
def invocationOf (spec : CommandSpec) (words : List String) : Invocation :=
  match spec.read words with
  | .error .help => .showHelp spec.help
  | .error .usage => .usageError
  | .ok arguments =>
      match command? spec.name arguments with
      | some command => .run command
      | none => .usageError

/-- A word that asks for the help of the program. -/
def asksForHelp (word : String) : Bool :=
  match word.toList with
  | '-' :: 'h' :: _ => true
  | _ => word == "--help"

/-- What a command line asks for. -/
def Invocation.ofWords : List String → Invocation
  | [] => .usageError
  | word :: rest =>
      if asksForHelp word then .showHelp (programHelp specs)
      else if word == helpCommandName then helpFor rest
      else
        match spec? word with
        | some spec => invocationOf spec rest
        | none => .usageError

end DropletClient.CommandLine
