import DropletClient.CommandLine.Command
import DropletClient.CommandLine.KeyFile
import DropletClient.CommandLine.Listing
import DropletClient.Compute.Credentials
import DropletClient.Compute.Imaging
import DropletClient.Http.Client
import DropletClient.Settings.Load

namespace DropletClient.CommandLine

/-!
# What the program does

A command is carried out as a workflow: the settings are loaded and checked,
then the key file is read if one was named, and only then is anything asked of
the provider. The program prints what the command gives, or else one message
about what went wrong, and never both.
-/

/-- Why a command was not carried out. -/
inductive Fault where
  | settings (fault : Settings.Fault)
  | provider (failure : Failure)
  | keyFile (path : String) (fault : KeyFile.Fault)
  | imageNotDeleted (id : String)
  | patienceLost
  deriving Repr, DecidableEq

/-- The wording for a command that was not carried out. -/
def Fault.message : Fault → String
  | .settings fault => "configuration error: " ++ fault.message
  | .provider failure => failure.message
  | .keyFile path fault =>
      "failed to read public key file " ++ path ++ ": " ++ fault.message
  | .imageNotDeleted id => "image " ++ id ++ " was not deleted"
  | .patienceLost => "an operation was looked at too often"

/--
How a command ended: with what the program prints, or with what went wrong.
-/
inductive Report where
  | success (output : String)
  | failure (fault : Fault)
  deriving Repr, DecidableEq

namespace Report

/-- What the program prints; a command that went wrong prints nothing. -/
def output : Report → String
  | .success output => output
  | .failure _ => ""

/-- What went wrong. -/
def fault? : Report → Option Fault
  | .success _ => none
  | .failure fault => some fault

/-- The exit code of the program. -/
def exitCode : Report → Nat
  | .success _ => 0
  | .failure _ => 1

/-- The report on a workflow that was carried out. -/
def ofOutcome : Option (Except Failure (Except Fault String)) → Report
  | none => failure .patienceLost
  | some (.error fault) => failure (.provider fault)
  | some (.ok (.error fault)) => failure fault
  | some (.ok (.ok output)) => success output

end Report

/-- The exit code for a command line that names no command. -/
def usageExitCode : Nat := 2

/-- A client, and how its workflows wait. -/
structure Connection where
  client : HttpClient
  compute : Compute

/--
Looks at an event that no wait exceeds: the longest one holds fewer of the
shortest periods.
-/
def patience : Nat := 1000000000

/-- A client with settings that were loaded, if they were. -/
def connect
    (loaded : Except Settings.Fault Settings) :
    Except Fault Connection := do
  let settings ← loaded.mapError .settings
  let client ← (HttpClient.connect settings).mapError .provider
  return {
    client
    compute := {
      policies := settings.pollPolicies, patience, groupOf := Naming.groupOf? }
  }

/-- The template of the droplet that is asked for. -/
def CreateArguments.template
    (arguments : CreateArguments)
    (key : Option String) :
    Template where
  imageId := arguments.image
  hardwareId := arguments.size
  locationId := arguments.region
  publicKey := key
  sshKeyIds := arguments.sshKeyIds
  privateNetworking := if arguments.privateNetworking then some true else none
  backupsEnabled := if arguments.backups then some true else none

/-- Creates a droplet with the given name, or one for its group. -/
def creationOutput
    (compute : Compute)
    (arguments : CreateArguments)
    (key : Option String) :
    Workflow String := do
  let name ←
    match arguments.name with
    | some name => pure name
    | none => Workflow.proposeName arguments.group
  let created ← compute.createNode name (arguments.template key)
  return line [created.id, created.node.name, created.node.ip]

/-- Deletes an image; an image that stays is a fault of its own. -/
def deletionOutput (id : String) : Workflow (Except Fault String) := do
  if ← Compute.deleteImage id then
    return .ok ""
  else
    return .error (.imageNotDeleted id)

/-- Registers the default key, and gives its private half. -/
def credentialsOutput : Workflow String := do
  let (defaults, _) ← Provisioner.empty.get
  return "# key " ++ Identifier.text defaults.key.id ++ " (" ++
    defaults.key.name ++ ")\n" ++
    "# user " ++ defaults.credentials.user ++ "\n" ++
    defaults.credentials.privateKey.getD ""

/-- What a command prints, as a workflow; the key line was read before. -/
def Command.workflow
    (compute : Compute)
    (key : Option String) :
    Command → Workflow (Except Fault String)
  | .nodes => do return .ok (listing nodeColumns (← compute.describeNodes))
  | .images => do
      let images ← Compute.listImages
      return .ok (listing imageColumns (images.map Image.toPortable))
  | .sizes => do return .ok (listing sizeColumns (← Compute.listHardware))
  | .regions => do return .ok (listing regionColumns (← Compute.listLocations))
  | .create arguments => do return .ok (← creationOutput compute arguments key)
  | .destroy id => do
      Compute.destroyNode id
      return .ok ""
  | .reboot id => do
      compute.rebootNode id
      return .ok ""
  | .suspend id => do
      compute.suspendNode id
      return .ok ""
  | .resume id => do
      compute.resumeNode id
      return .ok ""
  | .cloneImage node name => do
      let image ← compute.createImageFromNode name node
      return .ok (listing imageColumns [image])
  | .deleteImage id => deletionOutput id
  | .defaultCredentials => do return .ok (← credentialsOutput)

/-- The key file that a command names. -/
def Command.keyFile? : Command → Option String
  | .create arguments => arguments.publicKeyFile
  | _ => none

/-- The key line of a command, from the file that it names. -/
def readKey
    [Monad m]
    (look : FileTree.Place → m (Option FileTree.Entry))
    (command : Command) :
    m (Except Fault (Option String)) := do
  match command.keyFile? with
  | none => return .ok none
  | some path =>
      match ← KeyFile.read look path with
      | .error fault => return .error (.keyFile path fault)
      | .ok key => return .ok (some key)

/--
Carries out a command; `look` finds files, and `perform` replies to the effects
of workflows.
-/
def execute
    [Monad m]
    (look : FileTree.Place → m (Option FileTree.Entry))
    (perform : HttpClient → (effect : Effect) → m effect.Reply)
    (environment : Environment)
    (command : Command) :
    m Report := do
  match connect (← Settings.load look environment) with
  | .error fault => return .failure fault
  | .ok connection =>
      match ← readKey look command with
      | .error fault => return .failure fault
      | .ok key =>
          let workflow := command.workflow connection.compute key
          return .ofOutcome (← workflow.runWith (perform connection.client))

end DropletClient.CommandLine
