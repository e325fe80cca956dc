import DropletClient.Settings.Candidate
import DropletClient.Settings.File
import DropletClient.Settings.Variable

namespace DropletClient.Settings

/-!
# Loading settings

A setting is taken from its variable of the environment, else from the settings
file, else from the defaults; the credentials have no defaults. The settings
file is the first of the candidates that can be read as one.
-/

/--
The names of the variables that settings depend on, as they are written in full.
-/
def variableNames : List String :=
  Setting.all.map Setting.environmentName ++ Candidate.variableNames

/--
What the environment or else the settings file gives for a setting; the last
variable counts.
-/
def sourceValue?
    (environment : Environment)
    (entries : File.Entries)
    (setting : Setting) :
    Option SourceValue :=
  let given := environment.reverse.findSome? fun (name, value) =>
    Variable.valueFor? setting name value
  given.or (entries.lookup setting.key)

/-- A setting that is read from its sources, or its default. -/
def take
    (read : SourceValue → Option α)
    (default : Option α)
    (setting : Setting)
    (given : Option SourceValue) :
    Except Fault α :=
  match given with
  | some value =>
      match read value with
      | some result => .ok result
      | none => .error (.unreadable ("invalid type for " ++ setting.key))
  | none =>
      match default with
      | some result => .ok result
      | none => .error (.unreadable ("missing field " ++ setting.key))

/--
The settings that the environment and the entries of a settings file give.
-/
def ofSources
    (environment : Environment)
    (entries : File.Entries) :
    Except Fault Settings := do
  let defaults := withCredentials "" ""
  let text (setting : Setting) (default : Option String) :=
    take SourceValue.text? default setting
      (sourceValue? environment entries setting)
  let number (setting : Setting) (default : Nat) :=
    take SourceValue.number? (some default) setting
      (sourceValue? environment entries setting)
  return {
    clientId := ← text .clientId none
    apiKey := ← text .apiKey none
    endpoint := ← text .endpoint (some defaults.endpoint)
    httpTimeout := ← number .httpTimeout defaults.httpTimeout
    nodeRunningTimeout :=
      ← number .nodeRunningTimeout defaults.nodeRunningTimeout
    nodeSuspendedTimeout :=
      ← number .nodeSuspendedTimeout defaults.nodeSuspendedTimeout
    nodeTerminatedTimeout :=
      ← number .nodeTerminatedTimeout defaults.nodeTerminatedTimeout
    imageAvailableTimeout :=
      ← number .imageAvailableTimeout defaults.imageAvailableTimeout
    pollInitialPeriod := ← number .pollInitialPeriod defaults.pollInitialPeriod
    pollMaxPeriod := ← number .pollMaxPeriod defaults.pollMaxPeriod
  }

/--
The entries of the first settings file that can be read. Files that cannot be
read are passed over, but if there are only such files, that is a fault; there
need not be a file.
-/
def findEntries
    [Monad m]
    (look : FileTree.Place → m (Option FileTree.Entry)) :
    (paths : List String) → (unreadable : Bool) → m (Except Fault File.Entries)
  | [], false => return .ok []
  | [], true =>
      return .error (.unreadable "the settings file is not a TOML document")
  | path :: rest, unreadable => do
      match ← File.findingAt look path with
      | .missing => findEntries look rest unreadable
      | .unreadable => findEntries look rest true
      | .entries given => return .ok given

/-- Loads the settings; `look` tells what there is at a place. -/
def load
    [Monad m]
    (look : FileTree.Place → m (Option FileTree.Entry))
    (environment : Environment) :
    m (Except Fault Settings) := do
  return (← findEntries look (Candidate.paths environment) false).bind
    (ofSources environment)

end DropletClient.Settings
