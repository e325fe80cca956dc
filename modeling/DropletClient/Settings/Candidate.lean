import DropletClient.Environment
import DropletClient.FileTree
import DropletClient.Settings.Basic

namespace DropletClient.Settings.Candidate

/-!
# Candidates for the settings file

Where a settings file is looked for: at the path that a variable names, in the
directories for settings, in the home directory, and in the working directory.
-/

/-- The variable that names a settings file. -/
def pathVariable : String := "DROPSHIP_CONFIG_PATH"

/-- The variable that names the home directory. -/
def homeVariable : String := "HOME"

/-- The variable that names the directory for the settings of a user. -/
def userVariable : String := "XDG_CONFIG_HOME"

/-- The variable that names the directories for the settings of all users. -/
def sharedVariable : String := "XDG_CONFIG_DIRS"

/-- The variables that say where settings files are. -/
def variableNames : List String :=
  [pathVariable, homeVariable, userVariable, sharedVariable]

/--
The directory for the settings of the program, in a directory for settings.
-/
def directoryName : String := "dropship"

/--
The name of a settings file in a directory that is shared with other things.
-/
def dottedFileName : String := ".dropship.toml"

/--
The name of a settings file in a directory of its own, and in the working
directory.
-/
def fileName : String := "dropship.toml"

/-- The directory for settings in the home directory. -/
def homeSettingsName : String := ".config"

/-- The places of a settings file in a directory for settings. -/
def pathsIn (directory : String) : List String :=
  [FileTree.join (FileTree.join directory directoryName) fileName,
   FileTree.join directory dottedFileName]

/-- The file that is named outright, unless its name is empty. -/
def namedPaths (environment : Environment) : List String :=
  (environment.lookup pathVariable).toList.filter fun path => !path.isEmpty

/-- The directories for the settings of all users. -/
def sharedDirectories (environment : Environment) : List String :=
  match environment.lookup sharedVariable with
  | none => ["/etc/xdg"]
  | some value =>
      if value.isEmpty then ["/etc/xdg"]
      else ((Text.split ':' value.toList).map String.ofList).filter fun path =>
        !path.isEmpty

/-- The paths at which settings files are looked for, in order. -/
def paths (environment : Environment) : List String :=
  let home := (environment.lookup homeVariable).toList
  namedPaths environment ++
    (environment.lookup userVariable).toList.flatMap pathsIn ++
    (sharedDirectories environment).flatMap pathsIn ++
    home.flatMap
      (fun directory => pathsIn (FileTree.join directory homeSettingsName)) ++
    home.map (fun directory => FileTree.join directory dottedFileName) ++
    [fileName]

end DropletClient.Settings.Candidate
