import DropletClient.FileTree
import DropletClient.Text.Blank
import DropletClient.Text.Utf8

namespace DropletClient.CommandLine.KeyFile

/-!
# Key files

A key line can be kept in a file. A relative path is walked beneath the working
directory and must not lead out of it, not even to come back; an absolute path
is walked from the root.
-/

/-- Why a key file cannot be read. -/
inductive Fault where
  | noParent
  | noFileName
  | tree (fault : FileTree.Fault)
  | isDirectory
  | notText
  deriving Repr, DecidableEq

/-- The wording for a key file that cannot be read. -/
def Fault.message : Fault → String
  | .noParent => "path has no parent directory"
  | .noFileName => "path has no file name"
  | .tree .outside => "a path led outside of the filesystem"
  | .tree .notFound => "No such file or directory (os error 2)"
  | .tree .notDirectory => "Not a directory (os error 20)"
  | .isDirectory => "Is a directory (os error 21)"
  | .notText => "stream did not contain valid UTF-8"

/-- What the names of a path lead to from a directory. -/
def follow
    [Monad m]
    (look : FileTree.Place → m (Option FileTree.Entry))
    (place : FileTree.Place)
    (names : List String) :
    m (Except Fault FileTree.Entry) := do
  return (← FileTree.walk look true place names).mapError
    Fault.tree |>.map Prod.snd

/-- What a path leads to. An absolute path ends with the name of something. -/
def find
    [Monad m]
    (look : FileTree.Place → m (Option FileTree.Entry))
    (path : String) :
    m (Except Fault FileTree.Entry) := do
  if path.isEmpty then
    return .error (.tree .notFound)
  else if FileTree.isAbsolute path then
    let names :=
      (FileTree.namesOf path).filter fun name => !FileTree.staysThere name
    match names.getLast? with
    | none => return .error .noParent
    | some last =>
        if last == FileTree.parentName then return .error .noFileName
        else follow look .root names
  else
    follow look .workingDirectory (FileTree.namesOf path)

/-- The text of what was found, without white space around it. -/
def textOf : FileTree.Entry → Except Fault String
  | .directory => .error .isDirectory
  | .file contents =>
      match Text.Utf8.decode? contents with
      | some text => .ok (String.ofList (Text.trim text))
      | none => .error .notText

/-- The text of the file that a path leads to, without white space around it. -/
def read
    [Monad m]
    (look : FileTree.Place → m (Option FileTree.Entry))
    (path : String) :
    m (Except Fault String) := do
  return (← find look path).bind textOf

end DropletClient.CommandLine.KeyFile
