import DropletClient.Text.Split

namespace DropletClient.FileTree

/-!
# Files and directories

Where files are, and the way to them: a path is walked name by name from the
root or from a directory. A walk can be confined to the working directory, which
it then must not leave, not even to come back.
-/

/-- What there can be at a place: a file with its bytes, or a directory. -/
inductive Entry where
  | file (contents : List UInt8)
  | directory
  deriving Repr, DecidableEq

/--
A place: the names that lead to it from the root or else from the working
directory.
-/
structure Place where
  absolute : Bool
  names : List String
  deriving Repr, DecidableEq

/-- Why a walk leads nowhere. -/
inductive Fault where
  | outside
  | notFound
  | notDirectory
  deriving Repr, DecidableEq

/-- The name that leads to the directory around a directory. -/
def parentName : String := ".."

namespace Place

/-- The root of all places. -/
def root : Place := ⟨true, []⟩

/-- The working directory. -/
def workingDirectory : Place := ⟨false, []⟩

/-- The place of a name in a directory. -/
def enter (place : Place) (name : String) : Place :=
  { place with names := place.names ++ [name] }

/-- The directory around a place; the root is around itself. -/
def parent (place : Place) : Place :=
  match place.names.getLast? with
  | none => if place.absolute then place else place.enter parentName
  | some last =>
      if last == parentName then place.enter parentName
      else { place with names := place.names.dropLast }

/-- A place that is reached only by leaving the working directory. -/
def isOutside (place : Place) : Bool :=
  !place.absolute && place.names.head? == some parentName

end Place

/-- A name that stays where it is. -/
def staysThere (name : String) : Bool :=
  name.isEmpty || name == "."

/-- The names in a path. -/
def namesOf (path : String) : List String :=
  (Text.split '/' path.toList).map String.ofList

/-- A path that begins at the root. -/
def isAbsolute (path : String) : Bool :=
  path.toList.head? == some '/'

/--
The path of a name in a directory, which is the working directory if its path
is empty.
-/
def join (directory name : String) : String :=
  if directory.isEmpty then name else directory ++ "/" ++ name

/--
Walks along names from a directory; `look` tells what there is at a place.
-/
def walk
    [Monad m]
    (look : Place → m (Option Entry))
    (confined : Bool)
    (place : Place) :
    List String → m (Except Fault (Place × Entry))
  | [] => return .ok (place, .directory)
  | name :: rest => do
      if staysThere name then
        walk look confined place rest
      else if name == parentName then
        if confined && place.parent.isOutside then return .error .outside
        else walk look confined place.parent rest
      else
        match ← look (place.enter name) with
        | none => return .error .notFound
        | some .directory => walk look confined (place.enter name) rest
        | some (.file contents) =>
            return if rest.isEmpty then .ok (place.enter name, .file contents)
              else .error .notDirectory

end DropletClient.FileTree
