import DropletClient.FileTree
import DropletClient.Settings.Source
import DropletClient.Text.Utf8

namespace DropletClient.Settings.File

/-!
# Settings files

A settings file gives values to names, and can extend another file: what it does
not give itself is then taken from there. No file extends itself, not even by
way of others.
-/

/-- Names with their values; the first value of a name counts. -/
abbrev Entries := List (String × SourceValue)

/-- The name under which a file says which other file it extends. -/
def extendsName : String := "extends"

/-- The endings of the names of files that are written in other formats. -/
def foreignEndings : List String := ["json", "json5", "yaml", "yml"]

/--
What follows the last point in the name of a file, in lower-case ASCII letters.
-/
def ending (name : String) : String :=
  String.ofList (((Text.split '.' name.toList).getLastD []).map Char.toLower)

/--
What a file itself gives: the file is a text, and a document of the
right format.
-/
def ownEntries?
    (place : FileTree.Place)
    (contents : List UInt8) :
    Option Entries := do
  if foreignEndings.contains (ending (place.names.getLastD "")) then none
  let document ← Text.Utf8.decode? contents
  let members ← Toml.Document.read? document
  some (members.map fun (name, item) => (name, SourceValue.ofItem item))

/-- What a path leads to from a directory. -/
def find
    [Monad m]
    (look : FileTree.Place → m (Option FileTree.Entry))
    (directory : FileTree.Place)
    (path : String) :
    m (Except FileTree.Fault (FileTree.Place × FileTree.Entry)) :=
  FileTree.walk look false
    (if FileTree.isAbsolute path then .root else directory)
    (FileTree.namesOf path)

/-- No more files than this extend one another. -/
def longestChain : Nat := 1000

/--
What a file gives, with what the files give that it extends. The files that led
to it are known, so that none of them is extended again.
-/
def entriesOf?
    [Monad m]
    (look : FileTree.Place → m (Option FileTree.Entry)) :
    (fuel : Nat) → (before : List FileTree.Place) →
      FileTree.Place → List UInt8 → m (Option Entries)
  | 0, _, _, _ => return none
  | fuel + 1, before, place, contents => do
      match ownEntries? place contents with
      | none => return none
      | some entries =>
          match entries.lookup extendsName with
          | none => return some entries
          | some (.text path) =>
              if path.isEmpty then return none
              match ← find look place.parent path with
              | .ok (base, .file contents) =>
                  if base == place || before.contains base then return none
                  let inherited ← entriesOf? look fuel (place :: before)
                    base contents
                  return inherited.map (entries ++ ·)
              | _ => return none
          | some _ => return none

/-- What looking for a settings file can lead to. -/
inductive Finding where
  | missing
  | unreadable
  | entries (given : Entries)
  deriving Repr, DecidableEq

/-- What a path leads to from the working directory. -/
def findingAt
    [Monad m]
    (look : FileTree.Place → m (Option FileTree.Entry))
    (path : String) :
    m Finding := do
  match ← find look .workingDirectory path with
  | .ok (place, .file contents) =>
      match ← entriesOf? look longestChain [] place contents with
      | some entries => return .entries entries
      | none => return .unreadable
  | _ => return .missing

end DropletClient.Settings.File
