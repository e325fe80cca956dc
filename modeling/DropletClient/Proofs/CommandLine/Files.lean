import DropletClient.CommandLine.Program

namespace DropletClient

/-!
# Files that stay as they are

As long as files do not change, what is read from them is a matter of what there
is: the settings that a program loads and the key line that it reads are values,
and reading them has no effects.
-/

/-- Looks at files that stay as they are. -/
def FileTree.still
    [Monad m]
    (files : FileTree.Place → Option FileTree.Entry)
    (place : FileTree.Place) :
    m (Option FileTree.Entry) :=
  pure (files place)

/-- The settings that there are in files and the environment. -/
def Settings.loaded
    (files : FileTree.Place → Option FileTree.Entry)
    (environment : Environment) :
    Except Fault Settings :=
  (Settings.load (m := Id) files environment).run

variable [Monad m] [LawfulMonad m]
  (files : FileTree.Place → Option FileTree.Entry)

namespace Settings

end Settings

namespace CommandLine

end CommandLine

end DropletClient
