namespace DropletClient

/-!
# Kinds of operations

Every change the provider makes takes a while. The kind of the operation selects
how long a client is prepared to wait for it.
-/

/--
What is waited for: a droplet that boots, stops or is destroyed, or an image to
be ready.
-/
inductive EventKind where
  | nodeRunning
  | nodeSuspended
  | nodeTerminated
  | imageAvailable
  deriving Repr, DecidableEq

namespace EventKind

/-- The name of a kind in messages. -/
def label : EventKind → String
  | .nodeRunning => "node-running"
  | .nodeSuspended => "node-suspended"
  | .nodeTerminated => "node-terminated"
  | .imageAvailable => "image-available"

/-- All kinds, in the order in which their settings are checked. -/
def all : List EventKind :=
  [.nodeRunning, .nodeSuspended, .nodeTerminated, .imageAvailable]

/-- The kind with a name. -/
def ofLabel? (name : String) : Option EventKind :=
  all.find? fun kind => kind.label == name

end EventKind

end DropletClient
