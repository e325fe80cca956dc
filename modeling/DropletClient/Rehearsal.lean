import DropletClient.ScriptedCloud

namespace DropletClient

/-!
# Rehearsals

A world in which workflows can be tried out: the scripted provider, faults that
are injected in front of it, and prepared names and key pairs. A call that meets
a fault does not reach the provider.
-/

/--
A call of a workflow: one that reached the provider, or one that met a fault.
-/
inductive Call where
  | reached (request : Request)
  | faulted (operation : String)
  deriving Repr, DecidableEq

/--
A fault for the next call of an operation; an empty one lets the call pass.
-/
structure QueuedFault where
  operation : String
  failure : Option Failure
  deriving Repr, DecidableEq

/-- The state of a rehearsal; the trail has the newest call first. -/
structure Rehearsal where
  cloud : ScriptedCloud
  faults : List QueuedFault
  names : List String
  pairs : List (Except Failure KeyPair)
  nameUses : Nat
  pairUses : Nat
  trail : List Call

namespace Rehearsal

/-- Takes the first fault that is queued for an operation. -/
def takeFault
    (operation : String) :
    List QueuedFault → Option (QueuedFault × List QueuedFault)
  | [] => none
  | fault :: rest =>
      if fault.operation = operation then some (fault, rest)
      else (takeFault operation rest).map fun (taken, later) =>
        (taken, fault :: later)

/-- Queues a fault for an operation. -/
def failNext (rehearsal : Rehearsal) (fault : QueuedFault) : Rehearsal :=
  { rehearsal with faults := rehearsal.faults ++ [fault] }

/-- Lets a request reach the provider. -/
def reach (rehearsal : Rehearsal) (request : Request) :
    Except Failure request.Answer × Rehearsal :=
  let (reply, cloud) := rehearsal.cloud.answer request
  (reply,
    { rehearsal with cloud, trail := .reached request :: rehearsal.trail })

/-- Answers a request, unless a fault is queued for its operation. -/
def answer (rehearsal : Rehearsal) (request : Request) :
    Except Failure request.Answer × Rehearsal :=
  match takeFault request.operation rehearsal.faults with
  | none => rehearsal.reach request
  | some (⟨_, none⟩, faults) => { rehearsal with faults }.reach request
  | some (⟨_, some failure⟩, faults) =>
      (.error failure,
        { rehearsal with
          faults, trail := .faulted request.operation :: rehearsal.trail })

/--
The item of a list that a use takes: the items in order, and then the last
one again.
-/
def itemForUse? (items : List α) (uses : Nat) : Option α :=
  items[uses]?.or items.getLast?

/-- What stands for the group in a prepared name. -/
def groupMark : List Char :=
  ['\x7b', 'g', 'r', 'o', 'u', 'p', '\x7d']

/--
A prepared name for a group; `skipped` characters of a mark that was replaced
are left out.
-/
def fillGroup (group : List Char) : (skipped : Nat) → List Char → List Char
  | _, [] => []
  | skipped + 1, _ :: rest => fillGroup group skipped rest
  | 0, character :: rest =>
      if groupMark.isPrefixOf (character :: rest) then
        group ++ fillGroup group (groupMark.length - 1) rest
      else
        character :: fillGroup group 0 rest

/-- Proposes the next prepared name. -/
def propose (rehearsal : Rehearsal) (group : String) : String × Rehearsal :=
  let name := (itemForUse? rehearsal.names rehearsal.nameUses).getD ""
  (String.ofList (fillGroup group.toList 0 name.toList),
    { rehearsal with nameUses := rehearsal.nameUses + 1 })

/-- Gives the next prepared key pair. -/
def generate (rehearsal : Rehearsal) : Except Failure KeyPair × Rehearsal :=
  let pair := (itemForUse? rehearsal.pairs rehearsal.pairUses).getD
    (.error (.configuration (.reported "no key pair was prepared")))
  (pair, { rehearsal with pairUses := rehearsal.pairUses + 1 })

/-- The world of a rehearsal. -/
def world : World Rehearsal :=
  ⟨answer, generate, propose⟩

end Rehearsal

end DropletClient
