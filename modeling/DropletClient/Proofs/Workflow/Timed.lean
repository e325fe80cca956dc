import DropletClient.Workflow.Run

namespace DropletClient

/-!
# Worlds that change with time

A provider may answer by the clock: an event is pending until some instant,
and done from then on. A world that changes with time is given by the world
that there is at each time; a world that does not change is the same one at
all times.
-/

namespace Workflow

/--
Carries out a workflow in a world that changes with time; it replies as it is
when asked.
-/
def runAt
    (worldAt : Nat → World σ)
    (workflow : Workflow α)
    (session : Session σ) :
    Option (Except Failure α) × Session σ :=
  workflow.runWith (m := StateM (Session σ))
    (fun effect session =>
      (worldAt session.clock).perform session effect) session

/-- A world that does not change may be run in as it is. -/
theorem runAt_constant
    (world : World σ)
    (workflow : Workflow α)
    (session : Session σ) :
    workflow.runAt (fun _ => world) session = workflow.run world session :=
  runWith_perform world workflow session

/--
Carrying out a workflow and then what follows from its value is carrying out
both as one.
-/
theorem runAt_bind
    (worldAt : Nat → World σ)
    (workflow : Workflow α)
    (next : α → Workflow β)
    (session : Session σ) :
    (workflow >>= next).runAt worldAt session =
      match workflow.runAt worldAt session with
      | (some (.ok value), later) => (next value).runAt worldAt later
      | (some (.error failure), later) => (some (.error failure), later)
      | (none, later) => (none, later) := by
  change (workflow.bind next).runAt worldAt session = _
  induction workflow generalizing session with
  | finished outcome => cases outcome <;> rfl
  | unfinished => rfl
  | perform effect continuation inductionHypothesis =>
      exact inductionHypothesis _ _

end Workflow

end DropletClient
