import DropletClient.Poll.Policy
import DropletClient.Workflow.Basic

namespace DropletClient

/-!
# Waiting for operations

An event is looked at, and looked at again after a delay, until it is done, it
has failed, or no time is left. What is seen at the deadline itself still
counts. A wait need not end by itself if the policy allows delays of no length
or a deadline beyond the range of the clock, so a patience bounds how often an
event is looked at again.
-/

namespace Workflow

/--
Lets a delay pass, but no more than the time that is left; fails if none is
left.
-/
def pause
    (kind : EventKind)
    (event : Int32)
    (deadline : Option Nat)
    (period : Nat) :
    Workflow Unit := do
  match deadline with
  | none => sleep period
  | some limit =>
      let time ← readClock
      if limit - time = 0 then fail (.timeout kind event)
      else sleep (min period (limit - time))

/--
Looks at an event until it is final, the deadline has come, or there were
enough looks.
-/
def poll
    (policy : PollPolicy)
    (kind : EventKind)
    (event : Int32)
    (deadline : Option Nat) :
    (looks period : Nat) → Workflow Unit
  | 0, _ => .unfinished
  | looks + 1, period => do
      let seen ← send (.getEvent event)
      match seen.status with
      | .done => return ()
      | .error => fail (.operationFailed event)
      | .pending => do
          pause kind event deadline period
          poll policy kind event deadline looks (policy.nextPeriod period)

/--
Waits until an event is done, within the time that the policy for its kind
allows. There is always a first look, and patience bounds those that follow it.
-/
def waitFor
    (policies : PollPolicies)
    (patience : Nat)
    (event : Int32)
    (kind : EventKind) :
    Workflow Unit := do
  let policy := policies.get kind
  let start ← readClock
  poll policy kind event (policy.deadline? start) (patience + 1)
    policy.initialPeriod

end Workflow

end DropletClient
