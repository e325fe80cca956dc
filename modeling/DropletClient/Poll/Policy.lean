import DropletClient.EventKind

namespace DropletClient

/-!
# Poll policies

How long to wait for an operation, and how often to look at it meanwhile: the
delay between two looks doubles until it reaches a bound. All durations are in
nanoseconds.
-/

/-- The nanoseconds of a second. -/
def nanosecondsPerSecond : Nat := 1000000000

/-- The nanoseconds of a millisecond. -/
def nanosecondsPerMillisecond : Nat := 1000000

/-- How long to wait altogether, the first delay, and the greatest delay. -/
structure PollPolicy where
  timeout : Nat
  initialPeriod : Nat
  maxPeriod : Nat
  deriving Repr, DecidableEq

namespace PollPolicy

/-- The delay that follows a delay. -/
def nextPeriod (policy : PollPolicy) (period : Nat) : Nat :=
  min (2 * period) policy.maxPeriod

/-- The end of the range of the clock. -/
def clockEnd : Nat := Nat.pow 2 63 * nanosecondsPerSecond

/--
The time at which a wait ends that begins at a time, unless it is beyond the
range of the clock.
-/
def deadline? (policy : PollPolicy) (start : Nat) : Option Nat :=
  if start + policy.timeout < clockEnd then
    some (start + policy.timeout)
  else
    none

end PollPolicy

/-- A policy for each kind of operation. -/
structure PollPolicies where
  nodeRunning : PollPolicy
  nodeSuspended : PollPolicy
  nodeTerminated : PollPolicy
  imageAvailable : PollPolicy
  deriving Repr, DecidableEq

namespace PollPolicies

/-- The same policy for every kind. -/
def uniform (policy : PollPolicy) : PollPolicies :=
  ⟨policy, policy, policy, policy⟩

/-- The policy for a kind. -/
def get (policies : PollPolicies) : EventKind → PollPolicy
  | .nodeRunning => policies.nodeRunning
  | .nodeSuspended => policies.nodeSuspended
  | .nodeTerminated => policies.nodeTerminated
  | .imageAvailable => policies.imageAvailable

end PollPolicies

end DropletClient
