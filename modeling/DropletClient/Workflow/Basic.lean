import DropletClient.Failure
import DropletClient.Poll.Policy
import DropletClient.Request.Basic

namespace DropletClient

/-!
# Workflows

A workflow is a plan: what to do next depends on the replies so far, and the
plan ends with a value, with a failure, or without a result because its patience
has run out. A plan does nothing by itself; `Workflow.run` in the next module
carries it out in a world.
-/

/-- A freshly generated key pair in its textual forms. -/
structure KeyPair where
  publicKey : String
  privateKey : String
  deriving Repr, DecidableEq

/-- What a diagnostic shows of a key pair: the public half only. -/
def KeyPair.diagnostic (pair : KeyPair) : String :=
  "GeneratedKeyPair \x7b public_key: " ++ Text.quoted pair.publicKey ++
    ", .. \x7d"

/-- What a workflow can do; durations are in nanoseconds. -/
inductive Effect where
  | send (request : Request)
  | sleep (duration : Nat)
  | readClock
  | generateKeys
  | proposeName (group : String)
  deriving Repr, DecidableEq

/-- What an effect is replied with. -/
abbrev Effect.Reply : Effect → Type
  | .send request => Except Failure request.Answer
  | .sleep _ => Unit
  | .readClock => Nat
  | .generateKeys => Except Failure KeyPair
  | .proposeName _ => String

/-- A plan that ends with a value of a type. -/
inductive Workflow (α : Type) : Type where
  | finished (outcome : Except Failure α)
  | unfinished
  | perform (effect : Effect) (next : effect.Reply → Workflow α)

namespace Workflow

/-- Goes on with the value of a workflow; a failure ends both. -/
def bind : Workflow α → (α → Workflow β) → Workflow β
  | .finished (.ok value), next => next value
  | .finished (.error failure), _ => .finished (.error failure)
  | .unfinished, _ => .unfinished
  | .perform effect continuation, next =>
      .perform effect fun reply => (continuation reply).bind next

instance : Monad Workflow where
  pure value := .finished (.ok value)
  bind := bind

/-- Ends with a failure. -/
def fail (failure : Failure) : Workflow α :=
  .finished (.error failure)

/-- Sends a request and goes on with its answer; a failure ends the workflow. -/
def send (request : Request) : Workflow request.Answer :=
  .perform (.send request) .finished

/-- Sends a request and goes on with the answer or the failure. -/
def attempt (request : Request) : Workflow (Except Failure request.Answer) :=
  .perform (.send request) fun reply => .finished (.ok reply)

/--
The longest time that passes in one sleep: thirty years of 365 days, in
nanoseconds. The cut is not the program's own: it is made by the timer of the
runtime that the program sleeps on.
-/
def longestSleep : Nat := 30 * 365 * 24 * 60 * 60 * nanosecondsPerSecond

/--
Lets time pass, but not more than the longest sleep.

A sleep ends exactly when it is due. The timer of the runtime counts whole
milliseconds, and what it adds to a sleep that ends between two of them, such as
one shorter than a millisecond, is left out.
-/
def sleep (duration : Nat) : Workflow Unit :=
  .perform (.sleep (min duration longestSleep)) fun _ => .finished (.ok ())

/-- The time on the clock. -/
def readClock : Workflow Nat :=
  .perform .readClock fun time => .finished (.ok time)

/-- A new key pair. -/
def generateKeys : Workflow KeyPair :=
  .perform .generateKeys .finished

/-- A candidate for a name in a group. -/
def proposeName (group : String) : Workflow String :=
  .perform (.proposeName group) fun name => .finished (.ok name)

/-- Goes on with a value, or ends with a failure. -/
def ofExcept (outcome : Except Failure α) : Workflow α :=
  .finished outcome

end Workflow

end DropletClient
