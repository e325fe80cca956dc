import DropletClient.Failure
import DropletClient.Poll.Policy
import DropletClient.Settings.Basic
import DropletClient.Text.Blank

namespace DropletClient.Settings

/-!
# Checking settings

Settings are checked one after the other, in a fixed order, and the first fault
is the one that is reported. What passes gives a poll policy for every kind of
operation.
-/

/-- The longest wait for a kind of operation, in seconds. -/
def wait (settings : Settings) : EventKind → Nat
  | .nodeRunning => settings.nodeRunningTimeout
  | .nodeSuspended => settings.nodeSuspendedTimeout
  | .nodeTerminated => settings.nodeTerminatedTimeout
  | .imageAvailable => settings.imageAvailableTimeout

/-- The setting of the longest wait for a kind of operation. -/
def waitSetting : EventKind → Setting
  | .nodeRunning => .nodeRunningTimeout
  | .nodeSuspended => .nodeSuspendedTimeout
  | .nodeTerminated => .nodeTerminatedTimeout
  | .imageAvailable => .imageAvailableTimeout

/-- A text must not be blank. -/
def checkText (setting : Setting) (value : String) : Option Fault :=
  if Text.isBlankString value then some (.blank setting) else none

/-- A number must be positive. -/
def checkPositive (setting : Setting) (value : Nat) : Option Fault :=
  if value = 0 then some (.notPositive setting) else none

/-- A wait must not be too long. -/
def checkWait (settings : Settings) (kind : EventKind) : Option Fault :=
  if longestWait < settings.wait kind then
    some (.waitTooLong (waitSetting kind) (settings.wait kind))
  else
    none

/-- The first period must not exceed the greatest one. -/
def checkOrder (settings : Settings) : Option Fault :=
  if settings.pollMaxPeriod < settings.pollInitialPeriod then
    some (.periodsInverted settings.pollInitialPeriod settings.pollMaxPeriod)
  else
    none

/-- The findings of all checks, in their order. -/
def findings (settings : Settings) : List (Option Fault) :=
  [checkText .clientId settings.clientId,
   checkText .apiKey settings.apiKey,
   checkText .endpoint settings.endpoint,
   checkPositive .httpTimeout settings.httpTimeout] ++
  EventKind.all.map settings.checkWait ++
  [checkPositive .pollInitialPeriod settings.pollInitialPeriod,
   checkPositive .pollMaxPeriod settings.pollMaxPeriod,
   settings.checkOrder]

/--
Passes settings that no check finds fault with; else reports the first finding.
-/
def validate (settings : Settings) : Except Fault Unit :=
  match settings.findings.findSome? id with
  | some fault => .error fault
  | none => .ok ()

/-- How to wait for a kind of operation. -/
def pollPolicy (settings : Settings) (kind : EventKind) : PollPolicy where
  timeout := settings.wait kind * nanosecondsPerSecond
  initialPeriod := settings.pollInitialPeriod * nanosecondsPerMillisecond
  maxPeriod := settings.pollMaxPeriod * nanosecondsPerMillisecond

/-- How to wait for every kind of operation. -/
def pollPolicies (settings : Settings) : PollPolicies where
  nodeRunning := settings.pollPolicy .nodeRunning
  nodeSuspended := settings.pollPolicy .nodeSuspended
  nodeTerminated := settings.pollPolicy .nodeTerminated
  imageAvailable := settings.pollPolicy .imageAvailable

end DropletClient.Settings
