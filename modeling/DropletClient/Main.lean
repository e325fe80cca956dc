import DropletClient.CommandLine.Program
import Std.Async.DNS
import Std.Async.TCP

/-!
# The program

The outer layer: the environment, files, the clock, and connections. Everything
that is decided here is how bytes travel; what they mean is decided in the
modules below.
-/

open DropletClient DropletClient.CommandLine

namespace DropletClient.Outer

/-- The bytes of a file, unless there is none that can be read. -/
def fileBytes? (path : String) : IO (Option (List UInt8)) := do
  try
    return some (← IO.FS.readBinFile path).toList
  catch _ =>
    return none

/-- What there is at a place. -/
def look (place : FileTree.Place) : IO (Option FileTree.Entry) := do
  let path :=
    (if place.absolute then "/" else "") ++ Text.joinStrings "/" place.names
  try
    if ← (← IO.FS.realPath path).isDir then return some .directory
  catch _ =>
    return none
  return (← fileBytes? path).map .file

/--
The variables of the environment: all of them, or else those with
well-known names.
-/
def environment : IO Environment := do
  match ← fileBytes? "/proc/self/environ" with
  | some bytes => return Environment.ofBytes bytes
  | none =>
      Settings.variableNames.filterMapM fun name => do
        return (← IO.getEnv name).map fun value => (name, value)

/-- The bytes of a connection up to its end. -/
partial def receive
    (socket : Std.Async.TCP.Socket.Client)
    (received : ByteArray) :
    Std.Async.Async ByteArray := do
  match ← socket.recv? 65536 with
  | none => return received
  | some part => receive socket (received ++ part)

/-- A host and a port as an address of the network. -/
def socketAddress
    (address : Std.Net.IPAddr)
    (port : Nat) :
    Std.Net.SocketAddress :=
  match address with
  | .v4 address => .v4 { addr := address, port := port.toUInt16 }
  | .v6 address => .v6 { addr := address, port := port.toUInt16 }

/-- Asks for the thing at an address, over a connection of its own. -/
def exchange (url : Http.Url) : IO (Option HttpResponse) := do
  let addresses ← (Std.Async.DNS.getAddrInfo url.host "").block
  match addresses[0]? with
  | none => return none
  | some address =>
      let socket ← Std.Async.TCP.Socket.Client.mk
      (socket.connect (socketAddress address url.port)).block
      (socket.sendAll #[(Http.requestText url).toUTF8]).block
      let received ← (receive socket ByteArray.empty).block
      return HttpResponse.ofBytes? received.toList

/-- Waits for a task, but not beyond a time in milliseconds. -/
partial def awaitUntil
    (limit : Nat)
    (task : Task (Except IO.Error (Option α))) :
    IO (Option α) := do
  if ← IO.hasFinished task then
    match task.get with
    | .ok value => return value
    | .error _ => return none
  else if (← IO.monoMsNow) ≥ limit then
    IO.cancel task
    return none
  else
    IO.sleep 1
    awaitUntil limit task

/--
The response from an address, if there is one in time. Encrypted connections are
not made.
-/
def fetch (timeout : Nat) (url : Http.Url) : IO (Option HttpResponse) := do
  if url.secure then return none
  let task ← IO.asTask (exchange url) .dedicated
  awaitUntil ((← IO.monoMsNow) + timeout * 1000) task

/-- Replies to an effect. -/
def perform (client : HttpClient) : (effect : Effect) → IO effect.Reply
  | .send request => do
      let response ←
        match client.url? request with
        | none => pure none
        | some url => fetch client.timeout url
      return HttpClient.answerFrom request response
  | .sleep duration => IO.sleep (duration / nanosecondsPerMillisecond).toUInt32
  | .readClock => IO.monoNanosNow
  | .generateKeys =>
      return .error (.configuration (.reported
        ("could not generate the credentials key pair: " ++
          "no generator is available")))
  | .proposeName group => do
      let bytes ← IO.getRandomBytes 4
      let word :=
        bytes.toList.foldl (fun word byte => word * 256 + byte.toUInt32) 0
      return Naming.uniqueName group word

end DropletClient.Outer

/-- Carries out the command that the words of the command line name. -/
def main (words : List String) : IO UInt32 := do
  match Invocation.ofWords words with
  | .usageError =>
      (← IO.getStderr).putStr (programHelp specs)
      return usageExitCode.toUInt32
  | .showHelp help =>
      (← IO.getStdout).putStr help
      return 0
  | .run command =>
      let report ← execute Outer.look Outer.perform
        (← Outer.environment) command
      (← IO.getStdout).putStr report.output
      if let some fault := report.fault? then
        (← IO.getStderr).putStrLn fault.message
      return report.exitCode.toUInt32
