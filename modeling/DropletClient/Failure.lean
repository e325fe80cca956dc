import DropletClient.Record.Mismatch
import DropletClient.Settings.Basic

namespace DropletClient

/-!
# Failures

Everything that can go wrong between a client and the provider, as causes; the
wording is in `Failure.message` alone.
-/

/-- Why a response is not what a well-behaved provider sends. -/
inductive Malformed where
  | notAnEnvelope
  | record (mismatch : Mismatch)
  deriving Repr, DecidableEq

/-- The wording for a malformed response. -/
def Malformed.message : Malformed → String
  | .notAnEnvelope => "the body is not a JSON envelope"
  | .record mismatch => mismatch.message

/--
Why a request has no usable answer. A fault that was found elsewhere is known by
its wording.
-/
inductive TransportFault where
  | noResponse
  | httpStatus (status : Nat) (details : Option String)
  | malformed (cause : Malformed)
  | missingPayload (field : String)
  | emptyResponse (path : String)
  | reported (wording : String)
  deriving Repr, DecidableEq

/-- The wording for a request without a usable answer. -/
def TransportFault.message : TransportFault → String
  | .noResponse => "no response was received"
  | .httpStatus status none => "HTTP " ++ Text.Decimal.ofNat status
  | .httpStatus status (some details) =>
      "HTTP " ++ Text.Decimal.ofNat status ++ ": " ++ details
  | .malformed cause => "malformed response: " ++ cause.message
  | .missingPayload field =>
      "response is missing the " ++ Found.backquoted field ++ " field"
  | .emptyResponse path => "empty response from " ++ path
  | .reported wording => wording

/-- Why a client cannot be set up. -/
inductive SetupFault where
  | settings (fault : Settings.Fault)
  | noUnusedName
  | reported (wording : String)
  deriving Repr, DecidableEq

/-- The wording for a client that cannot be set up. -/
def SetupFault.message : SetupFault → String
  | .settings fault => fault.message
  | .noUnusedName => "Could not generate a name for the credentials key pair"
  | .reported wording => wording

/-- What must exist and does not. -/
inductive Missing where
  | droplet (id : String)
  | image (name : String)
  | reported (wording : String)
  deriving Repr, DecidableEq

/-- The wording for what does not exist. -/
def Missing.message : Missing → String
  | .droplet id => "Cannot find droplet with id: " ++ id
  | .image name => "Cannot find image with name: " ++ name
  | .reported wording => wording

/-- Everything that can go wrong between a client and the provider. -/
inductive Failure where
  | authorization (details : String)
  | notFound (details : String)
  | provider (details : String)
  | timeout (kind : EventKind) (event : Int32)
  | operationFailed (event : Int32)
  | keyFormat (fault : Key.Fault)
  | configuration (fault : SetupFault)
  | noSuchElement (missing : Missing)
  | transport (fault : TransportFault)
  deriving Repr, DecidableEq

/-- The wording of a failure. -/
def Failure.message : Failure → String
  | .authorization details => "authorization failed: " ++ details
  | .notFound details => "resource not found: " ++ details
  | .provider details => "provider error: " ++ details
  | .timeout kind event =>
      "timeout waiting for " ++ kind.label ++ " on event " ++
        Text.Decimal.ofInt event.toInt
  | .operationFailed event =>
      "operation tracked by event " ++
        Text.Decimal.ofInt event.toInt ++ " failed"
  | .keyFormat fault => "invalid public key: " ++ fault.message
  | .configuration fault => "configuration error: " ++ fault.message
  | .noSuchElement missing => "no such element: " ++ missing.message
  | .transport fault => "transport error: " ++ fault.message

end DropletClient
