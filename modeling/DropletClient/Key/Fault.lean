import DropletClient.Base64

namespace DropletClient.Key

/-!
# Faults of public keys

Why a key line cannot be read, or a key cannot be written.
-/

/--
Why a key line cannot be read, or a key cannot be written. A fault that was
found elsewhere is known by its wording only.
-/
inductive Fault where
  | noPayload
  | payload (fault : Base64.Fault)
  | truncatedLength
  | lengthNotAddressable
  | endNotAddressable
  | fieldTooLong (length remaining : Nat)
  | labelNotText
  | unknownType (label : String)
  | malformedComponent (name : String)
  | componentNotPositive (name : String)
  | unsupportedAlgorithm (name : String)
  | fieldTooLarge
  | reported (wording : String)
  deriving Repr, DecidableEq

/-- The wording of a fault. -/
def Fault.message : Fault → String
  | .noPayload => "No Base64 part to decode"
  | .payload fault => "invalid base64 payload: " ++ fault.message
  | .truncatedLength => "truncated length prefix"
  | .lengthNotAddressable => "field length does not fit in memory"
  | .endNotAddressable => "field length overflow"
  | .fieldTooLong length remaining =>
      "field of " ++ Text.Decimal.ofNat length ++ " bytes exceeds remaining " ++
        Text.Decimal.ofNat remaining ++ " bytes"
  | .labelNotText => "key type is not valid text"
  | .unknownType label => "Unknown type: " ++ label
  | .malformedComponent name =>
      "invalid component " ++ name ++ ": format encoding error"
  | .componentNotPositive name =>
      "component " ++ name ++ " must be a positive integer"
  | .unsupportedAlgorithm name => "Unknown public key encoding: " ++ name
  | .fieldTooLarge => "field too large to encode"
  | .reported wording => wording

end DropletClient.Key
