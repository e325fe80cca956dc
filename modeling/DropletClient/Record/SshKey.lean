import DropletClient.Key.Line
import DropletClient.Record.Field
import DropletClient.Record.Scalar

namespace DropletClient

/-!
# Registered keys

The public keys of an account. Lists leave the key itself out; a blank line is
no key either.
-/

open Record

namespace PublicKey

/-- A key line that may be missing or blank. -/
def readOptionalLine (value : Json) : Except Mismatch (Option PublicKey) := do
  match ← readNullable readText value with
  | none => return none
  | some line =>
      if Text.isBlankString line then return none
      else
        match ofLine line with
        | .ok key => return some key
        | .error fault => throw (.key fault)

/-- An optional key as JSON: its line, or null. -/
def writeOptionalLine : Option PublicKey → Except Key.Fault Json
  | none => .ok .null
  | some key => key.toLine.map .text

end PublicKey

/-- A public key that is registered with the account. -/
structure SshKey where
  id : Int32
  name : String
  publicKey : Option PublicKey
  deriving Repr, DecidableEq

namespace SshKey

/-- The identifier of a key. -/
def idField := required "id" readInt32

/-- The name of a key. -/
def nameField := required "name" readText

/-- The public half of a key, if it is told. -/
def publicKeyField := optional "ssh_pub_key" PublicKey.readOptionalLine none

/-- The registered key with the members of an object. -/
def ofMembers (members : List (String × Json)) : Except Mismatch SshKey := do
  let id ← idField.visit members
  let name ← nameField.visit members
  let publicKey ← publicKeyField.visit members
  return {
    id := ← idField.settle id
    name := ← nameField.settle name
    publicKey := ← publicKeyField.settle publicKey
  }

/-- The registered key with the items of an array. -/
def ofItems : ItemReader SshKey := do
  return {
    id := ← idField.next "SshKey" 3
    name := ← nameField.next "SshKey" 3
    publicKey := ← publicKeyField.next "SshKey" 3
  }

/-- How a registered key is read. -/
def layout : Layout SshKey :=
  ⟨"SshKey", 3, ofMembers, ofItems⟩

end SshKey

/-- A record that holds nothing but an optional key. -/
structure KeyHolder where
  key : Option PublicKey
  deriving Repr, DecidableEq

namespace KeyHolder

/-- The key that is held, if there is one. -/
def keyField := optional "key" PublicKey.readOptionalLine none

/-- How a holder is read. -/
def layout : Layout KeyHolder where
  name := "Holder"
  size := 1
  ofMembers members := do
    let key ← keyField.visit members
    return { key := ← keyField.settle key }
  ofItems := do
    return { key := ← keyField.next "Holder" 1 }

/-- A holder as JSON. -/
def toJson (holder : KeyHolder) : Except Key.Fault Json := do
  let line ← PublicKey.writeOptionalLine holder.key
  return .object [("key", line)]

end KeyHolder

end DropletClient
