import DropletClient.Portable.Node
import DropletClient.Workflow.Basic

namespace DropletClient

/-!
# Default login credentials

Images that carry no credentials share one key pair. It is generated and
registered at the first need, and kept from then on; a failed attempt leaves
nothing behind, and the next need tries again.
-/

/-- A registered key, and the login that it grants. -/
structure DefaultCredentials where
  key : SshKey
  credentials : LoginCredentials
  deriving Repr, DecidableEq

/-- What was provisioned so far. -/
structure Provisioner where
  cached : Option DefaultCredentials
  deriving Repr, DecidableEq

namespace Provisioner

/-- The group of the names of default keys. -/
def credentialsGroup : String := "credentials"

/-- The user of provider images. -/
def defaultUser : String := "root"

/-- How many candidates for a name are tried. -/
def nameAttempts : Nat := 100

/-- A provisioner that was not needed yet. -/
def empty : Provisioner :=
  ⟨none⟩

/-- The first of some candidates for a name that is not taken. -/
def unusedName (taken : List String) : (attempts : Nat) → Workflow String
  | 0 => .fail (.configuration .noUnusedName)
  | attempts + 1 => do
      let candidate ← Workflow.proposeName credentialsGroup
      if taken.contains candidate then unusedName taken attempts
      else return candidate

/--
Generates a key pair and registers its public half under a name that is
not taken.
-/
def provision : Workflow DefaultCredentials := do
  let pair ← Workflow.generateKeys
  let keys ← Workflow.send .listKeys
  let name ← unusedName (keys.map SshKey.name) nameAttempts
  let key ← Workflow.send (.createKey name pair.publicKey)
  return {
    key
    credentials := { user := defaultUser, privateKey := some pair.privateKey }
  }

/-- The default credentials, and the provisioner that keeps them. -/
def get
    (provisioner : Provisioner) :
    Workflow (DefaultCredentials × Provisioner) :=
  match provisioner.cached with
  | some credentials => pure (credentials, provisioner)
  | none => do
      let credentials ← provision
      return (credentials, { cached := some credentials })

/-- The credentials of an image, or else the default ones. -/
def credentialsForImage
    (provisioner : Provisioner)
    (image : PortableImage) :
    Workflow (LoginCredentials × Provisioner) :=
  match image.defaultCredentials with
  | some credentials => pure (credentials, provisioner)
  | none => do
      let (credentials, later) ← provisioner.get
      return (credentials.credentials, later)

end Provisioner

end DropletClient
