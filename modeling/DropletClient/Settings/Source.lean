import DropletClient.Toml.Document

namespace DropletClient.Settings

/-!
# Values of settings in their sources

Variables of the environment and settings files give values of the same types. A
value of a type that no setting has is not told apart from others.
-/

/-- A value as a source gives it. -/
inductive SourceValue where
  | text (value : String)
  | integer (value : Int)
  | boolean (value : Bool)
  | other
  deriving Repr, DecidableEq

namespace SourceValue

/-- The setting of a text. -/
def text? : SourceValue → Option String
  | .text value => some value
  | _ => none

/-- Numbers in settings are below this one. -/
def numberLimit : Nat := Nat.pow 2 64

/-- The setting of a number. -/
def number? : SourceValue → Option Nat
  | .integer value =>
      if 0 ≤ value ∧ value < numberLimit then some value.toNat else none
  | _ => none

/-- What a document gives to a name. -/
def ofItem : Toml.Item → SourceValue
  | .value (.text value) => .text value
  | .value (.integer value) => .integer value
  | .value (.boolean value) => .boolean value
  | _ => .other

end SourceValue

end DropletClient.Settings
