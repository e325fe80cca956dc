import DropletClient.Double.Shortest

namespace DropletClient

/-!
# JSON values

A value keeps the members of an object in the order in which they arrived,
repeated names included. A look-up takes the last member of a name, so the order
matters only between members of one name: `lookup_append` and
`lookup_eq_none_iff`.
-/

/--
A number is a whole number, or a double where it has a fraction, an exponent or
too many digits.
-/
inductive Number where
  | integer (value : Int)
  | double (value : Double)
  deriving Repr, DecidableEq

/-- The decimal text of a number. -/
def Number.text : Number → String
  | .integer value => Text.Decimal.ofInt value
  | .double value => value.text

/-- A JSON value. -/
inductive Json where
  | null
  | boolean (value : Bool)
  | number (value : Number)
  | text (value : String)
  | array (items : List Json)
  | object (members : List (String × Json))
  deriving Repr

namespace Json

/-- The value of the last member with a name. -/
def lookup (name : String) : List (String × Json) → Option Json
  | [] => none
  | (key, value) :: rest =>
      match lookup name rest with
      | some later => some later
      | none => if key = name then some value else none

/-- How often a name occurs among the members. -/
def occurrences (name : String) (members : List (String × Json)) : Nat :=
  members.countP fun member => member.1 == name

/-- A value that is not null. -/
def present? : Json → Option Json
  | .null => none
  | value => some value

/-- Later members hide earlier ones. -/
theorem lookup_append
    (name : String)
    (first second : List (String × Json)) :
    lookup name (first ++ second) =
      (lookup name second).or (lookup name first) := by
  induction first with
  | nil => simp [lookup]
  | cons head rest inductionHypothesis =>
      obtain ⟨key, value⟩ := head
      simp only [List.cons_append, lookup, inductionHypothesis]
      cases lookup name second <;> simp

/-- A look-up fails exactly when no member has the name. -/
theorem lookup_eq_none_iff
    (name : String)
    (members : List (String × Json)) :
    lookup name members = none ↔ ∀ member ∈ members, member.1 ≠ name := by
  induction members with
  | nil => simp [lookup]
  | cons head rest inductionHypothesis =>
      obtain ⟨key, value⟩ := head
      simp only [lookup, List.forall_mem_cons, ← inductionHypothesis]
      cases lookup name rest <;> simp

end Json

end DropletClient
