import DropletClient.Text.Hexadecimal

namespace DropletClient.Naming

/-!
# Names that carry a group

A generated name is the group, a dash, and eight hexadecimal digits. The
group of a name is what stands in front of its last dash, if what follows is
such a suffix.
-/

/-- The number of digits of a suffix. -/
def suffixLength : Nat := 8

/-- The suffix that a random word gives. -/
def suffix (word : UInt32) : List Char :=
  Text.hexDigits suffixLength word.toNat

/-- The name for a group that a random word gives. -/
def uniqueName (group : String) (word : UInt32) : String :=
  String.ofList (group.toList ++ '-' :: suffix word)

/--
What stands in front of the last occurrence of a character, and what stands
behind it.
-/
def splitLast? (separator : Char) : List Char → Option (List Char × List Char)
  | [] => none
  | character :: rest =>
      match splitLast? separator rest with
      | some (front, back) => some (character :: front, back)
      | none => if character = separator then some ([], rest) else none

/-- The suffix of a generated name. -/
def isSuffix (text : List Char) : Bool :=
  text.length == suffixLength && text.all Text.isHexDigit

/-- The group that a name carries. -/
def groupOf? (name : String) : Option String :=
  match splitLast? '-' name.toList with
  | some (group, ending) =>
      if isSuffix ending &&
        !group.isEmpty then some (String.ofList group) else none
  | none => none

end DropletClient.Naming
