import DropletClient.Proofs.Text.Numeral
import Mathlib.Data.List.Induction
import Mathlib.Data.Nat.Digits.Defs

namespace DropletClient.Text.Decimal

/-!
# Numerals by their places

Numerals are read from the left, one digit after the other. What results is the
sum of what the digits stand for at their places, which is how the value of a
numeral is said here.
-/

/-- The number that an ASCII digit stands for. -/
def digitValue (character : Char) : Nat :=
  character.toNat - 48

/--
The number that digits stand for by their places, the last of which is that of
the ones.
-/
def placeValue (text : List Char) : Nat :=
  Nat.ofDigits 10 (text.reverse.map digitValue)

/-- One more digit gives the ones, and all others move up by one place. -/
theorem placeValue_append_singleton
    (text : List Char)
    (character : Char) :
    placeValue (text ++ [character]) =
      placeValue text * 10 + digitValue character := by
  unfold placeValue
  rw [List.reverse_append, List.reverse_singleton, List.singleton_append,
    List.map_cons, Nat.ofDigits_cons]
  omega

/-- Reading from the left gives the value by places. -/
theorem valueFrom_eq_placeValue
    (text : List Char) :
    valueFrom 0 text = placeValue text := by
  induction text using List.reverseRecOn with
  | nil => rfl
  | append_singleton text character inductionHypothesis =>
      rw [valueFrom_append, inductionHypothesis, placeValue_append_singleton]
      rfl

end DropletClient.Text.Decimal
