import DropletClient.Text.Decimal

namespace DropletClient.Text.Decimal

/-!
# Numerals are read back

The numeral of a number consists of digits, of which there is one at least, and
is read as the number that it was written for.
-/

/-- A numeral without a sign: ASCII digits, of which there is one at least. -/
structure IsNumeral (text : List Char) : Prop where
  nonempty : text ≠ []
  digits : ∀ character ∈ text, isDigit character = true

/-- A text has a value if and only if it is a numeral. -/
theorem value?_eq_some_iff
    {text : List Char}
    {value : Nat} :
    value? text = some value ↔ IsNumeral text ∧ valueFrom 0 text = value := by
  rw [value?]
  constructor
  · intro read
    split at read
    · cases read
    · rename_i accepted
      simp only [Bool.or_eq_true, List.isEmpty_iff, Bool.not_eq_true', not_or,
        Bool.not_eq_false, List.all_eq_true] at accepted
      exact ⟨⟨accepted.1, accepted.2⟩, Option.some.inj read⟩
  · rintro ⟨isNumeral, rfl⟩
    have onlyDigits : text.all isDigit = true :=
      List.all_eq_true.mpr isNumeral.digits
    have notEmpty : text.isEmpty = false := by simpa using isNumeral.nonempty
    rw [notEmpty, onlyDigits]
    rfl

theorem isDigit_iff
    {character : Char} :
    isDigit character = true ↔ 48 ≤ character.toNat ∧ character.toNat ≤ 57 := by
  simp [isDigit]

theorem isDigit_digit
    {value : Nat}
    (small : value < 10) :
    isDigit (digit value) = true := by
  rw [isDigit_iff, toNat_digit small]
  omega

theorem digits_ne_nil
    (value : Nat) :
    digits value ≠ [] := by
  rw [digits]
  by_cases small : value < 10
  · simp [small]
  · simp [small]

theorem isDigit_of_mem_digits
    {value : Nat}
    {character : Char}
    (member : character ∈ digits value) :
    isDigit character = true := by
  induction value using digits.induct with
  | case1 value small =>
      rw [digits, if_pos small] at member
      rw [List.mem_singleton.mp member]
      exact isDigit_digit small
  | case2 value large inductionHypothesis =>
      rw [digits, if_neg large] at member
      rcases List.mem_append.mp member with inFront | isLast
      · exact inductionHypothesis inFront
      · rw [List.mem_singleton.mp isLast]
        exact isDigit_digit (Nat.mod_lt value (by decide))

theorem isNumeral_digits
    (value : Nat) :
    IsNumeral (digits value) :=
  ⟨digits_ne_nil value, fun _ member => isDigit_of_mem_digits member⟩

theorem digits_zero :
    digits 0 = ['0'] := by
  rw [digits]
  rfl

theorem isNumeral_zero : IsNumeral ['0'] :=
  digits_zero ▸ isNumeral_digits 0

/-- The digits of a number are a numeral of it. -/
theorem value?_digits
    (value : Nat) :
    value? (digits value) = some value :=
  value?_eq_some_iff.mpr ⟨isNumeral_digits value, valueFrom_digits value⟩

end DropletClient.Text.Decimal
