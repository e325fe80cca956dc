import DropletClient.Text.Hexadecimal

namespace DropletClient.Text

/-!
# Hexadecimal digits

Which characters are hexadecimal digits, and that the digits of numbers are some
and have their values.
-/

theorem isHexDigit_iff
    {character : Char} :
    isHexDigit character = true ↔
      ('0' ≤ character ∧ character ≤ '9') ∨
        ('a' ≤ character ∧ character ≤ 'f') ∨
        ('A' ≤ character ∧ character ≤ 'F') := by
  have isDigit :
      Decimal.isDigit character = true ↔ '0' ≤ character ∧ character ≤ '9' := by
    simp only [Decimal.isDigit, Bool.and_eq_true, decide_eq_true_eq]
    exact Iff.rfl
  rw [← isDigit, isHexDigit, hexValue?]
  by_cases digit : Decimal.isDigit character = true
  · simp [digit]
  · by_cases lower : 'a' ≤ character ∧ character ≤ 'f'
    · simp [digit, lower]
    · by_cases upper : 'A' ≤ character ∧ character ≤ 'F'
      · simp [digit, lower, upper]
      · simp [digit, lower, upper]

/-- A digit is read as the number that it was written for. -/
theorem hexValue?_hexDigit
    {value : Nat}
    (small : value < 16) :
    hexValue? (hexDigit value) = some value := by
  have checked : ∀ digit : Fin 16,
      hexValue? (hexDigit digit.val) = some digit.val := by
    decide
  exact checked ⟨value, small⟩

theorem isHexDigit_hexDigit
    {value : Nat}
    (small : value < 16) :
    isHexDigit (hexDigit value) = true := by
  rw [isHexDigit, hexValue?_hexDigit small]
  rfl

theorem length_hexDigits
    (count value : Nat) :
    (hexDigits count value).length = count := by
  induction count generalizing value with
  | zero => rfl
  | succ count inductionHypothesis =>
      rw [hexDigits, List.length_append, inductionHypothesis]
      rfl

theorem isHexDigit_of_mem_hexDigits
    {count value : Nat}
    {character : Char}
    (member : character ∈ hexDigits count value) :
    isHexDigit character = true := by
  induction count generalizing value with
  | zero => cases member
  | succ count inductionHypothesis =>
      rcases List.mem_append.mp member with inFront | isLast
      · exact inductionHypothesis inFront
      · rw [List.mem_singleton.mp isLast]
        exact isHexDigit_hexDigit (Nat.mod_lt value (by decide))

/--
The digits in front are those of what remains of the number without its
last digits.
-/
theorem take_hexDigits
    (count more value : Nat) :
    (hexDigits (count + more) value).take count =
      hexDigits count (value / Nat.pow 16 more) := by
  induction more generalizing value with
  | zero =>
      have whole : (hexDigits count value).length ≤ count :=
        Nat.le_of_eq (length_hexDigits count value)
      rw [Nat.add_zero, List.take_of_length_le whole]
      exact congrArg (hexDigits count) (Nat.div_one value).symm
  | succ more inductionHypothesis =>
      have inFront :
          count ≤ (hexDigits (count + more) (value / 16)).length := by
        rw [length_hexDigits]
        exact Nat.le_add_right count more
      have further :
          value / 16 / Nat.pow 16 more = value / Nat.pow 16 (more + 1) := by
        rw [Nat.div_div_eq_div_mul, Nat.mul_comm]
        rfl
      rw [← Nat.add_assoc, hexDigits, List.take_append_of_le_length inFront,
        inductionHypothesis, further]

end DropletClient.Text
