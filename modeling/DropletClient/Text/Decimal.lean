namespace DropletClient.Text.Decimal

/-!
# Decimal numerals

Whole numbers written with the ten ASCII digits, and their value.
`valueFrom_digits` says that the digits of a number have that number as
their value.
-/

/-- The ASCII digit of a number below ten. -/
def digit (value : Nat) : Char :=
  Char.ofNat (48 + value)

/-- The digits of a number, without leading zeros. -/
def digits (value : Nat) : List Char :=
  if value < 10 then [digit value]
  else digits (value / 10) ++ [digit (value % 10)]

/-- An ASCII digit. -/
def isDigit (character : Char) : Bool :=
  48 ≤ character.toNat && character.toNat ≤ 57

/-- The number that digits denote when they follow a number read before. -/
def valueFrom (before : Nat) (text : List Char) : Nat :=
  text.foldl (fun value character => value * 10 + (character.toNat - 48)) before

/--
The number that a numeral denotes; a numeral has one digit at least and
nothing else.
-/
def value? (text : List Char) : Option Nat :=
  if text.isEmpty || !text.all isDigit then none else some (valueFrom 0 text)

/-- The numeral of a natural number. -/
def ofNat (value : Nat) : String :=
  String.ofList (digits value)

/-- The numeral of an integer, with a minus sign in front if it is negative. -/
def ofInt (value : Int) : String :=
  String.ofList
    (if value < 0 then '-' :: digits value.natAbs else digits value.natAbs)

/-- The code point of a digit. -/
theorem toNat_digit
    {value : Nat}
    (small : value < 10) :
    (digit value).toNat = 48 + value := by
  have valid : Nat.isValidChar (48 + value) := Or.inl (by omega)
  unfold digit Char.ofNat
  rw [dif_pos valid]
  rfl

/-- A numeral is read part by part. -/
theorem valueFrom_append
    (before : Nat)
    (first second : List Char) :
    valueFrom before (first ++ second) =
      valueFrom (valueFrom before first) second := by
  simp [valueFrom]

/-- The digits of a number have that number as their value. -/
theorem valueFrom_digits
    (value : Nat) :
    valueFrom 0 (digits value) = value := by
  induction value using digits.induct with
  | case1 value small =>
      rw [digits, if_pos small]
      simp [valueFrom, toNat_digit small]
  | case2 value large inductionHypothesis =>
      rw [digits, if_neg large, valueFrom_append, inductionHypothesis]
      have remainder : value % 10 < 10 := Nat.mod_lt _ (by decide)
      simp [valueFrom, toNat_digit remainder]
      omega

end DropletClient.Text.Decimal
