import DropletClient.Proofs.Identifier
import DropletClient.Proofs.Text.Positional

namespace DropletClient.Identifier

open Text.Decimal (IsNumeral isDigit placeValue)

/-!
# Spellings of identifiers

An identifier can be spelled with a sign, with zeros in front, and with white
space around it. What a text spells is said by its parts here;
`read?_eq_some_iff` says that exactly these texts are recognised, and as the
identifiers that they spell.
-/

/--
A numeral with an optional sign in front, and the integer that it denotes.
-/
inductive Denotes : List Char → Int → Prop where
  | unsigned
      {numeral : List Char}
      (isNumeral : IsNumeral numeral) :
      Denotes numeral (placeValue numeral)
  | plus
      {numeral : List Char}
      (isNumeral : IsNumeral numeral) :
      Denotes ('+' :: numeral) (placeValue numeral)
  | minus
      {numeral : List Char}
      (isNumeral : IsNumeral numeral) :
      Denotes ('-' :: numeral) (-(placeValue numeral : Int))

/--
A text spells an integer if it denotes it, the white space around it aside.
-/
def Spells (text : String) (value : Int) : Prop :=
  ∃ front word back,
    text.toList = front ++ (word ++ back) ∧
      (∀ character ∈ front ++ back, Text.isBlank character = true) ∧
      Denotes word value

/-- The integers that have 32 bits. -/
def HasWord (value : Int) : Prop :=
  -2147483648 ≤ value ∧ value ≤ 2147483647

/-- A numeral is read as the number that it stands for by its places. -/
theorem value?_eq_placeValue
    {numeral : List Char}
    (isNumeral : IsNumeral numeral) :
    Text.Decimal.value? numeral = some (placeValue numeral) :=
  Text.Decimal.value?_eq_some_iff.mpr
    ⟨isNumeral, Text.Decimal.valueFrom_eq_placeValue numeral⟩

/--
What is read behind a sign is a numeral, whose value is then taken with
the sign.
-/
private theorem exists_numeral
    {numeral : List Char}
    {signed : Int → Int}
    {value : Int}
    (read :
      -- A reader of natural numbers is lifted to integers before the sign
      -- counts.
      (do
        let number ← Text.Decimal.value? numeral
        pure (number : Int)).map signed =
          some value) :
    IsNumeral numeral ∧ value = signed (placeValue numeral) := by
  obtain ⟨lifted, isLifted, rfl⟩ := Option.map_eq_some_iff.mp read
  obtain ⟨number, isNumber, same⟩ := Option.bind_eq_some_iff.mp isLifted
  cases same
  obtain ⟨isNumeral, rfl⟩ := Text.Decimal.value?_eq_some_iff.mp isNumber
  rw [Text.Decimal.valueFrom_eq_placeValue]
  exact ⟨isNumeral, rfl⟩

/-- A sign and a numeral are read as the integer that they denote. -/
theorem integer?_eq_some_iff
    {word : List Char}
    {value : Int} :
    integer? word = some value ↔ Denotes word value := by
  constructor
  · intro read
    unfold integer? at read
    split at read
    case h_1 =>
      obtain ⟨isNumeral, rfl⟩ := exists_numeral read
      exact .plus isNumeral
    case h_2 =>
      obtain ⟨isNumeral, rfl⟩ := exists_numeral read
      exact .minus isNumeral
    case h_3 =>
      obtain ⟨isNumeral, rfl⟩ := exists_numeral read
      exact .unsigned isNumeral
  · intro denotes
    cases denotes with
    | unsigned isNumeral =>
        exact integer?_unsigned (value?_eq_placeValue isNumeral)
    | plus isNumeral =>
        rw [integer?, value?_eq_placeValue isNumeral]
        rfl
    | minus isNumeral =>
        rw [integer?, value?_eq_placeValue isNumeral]
        rfl

/-- A word denotes one integer at most. -/
theorem Denotes.unique
    {word : List Char}
    {value other : Int}
    (denotes : Denotes word value)
    (otherwise : Denotes word other) :
    value = other := by
  have read := integer?_eq_some_iff.mpr denotes
  rw [integer?_eq_some_iff.mpr otherwise] at read
  exact (Option.some.inj read).symm

/-- What denotes an integer holds no white space. -/
theorem Denotes.isBlank_of_mem
    {word : List Char}
    {value : Int}
    (denotes : Denotes word value)
    {character : Char}
    (member : character ∈ word) :
    Text.isBlank character = false := by
  cases denotes with
  | unsigned isNumeral =>
      exact isBlank_of_isDigit (isNumeral.digits character member)
  | plus isNumeral =>
      rcases List.mem_cons.mp member with rfl | inNumeral
      · decide
      · exact isBlank_of_isDigit (isNumeral.digits character inNumeral)
  | minus isNumeral =>
      rcases List.mem_cons.mp member with rfl | inNumeral
      · decide
      · exact isBlank_of_isDigit (isNumeral.digits character inNumeral)

/--
What is left of a text without the white space around it denotes what the
text spells.
-/
theorem spells_iff
    {text : String}
    {value : Int} :
    Spells text value ↔ Denotes (Text.trim text.toList) value := by
  constructor
  · rintro ⟨front, word, back, shape, blank, denotes⟩
    have whole : Text.trim word = word := by
      apply Text.trim_eq_self
      · exact fun character starts =>
          denotes.isBlank_of_mem (List.mem_of_head? starts)
      · exact fun character ends =>
          denotes.isBlank_of_mem (List.mem_of_getLast? ends)
    rwa [shape, Text.trim_surrounded blank, whole]
  · intro denotes
    obtain ⟨front, back, shape, blank⟩ := Text.exists_blanks_of_trim text.toList
    exact ⟨front, _, back, shape, blank, denotes⟩

/-- White space around a text does not count. -/
theorem Spells.padded_iff
    {text padded : String}
    {front back : List Char}
    (shape : padded.toList = front ++ (text.toList ++ back))
    (blank : ∀ character ∈ front ++ back, Text.isBlank character = true)
    {value : Int} :
    Spells padded value ↔ Spells text value := by
  rw [spells_iff, spells_iff, shape, Text.trim_surrounded blank]

theorem inRange_iff
    (value : Int) :
    inRange value = true ↔ HasWord value := by
  simp [inRange, HasWord]

/-- What an identifier stands for has 32 bits. -/
theorem hasWord_toInt
    (id : Int32) :
    HasWord id.toInt := by
  have low := id.le_toInt
  have high := id.toInt_lt
  exact ⟨by omega, by omega⟩

/-- A text is recognised as an identifier if and only if it spells it. -/
theorem read?_eq_some_iff
    {text : String}
    {id : Int32} :
    read? text = some id ↔ Spells text id.toInt := by
  rw [spells_iff, ← integer?_eq_some_iff, read?]
  constructor
  · intro read
    obtain ⟨value, isValue, rfl⟩ := Option.map_eq_some_iff.mp read
    obtain ⟨denoted, fits⟩ := Option.filter_eq_some_iff.mp isValue
    obtain ⟨low, high⟩ := (inRange_iff value).mp fits
    rw [denoted, Int32.toInt_ofInt_of_le (by omega) (by omega)]
  · intro denoted
    have fits : inRange id.toInt = true :=
      (inRange_iff _).mpr (hasWord_toInt id)
    rw [denoted, Option.filter_some, if_pos fits, Option.map_some,
      Int32.ofInt_toInt]

example : read? " +0042" = some 42 := by decide

/-- A text is recognised if and only if it spells an integer with 32 bits. -/
theorem isSome_read?_iff
    {text : String} :
    (read? text).isSome = true ↔
      ∃ value, Spells text value ∧ HasWord value := by
  rw [Option.isSome_iff_exists]
  constructor
  · rintro ⟨id, read⟩
    exact ⟨id.toInt, read?_eq_some_iff.mp read, hasWord_toInt id⟩
  · rintro ⟨value, spells, low, high⟩
    refine ⟨Int32.ofInt value, read?_eq_some_iff.mpr ?_⟩
    rwa [Int32.toInt_ofInt_of_le (by omega) (by omega)]

end DropletClient.Identifier
