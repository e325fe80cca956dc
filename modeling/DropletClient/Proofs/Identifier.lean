import DropletClient.Identifier
import DropletClient.Proofs.Text.Numeral
import DropletClient.Proofs.Text.Parts

namespace DropletClient.Identifier

open Text.Decimal (digits isDigit)

/-!
# Identifiers are read back

The text of an identifier is a numeral, perhaps behind a minus sign. It stands
for the identifier that it was written for, so that different identifiers have
different texts.
-/

theorem toList_text
    (id : Int32) :
    (text id).toList =
      if id.toInt < 0 then '-' :: digits id.toInt.natAbs
      else digits id.toInt.natAbs :=
  String.toList_ofList

/-- What an identifier is written with. -/
theorem mem_text
    {id : Int32}
    {character : Char}
    (member : character ∈ (text id).toList) :
    character = '-' ∨ isDigit character = true := by
  rw [toList_text] at member
  by_cases negative : id.toInt < 0
  · rw [if_pos negative] at member
    rcases List.mem_cons.mp member with isSign | inDigits
    · exact Or.inl isSign
    · exact Or.inr (Text.Decimal.isDigit_of_mem_digits inDigits)
  · rw [if_neg negative] at member
    exact Or.inr (Text.Decimal.isDigit_of_mem_digits member)

/-- Digits are no white space. -/
theorem isBlank_of_isDigit
    {character : Char}
    (digit : isDigit character = true) :
    Text.isBlank character = false := by
  have bounds := Text.Decimal.isDigit_iff.mp digit
  simp [Text.isBlank, Text.inRanges, Text.blankRanges]
  omega

private theorem isBlank_of_mem_text
    {id : Int32}
    {character : Char}
    (member : character ∈ (text id).toList) :
    Text.isBlank character = false := by
  rcases mem_text member with rfl | digit
  · decide
  · exact isBlank_of_isDigit digit

theorem trim_text
    (id : Int32) :
    Text.trim (text id).toList = (text id).toList := by
  apply Text.trim_eq_self
  · intro character starts
    exact isBlank_of_mem_text (List.mem_of_head? starts)
  · intro character ends
    exact isBlank_of_mem_text (List.mem_of_getLast? ends)

/-- A numeral is read as a number without a sign. -/
theorem integer?_unsigned
    {numeral : List Char}
    {value : Nat}
    (read : Text.Decimal.value? numeral = some value) :
    integer? numeral = some (value : Int) := by
  obtain ⟨⟨nonempty, onlyDigits⟩, _⟩ := Text.Decimal.value?_eq_some_iff.mp read
  cases numeral with
  | nil => exact absurd rfl nonempty
  | cons first rest =>
      have digit : isDigit first = true := onlyDigits first List.mem_cons_self
      have noPlus : first ≠ '+' := by
        rintro rfl
        cases digit
      have noMinus : first ≠ '-' := by
        rintro rfl
        cases digit
      simp [integer?, noPlus, noMinus, read]

private theorem integer?_text
    (id : Int32) :
    integer? (text id).toList = some id.toInt := by
  rw [toList_text]
  by_cases negative : id.toInt < 0
  · have magnitude : (id.toInt.natAbs : Int) = -id.toInt := by omega
    rw [if_pos negative, integer?, Text.Decimal.value?_digits]
    change some (-(id.toInt.natAbs : Int)) = some id.toInt
    rw [magnitude, Int.neg_neg]
  · have magnitude : (id.toInt.natAbs : Int) = id.toInt := by omega
    rw [if_neg negative, integer?_unsigned (Text.Decimal.value?_digits _),
      magnitude]

/-- The text of an identifier stands for it. -/
theorem read?_text
    (id : Int32) :
    read? (text id) = some id := by
  have fits : inRange id.toInt = true := by
    have low := id.le_toInt
    have high := id.toInt_lt
    simp [inRange]
    omega
  rw [read?, trim_text, integer?_text, Option.filter_some, fits]
  exact congrArg some (Int32.ofInt_toInt id)

/-- Different identifiers have different texts. -/
theorem text_inj
    {id other : Int32}
    (same : text id = text other) :
    id = other := by
  have read := congrArg read? same
  rw [read?_text, read?_text] at read
  exact Option.some.inj read

/-- A word that stands for no identifier is not the text of one. -/
theorem text_ne
    {word : String}
    (unread : read? word = none)
    (id : Int32) :
    text id ≠ word := by
  rintro rfl
  rw [read?_text] at unread
  cases unread

/--
A character that is neither a digit nor the sign does not occur in an
identifier.
-/
theorem not_mem_text
    {character : Char}
    (noSign : character ≠ '-')
    (noDigit : isDigit character = false)
    (id : Int32) :
    character ∉ (text id).toList := by
  intro member
  rcases mem_text member with isSign | digit
  · exact noSign isSign
  · rw [noDigit] at digit
    cases digit

end DropletClient.Identifier
