import DropletClient.Json.Numeral
import DropletClient.Proofs.Identifier.Canonical
import Mathlib.Data.List.TakeDrop
import Mathlib.Data.List.TakeWhile

namespace DropletClient

/-!
# Whole numbers in JSON texts

A numeral without fraction and exponent is canonical, because no zero may stand
in front of it and there is no plus sign; only minus zero is not. It is read as
the integer that it denotes if this fits 64 bits, and as a double otherwise. The
text of a double is never that of an integer.
-/

namespace Double

/-- The text of a double has a point or an exponent. -/
theorem exists_mark_in_magnitudeText
    (number : Double) :
    ∃ mark ∈ magnitudeText number, mark = '.' ∨ mark = 'e' := by
  unfold magnitudeText
  simp only []
  split
  · exact ⟨'.', by decide, .inl rfl⟩
  · split
    · refine ⟨'.', ?_, .inl rfl⟩
      unfold positional
      split <;> simp
    · exact ⟨'e', by simp [scientific], .inr rfl⟩

/-- No double is written like an identifier. -/
theorem text_ne_identifier
    (number : Double)
    (id : Int32) :
    number.text ≠ Identifier.text id := by
  intro same
  obtain ⟨mark, member, isMark⟩ := exists_mark_in_magnitudeText number
  have inText : mark ∈ number.text.toList := by
    rw [text, String.toList_ofList]
    split
    · exact List.mem_cons_of_mem _ member
    · exact member
  rw [same] at inText
  rcases isMark with rfl | rfl
  · exact Identifier.not_mem_text (by decide) (by decide) id inText
  · exact Identifier.not_mem_text (by decide) (by decide) id inText

end Double

namespace Json

open Identifier (Denotes IsCanonical)
open Text.Decimal (IsNumeral isDigit placeValue)

namespace Numeral

/--
The digits in front of a text are a numeral, and the rest of the text
follows them.
-/
theorem someDigits?_eq_some
    {text digits rest : List Char}
    (reads : someDigits? text = some (digits, rest)) :
    IsNumeral digits ∧ text = digits ++ rest := by
  rw [someDigits?, List.span_eq_takeWhile_dropWhile] at reads
  split at reads
  · cases reads
  · rename_i front after nonempty split
    obtain ⟨rfl, rfl⟩ := Prod.mk.inj (Option.some.inj reads)
    obtain ⟨isFront, isAfter⟩ := Prod.mk.inj split
    refine ⟨⟨nonempty, fun character member => ?_⟩, ?_⟩
    · rw [← isFront] at member
      exact List.mem_takeWhile_imp member
    · rw [← isFront, ← isAfter, List.takeWhile_append_dropWhile]

/-- Of a numeral nothing is left over. -/
theorem someDigits?_of_isNumeral
    {text : List Char}
    (isNumeral : IsNumeral text) :
    someDigits? text = some (text, []) := by
  have allTaken : text.takeWhile isDigit = text :=
    List.takeWhile_eq_self_iff.mpr isNumeral.digits
  have noneLeft : text.dropWhile isDigit = [] :=
    List.dropWhile_eq_nil_iff.mpr isNumeral.digits
  rw [someDigits?, List.span_eq_takeWhile_dropWhile, allTaken, noneLeft]
  split
  · rename_i same
    exact absurd (Prod.mk.inj same).1 isNumeral.nonempty
  · rename_i same
    rw [← same]

/-- A numeral behind its sign. -/
def signed (negative : Bool) (whole : List Char) : List Char :=
  if negative then '-' :: whole else whole

/-- The parts of a text behind its sign. -/
def ofUnsigned? (negative : Bool) (unsigned : List Char) : Option Numeral := do
  let (whole, rest) ← someDigits? unsigned
  if whole.head? = some '0' ∧ whole ≠ ['0'] then none
  let (fraction, rest) ← fraction? rest
  let (exponent, rest) ← exponent? rest
  if rest.isEmpty then some { negative, whole, fraction, exponent } else none

theorem ofText?_minus
    (rest : List Char) :
    ofText? ('-' :: rest) = ofUnsigned? true rest :=
  rfl

theorem ofText?_plain
    {text : List Char}
    (plain : text.head? ≠ some '-') :
    ofText? text = ofUnsigned? false text := by
  cases text with
  | nil => rfl
  | cons first rest =>
      have noMinus : first ≠ '-' := by simpa using plain
      simp [ofText?, ofUnsigned?, noMinus]

/--
Digits behind a sign are read as a whole number, unless a zero is in front
of others.
-/
theorem ofUnsigned?_of_isNumeral
    {whole : List Char}
    (isNumeral : IsNumeral whole)
    (negative : Bool) :
    ofUnsigned? negative whole =
      if whole.head? = some '0' ∧ whole ≠ ['0'] then none
      else some ⟨negative, whole, none, none⟩ := by
  rw [ofUnsigned?, someDigits?_of_isNumeral isNumeral]
  simp only [Option.bind_eq_bind, Option.bind_some]
  split <;> rfl

theorem fraction?_none
    {text rest : List Char}
    (reads : fraction? text = some (none, rest)) :
    text = rest := by
  unfold fraction? at reads
  split at reads
  · obtain ⟨_, _, isSome⟩ := Option.map_eq_some_iff.mp reads
    cases isSome
  · cases reads
    rfl

theorem exponent?_none
    {text rest : List Char}
    (reads : exponent? text = some (none, rest)) :
    text = rest := by
  unfold exponent? at reads
  split at reads
  · split at reads
    · obtain ⟨_, _, isSome⟩ := Option.map_eq_some_iff.mp reads
      cases isSome
    · cases reads
      rfl
  · cases reads
    rfl

/-- What is read as a whole number consists of its digits. -/
theorem eq_of_ofUnsigned?
    {unsigned : List Char}
    {negative : Bool}
    {numeral : Numeral}
    (reads : ofUnsigned? negative unsigned = some numeral)
    (noFraction : numeral.fraction = none)
    (noExponent : numeral.exponent = none) :
    IsNumeral unsigned ∧ numeral = ⟨negative, unsigned, none, none⟩ := by
  obtain ⟨⟨digits, rest⟩, readsDigits, goesOn⟩ :=
    Option.bind_eq_some_iff.mp reads
  obtain ⟨isNumeral, shape⟩ := someDigits?_eq_some readsDigits
  simp only [] at goesOn
  split at goesOn
  · cases goesOn
  · obtain ⟨⟨fraction, afterFraction⟩, readsFraction, goesOn⟩ :=
      Option.bind_eq_some_iff.mp goesOn
    obtain ⟨⟨exponent, afterExponent⟩, readsExponent, ends⟩ :=
      Option.bind_eq_some_iff.mp goesOn
    simp only [] at ends
    split at ends
    · rename_i nothingLeft
      cases ends
      cases noFraction
      cases noExponent
      have restEmpty : rest = [] :=
        calc
          rest = afterFraction := fraction?_none readsFraction
          _ = afterExponent := exponent?_none readsExponent
          _ = [] := List.isEmpty_iff.mp nothingLeft
      rw [shape, restEmpty, List.append_nil]
      exact ⟨isNumeral, rfl⟩
    · cases ends

/-- No zero stands in front of other digits. -/
def NoZeroLeads (whole : List Char) : Prop :=
  whole.head? = some '0' → whole = ['0']

theorem noZeroLeads_of_ofUnsigned?
    {whole : List Char}
    {negative : Bool}
    {numeral : Numeral}
    (isNumeral : IsNumeral whole)
    (reads : ofUnsigned? negative whole = some numeral) :
    NoZeroLeads whole := by
  intro zeroLeads
  by_contra others
  rw [ofUnsigned?_of_isNumeral isNumeral, if_pos ⟨zeroLeads, others⟩] at reads
  cases reads

theorem head?_ne_minus
    {whole : List Char}
    (isNumeral : IsNumeral whole) :
    whole.head? ≠ some '-' := by
  intro isMinus
  exact absurd (isNumeral.digits '-' (List.mem_of_head? isMinus)) (by decide)

/-- The texts that are read as whole numbers. -/
theorem ofText?_eq_whole_iff
    {word whole : List Char}
    {negative : Bool} :
    ofText? word = some ⟨negative, whole, none, none⟩ ↔
      word = signed negative whole ∧ IsNumeral whole ∧ NoZeroLeads whole := by
  constructor
  · intro reads
    by_cases minus : word.head? = some '-'
    · obtain ⟨rest, rfl⟩ := List.head?_eq_some_iff.mp minus
      rw [ofText?_minus] at reads
      obtain ⟨isNumeral, same⟩ := eq_of_ofUnsigned? reads rfl rfl
      cases same
      exact ⟨rfl, isNumeral, noZeroLeads_of_ofUnsigned? isNumeral reads⟩
    · rw [ofText?_plain minus] at reads
      obtain ⟨isNumeral, same⟩ := eq_of_ofUnsigned? reads rfl rfl
      cases same
      exact ⟨rfl, isNumeral, noZeroLeads_of_ofUnsigned? isNumeral reads⟩
  · rintro ⟨rfl, isNumeral, noZeroLeads⟩
    have accepted : ¬ (whole.head? = some '0' ∧ whole ≠ ['0']) :=
      fun refused => refused.2 (noZeroLeads refused.1)
    have reads :
        ofUnsigned? negative whole = some ⟨negative, whole, none, none⟩ := by
      rw [ofUnsigned?_of_isNumeral isNumeral, if_neg accepted]
    cases negative with
    | true => exact reads
    | false => exact (ofText?_plain (head?_ne_minus isNumeral)).trans reads

/--
The whole numbers that are read exactly: those of 64 bits, with a sign or
without one.
-/
def Fits (value : Int) : Prop :=
  -9223372036854775808 ≤ value ∧ value < 18446744073709551616

/-- The integer that digits behind a sign are read as. -/
theorem integer?_whole_iff
    {negative : Bool}
    {whole : List Char}
    {value : Int} :
    integer? ⟨negative, whole, none, none⟩ = some value ↔
      Fits value ∧
        (negative = true ∧ 0 < placeValue whole ∧
            value = -(placeValue whole : Int) ∨
          negative = false ∧ value = placeValue whole) := by
  have greatest : Nat.pow 2 63 = 9223372036854775808 := rfl
  have limit : significandLimit = 18446744073709551616 := rfl
  simp only [integer?, Option.isSome_none, Bool.or_false, Bool.false_eq_true,
    if_false, Text.Decimal.valueFrom_eq_placeValue, greatest, limit, Fits]
  cases negative with
  | true =>
      simp only [if_true]
      split
      · simp
        omega
      · simp
        omega
  | false =>
      simp only [Bool.false_eq_true, if_false]
      split
      · simp
        omega
      · simp
        omega

/-- What is read as an integer has neither fraction nor exponent. -/
theorem number?_eq_integer_iff
    {numeral : Numeral}
    {value : Int} :
    numeral.number? = some (.integer value) ↔
      numeral.integer? = some value := by
  unfold number?
  cases numeral.integer? <;> simp

theorem eq_whole_of_integer?
    {numeral : Numeral}
    {value : Int}
    (reads : numeral.integer? = some value) :
    numeral = ⟨numeral.negative, numeral.whole, none, none⟩ := by
  obtain ⟨negative, whole, fraction, exponent⟩ := numeral
  cases fraction <;> cases exponent <;> simp_all [integer?]

end Numeral

open Numeral

theorem isCanonical_of_noZeroLeads
    {whole : List Char}
    (isNumeral : IsNumeral whole)
    (noZeroLeads : NoZeroLeads whole) :
    IsCanonical whole (placeValue whole) := by
  by_cases leads : whole.head? = some '0'
  · rw [noZeroLeads leads]
    exact .zero
  · exact .positive isNumeral leads

theorem readNumber?_signed
    {whole : List Char}
    {negative : Bool}
    {value : Int}
    (isNumeral : IsNumeral whole)
    (noZeroLeads : NoZeroLeads whole)
    (isInteger : integer? ⟨negative, whole, none, none⟩ = some value) :
    readNumber? (signed negative whole) = some (.integer value) :=
  Option.bind_eq_some_iff.mpr
    ⟨_, ofText?_eq_whole_iff.mpr ⟨rfl, isNumeral, noZeroLeads⟩,
      number?_eq_integer_iff.mpr isInteger⟩

/--
A number is read as an integer if and only if it is spelled canonically and
fits 64 bits.
-/
theorem readNumber?_eq_integer_iff
    {word : List Char}
    {value : Int} :
    readNumber? word = some (.integer value) ↔
      IsCanonical word value ∧ Fits value := by
  constructor
  · intro reads
    obtain ⟨⟨negative, whole, fraction, exponent⟩, readsNumeral, isNumber⟩ :=
      Option.bind_eq_some_iff.mp reads
    have isInteger := number?_eq_integer_iff.mp isNumber
    rw [eq_whole_of_integer? isInteger] at readsNumeral isInteger
    obtain ⟨rfl, digits, noZeroLeads⟩ := ofText?_eq_whole_iff.mp readsNumeral
    rcases integer?_whole_iff.mp isInteger with
      ⟨fits, ⟨rfl, positive, rfl⟩ | ⟨rfl, rfl⟩⟩
    · refine ⟨.negative digits fun leads => ?_, fits⟩
      rw [noZeroLeads leads] at positive
      cases positive
    · exact ⟨isCanonical_of_noZeroLeads digits noZeroLeads, fits⟩
  · rintro ⟨canonical, fits⟩
    cases canonical with
    | zero =>
        exact readNumber?_signed Text.Decimal.isNumeral_zero (fun _ => rfl)
          (integer?_whole_iff.mpr ⟨fits, .inr ⟨rfl, rfl⟩⟩)
    | positive digits leads =>
        exact readNumber?_signed digits
          (fun zeroLeads => absurd zeroLeads leads)
          (integer?_whole_iff.mpr ⟨fits, .inr ⟨rfl, rfl⟩⟩)
    | negative digits leads =>
        have positive := Text.Decimal.placeValue_pos digits leads
        exact readNumber?_signed digits
          (fun zeroLeads => absurd zeroLeads leads)
          (integer?_whole_iff.mpr ⟨fits, .inl ⟨rfl, positive, rfl⟩⟩)

/--
A whole number in a JSON text is spelled canonically, unless it is minus zero.
-/
theorem isCanonical_of_readNumber?
    {word : List Char}
    {value : Int}
    {number : Number}
    (reads : readNumber? word = some number)
    (denotes : Denotes word value)
    (notMinusZero : word ≠ ['-', '0']) :
    IsCanonical word value := by
  obtain ⟨numeral, readsNumeral, _⟩ := Option.bind_eq_some_iff.mp reads
  cases denotes with
  | unsigned digits =>
      rw [ofText?_plain (head?_ne_minus digits)] at readsNumeral
      exact isCanonical_of_noZeroLeads digits
        (noZeroLeads_of_ofUnsigned? digits readsNumeral)
  | plus digits =>
      rw [ofText?_plain (by simp), ofUnsigned?] at readsNumeral
      cases readsNumeral
  | @minus whole digits =>
      rw [ofText?_minus] at readsNumeral
      have noZeroLeads := noZeroLeads_of_ofUnsigned? digits readsNumeral
      refine .negative digits fun leads => notMinusZero ?_
      rw [noZeroLeads leads]

/--
A number is written like an identifier if and only if it is spelled as that.
-/
theorem text_eq_identifier_iff
    {word : List Char}
    {number : Number}
    (reads : readNumber? word = some number)
    (id : Int32) :
    number.text = Identifier.text id ↔ IsCanonical word id.toInt := by
  constructor
  · intro same
    cases number with
    | double value => exact absurd same (value.text_ne_identifier id)
    | integer value =>
        obtain ⟨canonical, _⟩ := readNumber?_eq_integer_iff.mp reads
        have canonicalText := Identifier.isCanonical_ofInt value
        change Text.Decimal.ofInt value = Identifier.text id at same
        rw [same] at canonicalText
        have sameValue :=
          canonicalText.denotes.unique
            (Identifier.isCanonical_ofInt id.toInt).denotes
        rwa [← sameValue]
  · intro canonical
    have fits : Numeral.Fits id.toInt := by
      obtain ⟨low, high⟩ := Identifier.hasWord_toInt id
      exact ⟨by omega, by omega⟩
    rw [readNumber?_eq_integer_iff.mpr ⟨canonical, fits⟩] at reads
    cases reads
    rfl

end Json

end DropletClient
