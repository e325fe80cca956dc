import DropletClient.Proofs.Identifier.Spelling
import Mathlib.Data.List.Basic

namespace DropletClient

/-!
# Canonical spellings

Of all the spellings of an integer one is canonical: it has no zero in front,
and no sign but the minus sign of a negative integer. It is the one that
integers are written with.
-/

namespace Text.Decimal

theorem digit_digitValue
    {character : Char}
    (isDigit : isDigit character = true) :
    digit (digitValue character) = character := by
  have bounds := isDigit_iff.mp isDigit
  apply Char.toNat_inj.mp
  rw [toNat_digit (by unfold digitValue; omega), digitValue]
  omega

theorem digitValue_lt
    {character : Char}
    (isDigit : isDigit character = true) :
    digitValue character < 10 := by
  have bounds := isDigit_iff.mp isDigit
  unfold digitValue
  omega

/-- Only the digits of zero begin with a zero. -/
theorem head?_digits_ne
    {value : Nat}
    (positive : 0 < value) :
    (digits value).head? ≠ some '0' := by
  induction value using digits.induct with
  | case1 value small =>
      rw [digits, if_pos small, List.head?_cons]
      intro isZero
      have sameCode := congrArg Char.toNat (Option.some.inj isZero)
      rw [toNat_digit small] at sameCode
      change 48 + value = 48 at sameCode
      omega
  | case2 value large inductionHypothesis =>
      have inFront := inductionHypothesis (by omega)
      rw [digits, if_neg large, List.head?_append_of_ne_nil _ (digits_ne_nil _)]
      exact inFront

/-- A numeral that begins with no zero is what its value is written with. -/
theorem digits_placeValue
    {numeral : List Char}
    (isNumeral : IsNumeral numeral)
    (leads : numeral.head? ≠ some '0') :
    digits (placeValue numeral) = numeral := by
  induction numeral using List.reverseRecOn with
  | nil => exact absurd rfl isNumeral.nonempty
  | append_singleton text character inductionHypothesis =>
      have isDigit : isDigit character = true :=
        isNumeral.digits character (by simp)
      have small := digitValue_lt isDigit
      rw [placeValue_append_singleton]
      by_cases single : text = []
      · subst single
        change digits (0 * 10 + digitValue character) = [character]
        rw [Nat.zero_mul, Nat.zero_add, digits, if_pos small,
          digit_digitValue isDigit]
      · have textLeads : text.head? ≠ some '0' := by
          rwa [List.head?_append_of_ne_nil _ single] at leads
        have inFront : digits (placeValue text) = text :=
          inductionHypothesis
            ⟨single, fun other member =>
              isNumeral.digits other (List.mem_append_left _ member)⟩
            textLeads
        -- Zero is the only value whose digits begin with a zero, and those of
        -- this text do not.
        have positive : 0 < placeValue text := by
          apply Nat.pos_of_ne_zero
          intro isZero
          rw [isZero] at inFront
          exact textLeads (by rw [← inFront, digits_zero]; rfl)
        have large : ¬ placeValue text * 10 + digitValue character < 10 := by
          omega
        have quotient : (placeValue text * 10 + digitValue character) / 10 =
            placeValue text := by
          omega
        have remainder :
            (placeValue text * 10 + digitValue character) % 10 =
              digitValue character := by
          omega
        rw [digits, if_neg large, quotient, remainder, inFront,
          digit_digitValue isDigit]

/-- A numeral that begins with no zero does not denote zero. -/
theorem placeValue_pos
    {numeral : List Char}
    (isNumeral : IsNumeral numeral)
    (leads : numeral.head? ≠ some '0') :
    0 < placeValue numeral := by
  apply Nat.pos_of_ne_zero
  intro isZero
  have written := digits_placeValue isNumeral leads
  rw [isZero, digits_zero] at written
  exact leads (by rw [← written]; rfl)

end Text.Decimal

namespace Identifier

open Text.Decimal (IsNumeral digits placeValue)

/--
A spelling of an integer without a digit or a sign that could be left out.
-/
inductive IsCanonical : List Char → Int → Prop where
  | zero : IsCanonical ['0'] 0
  | positive
      {numeral : List Char}
      (isNumeral : IsNumeral numeral)
      (leads : numeral.head? ≠ some '0') :
      IsCanonical numeral (placeValue numeral)
  | negative
      {numeral : List Char}
      (isNumeral : IsNumeral numeral)
      (leads : numeral.head? ≠ some '0') :
      IsCanonical ('-' :: numeral) (-(placeValue numeral : Int))

theorem IsCanonical.denotes
    {word : List Char}
    {value : Int}
    (canonical : IsCanonical word value) :
    Denotes word value := by
  cases canonical with
  | zero => exact .unsigned Text.Decimal.isNumeral_zero
  | positive isNumeral leads => exact .unsigned isNumeral
  | negative isNumeral leads => exact .minus isNumeral

theorem IsCanonical.ne_minusZero
    {word : List Char}
    {value : Int}
    (canonical : IsCanonical word value) :
    word ≠ ['-', '0'] := by
  rintro rfl
  cases canonical with
  | positive isNumeral leads =>
      exact absurd (isNumeral.digits '-' (by decide)) (by decide)
  | negative isNumeral leads => exact leads rfl

/-- Integers are written canonically. -/
theorem isCanonical_ofInt
    (value : Int) :
    IsCanonical (Text.Decimal.ofInt value).toList value := by
  have isNumeral := Text.Decimal.isNumeral_digits value.natAbs
  have sameValue : placeValue (digits value.natAbs) = value.natAbs := by
    rw [← Text.Decimal.valueFrom_eq_placeValue, Text.Decimal.valueFrom_digits]
  rw [Text.Decimal.ofInt, String.toList_ofList]
  rcases Int.lt_trichotomy value 0 with below | rfl | above
  · have canonical :=
      IsCanonical.negative isNumeral (Text.Decimal.head?_digits_ne (by omega))
    rw [sameValue, Int.ofNat_natAbs_of_nonpos (by omega), Int.neg_neg]
      at canonical
    rwa [if_pos below]
  · rw [if_neg (by decide), Int.natAbs_zero, Text.Decimal.digits_zero]
    exact .zero
  · have canonical :=
      IsCanonical.positive isNumeral (Text.Decimal.head?_digits_ne (by omega))
    rw [sameValue, Int.natAbs_of_nonneg (by omega)] at canonical
    rwa [if_neg (by omega)]

/-- The canonical spelling of an integer is the one that it is written with. -/
theorem IsCanonical.eq_ofInt
    {word : List Char}
    {value : Int}
    (canonical : IsCanonical word value) :
    word = (Text.Decimal.ofInt value).toList := by
  rw [Text.Decimal.ofInt, String.toList_ofList]
  cases canonical with
  | zero => exact Text.Decimal.digits_zero.symm
  | positive isNumeral leads =>
      rw [if_neg (by omega), Int.natAbs_natCast,
        Text.Decimal.digits_placeValue isNumeral leads]
  | @negative numeral isNumeral leads =>
      have positive := Text.Decimal.placeValue_pos isNumeral leads
      rw [if_pos (by omega), Int.natAbs_neg, Int.natAbs_natCast,
        Text.Decimal.digits_placeValue isNumeral leads]

/--
A text is that of an identifier if and only if it is the canonical
spelling of it.
-/
theorem eq_text_iff
    {word : String}
    {id : Int32} :
    word = text id ↔ IsCanonical word.toList id.toInt := by
  constructor
  · rintro rfl
    exact isCanonical_ofInt id.toInt
  · intro canonical
    exact String.toList_inj.mp canonical.eq_ofInt

end Identifier

end DropletClient
