import DropletClient.Proofs.Key.Framing
import DropletClient.Proofs.Key.RoundTrip

namespace DropletClient

/-!
# What is read from a payload

A payload that is read holds the label of its type and a field for every
component. Each component is its field without redundant zeros, which denotes
the same integer; bytes after the last field are passed over.
-/

namespace Key

/-- The number that bytes denote, the most significant byte first. -/
def unsignedValue (bytes : List UInt8) : Nat :=
  bytes.foldl (fun value byte => value * 256 + byte.toNat) 0

/--
The integer that bytes denote in two's complement, the most significant
byte first.
-/
def signedValue : List UInt8 → Int
  | [] => 0
  | byte :: rest =>
      if byte < 0x80 then
        unsignedValue (byte :: rest)
      else
        unsignedValue (byte :: rest) - Nat.pow 256 (rest.length + 1)

theorem unsignedValue_zero_cons
    (bytes : List UInt8) :
    unsignedValue (0 :: bytes) = unsignedValue bytes :=
  rfl

namespace Component

variable {name : String} {field : List UInt8} {component : Component}

theorem signedValue_dropRedundantZeros
    (field : List UInt8) :
    signedValue (dropRedundantZeros field) = signedValue field := by
  induction field with
  | nil => rfl
  | cons byte rest inductionHypothesis =>
      cases rest with
      | nil => rfl
      | cons next later =>
          rw [dropRedundantZeros]
          by_cases redundant : byte = 0 ∧ next < 0x80
          · obtain ⟨rfl, clear⟩ := redundant
            have zeroIsClear : (0 : UInt8) < 0x80 := by decide
            rw [if_pos ⟨rfl, clear⟩, inductionHypothesis, signedValue,
              signedValue, if_pos clear, if_pos zeroIsClear,
              unsignedValue_zero_cons]
          · rw [if_neg redundant]

theorem length_dropRedundantZeros_le
    (field : List UInt8) :
    (dropRedundantZeros field).length ≤ field.length := by
  induction field with
  | nil => exact Nat.le_refl _
  | cons byte rest inductionHypothesis =>
      cases rest with
      | nil => exact Nat.le_refl _
      | cons next later =>
          rw [dropRedundantZeros]
          by_cases redundant : byte = 0 ∧ next < 0x80
          · rw [if_pos redundant]
            exact Nat.le_succ_of_le inductionHypothesis
          · exact Nat.le_of_eq (congrArg List.length (if_neg redundant))

/-- A component is its field without redundant zeros, and positive. -/
theorem ofField_eq_ok :
    ofField name field = .ok component ↔
      component.bytes = dropRedundantZeros field ∧
        component.isPositive = true := by
  constructor
  · intro reads
    rw [ofField, ofBytes?] at reads
    by_cases minimal : redundantZero (dropRedundantZeros field) = false
    · rw [dif_pos minimal] at reads
      dsimp only at reads
      split at reads
      case isTrue positive =>
        cases reads
        exact ⟨rfl, positive⟩
      case isFalse => cases reads
    · rw [dif_neg minimal] at reads
      cases reads
  · rintro ⟨shortened, positive⟩
    have reads : ofBytes? (dropRedundantZeros field) = some component := by
      rw [← shortened]
      exact dif_pos component.minimal
    rw [ofField, reads]
    exact if_pos positive

end Component

end Key

namespace PublicKey

open Key

/--
Bytes that hold a label and fields, each with its length in front, and then
a surplus.
-/
structure Holds
    (bytes : List UInt8)
    (label : String)
    (parts : List (List UInt8))
    (surplus : List UInt8) :
    Prop where
  fits : ∀ part ∈ parts, part.length < Wire.lengthLimit
  framed : bytes = (textBytes label :: parts).flatMap Wire.field ++ surplus

variable {bytes rest surplus : List UInt8} {label : String} {key : PublicKey}

theorem nextComponent_eq_ok
    {name : String}
    {component : Component} :
    nextComponent name bytes = .ok (component, rest) ↔
      ∃ part : List UInt8,
        part.length < Wire.lengthLimit ∧
          bytes = Wire.field part ++ rest ∧
          component.bytes = Component.dropRedundantZeros part ∧
          component.isPositive = true := by
  constructor
  · intro reads
    obtain ⟨⟨part, afterPart⟩, readsPart, reads⟩ := Outcome.bind_eq_ok.mp reads
    obtain ⟨read, readsComponent, whole⟩ := Outcome.bind_eq_ok.mp reads
    cases whole
    obtain ⟨fits, framed⟩ := Wire.read_eq_ok.mp readsPart
    exact ⟨part, fits, framed, Component.ofField_eq_ok.mp readsComponent⟩
  · rintro ⟨part, fits, rfl, readsComponent⟩
    rw [nextComponent, Wire.read_field fits, Outcome.ok_bind]
    dsimp only
    rw [Component.ofField_eq_ok.mpr readsComponent]
    rfl

theorem ascii_of_label
    (known : label = rsaLabel ∨ label = dsaLabel) :
    ∀ character ∈ label.toList, character.toNat < 128 := by
  rcases known with rfl | rfl
  · simp [rsaLabel]
  · simp [dsaLabel]

/-- A known label is read from the codes of its characters only. -/
theorem nextLabel_eq_ok
    (known : label = rsaLabel ∨ label = dsaLabel)
    (reads : nextLabel bytes = .ok (label, rest)) :
    bytes = Wire.field (textBytes label) ++ rest := by
  obtain ⟨⟨part, afterPart⟩, readsPart, reads⟩ := Outcome.bind_eq_ok.mp reads
  obtain ⟨-, framed⟩ := Wire.read_eq_ok.mp readsPart
  dsimp only at reads
  split at reads
  case h_1 text decoded =>
    cases reads
    have ascii := ascii_of_label known
    rw [String.toList_ofList] at ascii
    rw [framed, Text.Utf8.eq_encode_of_decode? decoded ascii, textBytes,
      String.toList_ofList]
  case h_2 => cases reads

/--
A payload that is read holds the label of the key and a field for each of its
components. The components are the fields without redundant zeros, and positive.
-/
theorem exists_holds_of_ofBytes
    (reads : ofBytes bytes = .ok key) :
    ∃ label parts surplus,
      key.label? = some label ∧
        Holds bytes label parts surplus ∧
        key.components.map (fun component => component.2.bytes) =
          parts.map Component.dropRedundantZeros ∧
        ∀ component ∈ key.components, component.2.isPositive = true := by
  rw [ofBytes] at reads
  obtain ⟨⟨label, afterLabel⟩, readsLabel, reads⟩ := Outcome.bind_eq_ok.mp reads
  dsimp only at reads
  by_cases isRsa : label = rsaLabel
  · rw [if_pos isRsa] at reads
    obtain ⟨⟨e, afterE⟩, readsE, reads⟩ := Outcome.bind_eq_ok.mp reads
    obtain ⟨⟨n, surplus⟩, readsN, reads⟩ := Outcome.bind_eq_ok.mp reads
    cases reads
    obtain ⟨partE, fitsE, rfl, shortenedE, positiveE⟩ :=
      nextComponent_eq_ok.mp readsE
    obtain ⟨partN, fitsN, rfl, shortenedN, positiveN⟩ :=
      nextComponent_eq_ok.mp readsN
    have framed := nextLabel_eq_ok (.inl isRsa) readsLabel
    refine ⟨label, [partE, partN], surplus, congrArg some isRsa.symm,
      ⟨?_, ?_⟩, ?_, ?_⟩
    · simp [fitsE, fitsN]
    · simp [framed]
    · simp [components, shortenedE, shortenedN]
    · simp [components, positiveE, positiveN]
  · rw [if_neg isRsa] at reads
    by_cases isDsa : label = dsaLabel
    · rw [if_pos isDsa] at reads
      obtain ⟨⟨p, afterP⟩, readsP, reads⟩ := Outcome.bind_eq_ok.mp reads
      obtain ⟨⟨q, afterQ⟩, readsQ, reads⟩ := Outcome.bind_eq_ok.mp reads
      obtain ⟨⟨g, afterG⟩, readsG, reads⟩ := Outcome.bind_eq_ok.mp reads
      obtain ⟨⟨y, surplus⟩, readsY, reads⟩ := Outcome.bind_eq_ok.mp reads
      cases reads
      obtain ⟨partP, fitsP, rfl, shortenedP, positiveP⟩ :=
        nextComponent_eq_ok.mp readsP
      obtain ⟨partQ, fitsQ, rfl, shortenedQ, positiveQ⟩ :=
        nextComponent_eq_ok.mp readsQ
      obtain ⟨partG, fitsG, rfl, shortenedG, positiveG⟩ :=
        nextComponent_eq_ok.mp readsG
      obtain ⟨partY, fitsY, rfl, shortenedY, positiveY⟩ :=
        nextComponent_eq_ok.mp readsY
      have framed := nextLabel_eq_ok (.inr isDsa) readsLabel
      refine
        ⟨label, [partP, partQ, partG, partY], surplus, congrArg some isDsa.symm,
          ⟨?_, ?_⟩, ?_, ?_⟩
      · simp [fitsP, fitsQ, fitsG, fitsY]
      · simp [framed]
      · simp [components, shortenedP, shortenedQ, shortenedG, shortenedY]
      · simp [components, positiveP, positiveQ, positiveG, positiveY]
    · rw [if_neg isDsa] at reads
      cases reads

/-- Bytes hold one sequence of fields of a given length only. -/
theorem Holds.unique
    {parts otherParts : List (List UInt8)}
    {otherSurplus : List UInt8}
    (holds : Holds bytes label parts surplus)
    (otherwise : Holds bytes label otherParts otherSurplus)
    (sameLength : parts.length = otherParts.length)
    (fitsLabel : (textBytes label).length < Wire.lengthLimit) :
    parts = otherParts ∧ surplus = otherSurplus := by
  have reads := Wire.readAll_eq_ok.mpr
    ⟨rfl, List.forall_mem_cons.mpr ⟨fitsLabel, holds.fits⟩, holds.framed⟩
  have readsOther := Wire.readAll_eq_ok.mpr
    ⟨rfl, List.forall_mem_cons.mpr ⟨fitsLabel, otherwise.fits⟩,
      otherwise.framed⟩
  rw [List.length_cons, sameLength, ← List.length_cons] at reads
  have same := Except.ok.inj (reads.symm.trans readsOther)
  simp only [Prod.mk.injEq, List.cons.injEq, true_and] at same
  exact same

end PublicKey

end DropletClient
