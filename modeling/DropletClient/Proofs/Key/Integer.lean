import DropletClient.Proofs.Key.Reading

namespace DropletClient

/-!
# Keys as integers

The bytes of a field denote an integer in two's complement. A component is read
from a field exactly if this integer is positive, and then its bytes are the
only shortest ones that denote it. So a key is read from the integers in its
fields, and not from how they are padded.
-/

namespace Key

variable {bytes other : List UInt8}

private theorem foldl_bytes
    (before : Nat)
    (bytes : List UInt8) :
    bytes.foldl (fun value byte => value * 256 + byte.toNat) before =
      before * Nat.pow 256 bytes.length + unsignedValue bytes := by
  induction bytes generalizing before with
  | nil => simp [unsignedValue]
  | cons byte rest inductionHypothesis =>
      have power :
          Nat.pow 256 (rest.length + 1) = 256 * Nat.pow 256 rest.length :=
        Nat.pow_succ'
      have fromNothing :
          unsignedValue (byte :: rest) =
            (0 * 256 + byte.toNat) * Nat.pow 256 rest.length +
              unsignedValue rest :=
        inductionHypothesis (0 * 256 + byte.toNat)
      rw [Nat.zero_mul, Nat.zero_add] at fromNothing
      calc
        _ = (before * 256 + byte.toNat) * Nat.pow 256 rest.length +
            unsignedValue rest :=
          inductionHypothesis _
        _ = before * (256 * Nat.pow 256 rest.length) +
            (byte.toNat * Nat.pow 256 rest.length + unsignedValue rest) := by
          rw [Nat.add_mul, Nat.mul_assoc, Nat.add_assoc]
        _ = before * Nat.pow 256 (rest.length + 1) +
            (byte.toNat * Nat.pow 256 rest.length + unsignedValue rest) := by
          rw [power]
        _ = before * Nat.pow 256 (rest.length + 1) +
            unsignedValue (byte :: rest) :=
          congrArg _ fromNothing.symm

/--
The first byte counts as often as there are values of the bytes behind it.
-/
theorem unsignedValue_cons
    (byte : UInt8)
    (rest : List UInt8) :
    unsignedValue (byte :: rest) =
      byte.toNat * Nat.pow 256 rest.length + unsignedValue rest := by
  rw [unsignedValue, List.foldl_cons, foldl_bytes, Nat.zero_mul, Nat.zero_add]

theorem unsignedValue_lt
    (bytes : List UInt8) :
    unsignedValue bytes < Nat.pow 256 bytes.length := by
  induction bytes with
  | nil => decide
  | cons byte rest inductionHypothesis =>
      have bound := byte.toNat_lt
      calc
        unsignedValue (byte :: rest) =
            byte.toNat * Nat.pow 256 rest.length + unsignedValue rest :=
          unsignedValue_cons byte rest
        _ < byte.toNat * Nat.pow 256 rest.length + Nat.pow 256 rest.length := by
          omega
        _ = (byte.toNat + 1) * Nat.pow 256 rest.length := (Nat.succ_mul ..).symm
        _ ≤ 256 * Nat.pow 256 rest.length := Nat.mul_le_mul_right _ (by omega)
        _ = Nat.pow 256 (rest.length + 1) := Nat.pow_succ'.symm

private theorem div_of_lt
    {leading trailing size : Nat}
    (small : trailing < size) :
    (leading * size + trailing) / size = leading := by
  rw [Nat.add_comm, Nat.add_mul_div_right _ _ (Nat.zero_lt_of_lt small),
    Nat.div_eq_of_lt small, Nat.zero_add]

/-- As many bytes denote one number in one way only. -/
theorem eq_of_unsignedValue_eq
    (sameLength : bytes.length = other.length)
    (same : unsignedValue bytes = unsignedValue other) :
    bytes = other := by
  induction bytes generalizing other with
  | nil => exact (List.length_eq_zero_iff.mp sameLength.symm).symm
  | cons byte rest inductionHypothesis =>
      cases other with
      | nil => cases sameLength
      | cons first later =>
          have sameRest : rest.length = later.length := Nat.succ.inj sameLength
          have smallRest := unsignedValue_lt rest
          have smallLater := unsignedValue_lt later
          rw [unsignedValue_cons, unsignedValue_cons, ← sameRest] at same
          rw [← sameRest] at smallLater
          have sameByte : byte.toNat = first.toNat := by
            have quotients := congrArg (· / Nat.pow 256 rest.length) same
            rwa [div_of_lt smallRest, div_of_lt smallLater] at quotients
          rw [sameByte] at same
          rw [UInt8.toNat_inj.mp sameByte,
            inductionHypothesis sameRest (Nat.add_left_cancel same)]

/--
Bytes whose top bit is clear denote the same number with and without a sign.
-/
theorem signedValue_of_clear
    {byte : UInt8}
    (clear : byte < 0x80)
    (rest : List UInt8) :
    signedValue (byte :: rest) = unsignedValue (byte :: rest) :=
  if_pos clear

/-- Only bytes whose top bit is clear denote a positive integer. -/
theorem exists_clear_of_signedValue_pos
    (positive : 0 < signedValue bytes) :
    ∃ byte rest, bytes = byte :: rest ∧ byte < 0x80 := by
  cases bytes with
  | nil => cases positive
  | cons byte rest =>
      refine ⟨byte, rest, rfl, Decidable.byContradiction fun set => ?_⟩
      have small := unsignedValue_lt (byte :: rest)
      rw [signedValue, if_neg set] at positive
      rw [List.length_cons] at small
      omega

theorem signedValue_eq_unsignedValue
    (positive : 0 < signedValue bytes) :
    signedValue bytes = unsignedValue bytes := by
  obtain ⟨byte, rest, rfl, clear⟩ := exists_clear_of_signedValue_pos positive
  exact signedValue_of_clear clear rest

/-- A clear top bit halves the numbers that bytes can denote. -/
theorem double_unsignedValue_lt
    (positive : 0 < signedValue bytes) :
    2 * unsignedValue bytes < Nat.pow 256 bytes.length := by
  obtain ⟨byte, rest, rfl, clear⟩ := exists_clear_of_signedValue_pos positive
  have small : byte.toNat + 1 ≤ 128 := UInt8.lt_iff_toNat_lt.mp clear
  have smallRest := unsignedValue_lt rest
  calc
    2 * unsignedValue (byte :: rest) =
        2 * (byte.toNat * Nat.pow 256 rest.length + unsignedValue rest) := by
      rw [unsignedValue_cons]
    _ < 2 *
        (byte.toNat * Nat.pow 256 rest.length + Nat.pow 256 rest.length) := by
      omega
    _ = 2 * ((byte.toNat + 1) * Nat.pow 256 rest.length) := by
      rw [Nat.add_one_mul byte.toNat]
    _ ≤ 2 * (128 * Nat.pow 256 rest.length) :=
      Nat.mul_le_mul_left _ (Nat.mul_le_mul_right _ small)
    _ = 256 * Nat.pow 256 rest.length := (Nat.mul_assoc ..).symm
    _ = Nat.pow 256 (rest.length + 1) := Nat.pow_succ'.symm

/--
Without a redundant zero the first two bytes say that no byte can be spared.
-/
theorem le_double_unsignedValue
    {byte : UInt8}
    {rest : List UInt8}
    (minimal : redundantZero (byte :: rest) = false) :
    Nat.pow 256 rest.length ≤ 2 * unsignedValue (byte :: rest) := by
  rw [unsignedValue_cons]
  by_cases zero : byte = 0
  · subst zero
    cases rest with
    | nil => cases minimal
    | cons next later =>
        have set : 128 ≤ next.toNat := by
          simpa [redundantZero, UInt8.le_iff_toNat_le] using minimal
        calc
          Nat.pow 256 (later.length + 1) =
              2 * (128 * Nat.pow 256 later.length) := by
            rw [← Nat.mul_assoc]
            exact Nat.pow_succ'
          _ ≤ 2 * (next.toNat * Nat.pow 256 later.length) :=
            Nat.mul_le_mul_left _ (Nat.mul_le_mul_right _ set)
          _ ≤ _ := by
            rw [unsignedValue_cons]
            exact Nat.mul_le_mul_left _ (by omega)
  · have nonzero : 1 ≤ byte.toNat := by
      refine Nat.one_le_iff_ne_zero.mpr fun none => zero ?_
      exact UInt8.toNat_inj.mp none
    have counts := Nat.mul_le_mul_right (Nat.pow 256 rest.length) nonzero
    omega

/-- Bytes denote an integer, and everything else that denotes it is longer. -/
structure IsShortest (bytes : List UInt8) (value : Int) : Prop where
  denotes : signedValue bytes = value
  shorter : ∀ other,
    signedValue other = value → other ≠ bytes → bytes.length < other.length

theorem IsShortest.unique
    {value : Int}
    (first : IsShortest bytes value)
    (second : IsShortest other value) :
    bytes = other := by
  refine Decidable.byContradiction fun different => ?_
  have shorterFirst := first.shorter other second.denotes (Ne.symm different)
  have shorterSecond := second.shorter bytes first.denotes different
  omega

/-- A positive integer is denoted shortest by bytes without a redundant zero. -/
theorem isShortest_of_minimal
    (minimal : redundantZero bytes = false)
    (positive : 0 < signedValue bytes) :
    IsShortest bytes (signedValue bytes) := by
  refine ⟨rfl, fun other same different => Nat.lt_of_not_le fun notLonger => ?_⟩
  have positiveOther : 0 < signedValue other := same ▸ positive
  have sameNumber : unsignedValue other = unsignedValue bytes := by
    rw [signedValue_eq_unsignedValue positive,
      signedValue_eq_unsignedValue positiveOther] at same
    exact Int.ofNat.inj same
  -- fewer bytes with a clear top bit cannot denote as much, and as many bytes
  -- are the same ones
  rcases Nat.lt_or_eq_of_le notLonger with shorter | sameLength
  · obtain ⟨byte, rest, rfl, -⟩ := exists_clear_of_signedValue_pos positive
    have least := le_double_unsignedValue minimal
    have most := double_unsignedValue_lt positiveOther
    have noLarger : Nat.pow 256 other.length ≤ Nat.pow 256 rest.length :=
      Nat.pow_le_pow_right (by decide) (Nat.le_of_lt_succ shorter)
    omega
  · exact different (eq_of_unsignedValue_eq sameLength sameNumber)

/-- Zeros in front of a positive integer do not change it. -/
theorem signedValue_replicate_append
    (positive : 0 < signedValue bytes)
    (count : Nat) :
    signedValue (List.replicate count 0 ++ bytes) = signedValue bytes := by
  induction count with
  | zero => rfl
  | succ count inductionHypothesis =>
      have zeroIsClear : (0 : UInt8) < 0x80 := by decide
      have positiveRest :
          0 < signedValue (List.replicate count 0 ++ bytes) := by
        rw [inductionHypothesis]
        exact positive
      rw [List.replicate_succ, List.cons_append,
        signedValue_of_clear zeroIsClear, unsignedValue_zero_cons,
        ← signedValue_eq_unsignedValue positiveRest, inductionHypothesis]

namespace Component

variable {name : String} {field : List UInt8} {component : Component}

/--
What dropping leaves has a redundant zero only if it is nothing but a zero.
-/
private theorem eq_zero_or_minimal
    (field : List UInt8) :
    dropRedundantZeros field = [0] ∨
      redundantZero (dropRedundantZeros field) = false := by
  induction field with
  | nil => exact .inr rfl
  | cons byte rest inductionHypothesis =>
      cases rest with
      | nil =>
          by_cases zero : byte = 0
          · exact .inl (congrArg (fun byte => [byte]) zero)
          · exact .inr (beq_false_of_ne zero)
      | cons next later =>
          rw [dropRedundantZeros]
          by_cases redundant : byte = 0 ∧ next < 0x80
          · rw [if_pos redundant]
            exact inductionHypothesis
          · rw [if_neg redundant]
            exact .inr (by simpa [redundantZero] using redundant)

theorem dropRedundantZeros_minimal
    (positive : 0 < signedValue field) :
    redundantZero (dropRedundantZeros field) = false := by
  rcases eq_zero_or_minimal field with zero | minimal
  · rw [← signedValue_dropRedundantZeros, zero] at positive
    cases positive
  · exact minimal

theorem isShortest_dropRedundantZeros
    (positive : 0 < signedValue field) :
    IsShortest (dropRedundantZeros field) (signedValue field) := by
  have minimal := dropRedundantZeros_minimal positive
  rw [← signedValue_dropRedundantZeros] at positive ⊢
  exact isShortest_of_minimal minimal positive

theorem isPositive_iff :
    component.isPositive = true ↔ 0 < signedValue component.bytes := by
  obtain ⟨bytes, minimal⟩ := component
  constructor
  · intro positive
    cases bytes with
    | nil => cases positive
    | cons byte rest =>
        have clear : byte < 0x80 := of_decide_eq_true positive
        have least := le_double_unsignedValue minimal
        have some : 0 < Nat.pow 256 rest.length := Nat.pow_pos (by decide)
        rw [signedValue_of_clear clear]
        omega
  · intro positive
    obtain ⟨byte, rest, rfl, clear⟩ := exists_clear_of_signedValue_pos positive
    exact decide_eq_true clear

/--
A component is read from a field exactly if the field denotes a positive
integer.
-/
theorem ofField_eq_ok_iff :
    ofField name field = .ok component ↔
      0 < signedValue field ∧
        IsShortest component.bytes (signedValue field) := by
  rw [ofField_eq_ok, isPositive_iff]
  constructor
  · rintro ⟨shortened, positive⟩
    rw [shortened, signedValue_dropRedundantZeros] at positive
    rw [shortened]
    exact ⟨positive, isShortest_dropRedundantZeros positive⟩
  · rintro ⟨positive, shortest⟩
    rw [shortest.denotes]
    exact ⟨shortest.unique (isShortest_dropRedundantZeros positive), positive⟩

theorem ofField_eq_error
    (name : String)
    (notPositive : signedValue field ≤ 0) :
    ∃ fault,
      ofField name field = .error fault ∧
        (fault = .malformedComponent name ∨
          fault = .componentNotPositive name) := by
  cases reads : ofField name field with
  | ok component =>
      exact absurd (ofField_eq_ok_iff.mp reads).1 (Int.not_lt.mpr notPositive)
  | error fault =>
      refine ⟨fault, rfl, ?_⟩
      rw [ofField] at reads
      split at reads
      · cases reads
        exact .inl rfl
      · split at reads
        · cases reads
        · cases reads
          exact .inr rfl

end Component

end Key

namespace PublicKey

open Key

variable {bytes field rest surplus : List UInt8} {label : String}
  {key : PublicKey} {parts : List (List UInt8)}

/--
A key with a label that is made of positive integers, which fields denote.
-/
structure IsMadeOf
    (key : PublicKey)
    (label : String)
    (parts : List (List UInt8)) : Prop where
  labelled : key.label? = some label
  integers :
    key.components.map (fun component => signedValue component.2.bytes) =
      parts.map signedValue
  positive : ∀ part ∈ parts, 0 < signedValue part

/--
A key that is made of integers is made of whatever denotes the same integers.
-/
theorem IsMadeOf.congr
    {others : List (List UInt8)}
    (made : key.IsMadeOf label parts)
    (same : others.map signedValue = parts.map signedValue) :
    key.IsMadeOf label others := by
  refine ⟨made.labelled, made.integers.trans same.symm, fun other member => ?_⟩
  have valueMember := List.mem_map_of_mem (f := signedValue) member
  rw [same] at valueMember
  obtain ⟨part, partMember, sameValue⟩ := List.mem_map.mp valueMember
  rw [← sameValue]
  exact made.positive part partMember

/-- Fields with zeros in front of them, as many as are counted for each. -/
def withZeros
    (counts : List Nat)
    (parts : List (List UInt8)) :
    List (List UInt8) :=
  List.zipWith (fun count part => List.replicate count 0 ++ part) counts parts

theorem map_signedValue_withZeros
    {counts : List Nat}
    (counted : counts.length = parts.length)
    (positive : ∀ part ∈ parts, 0 < signedValue part) :
    (withZeros counts parts).map signedValue = parts.map signedValue := by
  induction parts generalizing counts with
  | nil => rw [withZeros, List.zipWith_nil_right]
  | cons part later inductionHypothesis =>
      cases counts with
      | nil => cases counted
      | cons count others =>
          obtain ⟨positivePart, positiveLater⟩ :=
            List.forall_mem_cons.mp positive
          have sameLater :=
            inductionHypothesis (Nat.succ.inj counted) positiveLater
          rw [withZeros] at sameLater ⊢
          rw [List.zipWith_cons_cons, List.map_cons, List.map_cons, sameLater,
            signedValue_replicate_append positivePart]

/--
The component in a field that was read is the one that is read from the
field alone.
-/
theorem nextComponent_of_read
    (reads : Wire.read bytes = .ok (field, rest))
    (name : String) :
    nextComponent name bytes =
      (Component.ofField name field).map fun component =>
        (component, rest) := by
  rw [nextComponent, reads, Outcome.ok_bind]
  dsimp only
  cases Component.ofField name field <;> rfl

/-- Reading goes on after a field that denotes the integer of a component. -/
private theorem bind_nextComponent_field
    {name : String}
    {component : Component}
    {part : List UInt8}
    (fits : part.length < Wire.lengthLimit)
    (positive : 0 < signedValue part)
    (same : signedValue part = signedValue component.bytes)
    (rest : List UInt8)
    (next : Component × List UInt8 → Except Fault PublicKey) :
    (nextComponent name (Wire.field part ++ rest) >>= next) =
      next (component, rest) := by
  have shortest : IsShortest component.bytes (signedValue part) := by
    rw [same] at positive ⊢
    exact isShortest_of_minimal component.minimal positive
  rw [nextComponent_of_read (Wire.read_field fits rest),
    Component.ofField_eq_ok_iff.mpr ⟨positive, shortest⟩]
  rfl

/-- Bytes are read as the key that is made of the integers in their fields. -/
theorem ofBytes_of_holds
    (holds : Holds bytes label parts surplus)
    (made : key.IsMadeOf label parts) :
    ofBytes bytes = .ok key := by
  obtain ⟨fits, framed⟩ := holds
  obtain ⟨labelled, integers, positive⟩ := made
  cases key with
  | other algorithm => cases labelled
  | rsa e n =>
      cases labelled
      obtain ⟨partE, _, rfl, sameE, integers⟩ :=
        List.map_eq_cons_iff.mp integers.symm
      obtain ⟨partN, _, rfl, sameN, integers⟩ :=
        List.map_eq_cons_iff.mp integers
      obtain rfl := List.map_eq_nil_iff.mp integers
      simp only [List.forall_mem_cons] at fits positive
      have shape :
          bytes =
            Wire.field (textBytes rsaLabel) ++
              (Wire.field partE ++ (Wire.field partN ++ surplus)) := by
        simp [framed]
      rw [shape, ofBytes, nextLabel_field (.inl rfl), Outcome.ok_bind]
      dsimp only
      rw [if_pos rfl, bind_nextComponent_field fits.1 positive.1 sameE]
      dsimp only
      rw [bind_nextComponent_field fits.2.1 positive.2.1 sameN]
      rfl
  | dsa p q g y =>
      cases labelled
      obtain ⟨partP, _, rfl, sameP, integers⟩ :=
        List.map_eq_cons_iff.mp integers.symm
      obtain ⟨partQ, _, rfl, sameQ, integers⟩ :=
        List.map_eq_cons_iff.mp integers
      obtain ⟨partG, _, rfl, sameG, integers⟩ :=
        List.map_eq_cons_iff.mp integers
      obtain ⟨partY, _, rfl, sameY, integers⟩ :=
        List.map_eq_cons_iff.mp integers
      obtain rfl := List.map_eq_nil_iff.mp integers
      simp only [List.forall_mem_cons] at fits positive
      have shape :
          bytes =
            Wire.field (textBytes dsaLabel) ++
              (Wire.field partP ++
                (Wire.field partQ ++
                  (Wire.field partG ++ (Wire.field partY ++ surplus)))) := by
        simp [framed]
      have otherLabel : dsaLabel ≠ rsaLabel := by decide
      rw [shape, ofBytes, nextLabel_field (.inr rfl), Outcome.ok_bind]
      dsimp only
      rw [if_neg otherLabel, if_pos rfl,
        bind_nextComponent_field fits.1 positive.1 sameP]
      dsimp only
      rw [bind_nextComponent_field fits.2.1 positive.2.1 sameQ]
      dsimp only
      rw [bind_nextComponent_field fits.2.2.1 positive.2.2.1 sameG]
      dsimp only
      rw [bind_nextComponent_field fits.2.2.2.1 positive.2.2.2.1 sameY]
      rfl

/--
Bytes are read as a key exactly if they hold a label and the integers that
make the key.
-/
theorem ofBytes_eq_ok_iff :
    ofBytes bytes = .ok key ↔
      ∃ label parts surplus,
        Holds bytes label parts surplus ∧ key.IsMadeOf label parts := by
  constructor
  · intro reads
    obtain ⟨label, parts, surplus, labelled, holds, shortened, positive⟩ :=
      exists_holds_of_ofBytes reads
    have integers :
        key.components.map (fun component => signedValue component.2.bytes) =
          parts.map signedValue := by
      calc
        key.components.map (fun component => signedValue component.2.bytes) =
            (key.components.map fun component => component.2.bytes).map
              signedValue := by
          rw [List.map_map]
          rfl
        _ = (parts.map Component.dropRedundantZeros).map signedValue := by
          rw [shortened]
        _ = parts.map signedValue := by
          rw [List.map_map]
          exact List.map_congr_left fun part _ =>
            Component.signedValue_dropRedundantZeros part
    refine ⟨label, parts, surplus, holds, labelled, integers,
      fun part member => ?_⟩
    have valueMember := List.mem_map_of_mem (f := signedValue) member
    rw [← integers] at valueMember
    obtain ⟨component, componentMember, same⟩ := List.mem_map.mp valueMember
    rw [← same]
    exact Component.isPositive_iff.mp (positive component componentMember)
  · rintro ⟨label, parts, surplus, holds, made⟩
    exact ofBytes_of_holds holds made

/--
A component is read from a field exactly if the field denotes a positive
integer, and then its bytes are the only shortest ones that denote it; of any
other field it is reported that the component is none. Zeros in front of a field
change nothing, whether of a single component or of all components of a key.
-/
theorem components_are_read_exactly
    (name : String)
    (reads : Wire.read bytes = .ok (field, rest)) :
    ((∃ component, nextComponent name bytes = .ok (component, rest)) ↔
        0 < signedValue field) ∧
      (∀ component after,
        nextComponent name bytes = .ok (component, after) →
          after = rest ∧ IsShortest component.bytes (signedValue field)) ∧
      (signedValue field ≤ 0 →
        ∃ fault,
          nextComponent name bytes = .error fault ∧
            (fault = .malformedComponent name ∨
              fault = .componentNotPositive name)) ∧
      (∀ component count padded,
        nextComponent name bytes = .ok (component, rest) →
          Wire.read padded = .ok (List.replicate count 0 ++ field, rest) →
          nextComponent name padded = .ok (component, rest)) ∧
      (∀ blob key,
        ofBytes blob = .ok key →
          ∃ label parts surplus,
            Holds blob label parts surplus ∧
              key.IsMadeOf label parts ∧
              ∀ counts padded behind,
                counts.length = parts.length →
                  Holds padded label (withZeros counts parts) behind →
                  ofBytes padded = .ok key) := by
  have readsComponent :
      ∀ component after,
        nextComponent name bytes = .ok (component, after) ↔
          rest = after ∧ 0 < signedValue field ∧
            IsShortest component.bytes (signedValue field) := by
    intro component after
    rw [nextComponent_of_read reads, Outcome.map_eq_ok]
    simp only [Component.ofField_eq_ok_iff, Prod.mk.injEq]
    constructor
    · rintro ⟨_, shortest, rfl, rfl⟩
      exact ⟨rfl, shortest⟩
    · rintro ⟨rfl, shortest⟩
      exact ⟨component, shortest, rfl, rfl⟩
  refine ⟨⟨?_, fun positive => ?_⟩, ?_, fun notPositive => ?_, ?_, ?_⟩
  · rintro ⟨component, isRead⟩
    exact ((readsComponent component rest).mp isRead).2.1
  · have minimal := Component.dropRedundantZeros_minimal positive
    have shortest := Component.isShortest_dropRedundantZeros positive
    exact ⟨⟨_, minimal⟩, (readsComponent _ rest).mpr ⟨rfl, positive, shortest⟩⟩
  · intro component after isRead
    obtain ⟨same, _, shortest⟩ := (readsComponent component after).mp isRead
    exact ⟨same.symm, shortest⟩
  · obtain ⟨fault, refused, named⟩ :=
      Component.ofField_eq_error name notPositive
    refine ⟨fault, ?_, named⟩
    rw [nextComponent_of_read reads, refused]
    rfl
  · intro component count padded isRead readsPadded
    obtain ⟨_, positive, shortest⟩ := (readsComponent component rest).mp isRead
    have same := signedValue_replicate_append positive count
    rw [← same] at positive shortest
    rw [nextComponent_of_read readsPadded,
      Component.ofField_eq_ok_iff.mpr ⟨positive, shortest⟩]
    rfl
  · intro blob key isRead
    obtain ⟨label, parts, surplus, holds, made⟩ := ofBytes_eq_ok_iff.mp isRead
    refine ⟨label, parts, surplus, holds, made,
      fun counts padded behind counted holdsPadded => ?_⟩
    have same := map_signedValue_withZeros counted made.positive
    exact ofBytes_eq_ok_iff.mpr ⟨label, _, behind, holdsPadded, made.congr same⟩

/--
A modulus with one zero more than its top bit needs is read as the shortest
bytes of 50433.
-/
theorem components_are_read_exactly_padded_modulus :
    Wire.read [0, 0, 0, 4, 0, 0, 0xC5, 1, 7] = .ok ([0, 0, 0xC5, 1], [7]) ∧
      signedValue [0, 0, 0xC5, 1] = 50433 ∧
      ∃ component,
        nextComponent "n" [0, 0, 0, 4, 0, 0, 0xC5, 1, 7] =
            .ok (component, [7]) ∧
          IsShortest component.bytes 50433 := by
  have reads :
      Wire.read [0, 0, 0, 4, 0, 0, 0xC5, 1, 7] = .ok ([0, 0, 0xC5, 1], [7]) :=
    Wire.read_eq_ok.mpr ⟨by decide, by decide⟩
  have value : signedValue [0, 0, 0xC5, 1] = 50433 := by decide
  obtain ⟨readable, shortest, _⟩ := components_are_read_exactly "n" reads
  rw [value] at readable shortest
  obtain ⟨component, isRead⟩ := readable.mpr (by decide)
  exact ⟨reads, value, component, isRead, (shortest component _ isRead).2⟩

end PublicKey

end DropletClient
