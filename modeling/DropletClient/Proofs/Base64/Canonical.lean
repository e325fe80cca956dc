import DropletClient.Proofs.Base64.RoundTrip
import DropletClient.Proofs.Outcome

namespace DropletClient.Base64

/-!
# The only written form

A text that can be read is the written form of the bytes that are read, so bytes
have one form only. Required padding and the check of the surplus bits in the
last symbol make it so.
-/

theorem value?_eq_some
    {byte : UInt8}
    {value : Nat}
    (stands : value? byte = some value) :
    value < 64 ∧ byte = symbol value := by
  have checked :
      ∀ code : Fin 256, ∀ value ∈ value? (UInt8.ofNat code.val),
        value < 64 ∧ UInt8.ofNat code.val = symbol value := by
    decide +kernel
  have found := checked ⟨byte.toNat, byte.toNat_lt⟩ value
  rw [UInt8.ofNat_toNat] at found
  exact found stands

/-- Values are read from the symbols that stand for them. -/
theorem values_eq_ok
    {offset : Nat}
    {symbols : List UInt8}
    {digits : List Nat}
    (reads : values offset symbols = .ok digits) :
    (∀ digit ∈ digits, digit < 64) ∧ symbols = digits.map symbol := by
  induction symbols generalizing offset digits with
  | nil =>
      cases reads
      exact ⟨List.forall_mem_nil _, rfl⟩
  | cons byte rest inductionHypothesis =>
      rw [values] at reads
      cases stands : value? byte with
      | none =>
          rw [stands] at reads
          cases reads
      | some value =>
          rw [stands] at reads
          obtain ⟨later, readsLater, rfl⟩ := Outcome.map_eq_ok.mp reads
          obtain ⟨small, isSymbol⟩ := value?_eq_some stands
          obtain ⟨smallLater, symbolsLater⟩ := inductionHypothesis readsLater
          refine ⟨List.forall_mem_cons.mpr ⟨small, smallLater⟩, ?_⟩
          rw [isSymbol, symbolsLater, List.map_cons]

private theorem toNat_ofNat
    {value : Nat}
    (small : value < 256) :
    (UInt8.ofNat value).toNat = value := by
  rw [UInt8.toNat_ofNat', Nat.mod_eq_of_lt small]

/-- Two symbols without surplus bits are the written form of one byte. -/
private theorem encode_pair
    {first second : Nat}
    (smallFirst : first < 64)
    (smallSecond : second < 64)
    (noSurplus : second % 16 = 0) :
    encode [UInt8.ofNat (first * 4 + second / 16)] =
      [symbol first, symbol second, padding, padding] := by
  have leading : (first * 4 + second / 16) / 4 = first := by omega
  have middle : (first * 4 + second / 16) % 4 * 16 = second := by omega
  rw [encode, toNat_ofNat (by omega), leading, middle]

/-- Three symbols without surplus bits are the written form of two bytes. -/
private theorem encode_triple
    {first second third : Nat}
    (smallFirst : first < 64)
    (smallSecond : second < 64)
    (smallThird : third < 64)
    (noSurplus : third % 4 = 0) :
    encode [UInt8.ofNat (first * 4 + second / 16),
        UInt8.ofNat (second % 16 * 16 + third / 4)] =
      [symbol first, symbol second, symbol third, padding] := by
  have leading : (first * 4 + second / 16) / 4 = first := by omega
  have middle :
      (first * 4 + second / 16) % 4 * 16 + (second % 16 * 16 + third / 4) / 16 =
        second := by
    omega
  have trailing : (second % 16 * 16 + third / 4) % 16 * 4 = third := by omega
  rw [encode, toNat_ofNat (by omega), toNat_ofNat (by omega), leading,
    middle, trailing]

/-- Four symbols are the written form of three bytes. -/
private theorem encode_quad
    {first second third fourth : Nat}
    (smallFirst : first < 64)
    (smallSecond : second < 64)
    (smallThird : third < 64)
    (smallFourth : fourth < 64)
    (rest : List UInt8) :
    encode (bytesOfQuad first second third fourth ++ rest) =
      symbol first :: symbol second :: symbol third :: symbol fourth ::
        encode rest := by
  have leading : (first * 4 + second / 16) / 4 = first := by omega
  have middle :
      (first * 4 + second / 16) % 4 * 16 + (second % 16 * 16 + third / 4) / 16 =
        second := by
    omega
  have trailing :
      (second % 16 * 16 + third / 4) % 16 * 4 + (third % 4 * 64 + fourth) / 64 =
        third := by
    omega
  have last : (third % 4 * 64 + fourth) % 64 = fourth := by omega
  simp only [bytesOfQuad, List.cons_append, List.nil_append, encode]
  rw [toNat_ofNat (by omega), toNat_ofNat (by omega), toNat_ofNat (by omega),
    leading, middle, trailing, last]

/--
The symbols of an ending that is read, with the padding that completes them, are
canonical.
-/
private theorem encode_of_bytesOfEnding
    {offset : Nat}
    {symbols bytes : List UInt8}
    {digits : List Nat}
    (small : ∀ digit ∈ digits, digit < 64)
    (enough : 2 ≤ digits.length)
    (atMost : digits.length ≤ 4)
    (reads : bytesOfEnding offset symbols digits = .ok bytes) :
    encode bytes =
      digits.map symbol ++ List.replicate (4 - digits.length) padding := by
  match digits with
  | [first, second] =>
      simp only [List.forall_mem_cons] at small
      rw [bytesOfEnding] at reads
      split at reads
      case isTrue noSurplus =>
        cases reads
        exact encode_pair small.1 small.2.1 noSurplus
      case isFalse => cases reads
  | [first, second, third] =>
      simp only [List.forall_mem_cons] at small
      rw [bytesOfEnding] at reads
      split at reads
      case isTrue noSurplus =>
        cases reads
        exact encode_triple small.1 small.2.1 small.2.2.1 noSurplus
      case isFalse => cases reads
  | [first, second, third, fourth] =>
      simp only [List.forall_mem_cons] at small
      cases reads
      exact encode_quad small.1 small.2.1 small.2.2.1 small.2.2.2.1 []
  | [] => simp at enough
  | [first] => simp at enough
  | first :: second :: third :: fourth :: fifth :: rest =>
      simp only [List.length_cons] at atMost
      omega

/-- What follows the symbols of an ending that is read is padding. -/
private theorem eq_replicate_of_noStray
    {rest : List UInt8}
    {count : Nat}
    (enough : ¬ count < 2)
    (noStray :
      ¬ (!rest.isEmpty && (count < 2 || rest.any (· != padding))) = true) :
    rest = List.replicate rest.length padding := by
  refine List.eq_replicate_iff.mpr ⟨rfl, fun byte member => ?_⟩
  have nonempty : rest.isEmpty = false :=
    List.isEmpty_eq_false_iff_exists_mem.mpr ⟨byte, member⟩
  simp only [nonempty, enough, Bool.not_false, decide_false, Bool.false_or,
    Bool.true_and, List.any_eq_true, not_exists, not_and] at noStray
  simpa using noStray byte member

/-- The last symbols of a text are canonical if they can be read. -/
private theorem eq_encode_of_decodeEnding
    {offset : Nat}
    {ending bytes : List UInt8}
    (reads : decodeEnding offset ending = .ok bytes) :
    ending = encode bytes := by
  rw [decodeEnding] at reads
  split at reads
  case isTrue empty =>
    cases reads
    exact List.isEmpty_iff.mp empty
  case isFalse =>
    obtain ⟨digits, readsSymbols, reads⟩ := Outcome.bind_eq_ok.mp reads
    obtain ⟨small, symbols⟩ := values_eq_ok readsSymbols
    have whole :
        ending.takeWhile (· != padding) ++
          ending.dropWhile (· != padding) = ending :=
      List.takeWhile_append_dropWhile
    generalize ending.takeWhile (· != padding) = symbolPart at *
    generalize ending.dropWhile (· != padding) = paddingPart at *
    subst symbols whole
    split at reads
    case isTrue => cases reads
    case isFalse noStray =>
      split at reads
      case isTrue => cases reads
      case isFalse enough =>
        split at reads
        case isTrue => cases reads
        case isFalse four =>
          have onlyPadding := eq_replicate_of_noStray enough noStray
          simp only [List.length_append, List.length_map, Decidable.not_not]
            at four enough
          have paddings : paddingPart.length = 4 - digits.length := by omega
          rw [encode_of_bytesOfEnding small (by omega) (by omega) reads,
            onlyPadding, paddings]

/-- Four symbols at a time are canonical. -/
private theorem eq_encode_of_decodeFrom
    {offset : Nat}
    {text bytes : List UInt8}
    (reads : decodeFrom offset text = .ok bytes) :
    text = encode bytes := by
  induction offset, text using decodeFrom.induct generalizing bytes with
  | case1 offset first second third fourth next rest inductionHypothesis =>
      rw [decodeFrom] at reads
      obtain ⟨digits, readsSymbols, readsDigits⟩ := Outcome.bind_eq_ok.mp reads
      obtain ⟨small, symbols⟩ := values_eq_ok readsSymbols
      obtain ⟨a, _, rfl, rfl, afterFirst⟩ :=
        List.map_eq_cons_iff.mp symbols.symm
      obtain ⟨b, _, rfl, rfl, afterSecond⟩ := List.map_eq_cons_iff.mp afterFirst
      obtain ⟨c, _, rfl, rfl, afterThird⟩ := List.map_eq_cons_iff.mp afterSecond
      obtain ⟨d, _, rfl, rfl, afterFourth⟩ := List.map_eq_cons_iff.mp afterThird
      obtain rfl := List.map_eq_nil_iff.mp afterFourth
      obtain ⟨later, readsLater, rfl⟩ := Outcome.map_eq_ok.mp readsDigits
      simp only [List.forall_mem_cons] at small
      rw [encode_quad small.1 small.2.1 small.2.2.1 small.2.2.2.1,
        ← inductionHypothesis readsLater]
  | case2 offset ending short =>
      rw [decodeFrom] at reads
      · exact eq_encode_of_decodeEnding reads
      · exact short

/-- A text that can be read is the written form of the bytes that are read. -/
theorem eq_encode_of_decode
    {text bytes : List UInt8}
    (reads : decode text = .ok bytes) :
    text = encode bytes := by
  rw [decode] at reads
  split at reads
  case h_1 => cases reads
  case h_2 => exact eq_encode_of_decodeFrom reads

theorem encode_injective
    {bytes other : List UInt8}
    (same : encode bytes = encode other) :
    bytes = other := by
  have reads := decode_encode bytes
  rw [same, decode_encode] at reads
  exact (Except.ok.inj reads).symm

/-- Whole groups of three bytes are written for themselves. -/
theorem encode_append
    {front : List UInt8}
    (whole : front.length % 3 = 0)
    (rest : List UInt8) :
    encode (front ++ rest) = encode front ++ encode rest := by
  induction front using encode.induct with
  | case1 => rfl
  | case2 first => cases whole
  | case3 first second => cases whole
  | case4 first second third later inductionHypothesis =>
      have wholeLater : later.length % 3 = 0 := by
        simp only [List.length_cons] at whole
        omega
      simp only [List.cons_append, encode, inductionHypothesis wholeLater]

/--
If a written form is cut to a shorter written form, then what is read of it
is cut as well. Padding stands only in the last group, which is not whole
after the cut.
-/
theorem exists_append_of_encode_prefix
    {cut bytes : List UInt8}
    (cuts : encode cut <+: encode bytes)
    (shorter : encode cut ≠ encode bytes) :
    ∃ more, more ≠ [] ∧ bytes = cut ++ more := by
  have fewer : (encode cut).length < (encode bytes).length :=
    Nat.lt_of_le_of_ne cuts.length_le fun same =>
      shorter (cuts.eq_of_length same)
  rw [length_encode, length_encode] at fewer
  obtain ⟨front, rest, whole, groups⟩ :
      ∃ front rest,
        bytes = front ++ rest ∧ front.length = (cut.length + 2) / 3 * 3 :=
    ⟨bytes.take ((cut.length + 2) / 3 * 3),
      bytes.drop ((cut.length + 2) / 3 * 3), (List.take_append_drop ..).symm,
      List.length_take_of_le (by omega)⟩
  subst whole
  have sameLength : (encode cut).length = (encode front).length := by
    rw [length_encode, length_encode]
    omega
  have sameForm : encode cut = encode front := by
    rw [encode_append (by omega)] at cuts
    have isFront := List.prefix_of_prefix_length_le cuts (List.prefix_append ..)
      (Nat.le_of_eq sameLength)
    exact isFront.eq_of_length sameLength
  refine ⟨rest, fun nothing => ?_, ?_⟩
  · rw [nothing, List.append_nil] at fewer
    omega
  · rw [encode_injective sameForm]

end DropletClient.Base64
