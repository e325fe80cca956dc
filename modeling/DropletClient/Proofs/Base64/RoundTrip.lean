import DropletClient.Base64

namespace DropletClient.Base64

/-!
# Writing bytes in base64 and reading them back

Every byte sequence has a written form, and reading the written form gives the
bytes back. Written forms consist of symbols and padding only.
-/

/-- A symbol that stands for a value. -/
def IsSymbol (byte : UInt8) : Prop :=
  ∃ value < 64, byte = symbol value

theorem value?_symbol
    {value : Nat}
    (small : value < 64) :
    value? (symbol value) = some value := by
  have checked : ∀ digit : Fin 64,
      value? (symbol digit.val) = some digit.val := by
    decide
  exact checked ⟨value, small⟩

private theorem isSymbol_of_mem_map
    {digits : List Nat}
    {byte : UInt8}
    (small : ∀ digit ∈ digits, digit < 64)
    (member : byte ∈ digits.map symbol) :
    IsSymbol byte := by
  obtain ⟨digit, digitMember, rfl⟩ := List.mem_map.mp member
  exact ⟨digit, small digit digitMember, rfl⟩

theorem IsSymbol.ne_padding
    {byte : UInt8}
    (isSymbol : IsSymbol byte) :
    byte ≠ padding := by
  obtain ⟨value, small, rfl⟩ := isSymbol
  intro isPadding
  have stands := value?_symbol small
  rw [isPadding] at stands
  cases stands

theorem values_symbols
    {digits : List Nat}
    (small : ∀ digit ∈ digits, digit < 64)
    (offset : Nat) :
    values offset (digits.map symbol) = .ok digits := by
  induction digits generalizing offset with
  | nil => rfl
  | cons digit rest inductionHypothesis =>
      obtain ⟨smallDigit, smallRest⟩ := List.forall_mem_cons.mp small
      rw [List.map_cons, values, value?_symbol smallDigit]
      simp only [inductionHypothesis smallRest]
      rfl

/--
The six leading bits of a byte, and the two others in front of those of the
next byte.
-/
private theorem ofNat_leading
    (first : UInt8)
    {next : Nat}
    (small : next < 16) :
    UInt8.ofNat (first.toNat / 4 * 4 + (first.toNat % 4 * 16 + next) / 16) =
      first := by
  have whole : first.toNat / 4 * 4 + (first.toNat % 4 * 16 + next) / 16 =
      first.toNat := by
    omega
  rw [whole, UInt8.ofNat_toNat]

/--
The four leading bits of a byte, and the four others in front of those of the
next byte.
-/
private theorem ofNat_middle
    (second : UInt8)
    {before next : Nat}
    (small : next < 4) :
    UInt8.ofNat
        ((before * 16 + second.toNat / 16) % 16 * 16 +
          (second.toNat % 16 * 4 + next) / 4) =
      second := by
  have bound := second.toNat_lt
  have whole :
      (before * 16 + second.toNat / 16) % 16 * 16 +
          (second.toNat % 16 * 4 + next) / 4 =
        second.toNat := by
    omega
  rw [whole, UInt8.ofNat_toNat]

/-- The two leading bits of a byte, and the six others. -/
private theorem ofNat_trailing
    (third : UInt8)
    {before : Nat} :
    UInt8.ofNat ((before * 4 + third.toNat / 64) % 4 * 64 + third.toNat % 64) =
      third := by
  have bound := third.toNat_lt
  have whole :
      (before * 4 + third.toNat / 64) % 4 * 64 + third.toNat % 64 =
        third.toNat := by
    omega
  rw [whole, UInt8.ofNat_toNat]

/-- The values of three bytes are the values of these bytes again. -/
private theorem bytesOfQuad_split
    (first second third : UInt8) :
    bytesOfQuad (first.toNat / 4) (first.toNat % 4 * 16 + second.toNat / 16)
        (second.toNat % 16 * 4 + third.toNat / 64) (third.toNat % 64) =
      [first, second, third] := by
  have boundSecond := second.toNat_lt
  have boundThird := third.toNat_lt
  rw [bytesOfQuad, ofNat_leading first (by omega),
    ofNat_middle second (by omega), ofNat_trailing third]

/--
Two symbols or more that are padded to four stand for the bytes of their values.
-/
private theorem decodeEnding_padded
    {digits : List Nat}
    {paddings : Nat}
    (small : ∀ digit ∈ digits, digit < 64)
    (enough : 2 ≤ digits.length)
    (four : digits.length + paddings = 4)
    (offset : Nat) :
    decodeEnding offset (digits.map symbol ++ List.replicate paddings padding) =
      bytesOfEnding offset (digits.map symbol) digits := by
  have noPadding : ∀ byte ∈ digits.map symbol, (byte != padding) = true := by
    intro byte member
    simpa using (isSymbol_of_mem_map small member).ne_padding
  have symbols :
      (digits.map symbol ++ List.replicate paddings padding).takeWhile
          (· != padding) =
        digits.map symbol := by
    rw [List.takeWhile_append_of_pos noPadding, List.takeWhile_replicate]
    simp
  have rest :
      (digits.map symbol ++ List.replicate paddings padding).dropWhile
          (· != padding) =
        List.replicate paddings padding := by
    rw [List.dropWhile_append_of_pos noPadding, List.dropWhile_replicate]
    simp
  have length :
      (digits.map symbol ++ List.replicate paddings padding).length = 4 := by
    simpa using four
  have notEmpty :
      (digits.map symbol ++ List.replicate paddings padding).isEmpty =
        false := by
    rw [List.isEmpty_eq_false_iff_exists_mem]
    exact List.exists_mem_of_length_pos (by omega)
  have notShort : ¬ (digits.map symbol).length < 2 := by
    rw [List.length_map]
    omega
  have onlyPadding :
      (List.replicate paddings padding).any (· != padding) = false := by
    simp
  unfold decodeEnding
  simp only [notEmpty, symbols, rest, values_symbols small, length, onlyPadding,
    notShort, decide_false, Bool.or_false, Bool.and_false, Bool.false_eq_true,
    ne_eq, not_true_eq_false, if_false]
  rfl

private theorem pair_small
    (first : UInt8) :
    ∀ digit ∈ [first.toNat / 4, first.toNat % 4 * 16], digit < 64 := by
  have bound := first.toNat_lt
  simp only [List.forall_mem_cons, List.not_mem_nil, false_implies,
    implies_true, and_true]
  omega

private theorem triple_small
    (first second : UInt8) :
    ∀ digit ∈
        [first.toNat / 4, first.toNat % 4 * 16 + second.toNat / 16,
          second.toNat % 16 * 4],
      digit < 64 := by
  have boundFirst := first.toNat_lt
  have boundSecond := second.toNat_lt
  simp only [List.forall_mem_cons, List.not_mem_nil, false_implies,
    implies_true, and_true]
  omega

private theorem quad_small
    (first second third : UInt8) :
    ∀ digit ∈
        [first.toNat / 4, first.toNat % 4 * 16 + second.toNat / 16,
          second.toNat % 16 * 4 + third.toNat / 64, third.toNat % 64],
      digit < 64 := by
  have boundFirst := first.toNat_lt
  have boundSecond := second.toNat_lt
  have boundThird := third.toNat_lt
  simp only [List.forall_mem_cons, List.not_mem_nil, false_implies,
    implies_true, and_true]
  omega

private theorem exists_encode_cons
    (byte : UInt8)
    (rest : List UInt8) :
    ∃ next later, encode (byte :: rest) = next :: later := by
  cases rest with
  | nil => exact ⟨_, _, rfl⟩
  | cons second rest => cases rest <;> exact ⟨_, _, rfl⟩

/--
A written form is read from every offset on as the bytes that were written.
-/
theorem decodeFrom_encode
    (bytes : List UInt8)
    (offset : Nat) :
    decodeFrom offset (encode bytes) = .ok bytes := by
  induction bytes using encode.induct generalizing offset with
  | case1 => rfl
  | case2 first =>
      have surplus : first.toNat % 4 * 16 % 16 = 0 := by omega
      refine Eq.trans
        (@decodeEnding_padded _ 2 (pair_small first) (by simp) rfl offset) ?_
      rw [bytesOfEnding, if_pos surplus, ← Nat.add_zero (first.toNat % 4 * 16),
        ofNat_leading first (by omega)]
  | case3 first second =>
      have bound := second.toNat_lt
      have surplus : second.toNat % 16 * 4 % 4 = 0 := by omega
      refine Eq.trans (@decodeEnding_padded _ 1 (triple_small first second)
        (by simp) rfl offset) ?_
      rw [bytesOfEnding, if_pos surplus, ofNat_leading first (by omega),
        ← Nat.add_zero (second.toNat % 16 * 4), ofNat_middle second (by omega)]
  | case4 first second third rest inductionHypothesis =>
      have small := quad_small first second third
      cases rest with
      | nil =>
          refine Eq.trans
            (@decodeEnding_padded _ 0 small (by simp) rfl offset) ?_
          rw [bytesOfEnding, bytesOfQuad_split]
      | cons byte rest =>
          obtain ⟨next, later, shape⟩ := exists_encode_cons byte rest
          have reads := inductionHypothesis (offset + 4)
          have quad := values_symbols small offset
          simp only [List.map_cons, List.map_nil] at quad
          rw [shape] at reads
          rw [encode, shape, decodeFrom, quad, reads]
          change Except.ok (bytesOfQuad _ _ _ _ ++ _) = _
          rw [bytesOfQuad_split]
          rfl

private theorem isSymbol_or_padding
    {digits : List Nat}
    {byte : UInt8}
    (small : ∀ digit ∈ digits, digit < 64)
    (paddings : Nat)
    (member : byte ∈ digits.map symbol ++ List.replicate paddings padding) :
    IsSymbol byte ∨ byte = padding := by
  rcases List.mem_append.mp member with inSymbols | inPadding
  · exact .inl (isSymbol_of_mem_map small inSymbols)
  · exact .inr (List.eq_of_mem_replicate inPadding)

/-- A written form consists of symbols and padding. -/
theorem mem_encode
    {bytes : List UInt8}
    {byte : UInt8}
    (member : byte ∈ encode bytes) :
    IsSymbol byte ∨ byte = padding := by
  induction bytes using encode.induct with
  | case1 => cases member
  | case2 first => exact isSymbol_or_padding (pair_small first) 2 member
  | case3 first second =>
      exact isSymbol_or_padding (triple_small first second) 1 member
  | case4 first second third rest inductionHypothesis =>
      have quad :
          encode (first :: second :: third :: rest) =
            [first.toNat / 4, first.toNat % 4 * 16 + second.toNat / 16,
                second.toNat % 16 * 4 + third.toNat / 64,
                  third.toNat % 64].map symbol ++
              encode rest := by
        rw [encode]
        rfl
      rw [quad] at member
      rcases List.mem_append.mp member with inQuad | inRest
      · exact .inl (isSymbol_of_mem_map (quad_small first second third) inQuad)
      · exact inductionHypothesis inRest

/--
A written form has four symbols, some of which may be padding, for three bytes.
-/
theorem length_encode
    (bytes : List UInt8) :
    (encode bytes).length = (bytes.length + 2) / 3 * 4 := by
  induction bytes using encode.induct with
  | case1 => rfl
  | case2 first => simp [encode]
  | case3 first second => simp [encode]
  | case4 first second third rest inductionHypothesis =>
      simp only [encode, List.length_cons, inductionHypothesis]
      omega

/-- Reading gives back the bytes that were written. -/
theorem decode_encode
    (bytes : List UInt8) :
    decode (encode bytes) = .ok bytes := by
  have complete : (encode bytes).length % 4 = 0 := by
    rw [length_encode]
    omega
  have noStray : strayLastByte? (encode bytes) = none := by
    unfold strayLastByte?
    cases (encode bytes).getLast? with
    | none => rfl
    | some last => simp [complete]
  rw [decode, noStray]
  exact decodeFrom_encode bytes 0

end DropletClient.Base64
