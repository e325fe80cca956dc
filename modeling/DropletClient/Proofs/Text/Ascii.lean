import DropletClient.Text.Utf8

namespace DropletClient.Text.Utf8

/-!
# ASCII text

Codes below 128 are characters of one byte: their bytes are the codes
themselves, and those are read back without gaps. No other byte sequence is read
as ASCII text, and no other text is written with codes below 128.
-/

variable {codes : List UInt8}

private theorem read_ascii
    (ascii : ∀ code ∈ codes, code.toNat < 128) :
    read none codes = codes.map fun code => some (asciiCharacter code) := by
  induction codes with
  | nil => rfl
  | cons code rest inductionHypothesis =>
      obtain ⟨low, lowRest⟩ := List.forall_mem_cons.mp ascii
      have opens : opening code = .character (asciiCharacter code) :=
        if_pos low
      simp only [read, opens, List.map_cons, inductionHypothesis lowRest]

/-- Codes below 128 are read as their characters. -/
theorem decode?_ascii
    (ascii : ∀ code ∈ codes, code.toNat < 128) :
    decode? codes = some (codes.map asciiCharacter) := by
  rw [decode?, read_ascii ascii, List.mapM_map]
  exact List.mapM_pure

theorem toNat_asciiCharacter
    {code : UInt8}
    (low : code.toNat < 128) :
    (asciiCharacter code).toNat = code.toNat := by
  have valid : Nat.isValidChar code.toNat := Or.inl (by omega)
  unfold asciiCharacter Char.ofNat
  rw [dif_pos valid]
  rfl

private theorem encode_asciiCharacter
    {code : UInt8}
    (low : code.toNat < 128) :
    String.utf8EncodeChar (asciiCharacter code) = [code] := by
  have value : (asciiCharacter code).val.toNat = code.toNat :=
    toNat_asciiCharacter low
  have short : (asciiCharacter code).val.toNat ≤ 127 := by omega
  unfold String.utf8EncodeChar
  rw [if_pos short, value, UInt8.ofNat_toNat]

/-- Characters with codes below 128 are written as these codes. -/
theorem encode_ascii
    (ascii : ∀ code ∈ codes, code.toNat < 128) :
    encode (codes.map asciiCharacter) = codes := by
  induction codes with
  | nil => rfl
  | cons code rest inductionHypothesis =>
      obtain ⟨low, lowRest⟩ := List.forall_mem_cons.mp ascii
      have step := inductionHypothesis lowRest
      rw [encode] at step ⊢
      rw [List.map_cons, List.flatMap_cons, encode_asciiCharacter low, step]
      rfl

/-- A longer spelling of a character begins with a byte from 192 on. -/
private theorem exists_lead
    {character : Char}
    (long : ¬ character.val.toNat ≤ 127) :
    ∃ lead rest,
      String.utf8EncodeChar character = lead :: rest ∧ 192 ≤ lead.toNat := by
  unfold String.utf8EncodeChar
  rw [if_neg long]
  split
  · exact ⟨_, _, rfl, by rw [UInt8.toNat_ofNat']; omega⟩
  · split
    · exact ⟨_, _, rfl, by rw [UInt8.toNat_ofNat']; omega⟩
    · exact ⟨_, _, rfl, by rw [UInt8.toNat_ofNat']; omega⟩

private theorem toNat_le_of_ascii
    {character : Char}
    (ascii : ∀ code ∈ String.utf8EncodeChar character, code.toNat < 128) :
    character.val.toNat ≤ 127 := by
  refine Decidable.byContradiction fun long => ?_
  obtain ⟨lead, rest, shape, high⟩ := exists_lead long
  rw [shape] at ascii
  have low := ascii lead (List.mem_cons_self ..)
  omega

/-- A text that is written with codes below 128 consists of their characters. -/
theorem map_encode_of_ascii
    {text : List Char}
    (ascii : ∀ code ∈ encode text, code.toNat < 128) :
    (encode text).map asciiCharacter = text := by
  induction text with
  | nil => rfl
  | cons character rest inductionHypothesis =>
      have bytes : encode (character :: rest) =
          String.utf8EncodeChar character ++ encode rest :=
        List.flatMap_cons
      rw [bytes, List.forall_mem_append] at ascii
      obtain ⟨asciiCharacterBytes, asciiRest⟩ := ascii
      have short := toNat_le_of_ascii asciiCharacterBytes
      have oneByte :
          String.utf8EncodeChar character = [UInt8.ofNat character.toNat] := by
        unfold String.utf8EncodeChar
        rw [if_pos short]
        rfl
      have code : (UInt8.ofNat character.toNat).toNat = character.toNat := by
        rw [UInt8.toNat_ofNat']
        exact Nat.mod_eq_of_lt (by change character.val.toNat < 2 ^ 8; omega)
      rw [bytes, oneByte, List.map_append, inductionHypothesis asciiRest,
        List.map_singleton, asciiCharacter, code, Char.ofNat_toNat]
      rfl

namespace Unfinished

/-- The least value that a part can still reach. -/
def least (part : Unfinished) : Nat :=
  (part.value * 64 + (part.lowest - 0x80)) * Nat.pow 64 (part.missing - 1)

/-- The first value beyond those that a part can still reach. -/
def beyond (part : Unfinished) : Nat :=
  (part.value * 64 + (part.highest - 0x80) + 1) * Nat.pow 64 (part.missing - 1)

/--
Every value that a part can still reach is a character that needs more than one
byte: it is no surrogate, and not beyond the last code point.
-/
structure IsWide (part : Unfinished) : Prop where
  continuing : 0x80 ≤ part.lowest
  wide : 0x80 ≤ part.least
  valid : part.beyond ≤ 0xD800 ∨ 0xE000 ≤ part.least ∧ part.beyond ≤ 0x110000

end Unfinished

private theorem isWide_of_opening
    {byte : UInt8}
    {part : Unfinished}
    (opens : opening byte = .unfinished part) :
    part.IsWide := by
  have bound := byte.toNat_lt
  simp only [opening] at opens
  repeat' split at opens
  all_goals simp only [Opening.unfinished.injEq, reduceCtorEq] at opens
  all_goals subst opens
  all_goals
    refine ⟨?_, ?_, ?_⟩
    all_goals simp only [Unfinished.least, Unfinished.beyond, Nat.reduceSub,
      Nat.pow_eq, Nat.reducePow]
    all_goals omega

private theorem ascii_of_opening
    {byte : UInt8}
    {character : Char}
    (opens : opening byte = .character character) :
    byte.toNat < 128 ∧ character = asciiCharacter byte := by
  simp only [opening] at opens
  split at opens
  case isTrue low => exact ⟨low, (Opening.character.inj opens).symm⟩
  case isFalse =>
    repeat' split at opens
    all_goals cases opens

/-- A byte that continues a part keeps it wide. -/
private theorem Unfinished.IsWide.continued
    {part : Unfinished}
    {code : Nat}
    (isWide : part.IsWide)
    (fromLowest : part.lowest ≤ code)
    (toHighest : code ≤ part.highest)
    (goesOn : 1 < part.missing) :
    IsWide ⟨part.value * 64 + (code - 0x80), part.missing - 1, 0x80, 0xBF⟩ := by
  obtain ⟨continuing, wide, valid⟩ := isWide
  have power : Nat.pow 64 (part.missing - 1) =
      64 * Nat.pow 64 (part.missing - 1 - 1) := by
    obtain ⟨count, isCount⟩ : ∃ count, part.missing - 1 = count + 1 :=
      ⟨part.missing - 2, by omega⟩
    rw [isCount]
    exact Nat.pow_succ'
  have least :
      part.least ≤
        Unfinished.least
          ⟨part.value * 64 + (code - 0x80), part.missing - 1, 0x80, 0xBF⟩ := by
    rw [Unfinished.least, Unfinished.least, power, ← Nat.mul_assoc]
    exact Nat.mul_le_mul_right _ (by dsimp only; omega)
  have beyond :
      Unfinished.beyond
          ⟨part.value * 64 + (code - 0x80), part.missing - 1, 0x80, 0xBF⟩ ≤
        part.beyond := by
    rw [Unfinished.beyond, Unfinished.beyond, power, ← Nat.mul_assoc]
    exact Nat.mul_le_mul_right _ (by dsimp only; omega)
  exact ⟨Nat.le_refl 0x80, by omega, by omega⟩

/-- The last byte of a wide part closes a character that is not ASCII. -/
private theorem Unfinished.IsWide.closed
    {part : Unfinished}
    {code : Nat}
    (isWide : part.IsWide)
    (fromLowest : part.lowest ≤ code)
    (toHighest : code ≤ part.highest)
    (closes : part.missing ≤ 1) :
    128 ≤ (Char.ofNat (part.value * 64 + (code - 0x80))).toNat := by
  obtain ⟨continuing, wide, valid⟩ := isWide
  have power : Nat.pow 64 (part.missing - 1) = 1 := by
    have isLast : part.missing - 1 = 0 := by omega
    exact (congrArg (Nat.pow 64) isLast).trans (Nat.pow_zero 64)
  simp only [Unfinished.least, Unfinished.beyond, power, Nat.mul_one]
    at wide valid
  have isCharacter : Nat.isValidChar (part.value * 64 + (code - 0x80)) := by
    unfold Nat.isValidChar
    omega
  unfold Char.ofNat
  rw [dif_pos isCharacter]
  change 128 ≤ part.value * 64 + (code - 0x80)
  omega

/-- Where a wide part is read, something comes out that is not ASCII. -/
private theorem exists_wide_of_read
    {part : Unfinished}
    (isWide : part.IsWide)
    (bytes : List UInt8) :
    ∃ entry ∈ read (some part) bytes,
      ∀ character ∈ entry, 128 ≤ character.toNat := by
  induction bytes generalizing part with
  | nil =>
      exact ⟨none, List.mem_singleton.mpr rfl, fun _ member => by cases member⟩
  | cons byte rest inductionHypothesis =>
      rw [read]
      split
      case isTrue continues =>
        obtain ⟨fromLowest, toHighest⟩ := continues
        split
        case isTrue closes =>
          refine ⟨_, List.mem_cons_self .., fun character member => ?_⟩
          rw [← Option.some.inj member]
          exact isWide.closed fromLowest toHighest closes
        case isFalse goesOn =>
          exact inductionHypothesis
            (isWide.continued fromLowest toHighest (by omega))
      case isFalse =>
        have gap : ∀ character ∈ (none : Option Char), 128 ≤ character.toNat :=
          fun _ member => by cases member
        split
        · exact ⟨none, List.mem_cons_self .., gap⟩
        · exact ⟨none, List.mem_cons_self .., gap⟩
        · exact ⟨none, List.mem_cons_self .., gap⟩

/-- What is read as ASCII characters without gaps consists of their codes. -/
private theorem ascii_of_read
    {bytes : List UInt8}
    (ascii : ∀ entry ∈ read none bytes,
      ∃ character ∈ entry, character.toNat < 128) :
    ∀ code ∈ bytes, code.toNat < 128 := by
  induction bytes with
  | nil => exact List.forall_mem_nil _
  | cons byte rest inductionHypothesis =>
      rw [read] at ascii
      cases opens : opening byte with
      | character character =>
          simp only [opens, List.forall_mem_cons] at ascii
          exact List.forall_mem_cons.mpr
            ⟨(ascii_of_opening opens).1, inductionHypothesis ascii.2⟩
      | unfinished part =>
          simp only [opens] at ascii
          obtain ⟨entry, member, notAscii⟩ :=
            exists_wide_of_read (isWide_of_opening opens) rest
          obtain ⟨character, isEntry, low⟩ := ascii entry member
          exact absurd (notAscii character isEntry) (by omega)
      | gap =>
          simp only [opens, List.forall_mem_cons] at ascii
          obtain ⟨character, isEntry, -⟩ := ascii.1
          cases isEntry

private theorem entries_of_decode?
    {bytes : List UInt8}
    {text : List Char}
    (decoded : decode? bytes = some text) :
    read none bytes = text.map some := by
  unfold decode? at decoded
  generalize read none bytes = entries at decoded ⊢
  induction entries generalizing text with
  | nil =>
      cases decoded
      rfl
  | cons entry rest inductionHypothesis =>
      rw [List.mapM_cons] at decoded
      obtain ⟨character, isEntry, decodedRest⟩ :=
        Option.bind_eq_some_iff.mp decoded
      obtain ⟨later, isRest, whole⟩ := Option.bind_eq_some_iff.mp decodedRest
      rw [← Option.some.inj whole, List.map_cons, inductionHypothesis isRest,
        show entry = some character from isEntry]

/--
A byte sequence that is read as ASCII text consists of the codes of the text.
-/
theorem eq_encode_of_decode?
    {bytes : List UInt8}
    {text : List Char}
    (decoded : decode? bytes = some text)
    (ascii : ∀ character ∈ text, character.toNat < 128) :
    bytes = encode text := by
  have entries : read none bytes = text.map some := entries_of_decode? decoded
  have low : ∀ code ∈ bytes, code.toNat < 128 := by
    refine ascii_of_read fun entry member => ?_
    rw [entries] at member
    obtain ⟨character, isCharacter, rfl⟩ := List.mem_map.mp member
    exact ⟨character, rfl, ascii character isCharacter⟩
  have again := (decode?_ascii low).symm.trans decoded
  rw [← Option.some.inj again, encode_ascii low]

end DropletClient.Text.Utf8
