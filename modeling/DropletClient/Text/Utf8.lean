namespace DropletClient.Text.Utf8

/-!
# UTF-8

Bytes are read as characters by a machine that remembers at most one unfinished
character. A byte that cannot continue the unfinished character closes it, so a
faulty input yields one gap for each maximal part of a character that it holds.
-/

/-- A character whose first bytes have been read. -/
structure Unfinished where
  value : Nat
  missing : Nat
  lowest : Nat
  highest : Nat
  deriving Repr, DecidableEq

/-- What a byte means where a character may begin. -/
inductive Opening where
  | character (value : Char)
  | unfinished (part : Unfinished)
  | gap
  deriving Repr, DecidableEq

/--
The meaning of a byte at the beginning of a character. The range of the second
byte excludes longer spellings than needed, surrogates, and values above the
last code point.
-/
def opening (byte : UInt8) : Opening :=
  let value := byte.toNat
  if value < 0x80 then .character (Char.ofNat value)
  else if value < 0xC2 then .gap
  else if value < 0xE0 then .unfinished ⟨value - 0xC0, 1, 0x80, 0xBF⟩
  else if value = 0xE0 then .unfinished ⟨0, 2, 0xA0, 0xBF⟩
  else if value = 0xED then .unfinished ⟨0xD, 2, 0x80, 0x9F⟩
  else if value < 0xF0 then .unfinished ⟨value - 0xE0, 2, 0x80, 0xBF⟩
  else if value = 0xF0 then .unfinished ⟨0, 3, 0x90, 0xBF⟩
  else if value < 0xF4 then .unfinished ⟨value - 0xF0, 3, 0x80, 0xBF⟩
  else if value = 0xF4 then .unfinished ⟨4, 3, 0x80, 0x8F⟩
  else .gap

/--
The characters of a byte sequence, with a gap for each maximal part that is
none.
-/
def read : Option Unfinished → List UInt8 → List (Option Char)
  | none, [] => []
  | some _, [] => [none]
  | none, byte :: rest =>
      match opening byte with
      | .character value => some value :: read none rest
      | .unfinished part => read (some part) rest
      | .gap => none :: read none rest
  | some part, byte :: rest =>
      if part.lowest ≤ byte.toNat ∧ byte.toNat ≤ part.highest then
        let value := part.value * 64 + (byte.toNat - 0x80)
        if part.missing ≤ 1 then
          some (Char.ofNat value) :: read none rest
        else
          read (some ⟨value, part.missing - 1, 0x80, 0xBF⟩) rest
      else
        match opening byte with
        | .character value => none :: some value :: read none rest
        | .unfinished next => none :: read (some next) rest
        | .gap => none :: none :: read none rest

/-- The text of a byte sequence without gaps. -/
def decode? (bytes : List UInt8) : Option (List Char) :=
  (read none bytes).mapM id

/--
The text of a byte sequence, with the replacement character in place of
each gap.
-/
def decodeLossy (bytes : List UInt8) : List Char :=
  (read none bytes).map fun character => character.getD '\uFFFD'

/-- A code below 128 as a character. -/
def asciiCharacter (code : UInt8) : Char :=
  Char.ofNat code.toNat

/-- The bytes of a text. -/
def encode (text : List Char) : List UInt8 :=
  text.flatMap String.utf8EncodeChar

/-- Every text without gaps is what replacing gaps would have given. -/
theorem decodeLossy_of_decode?
    {bytes : List UInt8}
    {text : List Char}
    (decoded : decode? bytes = some text) :
    decodeLossy bytes = text := by
  unfold decode? at decoded
  unfold decodeLossy
  generalize read none bytes = characters at decoded ⊢
  induction characters generalizing text with
  | nil => simpa using decoded
  | cons head rest inductionHypothesis =>
      cases head with
      | none => simp at decoded
      | some value =>
          cases restShape : rest.mapM id with
          | none => simp [restShape] at decoded
          | some decodedRest =>
              simp [restShape] at decoded
              simp [← decoded, inductionHypothesis restShape]

end DropletClient.Text.Utf8
