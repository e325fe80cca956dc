import DropletClient.Json.Printer
import DropletClient.Proofs.Json.Lexeme
import DropletClient.Proofs.Text.Hexadecimal

namespace DropletClient.Json

/-!
# Written texts are read back

A text that is written between quotes, with escapes for what needs them, is
scanned as the token of this text, whatever follows it: `scan_writtenText`.
-/

private theorem lt_space_iff
    (character : Char) :
    character < ' ' ↔ character.toNat < 32 :=
  Iff.rfl

/-- A control character is read back from the four digits of its escape. -/
private theorem scanFrom_controlEscape
    {character : Char}
    (isControl : character < ' ')
    (read rest : List Char) :
    scanFrom (.text read) (controlEscape character ++ rest) =
      scanFrom (.text (character :: read)) rest := by
  have small : character.toNat < 32 := (lt_space_iff character).mp isControl
  have readsHigh :
      Text.hexValue? (Text.hexDigit (character.toNat / 16)) =
        some (character.toNat / 16) :=
    Text.hexValue?_hexDigit (by omega)
  have readsLow :
      Text.hexValue? (Text.hexDigit (character.toNat % 16)) =
        some (character.toNat % 16) :=
    Text.hexValue?_hexDigit (by omega)
  have whole :
      (character.toNat / 16) * 16 + character.toNat % 16 = character.toNat :=
    Nat.div_add_mod' character.toNat 16
  have high :
      step (.codeUnit read none 0 2) (Text.hexDigit (character.toNat / 16)) =
        some ([], .codeUnit read none (character.toNat / 16) 3) := by
    simp [step, readsHigh]
  have low :
      step (.codeUnit read none (character.toNat / 16) 3)
          (Text.hexDigit (character.toNat % 16)) =
        some ([], .text (character :: read)) := by
    have alone : isLeading character.toNat = false ∧
        isTrailing character.toNat = false := by
      simp [isLeading, isTrailing]
      omega
    simp [step, readsLow, whole, afterCodeUnit, alone]
  have backslash : step (.text read) '\\' = some ([], .escape read) := rfl
  have codeUnit :
      step (.escape read) 'u' = some ([], .codeUnit read none 0 0) :=
    rfl
  have firstZero :
      step (.codeUnit read none 0 0) '0' = some ([], .codeUnit read none 0 1) :=
    rfl
  have secondZero :
      step (.codeUnit read none 0 1) '0' = some ([], .codeUnit read none 0 2) :=
    rfl
  simp only [controlEscape, List.cons_append, List.nil_append]
  rw [scanFrom_goes_on backslash, scanFrom_goes_on codeUnit,
    scanFrom_goes_on firstZero, scanFrom_goes_on secondZero,
    scanFrom_goes_on high, scanFrom_goes_on low]

/-- A character is read back from the way in which it is written. -/
theorem scanFrom_writtenCharacter
    (character : Char)
    (read rest : List Char) :
    scanFrom (.text read) (writtenCharacter character ++ rest) =
      scanFrom (.text (character :: read)) rest := by
  have backslash : step (.text read) '\\' = some ([], .escape read) := rfl
  have escaped
      {letter meaning : Char}
      (stands :
        step (.escape read) letter = some ([], .text (meaning :: read))) :
      scanFrom (.text read) (['\\', letter] ++ rest) =
        scanFrom (.text (meaning :: read)) rest := by
    rw [List.cons_append, List.cons_append, scanFrom_goes_on backslash,
      scanFrom_goes_on stands]
    rfl
  unfold writtenCharacter
  split
  case h_1 => exact escaped rfl
  case h_2 => exact escaped rfl
  case h_3 => exact escaped rfl
  case h_4 => exact escaped rfl
  case h_5 => exact escaped rfl
  case h_6 noQuote noBackslash _ _ _ =>
    split
    case isTrue isControl => exact scanFrom_controlEscape isControl read rest
    case isFalse visible =>
      have plain : step (.text read) character =
          some ([], .text (character :: read)) := by
        rw [step, if_neg (by simpa using noQuote),
          if_neg (by simpa using noBackslash), if_neg visible]
      exact scanFrom_goes_on plain rest

/-- A written text is scanned as the token of this text, whatever follows it. -/
theorem scan_writtenText
    (text : String)
    (following : List Char) :
    scan (writtenText text ++ following) =
      scanAfter (some (.text text)) following := by
  have inside (characters read : List Char) :
      scanFrom (.text read)
          (characters.flatMap writtenCharacter ++ '"' :: following) =
        scanAfter (some (.text (String.ofList (read.reverse ++ characters))))
          following := by
    induction characters generalizing read with
    | nil =>
        have closes :
            step (.text read) '"' =
              some ([.text (String.ofList read.reverse)], .between) :=
          rfl
        rw [List.flatMap_nil, List.nil_append, List.append_nil,
          scanFrom_cons, closes]
        rfl
    | cons character later inductionHypothesis =>
        rw [List.flatMap_cons, List.append_assoc, scanFrom_writtenCharacter,
          inductionHypothesis, List.reverse_cons, List.append_assoc]
        rfl
  have opens : step .between '"' = some ([], .text []) := rfl
  have shape :
      writtenText text ++ following =
        '"' :: (text.toList.flatMap writtenCharacter ++ '"' :: following) := by
    simp [writtenText]
  rw [shape, scan, scanFrom_goes_on opens, inside, List.reverse_nil,
    List.nil_append, String.ofList_toList]

end DropletClient.Json
