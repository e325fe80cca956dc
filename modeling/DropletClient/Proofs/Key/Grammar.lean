import DropletClient.Proofs.Key.Integer
import DropletClient.Proofs.Key.NormalForm

namespace DropletClient.PublicKey

/-!
# The grammar of key lines

A line is read as a key exactly if the first part of it that begins like a
payload is the base64 of a label and of the integers that the key is made of.
Bytes behind the last integer are passed over, and so is everything else on
the line.
-/

open Key

/-- A part of a line is the first one that begins like a payload. -/
structure IsPayloadOf (token : List Char) (line : String) : Prop where
  begins : payloadStart <+: token
  first :
    ∃ before after,
      Text.split ' ' (Text.trim line.toList) = before ++ token :: after ∧
        ∀ part ∈ before, ¬ payloadStart <+: part

/--
The payload of a line is the base64 of bytes, but for white space at its end.
-/
def Carries (line : String) (bytes : List UInt8) : Prop :=
  ∃ blanks,
    IsPayloadOf (payloadText bytes ++ blanks) line ∧
      ∀ character ∈ blanks, Text.isBlank character = true

/-- A line spells a key, and a surplus behind its last integer. -/
def Spells (line : String) (key : PublicKey) (surplus : List UInt8) : Prop :=
  ∃ bytes label parts,
    Carries line bytes ∧ Holds bytes label parts surplus ∧
      key.IsMadeOf label parts

variable {line : String} {token : List Char} {bytes surplus : List UInt8}
  {key : PublicKey}

theorem isPayloadOf_iff :
    IsPayloadOf token line ↔ payloadToken? line = some token := by
  have differs :
      ∀ part : List Char,
        (!payloadStart.isPrefixOf part) = true ↔ ¬ payloadStart <+: part := by
    intro part
    rw [Bool.not_eq_true', ← Bool.not_eq_true, List.isPrefixOf_iff_prefix]
  rw [payloadToken?, List.find?_eq_some_iff_append, List.isPrefixOf_iff_prefix]
  simp only [differs]
  constructor
  · rintro ⟨begins, first⟩
    exact ⟨begins, first⟩
  · rintro ⟨begins, first⟩
    exact ⟨begins, first⟩

/-- The payload of a line stands for bytes exactly if it is decoded to them. -/
theorem carries_iff :
    Carries line bytes ↔
      ∃ token,
        payloadToken? line = some token ∧
          Base64.decode (Text.Utf8.encode (Text.trimEnd token)) =
            .ok bytes := by
  constructor
  · rintro ⟨blanks, isPayload, blank⟩
    refine ⟨_, isPayloadOf_iff.mp isPayload, ?_⟩
    rw [Text.trimEnd_append_blanks blank, trimEnd_payloadText,
      decode_payloadText]
  · rintro ⟨token, found, decoded⟩
    obtain ⟨blanks, shape, blank⟩ := Text.exists_blanks_of_trimEnd token
    rw [eq_payloadText_of_decode decoded] at shape
    rw [shape] at found
    exact ⟨blanks, isPayloadOf_iff.mpr found, blank⟩

/-- A line is read as the bytes are that its payload stands for. -/
theorem ofLine_eq_ok_iff :
    ofLine line = .ok key ↔
      ∃ bytes, Carries line bytes ∧ ofBytes bytes = .ok key := by
  constructor
  · intro reads
    obtain ⟨token, bytes, found, decoded, readsBytes⟩ := ofLine_eq_ok reads
    exact ⟨bytes, carries_iff.mpr ⟨token, found, decoded⟩, readsBytes⟩
  · rintro ⟨bytes, carries, readsBytes⟩
    obtain ⟨token, found, decoded⟩ := carries_iff.mp carries
    have payload : payload? line = some (Text.trimEnd token) :=
      congrArg (Option.map Text.trimEnd) found
    rw [ofLine_eq_ofBytes payload decoded, readsBytes]

/-- The payload of a line stands for one sequence of bytes only. -/
theorem Carries.unique
    {other : List UInt8}
    (carries : Carries line bytes)
    (otherwise : Carries line other) :
    bytes = other := by
  obtain ⟨token, found, decoded⟩ := carries_iff.mp carries
  obtain ⟨otherToken, otherFound, otherDecoded⟩ := carries_iff.mp otherwise
  cases Option.some.inj (found.symm.trans otherFound)
  exact Except.ok.inj (decoded.symm.trans otherDecoded)

/-- A line that spells a key has one surplus only. -/
theorem Spells.unique
    {other : List UInt8}
    (spells : Spells line key surplus)
    (otherwise : Spells line key other) :
    surplus = other := by
  obtain ⟨bytes, label, parts, carries, holds, made⟩ := spells
  obtain ⟨_, _, otherParts, otherCarries, otherHolds, otherMade⟩ := otherwise
  cases carries.unique otherCarries
  cases Option.some.inj (made.labelled.symm.trans otherMade.labelled)
  have sameLength : parts.length = otherParts.length := by
    have lengths :=
      congrArg List.length (made.integers.symm.trans otherMade.integers)
    rwa [List.length_map, List.length_map] at lengths
  have fitsLabel := length_textBytes_lt (label_eq made.labelled)
  exact (holds.unique otherHolds sameLength fitsLabel).2

/--
What a payload begins with is not white space, and stays where white space
is removed.
-/
private theorem payloadStart_trimEnd
    (begins : payloadStart <+: token) :
    payloadStart <+: Text.trimEnd token := by
  obtain ⟨rest, whole⟩ := begins
  obtain ⟨blanks, shape, blank⟩ := Text.exists_blanks_of_trimEnd token
  -- the blanks begin behind the start of the payload, since there are none
  -- inside it
  rcases List.append_eq_append_iff.mp (whole.trans shape) with
      ⟨later, trimmed, -⟩ | ⟨cut, begun, blanksShape⟩
  · exact ⟨later, trimmed.symm⟩
  · cases cut with
    | nil => exact ⟨[], by rw [begun, List.append_nil, List.append_nil]⟩
    | cons character others =>
        have inStart : character ∈ payloadStart := by
          rw [begun]
          exact List.mem_append_right _ (List.mem_cons_self ..)
        have inBlanks : character ∈ blanks := by
          rw [blanksShape]
          exact List.mem_cons_self ..
        have visible :
            payloadStart.all (fun letter => !Text.isBlank letter) = true := by
          decide
        have notBlank := List.all_eq_true.mp visible character inStart
        rw [blank character inBlanks] at notBlank
        cases notBlank

/-- A payload is found alone as on its line. -/
private theorem payload?_alone
    (isPayload : IsPayloadOf token line) :
    payload? (String.ofList token) = some (Text.trimEnd token) := by
  obtain ⟨begins, before, after, shape, -⟩ := isPayload
  have isPart : token ∈ Text.split ' ' (Text.trim line.toList) := by
    rw [shape]
    exact List.mem_append_right _ (List.mem_cons_self ..)
  have noSpace := Text.not_mem_of_mem_split isPart
  have noSpaceInTrimmed : ' ' ∉ Text.trimEnd token := by
    obtain ⟨blanks, whole, -⟩ := Text.exists_blanks_of_trimEnd token
    intro member
    rw [whole] at noSpace
    exact noSpace (List.mem_append_left _ member)
  have starts : ∀ character,
      token.head? = some character → Text.isBlank character = false := by
    obtain ⟨rest, rfl⟩ := begins
    intro character isFirst
    cases isFirst
    decide
  have found :
      payloadToken? (String.ofList token) = some (Text.trimEnd token) := by
    have accepted :=
      List.isPrefixOf_iff_prefix.mpr (payloadStart_trimEnd begins)
    rw [payloadToken?, String.toList_ofList, Text.trim_eq_trimEnd starts,
      Text.split_of_not_mem noSpaceInTrimmed, List.find?_cons, accepted]
  have payload := congrArg (Option.map Text.trimEnd) found
  rwa [Option.map_some, Text.trimEnd_trimEnd] at payload

/-- Whatever surrounds its payload, a line is read as the payload alone is. -/
theorem ofLine_eq_ofLine_payload
    (isPayload : IsPayloadOf token line) :
    ofLine line = ofLine (String.ofList token) := by
  have payload : payload? line = some (Text.trimEnd token) :=
    congrArg (Option.map Text.trimEnd) (isPayloadOf_iff.mp isPayload)
  rw [ofLine, ofLine, payload, payload?_alone isPayload]

/--
A line is read as a key exactly if it spells the key, whatever its surplus is;
so the grammar without a surplus is met exactly where there is none. Labels in
front of the payload and comments behind it do not matter.
-/
theorem lines_are_read_by_grammar
    (line : String)
    (key : PublicKey) :
    (ofLine line = .ok key ↔ ∃ surplus, Spells line key surplus) ∧
      ((ofLine line = .ok key ↔ Spells line key []) ↔
        ∀ surplus, Spells line key surplus → surplus = []) ∧
      ∀ token, IsPayloadOf token line →
        ofLine line = ofLine (String.ofList token) := by
  have grammar : ofLine line = .ok key ↔
      ∃ surplus, Spells line key surplus := by
    simp only [ofLine_eq_ok_iff, ofBytes_eq_ok_iff]
    constructor
    · rintro ⟨bytes, carries, label, parts, surplus, holds, made⟩
      exact ⟨surplus, bytes, label, parts, carries, holds, made⟩
    · rintro ⟨surplus, bytes, label, parts, carries, holds, made⟩
      exact ⟨bytes, carries, label, parts, surplus, holds, made⟩
  refine ⟨grammar, ⟨fun exact surplus spells => ?_, fun noSurplus => ?_⟩,
    fun token => ofLine_eq_ofLine_payload⟩
  · exact spells.unique (exact.mp (grammar.mpr ⟨surplus, spells⟩))
  · rw [grammar]
    constructor
    · rintro ⟨surplus, spells⟩
      rwa [← noSurplus surplus spells]
    · intro spells
      exact ⟨[], spells⟩

/--
A byte behind the last component is passed over, although the grammar has no
place for it.
-/
theorem surplus_is_passed_over :
    ofLine "ssh-rsa AAAAB3NzaC1yc2EAAAADAQABAAAAAwDFAQA= user@host" =
        .ok (.rsa ⟨[1, 0, 1], rfl⟩ ⟨[0, 0xC5, 1], rfl⟩) ∧
      ¬ Spells "ssh-rsa AAAAB3NzaC1yc2EAAAADAQABAAAAAwDFAQA= user@host"
        (.rsa ⟨[1, 0, 1], rfl⟩ ⟨[0, 0xC5, 1], rfl⟩) [] := by
  have found :
      payloadToken? "ssh-rsa AAAAB3NzaC1yc2EAAAADAQABAAAAAwDFAQA= user@host" =
        some "AAAAB3NzaC1yc2EAAAADAQABAAAAAwDFAQA=".toList := by
    rfl
  have decoded :
      Base64.decode (Text.Utf8.encode
          (Text.trimEnd "AAAAB3NzaC1yc2EAAAADAQABAAAAAwDFAQA=".toList)) =
        .ok ((textBytes rsaLabel :: [[1, 0, 1], [0, 0xC5, 1]]).flatMap
          Wire.field ++ [0]) := by
    rfl
  have carries := carries_iff.mpr ⟨_, found, decoded⟩
  have holds :
      Holds ((textBytes rsaLabel :: [[1, 0, 1], [0, 0xC5, 1]]).flatMap
        Wire.field ++ [0]) rsaLabel [[1, 0, 1], [0, 0xC5, 1]] [0] :=
    ⟨by decide, rfl⟩
  have made :
      IsMadeOf (.rsa ⟨[1, 0, 1], rfl⟩ ⟨[0, 0xC5, 1], rfl⟩) rsaLabel
        [[1, 0, 1], [0, 0xC5, 1]] :=
    ⟨rfl, rfl, by decide⟩
  constructor
  · exact ofLine_eq_ok_iff.mpr
      ⟨_, carries, ofBytes_eq_ok_iff.mpr ⟨_, _, _, holds, made⟩⟩
  · intro noSurplus
    have same : [(0 : UInt8)] = [] :=
      Spells.unique ⟨_, _, _, carries, holds, made⟩ noSurplus
    cases same

end DropletClient.PublicKey
