import DropletClient.Proofs.Base64.Canonical
import DropletClient.Proofs.Key.Reading

namespace DropletClient.PublicKey

/-!
# The normal form of key lines

A key that was read is written with the label of its type, the shortest fields
and nothing behind them. The payload stays as it was exactly if it had this
form before.
-/

open Key

/-- What is stored in the blob that the payload of a line stands for. -/
structure Stores
    (line : String)
    (token : List Char)
    (label : String)
    (parts : List (List UInt8))
    (surplus : List UInt8) :
    Prop where
  found : payloadToken? line = some token
  blob :
    ∃ bytes,
      Base64.decode (Text.Utf8.encode (Text.trimEnd token)) = .ok bytes ∧
        Holds bytes label parts surplus

variable {line label : String} {key : PublicKey} {bytes surplus : List UInt8}
  {token : List Char} {parts : List (List UInt8)}

/-- Only one text is read as given bytes. -/
theorem eq_payloadText_of_decode
    {payload : List Char}
    (decoded : Base64.decode (Text.Utf8.encode payload) = .ok bytes) :
    payload = payloadText bytes := by
  have canonical := Base64.eq_encode_of_decode decoded
  have ascii : ∀ code ∈ Text.Utf8.encode payload, code.toNat < 128 := by
    rw [canonical]
    exact fun code member => (visible_of_mem_encode member).1
  rw [payloadText, ← canonical, Text.Utf8.map_encode_of_ascii ascii]

theorem payloadText_injective
    {other : List UInt8}
    (same : payloadText bytes = payloadText other) :
    bytes = other := by
  have reads := decode_payloadText bytes
  rw [same, decode_payloadText] at reads
  exact (Except.ok.inj reads).symm

theorem ofLine_eq_ok
    (reads : ofLine line = .ok key) :
    ∃ token bytes,
      payloadToken? line = some token ∧
        Base64.decode (Text.Utf8.encode (Text.trimEnd token)) = .ok bytes ∧
        ofBytes bytes = .ok key := by
  have payloadOfToken : payload? line = (payloadToken? line).map Text.trimEnd :=
    rfl
  rw [ofLine, payloadOfToken] at reads
  cases found : payloadToken? line with
  | none =>
      rw [found] at reads
      cases reads
  | some token =>
      rw [found] at reads
      dsimp only [Option.map_some] at reads
      cases decoded : Base64.decode (Text.Utf8.encode (Text.trimEnd token)) with
      | error fault =>
          rw [decoded] at reads
          cases reads
      | ok bytes =>
          rw [decoded] at reads
          exact ⟨token, bytes, rfl, decoded, reads⟩

/--
The written payload holds the fields without redundant zeros, and no surplus.
-/
theorem holds_payloadBytes
    (holds : Holds bytes label parts surplus)
    (shortened :
      key.components.map (fun component => component.2.bytes) =
        parts.map Component.dropRedundantZeros) :
    Holds (payloadBytes label key) label
      (parts.map Component.dropRedundantZeros) [] := by
  constructor
  · intro part member
    obtain ⟨long, longMember, rfl⟩ := List.mem_map.mp member
    exact Nat.lt_of_le_of_lt (Component.length_dropRedundantZeros_le long)
      (holds.fits long longMember)
  · rw [payloadBytes, shortened, List.append_nil]

theorem fits_of_shortened
    (holds : Holds bytes label parts surplus)
    (shortened :
      key.components.map (fun component => component.2.bytes) =
        parts.map Component.dropRedundantZeros) :
    ∀ component ∈ key.components,
      component.2.bytes.length < Wire.lengthLimit := by
  intro component member
  have fits := (holds_payloadBytes holds shortened).fits
  rw [← shortened] at fits
  exact fits component.2.bytes (List.mem_map_of_mem member)

/--
The payload stays the same exactly if it had no redundant zeros and no surplus.
-/
theorem payloadBytes_eq_iff
    (labelled : key.label? = some label)
    (holds : Holds bytes label parts surplus)
    (shortened :
      key.components.map (fun component => component.2.bytes) =
        parts.map Component.dropRedundantZeros) :
    payloadBytes label key = bytes ↔
      (∀ part ∈ parts, redundantZero part = false) ∧ surplus = [] := by
  constructor
  · intro same
    have fitsLabel := length_textBytes_lt (label_eq labelled)
    have written := holds_payloadBytes holds shortened
    rw [same] at written
    have sameLength :
        parts.length = (parts.map Component.dropRedundantZeros).length :=
      (List.length_map ..).symm
    obtain ⟨whole, noSurplus⟩ := holds.unique written sameLength fitsLabel
    refine ⟨fun part member => ?_, noSurplus⟩
    rw [whole, ← shortened] at member
    obtain ⟨component, -, rfl⟩ := List.mem_map.mp member
    exact component.2.minimal
  · rintro ⟨minimal, rfl⟩
    have whole : parts.map Component.dropRedundantZeros = parts :=
      calc
        parts.map Component.dropRedundantZeros = parts.map id :=
          List.map_congr_left fun part member =>
            Component.dropRedundantZeros_eq_self (minimal part member)
        _ = parts := List.map_id parts
    rw [payloadBytes, shortened, whole, holds.framed, List.append_nil]

/--
A key that was read from a line is written again, as a label, a payload and a
comment. The label is the type that the blob of the line stores, and the written
line is read as the key again. The payload is that of the line, but for white
space at its end, exactly if no field of the blob has a redundant leading zero
and nothing follows the last one. In every case the fields that are written
denote the same integers.
-/
theorem exists_normal_form
    (reads : ofLine line = .ok key) :
    ∃ token label parts surplus,
      Stores line token label parts surplus ∧
        parts.length = key.components.length ∧
        ∃ written payload,
          key.toLine = .ok written ∧
            Text.split ' ' written.toList =
              [label.toList, payload, comment.toList] ∧
            ofLine written = .ok key ∧
            (payload = Text.trimEnd token ↔
              (∀ part ∈ parts, redundantZero part = false) ∧ surplus = []) ∧
            ∃ shortest,
              Stores written payload label shortest [] ∧
                shortest.map signedValue = parts.map signedValue := by
  obtain ⟨token, bytes, found, decoded, readsBytes⟩ := ofLine_eq_ok reads
  obtain ⟨label, parts, surplus, labelled, holds, shortened, positive⟩ :=
    exists_holds_of_ofBytes readsBytes
  have fits := fits_of_shortened holds shortened
  have sameLength : parts.length = key.components.length := by
    have lengths := congrArg List.length shortened
    rw [List.length_map, List.length_map] at lengths
    exact lengths.symm
  have readsAgain :
      ofLine (lineWith label (payloadBytes label key)) = .ok key := by
    rw [ofLine_lineWith labelled fits]
    exact readBack_eq_ok.mpr positive
  have samePayload :
      payloadText (payloadBytes label key) = Text.trimEnd token ↔
        payloadBytes label key = bytes := by
    rw [eq_payloadText_of_decode decoded]
    exact ⟨payloadText_injective, congrArg payloadText⟩
  have stores :
      Stores (lineWith label (payloadBytes label key))
        (payloadText (payloadBytes label key)) label
        (parts.map Component.dropRedundantZeros) [] := by
    refine ⟨payloadToken?_lineWith labelled, payloadBytes label key, ?_, ?_⟩
    · rw [trimEnd_payloadText, decode_payloadText]
    · exact holds_payloadBytes holds shortened
  have sameIntegers :
      (parts.map Component.dropRedundantZeros).map signedValue =
        parts.map signedValue := by
    rw [List.map_map]
    exact List.map_congr_left fun part _ =>
      Component.signedValue_dropRedundantZeros part
  exact
    ⟨token, label, parts, surplus, ⟨found, bytes, decoded, holds⟩, sameLength,
      lineWith label (payloadBytes label key),
        payloadText (payloadBytes label key),
      toLine_eq labelled fits, split_lineWith labelled _, readsAgain,
      samePayload.trans (payloadBytes_eq_iff labelled holds shortened), _,
        stores, sameIntegers⟩

/--
A redundant zero and a byte behind the last field are gone when the key is
written again.
-/
theorem exists_normal_form_padded :
    ofLine "AAAAB3NzaC1yc2EAAAAEAAEAAQAAAAMAxQEA" =
        .ok (.rsa ⟨[1, 0, 1], rfl⟩ ⟨[0, 0xC5, 1], rfl⟩) ∧
      ∃ token label parts surplus,
        Stores "AAAAB3NzaC1yc2EAAAAEAAEAAQAAAAMAxQEA" token label
            parts surplus ∧
          ∃ written payload,
            (PublicKey.rsa ⟨[1, 0, 1], rfl⟩ ⟨[0, 0xC5, 1], rfl⟩).toLine =
                .ok written ∧
              (payload = Text.trimEnd token ↔
                (∀ part ∈ parts, redundantZero part = false) ∧
                  surplus = []) := by
  have reads :
      ofLine "AAAAB3NzaC1yc2EAAAAEAAEAAQAAAAMAxQEA" =
        .ok (.rsa ⟨[1, 0, 1], rfl⟩ ⟨[0, 0xC5, 1], rfl⟩) := by
    have found :
        payload? "AAAAB3NzaC1yc2EAAAAEAAEAAQAAAAMAxQEA" =
          some "AAAAB3NzaC1yc2EAAAAEAAEAAQAAAAMAxQEA".toList := by
      rfl
    have decoded :
        Base64.decode
            (Text.Utf8.encode "AAAAB3NzaC1yc2EAAAAEAAEAAQAAAAMAxQEA".toList) =
          .ok (Wire.field (textBytes rsaLabel) ++
            (Wire.field [0, 1, 0, 1] ++ (Wire.field [0, 0xC5, 1] ++ [0]))) := by
      rfl
    have readsE :
        nextComponent "e"
            (Wire.field [0, 1, 0, 1] ++ (Wire.field [0, 0xC5, 1] ++ [0])) =
          .ok (⟨[1, 0, 1], rfl⟩, Wire.field [0, 0xC5, 1] ++ [0]) :=
      nextComponent_eq_ok.mpr ⟨_, by decide, rfl, rfl, rfl⟩
    have readsN :
        nextComponent "n" (Wire.field [0, 0xC5, 1] ++ [0]) =
          .ok (⟨[0, 0xC5, 1], rfl⟩, [0]) :=
      nextComponent_eq_ok.mpr ⟨_, by decide, rfl, rfl, rfl⟩
    rw [ofLine_eq_ofBytes found decoded, ofBytes, nextLabel_field (.inl rfl)]
    simp only [Outcome.ok_bind, if_true, readsE, readsN]
    rfl
  obtain ⟨token, label, parts, surplus, stores, -, written, payload,
      writes, -, -, same, -⟩ :=
    exists_normal_form reads
  exact ⟨reads, token, label, parts, surplus, stores, written, payload,
    writes, same⟩

/--
White space at the end of a payload token is lost, although the blob has no
redundant zeros and no surplus.
-/
theorem payloadToken_loses_white_space :
    ofLine "ssh-rsa AAAAB3NzaC1yc2EAAAADAQABAAAAAwDFAQ==\t user@host" =
        .ok (.rsa ⟨[1, 0, 1], rfl⟩ ⟨[0, 0xC5, 1], rfl⟩) ∧
      Stores "ssh-rsa AAAAB3NzaC1yc2EAAAADAQABAAAAAwDFAQ==\t user@host"
        "AAAAB3NzaC1yc2EAAAADAQABAAAAAwDFAQ==\t".toList rsaLabel
          [[1, 0, 1], [0, 0xC5, 1]] [] ∧
      (∀ part ∈ [[1, 0, 1], [0, 0xC5, 1]], redundantZero part = false) ∧
      (PublicKey.rsa ⟨[1, 0, 1], rfl⟩ ⟨[0, 0xC5, 1], rfl⟩).toLine =
        .ok "ssh-rsa AAAAB3NzaC1yc2EAAAADAQABAAAAAwDFAQ== user@host" ∧
      payloadToken? "ssh-rsa AAAAB3NzaC1yc2EAAAADAQABAAAAAwDFAQ== user@host" ≠
        some "AAAAB3NzaC1yc2EAAAADAQABAAAAAwDFAQ==\t".toList := by
  have found :
      payload? "ssh-rsa AAAAB3NzaC1yc2EAAAADAQABAAAAAwDFAQ==\t user@host" =
        some "AAAAB3NzaC1yc2EAAAADAQABAAAAAwDFAQ==".toList := by
    rfl
  have decoded :
      Base64.decode
          (Text.Utf8.encode "AAAAB3NzaC1yc2EAAAADAQABAAAAAwDFAQ==".toList) =
        .ok (payloadBytes rsaLabel
          (.rsa ⟨[1, 0, 1], rfl⟩ ⟨[0, 0xC5, 1], rfl⟩)) := by
    rfl
  refine ⟨?_, ⟨by decide, ?_⟩, by decide, rfl, by decide⟩
  · rw [ofLine_eq_ofBytes found decoded, ofBytes_payloadBytes rfl (by decide)]
    rfl
  · exact ⟨_, decoded, by decide, rfl⟩

end DropletClient.PublicKey
