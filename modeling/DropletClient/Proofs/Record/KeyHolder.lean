import DropletClient.Json.Reader
import DropletClient.Proofs.Json.WrittenText
import DropletClient.Proofs.Key.NormalForm
import DropletClient.Proofs.Record.Field
import DropletClient.Record.SshKey

namespace DropletClient

/-!
# Keys in records

A record holds the key that is on a line, or none where there is no line or a
blank one. What it holds can always be written, as the key's normal line or as
null, and is read back from that.
-/

namespace PublicKey

/--
The normal line of a key: label, payload and comment, with the shortest fields
and no surplus.
-/
structure IsNormalLine (key : PublicKey) (line : String) : Prop where
  written : key.toLine = .ok line
  reads : ofLine line = .ok key
  normal :
    ∃ label payload parts,
      Text.split ' ' line.toList = [label.toList, payload, comment.toList] ∧
        Stores line payload label parts [] ∧
        ∀ part ∈ parts, Key.redundantZero part = false

/-- A blank line holds no key. -/
theorem ofLine_of_blank
    {line : String}
    (blank : Text.isBlankString line = true) :
    ofLine line = .error .noPayload := by
  have nothing : Text.trim line.toList = [] :=
    (Text.trim_eq_nil_iff _).mpr blank
  rw [ofLine, payload?, nothing]
  rfl

/-- A key that was read from a line has a normal line. -/
theorem exists_isNormalLine
    {line : String}
    {key : PublicKey}
    (reads : ofLine line = .ok key) :
    ∃ normalLine, key.IsNormalLine normalLine := by
  obtain ⟨token, bytes, found, decoded, readsBytes⟩ := ofLine_eq_ok reads
  obtain ⟨label, parts, surplus, labelled, holds, shortened, positive⟩ :=
    exists_holds_of_ofBytes readsBytes
  have fits := fits_of_shortened holds shortened
  refine ⟨lineWith label (payloadBytes label key),
    toLine_eq labelled fits, ?_, ?_⟩
  · rw [ofLine_lineWith labelled fits]
    exact readBack_eq_ok.mpr positive
  · refine ⟨label, payloadText (payloadBytes label key), _,
        split_lineWith labelled _,
        ⟨payloadToken?_lineWith labelled, payloadBytes label key, ?_,
        holds_payloadBytes holds shortened⟩, ?_⟩
    · rw [trimEnd_payloadText, decode_payloadText]
    · rw [← shortened]
      intro part member
      obtain ⟨component, -, rfl⟩ := List.mem_map.mp member
      exact component.2.minimal

/-- What is held where a value stands for a key line, or nothing does. -/
inductive IsHeld :
    (given : Option Json) → (held : Option PublicKey) → Prop where
  | missing :
      IsHeld none none
  | null :
      IsHeld (some .null) none
  | blank
      {line : String}
      (blank : ∀ character ∈ line.toList, Text.isBlank character = true) :
      IsHeld (some (.text line)) none
  | line
      {line : String}
      {key : PublicKey}
      (reads : ofLine line = .ok key) :
      IsHeld (some (.text line)) (some key)

/--
A value is read as a key line if and only if something is held where it stands.
-/
theorem readOptionalLine_eq_ok_iff
    {value : Json}
    {held : Option PublicKey} :
    readOptionalLine value = .ok held ↔ IsHeld (some value) held := by
  have readsBlank {line : String} (blank : Text.isBlankString line = true) :
      readOptionalLine (.text line) = .ok none := by
    change (if Text.isBlankString line = true then _ else _) = _
    rw [if_pos blank]
    rfl
  have readsVisible
      {line : String}
      (visible : ¬ Text.isBlankString line = true) :
      readOptionalLine (.text line) =
        ((ofLine line).mapError Mismatch.key).map some := by
    change (if Text.isBlankString line = true then _ else _) = _
    rw [if_neg visible]
    cases ofLine line <;> rfl
  constructor
  · intro reads
    cases value with
    | null =>
        cases reads
        exact .null
    | text line =>
        by_cases blank : Text.isBlankString line = true
        · rw [readsBlank blank] at reads
          cases reads
          exact .blank (List.all_eq_true.mp blank)
        · rw [readsVisible blank] at reads
          cases readsLine : ofLine line with
          | ok key =>
              rw [readsLine] at reads
              cases reads
              exact .line readsLine
          | error fault =>
              rw [readsLine] at reads
              cases reads
    | boolean _ => cases reads
    | number _ => cases reads
    | array _ => cases reads
    | object _ => cases reads
  · intro isHeld
    cases isHeld with
    | null => rfl
    | blank blank => exact readsBlank (List.all_eq_true.mpr blank)
    | @line line key reads =>
        have visible : ¬ Text.isBlankString line = true := by
          intro blank
          rw [ofLine_of_blank blank] at reads
          cases reads
        rw [readsVisible visible, reads]
        rfl

/-- The value that is written for what is held. -/
inductive IsWrittenAs : (held : Option PublicKey) → (value : Json) → Prop where
  | none :
      IsWrittenAs none .null
  | some
      {key : PublicKey}
      {line : String}
      (isNormal : key.IsNormalLine line) :
      IsWrittenAs (some key) (.text line)

end PublicKey

namespace KeyHolder

open Record

variable {holder : KeyHolder} {members : List (String × Json)}
  {json value : Json}

theorem decode_object
    (members : List (String × Json)) :
    layout.decode (.object members) =
      match Json.lookup "key" members with
      | none => .ok { key := none }
      | some value =>
          (PublicKey.readOptionalLine value).map fun key => { key := key } := by
  have decodes :
      layout.decode (.object members) =
        (keyField.visit members >>= fun visited =>
          keyField.settle visited >>= fun key => pure { key := key }) :=
    rfl
  have name : keyField.name = "key" := rfl
  have read : keyField.read = PublicKey.readOptionalLine := rfl
  rw [decodes, Field.visit, name, read]
  cases Json.lookup "key" members with
  | none => rfl
  | some value =>
      dsimp only
      cases PublicKey.readOptionalLine value <;> rfl

/-- What a record holds is what stands under the name of the key. -/
theorem decode_object_eq_ok_iff :
    layout.decode (.object members) = .ok holder ↔
      PublicKey.IsHeld (Json.lookup "key" members) holder.key := by
  obtain ⟨key⟩ := holder
  rw [decode_object]
  cases Json.lookup "key" members with
  | none =>
      constructor
      · intro reads
        cases reads
        exact .missing
      · intro isHeld
        cases isHeld
        rfl
  | some value =>
      rw [← PublicKey.readOptionalLine_eq_ok_iff, Outcome.map_eq_ok]
      constructor
      · rintro ⟨held, reads, same⟩
        cases same
        exact reads
      · exact fun reads => ⟨key, reads, rfl⟩

theorem isHeld_of_yields
    {key : Option PublicKey}
    {given : Option Json}
    (yields : keyField.Yields key given) :
    PublicKey.IsHeld given key := by
  cases yields with
  | given reads => exact PublicKey.readOptionalLine_eq_ok_iff.mp reads
  | missing stands =>
      cases stands
      exact .missing

/--
What a holder holds was read from what was given for it, in whatever form
it arrived.
-/
theorem exists_isHeld_of_decode
    (decodes : layout.decode json = .ok holder) :
    ∃ given, PublicKey.IsHeld given holder.key := by
  cases json with
  | object members => exact ⟨_, decode_object_eq_ok_iff.mp decodes⟩
  | array items =>
      obtain ⟨cursor, reads⟩ := Layout.ofItems_of_decode decodes
      obtain ⟨⟨key, later⟩, readsKey, whole⟩ := Outcome.bind_eq_ok.mp reads
      cases whole
      exact ⟨_, isHeld_of_yields (Field.yields_of_next readsKey).1⟩
  | null => cases decodes
  | boolean _ => cases decodes
  | number _ => cases decodes
  | text _ => cases decodes

/--
What is written for a key is one token, in front of the end of the record.
-/
theorem exists_token_of_isWrittenAs
    {held : Option PublicKey}
    (isWritten : PublicKey.IsWrittenAs held value) :
    ∃ token,
      Json.scan (Json.write value ++ ['\x7d']) = some [token, .endObject] ∧
        ∀ frames, Json.Reader.beginValue frames token =
          some (.complete frames value) := by
  cases isWritten with
  | none => exact ⟨.null, rfl, fun _ => rfl⟩
  | @some key line isNormal =>
      refine ⟨.text line, ?_, fun _ => rfl⟩
      rw [Json.write, Json.scan_writtenText]
      rfl

/-- What is written for a holder is read as a JSON text again. -/
theorem ofText?_write
    {held : Option PublicKey}
    (isWritten : PublicKey.IsWrittenAs held value) :
    Json.ofText? (Json.write (.object [("key", value)])) =
      some (.object [("key", value)]) := by
  obtain ⟨token, scansValue, begins⟩ := exists_token_of_isWrittenAs isWritten
  have shape :
      Json.write (.object [("key", value)]) =
        '\x7b' :: (Json.writtenText "key" ++ ':' ::
          (Json.write value ++ ['\x7d'])) := by
    simp [Json.write, Json.writeMembers]
  have scansMember :
      Json.scan (':' :: (Json.write value ++ ['\x7d'])) =
        some [.colon, token, .endObject] := by
    rw [Json.scan_mark rfl, Json.scanAfter, scansValue]
    rfl
  have scans :
      Json.scan (Json.write (.object [("key", value)])) =
        some [.beginObject, .text "key", .colon, token, .endObject] := by
    rw [shape, Json.scan_mark rfl, Json.scanAfter, Json.scan_writtenText,
      Json.scanAfter, scansMember]
    rfl
  have readsValue :
      Json.Reader.step (.awaitValue [.members [] "key"]) token =
        some (.complete [.members [] "key"] value) :=
    begins _
  have reads :
      [Json.Token.beginObject, .text "key", .colon, token, .endObject].foldlM
          Json.Reader.step (.awaitValue []) =
        some (.complete [] (.object [("key", value)])) :=
    calc
      [Json.Token.beginObject, .text "key", .colon, token, .endObject].foldlM
          Json.Reader.step (.awaitValue []) =
          -- the object is open and the name read when the token of the
          -- value comes
          (Json.Reader.step (.awaitValue [.members [] "key"]) token).bind
            fun reader =>
              [Json.Token.endObject].foldlM Json.Reader.step reader :=
        rfl
      _ = some (.complete [] (.object [("key", value)])) := by
        rw [readsValue]
        rfl
  rw [Json.ofText?, scans, Option.bind_some, Json.ofTokens?, reads]
  rfl

/-- What is held is written in one way. -/
theorem exists_isWrittenAs
    {given : Option Json}
    {held : Option PublicKey}
    (isHeld : PublicKey.IsHeld given held) :
    ∃ value,
      PublicKey.writeOptionalLine held = .ok value ∧
        PublicKey.IsWrittenAs held value := by
  cases isHeld with
  | missing => exact ⟨.null, rfl, .none⟩
  | null => exact ⟨.null, rfl, .none⟩
  | blank _ => exact ⟨.null, rfl, .none⟩
  | line reads =>
      obtain ⟨normalLine, isNormal⟩ := PublicKey.exists_isNormalLine reads
      refine ⟨.text normalLine, ?_, .some isNormal⟩
      rw [PublicKey.writeOptionalLine, isNormal.written]
      rfl

/-- What is written for a key is held again where it stands. -/
theorem isHeld_of_isWrittenAs
    {held : Option PublicKey}
    (isWritten : PublicKey.IsWrittenAs held value) :
    PublicKey.IsHeld (some value) held := by
  cases isWritten with
  | none => exact .null
  | some isNormal => exact .line isNormal.reads

/-- A record is what a holder is written as, and what it is read from again. -/
structure IsRecordOf (holder : KeyHolder) (record : Json) : Prop where
  /--
  The holder is written as this record, with null or the normal line of its
  key in it.
  -/
  written : holder.toJson = .ok record
  shape : ∃ value,
    record = .object [("key", value)] ∧ PublicKey.IsWrittenAs holder.key value
  /-- The text of the record stands for the record. -/
  reread : Json.ofText? (Json.write record) = some record
  /-- The holder is read back, and written as the same record again. -/
  readBack : layout.decode record = .ok holder
  stable : ∀ again, layout.decode record = .ok again → again.toJson = .ok record

theorem exists_isRecordOf
    {given : Option Json}
    (isHeld : PublicKey.IsHeld given holder.key) :
    ∃ record, holder.IsRecordOf record := by
  obtain ⟨value, writes, isWritten⟩ := exists_isWrittenAs isHeld
  have written : holder.toJson = .ok (.object [("key", value)]) := by
    rw [toJson, writes]
    rfl
  have readBack : layout.decode (.object [("key", value)]) = .ok holder :=
    decode_object_eq_ok_iff.mpr (isHeld_of_isWrittenAs isWritten)
  refine ⟨_, written, ⟨value, rfl, isWritten⟩, ofText?_write isWritten,
    readBack, ?_⟩
  intro again readsAgain
  rw [readBack] at readsAgain
  cases readsAgain
  exact written

/-- A value that can stand for a key line. -/
def IsAcceptable (given : Option Json) : Prop :=
  given = none ∨
    given = some .null ∨
    (∃ line,
      given = some (.text line) ∧
        ∀ character ∈ line.toList, Text.isBlank character = true) ∨
    ∃ line key, given = some (.text line) ∧ PublicKey.ofLine line = .ok key

theorem isAcceptable_iff
    {given : Option Json} :
    IsAcceptable given ↔ ∃ held, PublicKey.IsHeld given held := by
  constructor
  · rintro (rfl | rfl | ⟨line, rfl, blank⟩ | ⟨line, key, rfl, reads⟩)
    · exact ⟨none, .missing⟩
    · exact ⟨none, .null⟩
    · exact ⟨none, .blank blank⟩
    · exact ⟨some key, .line reads⟩
  · rintro ⟨held, isHeld⟩
    cases isHeld with
    | missing => exact .inl rfl
    | null => exact .inr (.inl rfl)
    | blank blank => exact .inr (.inr (.inl ⟨_, rfl, blank⟩))
    | line reads => exact .inr (.inr (.inr ⟨_, _, rfl, reads⟩))

/-- What a JSON value gives to a holder, and what becomes of it. -/
structure KeepsKeyLine (json : Json) : Prop where
  /--
  An object is read exactly if what it has for the key, if anything, can stand
  for a line.
  -/
  accepted :
    ∀ members,
      json = .object members →
        ((∃ holder, layout.decode json = .ok holder) ↔
          IsAcceptable (Json.lookup "key" members))
  /--
  The holder has the key on the line, or none if there is no line or a
  blank one.
  -/
  held :
    ∀ members holder,
      json = .object members →
        (layout.decode json = .ok holder ↔
          PublicKey.IsHeld (Json.lookup "key" members) holder.key)
  /-- A holder that was read is written and read back. -/
  recorded :
    ∀ holder,
      layout.decode json = .ok holder → ∃ record, holder.IsRecordOf record

/--
Keys go through records: what is read can be written, and is read back
from that.
-/
theorem records_keep_key_lines
    (json : Json) :
    KeepsKeyLine json where
  accepted := by
    rintro members rfl
    rw [isAcceptable_iff]
    constructor
    · rintro ⟨holder, decodes⟩
      exact ⟨holder.key, decode_object_eq_ok_iff.mp decodes⟩
    · rintro ⟨held, isHeld⟩
      exact ⟨{ key := held }, decode_object_eq_ok_iff.mpr isHeld⟩
  held := by
    rintro members holder rfl
    exact decode_object_eq_ok_iff
  recorded holder decodes := by
    obtain ⟨given, isHeld⟩ := exists_isHeld_of_decode decodes
    exact exists_isRecordOf isHeld

end KeyHolder

end DropletClient
