import DropletClient.Envelope
import DropletClient.Proofs.Json.Lexeme
import DropletClient.Proofs.Text.Ascii

namespace DropletClient

/-!
# How responses are classified

A response means one thing, which depends on its status, on whether its body is
blank, on whether the body spells an envelope, on the status word of the
envelope, and on the payload. The rules for that are those of
`Response.Classifies`; `Response.classifies_iff` says that `Response.interpret`
follows them.
-/

namespace Envelope

variable {members : List (String × Json)}

/--
A text of the envelope is given once at most, and is missing, null, or a text.
-/
theorem readReserved?_eq_some
    {name : String}
    {given : Option String} :
    readReserved? name members = some given ↔
      Json.occurrences name members ≤ 1 ∧
        (given = none ∧
            (Json.lookup name members = none ∨
              Json.lookup name members = some .null) ∨
          ∃ word, given = some word ∧
            Json.lookup name members = some (.text word)) := by
  unfold readReserved?
  by_cases repeated : 1 < Json.occurrences name members
  · rw [if_pos repeated]
    exact iff_of_false (by simp) fun once => by omega
  · rw [if_neg repeated]
    have once : Json.occurrences name members ≤ 1 := by omega
    cases Json.lookup name members with
    | none => simp [once, eq_comm]
    | some value => cases value <;> simp [once, eq_comm]

private theorem lookup_cons_of_ne
    {name key : String}
    (other : key ≠ name)
    (value : Json) :
    Json.lookup name ((key, value) :: members) = Json.lookup name members := by
  rw [Json.lookup, if_neg other]
  cases Json.lookup name members <;> rfl

/-- Taking members with other names away does not change what a name has. -/
theorem lookup_filter
    {name : String}
    {keeps : String × Json → Bool}
    (kept : ∀ value, keeps (name, value) = true) :
    Json.lookup name (members.filter keeps) = Json.lookup name members := by
  induction members with
  | nil => rfl
  | cons member rest inductionHypothesis =>
      obtain ⟨key, value⟩ := member
      by_cases same : key = name
      · subst same
        rw [List.filter_cons_of_pos (kept value), Json.lookup, Json.lookup,
          inductionHypothesis]
      · rw [lookup_cons_of_ne same, List.filter_cons]
        split
        · rw [lookup_cons_of_ne same, inductionHypothesis]
        · exact inductionHypothesis

/-- The parts of an envelope, and the members that it was read from. -/
theorem ofJson?_eq_some
    {envelope : Envelope} :
    ofJson? (.object members) = some envelope ↔
      readReserved? statusName members = some envelope.status ∧
        readReserved? explanationName members = some envelope.explanation ∧
        readReserved? otherExplanationName members =
          some envelope.otherExplanation ∧
        envelope.payload = members.filter fun member =>
          !reservedNames.contains member.1 := by
  obtain ⟨status, explanation, otherExplanation, payload⟩ := envelope
  simp only [ofJson?, Option.bind_eq_bind, Option.bind_eq_some_iff,
    Option.some.injEq, Envelope.mk.injEq]
  constructor
  · rintro ⟨_, status, _, explanation, _, other, rfl, rfl, rfl, rfl⟩
    exact ⟨status, explanation, other, rfl⟩
  · rintro ⟨status, explanation, other, rfl⟩
    exact ⟨_, status, _, explanation, _, other, rfl, rfl, rfl, rfl⟩

/-- What a name that is not the envelope's own has in the payload. -/
theorem lookup_payload
    {envelope : Envelope}
    {field : String}
    (reads : ofJson? (.object members) = some envelope)
    (unreserved : field ∉ reservedNames) :
    Json.lookup field envelope.payload = Json.lookup field members := by
  rw [(ofJson?_eq_some.mp reads).2.2.2]
  exact lookup_filter fun value => by simpa using unreserved

end Envelope

namespace Json

private theorem isBlank_of_isSpace
    {character : Char}
    (space : isSpace character = true) :
    Text.isBlank character = true := by
  simp only [isSpace, Bool.or_eq_true, beq_iff_eq] at space
  rcases space with ((rfl | rfl) | rfl) | rfl <;> decide

/-- No token begins with white space of any kind. -/
private theorem opening_of_isBlank
    {character : Char}
    (blank : Text.isBlank character = true)
    (noSpace : isSpace character = false) :
    opening character = none := by
  have outside : character.toNat ≤ 0x20 ∨ 0x85 ≤ character.toNat := by
    simp [Text.isBlank, Text.inRanges, Text.blankRanges] at blank
    omega
  have other {known : Char} (inside : 0x20 < known.toNat ∧ known.toNat < 0x85) :
      character ≠ known := by
    rintro rfl
    omega
  have noQuote : ¬ (character == '"') = true := by simpa using other (by decide)
  have noDigit :
      ¬ (Text.Decimal.isDigit character || character == '-') = true := by
    have noSign : character ≠ '-' := other (by decide)
    simp [Text.Decimal.isDigit, noSign]
    omega
  have noLetter : ¬ isWordLetter character = true := by
    simp only [isWordLetter, Bool.and_eq_true, decide_eq_true_eq, Char.le_def,
      UInt32.le_iff_toNat_le]
    change ¬ (97 ≤ character.toNat ∧ character.toNat ≤ 122)
    omega
  have noMark : markToken? character = none := by
    unfold markToken?
    split <;> first | rfl | exact absurd rfl (other (by decide))
  rw [opening, if_neg (by simp [noSpace]), if_neg noQuote, if_neg noDigit,
    if_neg noLetter, noMark]
  rfl

/-- A blank text spells no value. -/
theorem ofText?_of_allBlank
    {text : List Char}
    (blank : Text.allBlank text = true) :
    ofText? text = none := by
  induction text with
  | nil => rfl
  | cons character rest inductionHypothesis =>
      rw [Text.allBlank, List.all_cons, Bool.and_eq_true] at blank
      cases space : isSpace character with
      | true =>
          rw [ofText?, scan_blank space]
          exact inductionHypothesis blank.2
      | false =>
          have refused : step .between character = none :=
            opening_of_isBlank blank.1 space
          rw [ofText?, scan, scanFrom_refused refused]
          rfl

/-- A body with a blank text spells no value, even if there are gaps in it. -/
theorem ofBytes?_of_allBlank
    {bytes : List UInt8}
    (blank : Text.allBlank (Text.Utf8.decodeLossy bytes) = true) :
    ofBytes? bytes = none := by
  cases decoded : Text.Utf8.decode? bytes with
  | none => rw [ofBytes?, decoded, Option.bind_none]
  | some text =>
      rw [Text.Utf8.decodeLossy_of_decode? decoded] at blank
      rw [ofBytes?, decoded, Option.bind_some, ofText?_of_allBlank blank]

/-- A blank body is the text of its blanks. -/
theorem decode?_blank
    {bytes : List UInt8}
    (blank : bytes.all Response.isBlankByte = true) :
    ∃ text,
      Text.Utf8.decode? bytes = some text ∧
        ∀ character ∈ text, isSpace character = true ∨ character = '\x0c' := by
  have known :
      ∀ byte ∈ bytes,
        byte.toNat < 128 ∧
          (isSpace (Text.Utf8.asciiCharacter byte) = true ∨
            Text.Utf8.asciiCharacter byte = '\x0c') := by
    intro byte member
    have blankByte := List.all_eq_true.mp blank byte member
    simp only [Response.isBlankByte, Bool.or_eq_true, beq_iff_eq] at blankByte
    rcases blankByte with (((rfl | rfl) | rfl) | rfl) | rfl <;> decide
  refine ⟨_,
    Text.Utf8.decode?_ascii fun byte member => (known byte member).1, ?_⟩
  intro character member
  obtain ⟨byte, byteMember, rfl⟩ := List.mem_map.mp member
  exact (known byte byteMember).2

/-- A blank body spells no value. -/
theorem ofBytes?_blank
    {bytes : List UInt8}
    (blank : bytes.all Response.isBlankByte = true) :
    ofBytes? bytes = none := by
  obtain ⟨text, decoded, blankText⟩ := decode?_blank blank
  rw [ofBytes?, decoded, Option.bind_some, ofText?_of_allBlank]
  refine List.all_eq_true.mpr fun character member => ?_
  rcases blankText character member with space | rfl
  · exact isBlank_of_isSpace space
  · decide

end Json

namespace Response

/--
A body spells an envelope with some members: the names that belong to the
envelope are given once at most, with a text or null.
-/
structure Spells
    (body : List UInt8)
    (members : List (String × Json)) : Prop where
  object : Json.ofBytes? body = some (.object members)
  single : ∀ name ∈ Envelope.reservedNames, Json.occurrences name members ≤ 1
  worded :
    ∀ name ∈ Envelope.reservedNames, ∀ value,
      Json.lookup name members = some value → value = .null ∨
        ∃ word, value = .text word

/-- The status word is that of a failed call, in letters of either case. -/
def TellsFailure (members : List (String × Json)) : Prop :=
  ∃ word,
    Json.lookup Envelope.statusName members = some (.text word) ∧
      Envelope.lowered word = Envelope.errorWord

/-- What a response means: a payload, no payload, or a failure. -/
inductive Classifies
    (read : Json → Except Mismatch α)
    (field : String)
    (policy : NotFoundPolicy) :
    (status : Nat) → (body : Option (List UInt8)) → Except Failure (Option α) →
      Prop where
  | unauthorized {body : Option (List UInt8)} :
      Classifies read field policy unauthorized body
        (.error (.authorization
          ((describe? (content? body)).getD (statusText unauthorized))))
  | absent
      {body : Option (List UInt8)}
      (allowed : policy = .absent) :
      Classifies read field policy notFound body (.ok none)
  | notFound
      {body : Option (List UInt8)}
      (raised : policy = .raise) :
      Classifies read field policy notFound body
        (.error
          (.notFound ((describe? (content? body)).getD (statusText notFound))))
  | httpStatus
      {status : Nat}
      {body : Option (List UInt8)}
      (authorized : status ≠ unauthorized)
      (found : status ≠ notFound)
      (fails : isSuccess status = false) :
      Classifies read field policy status body
        (.error (.transport (.httpStatus status (describe? (content? body)))))
  | blank
      {status : Nat}
      {body : Option (List UInt8)}
      (succeeds : isSuccess status = true)
      (nothing : content? body = none) :
      Classifies read field policy status body (.ok none)
  | notAnEnvelope
      {status : Nat}
      {bytes : List UInt8}
      (succeeds : isSuccess status = true)
      (something : content? (some bytes) = some bytes)
      (foreign : ∀ members, ¬ Spells bytes members) :
      Classifies read field policy status (some bytes)
        (.error (.transport (.malformed .notAnEnvelope)))
  | failedCall
      {status : Nat}
      {bytes : List UInt8}
      {members : List (String × Json)}
      {envelope : Envelope}
      (succeeds : isSuccess status = true)
      (spells : Spells bytes members)
      (fails : TellsFailure members)
      (reads : Envelope.ofJson? (.object members) = some envelope) :
      Classifies read field policy status (some bytes)
        (.error envelope.toFailure)
  | missingPayload
      {status : Nat}
      {bytes : List UInt8}
      {members : List (String × Json)}
      (succeeds : isSuccess status = true)
      (spells : Spells bytes members)
      (fine : ¬ TellsFailure members)
      (missing : ∀ value,
        Json.lookup field members = some value → value = .null) :
      Classifies read field policy status (some bytes)
        (.error (.transport (.missingPayload field)))
  | illTyped
      {status : Nat}
      {bytes : List UInt8}
      {members : List (String × Json)}
      {value : Json}
      {mismatch : Mismatch}
      (succeeds : isSuccess status = true)
      (spells : Spells bytes members)
      (fine : ¬ TellsFailure members)
      (carries : Json.lookup field members = some value)
      (present : value ≠ .null)
      (mismatches : read value = .error mismatch) :
      Classifies read field policy status (some bytes)
        (.error (.transport (.malformed (.record mismatch))))
  | carried
      {status : Nat}
      {bytes : List UInt8}
      {members : List (String × Json)}
      {value : Json}
      {record : α}
      (succeeds : isSuccess status = true)
      (spells : Spells bytes members)
      (fine : ¬ TellsFailure members)
      (carries : Json.lookup field members = some value)
      (present : value ≠ .null)
      (reads : read value = .ok record) :
      Classifies read field policy status (some bytes) (.ok (some record))

variable {bytes : List UInt8} {members : List (String × Json)}

/-- A blank body spells no envelope. -/
theorem Spells.content?
    (spells : Spells bytes members) :
    Response.content? (some bytes) = some bytes := by
  cases blank : bytes.all isBlankByte with
  | true => cases (Json.ofBytes?_blank blank).symm.trans spells.object
  | false => simp [Response.content?, Option.filter, blank]

private theorem Spells.readReserved?
    {name : String}
    (spells : Spells bytes members)
    (reserved : name ∈ Envelope.reservedNames) :
    ∃ given, Envelope.readReserved? name members = some given := by
  have single := spells.single name reserved
  cases shape : Json.lookup name members with
  | none =>
      exact ⟨none,
        Envelope.readReserved?_eq_some.mpr ⟨single, .inl ⟨rfl, .inl shape⟩⟩⟩
  | some value =>
      rcases spells.worded name reserved value shape with rfl | ⟨word, rfl⟩
      · exact ⟨none,
          Envelope.readReserved?_eq_some.mpr ⟨single, .inl ⟨rfl, .inr shape⟩⟩⟩
      · exact ⟨some word,
          Envelope.readReserved?_eq_some.mpr ⟨single, .inr ⟨word, rfl, shape⟩⟩⟩

theorem Spells.ofJson?
    (spells : Spells bytes members) :
    ∃ envelope, Envelope.ofJson? (.object members) = some envelope := by
  obtain ⟨status, readsStatus⟩ := spells.readReserved? (List.mem_cons_self ..)
  obtain ⟨explanation, readsExplanation⟩ :=
    spells.readReserved? (List.mem_cons_of_mem _ (List.mem_cons_self ..))
  obtain ⟨otherExplanation, readsOther⟩ :=
    spells.readReserved?
      (List.mem_cons_of_mem _ (List.mem_cons_of_mem _ (List.mem_cons_self ..)))
  exact ⟨⟨status, explanation, otherExplanation, _⟩,
    Envelope.ofJson?_eq_some.mpr
      ⟨readsStatus, readsExplanation, readsOther, rfl⟩⟩

/-- What is read as an envelope is spelled by the body. -/
theorem spells_of_ofBytes?
    {envelope : Envelope}
    (reads : Envelope.ofBytes? bytes = some envelope) :
    ∃ members, Spells bytes members ∧
      Envelope.ofJson? (.object members) = some envelope := by
  obtain ⟨value, object, ofValue⟩ := Option.bind_eq_some_iff.mp reads
  cases value with
  | object members =>
      obtain ⟨status, explanation, otherExplanation, _⟩ :=
        Envelope.ofJson?_eq_some.mp ofValue
      have given :
          ∀ name ∈ Envelope.reservedNames,
            ∃ text, Envelope.readReserved? name members = some text := by
        simp [Envelope.reservedNames, status, explanation, otherExplanation]
      refine ⟨members, ⟨object, fun name reserved => ?_,
        fun name reserved value has => ?_⟩, ofValue⟩
      · obtain ⟨text, isText⟩ := given name reserved
        exact (Envelope.readReserved?_eq_some.mp isText).1
      · obtain ⟨text, isText⟩ := given name reserved
        rcases (Envelope.readReserved?_eq_some.mp isText).2 with
            ⟨_, missing | isNull⟩ | ⟨word, _, isWord⟩
        · cases missing.symm.trans has
        · exact .inl (Option.some.inj (has.symm.trans isNull))
        · exact .inr ⟨word, Option.some.inj (has.symm.trans isWord)⟩
  | null => cases ofValue
  | boolean value => cases ofValue
  | number value => cases ofValue
  | text value => cases ofValue
  | array items => cases ofValue

/-- The envelope of a failed call is the one with the status word of it. -/
theorem isError_iff
    {envelope : Envelope}
    (reads : Envelope.ofJson? (.object members) = some envelope) :
    envelope.isError = true ↔ TellsFailure members := by
  have status :=
    Envelope.readReserved?_eq_some.mp (Envelope.ofJson?_eq_some.mp reads).1
  rcases status with ⟨_, ⟨nothing, missing⟩ | ⟨word, given, has⟩⟩
  · refine iff_of_false (by simp [Envelope.isError, nothing]) ?_
    rintro ⟨word, has, _⟩
    rcases missing with missing | missing <;> cases missing.symm.trans has
  · simp [Envelope.isError, given, TellsFailure, has]

section Classification

variable
  {read : Json → Except Mismatch α}
  {field : String}
  {policy : NotFoundPolicy}
  {status : Nat}

/-- A good status is none of those that stand for a failure of their own. -/
theorem envelope_of_isSuccess
    (succeeds : isSuccess status = true)
    (body : Option (List UInt8)) :
    envelope status body policy =
      match Response.content? body with
      | none => .ok none
      | some bytes =>
          match Envelope.ofBytes? bytes with
          | none => .error (.transport (.malformed .notAnEnvelope))
          | some envelope =>
              if envelope.isError then .error envelope.toFailure
              else .ok (some envelope) := by
  have authorized : status ≠ unauthorized := by
    rintro rfl
    cases succeeds
  have found : status ≠ notFound := by
    rintro rfl
    cases succeeds
  exact (if_neg authorized).trans ((if_neg found).trans (if_pos succeeds))

/-- The envelope that a body spells, unless it is that of a failed call. -/
theorem envelope_of_spells
    {envelope : Envelope}
    (succeeds : isSuccess status = true)
    (spells : Spells bytes members)
    (reads : Envelope.ofJson? (.object members) = some envelope) :
    Response.envelope status (some bytes) policy =
      if envelope.isError then .error envelope.toFailure
      else .ok (some envelope) := by
  have readsBytes : Envelope.ofBytes? bytes = some envelope := by
    rw [Envelope.ofBytes?, spells.object, Option.bind_some, reads]
  rw [envelope_of_isSuccess succeeds, spells.content?]
  simp only [readsBytes]

/-- The payload of a response that is good in every other way. -/
private theorem interpret_of_spells
    (unreserved : field ∉ Envelope.reservedNames)
    (succeeds : isSuccess status = true)
    (spells : Spells bytes members)
    (fine : ¬ TellsFailure members) :
    interpret read status (some bytes) field policy =
      match (Json.lookup field members).bind Json.present? with
      | none => .error (.transport (.missingPayload field))
      | some value =>
          match read value with
          | .ok record => .ok (some record)
          | .error mismatch =>
              .error (.transport (.malformed (.record mismatch))) := by
  obtain ⟨envelope, reads⟩ := spells.ofJson?
  have noError : ¬ envelope.isError = true := mt (isError_iff reads).mp fine
  rw [interpret, envelope_of_spells succeeds spells reads, if_neg noError,
    ← Envelope.lookup_payload reads unreserved]
  rfl

private theorem present?_of_ne_null
    {value : Json}
    (present : value ≠ .null) :
    value.present? = some value := by
  cases value <;> first | rfl | exact absurd rfl present

/-- The interpretation of a response is what the response is classified as. -/
theorem Classifies.interpret_eq
    {body : Option (List UInt8)}
    {outcome : Except Failure (Option α)}
    (unreserved : field ∉ Envelope.reservedNames)
    (classifies : Classifies read field policy status body outcome) :
    interpret read status body field policy = outcome := by
  cases classifies with
  | unauthorized => rfl
  | absent allowed =>
      subst allowed
      rfl
  | notFound raised =>
      subst raised
      rfl
  | httpStatus authorized found fails =>
      have refused : ¬ isSuccess status = true := by simp [fails]
      unfold interpret envelope
      rw [if_neg authorized, if_neg found, if_neg refused]
      rfl
  | blank succeeds nothing =>
      rw [interpret, envelope_of_isSuccess succeeds, nothing]
      rfl
  | @notAnEnvelope _ bytes succeeds something foreign =>
      have unread : Envelope.ofBytes? bytes = none := by
        refine Option.eq_none_iff_forall_not_mem.mpr fun envelope reads => ?_
        obtain ⟨members, spells, _⟩ := spells_of_ofBytes? reads
        exact foreign members spells
      rw [interpret, envelope_of_isSuccess succeeds, something]
      simp only [unread]
      rfl
  | failedCall succeeds spells fails reads =>
      rw [interpret, envelope_of_spells succeeds spells reads,
        if_pos ((isError_iff reads).mpr fails)]
      rfl
  | missingPayload succeeds spells fine missing =>
      rw [interpret_of_spells unreserved succeeds spells fine]
      cases has : Json.lookup field _ with
      | none => rfl
      | some value =>
          rw [missing value has]
          rfl
  | illTyped succeeds spells fine carries present mismatches =>
      rw [interpret_of_spells unreserved succeeds spells fine, carries,
        Option.bind_some, present?_of_ne_null present]
      simp only [mismatches]
  | carried succeeds spells fine carries present reads =>
      rw [interpret_of_spells unreserved succeeds spells fine, carries,
        Option.bind_some, present?_of_ne_null present]
      simp only [reads]

/-- Every response means something. -/
theorem exists_classifies
    (read : Json → Except Mismatch α)
    (field : String)
    (policy : NotFoundPolicy)
    (status : Nat)
    (body : Option (List UInt8)) :
    ∃ outcome, Classifies read field policy status body outcome := by
  by_cases authorized : status = unauthorized
  · subst authorized
    exact ⟨_, .unauthorized⟩
  by_cases found : status = notFound
  · subst found
    cases policy with
    | absent => exact ⟨_, .absent rfl⟩
    | raise => exact ⟨_, .notFound rfl⟩
  cases succeeds : isSuccess status with
  | false => exact ⟨_, .httpStatus authorized found succeeds⟩
  | true =>
      cases something : Response.content? body with
      | none => exact ⟨_, .blank succeeds something⟩
      | some bytes =>
          obtain ⟨rfl, _⟩ := Option.filter_eq_some_iff.mp something
          by_cases foreign : ∀ members, ¬ Spells bytes members
          · exact ⟨_, .notAnEnvelope succeeds something foreign⟩
          obtain ⟨members, spells⟩ := Classical.not_forall_not.mp foreign
          by_cases fails : TellsFailure members
          · obtain ⟨envelope, reads⟩ := spells.ofJson?
            exact ⟨_, .failedCall succeeds spells fails reads⟩
          by_cases missing : ∀ value,
            Json.lookup field members = some value → value = .null
          · exact ⟨_, .missingPayload succeeds spells fails missing⟩
          obtain ⟨value, notMissing⟩ := Classical.not_forall.mp missing
          obtain ⟨carries, present⟩ := Classical.not_imp.mp notMissing
          cases reads : read value with
          | ok record =>
              exact ⟨_, .carried succeeds spells fails carries present reads⟩
          | error mismatch =>
              exact ⟨_, .illTyped succeeds spells fails carries present reads⟩

/-- A response means what it is interpreted as, and nothing else. -/
theorem classifies_iff
    {body : Option (List UInt8)}
    {outcome : Except Failure (Option α)}
    (unreserved : field ∉ Envelope.reservedNames) :
    Classifies read field policy status body outcome ↔
      interpret read status body field policy = outcome := by
  constructor
  · exact Classifies.interpret_eq unreserved
  · rintro rfl
    obtain ⟨outcome, classifies⟩ :=
      exists_classifies read field policy status body
    rwa [classifies.interpret_eq unreserved]

end Classification

end Response

end DropletClient
