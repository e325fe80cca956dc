import DropletClient.Proofs.Envelope.Classification
import DropletClient.Proofs.Json.Arrangement
import DropletClient.Proofs.Json.Derivation
import DropletClient.Proofs.Record.Order

namespace DropletClient

/-!
# Answers do not depend on how a body is arranged

White space, the order of members, members that nobody asks for and members that
later ones hide make no difference to what a response is interpreted as.
-/

open Json (SameIfAny Spelling Quoted)

namespace Envelope

variable {field : String} {members others : List (String × Json)}

/-- Two envelopes give the same under the names that are looked at. -/
structure SameUnder
    (field : String)
    (members others : List (String × Json)) : Prop where
  lookups :
    ∀ name ∈ field :: reservedNames,
      SameIfAny (Json.lookup name members) (Json.lookup name others)
  counts :
    ∀ name ∈ reservedNames,
      Json.occurrences name members = Json.occurrences name others

theorem SameUnder.readReserved?
    {name : String}
    (same : SameUnder field members others)
    (reserved : name ∈ reservedNames) :
    Envelope.readReserved? name members =
      Envelope.readReserved? name others := by
  have found := same.lookups name (List.mem_cons_of_mem _ reserved)
  unfold Envelope.readReserved?
  rw [same.counts name reserved]
  generalize Json.lookup name members = first at found ⊢
  generalize Json.lookup name others = second at found ⊢
  cases found with
  | none => rfl
  | some same =>
      cases same with
      | refl value => rfl
      | array same => rfl
      | object same => rfl

/-- Envelopes are refused together, or their words are the same. -/
theorem SameUnder.ofJson?
    (same : SameUnder field members others) :
    (Envelope.ofJson? (.object members) = none ∧
        Envelope.ofJson? (.object others) = none) ∨
      ∃ envelope payload,
        Envelope.ofJson? (.object members) = some envelope ∧
          Envelope.ofJson? (.object others) =
            some { envelope with payload } := by
  have status := same.readReserved? (List.mem_cons_self ..)
  have explanation :=
    same.readReserved? (List.mem_cons_of_mem _ (List.mem_cons_self ..))
  have otherExplanation :=
    same.readReserved?
      (List.mem_cons_of_mem _ (List.mem_cons_of_mem _ (List.mem_cons_self ..)))
  simp only [Envelope.ofJson?, status, explanation, otherExplanation]
  cases Envelope.readReserved? statusName others with
  | none => exact .inl ⟨rfl, rfl⟩
  | some status =>
      cases Envelope.readReserved? explanationName others with
      | none => exact .inl ⟨rfl, rfl⟩
      | some explanation =>
          cases Envelope.readReserved? otherExplanationName others with
          | none => exact .inl ⟨rfl, rfl⟩
          | some otherExplanation => exact .inr ⟨_, _, rfl, rfl⟩

end Envelope

namespace Response

variable {α : Type} {read : Json → Except Mismatch α} {field : String}
  {policy : NotFoundPolicy} {status : Nat} {body other : List UInt8}
  {members others : List (String × Json)}

/--
What is answered where something or nothing was found under the name of
the payload.
-/
def answer
    (read : Json → Except Mismatch α)
    (field : String)
    (found : Option Json) :
    Except Failure (Option α) :=
  match found.bind Json.present? with
  | none => .error (.transport (.missingPayload field))
  | some value =>
      match read value with
      | .ok record => .ok (some record)
      | .error mismatch => .error (.transport (.malformed (.record mismatch)))

theorem answer_congr
    {found otherFound : Option Json}
    (respects : Record.Respects read)
    (same : SameIfAny found otherFound) :
    answer read field found = answer read field otherFound := by
  cases same with
  | none => rfl
  | some same =>
      cases same with
      | refl value => rfl
      | array same =>
          simp only [answer, Option.bind_some, Json.present?,
            respects _ _ (.array same)]
      | object same =>
          simp only [answer, Option.bind_some, Json.present?,
            respects _ _ (.object same)]

/-- Nothing but the envelope of a body matters, if the body is not blank. -/
theorem interpret_of_ofBytes?_eq
    (succeeds : isSuccess status = true)
    (something : content? (some body) = some body)
    (otherSomething : content? (some other) = some other)
    (same : Envelope.ofBytes? body = Envelope.ofBytes? other) :
    interpret read status (some body) field policy =
      interpret read status (some other) field policy := by
  have envelopes :
      envelope status (some body) policy =
        envelope status (some other) policy := by
    rw [envelope_of_isSuccess succeeds, envelope_of_isSuccess succeeds,
      something, otherSomething]
    simp only [same]
  rw [interpret, interpret, envelopes]

/-- A good response with an envelope. -/
theorem interpret_of_envelope
    {envelope : Envelope}
    (succeeds : isSuccess status = true)
    (something : content? (some body) = some body)
    (reads : Envelope.ofBytes? body = some envelope) :
    interpret read status (some body) field policy =
      if envelope.isError then .error envelope.toFailure
      else answer read field (Json.lookup field envelope.payload) := by
  rw [interpret, envelope_of_isSuccess succeeds, something]
  simp only [reads]
  split <;> rfl

/-- Envelopes that give the same are interpreted in the same way. -/
theorem interpret_congr
    (respects : Record.Respects read)
    (unreserved : field ∉ Envelope.reservedNames)
    (succeeds : isSuccess status = true)
    (something : content? (some body) = some body)
    (otherSomething : content? (some other) = some other)
    (reads : Json.ofBytes? body = some (.object members))
    (otherReads : Json.ofBytes? other = some (.object others))
    (same : Envelope.SameUnder field members others) :
    interpret read status (some body) field policy =
      interpret read status (some other) field policy := by
  have ofBody :
      Envelope.ofBytes? body = Envelope.ofJson? (.object members) := by
    rw [Envelope.ofBytes?, reads, Option.bind_some]
  have ofOther :
      Envelope.ofBytes? other = Envelope.ofJson? (.object others) := by
    rw [Envelope.ofBytes?, otherReads, Option.bind_some]
  rcases same.ofJson? with
    ⟨malformed, otherMalformed⟩ | ⟨envelope, payload, isEnvelope, isOther⟩
  · apply interpret_of_ofBytes?_eq succeeds something otherSomething
    rw [ofBody, ofOther, malformed, otherMalformed]
  · have found := same.lookups field (List.mem_cons_self ..)
    rw [← Envelope.lookup_payload isEnvelope unreserved,
      ← Envelope.lookup_payload isOther unreserved] at found
    rw [interpret_of_envelope succeeds something (ofBody.trans isEnvelope),
      interpret_of_envelope succeeds otherSomething (ofOther.trans isOther),
      answer_congr respects found]
    rfl

/-- A body is the text of a spelling, in some layout. -/
structure Writes (body : List UInt8) (spelling : Spelling) : Prop where
  laidOut :
    ∃ text,
      Text.Utf8.decode? body = some text ∧ Json.LaidOut spelling.lexemes text

/-- Every body that is read is the text of a spelling. -/
theorem exists_writes
    (readable : Json.ofBytes? body ≠ none) :
    ∃ spelling, Writes body spelling := by
  obtain ⟨value, reads⟩ := Option.ne_none_iff_exists'.mp readable
  obtain ⟨text, decoded, readsText⟩ := Option.bind_eq_some_iff.mp reads
  obtain ⟨spelling, laidOut⟩ := Json.exists_spelling readsText
  exact ⟨spelling, ⟨text, decoded, laidOut⟩⟩

namespace Writes

variable {spelling : Spelling}

theorem ofBytes?
    (writes : Writes body spelling) :
    Json.ofBytes? body = spelling.read? 0 := by
  obtain ⟨text, decoded, laidOut⟩ := writes.laidOut
  rw [Json.ofBytes?, decoded, Option.bind_some,
    Json.ofText?_eq_of_laidOut laidOut]

/-- There are lexemes in a body, so that it is not blank. -/
theorem content?
    (writes : Writes body spelling) :
    Response.content? (some body) = some body := by
  cases blank : body.all isBlankByte with
  | false => simp [Response.content?, Option.filter, blank]
  | true =>
      obtain ⟨text, decoded, laidOut⟩ := writes.laidOut
      obtain ⟨blanks, decodedBlanks, areBlank⟩ := Json.decode?_blank blank
      obtain rfl := Option.some.inj (decoded.symm.trans decodedBlanks)
      obtain ⟨first, rest, shape, -⟩ := spelling.exists_first_lexeme
      have isLexeme : first ∈ spelling.lexemes := by
        rw [shape]
        exact List.mem_cons_self ..
      obtain ⟨character, member, noSpace, noFormFeed⟩ :=
        Json.exists_visible first
      have inText := laidOut.subset first isLexeme character member
      rcases areBlank character inText with space | formFeed
      · rw [noSpace] at space
        cases space
      · exact absurd formFeed noFormFeed

end Writes

/--
Every two bodies that write one spelling and another one are interpreted in the
same way.
-/
def AnswersAlike
    (read : Json → Except Mismatch α)
    (status : Nat)
    (field : String)
    (policy : NotFoundPolicy)
    (spelling rearranged : Spelling) :
    Prop :=
  ∀ body other,
    Writes body spelling →
      Writes other rearranged →
        interpret read status (some body) field policy =
          interpret read status (some other) field policy

variable {spelling rearranged : Spelling}

/-- Spellings that are read alike are answered alike. -/
theorem AnswersAlike.of_ofJson?_eq
    (succeeds : isSuccess status = true)
    (same :
      (spelling.read? 0).bind Envelope.ofJson? =
        (rearranged.read? 0).bind Envelope.ofJson?) :
    AnswersAlike read status field policy spelling rearranged := by
  intro body other writes otherWrites
  apply interpret_of_ofBytes?_eq succeeds writes.content? otherWrites.content?
  rw [Envelope.ofBytes?, Envelope.ofBytes?, writes.ofBytes?,
    otherWrites.ofBytes?, same]

/--
Objects that give the same under the names that are looked at are
answered alike.
-/
theorem AnswersAlike.of_sameUnder
    (respects : Record.Respects read)
    (unreserved : field ∉ Envelope.reservedNames)
    (succeeds : isSuccess status = true)
    (reads : spelling.read? 0 = some (.object members))
    (otherReads : rearranged.read? 0 = some (.object others))
    (same : Envelope.SameUnder field members others) :
    AnswersAlike read status field policy spelling rearranged := by
  intro body other writes otherWrites
  exact interpret_congr respects unreserved succeeds writes.content?
    otherWrites.content?
    (writes.ofBytes?.trans reads) (otherWrites.ofBytes?.trans otherReads) same

/--
Values that say the same are answered alike, if they repeat the reserved
names alike.
-/
theorem AnswersAlike.of_same
    {value otherValue : Json}
    (respects : Record.Respects read)
    (unreserved : field ∉ Envelope.reservedNames)
    (succeeds : isSuccess status = true)
    (reads : spelling.read? 0 = some value)
    (otherReads : rearranged.read? 0 = some otherValue)
    (same : Json.Same value otherValue)
    (counts :
      ∀ name ∈ Envelope.reservedNames,
        spelling.names.count (some name) = rearranged.names.count (some name)) :
    AnswersAlike read status field policy spelling rearranged := by
  cases same with
  | refl value =>
      apply of_ofJson?_eq succeeds
      rw [reads, otherReads]
  | array same =>
      apply of_ofJson?_eq succeeds
      rw [reads, otherReads]
      rfl
  | object same =>
      refine of_sameUnder respects unreserved succeeds reads otherReads ⟨?_, ?_⟩
      · exact fun name _ => same name
      · intro name reserved
        rw [Spelling.occurrences_eq_count reads,
          Spelling.occurrences_eq_count otherReads]
        exact counts name reserved

/-- Members in another order are answered alike. -/
theorem AnswersAlike.of_permutes
    (respects : Record.Respects read)
    (unreserved : field ∉ Envelope.reservedNames)
    (succeeds : isSuccess status = true)
    (rewrites : Spelling.Rewrites Spelling.Permutes spelling rearranged) :
    AnswersAlike read status field policy spelling rearranged := by
  cases reads : spelling.read? 0 with
  | none =>
      -- orders can be changed back: if the other spelling were read, this
      -- one would be
      have otherUnread : rearranged.read? 0 = none := by
        cases otherReads : rearranged.read? 0 with
        | none => rfl
        | some otherValue =>
            have back :=
              rewrites.symm fun _ _ permutes => Spelling.Permutes.symm permutes
            obtain ⟨value, isRead, -⟩ :=
              back.same Spelling.keeps_permutes otherReads
            rw [reads] at isRead
            cases isRead
      apply of_ofJson?_eq succeeds
      rw [reads, otherUnread]
  | some value =>
      obtain ⟨otherValue, otherReads, same⟩ :=
        rewrites.same Spelling.keeps_permutes reads
      apply of_same respects unreserved succeeds reads otherReads same
      intro name reserved
      exact rewrites.names_perm.count_eq (some name)

/-- Members that later ones hide are answered as if they were not there. -/
theorem AnswersAlike.of_uncovers
    (respects : Record.Respects read)
    (unreserved : field ∉ Envelope.reservedNames)
    (succeeds : isSuccess status = true)
    (readable : spelling.read? 0 ≠ none)
    (rewrites : Spelling.Rewrites Spelling.Uncovers spelling rearranged)
    (counts :
      ∀ name ∈ Envelope.reservedNames,
        spelling.names.count (some name) = rearranged.names.count (some name)) :
    AnswersAlike read status field policy spelling rearranged := by
  obtain ⟨value, reads⟩ := Option.ne_none_iff_exists'.mp readable
  obtain ⟨otherValue, otherReads, same⟩ :=
    rewrites.same Spelling.keeps_uncovers reads
  exact of_same respects unreserved succeeds reads otherReads same counts

/--
Members are added whose names are neither reserved nor that of the payload.
-/
inductive AddsForeign (field : String) :
    List (Quoted × Spelling) → List (Quoted × Spelling) → Prop where
  | nil : AddsForeign field [] []
  | keep
      {members more : List (Quoted × Spelling)}
      (member : Quoted × Spelling)
      (rest : AddsForeign field members more) :
      AddsForeign field (member :: members) (member :: more)
  | add
      {members more : List (Quoted × Spelling)}
      {name : Quoted}
      {value : Spelling}
      {text : String}
      (isName : name.text? = some text)
      (foreign : text ∉ field :: Envelope.reservedNames)
      (valid : value.read? 1 ≠ none)
      (rest : AddsForeign field members more) :
      AddsForeign field members ((name, value) :: more)

namespace AddsForeign

open Json.Spelling (readMembers?_cons readMembers? read?_object)

variable {spelled more : List (Quoted × Spelling)}

/-- With more members there is as much to be read. -/
theorem reads_more
    {values : List (String × Json)}
    (adds : AddsForeign field spelled more)
    (reads : readMembers? 1 spelled = some values) :
    ∃ moreValues, readMembers? 1 more = some moreValues := by
  induction adds generalizing values with
  | nil => exact ⟨[], rfl⟩
  | keep member rest inductionHypothesis =>
      obtain ⟨name, spelling⟩ := member
      obtain ⟨text, value, later, isText, isValue, readsLater, rfl⟩ :=
        readMembers?_cons.mp reads
      obtain ⟨moreLater, readsMore⟩ := inductionHypothesis readsLater
      exact ⟨_, readMembers?_cons.mpr ⟨text, value, moreLater, isText, isValue,
        readsMore, rfl⟩⟩
  | add isName foreign valid rest inductionHypothesis =>
      obtain ⟨value, isValue⟩ := Option.ne_none_iff_exists'.mp valid
      obtain ⟨moreLater, readsMore⟩ := inductionHypothesis reads
      exact ⟨_, readMembers?_cons.mpr ⟨_, value, moreLater, isName, isValue,
        readsMore, rfl⟩⟩

/-- The names that are looked at give the same without the foreign members. -/
theorem sameUnder
    {moreValues : List (String × Json)}
    (adds : AddsForeign field spelled more)
    (reads : readMembers? 1 more = some moreValues) :
    ∃ values,
      readMembers? 1 spelled = some values ∧
        Envelope.SameUnder field values moreValues := by
  induction adds generalizing moreValues with
  | nil =>
      cases reads
      exact ⟨[], rfl, fun _ _ => .none, fun _ _ => rfl⟩
  | keep member rest inductionHypothesis =>
      obtain ⟨name, spelling⟩ := member
      obtain ⟨text, value, moreLater, isText, isValue, readsMore, rfl⟩ :=
        readMembers?_cons.mp reads
      obtain ⟨later, readsLater, same⟩ := inductionHypothesis readsMore
      have readsBoth :=
        readMembers?_cons.mpr
          ⟨text, value, later, isText, isValue, readsLater, rfl⟩
      refine ⟨_, readsBoth, ?_, ?_⟩
      · intro name looked
        rw [Json.lookup_cons, Json.lookup_cons]
        exact (same.lookups name looked).or (.refl _)
      · intro name reserved
        have sameLater := same.counts name reserved
        simp only [Json.occurrences, List.countP_cons] at sameLater ⊢
        rw [sameLater]
  | @add _ _ _ _ text isName foreign valid rest inductionHypothesis =>
      obtain ⟨name, value, moreLater, isAlso, -, readsMore, rfl⟩ :=
        readMembers?_cons.mp reads
      obtain rfl := Option.some.inj (isName.symm.trans isAlso)
      obtain ⟨later, readsLater, same⟩ := inductionHypothesis readsMore
      refine ⟨later, readsLater, ?_, ?_⟩
      · intro name looked
        have other : ¬ text = name := fun isText => foreign (isText ▸ looked)
        rw [Json.lookup_cons, if_neg other, Option.or_none]
        exact same.lookups name looked
      · intro name reserved
        have other : (text == name) = false := by
          simp only [beq_eq_false_iff_ne]
          rintro rfl
          exact foreign (List.mem_cons_of_mem _ reserved)
        have sameLater := same.counts name reserved
        simp only [Json.occurrences, List.countP_cons, other] at sameLater ⊢
        rw [sameLater]
        rfl

end AddsForeign

/-- Foreign members are passed over. -/
theorem AnswersAlike.of_addsForeign
    {spelled more : List (Quoted × Spelling)}
    (respects : Record.Respects read)
    (unreserved : field ∉ Envelope.reservedNames)
    (succeeds : isSuccess status = true)
    (adds : AddsForeign field spelled more) :
    AnswersAlike read status field policy (.object spelled) (.object more) := by
  have inside : 0 < Json.greatestDepth := by decide
  cases reads : Spelling.readMembers? 1 more with
  | none =>
      have unread : Spelling.readMembers? 1 spelled = none := by
        cases isRead : Spelling.readMembers? 1 spelled with
        | none => rfl
        | some values =>
            obtain ⟨moreValues, readsMore⟩ := adds.reads_more isRead
            rw [reads] at readsMore
            cases readsMore
      apply of_ofJson?_eq succeeds
      simp only [Spelling.read?, Nat.zero_add, reads, unread]
  | some moreValues =>
      obtain ⟨values, readsSpelled, same⟩ := adds.sameUnder reads
      exact of_sameUnder respects unreserved succeeds
        (Spelling.read?_object.mpr ⟨inside, values, readsSpelled, rfl⟩)
        (Spelling.read?_object.mpr ⟨inside, moreValues, reads, rfl⟩) same

/--
Members are left out that later ones with the same name hide: in the envelope
under the name of the payload, and anywhere inside of the payload.
-/
inductive UncoversPayload (field : String) :
    List (Quoted × Spelling) → List (Quoted × Spelling) → Prop where
  | refl (spelled : List (Quoted × Spelling)) :
      UncoversPayload field spelled spelled
  | trans
      {spelled shorter shortest : List (Quoted × Spelling)}
      (first : UncoversPayload field spelled shorter)
      (later : UncoversPayload field shorter shortest) :
      UncoversPayload field spelled shortest
  | envelope
      {before between after : List (Quoted × Spelling)}
      {name again : Quoted}
      {hidden shown : Spelling}
      (isField : name.text? = some field)
      (isAgain : again.text? = some field) :
      UncoversPayload field
        (before ++ (name, hidden) :: (between ++ (again, shown) :: after))
        (before ++ (between ++ (again, shown) :: after))
  | payload
      {before after : List (Quoted × Spelling)}
      {name : Quoted}
      {payload uncovered : Spelling}
      (isField : name.text? = some field)
      (rewrites : Spelling.Rewrites Spelling.Uncovers payload uncovered) :
      UncoversPayload field (before ++ (name, payload) :: after)
        (before ++ (name, uncovered) :: after)

namespace UncoversPayload

variable {spelled shorter : List (Quoted × Spelling)}

theorem rewrites
    (uncovers : UncoversPayload field spelled shorter) :
    Spelling.Rewrites Spelling.Uncovers (.object spelled)
      (.object shorter) := by
  induction uncovers with
  | refl spelled => exact .refl _
  | trans first later firstRewrites laterRewrites =>
      exact firstRewrites.trans laterRewrites
  | envelope isField isAgain =>
      exact .object (.drop (isField.trans isAgain.symm))
  | payload isField rewrites => exact .member rewrites

/-- No reserved name is left out. -/
theorem count_eq
    (uncovers : UncoversPayload field spelled shorter)
    {name : String}
    (other : name ≠ field) :
    (Spelling.object spelled).names.count (some name) =
      (Spelling.object shorter).names.count (some name) := by
  induction uncovers with
  | refl spelled => rfl
  | trans first later firstCount laterCount => exact firstCount.trans laterCount
  | envelope isField isAgain =>
      have isOther : some field ≠ some name :=
        fun same => other (Option.some.inj same).symm
      simp [Spelling.names, List.count_cons, isField, isOther]
  | payload isField rewrites =>
      simp only [Spelling.names, List.map_append, List.map_cons]

end UncoversPayload

/--
The answer to a good response does not depend on how its body is arranged; every
body that is read has an arrangement. White space makes no difference, and
neither does the order of members in objects without repeated names. Members of
the envelope that nobody asks for make none, and of repeated members under the
name of the payload or inside of it only the last one counts.
-/
theorem interpret_ignores_arrangement
    {α : Type}
    {read : Json → Except Mismatch α}
    {field : String}
    {status : Nat}
    (reads : Record.ReadsPayload read)
    (unreserved : field ∉ Envelope.reservedNames)
    (succeeds : isSuccess status = true)
    (policy : NotFoundPolicy) :
    (∀ body, Json.ofBytes? body ≠ none → ∃ spelling, Writes body spelling) ∧
      (∀ spelling rearranged,
        Spelling.Rewrites Spelling.Permutes spelling rearranged →
          AnswersAlike read status field policy spelling rearranged) ∧
      (∀ spelled more,
        AddsForeign field spelled more →
          AnswersAlike read status field policy (.object spelled)
            (.object more)) ∧
      ∀ spelled shorter,
        UncoversPayload field spelled shorter →
          (Spelling.object spelled).read? 0 ≠ none →
            AnswersAlike read status field policy (.object spelled)
              (.object shorter) := by
  have respects := reads.respects
  refine ⟨fun body readable => exists_writes readable, ?_, ?_, ?_⟩
  · intro spelling rearranged rewrites
    exact .of_permutes respects unreserved succeeds rewrites
  · intro spelled more adds
    exact .of_addsForeign respects unreserved succeeds adds
  · intro spelled shorter uncovers readable
    apply AnswersAlike.of_uncovers respects unreserved succeeds readable
      uncovers.rewrites
    intro name reserved
    apply uncovers.count_eq
    rintro rfl
    exact unreserved reserved

set_option maxRecDepth 4000 in
/--
An identifier that stands in another place, with white space around it, is read
as it was.
-/
theorem interpret_ignores_arrangement_moved :
    interpret Record.readInt32 200
        (some (PublicKey.textBytes "\x7b\"event_id\":7,\"status\":\"OK\"\x7d"))
          "event_id"
        .raise = .ok (some 7) ∧
      interpret Record.readInt32 200
          (some (PublicKey.textBytes
            "\x7b\"event_id\":7,\"status\":\"OK\"\x7d")) "event_id"
          .raise =
        interpret Record.readInt32 200
          (some (PublicKey.textBytes
            "\x7b \"status\":\"OK\",\n\"event_id\" :7\x7d")) "event_id"
          .raise := by
  let status : Quoted × Spelling :=
    (.ofText "status", .scalar (.quoted (.ofText "OK")))
  let eventId : Quoted × Spelling :=
    (.ofText "event_id", .scalar (.numeral '7' [] rfl (List.forall_mem_nil _)))
  have namesDiffer : Spelling.NamesDiffer [eventId, status] := by
    have isEventId : (Quoted.ofText "event_id").text? = some "event_id" := by
      rfl
    have isStatus : (Quoted.ofText "status").text? = some "status" := by rfl
    simp [Spelling.NamesDiffer, eventId, status, isEventId, isStatus]
  have rearranges :
      Spelling.Rewrites Spelling.Permutes (.object [eventId, status])
        (.object [status, eventId]) :=
    .object ⟨namesDiffer, .swap ..⟩
  have space {lexemes : List Json.Lexeme} {text : List Char} :
      Json.LaidOut lexemes text → Json.LaidOut lexemes (' ' :: text) :=
    .space rfl
  have line {lexemes : List Json.Lexeme} {text : List Char} :
      Json.LaidOut lexemes text → Json.LaidOut lexemes ('\n' :: text) :=
    .space rfl
  refine ⟨rfl, ?_⟩
  refine
    (interpret_ignores_arrangement .identifier (by decide) rfl .raise).2.1 _ _
      rearranges _ _ ?_ ?_
  · refine ⟨_, ?_,
      .lexeme trivial <| .lexeme trivial <| .lexeme trivial <| .lexeme ?_ <|
      .lexeme trivial <| .lexeme trivial <| .lexeme trivial <|
      .lexeme trivial <| .lexeme trivial .nil⟩
    · decide
    · rintro next ⟨⟩
      decide
  · refine ⟨_, ?_,
      .lexeme trivial <| space <| .lexeme trivial <| .lexeme trivial <|
      .lexeme trivial <| .lexeme trivial <| line <| .lexeme trivial <| space <|
      .lexeme trivial <| .lexeme ?_ <| .lexeme trivial .nil⟩
    · decide
    · rintro next ⟨⟩
      decide

end Response

end DropletClient
