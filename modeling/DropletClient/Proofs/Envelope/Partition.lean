import DropletClient.Proofs.Envelope.Classification
import DropletClient.Proofs.Outcome
import DropletClient.Record.Scalar

namespace DropletClient

/-!
# The partition of responses

Every response is one of six kinds, and it is told from the status, from the
body and from the names of the envelope which one it is.
`Response.interpret_partitions` says that each kind of outcome comes from just
the responses of that kind, and that an answer without a payload fails as one
with a payload does, up to the point at which the payload is taken out.
-/

namespace Envelope

/-- A text that occurs inside another one is an infix of it. -/
theorem occursIn_iff
    {part text : List Char} :
    occursIn part text = true ↔ part <:+: text := by
  induction text with
  | nil => simp [occursIn]
  | cons character rest inductionHypothesis =>
      rw [occursIn, Bool.or_eq_true, List.isPrefixOf_iff_prefix,
        inductionHypothesis, List.infix_cons_iff]

/--
What an envelope tells of a failure: the explanation, or the other one where
there is none. A blank text tells nothing.
-/
def Explains (members : List (String × Json)) (details : String) : Prop :=
  (Json.lookup explanationName members = some (.text details) ∨
      (Json.lookup explanationName members = none ∨
          Json.lookup explanationName members = some .null) ∧
        Json.lookup otherExplanationName members = some (.text details)) ∧
    Text.isBlankString details = false

/--
The explanation contains one of the marks of refused access, in letters of
either case.
-/
def ExplainsRefusedAccess (members : List (String × Json)) : Prop :=
  ∃ details,
    Explains members details ∧
      ∃ marker ∈ accessMarkers, marker.toList <:+: lowered details

variable {members : List (String × Json)} {envelope : Envelope}

theorem details?_eq_some
    {details : String}
    (reads : ofJson? (.object members) = some envelope) :
    envelope.details? = some details ↔ Explains members details := by
  obtain ⟨_, readsFirst, readsOther, _⟩ := ofJson?_eq_some.mp reads
  have visible :
      envelope.details? = some details ↔
        envelope.explanation.or envelope.otherExplanation = some details ∧
          Text.isBlankString details = false := by
    simp [details?, Option.filter_eq_some_iff]
  rw [visible, Explains]
  refine and_congr_left fun _ => ?_
  rcases (readReserved?_eq_some.mp readsFirst).2 with
    ⟨nothing, missing⟩ | ⟨word, given, has⟩
  · rcases (readReserved?_eq_some.mp readsOther).2 with
        ⟨nothingElse, missingToo⟩ | ⟨other, givenOther, hasOther⟩
    · rw [nothing, nothingElse]
      rcases missing with missing | missing <;>
        rcases missingToo with missingToo | missingToo <;>
        simp [missing, missingToo]
    · rw [nothing, givenOther, hasOther]
      rcases missing with missing | missing <;> simp [missing]
  · simp [given, has]

/--
The failure that an envelope tells of is refused access if the
explanation says so.
-/
theorem toFailure_of_explainsRefusedAccess
    (reads : ofJson? (.object members) = some envelope)
    (refused : ExplainsRefusedAccess members) :
    ∃ details, envelope.toFailure = .authorization details := by
  obtain ⟨details, explains, marker, known, occurs⟩ := refused
  have marked : explainsRefusedAccess details = true :=
    List.any_eq_true.mpr ⟨marker, known, occursIn_iff.mpr occurs⟩
  refine ⟨details, ?_⟩
  rw [toFailure, (details?_eq_some reads).mpr explains, Option.getD_some,
    failureOf, if_pos marked]

/--
The failure that an envelope tells of is one of the provider if no access
was refused.
-/
theorem toFailure_of_not_explainsRefusedAccess
    (reads : ofJson? (.object members) = some envelope)
    (granted : ¬ ExplainsRefusedAccess members) :
    ∃ details, envelope.toFailure = .provider details := by
  cases told : envelope.details? with
  | none =>
      refine ⟨"unspecified provider error", ?_⟩
      rw [toFailure, told]
      decide
  | some details =>
      have unmarked : ¬ explainsRefusedAccess details = true := by
        intro marked
        obtain ⟨marker, known, occurs⟩ := List.any_eq_true.mp marked
        exact granted
          ⟨details, (details?_eq_some reads).mp told, marker, known,
            occursIn_iff.mp occurs⟩
      refine ⟨details, ?_⟩
      rw [toFailure, told, Option.getD_some, failureOf, if_neg unmarked]

end Envelope

namespace Response

/-- A status that announces success. -/
def IsGood (status : Nat) : Prop :=
  200 ≤ status ∧ status ≤ 299

/-- A body that is missing, or that holds nothing but ASCII white space. -/
def IsBlank (body : Option (List UInt8)) : Prop :=
  ∀ bytes, body = some bytes → ∀ byte ∈ bytes, isBlankByte byte = true

/--
A response with a good status whose body spells an envelope with some members.
-/
def Encloses
    (status : Nat)
    (body : Option (List UInt8))
    (members : List (String × Json)) : Prop :=
  IsGood status ∧ ∃ bytes, body = some bytes ∧ Spells bytes members

section Kinds

variable (status : Nat) (body : Option (List UInt8))

/--
A response that refuses access: by its status, or in the explanation of a
failed call.
-/
def RefusesAccess : Prop :=
  status = 401 ∨
    ∃ members,
      Encloses status body members ∧ TellsFailure members ∧
        Envelope.ExplainsRefusedAccess members

/-- A response that tells of a failed call, and not of refused access. -/
def ReportsFailure : Prop :=
  ∃ members,
    Encloses status body members ∧ TellsFailure members ∧
      ¬ Envelope.ExplainsRefusedAccess members

/--
A response that means that there is nothing where there has to be something.
-/
def Misses (policy : NotFoundPolicy) : Prop :=
  status = 404 ∧ policy = .raise

/-- A response that means that there is nothing, and that this is fine. -/
def HasNothing (policy : NotFoundPolicy) : Prop :=
  status = 404 ∧ policy = .absent ∨ IsGood status ∧ IsBlank body

/-- A response that delivers a record under a name. -/
def Delivers
    (read : Json → Except Mismatch α)
    (field : String)
    (record : α) : Prop :=
  ∃ members value,
    Encloses status body members ∧ ¬ TellsFailure members ∧
      Json.lookup field members = some value ∧ value ≠ .null ∧
      read value = .ok record

/--
A response that is good as far as it can be told without looking at the payload.
-/
def ReachesPayload : Prop :=
  IsGood status ∧
    (IsBlank body ∨
      ∃ members, Encloses status body members ∧ ¬ TellsFailure members)

end Kinds

variable {status : Nat} {body : Option (List UInt8)}

theorem isGood_iff :
    isSuccess status = true ↔ IsGood status := by
  simp [isSuccess, IsGood]

theorem content?_eq_none_iff_isBlank :
    content? body = none ↔ IsBlank body := by
  cases body with
  | none => exact iff_of_true rfl nofun
  | some bytes => simp [content?, IsBlank]

/-- Whose body spells an envelope is not blank. -/
theorem Encloses.not_isBlank
    {members : List (String × Json)}
    (encloses : Encloses status body members) :
    ¬ IsBlank body := by
  obtain ⟨_, bytes, rfl, spells⟩ := encloses
  intro blank
  cases spells.content?.symm.trans (content?_eq_none_iff_isBlank.mpr blank)

/-- A body spells one envelope at most. -/
theorem Encloses.unique
    {first second : List (String × Json)}
    (isFirst : Encloses status body first)
    (isSecond : Encloses status body second) :
    first = second := by
  obtain ⟨_, bytes, rfl, spellsFirst⟩ := isFirst
  obtain ⟨_, _, same, spellsSecond⟩ := isSecond
  cases same
  have both := spellsFirst.object.symm.trans spellsSecond.object
  simpa using both

/--
A response that is good without its payload has an envelope, or nothing in
place of it.
-/
private theorem envelope_of_reachesPayload
    (reaches : ReachesPayload status body) :
    ∃ enclosed, envelope status body .raise = .ok enclosed := by
  obtain ⟨good, blank | ⟨members, ⟨_, bytes, rfl, spells⟩, fine⟩⟩ := reaches
  · refine ⟨none, ?_⟩
    rw [envelope_of_isSuccess (isGood_iff.mpr good),
      content?_eq_none_iff_isBlank.mpr blank]
  · obtain ⟨enclosed, reads⟩ := spells.ofJson?
    refine ⟨some enclosed, ?_⟩
    rw [envelope_of_spells (isGood_iff.mpr good) spells reads,
      if_neg (mt (isError_iff reads).mp fine)]

/--
Only a response that is good without its payload has an envelope, or nothing in
place of it.
-/
private theorem reachesPayload_of_envelope
    {enclosed : Option Envelope}
    (encloses : envelope status body .raise = .ok enclosed) :
    ReachesPayload status body := by
  cases succeeds : isSuccess status with
  | false =>
      unfold envelope at encloses
      simp only [succeeds] at encloses
      split at encloses
      · cases encloses
      · split at encloses <;> cases encloses
  | true =>
      refine ⟨isGood_iff.mp succeeds, ?_⟩
      rw [envelope_of_isSuccess succeeds] at encloses
      cases something : content? body with
      | none => exact .inl (content?_eq_none_iff_isBlank.mp something)
      | some bytes =>
          obtain ⟨rfl, _⟩ := Option.filter_eq_some_iff.mp something
          simp only [something] at encloses
          cases spelled : Envelope.ofBytes? bytes with
          | none => simp [spelled] at encloses
          | some known =>
              obtain ⟨members, spells, reads⟩ := spells_of_ofBytes? spelled
              simp only [spelled] at encloses
              split at encloses
              · cases encloses
              · next noError =>
                  exact .inr
                    ⟨members, ⟨isGood_iff.mp succeeds, bytes, rfl, spells⟩,
                      mt (isError_iff reads).mpr noError⟩

/--
An answer without a payload is good exactly if nothing fails before the payload
is reached.
-/
theorem interpretUnit_eq_ok :
    interpretUnit status body = .ok () ↔ ReachesPayload status body := by
  constructor
  · intro fine
    obtain ⟨enclosed, encloses, _⟩ := Outcome.map_eq_ok.mp fine
    exact reachesPayload_of_envelope encloses
  · intro reaches
    obtain ⟨enclosed, encloses⟩ := envelope_of_reachesPayload reaches
    rw [interpretUnit, encloses]
    rfl

/--
What fails before the payload is reached fails in the same way with a payload
and without.
-/
theorem interpretUnit_eq_error
    (read : Json → Except Mismatch α)
    (field : String)
    (fails : ¬ ReachesPayload status body) :
    ∃ failure,
      interpretUnit status body = .error failure ∧
        interpret read status body field .raise = .error failure := by
  cases encloses : envelope status body .raise with
  | ok enclosed => exact absurd (reachesPayload_of_envelope encloses) fails
  | error failure =>
      refine ⟨failure, ?_, ?_⟩
      · rw [interpretUnit, encloses]
        rfl
      · rw [interpret, encloses]
        rfl

/--
A failed call, or a status that announces no success, does not get as far as
the payload.
-/
theorem not_reachesPayload
    (fails : ¬ IsGood status ∨
      ∃ members, Encloses status body members ∧ TellsFailure members) :
    ¬ ReachesPayload status body := by
  rintro ⟨good, blank | ⟨members, encloses, fine⟩⟩
  · rcases fails with bad | ⟨others, failing, _⟩
    · exact bad good
    · exact failing.not_isBlank blank
  · rcases fails with bad | ⟨others, failing, tells⟩
    · exact bad good
    · rw [failing.unique encloses] at tells
      exact fine tells

/--
A record is delivered only by a response that is good without its payload.
-/
theorem Delivers.reachesPayload
    {read : Json → Except Mismatch α}
    {field : String}
    {record : α}
    (delivers : Delivers status body read field record) :
    ReachesPayload status body := by
  obtain ⟨members, _, encloses, fine, _⟩ := delivers
  exact ⟨encloses.1, .inr ⟨members, encloses, fine⟩⟩

section Partition

variable
  {read : Json → Except Mismatch α}
  {field : String}
  {policy : NotFoundPolicy}

/-- What a response that encloses a failed call is interpreted as. -/
private theorem interpret_of_tellsFailure
    (unreserved : field ∉ Envelope.reservedNames)
    {members : List (String × Json)}
    (encloses : Encloses status body members)
    (fails : TellsFailure members) :
    ∃ envelope,
      Envelope.ofJson? (.object members) = some envelope ∧
        interpret read status body field policy =
          .error envelope.toFailure := by
  obtain ⟨good, bytes, rfl, spells⟩ := encloses
  obtain ⟨envelope, reads⟩ := spells.ofJson?
  exact ⟨envelope, reads,
    (Classifies.failedCall (isGood_iff.mpr good)
      spells fails reads).interpret_eq unreserved⟩

private theorem interpret_of_refusesAccess
    (unreserved : field ∉ Envelope.reservedNames)
    (refuses : RefusesAccess status body) :
    ∃ details, interpret read status body field policy =
      .error (.authorization details) := by
  rcases refuses with rfl | ⟨members, encloses, fails, refused⟩
  · exact ⟨_, Classifies.unauthorized.interpret_eq unreserved⟩
  · obtain ⟨envelope, reads, interprets⟩ :=
      interpret_of_tellsFailure unreserved encloses fails
    obtain ⟨details, isRefusal⟩ :=
      Envelope.toFailure_of_explainsRefusedAccess reads refused
    exact ⟨details, by rw [interprets, isRefusal]⟩

private theorem interpret_of_reportsFailure
    (unreserved : field ∉ Envelope.reservedNames)
    (reports : ReportsFailure status body) :
    ∃ details,
      interpret read status body field policy = .error (.provider details) := by
  obtain ⟨members, encloses, fails, granted⟩ := reports
  obtain ⟨envelope, reads, interprets⟩ :=
    interpret_of_tellsFailure unreserved encloses fails
  obtain ⟨details, isReport⟩ :=
    Envelope.toFailure_of_not_explainsRefusedAccess reads granted
  exact ⟨details, by rw [interprets, isReport]⟩

private theorem interpret_of_misses
    (unreserved : field ∉ Envelope.reservedNames)
    (misses : Misses status policy) :
    ∃ details,
      interpret read status body field policy = .error (.notFound details) := by
  obtain ⟨rfl, raised⟩ := misses
  exact ⟨_, (Classifies.notFound raised).interpret_eq unreserved⟩

private theorem interpret_of_hasNothing
    (unreserved : field ∉ Envelope.reservedNames)
    (nothing : HasNothing status body policy) :
    interpret read status body field policy = .ok none := by
  rcases nothing with ⟨rfl, allowed⟩ | ⟨good, blank⟩
  · exact (Classifies.absent allowed).interpret_eq unreserved
  · exact (Classifies.blank (isGood_iff.mpr good)
      (content?_eq_none_iff_isBlank.mpr blank)).interpret_eq unreserved

private theorem interpret_of_delivers
    (unreserved : field ∉ Envelope.reservedNames)
    {record : α}
    (delivers : Delivers status body read field record) :
    interpret read status body field policy = .ok (some record) := by
  obtain ⟨members, value, ⟨good, bytes, rfl, spells⟩, fine, carries,
      present, reads⟩ :=
    delivers
  exact (Classifies.carried (isGood_iff.mpr good) spells fine carries present
    reads).interpret_eq unreserved

/-- What a response is interpreted as, by its kind. -/
inductive Meaning
    (status : Nat)
    (body : Option (List UInt8))
    (read : Json → Except Mismatch α)
    (field : String)
    (policy : NotFoundPolicy) :
    Except Failure (Option α) → Prop where
  | refusal {details : String} (refuses : RefusesAccess status body) :
      Meaning status body read field policy (.error (.authorization details))
  | miss {details : String} (misses : Misses status policy) :
      Meaning status body read field policy (.error (.notFound details))
  | nothing (fine : HasNothing status body policy) :
      Meaning status body read field policy (.ok none)
  | report {details : String} (reports : ReportsFailure status body) :
      Meaning status body read field policy (.error (.provider details))
  | delivery {record : α} (delivers : Delivers status body read field record) :
      Meaning status body read field policy (.ok (some record))
  | unusable (fault : TransportFault) :
      Meaning status body read field policy (.error (.transport fault))

/-- Every response has a meaning, which is what it is interpreted as. -/
private theorem meaning_interpret
    (unreserved : field ∉ Envelope.reservedNames) :
    Meaning status body read field policy
      (interpret read status body field policy) := by
  have classifies := (classifies_iff unreserved).mpr
    (Eq.refl (interpret read status body field policy))
  generalize interpret read status body field policy = outcome at classifies
  cases classifies with
  | unauthorized => exact .refusal (.inl rfl)
  | absent allowed => exact .nothing (.inl ⟨rfl, allowed⟩)
  | notFound raised => exact .miss ⟨rfl, raised⟩
  | httpStatus => exact .unusable _
  | blank succeeds nothing =>
      exact .nothing
        (.inr ⟨isGood_iff.mp succeeds, content?_eq_none_iff_isBlank.mp nothing⟩)
  | notAnEnvelope => exact .unusable _
  | @failedCall _ bytes members envelope succeeds spells fails reads =>
      have encloses : Encloses status (some bytes) members :=
        ⟨isGood_iff.mp succeeds, bytes, rfl, spells⟩
      by_cases refused : Envelope.ExplainsRefusedAccess members
      · obtain ⟨details, isRefusal⟩ :=
          Envelope.toFailure_of_explainsRefusedAccess reads refused
        rw [isRefusal]
        exact .refusal (.inr ⟨members, encloses, fails, refused⟩)
      · obtain ⟨details, isReport⟩ :=
          Envelope.toFailure_of_not_explainsRefusedAccess reads refused
        rw [isReport]
        exact .report ⟨members, encloses, fails, refused⟩
  | missingPayload => exact .unusable _
  | illTyped => exact .unusable _
  | @carried _ bytes members value _ succeeds spells fine carries
        present reads =>
      exact .delivery
        ⟨members, value, ⟨isGood_iff.mp succeeds, bytes, rfl, spells⟩,
          fine, carries, present, reads⟩

/-- A response of some other kind is not one of no use. -/
private theorem interpret_ne_transport
    (unreserved : field ∉ Envelope.reservedNames)
    (kinds :
      RefusesAccess status body ∨ Misses status policy ∨
        HasNothing status body policy ∨
        ReportsFailure status body ∨
        ∃ record, Delivers status body read field record)
    (fault : TransportFault) :
    interpret read status body field policy ≠ .error (.transport fault) := by
  intro unusable
  rcases kinds with refuses | misses | nothing | reports | ⟨record, delivers⟩
  · obtain ⟨details, interprets⟩ :=
      interpret_of_refusesAccess unreserved refuses
    cases unusable.symm.trans interprets
  · obtain ⟨details, interprets⟩ := interpret_of_misses unreserved misses
    cases unusable.symm.trans interprets
  · cases unusable.symm.trans (interpret_of_hasNothing unreserved nothing)
  · obtain ⟨details, interprets⟩ :=
      interpret_of_reportsFailure unreserved reports
    cases unusable.symm.trans interprets
  · cases unusable.symm.trans (interpret_of_delivers unreserved delivers)

/--
What a response is interpreted as is told by its kind. Access is refused by the
status or by a failed call that explains so, something is missing where absence
is a failure, there is nothing, a call failed in another way, or a record is
delivered; every other response is of no use.
-/
theorem interpret_partitions
    (read : Json → Except Mismatch α)
    (field : String)
    (unreserved : field ∉ Envelope.reservedNames)
    (policy : NotFoundPolicy)
    (status : Nat)
    (body : Option (List UInt8)) :
    ((∃ details, interpret read status body field policy =
          .error (.authorization details)) ↔
        RefusesAccess status body) ∧
      ((∃ details, interpret read status body field policy =
          .error (.notFound details)) ↔
        Misses status policy) ∧
      (interpret read status body field policy = .ok none ↔
        HasNothing status body policy) ∧
      ((∃ details, interpret read status body field policy =
          .error (.provider details)) ↔
        ReportsFailure status body) ∧
      (∀ record,
        interpret read status body field policy = .ok (some record) ↔
          Delivers status body read field record) ∧
      ((∃ fault,
          interpret read status body field policy = .error (.transport fault)) ↔
        ¬ (RefusesAccess status body ∨
          Misses status policy ∨
          HasNothing status body policy ∨
          ReportsFailure status body ∨
          ∃ record, Delivers status body read field record)) ∧
      (ReachesPayload status body → interpretUnit status body = .ok ()) ∧
      (¬ ReachesPayload status body →
        ∃ failure,
          interpretUnit status body = .error failure ∧
            interpret read status body field .raise = .error failure) ∧
      (¬ IsGood status ∨
          (∃ members, Encloses status body members ∧ TellsFailure members) →
        (∀ record,
            interpret read status body field policy ≠ .ok (some record)) ∧
          interpretUnit status body ≠ .ok ()) := by
  have meaning := @meaning_interpret _ status body read field policy unreserved
  refine ⟨⟨?_, interpret_of_refusesAccess unreserved⟩,
    ⟨?_, interpret_of_misses unreserved⟩,
    ⟨?_, interpret_of_hasNothing unreserved⟩,
    ⟨?_, interpret_of_reportsFailure unreserved⟩,
    fun record => ⟨?_, interpret_of_delivers unreserved⟩,
    ⟨?_, ?_⟩,
    interpretUnit_eq_ok.mpr,
    interpretUnit_eq_error read field,
    fun fails => ⟨fun record interprets => ?_, ?_⟩⟩
  · rintro ⟨details, interprets⟩
    rw [interprets] at meaning
    cases meaning with
    | refusal refuses => exact refuses
  · rintro ⟨details, interprets⟩
    rw [interprets] at meaning
    cases meaning with
    | miss misses => exact misses
  · intro interprets
    rw [interprets] at meaning
    cases meaning with
    | nothing fine => exact fine
  · rintro ⟨details, interprets⟩
    rw [interprets] at meaning
    cases meaning with
    | report reports => exact reports
  · intro interprets
    rw [interprets] at meaning
    cases meaning with
    | delivery delivers => exact delivers
  · rintro ⟨fault, interprets⟩ kinds
    exact interpret_ne_transport unreserved kinds fault interprets
  · intro noKind
    generalize interpret read status body field policy = outcome at meaning
    cases meaning with
    | refusal refuses => exact absurd (.inl refuses) noKind
    | miss misses => exact absurd (.inr (.inl misses)) noKind
    | nothing fine => exact absurd (.inr (.inr (.inl fine))) noKind
    | report reports => exact absurd (.inr (.inr (.inr (.inl reports)))) noKind
    | delivery delivers =>
        exact absurd (.inr (.inr (.inr (.inr ⟨_, delivers⟩)))) noKind
    | unusable fault => exact ⟨fault, rfl⟩
  · rw [interprets] at meaning
    cases meaning with
    | delivery delivers =>
        exact not_reachesPayload fails delivers.reachesPayload
  · exact mt interpretUnit_eq_ok.mp (not_reachesPayload fails)

end Partition

/--
A failed call that comes with a good status is refused access, if it says so in
small letters.
-/
theorem interpret_partitions_refused_call :
    "event_id" ∉ Envelope.reservedNames ∧
      ∃ body : List UInt8,
        Json.ofBytes? body =
            some (.object
              [("status", .text "error"), ("message", .text "Access Denied")]) ∧
          ∃ details,
            interpret Record.readInt32 200 (some body) "event_id" .raise =
              .error (.authorization details) := by
  let body :=
    Text.Utf8.encode
      "\x7b\"status\": \"error\", \"message\": \"Access Denied\"\x7d".toList
  have object :
      Json.ofBytes? body =
        some (.object
          [("status", .text "error"), ("message", .text "Access Denied")]) :=
    rfl
  have refuses : RefusesAccess 200 (some body) := by
    refine .inr ⟨_, ⟨⟨by decide, by decide⟩, body, rfl, object, by decide, ?_⟩,
      ⟨"error", rfl, by decide⟩, "Access Denied", ⟨.inl rfl, by decide⟩,
        "access denied",
      by decide, by decide⟩
    simp +contextual
      [Envelope.reservedNames, Envelope.statusName, Envelope.explanationName,
      Envelope.otherExplanationName, Json.lookup, eq_comm]
  exact ⟨by decide, body, object,
    (interpret_partitions Record.readInt32 "event_id" (by decide) .raise 200
      (some body)).1.mpr refuses⟩

end Response

end DropletClient
