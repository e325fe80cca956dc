import DropletClient.Proofs.Envelope.Partition

namespace DropletClient

/-!
# Explanations

A failure may be explained under two names. The failure that a response is
interpreted as carries the first explanation that is not blank, and so does its
wording, as long as no blank text stands under the first name: such a text hides
the explanation under the second one.
-/

namespace Envelope

/--
The names under which a failure is explained, in the order in which they are
looked at.
-/
def explanationNames : List String :=
  [explanationName, otherExplanationName]

section Members

variable (members : List (String × Json))

/-- A text that is not blank is given under a name. -/
def Gives (name text : String) : Prop :=
  Json.lookup name members = some (.text text) ∧ Text.isBlankString text = false

/-- The first explanation that is not blank. -/
def FirstExplains (details : String) : Prop :=
  Gives members explanationName details ∨
    (∀ text, ¬ Gives members explanationName text) ∧
      Gives members otherExplanationName details

/-- A blank text is given under the first name. -/
def Hides : Prop :=
  ∃ text,
    Json.lookup explanationName members = some (.text text) ∧
      Text.isBlankString text = true

end Members

variable {members : List (String × Json)} {details : String}

/-- Where anything is explained, there is a first explanation. -/
theorem exists_firstExplains
    (explained : ∃ name ∈ explanationNames, ∃ text, Gives members name text) :
    ∃ details, FirstExplains members details := by
  by_cases first : ∃ text, Gives members explanationName text
  · obtain ⟨text, gives⟩ := first
    exact ⟨text, .inl gives⟩
  · have nothing := not_exists.mp first
    obtain ⟨name, named, text, gives⟩ := explained
    rcases List.mem_cons.mp named with rfl | other
    · exact absurd gives (nothing text)
    · obtain rfl := List.mem_singleton.mp other
      exact ⟨text, .inr ⟨nothing, gives⟩⟩

/--
What hides an explanation leaves nothing that an envelope tells of a failure.
-/
theorem Hides.not_explains
    (hides : Hides members) :
    ¬ Explains members details := by
  obtain ⟨text, has, blank⟩ := hides
  rintro ⟨first | ⟨missing | isNull, _⟩, visible⟩
  · cases has.symm.trans first
    cases blank.symm.trans visible
  · cases has.symm.trans missing
  · cases has.symm.trans isNull

/--
An envelope tells of a failure by the first explanation, unless that is hidden.
-/
theorem FirstExplains.explains
    (first : FirstExplains members details)
    (worded :
      ∀ value,
        Json.lookup explanationName members = some value →
          value = .null ∨ ∃ word, value = .text word)
    (shown : ¬ Hides members) :
    Explains members details := by
  rcases first with ⟨has, visible⟩ | ⟨nothing, hasOther, visible⟩
  · exact ⟨.inl has, visible⟩
  · refine ⟨.inr ⟨?_, hasOther⟩, visible⟩
    cases has : Json.lookup explanationName members with
    | none => exact .inl rfl
    | some value =>
        rcases worded value has with rfl | ⟨word, rfl⟩
        · exact .inr rfl
        · cases blank : Text.isBlankString word with
          | false => exact absurd ⟨has, blank⟩ (nothing word)
          | true => exact absurd ⟨word, has, blank⟩ shown

end Envelope

namespace Response

/--
A response fails by its status, unless that stands for absence, or it tells of a
failed call.
-/
def Fails
    (status : Nat)
    (members : List (String × Json))
    (policy : NotFoundPolicy) : Prop :=
  ¬ IsGood status ∧ ¬ (status = 404 ∧ policy = .absent) ∨
    IsGood status ∧ TellsFailure members

/--
The failure of a response that is explained, by its status and by the
explanation.
-/
inductive IsExplainedBy (status : Nat) (details : String) : Failure → Prop where
  | unauthorized (refused : status = 401) :
      IsExplainedBy status details (.authorization details)
  | notFound (missed : status = 404) :
      IsExplainedBy status details (.notFound details)
  | httpStatus
      (authorized : status ≠ 401)
      (found : status ≠ 404)
      (bad : ¬ IsGood status) :
      IsExplainedBy status details
        (.transport (.httpStatus status (some details)))
  | refusedCall
      (good : IsGood status)
      (marked : ∃ marker ∈ Envelope.accessMarkers,
        marker.toList <:+: Envelope.lowered details) :
      IsExplainedBy status details (.authorization details)
  | failedCall
      (good : IsGood status)
      (unmarked :
        ∀ marker ∈ Envelope.accessMarkers,
          ¬ marker.toList <:+: Envelope.lowered details) :
      IsExplainedBy status details (.provider details)

/-- The failure of a status that is not good, with what is told of it. -/
def failureOfStatus (status : Nat) (told : Option String) : Failure :=
  if status = unauthorized then .authorization (told.getD (statusText status))
  else if status = notFound then .notFound (told.getD (statusText status))
  else .transport (.httpStatus status told)

/-- What is told of a failure that nothing explains. -/
def standIn (status : Nat) (bytes : List UInt8) : String :=
  if isSuccess status then
    "unspecified provider error"
  else
    String.ofList (Text.trim (Text.Utf8.decodeLossy bytes))

variable
  {status : Nat}
  {bytes : List UInt8}
  {members : List (String × Json)}
  {policy : NotFoundPolicy}
  {details : String}
  {failure : Failure}

/-- The envelope that a body spells is the one that its object is read as. -/
theorem ofBytes?_of_object
    {enclosed : Envelope}
    (object : Json.ofBytes? bytes = some (.object members))
    (reads : Envelope.ofJson? (.object members) = some enclosed) :
    Envelope.ofBytes? bytes = some enclosed := by
  rw [Envelope.ofBytes?, object, Option.bind_some, reads]

/--
The members of an object that is read as an envelope are spelled by its body.
-/
theorem spells_of_object
    {enclosed : Envelope}
    (object : Json.ofBytes? bytes = some (.object members))
    (reads : Envelope.ofJson? (.object members) = some enclosed) :
    Spells bytes members := by
  obtain ⟨others, spells, _⟩ :=
    spells_of_ofBytes? (ofBytes?_of_object object reads)
  cases object.symm.trans spells.object
  exact spells

/-- The wording of a failure ends with what explains it. -/
theorem IsExplainedBy.message_eq
    (isExplained : IsExplainedBy status details failure) :
    ∃ front, failure.message = front ++ details := by
  cases isExplained with
  | unauthorized => exact ⟨_, rfl⟩
  | notFound => exact ⟨_, rfl⟩
  | httpStatus =>
      exact ⟨"transport error: " ++ ("HTTP " ++ Text.Decimal.ofNat status ++
        ": "), (String.append_assoc ..).symm⟩
  | refusedCall => exact ⟨_, rfl⟩
  | failedCall => exact ⟨_, rfl⟩

/--
The failure of a failed call is one of refused access if the explanation is
marked so.
-/
theorem isExplainedBy_failureOf
    (good : IsGood status) :
    IsExplainedBy status details (Envelope.failureOf details) := by
  rw [Envelope.failureOf]
  split
  case isTrue marked =>
    obtain ⟨marker, known, occurs⟩ := List.any_eq_true.mp marked
    exact .refusedCall good ⟨marker, known, Envelope.occursIn_iff.mp occurs⟩
  case isFalse unmarked =>
    refine .failedCall good fun marker known occurs => unmarked ?_
    exact List.any_eq_true.mpr ⟨marker, known, Envelope.occursIn_iff.mpr occurs⟩

/--
Only for a status that may stand for absence does it matter whether absence is
a failure.
-/
theorem envelope_raise
    (present : ¬ (status = 404 ∧ policy = .absent))
    (body : Option (List UInt8)) :
    envelope status body .raise = envelope status body policy := by
  cases policy with
  | raise => rfl
  | absent =>
      have found : status ≠ notFound := fun missed => present ⟨missed, rfl⟩
      simp only [envelope, if_neg found]

/--
What the body of an envelope tells is the explanation, or all of it where that
is missing.
-/
theorem describe?_of_spells
    {enclosed : Envelope}
    (spells : Spells bytes members)
    (reads : Envelope.ofJson? (.object members) = some enclosed) :
    describe? (content? (some bytes)) =
      some (enclosed.details?.getD
        (String.ofList (Text.trim (Text.Utf8.decodeLossy bytes)))) := by
  rw [spells.content?, describe?, Option.map_some, describe,
    ofBytes?_of_object spells.object reads, Option.bind_some]
  cases enclosed.details? <;> rfl

/-- What fails is no answer that may stand for absence. -/
theorem Fails.present
    (fails : Fails status members policy) :
    ¬ (status = 404 ∧ policy = .absent) := by
  rcases fails with ⟨_, present⟩ | ⟨good, _⟩
  · exact present
  · rintro ⟨rfl, _⟩
    exact absurd good.2 (by decide)

/--
A status that is not good, and may not stand for absence, is a failure
of its own.
-/
theorem envelope_of_bad
    (bad : ¬ IsGood status)
    (present : ¬ (status = 404 ∧ policy = .absent))
    (body : Option (List UInt8)) :
    envelope status body policy =
      .error (failureOfStatus status (describe? (content? body))) := by
  have unsuccessful : ¬ isSuccess status = true := mt isGood_iff.mp bad
  rw [← envelope_raise present]
  simp only [envelope, failureOfStatus, if_neg unsuccessful]
  split
  · rfl
  · split <;> rfl

/-- What is told of a status that is not good explains its failure. -/
theorem isExplainedBy_failureOfStatus
    (bad : ¬ IsGood status)
    (details : String) :
    IsExplainedBy status details (failureOfStatus status (some details)) := by
  unfold failureOfStatus
  split
  case isTrue refused => exact .unauthorized refused
  case isFalse authorized =>
    split
    case isTrue missed => exact .notFound missed
    case isFalse found => exact .httpStatus authorized found bad

/-- What fails has its explanation in the failure, or what stands in for it. -/
theorem envelope_of_fails
    {enclosed : Envelope}
    (spells : Spells bytes members)
    (reads : Envelope.ofJson? (.object members) = some enclosed)
    (fails : Fails status members policy) :
    ∃ failure,
      IsExplainedBy status
          (enclosed.details?.getD (standIn status bytes)) failure ∧
        envelope status (some bytes) policy = .error failure := by
  rcases fails with ⟨bad, present⟩ | ⟨good, tells⟩
  · have unsuccessful : ¬ isSuccess status = true := mt isGood_iff.mp bad
    refine ⟨_, isExplainedBy_failureOfStatus bad _, ?_⟩
    rw [envelope_of_bad bad present, describe?_of_spells spells reads, standIn,
      if_neg unsuccessful]
  · have succeeds := isGood_iff.mpr good
    rw [envelope_of_spells succeeds spells reads,
      if_pos ((isError_iff reads).mpr tells)]
    refine ⟨_, ?_, rfl⟩
    rw [Envelope.toFailure, standIn, if_pos succeeds]
    exact isExplainedBy_failureOf good

/--
If a failure is explained at all, then what the response is interpreted as
carries the first explanation that is not blank, with a payload and without, and
so does its wording; access is refused by a failed call just if that explanation
says so. This holds unless a blank text hides the explanation, and then the
failure is that of a response which explains nothing.
-/
theorem explanations_are_carried
    (read : Json → Except Mismatch α)
    (field : String)
    (spells : Spells bytes members)
    (fails : Fails status members policy)
    (explained :
      ∃ name ∈ Envelope.explanationNames,
        ∃ text, Envelope.Gives members name text) :
    ∃ details failure,
      Envelope.FirstExplains members details ∧
        interpret read status (some bytes) field policy = .error failure ∧
        interpretUnit status (some bytes) = .error failure ∧
        (¬ Envelope.Hides members →
          IsExplainedBy status details failure ∧
            ∃ front, failure.message = front ++ details) ∧
        (Envelope.Hides members →
          IsExplainedBy status (standIn status bytes) failure) := by
  obtain ⟨details, first⟩ := Envelope.exists_firstExplains explained
  obtain ⟨enclosed, reads⟩ := spells.ofJson?
  obtain ⟨failure, isExplained, encloses⟩ :=
    envelope_of_fails spells reads fails
  refine ⟨details, failure, first, ?_, ?_, fun shown => ?_, fun hides => ?_⟩
  · rw [interpret, encloses]
    rfl
  · rw [interpretUnit, envelope_raise fails.present, encloses]
    rfl
  · have worded :=
      spells.worded Envelope.explanationName
        (List.mem_cons_of_mem _ (List.mem_cons_self ..))
    have told :=
      (Envelope.details?_eq_some reads).mpr (first.explains worded shown)
    rw [told, Option.getD_some] at isExplained
    exact ⟨isExplained, isExplained.message_eq⟩
  · have untold : enclosed.details? = none :=
      Option.eq_none_iff_forall_not_mem.mpr fun text told =>
        hides.not_explains ((Envelope.details?_eq_some reads).mp told)
    rwa [untold, Option.getD_none] at isExplained

set_option maxRecDepth 4000 in
/--
Where the first explanation is null, a failed call is explained by the
second one.
-/
theorem explanations_are_carried_past_null :
    ∃ body members,
      Spells body members ∧
        Fails 200 members .raise ∧
        (∃ name ∈ Envelope.explanationNames,
          ∃ text, Envelope.Gives members name text) ∧
        interpret Record.readInt32 200 (some body) "event_id" .raise =
          .error (.authorization "Access Denied") ∧
        interpretUnit 200 (some body) =
          .error (.authorization "Access Denied") := by
  let body :=
    Text.Utf8.encode
      ("\x7b\"status\":\"ERROR\",\"message\":null,".toList ++
        "\"error_message\":\"Access Denied\"\x7d".toList)
  let members : List (String × Json) :=
    [("status", .text "ERROR"), ("message", .null),
      ("error_message", .text "Access Denied")]
  have spells : Spells body members := spells_of_object rfl rfl
  have fails : Fails 200 members .raise :=
    .inr ⟨⟨by decide, by decide⟩, "ERROR", rfl, by decide⟩
  have explained :
      ∃ name ∈ Envelope.explanationNames,
        ∃ text, Envelope.Gives members name text :=
    ⟨"error_message", by decide, "Access Denied", rfl, by decide⟩
  obtain ⟨details, failure, first, interprets, interpretsUnit, shown, _⟩ :=
    explanations_are_carried Record.readInt32 "event_id" spells fails explained
  have same : details = "Access Denied" := by
    rcases first with ⟨has, _⟩ | ⟨_, has, _⟩
    · cases has
    · cases has
      rfl
  subst same
  have apparent : ¬ Envelope.Hides members := by
    rintro ⟨text, has, _⟩
    cases has
  have marked :
      ∃ marker ∈ Envelope.accessMarkers,
        marker.toList <:+: Envelope.lowered "Access Denied" :=
    ⟨"access denied", by decide, by decide⟩
  cases (shown apparent).1 with
  | unauthorized refused => cases refused
  | notFound missed => cases missed
  | httpStatus _ _ bad => exact absurd ⟨by decide, by decide⟩ bad
  | refusedCall =>
      exact ⟨body, members, spells, fails, explained, interprets,
        interpretsUnit⟩
  | failedCall _ unmarked =>
      obtain ⟨marker, known, occurs⟩ := marked
      exact absurd occurs (unmarked marker known)

set_option maxRecDepth 4000 in
/--
An empty explanation hides the other one, and with it that access was refused.
-/
theorem empty_explanation_hides_refused_access :
    ∃ body members,
      Spells body members ∧
        Fails 200 members .raise ∧
        Envelope.FirstExplains members "Access Denied" ∧
        interpret Record.readInt32 200 (some body) "event_id" .raise =
          .error (.provider "unspecified provider error") ∧
        ¬ ∃ failure,
          IsExplainedBy 200 "Access Denied" failure ∧
            interpret Record.readInt32 200 (some body) "event_id" .raise =
              .error failure := by
  let body :=
    Text.Utf8.encode
      ("\x7b\"status\":\"ERROR\",\"message\":\"\",".toList ++
        "\"error_message\":\"Access Denied\"\x7d".toList)
  let members : List (String × Json) :=
    [("status", .text "ERROR"), ("message", .text ""),
      ("error_message", .text "Access Denied")]
  have spells : Spells body members := spells_of_object rfl rfl
  have first : Envelope.FirstExplains members "Access Denied" := by
    refine .inr ⟨?_, rfl, by decide⟩
    rintro text ⟨has, visible⟩
    cases has
    cases visible
  have interprets :
      interpret Record.readInt32 200 (some body) "event_id" .raise =
        .error (.provider "unspecified provider error") := rfl
  refine ⟨body, members, spells,
    .inr ⟨⟨by decide, by decide⟩, "ERROR", rfl, by decide⟩,
    first, interprets, ?_⟩
  rintro ⟨failure, isExplained, carries⟩
  obtain rfl := Except.error.inj (interprets.symm.trans carries)
  have same :
      ∀ told, IsExplainedBy 200 "Access Denied" (.provider told) →
        told = "Access Denied" := by
    rintro told ⟨⟩
    rfl
  exact absurd (same _ isExplained) (by decide)

end Response

end DropletClient
