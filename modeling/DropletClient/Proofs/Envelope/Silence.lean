import DropletClient.Proofs.Envelope.Explanation
import DropletClient.Proofs.Text.Parts

namespace DropletClient

/-!
# Silent failures

A failure that a response is interpreted as says something: its text holds a
character other than white space. The one exception is a bad status with a
silent body, which is white space throughout, but not the white space that a
blank body consists of. It is taken for a body that tells something, and what
it tells is nothing. `Response.failures_say_something` says that there is no
other one.
-/

namespace Text

/-- Something of a text can be seen. -/
def IsVisible (text : String) : Prop :=
  ∃ character ∈ text.toList, isBlank character = false

theorem isVisible_iff
    {text : String} :
    IsVisible text ↔ isBlankString text = false := by
  simp [IsVisible, isBlankString, allBlank]

theorem not_isVisible_empty :
    ¬ IsVisible "" := by
  rintro ⟨character, member, _⟩
  cases member

end Text

namespace Response

/-- A body is silent if nothing of it can be seen although it is not blank. -/
def IsSilent (body : Option (List UInt8)) : Prop :=
  ∃ bytes,
    body = some bytes ∧ ¬ IsBlank body ∧
      Text.allBlank (Text.Utf8.decodeLossy bytes) = true

/--
The wording of a bad status: the status alone, or with something to be seen
behind it.
-/
def TellsStatus (status : Nat) (wording : String) : Prop :=
  wording = statusText status ∨
    ∃ details,
      Text.IsVisible details ∧ wording = statusText status ++ ": " ++ details

/-- A response fails in one of these ways, and the failure says something. -/
inductive SaysSomething (status : Nat) : Failure → Prop where
  | authorization
      {details : String}
      (visible : Text.IsVisible details) :
      SaysSomething status (.authorization details)
  | notFound
      {details : String}
      (visible : Text.IsVisible details) :
      SaysSomething status (.notFound details)
  | provider
      {details : String}
      (visible : Text.IsVisible details) :
      SaysSomething status (.provider details)
  | badStatus
      {fault : TransportFault}
      (bad : ¬ IsGood status)
      (tells : TellsStatus status fault.message) :
      SaysSomething status (.transport fault)
  | badContent
      {fault : TransportFault}
      (good : IsGood status) :
      SaysSomething status (.transport fault)

variable
  {status : Nat}
  {bytes : List UInt8}
  {body : Option (List UInt8)}
  {policy : NotFoundPolicy}
  {failure : Failure}

theorem isVisible_statusText
    (status : Nat) :
    Text.IsVisible (statusText status) :=
  ⟨'H', by simp [statusText], by decide⟩

/-- What an envelope tells of a failure can be seen. -/
theorem isVisible_of_details?
    {enclosed : Envelope}
    {details : String}
    (told : enclosed.details? = some details) :
    Text.IsVisible details := by
  obtain ⟨_, visible⟩ := Option.filter_eq_some_iff.mp told
  exact Text.isVisible_iff.mpr (by simpa using visible)

/-- What a body tells can be seen if anything of the body can. -/
theorem isVisible_describe_iff :
    Text.IsVisible (describe bytes) ↔
      Text.allBlank (Text.Utf8.decodeLossy bytes) = false := by
  cases told : (Envelope.ofBytes? bytes).bind Envelope.details? with
  | none =>
      rw [describe, told, Text.isVisible_iff, Text.isBlankString,
        String.toList_ofList, Text.allBlank_trim]
  | some details =>
      obtain ⟨enclosed, reads, tells⟩ := Option.bind_eq_some_iff.mp told
      rw [describe, told]
      refine iff_of_true (isVisible_of_details? tells) ?_
      -- there is no envelope in a body of which nothing can be seen
      cases blank : Text.allBlank (Text.Utf8.decodeLossy bytes) with
      | false => rfl
      | true =>
          rw [Envelope.ofBytes?, Json.ofBytes?_of_allBlank blank] at reads
          cases reads

/-- A body of which nothing can be seen tells nothing. -/
theorem describe_of_allBlank
    (blank : Text.allBlank (Text.Utf8.decodeLossy bytes) = true) :
    describe bytes = "" := by
  rw [describe, Envelope.ofBytes?, Json.ofBytes?_of_allBlank blank]
  change String.ofList (Text.trim (Text.Utf8.decodeLossy bytes)) = ""
  rw [(Text.trim_eq_nil_iff _).mpr blank]

/--
What a body tells can be seen, unless the body is silent; a blank body tells
nothing at all.
-/
theorem not_isSilent_iff :
    ¬ IsSilent body ↔
      ∀ details,
        describe? (content? body) = some details → Text.IsVisible details := by
  cases something : content? body with
  | none =>
      have blank := content?_eq_none_iff_isBlank.mp something
      exact iff_of_true (fun ⟨_, _, seen, _⟩ => seen blank) nofun
  | some bytes =>
      obtain ⟨rfl, _⟩ := Option.filter_eq_some_iff.mp something
      have notBlank : ¬ IsBlank (some bytes) := fun blank => by
        cases something.symm.trans (content?_eq_none_iff_isBlank.mpr blank)
      simp [IsSilent, notBlank, describe?, isVisible_describe_iff]

/-- What is told of a silent body is empty. -/
theorem IsSilent.describe?
    (silent : IsSilent body) :
    Response.describe? (content? body) = some "" := by
  obtain ⟨bytes, rfl, seen, blank⟩ := silent
  cases something : content? (some bytes) with
  | none => exact absurd (content?_eq_none_iff_isBlank.mp something) seen
  | some content =>
      obtain ⟨same, _⟩ := Option.filter_eq_some_iff.mp something
      cases same
      rw [Response.describe?, Option.map_some, describe_of_allBlank blank]

/--
Only what has to be seen behind a status decides whether its wording tells
something.
-/
theorem tellsStatus_iff
    {told : Option String} :
    TellsStatus status (TransportFault.httpStatus status told).message ↔
      ∀ details, told = some details → Text.IsVisible details := by
  cases told with
  | none => exact iff_of_true (.inl rfl) nofun
  | some details =>
      have worded :
          (TransportFault.httpStatus status (some details)).message =
            statusText status ++ ": " ++ details := rfl
      rw [worded]
      constructor
      · rintro (short | ⟨seen, visible, same⟩) _ ⟨⟩
        · have lengths := congrArg String.length short
          simp only [String.length_append] at lengths
          have colon : (": ").length = 2 := rfl
          omega
        · obtain rfl := String.append_right_inj _ |>.mp same
          exact visible
      · intro visible
        exact .inr ⟨details, visible details rfl, rfl⟩

/--
The failure of a bad status says something if what is told of it can be seen.
-/
theorem saysSomething_failureOfStatus
    {told : Option String}
    (bad : ¬ IsGood status) :
    SaysSomething status (failureOfStatus status told) ↔
      ∀ details, told = some details → Text.IsVisible details := by
  have given :
      Text.IsVisible (told.getD (statusText status)) ↔
        ∀ details, told = some details → Text.IsVisible details := by
    cases told with
    | none => exact iff_of_true (isVisible_statusText status) nofun
    | some details => simp
  unfold failureOfStatus
  split
  · rw [← given]
    exact ⟨fun | .authorization visible => visible, .authorization⟩
  · split
    · rw [← given]
      exact ⟨fun | .notFound visible => visible, .notFound⟩
    · rw [← tellsStatus_iff]
      exact
        ⟨fun
          | .badStatus _ tells => tells
          | .badContent good => absurd good bad,
        .badStatus bad⟩

/--
The failure of a failed call says something, and so does any other one with a
good status.
-/
theorem saysSomething_of_good
    (good : IsGood status)
    (fails : envelope status body policy = .error failure) :
    SaysSomething status failure := by
  have told (enclosed : Envelope) :
      SaysSomething status enclosed.toFailure := by
    have visible : Text.IsVisible
        (enclosed.details?.getD "unspecified provider error") := by
      cases tells : enclosed.details? with
      | none => exact Text.isVisible_iff.mpr (by decide)
      | some details => exact isVisible_of_details? tells
    rw [Envelope.toFailure, Envelope.failureOf]
    split
    · exact .authorization visible
    · exact .provider visible
  rw [envelope_of_isSuccess (isGood_iff.mpr good)] at fails
  split at fails
  · cases fails
  · split at fails
    · cases fails
      exact .badContent good
    · split at fails
      · cases fails
        exact told _
      · cases fails

/--
Whether a failure says something, if there is one before the payload is reached.
-/
theorem saysSomething_of_envelope
    (fails : envelope status body policy = .error failure) :
    (SaysSomething status failure ↔ IsGood status ∨ ¬ IsSilent body) ∧
      (¬ SaysSomething status failure → IsExplainedBy status "" failure) := by
  by_cases good : IsGood status
  · have worded := saysSomething_of_good good fails
    exact ⟨iff_of_true worded (.inl good), fun nothing => absurd worded nothing⟩
  · have present : ¬ (status = 404 ∧ policy = .absent) := by
      rintro ⟨rfl, rfl⟩
      cases fails
    rw [envelope_of_bad good present] at fails
    cases fails
    have worded :
        SaysSomething status
            (failureOfStatus status (describe? (content? body))) ↔
          ¬ IsSilent body :=
      (saysSomething_failureOfStatus good).trans not_isSilent_iff.symm
    refine ⟨worded.trans (by simp [good]), fun nothing => ?_⟩
    have silent : IsSilent body := Classical.not_not.mp (mt worded.mpr nothing)
    rw [silent.describe?]
    exact isExplainedBy_failureOfStatus good ""

/-- A failure over the payload comes with a good status. -/
theorem envelope_of_interpret
    {read : Json → Except Mismatch α}
    {field : String}
    (fails : interpret read status body field policy = .error failure) :
    envelope status body policy = .error failure ∨
      IsGood status ∧ ∃ fault, failure = .transport fault := by
  cases encloses : envelope status body policy with
  | error earlier =>
      rw [interpret, encloses] at fails
      cases fails
      exact .inl rfl
  | ok enclosed =>
      have good : IsGood status := Classical.byContradiction fun bad => by
        by_cases absent : status = 404 ∧ policy = .absent
        · obtain ⟨rfl, rfl⟩ := absent
          cases fails
        · cases (envelope_of_bad bad absent body).symm.trans encloses
      refine .inr ⟨good, ?_⟩
      cases enclosed with
      | none =>
          rw [interpret, encloses] at fails
          cases fails
      | some enclosed =>
          simp only [interpret, encloses, Outcome.ok_bind] at fails
          split at fails
          · cases fails
            exact ⟨_, rfl⟩
          · split at fails
            · cases fails
            · cases fails
              exact ⟨_, rfl⟩

/--
The failure that a response is interpreted as, with a payload and without, says
something if and only if the status is good or the body is not silent; where it
says nothing, nothing explains it.
-/
theorem failures_say_something
    (read : Json → Except Mismatch α)
    (field : String)
    (policy : NotFoundPolicy)
    (status : Nat)
    (body : Option (List UInt8))
    (failure : Failure)
    (fails :
      interpret read status body field policy = .error failure ∨
        interpretUnit status body = .error failure) :
    (SaysSomething status failure ↔ IsGood status ∨ ¬ IsSilent body) ∧
      (¬ SaysSomething status failure → IsExplainedBy status "" failure) := by
  rcases fails with fails | fails
  · rcases envelope_of_interpret fails with fails | ⟨good, fault, rfl⟩
    · exact saysSomething_of_envelope fails
    · exact ⟨iff_of_true (.badContent good) (.inl good), fun nothing =>
        absurd (.badContent good) nothing⟩
  · cases encloses : envelope status body .raise with
    | ok enclosed =>
        rw [interpretUnit, encloses] at fails
        cases fails
    | error earlier =>
        rw [interpretUnit, encloses] at fails
        cases fails
        exact saysSomething_of_envelope encloses

set_option maxRecDepth 4000 in
/-- Where the explanation is blank, the whole body is told. -/
theorem failures_say_something_of_blank_explanation :
    ∃ body failure,
      failure =
          .transport (.httpStatus 503 (some "\x7b\"message\":\" \"\x7d")) ∧
        interpret Record.readInt32 503 (some body) "event_id" .raise =
          .error failure ∧
        ¬ IsSilent (some body) ∧
        SaysSomething 503 failure := by
  let body := Text.Utf8.encode "\x7b\"message\":\" \"\x7d".toList
  have audible : ¬ IsSilent (some body) := by
    rintro ⟨_, same, _, blank⟩
    cases same
    exact absurd blank (by decide)
  have fails :
      interpret Record.readInt32 503 (some body) "event_id" .raise =
        .error
          (.transport (.httpStatus 503 (some "\x7b\"message\":\" \"\x7d"))) :=
    rfl
  have worded :=
    failures_say_something Record.readInt32 "event_id" .raise 503 (some body) _
      (.inl fails)
  exact ⟨body, _, rfl, fails, audible, worded.1.mpr (.inr audible)⟩

/--
A vertical tab in the body silences the failure of a status that would have said
something.
-/
theorem vertical_tab_silences_refused_access :
    interpret Record.readInt32 401 (some [0x0B]) "event_id" .raise =
        .error (.authorization "") ∧
      interpretUnit 401 (some [0x0B]) = .error (.authorization "") ∧
      interpretUnit 401 none = .error (.authorization (statusText 401)) ∧
      ¬ SaysSomething 401 (.authorization "") := by
  refine ⟨rfl, rfl, rfl, ?_⟩
  rintro ⟨visible⟩
  exact Text.not_isVisible_empty visible

end Response

end DropletClient
