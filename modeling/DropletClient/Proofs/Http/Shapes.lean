import DropletClient.Http.Client
import DropletClient.Proofs.Envelope.Partition

namespace DropletClient

/-!
# The shapes of requests

A request asks for one thing that may be absent, for a list, for one thing that
must be there, or for nothing at all. The four shapes agree on every response,
but for those that bring nothing and those that say that there is nothing.
-/

/-- What a request expects, and how it is read. -/
inductive Shape : Type → Type 1 where
  | one (layout : Record.Layout α) (field : String) : Shape (Option α)
  | many (layout : Record.Layout α) (field : String) : Shape (List α)
  | required (read : Json → Except Mismatch α) (path field : String) : Shape α
  | nothing : Shape Unit

namespace Shape

open Response

/-- How a request of a shape is answered by a response. -/
def read (response : HttpResponse) : Shape β → Except Failure β
  | one layout field => Response.one layout field response
  | many layout field => Response.many layout field response
  | required read path field => Response.required read path field response
  | nothing => Response.nothing response

/-- How a request of a shape is answered where a response brings nothing. -/
def ofNothing : Shape β → Except Failure β
  | one _ _ => .ok none
  | many _ _ => .ok []
  | required _ path _ => .error (.transport (.emptyResponse path))
  | nothing => .ok ()

/-- A request for a single thing, which may be absent. -/
def isLookup : Shape β → Bool
  | one _ _ => true
  | _ => false

/-- What it means to a request that there is no such thing. -/
def policy (shape : Shape β) : NotFoundPolicy :=
  if shape.isLookup then .absent else .raise

/-- The payload under a name in an envelope, if there is an envelope. -/
def payload
    (read : Json → Except Mismatch α)
    (field : String) :
    Option Envelope → Except Failure (Option α)
  | none => .ok none
  | some envelope =>
      match (Json.lookup field envelope.payload).bind Json.present? with
      | none => .error (.transport (.missingPayload field))
      | some value =>
          match read value with
          | .ok record => .ok (some record)
          | .error mismatch =>
              .error (.transport (.malformed (.record mismatch)))

/--
How a request of a shape is answered by an envelope, or where there is none.
-/
def ofEnvelope (enclosed : Option Envelope) : Shape β → Except Failure β
  | one layout field => payload layout.decode field enclosed
  | many layout field =>
      (payload (Record.readList layout.decode) field enclosed).map (·.getD [])
  | required read path field =>
      match payload read field enclosed with
      | .ok (some value) => .ok value
      | .ok none => .error (.transport (.emptyResponse path))
      | .error failure => .error failure
  | nothing => .ok ()

theorem interpret_eq_bind
    (read : Json → Except Mismatch α)
    (status : Nat)
    (body : Option (List UInt8))
    (field : String)
    (policy : NotFoundPolicy) :
    interpret read status body field policy =
      envelope status body policy >>= payload read field :=
  rfl

variable (shape : Shape β) {response : HttpResponse}

/--
The shapes differ in what they make of an envelope, and in what it means that
there is none.
-/
theorem read_eq_bind
    (response : HttpResponse) :
    shape.read response =
      envelope response.status (some response.body) shape.policy >>=
        fun enclosed => shape.ofEnvelope enclosed := by
  cases shape with
  | one layout field => exact interpret_eq_bind ..
  | many layout field =>
      rw [read, Response.many, interpret_eq_bind]
      change _ = envelope response.status (some response.body) .raise >>= _
      cases envelope response.status (some response.body) .raise <;> rfl
  | required read path field =>
      rw [Shape.read, Response.required, interpret_eq_bind]
      change _ = envelope response.status (some response.body) .raise >>= _
      cases envelope response.status (some response.body) .raise with
      | error failure => rfl
      | ok enclosed =>
          simp only [Outcome.ok_bind, ofEnvelope]
          rcases payload read field enclosed with failure | (_ | value) <;> rfl
  | nothing =>
      rw [read, Response.nothing, interpretUnit]
      change _ = envelope response.status (some response.body) .raise >>= _
      cases envelope response.status (some response.body) .raise <;> rfl

theorem ofEnvelope_none :
    shape.ofEnvelope none = shape.ofNothing := by
  cases shape <;> rfl

/-- An envelope does not make a lookup find nothing. -/
theorem ofEnvelope_some_ne
    (looksUp : shape.isLookup = true)
    (enclosed : Envelope) :
    shape.ofEnvelope (some enclosed) ≠ shape.ofNothing := by
  intro absent
  cases shape with
  | one layout field =>
      simp only [ofEnvelope, ofNothing, payload] at absent
      split at absent
      · cases absent
      · split at absent <;> cases absent
  | many layout field => cases looksUp
  | required read path field => cases looksUp
  | nothing => cases looksUp

/--
What fails before the payload is looked at fails in the same way in every shape.
-/
theorem read_of_envelope_error
    {failure : Failure}
    (fails : envelope response.status (some response.body) shape.policy =
      .error failure) :
    shape.read response = .error failure := by
  rw [read_eq_bind, fails]
  rfl

theorem read_of_envelope_none
    (blank :
      envelope response.status (some response.body) shape.policy = .ok none) :
    shape.read response = shape.ofNothing := by
  rw [read_eq_bind, blank, Outcome.ok_bind, ofEnvelope_none]

/--
A thing that is looked up is absent only where there is no envelope to look at.
-/
theorem envelope_of_read_ofNothing
    (looksUp : shape.isLookup = true)
    (absent : shape.read response = shape.ofNothing) :
    envelope response.status (some response.body) shape.policy = .ok none := by
  rw [read_eq_bind] at absent
  cases encloses :
    envelope response.status (some response.body) shape.policy with
  | error failure =>
      rw [encloses] at absent
      cases shape with
      | one layout field => cases absent
      | many layout field => cases looksUp
      | required read path field => cases looksUp
      | nothing => cases looksUp
  | ok enclosed =>
      rw [encloses, Outcome.ok_bind] at absent
      cases enclosed with
      | none => rfl
      | some enclosed =>
          exact absurd absent (shape.ofEnvelope_some_ne looksUp enclosed)

end Shape

namespace Response

/-- A response that tells of a failed call in its body. -/
def TellsOfFailedCall (response : HttpResponse) : Prop :=
  ∃ members,
    Encloses response.status (some response.body) members ∧ TellsFailure members

/--
A response that is of use to no request: its status announces neither success
nor that there is no such thing, its body is neither blank nor an envelope, or
it tells of a failed call.
-/
def IsUseless (response : HttpResponse) : Prop :=
  ¬ IsGood response.status ∧ response.status ≠ 404 ∨
    IsGood response.status ∧ ¬ IsBlank (some response.body) ∧
      (∀ members, ¬ Spells response.body members) ∨
    TellsOfFailedCall response

variable {response : HttpResponse}

/--
What is of no use has no envelope, whatever it means that there is no
such thing.
-/
theorem envelope_of_isUseless
    (useless : IsUseless response) :
    ∃ failure,
      ∀ policy, envelope response.status (some response.body) policy =
        .error failure := by
  rcases useless with
    ⟨bad, found⟩ | ⟨good, visible, foreign⟩ | ⟨members, encloses, fails⟩
  · have refused : ¬ isSuccess response.status = true := mt isGood_iff.mp bad
    by_cases authorized : response.status = unauthorized
    · exact ⟨_, fun policy => if_pos authorized⟩
    · exact ⟨_, fun policy =>
        (if_neg authorized).trans ((if_neg found).trans (if_neg refused))⟩
  · have unread : Envelope.ofBytes? response.body = none := by
      apply Option.eq_none_iff_forall_not_mem.mpr
      intro envelope reads
      obtain ⟨members, spells, _⟩ := spells_of_ofBytes? reads
      exact foreign members spells
    refine ⟨.transport (.malformed .notAnEnvelope), fun policy => ?_⟩
    rw [envelope_of_isSuccess (isGood_iff.mpr good)]
    cases something : content? (some response.body) with
    | none => exact absurd (content?_eq_none_iff_isBlank.mp something) visible
    | some bytes =>
        obtain ⟨same, _⟩ := Option.filter_eq_some_iff.mp something
        cases same
        simp only [unread]
  · obtain ⟨good, bytes, same, spells⟩ := encloses
    cases same
    obtain ⟨envelope, reads⟩ := spells.ofJson?
    refine ⟨envelope.toFailure, fun policy => ?_⟩
    rw [envelope_of_spells (isGood_iff.mpr good) spells reads,
      if_pos ((isError_iff reads).mpr fails)]

theorem envelope_of_missing
    (missing : response.status = 404) :
    envelope response.status (some response.body) .absent = .ok none ∧
      ∃ details,
        envelope response.status (some response.body) .raise =
          .error (.notFound details) := by
  rw [missing]
  exact ⟨rfl, _, rfl⟩

theorem envelope_of_isBlank
    (good : IsGood response.status)
    (blank : IsBlank (some response.body))
    (policy : NotFoundPolicy) :
    envelope response.status (some response.body) policy = .ok none := by
  rw [envelope_of_isSuccess (isGood_iff.mpr good),
    content?_eq_none_iff_isBlank.mpr blank]

/--
There is nothing where there is no such thing, or where the body is blank.
-/
theorem hasNothing_of_envelope
    {policy : NotFoundPolicy}
    (nothing :
      envelope response.status (some response.body) policy = .ok none) :
    response.status = 404 ∨ IsGood response.status ∧
      IsBlank (some response.body) := by
  by_cases missing : response.status = 404
  · exact Or.inl missing
  · right
    by_cases useless : IsUseless response
    · obtain ⟨failure, fails⟩ := envelope_of_isUseless useless
      rw [fails policy] at nothing
      cases nothing
    · have good : IsGood response.status := by
        by_cases good : IsGood response.status
        · exact good
        · exact absurd (Or.inl ⟨good, missing⟩) useless
      refine ⟨good, ?_⟩
      by_cases blank : IsBlank (some response.body)
      · exact blank
      · exfalso
        apply useless
        refine Or.inr (Or.inl ⟨good, blank, fun members spells => ?_⟩)
        obtain ⟨envelope, reads⟩ := spells.ofJson?
        rw [envelope_of_spells (isGood_iff.mpr good) spells reads] at nothing
        split at nothing <;> cases nothing

end Response

namespace Request

open Response

/-- What a request expects. -/
def shape : (request : Request) → Shape request.Answer
  | .listDroplets => .many Droplet.layout "droplets"
  | .getDroplet _ => .one Droplet.layout "droplet"
  | .createDroplet order =>
      .required DropletCreation.layout.decode
        (Request.createDroplet order).path "droplet"
  | .dropletAction id action =>
      .required Record.readInt32
        (Request.dropletAction id action).path "event_id"
  | .listImages => .many Image.layout "images"
  | .getImage _ => .one Image.layout "image"
  | .deleteImage _ => .nothing
  | .transferImage id regionId =>
      .required Record.readInt32
        (Request.transferImage id regionId).path "event_id"
  | .listSizes => .many Size.layout "sizes"
  | .listRegions => .many Region.layout "regions"
  | .listKeys => .many SshKey.layout "ssh_keys"
  | .getKey _ => .one SshKey.layout "ssh_key"
  | .createKey name publicKey =>
      .required SshKey.layout.decode
        (Request.createKey name publicKey).path "ssh_key"
  | .editKey id publicKey =>
      .required SshKey.layout.decode
        (Request.editKey id publicKey).path "ssh_key"
  | .deleteKey _ => .nothing
  | .getEvent id =>
      .required Event.layout.decode (Request.getEvent id).path "event"

theorem readAnswer_eq_read
    (response : HttpResponse)
    (request : Request) :
    request.readAnswer response = request.shape.read response := by
  cases request <;> rfl

/--
A response is of no use to any request if it is of no use, and fails them in the
same way.
-/
theorem readAnswer_of_isUseless
    {response : HttpResponse}
    (useless : IsUseless response) :
    ∃ failure,
      ∀ request : Request, request.readAnswer response = .error failure := by
  obtain ⟨failure, fails⟩ := envelope_of_isUseless useless
  refine ⟨failure, fun request => ?_⟩
  rw [readAnswer_eq_read]
  exact request.shape.read_of_envelope_error (fails _)

/--
All requests agree on every response. A lookup finds nothing exactly where there
is no such thing or the body is blank. To a blank body that announces success, a
lookup and a list are answered with nothing, a request without a payload
succeeds, and one for a thing that must be there fails. What does not exist is
missed in the same way by all but the lookups, and a response that is of no use
fails them all in the same way. None succeeds on any other response that
announces no success, or on one that tells of a failed call.
-/
theorem requests_agree_on_responses
    (response : HttpResponse) :
    (∀ request : Request, request.shape.isLookup = true →
        (request.readAnswer response = request.shape.ofNothing ↔
          response.status = 404 ∨ IsGood response.status ∧
            IsBlank (some response.body))) ∧
      (IsGood response.status → IsBlank (some response.body) →
        ∀ request : Request,
          request.readAnswer response = request.shape.ofNothing) ∧
      (response.status = 404 →
        ∃ details, ∀ request : Request, request.shape.isLookup = false →
          request.readAnswer response = .error (.notFound details)) ∧
      (IsUseless response →
        ∃ failure,
          ∀ request : Request, request.readAnswer response = .error failure) ∧
      ∀ (request : Request) (answer : request.Answer),
        request.readAnswer response = .ok answer →
          (IsGood response.status ∨
              response.status = 404 ∧ request.shape.isLookup = true) ∧
            ¬ TellsOfFailedCall response := by
  have ofBlank
      (good : IsGood response.status)
      (blank : IsBlank (some response.body))
      (request : Request) :
      request.readAnswer response = request.shape.ofNothing := by
    rw [readAnswer_eq_read]
    exact request.shape.read_of_envelope_none (envelope_of_isBlank good blank _)
  have missed (missing : response.status = 404) :
      ∃ details, ∀ request : Request, request.shape.isLookup = false →
        request.readAnswer response = .error (.notFound details) := by
    obtain ⟨_, details, fails⟩ := envelope_of_missing missing
    refine ⟨details, fun request mustBeThere => ?_⟩
    rw [readAnswer_eq_read]
    apply request.shape.read_of_envelope_error
    rw [Shape.policy, mustBeThere]
    exact fails
  refine ⟨fun request looksUp => ⟨fun absent => ?_, ?_⟩, ofBlank, missed,
    readAnswer_of_isUseless, fun request answer succeeds =>
      ⟨?_, fun fails => ?_⟩⟩
  · rw [readAnswer_eq_read] at absent
    exact hasNothing_of_envelope
      (request.shape.envelope_of_read_ofNothing looksUp absent)
  · rintro (missing | ⟨good, blank⟩)
    · rw [readAnswer_eq_read]
      apply request.shape.read_of_envelope_none
      rw [Shape.policy, looksUp]
      exact (envelope_of_missing missing).1
    · exact ofBlank good blank request
  · by_cases good : IsGood response.status
    · exact Or.inl good
    · right
      by_cases missing : response.status = 404
      · refine ⟨missing, ?_⟩
        cases looksUp : request.shape.isLookup with
        | true => rfl
        | false =>
            obtain ⟨details, fails⟩ := missed missing
            rw [fails request looksUp] at succeeds
            cases succeeds
      · obtain ⟨failure, fails⟩ :=
          readAnswer_of_isUseless (Or.inl ⟨good, missing⟩)
        rw [fails request] at succeeds
        cases succeeds
  · obtain ⟨failure, failsAll⟩ :=
      readAnswer_of_isUseless (Or.inr (Or.inr fails))
    rw [failsAll request] at succeeds
    cases succeeds

end Request

end DropletClient
