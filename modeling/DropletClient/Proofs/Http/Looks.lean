import DropletClient.Http.Client
import DropletClient.Proofs.Envelope.Classification
import DropletClient.Proofs.Poll.Round
import DropletClient.Proofs.Record.EventState

namespace DropletClient

/-!
# What is heard of events over HTTP

A look at an event is one response, which tells either in which state the event
is or why nothing is known of it. A wait goes on after a response only if that
tells that the event is pending.
-/

open Response

/--
A good response that carries the record of an event: its status announces
success, its body spells an envelope that tells of no failure, and the record
can be read.
-/
structure CarriesEvent (response : HttpResponse) (record : Json) : Prop where
  succeeds : 200 ≤ response.status ∧ response.status ≤ 299
  enveloped :
    ∃ members,
      Spells response.body members ∧
        ¬ TellsFailure members ∧
        Json.lookup "event" members = some record
  reads : ∃ seen, Event.layout.decode record = .ok seen

/-- What the response to a look at an event tells, if there is a response. -/
inductive Tells (event : Int32) :
    (response : Option HttpResponse) → (said : Except Failure EventStatus) →
      Prop where
  | state
      {response : HttpResponse}
      {record : Json}
      {status : EventStatus}
      (carries : CarriesEvent response record)
      (given : EventStatus.IsGiven (Event.givenStatus? record) status) :
      Tells event (some response) (.ok status)
  | blank
      {response : HttpResponse}
      (succeeds : 200 ≤ response.status ∧ response.status ≤ 299)
      (nothing : ∀ byte ∈ response.body, isBlankByte byte = true) :
      Tells event (some response)
        (.error (.transport (.emptyResponse (Request.getEvent event).path)))
  | refused
      {response : HttpResponse}
      {failure : Failure}
      (classifies :
        Classifies Event.layout.decode "event" .raise response.status
          (some response.body) (.error failure)) :
      Tells event (some response) (.error failure)
  | silent :
      Tells event none (.error (.transport .noResponse))

private theorem isSuccess_iff
    {status : Nat} :
    isSuccess status = true ↔ 200 ≤ status ∧ status ≤ 299 := by
  simp [isSuccess]

private theorem content?_eq_none_iff
    {bytes : List UInt8} :
    content? (some bytes) = none ↔ ∀ byte ∈ bytes, isBlankByte byte = true := by
  simp [content?]

/-- The answer to a look at an event, as its response is interpreted. -/
private theorem answerFrom_getEvent
    (event : Int32)
    (response : HttpResponse) :
    HttpClient.answerFrom (.getEvent event) (some response) =
      match
        interpret Event.layout.decode response.status (some response.body)
          "event" .raise
      with
      | .error failure => .error failure
      | .ok none =>
          .error (.transport (.emptyResponse (Request.getEvent event).path))
      | .ok (some seen) => .ok seen := by
  simp only [HttpClient.answerFrom, Request.readAnswer, required]
  cases interpret Event.layout.decode response.status (some response.body)
    "event" .raise with
  | error failure => rfl
  | ok payload => cases payload <;> rfl

/-- What is said is what the answer to the look tells of the state. -/
theorem Tells.answerFrom_eq
    {event : Int32}
    {response : Option HttpResponse}
    {said : Except Failure EventStatus}
    (tells : Tells event response said) :
    (HttpClient.answerFrom (.getEvent event) response).map Event.status =
      said := by
  cases tells with
  | @state response record status carries given =>
      obtain ⟨members, spells, fine, has⟩ := carries.enveloped
      obtain ⟨seen, reads⟩ := carries.reads
      have present : record ≠ .null := by
        rintro rfl
        cases reads
      have classifies :
          Classifies Event.layout.decode "event" .raise response.status
            (some response.body) (.ok (some seen)) :=
        .carried (isSuccess_iff.mpr carries.succeeds)
          spells fine has present reads
      rw [answerFrom_getEvent, classifies.interpret_eq (by decide),
        given.unique (Event.isGiven_status reads)]
      rfl
  | @blank response succeeds nothing =>
      have classifies :
          Classifies Event.layout.decode "event" .raise response.status
            (some response.body) (.ok none) :=
        .blank (isSuccess_iff.mpr succeeds) (content?_eq_none_iff.mpr nothing)
      rw [answerFrom_getEvent, classifies.interpret_eq (by decide)]
      rfl
  | refused classifies =>
      rw [answerFrom_getEvent, classifies.interpret_eq (by decide)]
      rfl
  | silent => rfl

theorem exists_tells
    (event : Int32)
    (response : Option HttpResponse) :
    ∃ said, Tells event response said := by
  cases response with
  | none => exact ⟨_, .silent⟩
  | some response =>
      obtain ⟨status, body⟩ := response
      obtain ⟨outcome, classifies⟩ :=
        exists_classifies Event.layout.decode "event" .raise status (some body)
      cases outcome with
      | error failure => exact ⟨_, .refused classifies⟩
      | ok payload =>
          cases classifies with
          | absent allowed => cases allowed
          | blank succeeds nothing =>
              exact ⟨_, .blank
                (isSuccess_iff.mp succeeds) (content?_eq_none_iff.mp nothing)⟩
          | carried succeeds spells fine has _ reads =>
              exact ⟨_, .state ⟨isSuccess_iff.mp succeeds,
                ⟨_, spells, fine, has⟩, ⟨_, reads⟩⟩
                (Event.isGiven_status reads)⟩

/-- A response tells just what the answer to the look tells of the state. -/
theorem tells_iff
    {event : Int32}
    {response : Option HttpResponse}
    {said : Except Failure EventStatus} :
    Tells event response said ↔
      (HttpClient.answerFrom (.getEvent event) response).map Event.status =
        said := by
  constructor
  · exact Tells.answerFrom_eq
  · rintro rfl
    obtain ⟨said, tells⟩ := exists_tells event response
    rwa [tells.answerFrom_eq]

end DropletClient
