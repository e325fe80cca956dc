import DropletClient.Proofs.Http.Looks
import DropletClient.Proofs.Poll.Round

namespace DropletClient

/-!
# Waiting over HTTP

A wait over HTTP hears one response at each look. It goes on as long as the
responses say that the event is pending, and it is the last response that
decides how the wait ends.
-/

/-- How a wait ends after a look that tells something of an event. -/
inductive Decides (event : Int32) (kind : EventKind) :
    (said : Except Failure EventStatus) →
      (outcome : Option (Except Failure Unit)) → Prop where
  | done : Decides event kind (.ok .done) (some (.ok ()))
  | failed :
      Decides event kind (.ok .error) (some (.error (.operationFailed event)))
  | timedOut :
      Decides event kind (.ok .pending) (some (.error (.timeout kind event)))
  | cutOff : Decides event kind (.ok .pending) none
  | lost (failure : Failure) :
      Decides event kind (.error failure) (some (.error failure))

/--
A wait that hears of a pending event up to its last look, which decides how the
wait ends.
-/
structure Hears
    (event : Int32)
    (kind : EventKind)
    (heard : Nat → Option HttpResponse)
    (last : Nat)
    (outcome : Option (Except Failure Unit)) : Prop where
  waits : ∀ earlier < last, Tells event (heard earlier) (.ok .pending)
  ends : ∃ said, Tells event (heard last) said ∧ Decides event kind said outcome

namespace Hears

variable {event : Int32} {kind : EventKind} {heard : Nat → Option HttpResponse}

/-- The first look is the last one. -/
theorem at_once
    {said : Except Failure EventStatus}
    {outcome : Option (Except Failure Unit)}
    (tells : Tells event (heard 0) said)
    (decides : Decides event kind said outcome) :
    Hears event kind heard 0 outcome where
  waits earlier before := absurd before (Nat.not_lt_zero earlier)
  ends := ⟨said, tells, decides⟩

/-- There are more looks after one that finds the event pending. -/
theorem later
    {last : Nat}
    {outcome : Option (Except Failure Unit)}
    (tells : Tells event (heard 0) (.ok .pending))
    (hears :
      Hears event kind (fun position => heard (position + 1)) last outcome) :
    Hears event kind heard (last + 1) outcome where
  waits earlier before := by
    cases earlier with
    | zero => exact tells
    | succ earlier => exact hears.waits earlier (Nat.lt_of_succ_lt_succ before)
  ends := hears.ends

end Hears

namespace HttpClient

variable (client : HttpClient) (responses : Nat → Option HttpResponse)

/--
A network that gives prepared responses one after the other; the state is how
many it gave.
-/
def overResponses : World Nat where
  answer := client.answer fun given _ => (responses given, given + 1)
  generate given := (.error (.transport .noResponse), given)
  propose given group := (group, given)

/-- The response to a look at an event, unless the look cannot even be sent. -/
def heard (event : Int32) (given : Nat) : Option HttpResponse :=
  (client.url? (.getEvent event)).bind fun _ => responses given

/-- What is seen of an event is what the response to the look tells. -/
theorem tells_look
    (event : Int32)
    (session : Session Nat) :
    Tells event (client.heard responses event session.state)
      (((client.overResponses responses).look session event).1.map
        Event.status) := by
  refine tells_iff.mpr ?_
  simp only [World.look, World.perform, overResponses, answer, heard]
  cases client.url? (.getEvent event) <;> rfl

/-- A look takes one response, if it can be sent. -/
theorem state_look
    {event : Int32}
    {url : Http.Url}
    (sends : client.url? (.getEvent event) = some url)
    (session : Session Nat) :
    ((client.overResponses responses).look session event).2.state =
      session.state + 1 := by
  simp only [World.look, World.perform, overResponses, answer, sends]
  rfl

/-- A look that finds an event pending was sent. -/
theorem exists_url_of_pending
    {event : Int32}
    {given : Nat}
    (tells : Tells event (client.heard responses event given) (.ok .pending)) :
    ∃ url, client.url? (.getEvent event) = some url := by
  cases sends : client.url? (.getEvent event) with
  | some url => exact ⟨url, rfl⟩
  | none =>
      rw [heard, sends] at tells
      cases tells

/-- A verdict on the reply to a look decides how the wait ends. -/
private theorem decides_of_verdict?
    {event : Int32}
    {kind : EventKind}
    {reply : Except Failure Event}
    {outcome : Except Failure Unit}
    (verdict : Event.verdict? event reply = some outcome) :
    Decides event kind (reply.map Event.status) (some outcome) := by
  cases reply with
  | error failure =>
      cases verdict
      exact .lost failure
  | ok seen =>
      obtain ⟨_, status, _, _, _⟩ := seen
      cases status with
      | done =>
          cases verdict
          exact .done
      | error =>
          cases verdict
          exact .failed
      | pending => cases verdict

/-- The looks of a wait over HTTP hear the responses one after the other. -/
theorem poll_hears
    (policy : PollPolicy)
    (kind : EventKind)
    (event : Int32)
    (deadline : Option Nat)
    {looks period : Nat}
    {session later : Session Nat}
    {outcome : Option (Except Failure Unit)}
    (runs :
      (Workflow.poll policy kind event deadline (looks + 1) period).run
        (client.overResponses responses) session = (outcome, later)) :
    ∃ last ≤ looks,
      Hears event kind (fun position =>
        client.heard responses event (session.state + position)) last outcome ∧
      (outcome = none → last = looks) ∧
      ∀ url,
        client.url? (.getEvent event) = some url →
          later.state = session.state + (last + 1) := by
  induction looks using Nat.strongRecOn generalizing period session with
  | ind looks inductionHypothesis =>
      have tells := client.tells_look responses event session
      rcases
          Workflow.run_poll_cases (client.overResponses responses)
            policy kind event deadline period session with
          ⟨result, verdict | ⟨undecided, _, rfl⟩, ends⟩
            | ⟨delay, undecided, _, goesOn⟩
      · rw [ends] at runs
        cases runs
        exact ⟨0, Nat.zero_le looks,
          .at_once tells (decides_of_verdict? verdict), nofun,
          fun url sends => client.state_look responses sends session⟩
      · rw [ends] at runs
        cases runs
        rw [Event.pending_of_verdict? undecided] at tells
        exact ⟨0, Nat.zero_le looks, .at_once tells .timedOut, nofun,
          fun url sends => client.state_look responses sends session⟩
      · rw [goesOn] at runs
        rw [Event.pending_of_verdict? undecided] at tells
        cases looks with
        | zero =>
            cases runs
            exact ⟨0, Nat.le_refl 0, .at_once tells .cutOff, fun _ => rfl,
              fun url sends => client.state_look responses sends session⟩
        | succ looks =>
            obtain ⟨url, sends⟩ := client.exists_url_of_pending responses tells
            obtain ⟨last, few, hears, cut, taken⟩ :=
              inductionHypothesis looks (Nat.lt_succ_self looks) runs
            have state :
                (((client.overResponses responses).look session event).2.rest
                    (min delay Workflow.longestSleep)).state =
                  session.state + 1 :=
              client.state_look responses sends session
            rw [state] at hears taken
            have rest :
                Hears event kind
                  (fun position => client.heard responses event
                    (session.state + (position + 1)))
                  last outcome := by
              simpa only [Nat.add_assoc, Nat.add_comm 1] using hears
            refine ⟨last + 1, Nat.succ_le_succ few, .later tells rest,
              fun isCut => ?_, ?_⟩
            · rw [cut isCut]
            · intro sentTo sendsTo
              rw [taken sentTo sendsTo]
              omega

/--
A wait over HTTP never takes a failure for a success. Whatever the responses
are, each tells one thing of the event; all before the last one that is heard
say that the event is pending, and the last one decides how the wait ends. Only
a good response with the record of an event that is done ends it well, and a
wait is cut off only by a lack of patience.
-/
theorem waits_hear_responses
    (policies : PollPolicies)
    (patience : Nat)
    (event : Int32)
    (kind : EventKind)
    (session : Session Nat) :
    (∀ response, ∃ said,
        Tells event response said ∧
          ∀ other, Tells event response other → other = said) ∧
      ∃ last ≤ patience,
        Hears event kind (fun position =>
          client.heard responses event (session.state + position)) last
          ((Workflow.waitFor policies patience event kind).run
            (client.overResponses responses) session).1 ∧
        (((Workflow.waitFor policies patience event kind).run
            (client.overResponses responses)
            session).1 = none → last = patience) ∧
        ∀ url,
          client.url? (.getEvent event) = some url →
            ((Workflow.waitFor policies patience event kind).run
              (client.overResponses responses)
              session).2.state = session.state + (last + 1) := by
  constructor
  · intro response
    obtain ⟨said, tells⟩ := exists_tells event response
    refine ⟨said, tells, fun other tellsOther => ?_⟩
    rw [← tellsOther.answerFrom_eq, tells.answerFrom_eq]
  · rw [Workflow.run_waitFor]
    cases runs :
        (Workflow.poll (policies.get kind) kind event
          ((policies.get kind).deadline? session.clock) (patience + 1)
          (policies.get kind).initialPeriod).run
            (client.overResponses responses) session with
    | mk outcome later => exact client.poll_hears responses _ kind event _ runs

end HttpClient

end DropletClient
