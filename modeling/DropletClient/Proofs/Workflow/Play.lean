import DropletClient.Workflow.Run

namespace DropletClient

/-!
# Plays of workflows

A play is one way in which carrying out a workflow can go: the steps in the
order in which they are done, and the outcome. Replies and readings of the clock
are arbitrary, so plays also cover providers that take their time and clocks
that do not stand still between sleeps.

Every run in a world is a play whose steps are added to the history of the
session, and the clock moves by the sleeps among them (`Workflow.run_plays`). A
play of a sequence is a play of its first part, followed by a play of the second
one if the first part gave a value (`Workflow.Plays.of_bind`).
-/

/-- How long a step takes; only sleeps take time. -/
def Step.duration : Step → Nat
  | .slept duration => duration
  | .sent _ _ => 0
  | .generated _ => 0
  | .proposed _ _ => 0

/-- How long some steps take together. -/
def slept : List Step → Nat
  | [] => 0
  | step :: later => step.duration + slept later

theorem slept_append
    (first second : List Step) :
    slept (first ++ second) = slept first + slept second := by
  induction first with
  | nil => exact (Nat.zero_add (slept second)).symm
  | cons step later inductionHypothesis =>
      rw [List.cons_append, slept, slept, inductionHypothesis, Nat.add_assoc]

/-- A session has become a later one by some steps. -/
structure Session.Reaches
    (session : Session σ)
    (steps : List Step)
    (later : Session σ) : Prop where
  history : later.history = steps.reverse ++ session.history
  clock : later.clock = session.clock + slept steps

/-- What one effect adds to the history, given the reply to it. -/
def Effect.trace : (effect : Effect) → effect.Reply → List Step
  | .send request, reply => [.sent request reply]
  | .sleep duration, _ => [.slept duration]
  | .readClock, _ => []
  | .generateKeys, reply => [.generated reply]
  | .proposeName group, name => [.proposed group name]

namespace Session.Reaches

theorem refl
    (session : Session σ) :
    session.Reaches [] session :=
  ⟨rfl, rfl⟩

theorem trans
    {session later last : Session σ}
    {first second : List Step}
    (reaches : session.Reaches first later)
    (goesOn : later.Reaches second last) :
    session.Reaches (first ++ second) last where
  history := by
    rw [goesOn.history, reaches.history, List.reverse_append, List.append_assoc]
  clock := by
    rw [goesOn.clock, reaches.clock, slept_append, Nat.add_assoc]

end Session.Reaches

namespace Workflow

/--
One way in which carrying out a workflow can go, whatever the replies are.
-/
inductive Plays :
    Workflow α → List Step → Option (Except Failure α) → Prop where
  | finished (outcome : Except Failure α) :
      Plays (.finished outcome) [] (some outcome)
  | unfinished :
      Plays .unfinished [] none
  | perform
      {effect : Effect}
      {next : effect.Reply → Workflow α}
      (reply : effect.Reply)
      {later : List Step}
      {outcome : Option (Except Failure α)}
      (goesOn : Plays (next reply) later outcome) :
      Plays (.perform effect next) (effect.trace reply ++ later) outcome

/--
A law for the steps and the outcome of a workflow that no way of carrying it
out breaks.
-/
structure Obeys
    (workflow : Workflow α)
    (law : List Step → Option (Except Failure α) → Prop) : Prop where
  /-- The law holds whatever the replies are, and whenever they come. -/
  inPlays : ∀ {steps outcome}, workflow.Plays steps outcome → law steps outcome
  /--
  The law holds for what a run in a world adds to the history of the session.
  -/
  inRuns :
    ∀ {σ : Type} (world : World σ) (session : Session σ),
      ∃ steps,
        (workflow.run world session).2.history =
            steps.reverse ++ session.history ∧
          law steps (workflow.run world session).1

private theorem bind_finished
    (workflow : Workflow α) :
    (workflow.bind fun value => .finished (.ok value)) = workflow := by
  induction workflow with
  | finished result => cases result <;> rfl
  | unfinished => rfl
  | perform effect next inductionHypothesis =>
      simp only [bind, inductionHypothesis]

/--
Of three parts in a sequence, it does not matter which two are put
together first.
-/
private theorem bind_bind
    (workflow : Workflow α)
    (next : α → Workflow β)
    (last : β → Workflow γ) :
    (workflow.bind next).bind last = workflow.bind fun value =>
      (next value).bind last := by
  induction workflow with
  | finished result => cases result <;> rfl
  | unfinished => rfl
  | perform effect continuation inductionHypothesis =>
      simp only [bind, inductionHypothesis]

instance : LawfulMonad Workflow :=
  .mk' Workflow bind_finished (fun _ _ => rfl) bind_bind

/-- Every workflow can be played, because every effect can be replied to. -/
theorem exists_plays
    (workflow : Workflow α) :
    ∃ steps outcome, workflow.Plays steps outcome := by
  induction workflow with
  | finished outcome => exact ⟨[], some outcome, .finished outcome⟩
  | unfinished => exact ⟨[], none, .unfinished⟩
  | perform effect next inductionHypothesis =>
      have reply : effect.Reply := by
        cases effect with
        | send request => exact .error (.transport .noResponse)
        | sleep duration => exact ()
        | readClock => exact 0
        | generateKeys => exact .error (.transport .noResponse)
        | proposeName group => exact group
      obtain ⟨steps, outcome, plays⟩ := inductionHypothesis reply
      exact ⟨_, outcome, .perform reply plays⟩

/-- The workflow of one effect. -/
def effect (effect : Effect) : Workflow effect.Reply :=
  .perform effect fun reply => .finished (.ok reply)

/-- Performing an effect is the steps of its trace. -/
theorem perform_reaches
    (world : World σ)
    (session : Session σ)
    (effect : Effect) :
    session.Reaches (effect.trace (world.perform session effect).1)
      (world.perform session effect).2 := by
  cases effect <;> exact ⟨rfl, rfl⟩

/-- What a run in a world does is a play. -/
theorem run_plays
    (world : World σ)
    (workflow : Workflow α)
    (session : Session σ) :
    ∃ steps,
      session.Reaches steps (workflow.run world session).2 ∧
        workflow.Plays steps (workflow.run world session).1 := by
  induction workflow generalizing session with
  | finished outcome =>
      exact ⟨[], .refl session, .finished outcome⟩
  | unfinished =>
      exact ⟨[], .refl session, .unfinished⟩
  | perform effect next inductionHypothesis =>
      let performed := world.perform session effect
      obtain ⟨later, reaches, goesOn⟩ :=
        inductionHypothesis performed.1 performed.2
      exact ⟨effect.trace performed.1 ++ later,
        (perform_reaches world session effect).trans reaches,
          .perform performed.1 goesOn⟩

/--
What a sequence gives is given by its second part, where the first part has
left off.
-/
theorem run_bind_eq_ok
    {world : World σ}
    {workflow : Workflow α}
    {next : α → Workflow β}
    {session final : Session σ}
    {result : β}
    (gives :
      (workflow >>= next).run world session = (some (.ok result), final)) :
    ∃ value middle,
      workflow.run world session = (some (.ok value), middle) ∧
        (next value).run world middle = (some (.ok result), final) := by
  rw [run_bind] at gives
  rcases runs : workflow.run world session with ⟨_ | failure | value, middle⟩
  · rw [runs] at gives
    cases gives
  · rw [runs] at gives
    cases gives
  · rw [runs] at gives
    exact ⟨value, middle, rfl, gives⟩

theorem run_send
    (world : World σ)
    (request : Request)
    (session : Session σ) :
    (send request).run world session =
      (some (world.answer session.state request).1,
        (world.perform session (.send request)).2) :=
  rfl

/--
What is tried is answered, and what follows goes on with the answer or
the failure.
-/
theorem run_attempt_bind
    (world : World σ)
    (request : Request)
    (next : Except Failure request.Answer → Workflow α)
    (session : Session σ) :
    (attempt request >>= next).run world session =
      (next (world.answer session.state request).1).run world
        (world.perform session (.send request)).2 :=
  rfl

/-- What a request gives is its answer. -/
theorem run_send_eq_ok
    {world : World σ}
    {request : Request}
    {session final : Session σ}
    {answer : request.Answer}
    (gives : (send request).run world session = (some (.ok answer), final)) :
    world.answer session.state request = (.ok answer, final.state) := by
  obtain ⟨told, rfl⟩ :=
    Prod.mk.inj ((run_send world request session).symm.trans gives)
  exact Prod.ext (Option.some.inj told) rfl

/-- A law that holds in every play is obeyed. -/
theorem Obeys.of_plays
    {workflow : Workflow α}
    {law : List Step → Option (Except Failure α) → Prop}
    (holds : ∀ {steps outcome},
      workflow.Plays steps outcome → law steps outcome) :
    workflow.Obeys law where
  inPlays := holds
  inRuns world session := by
    obtain ⟨steps, reaches, plays⟩ := run_plays world workflow session
    exact ⟨steps, reaches.history, holds plays⟩

namespace Plays

variable {steps : List Step}

theorem of_finished
    {result : Except Failure α}
    {outcome : Option (Except Failure α)}
    (plays : (Workflow.finished result).Plays steps outcome) :
    steps = [] ∧ outcome = some result := by
  cases plays
  exact ⟨rfl, rfl⟩

theorem of_unfinished
    {outcome : Option (Except Failure α)}
    (plays : (Workflow.unfinished).Plays steps outcome) :
    steps = [] ∧ outcome = none := by
  cases plays
  exact ⟨rfl, rfl⟩

theorem of_send
    {request : Request}
    {outcome : Option (Except Failure request.Answer)}
    (plays : (Workflow.send request).Plays steps outcome) :
    ∃ reply, steps = [.sent request reply] ∧ outcome = some reply := by
  cases plays with
  | perform reply goesOn =>
      obtain ⟨nothing, result⟩ := goesOn.of_finished
      subst nothing
      exact ⟨reply, rfl, result⟩

theorem of_sleep
    {duration : Nat}
    {outcome : Option (Except Failure Unit)}
    (plays : (Workflow.sleep duration).Plays steps outcome) :
    steps = [.slept (min duration longestSleep)] ∧ outcome = some (.ok ()) := by
  cases plays with
  | perform reply goesOn =>
      obtain ⟨nothing, result⟩ := goesOn.of_finished
      subst nothing
      exact ⟨rfl, result⟩

/--
A play of a sequence that begins with a new key pair: the rest is played unless
there is none.
-/
theorem of_bind_generateKeys
    {next : KeyPair → Workflow α}
    {outcome : Option (Except Failure α)}
    (plays : (generateKeys >>= next).Plays steps outcome) :
    (∃ pair later,
        steps = .generated (.ok pair) :: later ∧
          (next pair).Plays later outcome) ∨
      ∃ failure,
        steps = [.generated (.error failure)] ∧
          outcome = some (.error failure) := by
  cases plays with
  | @perform _ _ reply later _ goesOn =>
      cases reply with
      | ok pair => exact .inl ⟨pair, later, rfl, goesOn⟩
      | error failure =>
          obtain ⟨rfl, rfl⟩ := goesOn.of_finished
          exact .inr ⟨failure, rfl, rfl⟩

/-- A play of a sequence that begins with a candidate for a name. -/
theorem of_bind_proposeName
    {group : String}
    {next : String → Workflow α}
    {outcome : Option (Except Failure α)}
    (plays : (proposeName group >>= next).Plays steps outcome) :
    ∃ name later, steps = .proposed group name :: later ∧
      (next name).Plays later outcome := by
  cases plays with
  | @perform _ _ name later _ goesOn => exact ⟨name, later, rfl, goesOn⟩

/-- Reading the clock leaves no trace, and gives some time. -/
theorem of_readClock
    {next : Nat → Workflow α}
    {outcome : Option (Except Failure α)}
    (plays : (readClock >>= next).Plays steps outcome) :
    ∃ time, (next time).Plays steps outcome := by
  cases plays with
  | perform time goesOn => exact ⟨time, goesOn⟩

/--
A play of a sequence: both parts are played one after the other, or the first
one fails or is not finished, and then it is all that is played.
-/
theorem of_bind
    {workflow : Workflow α}
    {next : α → Workflow β}
    {outcome : Option (Except Failure β)}
    (plays : (workflow >>= next).Plays steps outcome) :
    (∃ value first second,
        workflow.Plays first (some (.ok value)) ∧
          (next value).Plays second outcome ∧
          steps = first ++ second) ∨
      (∃ failure,
        workflow.Plays steps (some (.error failure)) ∧
          outcome = some (.error failure)) ∨
      workflow.Plays steps none ∧ outcome = none := by
  change (workflow.bind next).Plays steps outcome at plays
  induction workflow generalizing steps with
  | finished result =>
      cases result with
      | ok value => exact .inl ⟨value, [], steps, .finished _, plays, rfl⟩
      | error failure =>
          obtain ⟨rfl, rfl⟩ := plays.of_finished
          exact .inr (.inl ⟨failure, .finished _, rfl⟩)
  | unfinished =>
      obtain ⟨rfl, rfl⟩ := plays.of_unfinished
      exact .inr (.inr ⟨.unfinished, rfl⟩)
  | perform effect continuation inductionHypothesis =>
      cases plays with
      | @perform _ _ reply later _ goesOn =>
          rcases inductionHypothesis reply goesOn with
              ⟨value, first, second, firstPlays, secondPlays, rfl⟩ |
              ⟨failure, firstPlays, rfl⟩ | ⟨firstPlays, rfl⟩
          · exact .inl ⟨value, effect.trace reply ++ first, second,
              .perform reply firstPlays, secondPlays, by simp⟩
          · exact .inr (.inl ⟨failure, .perform reply firstPlays, rfl⟩)
          · exact .inr (.inr ⟨.perform reply firstPlays, rfl⟩)

/--
A play of a sequence that begins with a request: the rest is played unless the
request fails.
-/
theorem of_bind_send
    {request : Request}
    {next : request.Answer → Workflow α}
    {outcome : Option (Except Failure α)}
    (plays : (Workflow.send request >>= next).Plays steps outcome) :
    (∃ answer later,
        steps = .sent request (.ok answer) :: later ∧
          (next answer).Plays later outcome) ∨
      ∃ failure,
        steps = [.sent request (.error failure)] ∧
          outcome = some (.error failure) := by
  rcases plays.of_bind with
      ⟨answer, first, second, sends, goesOn, rfl⟩ | ⟨failure, sends, rfl⟩
        | ⟨sends, _⟩
  · obtain ⟨reply, rfl, succeeds⟩ := sends.of_send
    cases succeeds
    exact .inl ⟨answer, second, rfl, goesOn⟩
  · obtain ⟨reply, rfl, fails⟩ := sends.of_send
    cases fails
    exact .inr ⟨failure, rfl, rfl⟩
  · obtain ⟨reply, _, cut⟩ := sends.of_send
    cases cut

end Plays

end Workflow

end DropletClient
