import DropletClient.Proofs.Workflow.Play

namespace DropletClient

/-!
# How long workflows take

A workflow that has patience enough ends, and how it ends does not depend on how
much more patience there is. The time that it may take is the sum of what its
parts may take.
-/

namespace Workflow

/--
A workflow that lets no time pass and needs no patience, whatever it is
replied to.
-/
inductive IsInstant : Workflow α → Prop where
  | finished (outcome : Except Failure α) : IsInstant (.finished outcome)
  | perform
      {effect : Effect}
      {next : effect.Reply → Workflow α}
      (awake : ∀ duration, effect ≠ .sleep duration)
      (goesOn : ∀ reply, IsInstant (next reply)) :
      IsInstant (.perform effect next)

/--
With patience enough, a workflow ends in every world, always in the same way,
and lets no more time pass than the budget, as long as the clock has room for
the budget.
-/
def EndsWithin
    (budget enough : Nat)
    (workflow : (patience : Nat) → Workflow α) : Prop :=
  ∀ {σ : Type} (world : World σ) (session : Session σ),
    session.clock + budget < PollPolicy.clockEnd →
      ∃ outcome later,
        (∀ patience,
          enough ≤ patience →
            (workflow patience).run world session = (some outcome, later)) ∧
        later.clock ≤ session.clock + budget

namespace IsInstant

theorem of_pure
    (value : α) :
    IsInstant (pure value : Workflow α) :=
  .finished (.ok value)

theorem of_send
    (request : Request) :
    IsInstant (send request) :=
  .perform (fun _ => Effect.noConfusion) fun reply => .finished reply

theorem of_attempt
    (request : Request) :
    IsInstant (attempt request) :=
  .perform (fun _ => Effect.noConfusion) fun reply => .finished (.ok reply)

theorem of_generateKeys : IsInstant generateKeys :=
  .perform (fun _ => Effect.noConfusion) fun reply => .finished reply

theorem of_proposeName
    (group : String) :
    IsInstant (proposeName group) :=
  .perform (fun _ => Effect.noConfusion) fun name => .finished (.ok name)

/-- Instant parts make an instant whole. -/
theorem bind
    {workflow : Workflow α}
    {next : α → Workflow β}
    (first : workflow.IsInstant)
    (second : ∀ value, (next value).IsInstant) :
    (workflow >>= next).IsInstant := by
  change (workflow.bind next).IsInstant
  induction first with
  | finished outcome =>
      cases outcome with
      | ok value => exact second value
      | error failure => exact .finished (.error failure)
  | perform awake _ inductionHypothesis =>
      exact .perform awake inductionHypothesis

/-- An instant workflow ends at the time at which it began. -/
theorem run
    {workflow : Workflow α}
    (instant : workflow.IsInstant)
    (world : World σ)
    (session : Session σ) :
    ∃ outcome later,
      workflow.run world session = (some outcome, later) ∧
        later.clock = session.clock := by
  induction instant generalizing session with
  | finished outcome => exact ⟨outcome, session, rfl, rfl⟩
  | @perform effect next awake _ inductionHypothesis =>
      let performed := world.perform session effect
      have still : performed.2.clock = session.clock := by
        cases effect with
        | sleep duration => exact absurd rfl (awake duration)
        | send request => rfl
        | readClock => rfl
        | generateKeys => rfl
        | proposeName group => rfl
      obtain ⟨outcome, later, ends, same⟩ :=
        inductionHypothesis performed.1 performed.2
      exact ⟨outcome, later, ends, same.trans still⟩

end IsInstant

/-- An instant workflow ends within no time. -/
theorem IsInstant.endsWithin
    {workflow : Workflow α}
    (instant : workflow.IsInstant)
    (enough : Nat) :
    EndsWithin 0 enough fun _ => workflow := by
  intro σ world session _
  obtain ⟨outcome, later, ends, same⟩ := instant.run world session
  exact ⟨outcome, later, fun _ _ => ends, Nat.le_of_eq same⟩

/-- A sequence ends within the budgets of its parts. -/
theorem EndsWithin.bind
    {firstBudget secondBudget enough : Nat}
    {workflow : Nat → Workflow α}
    {next : Nat → α → Workflow β}
    (first : EndsWithin firstBudget enough workflow)
    (second : ∀ value,
      EndsWithin secondBudget enough fun patience => next patience value) :
    EndsWithin (firstBudget + secondBudget) enough fun patience =>
      workflow patience >>= next patience := by
  intro σ world session room
  obtain ⟨outcome, later, firstEnds, firstClock⟩ :=
    first world session (by omega)
  cases outcome with
  | error failure =>
      refine ⟨.error failure, later, fun patience isEnough => ?_, by omega⟩
      rw [run_bind, firstEnds patience isEnough]
  | ok value =>
      obtain ⟨result, last, secondEnds, secondClock⟩ :=
        second value world later (by omega)
      refine ⟨result, last, fun patience isEnough => ?_, by omega⟩
      rw [run_bind, firstEnds patience isEnough]
      exact secondEnds patience isEnough

end Workflow

end DropletClient
