import DropletClient.Proofs.Poll.Vigil
import DropletClient.Rehearsal

namespace DropletClient

/-!
# How waits are settled

A wait is settled by the first look that finds its event done or failed,
that fails itself, or that finds the event pending at the deadline. Nothing
else ends it.
-/

/--
A look settles a wait by what it is replied to, in one of four ways. A deadline
that is due counts against a pending event only.
-/
inductive Settles
    (event : Int32)
    (kind : EventKind)
    (due : Prop) :
    (reply : Except Failure Event) → (outcome : Except Failure Unit) →
      Prop where
  | done {seen : Event} (isDone : seen.status = .done) :
      Settles event kind due (.ok seen) (.ok ())
  | failed {seen : Event} (hasFailed : seen.status = .error) :
      Settles event kind due (.ok seen) (.error (.operationFailed event))
  | lost (failure : Failure) :
      Settles event kind due (.error failure) (.error failure)
  | timedOut {seen : Event} (isPending : seen.status = .pending) (isDue : due) :
      Settles event kind due (.ok seen) (.error (.timeout kind event))

/--
A session has become a later one by some looks at an event and no other
exchange. The looks are replied to in their order, and take place at the times
of the schedule.
-/
def World.LooksOnly
    (world : World σ)
    (policy : PollPolicy)
    (event : Int32)
    (session : Session σ)
    (looks : Nat)
    (later : Session σ) : Prop :=
  ∃ steps,
    session.Reaches steps later ∧
    exchanges steps =
      (List.range looks).map
        (fun look =>
          ⟨.getEvent event, world.answers event session.state look⟩) ∧
    Step.fetchTimes session.clock steps =
      (List.range looks).map (policy.lookTime session.clock)

namespace Vigil

/-- The look that ends a wait is one that settles it, and in the same way. -/
theorem endAt?_eq_some_iff
    {vigil : Vigil σ}
    {look : Nat}
    {outcome : Except Failure Unit} :
    vigil.endAt? look = some outcome ↔
      Settles vigil.event vigil.kind (vigil.IsDue look) (vigil.replyAt look)
        outcome := by
  constructor
  · intro ends
    rw [endAt?] at ends
    cases reply : vigil.replyAt look with
    | error failure =>
        rw [reply] at ends
        cases ends
        exact .lost failure
    | ok seen =>
        rw [reply, Event.verdict?] at ends
        cases status : seen.status with
        | done =>
            simp only [status, Option.some_or, Option.some.injEq] at ends
            exact ends ▸ .done status
        | error =>
            simp only [status, Option.some_or, Option.some.injEq] at ends
            exact ends ▸ .failed status
        | pending =>
            simp only [status, Option.none_or, Option.ite_none_right_eq_some,
              Option.some.injEq] at ends
            exact ends.2 ▸ .timedOut status ends.1
  · intro settles
    rw [endAt?]
    generalize vigil.replyAt look = reply at settles ⊢
    cases settles with
    | done isDone => simp [Event.verdict?, isDone]
    | failed hasFailed => simp [Event.verdict?, hasFailed]
    | lost failure => rfl
    | timedOut isPending isDue => simp [Event.verdict?, isPending, isDue]

/-- A look that does not end a wait finds its event pending. -/
theorem pending_of_endAt?
    {vigil : Vigil σ}
    {look : Nat}
    (undecided : vigil.endAt? look = none) :
    (vigil.replyAt look).map Event.status = .ok .pending :=
  Event.pending_of_verdict? (Option.or_eq_none_iff.mp undecided).1

end Vigil

namespace World

variable
  (world : World σ)
  (event : Int32)
  (policies : PollPolicies)
  (kind : EventKind)
  (session : Session σ)

theorem endAt?_vigil
    {look : Nat}
    {outcome : Except Failure Unit} :
    (world.vigil event policies kind session).endAt? look = some outcome ↔
      Settles event kind ((policies.get kind).IsDue session.clock look)
        (world.answers event session.state look) outcome := by
  rw [Vigil.endAt?_eq_some_iff, replyAt_vigil]
  rfl

/-- A look ends no wait that it does not settle. -/
theorem endAt?_vigil_eq_none
    {look : Nat}
    (unsettled :
      ∀ outcome,
        ¬ Settles event kind ((policies.get kind).IsDue session.clock look)
          (world.answers event session.state look) outcome) :
    (world.vigil event policies kind session).endAt? look = none := by
  cases ends : (world.vigil event policies kind session).endAt? look with
  | none => rfl
  | some outcome => exact absurd ((endAt?_vigil ..).mp ends) (unsettled outcome)

theorem looksOnly_of_steps
    {looks : Nat}
    {later : Session σ}
    {steps : List Step}
    (reaches : session.Reaches steps later)
    (exchanged :
      exchanges steps =
        (List.range looks).map
          (world.vigil event policies kind session).exchangeAt)
    (looked :
      Step.fetchTimes session.clock steps =
        (List.range looks).map ((policies.get kind).lookTime session.clock)) :
    world.LooksOnly (policies.get kind) event session looks later := by
  refine ⟨steps, reaches, ?_, looked⟩
  rw [exchanged]
  refine List.map_congr_left fun look _ => ?_
  rw [Vigil.exchangeAt, replyAt_vigil, vigil]

end World

/-- A rehearsal in which one event goes through some states. -/
def Rehearsal.playing
    (event : Int32)
    (statuses : List EventStatus) :
    Rehearsal where
  cloud := ScriptedCloud.empty.scriptEvent event statuses
  faults := []
  names := []
  pairs := []
  nameUses := 0
  pairUses := 0
  trail := []

namespace Workflow

/--
A wait ends at the first look that settles it, in the way in which that look
does, and it makes exactly the looks up to that one, all others of which find
the event pending. What is seen at the deadline itself still counts. As long as
no look settles the wait, it goes on.
-/
theorem waitFor_ends_at_first_settled_look
    (world : World σ)
    (policies : PollPolicies)
    (patience : Nat)
    (event : Int32)
    (kind : EventKind)
    (session : Session σ) :
    let policy := policies.get kind
    let answers := world.answers event session.state
    let settles (look : Nat) (outcome : Except Failure Unit) :=
      Settles event kind (policy.IsDue session.clock look)
        (answers look) outcome
    let run := (waitFor policies patience event kind).run world session
    (∀ look ≤ patience, ∀ outcome,
      settles look outcome →
      (∀ earlier < look, ∀ other, ¬ settles earlier other) →
        run.1 = some outcome ∧
        world.LooksOnly policy event session (look + 1) run.2 ∧
        ∀ earlier < look, (answers earlier).map Event.status = .ok .pending) ∧
    ((∀ look ≤ patience, ∀ outcome, ¬ settles look outcome) →
      run.1 = none ∧
      world.LooksOnly policy event session (patience + 1) run.2 ∧
      ∀ look ≤ patience, (answers look).map Event.status = .ok .pending) := by
  intro policy answers settles run
  let vigil := world.vigil event policies kind session
  have runs : run = vigil.run patience :=
    (world.run_vigil event policies kind session patience).symm
  have pending {look : Nat} (undecided : vigil.endAt? look = none) :
      (answers look).map Event.status = .ok .pending := by
    have found := Vigil.pending_of_endAt? undecided
    rwa [world.replyAt_vigil] at found
  constructor
  · intro look enough outcome settled unsettled
    have first (earlier : Nat) (before : earlier < look) :
        vigil.endAt? earlier = none :=
      world.endAt?_vigil_eq_none event policies kind session
        (unsettled earlier before)
    have endsAt : vigil.EndsAt look outcome :=
      ⟨(world.endAt?_vigil event policies kind session).mpr settled, first⟩
    rw [runs, Vigil.run_of_endsAt endsAt enough]
    exact ⟨rfl,
      world.looksOnly_of_steps event policies kind session
        (vigil.reaches_after look)
        (vigil.exchanges_stepsUpTo look) (vigil.fetchTimes_stepsUpTo look),
      fun earlier before => pending (first earlier before)⟩
  · intro unsettled
    have never (look : Nat) (enough : look ≤ patience) :
        vigil.endAt? look = none :=
      world.endAt?_vigil_eq_none event policies kind session
        (unsettled look enough)
    rw [runs, Vigil.run_of_none never]
    exact ⟨rfl,
      world.looksOnly_of_steps event policies kind session
        (vigil.reaches_before _)
        (vigil.exchanges_stepsBefore _) (vigil.fetchTimes_stepsBefore _),
      fun look enough => pending (never look enough)⟩

end Workflow

end DropletClient
