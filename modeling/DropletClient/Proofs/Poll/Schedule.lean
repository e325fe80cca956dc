import DropletClient.Proofs.Poll.Settlement

namespace DropletClient

/-!
# The schedule of a wait

The sleeps of a wait, and the times of its looks, are known in advance but for
how many of them there are. A wait that runs out of time ends at its deadline,
with a look there.
-/

/--
Some steps of a wait that began at a time keep to the schedule: each sleep lasts
as long as the period at its position, the longest sleep, or the time that is
left, whichever is the least, and each look comes as long after the beginning as
the sleeps before it take, or at the deadline.
-/
structure PollPolicy.KeepsSchedule
    (policy : PollPolicy)
    (start : Nat)
    (steps : List Step) : Prop where
  sleeps_within :
    policy.HasDeadline start →
      ∀ {before duration after},
        steps = before ++ .slept duration :: after →
          duration =
            min (min (policy.periodAfter (sleeps before).length)
              Workflow.longestSleep) (policy.timeout - slept before)
  looks_within :
    policy.HasDeadline start →
      ∀ {look time},
        (Step.fetchTimes start steps)[look]? = some time →
          time = start + min policy.timeout (policy.restBefore look)
  /-- No sleep goes beyond the deadline. -/
  slept_within : policy.HasDeadline start → slept steps ≤ policy.timeout
  sleeps_beyond :
    ¬ policy.HasDeadline start →
      ∀ {before duration after},
        steps = before ++ .slept duration :: after →
          duration = min (policy.periodAfter (sleeps before).length)
            Workflow.longestSleep
  looks_beyond :
    ¬ policy.HasDeadline start →
      ∀ {look time},
        (Step.fetchTimes start steps)[look]? = some time →
          time = start + policy.restBefore look

/--
The items of a range are known by their positions, and so are those
before an item.
-/
private theorem eq_of_append_eq_range
    {item : Nat → α}
    {before after : List α}
    {here : α}
    {count : Nat}
    (shape : before ++ here :: after = (List.range count).map item) :
    before = (List.range before.length).map item ∧
      here = item before.length := by
  have inRange : before.length < count := by
    have length := congrArg List.length shape
    simp only [List.length_append, List.length_cons, List.length_map,
      List.length_range] at length
    omega
  constructor
  · have start := congrArg (List.take before.length) shape
    rwa [List.take_left, ← List.map_take, List.take_range,
      Nat.min_eq_left (Nat.le_of_lt inRange)] at start
  · have item := congrArg (·[before.length]?) shape
    simpa [inRange] using item

namespace Vigil

/--
Steps with the sleeps and looks of a wait one after the other keep to the
schedule.
-/
theorem keepsSchedule_of_range
    (vigil : Vigil σ)
    {rests looks : Nat}
    {steps : List Step}
    (rested : sleeps steps = (List.range rests).map vigil.sleepAfter)
    (looked :
      Step.fetchTimes vigil.start.clock steps =
        (List.range looks).map (vigil.policy.lookTime vigil.start.clock)) :
    vigil.policy.KeepsSchedule vigil.start.clock steps := by
  have sleep {before after : List Step} {duration : Nat}
      (shape : steps = before ++ .slept duration :: after) :
      vigil.start.clock + slept before =
          vigil.policy.lookTime vigil.start.clock (sleeps before).length ∧
        duration =
          vigil.policy.sleepAfter vigil.start.clock (sleeps before).length := by
    have split :
        sleeps before ++ duration :: sleeps after =
          (List.range rests).map vigil.sleepAfter := by
      rw [← rested, shape]
      simp [sleeps, Step.sleep?]
    obtain ⟨restedBefore, lasts⟩ := eq_of_append_eq_range split
    exact ⟨vigil.slept_of_sleeps restedBefore, lasts⟩
  have look {look time : Nat}
      (present : (Step.fetchTimes vigil.start.clock steps)[look]? = some time) :
      time = vigil.policy.lookTime vigil.start.clock look := by
    rw [looked, List.getElem?_map, Option.map_eq_some_iff] at present
    obtain ⟨_, inRange, rfl⟩ := present
    obtain ⟨before, rfl⟩ := List.getElem?_eq_some_iff.mp inRange
    rw [List.getElem_range]
  refine ⟨fun within before duration after shape => ?_,
    fun within position time present => ?_, fun within => ?_,
    fun beyond before duration after shape => ?_,
    fun beyond position time present => ?_⟩
  · obtain ⟨passed, lasts⟩ := sleep shape
    rw [PollPolicy.lookTime_of_hasDeadline within] at passed
    rw [lasts, PollPolicy.sleepAfter_of_hasDeadline within,
      PollPolicy.restAfter]
    omega
  · rw [look present, PollPolicy.lookTime_of_hasDeadline within]
  · have passed := vigil.slept_of_sleeps rested
    have inTime := vigil.policy.lookTime_le within rests
    omega
  · rw [(sleep shape).2, PollPolicy.sleepAfter_of_not_hasDeadline beyond]
    rfl
  · rw [look present, PollPolicy.lookTime_of_not_hasDeadline beyond]

variable {vigil : Vigil σ} {look : Nat}

/-- There is a sleep between each look and the next. -/
theorem length_fetchTimes_stepsUpTo
    (vigil : Vigil σ)
    (look : Nat) :
    (Step.fetchTimes vigil.start.clock (vigil.stepsUpTo look)).length =
      (sleeps (vigil.stepsUpTo look)).length + 1 := by
  rw [fetchTimes_stepsUpTo, sleeps_stepsUpTo]
  simp

/-- A look that ends the wait with a timeout of its own is at the deadline. -/
theorem isDue_of_timeout
    (ends : vigil.endAt? look = some (.error (.timeout vigil.kind vigil.event)))
    (unsaid : vigil.replyAt look ≠ .error (.timeout vigil.kind vigil.event)) :
    vigil.IsDue look := by
  have settles := endAt?_eq_some_iff.mp ends
  generalize vigil.replyAt look = reply at settles unsaid
  cases settles with
  | lost => exact absurd rfl unsaid
  | timedOut _ isDue => exact isDue

/-- Up to a look at the deadline, a wait sleeps for exactly the time allowed. -/
theorem slept_of_isDue
    (due : vigil.IsDue look) :
    slept (vigil.stepsUpTo look) = vigil.policy.timeout ∧
      (Step.fetchTimes vigil.start.clock (vigil.stepsUpTo look)).getLast? =
        some (vigil.start.clock + vigil.policy.timeout) := by
  have atDeadline :
      vigil.policy.lookTime vigil.start.clock look =
        vigil.start.clock + vigil.policy.timeout := by
    have within := (PollPolicy.isDue_iff.mp due).1
    exact Option.some.inj (due.symm.trans (PollPolicy.deadline?_eq_some within))
  constructor
  · have passed := (vigil.reaches_after look).clock
    rw [clock_after, atDeadline] at passed
    exact (Nat.add_left_cancel passed).symm
  · rw [fetchTimes_stepsUpTo, List.range_succ, List.map_append,
      List.getLast?_append, ← atDeadline]
    rfl

end Vigil

namespace Workflow

/--
The schedule of a wait is exact, for every policy and whatever the looks are
replied to. Its sleeps are the doubling periods up to the greatest one, each cut
to the longest sleep that there is and to the time that is left, and its looks
come directly before, between and after them. A wait that runs out of time has
slept for exactly the time allowed, and its last look is at the deadline.
-/
theorem waitFor_keeps_schedule
    (world : World σ)
    (policies : PollPolicies)
    (patience : Nat)
    (event : Int32)
    (kind : EventKind)
    (session : Session σ) :
    let policy := policies.get kind
    let run := (waitFor policies patience event kind).run world session
    ∃ steps,
      session.Reaches steps run.2 ∧
      policy.KeepsSchedule session.clock steps ∧
      (run.1 ≠ none →
        (Step.fetchTimes session.clock steps).length =
          (sleeps steps).length + 1) ∧
      (run.1 = some (.error (.timeout kind event)) →
        (∀ look, world.answers event session.state look ≠
            .error (.timeout kind event)) →
          slept steps = policy.timeout ∧
          (Step.fetchTimes session.clock steps).getLast? =
            some (session.clock + policy.timeout)) := by
  intro policy run
  let vigil := world.vigil event policies kind session
  have runs : run = vigil.run patience :=
    (world.run_vigil event policies kind session patience).symm
  rcases vigil.run_cases patience with
    ⟨look, _, outcome, endsAt, ending⟩ | ⟨_, ending⟩
  · rw [runs, ending]
    refine ⟨vigil.stepsUpTo look, vigil.reaches_after look,
      vigil.keepsSchedule_of_range (vigil.sleeps_stepsUpTo look)
        (vigil.fetchTimes_stepsUpTo look), fun _ =>
          vigil.length_fetchTimes_stepsUpTo look,
      fun timedOut unsaid => ?_⟩
    cases timedOut
    have due : vigil.IsDue look := by
      apply Vigil.isDue_of_timeout endsAt.ends
      rw [world.replyAt_vigil]
      exact unsaid look
    exact Vigil.slept_of_isDue due
  · rw [runs, ending]
    exact ⟨vigil.stepsBefore (patience + 1), vigil.reaches_before _,
      vigil.keepsSchedule_of_range (vigil.sleeps_stepsBefore _)
        (vigil.fetchTimes_stepsBefore _), fun isEnding =>
          absurd rfl isEnding, nofun⟩

/--
A policy with a first period that is longer than the time allowed, and both are
very long.
-/
def slowPolicy : PollPolicy where
  timeout := 1000000000 * nanosecondsPerSecond
  initialPeriod := 10000000000 * nanosecondsPerSecond
  maxPeriod := 100000000000 * nanosecondsPerSecond

/--
The longest sleep matters: a wait for a billion seconds with a first period of
ten billion does not sleep up to its deadline, as the period and the time that
is left alone would have it.
-/
theorem long_sleep_is_cut :
    let run :=
      (waitFor (.uniform slowPolicy) 2 1 .nodeSuspended).run Rehearsal.world
        (.start (.playing 1 [.pending]))
    run.1 = some (.error (.timeout .nodeSuspended 1)) ∧
      ¬ ∀ before duration after,
        run.2.history.reverse = before ++ .slept duration :: after →
          duration =
            min (slowPolicy.periodAfter (sleeps before).length)
              (slowPolicy.timeout - slept before) := by
  intro run
  refine ⟨rfl, fun uncut => ?_⟩
  have first := uncut [_] longestSleep [_, _, _] rfl
  exact absurd first (by decide)

end Workflow

end DropletClient
