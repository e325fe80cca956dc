import DropletClient.Proofs.Poll.Settlement

namespace DropletClient

/-!
# Longer waits

Two waits that differ in the time allowed see the same at each look, although
the clocks differ as soon as the shorter one cuts a sleep. As long as the
shorter one does not run out of time, both end at the same look and in the
same way.
-/

namespace PollPolicy

variable (policy : PollPolicy) (timeout : Nat)

/-- The policy with another time allowed. -/
def extended : PollPolicy :=
  { policy with timeout }

@[simp] theorem timeout_extended :
    (policy.extended timeout).timeout = timeout :=
  rfl

/-- The sleeps that no deadline cuts do not depend on the time allowed. -/
theorem restBefore_extended
    (look : Nat) :
    (policy.extended timeout).restBefore look = policy.restBefore look := by
  induction look with
  | zero => rfl
  | succ look inductionHypothesis =>
      rw [restBefore, restBefore, inductionHypothesis]
      rfl

variable {policy timeout} {start look : Nat}

/-- A wait that is allowed less time has a deadline as well. -/
theorem hasDeadline_of_extended
    (noShorter : policy.timeout ≤ timeout)
    (within : (policy.extended timeout).HasDeadline start) :
    policy.HasDeadline start :=
  Nat.lt_of_le_of_lt (Nat.add_le_add_left noShorter start) within

/-- With more time allowed, no look comes earlier. -/
theorem lookTime_le_extended
    (noShorter : policy.timeout ≤ timeout)
    (start look : Nat) :
    policy.lookTime start look ≤
      (policy.extended timeout).lookTime start look := by
  by_cases longerWithin : (policy.extended timeout).HasDeadline start
  · have within := hasDeadline_of_extended noShorter longerWithin
    rw [lookTime_of_hasDeadline within, lookTime_of_hasDeadline longerWithin,
      restBefore_extended, timeout_extended]
    omega
  · rw [lookTime_of_not_hasDeadline longerWithin, restBefore_extended, lookTime]
    split <;> omega

/--
With more time allowed, a look is at the deadline only if it was with less.
-/
theorem isDue_of_extended
    (noShorter : policy.timeout ≤ timeout)
    (due : (policy.extended timeout).IsDue start look) :
    policy.IsDue start look := by
  obtain ⟨longerWithin, covered⟩ := isDue_iff.mp due
  rw [timeout_extended, restBefore_extended] at covered
  exact isDue_iff.mpr
    ⟨hasDeadline_of_extended noShorter longerWithin,
      Nat.le_trans noShorter covered⟩

end PollPolicy

namespace Settles

variable
  {event : Int32}
  {kind : EventKind}
  {due other : Prop}
  {reply : Except Failure Event}
  {outcome : Except Failure Unit}

/-- A deadline that is due for one more reason settles no less. -/
theorem mono
    (settles : Settles event kind due reply outcome)
    (implies : due → other) :
    Settles event kind other reply outcome := by
  cases settles with
  | done isDone => exact .done isDone
  | failed hasFailed => exact .failed hasFailed
  | lost failure => exact .lost failure
  | timedOut isPending isDue => exact .timedOut isPending (implies isDue)

/--
A wait that does not run out of time is settled whether the deadline is
due or not.
-/
theorem of_ne_timeout
    (settles : Settles event kind due reply outcome)
    (inTime : outcome ≠ .error (.timeout kind event)) :
    Settles event kind other reply outcome := by
  cases settles with
  | done isDone => exact .done isDone
  | failed hasFailed => exact .failed hasFailed
  | lost failure => exact .lost failure
  | timedOut => exact absurd rfl inTime

end Settles

namespace World

/-- Waits in the same world see the same, whatever their policies are. -/
theorem exchanges_vigil
    (world : World σ)
    (event : Int32)
    (policies others : PollPolicies)
    (kind : EventKind)
    (session : Session σ)
    (look : Nat) :
    exchanges ((world.vigil event policies kind session).stepsUpTo look) =
      exchanges ((world.vigil event others kind session).stepsUpTo look) := by
  rw [Vigil.exchanges_stepsUpTo, Vigil.exchanges_stepsUpTo]
  refine List.map_congr_left fun earlier _ => ?_
  rw [Vigil.exchangeAt, Vigil.exchangeAt, replyAt_vigil, replyAt_vigil]
  rfl

end World

namespace Workflow

/--
More time never hurts. A wait that does not run out of time ends in the same way
if it is allowed more time, after the same looks with the same replies, and not
earlier. It may end later, because the last sleep of the shorter wait may have
been cut at a deadline that the longer one sleeps past.
-/
theorem waitFor_survives_longer_timeout
    {shorter longer : PollPolicies}
    {kind : EventKind}
    {timeout : Nat}
    (lengthens : longer.get kind = (shorter.get kind).extended timeout)
    (noShorter : (shorter.get kind).timeout ≤ timeout)
    (world : World σ)
    {patience : Nat}
    {event : Int32}
    {session later : Session σ}
    {outcome : Except Failure Unit}
    (ends : (waitFor shorter patience event kind).run world session =
      (some outcome, later))
    (inTime : outcome ≠ .error (.timeout kind event)) :
    ∃ last steps longerSteps,
      (waitFor longer patience event kind).run world session =
        (some outcome, last) ∧
      session.Reaches steps later ∧
      session.Reaches longerSteps last ∧
      exchanges longerSteps = exchanges steps ∧
      later.clock ≤ last.clock := by
  let short := world.vigil event shorter kind session
  let long := world.vigil event longer kind session
  rw [← world.run_vigil] at ends
  rcases short.run_cases patience with
    ⟨look, enough, result, endsAt, ending⟩ | ⟨_, ending⟩
  · cases ending.symm.trans ends
    have due
        {earlier : Nat}
        (longerDue : (longer.get kind).IsDue session.clock earlier) :
        (shorter.get kind).IsDue session.clock earlier := by
      rw [lengthens] at longerDue
      exact PollPolicy.isDue_of_extended noShorter longerDue
    have first (earlier : Nat) (before : earlier < look) :
        long.endAt? earlier = none := by
      apply world.endAt?_vigil_eq_none
      intro other settles
      have ended :=
        (world.endAt?_vigil event shorter kind session).mpr (settles.mono due)
      cases (endsAt.first earlier before).symm.trans ended
    have settles :=
      (world.endAt?_vigil event shorter kind session).mp endsAt.ends
    have longEndsAt : long.EndsAt look outcome :=
      ⟨(world.endAt?_vigil event longer kind session).mpr
        (settles.of_ne_timeout inTime), first⟩
    refine ⟨long.after look, short.stepsUpTo look, long.stepsUpTo look, ?_,
      short.reaches_after look, long.reaches_after look,
      world.exchanges_vigil event longer shorter kind session look, ?_⟩
    · rw [← world.run_vigil]
      exact Vigil.run_of_endsAt longEndsAt enough
    · rw [Vigil.clock_after, Vigil.clock_after]
      have notEarlier :=
        PollPolicy.lookTime_le_extended noShorter session.clock look
      rw [← lengthens] at notEarlier
      exact notEarlier
  · cases ending.symm.trans ends

/--
A policy that allows as many seconds as are given, with looks after 0, 1, 3 and
7 seconds.
-/
def patientPolicy (seconds : Nat) : PollPolicy where
  timeout := seconds * nanosecondsPerSecond
  initialPeriod := nanosecondsPerSecond
  maxPeriod := 4 * nanosecondsPerSecond

/-- The beginning of a wait for an event that is done at the third look. -/
def thirdLookStart : Session Rehearsal :=
  .start (.playing 1 [.pending, .pending, .done])

/-- A wait for that event. -/
def waitForThirdLook
    (seconds : Nat) :
    Option (Except Failure Unit) × Session Rehearsal :=
  (waitFor (.uniform (patientPolicy seconds)) 2 1 .nodeRunning).run
    Rehearsal.world thirdLookStart

/--
An event that is found done at the deadline of two seconds is found done by the
same look if nine seconds are allowed, but that look comes after three.
-/
theorem waitFor_survives_longer_timeout_third_look :
    (patientPolicy 2).timeout ≤ (patientPolicy 9).timeout ∧
      (waitForThirdLook 2).1 = some (.ok ()) ∧
      (waitForThirdLook 2).2.clock = 2 * nanosecondsPerSecond ∧
      ∃ last steps longerSteps,
        waitForThirdLook 9 = (some (.ok ()), last) ∧
        thirdLookStart.Reaches steps (waitForThirdLook 2).2 ∧
        thirdLookStart.Reaches longerSteps last ∧
        exchanges longerSteps = exchanges steps ∧
        last.clock = 3 * nanosecondsPerSecond := by
  have noShorter : (patientPolicy 2).timeout ≤ (patientPolicy 9).timeout := by
    decide
  have done : (waitForThirdLook 2).1 = some (.ok ()) := rfl
  have ends : waitForThirdLook 2 = (some (.ok ()), (waitForThirdLook 2).2) := by
    rw [← done]
  obtain ⟨last, steps, longerSteps, survives, reaches, longerReaches,
      same, _⟩ :=
    @waitFor_survives_longer_timeout _ (.uniform (patientPolicy 2))
      (.uniform (patientPolicy 9))
      .nodeRunning _ rfl noShorter Rehearsal.world _ _ _ _ _ ends nofun
  have clock : (waitForThirdLook 9).2.clock = last.clock :=
    congrArg (Session.clock ∘ Prod.snd) survives
  exact ⟨noShorter, done, rfl, last, steps, longerSteps, survives, reaches,
    longerReaches, same, clock.symm.trans rfl⟩

end Workflow

end DropletClient
