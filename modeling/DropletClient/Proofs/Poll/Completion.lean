import DropletClient.Proofs.Poll.Vigil

namespace DropletClient

/-!
# Completions are not missed

An event that completes at an instant, in a world that changes with time, is
found complete by a wait exactly if the instant is not after the deadline: the
looks go on up to the deadline itself, and no gap between them is longer than
a period.
-/

/-- What a wait for an event reports of the state in which the event ends. -/
inductive Reports (event : Int32) :
    (status : EventStatus) → (report : Except Failure Unit) → Prop where
  | done : Reports event .done (.ok ())
  | failed : Reports event .error (.error (.operationFailed event))

/--
An event completes in a state at an instant: a look at it finds it pending
before the instant, and in that state from then on, whatever else happened.
-/
def CompletesAt
    (worldAt : Nat → World σ)
    (event : Int32)
    (instant : Int)
    (status : EventStatus) : Prop :=
  ∀ (time : Nat) (state : σ), ∃ seen,
    ((worldAt time).answer state (.getEvent event)).1 = .ok seen ∧
      seen.status = if (time : Int) < instant then .pending else status

theorem Reports.ne_timeout
    {event : Int32}
    {kind : EventKind}
    {status : EventStatus}
    {report : Except Failure Unit}
    (reports : Reports event status report) :
    report ≠ .error (.timeout kind event) := by
  cases reports <;> nofun

namespace Vigil

variable
  {vigil : Vigil σ}
  {instant : Int}
  {status : EventStatus}
  {report : Except Failure Unit}

/--
A look before the instant ends a wait at the deadline only; a later one reports
the state.
-/
theorem endAt?_of_completesAt
    (completes : CompletesAt vigil.worldAt vigil.event instant status)
    (reports : Reports vigil.event status report)
    (look : Nat) :
    vigil.endAt? look =
      if (vigil.policy.lookTime vigil.start.clock look : Int) < instant then
        if vigil.IsDue look then
          some (.error (.timeout vigil.kind vigil.event))
        else
          none
      else some report := by
  obtain ⟨seen, replied, statusSeen⟩ :=
    completes (vigil.before look).clock (vigil.before look).state
  have reply : vigil.replyAt look = .ok seen := replied
  rw [clock_before] at statusSeen
  rw [endAt?, reply, Event.verdict?, statusSeen]
  by_cases early :
    (vigil.policy.lookTime vigil.start.clock look : Int) < instant
  · simp only [if_pos early, Option.none_or]
  · simp only [if_neg early]
    cases reports <;> rfl

/--
A look that ends the wait before the instant is at the deadline, and times out.
-/
theorem EndsAt.timedOut
    {look : Nat}
    {outcome : Except Failure Unit}
    (endsAt : vigil.EndsAt look outcome)
    (completes : CompletesAt vigil.worldAt vigil.event instant status)
    (reports : Reports vigil.event status report)
    (early : (vigil.policy.lookTime vigil.start.clock look : Int) < instant) :
    outcome = .error (.timeout vigil.kind vigil.event) ∧
      vigil.policy.lookTime vigil.start.clock look =
        vigil.start.clock + vigil.policy.timeout := by
  have ends := endsAt.ends
  rw [endAt?_of_completesAt completes reports, if_pos early] at ends
  obtain ⟨due, timeout⟩ := Option.ite_none_right_eq_some.mp ends
  have within := (PollPolicy.isDue_iff.mp due).1
  exact ⟨(Option.some.inj timeout).symm,
    Option.some.inj (due.symm.trans (PollPolicy.deadline?_eq_some within))⟩

/-- A look that ends the wait from the instant on reports the state. -/
theorem EndsAt.reported
    {look : Nat}
    {outcome : Except Failure Unit}
    (endsAt : vigil.EndsAt look outcome)
    (completes : CompletesAt vigil.worldAt vigil.event instant status)
    (reports : Reports vigil.event status report)
    (late : ¬ (vigil.policy.lookTime vigil.start.clock look : Int) < instant) :
    outcome = report := by
  have ends := endsAt.ends
  rw [endAt?_of_completesAt completes reports, if_neg late] at ends
  exact (Option.some.inj ends).symm

/-- All looks before the one that ends the wait are before the instant. -/
theorem EndsAt.early
    {look earlier : Nat}
    {outcome : Except Failure Unit}
    (endsAt : vigil.EndsAt look outcome)
    (completes : CompletesAt vigil.worldAt vigil.event instant status)
    (reports : Reports vigil.event status report)
    (before : earlier < look) :
    (vigil.policy.lookTime vigil.start.clock earlier : Int) < instant := by
  have undecided := endsAt.first earlier before
  rw [endAt?_of_completesAt completes reports] at undecided
  split at undecided
  · assumption
  · cases undecided

/--
The first look is the last one if the event was complete from the beginning.
-/
theorem EndsAt.at_once
    {look : Nat}
    {outcome : Except Failure Unit}
    (endsAt : vigil.EndsAt look outcome)
    (completes : CompletesAt vigil.worldAt vigil.event instant status)
    (reports : Reports vigil.event status report)
    (complete : instant ≤ vigil.start.clock) :
    look = 0 := by
  cases look with
  | zero => rfl
  | succ look =>
      have early := endsAt.early completes reports (Nat.zero_lt_succ look)
      rw [PollPolicy.lookTime_zero] at early
      omega

/--
The look that reports a completion follows on a look before it, and no
gap is long.
-/
theorem EndsAt.soon
    {look : Nat}
    {outcome : Except Failure Unit}
    (endsAt : vigil.EndsAt look outcome)
    (completes : CompletesAt vigil.worldAt vigil.event instant status)
    (reports : Reports vigil.event status report)
    (incomplete : vigil.start.clock < instant)
    (reached : instant ≤ vigil.policy.lookTime vigil.start.clock look) :
    vigil.policy.lookTime vigil.start.clock look - instant <
      max vigil.policy.initialPeriod vigil.policy.maxPeriod := by
  cases look with
  | zero =>
      rw [PollPolicy.lookTime_zero] at reached
      omega
  | succ look =>
      have early := endsAt.early completes reports (Nat.lt_succ_self look)
      have gap := vigil.policy.sleepAfter_le vigil.start.clock look
      rw [PollPolicy.lookTime_succ]
      omega

/-- Periods that take time bring a wait with a deadline to its end. -/
theorem exists_endsAt
    (vigil : Vigil σ)
    (initialPositive : 0 < vigil.policy.initialPeriod)
    (maxPositive : 0 < vigil.policy.maxPeriod)
    (within : vigil.policy.HasDeadline vigil.start.clock) :
    ∃ look ≤ vigil.policy.timeout, ∃ outcome, vigil.EndsAt look outcome := by
  have due : vigil.IsDue vigil.policy.timeout :=
    PollPolicy.isDue_iff.mpr
      ⟨within, PollPolicy.le_restBefore initialPositive maxPositive _⟩
  rcases vigil.exists_endsAt_or (vigil.policy.timeout + 1) with
      ⟨look, inTime, ending⟩ | undecided
  · exact ⟨look, Nat.le_of_lt_succ inTime, ending⟩
  · have goesOn := undecided _ (Nat.lt_succ_self _)
    rw [endAt?, if_pos due, Option.or_eq_none_iff] at goesOn
    cases goesOn.2

end Vigil

namespace Workflow

/--
No completion is missed. If the periods take time and the deadline is within the
range of the clock, a wait for an event that completes at an instant ends, with
patience enough, and it reports the state in which the event ends exactly if the
instant is not after the deadline; otherwise it times out. The report comes at
the first look if the event was complete from the beginning, and otherwise after
less than the longest gap between two looks. The instant is given by its
distance from the beginning of the wait.
-/
theorem waitFor_misses_no_completion
    {worldAt : Nat → World σ}
    {policies : PollPolicies}
    {kind : EventKind}
    {event : Int32}
    {session : Session σ}
    {distance : Int}
    {status : EventStatus}
    {report : Except Failure Unit}
    (initialPositive : 0 < (policies.get kind).initialPeriod)
    (maxPositive : 0 < (policies.get kind).maxPeriod)
    (within : (policies.get kind).HasDeadline session.clock)
    (completes : CompletesAt worldAt event (session.clock + distance) status)
    (reports : Reports event status report) :
    let policy := policies.get kind
    ∃ outcome later elapsed,
      (∀ patience,
        policy.timeout ≤ patience →
          (waitFor policies patience event kind).runAt worldAt session =
            (some outcome, later)) ∧
      later.clock = session.clock + elapsed ∧
      (outcome = report ↔ distance ≤ policy.timeout) ∧
      (policy.timeout < distance → outcome = .error (.timeout kind event)) ∧
      (outcome = report →
        (distance ≤ 0 → elapsed = 0) ∧
        (0 < distance →
          distance ≤ elapsed ∧
          elapsed ≤ policy.timeout ∧
          elapsed - distance < max policy.initialPeriod policy.maxPeriod)) := by
  intro policy
  let vigil : Vigil σ := ⟨worldAt, policies, kind, event, session⟩
  obtain ⟨look, enough, outcome, endsAt⟩ :=
    vigil.exists_endsAt initialPositive maxPositive within
  have time :
      policy.lookTime session.clock look =
        session.clock + min policy.timeout (policy.restBefore look) :=
    PollPolicy.lookTime_of_hasDeadline within look
  refine ⟨outcome, vigil.after look,
    min policy.timeout (policy.restBefore look),
    fun patience isEnough =>
      Vigil.run_of_endsAt endsAt (Nat.le_trans enough isEnough),
    (vigil.clock_after look).trans time, ?_⟩
  by_cases early :
    (policy.lookTime session.clock look : Int) < session.clock + distance
  · obtain ⟨rfl, atDeadline⟩ := endsAt.timedOut completes reports early
    have tooLate : ¬ distance ≤ policy.timeout := by
      have spent :
          policy.lookTime session.clock look = session.clock + policy.timeout :=
        atDeadline
      omega
    have unreported : Except.error (.timeout kind event) ≠ report :=
      reports.ne_timeout.symm
    exact ⟨iff_of_false unreported tooLate, fun _ => rfl,
      fun reported => absurd reported unreported⟩
  · obtain rfl := endsAt.reported completes reports early
    refine ⟨iff_of_true rfl (by omega), fun tooLate => by omega,
      fun _ => ⟨fun complete => ?_, fun incomplete => ⟨by omega, by omega, ?_⟩⟩⟩
    · have atOnce : look = 0 := by
        have completeFromStart : session.clock + distance ≤ session.clock := by
          omega
        exact endsAt.at_once completes reports completeFromStart
      subst atOnce
      exact Nat.min_eq_right (Nat.zero_le _)
    · have incompleteAtStart :
          (session.clock : Int) < session.clock + distance := by
        omega
      have soon :
          (policy.lookTime session.clock look : Int) -
              (session.clock + distance) <
            max policy.initialPeriod policy.maxPeriod :=
        endsAt.soon completes reports incompleteAtStart (Int.not_lt.mp early)
      omega

/--
A provider at which all events complete at an instant; there is one such world
for each time.
-/
def completingProvider
    (instant : Int)
    (status : EventStatus)
    (time : Nat) :
    World Unit where
  answer _
    | .getEvent event =>
        (.ok {
          id := event
          status := if (time : Int) < instant then .pending else status
          droplet := none
          action := none
          percentage := none }, ())
    | _ => (.error (.transport .noResponse), ())
  generate _ := (.error (.transport .noResponse), ())
  propose _ group := (group, ())

theorem completesAt_completingProvider
    (event : Int32)
    (instant : Int)
    (status : EventStatus) :
    CompletesAt (completingProvider instant status) event instant status :=
  fun _ _ => ⟨_, rfl, rfl⟩

/--
A policy whose last sleep is cut short: looks come after 0, 1, 3, 7, … , 27 and
30 seconds.
-/
def halfMinutePolicy : PollPolicy where
  timeout := 30 * nanosecondsPerSecond
  initialPeriod := nanosecondsPerSecond
  maxPeriod := 4 * nanosecondsPerSecond

/-- An event that is done just at the deadline is reported at the deadline. -/
theorem waitFor_misses_no_completion_at_deadline :
    0 < halfMinutePolicy.initialPeriod ∧
      0 < halfMinutePolicy.maxPeriod ∧
      halfMinutePolicy.HasDeadline 5 ∧
      CompletesAt (completingProvider (5 + halfMinutePolicy.timeout) .done) 7
        (5 + halfMinutePolicy.timeout) .done ∧
      ∃ later,
        (∀ patience,
          halfMinutePolicy.timeout ≤ patience →
            (waitFor (.uniform halfMinutePolicy)
                patience 7 .imageAvailable).runAt
                (completingProvider (5 + halfMinutePolicy.timeout) .done)
                  ⟨(), 5, []⟩ =
              (some (.ok ()), later)) ∧
        later.clock = 5 + halfMinutePolicy.timeout := by
  have initialPositive : 0 < halfMinutePolicy.initialPeriod := by decide
  have maxPositive : 0 < halfMinutePolicy.maxPeriod := by decide
  have within : halfMinutePolicy.HasDeadline 5 := by decide
  have completes :=
    completesAt_completingProvider 7 (5 + halfMinutePolicy.timeout) .done
  obtain ⟨outcome, later, elapsed, runs, clock, reports, _, punctual⟩ :=
    @waitFor_misses_no_completion _ _ (.uniform halfMinutePolicy)
      .imageAvailable 7 ⟨(), 5, []⟩
      halfMinutePolicy.timeout .done (.ok ())
        initialPositive maxPositive within completes .done
  have reported : outcome = .ok () := reports.mpr (Int.le_refl _)
  obtain ⟨notEarlier, notLater, _⟩ := (punctual reported).2 (by decide)
  have spent : elapsed = halfMinutePolicy.timeout :=
    Nat.le_antisymm notLater (Int.ofNat_le.mp notEarlier)
  subst reported spent
  exact ⟨initialPositive, maxPositive, within, completes, later, runs, clock⟩

end Workflow

end DropletClient
