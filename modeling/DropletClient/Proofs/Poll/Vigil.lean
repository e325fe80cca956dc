import DropletClient.Proofs.Poll.Period
import DropletClient.Proofs.Workflow.Exchange

namespace DropletClient

/-!
# Waits look by look

A vigil is a wait from its beginning, in a world that may change with time. What
a look is replied to, and the session before it, are given by the position of
the look, as if no look before had ended the wait. The first look that does end
it tells how the wait goes (`Vigil.run_of_endsAt`); if the looks that there is
patience for do not end it, it stays unfinished (`Vigil.run_of_none`).
-/

namespace Step

/-- How long a step slept, if it is a sleep. -/
def sleep? : Step → Option Nat
  | slept duration => some duration
  | sent _ _ => none
  | generated _ => none
  | proposed _ _ => none

end Step

/-- Looks in later steps come later by what is slept before. -/
theorem fetchTimes_append
    (time : Nat)
    (first second : List Step) :
    Step.fetchTimes time (first ++ second) =
      Step.fetchTimes time first ++
        Step.fetchTimes (time + slept first) second := by
  induction first generalizing time with
  | nil => rfl
  | cons step later inductionHypothesis =>
      cases step with
      | slept duration =>
          simp [Step.fetchTimes, slept, Step.duration, inductionHypothesis,
            Nat.add_assoc]
      | sent request reply =>
          cases request <;>
            simp [Step.fetchTimes, slept, Step.duration, inductionHypothesis]
      | generated reply =>
          simp [Step.fetchTimes, slept, Step.duration, inductionHypothesis]
      | proposed group name =>
          simp [Step.fetchTimes, slept, Step.duration, inductionHypothesis]

/-- How long each sleep among some steps was. -/
def sleeps (steps : List Step) : List Nat :=
  steps.filterMap Step.sleep?

/-- Only sleeps take time. -/
theorem slept_eq_foldr
    (steps : List Step) :
    slept steps = (sleeps steps).foldr (· + ·) 0 := by
  induction steps with
  | nil => rfl
  | cons step later inductionHypothesis =>
      rw [slept, inductionHypothesis]
      cases step <;>
        simp [sleeps, Step.sleep?, Step.duration, List.filterMap_cons]

/--
A wait for an event that begins in a session, in a world that may change
with time.
-/
structure Vigil (σ : Type) where
  worldAt : Nat → World σ
  policies : PollPolicies
  kind : EventKind
  event : Int32
  start : Session σ

namespace Vigil

variable (vigil : Vigil σ)

/-- The policy of the wait. -/
def policy : PollPolicy :=
  vigil.policies.get vigil.kind

/-- The wait, with patience for some looks after the first one. -/
def run (patience : Nat) : Option (Except Failure Unit) × Session σ :=
  (Workflow.waitFor vigil.policies patience vigil.event vigil.kind).runAt
    vigil.worldAt vigil.start

/-- The reply to a look in a session, and the session after it. -/
def lookIn (session : Session σ) : Except Failure Event × Session σ :=
  (vigil.worldAt session.clock).look session vigil.event

/-- The sleep after a look. -/
def sleepAfter (look : Nat) : Nat :=
  vigil.policy.sleepAfter vigil.start.clock look

/-- The session before a look. -/
def before : (look : Nat) → Session σ
  | 0 => vigil.start
  | look + 1 => (vigil.lookIn (before look)).2.rest (vigil.sleepAfter look)

/-- What a look is replied to. -/
def replyAt (look : Nat) : Except Failure Event :=
  (vigil.lookIn (vigil.before look)).1

/-- The session after a look. -/
def after (look : Nat) : Session σ :=
  (vigil.lookIn (vigil.before look)).2

/-- A look takes place at the deadline. -/
def IsDue (look : Nat) : Prop :=
  vigil.policy.IsDue vigil.start.clock look

instance (look : Nat) : Decidable (vigil.IsDue look) :=
  inferInstanceAs (Decidable (vigil.policy.IsDue _ _))

/-- How a look ends the wait, if it does. -/
def endAt? (look : Nat) : Option (Except Failure Unit) :=
  (Event.verdict? vigil.event (vigil.replyAt look)).or
    (if vigil.IsDue look then some (.error (.timeout vigil.kind vigil.event))
    else none)

/-- A look ends the wait, and no look before it does. -/
structure EndsAt (look : Nat) (outcome : Except Failure Unit) : Prop where
  ends : vigil.endAt? look = some outcome
  first : ∀ earlier < look, vigil.endAt? earlier = none

/-! ## The sessions of a wait -/

theorem clock_before
    (look : Nat) :
    (vigil.before look).clock =
      vigil.policy.lookTime vigil.start.clock look := by
  induction look with
  | zero => exact (vigil.policy.lookTime_zero _).symm
  | succ look inductionHypothesis =>
      rw [PollPolicy.lookTime_succ, ← inductionHypothesis]
      rfl

/-- A look takes no time. -/
theorem clock_after
    (look : Nat) :
    (vigil.after look).clock = vigil.policy.lookTime vigil.start.clock look :=
  vigil.clock_before look

/-- The steps before a look. -/
def stepsBefore : (look : Nat) → List Step
  | 0 => []
  | look + 1 =>
      stepsBefore look ++
        [.sent (.getEvent vigil.event) (vigil.replyAt look),
          .slept (vigil.sleepAfter look)]

/-- The steps up to a look. -/
def stepsUpTo (look : Nat) : List Step :=
  vigil.stepsBefore look ++ [.sent (.getEvent vigil.event) (vigil.replyAt look)]

theorem reaches_before
    (look : Nat) :
    vigil.start.Reaches (vigil.stepsBefore look) (vigil.before look) := by
  induction look with
  | zero => exact .refl _
  | succ look inductionHypothesis =>
      exact inductionHypothesis.trans
        ⟨rfl, congrArg (_ + ·) (Nat.zero_add _).symm⟩

theorem reaches_after
    (look : Nat) :
    vigil.start.Reaches (vigil.stepsUpTo look) (vigil.after look) :=
  (vigil.reaches_before look).trans ⟨rfl, rfl⟩

/-! ## The looks and the sleeps of a wait -/

/-- What is exchanged at a look. -/
def exchangeAt (look : Nat) : Exchange :=
  ⟨.getEvent vigil.event, vigil.replyAt look⟩

/--
What is extracted from the steps before a look, if each round gives one item.
-/
theorem filterMap_stepsBefore
    {extract : Step → Option β}
    {item : Nat → β}
    (eachRound :
      ∀ look,
        List.filterMap extract
            [.sent (.getEvent vigil.event) (vigil.replyAt look),
              .slept (vigil.sleepAfter look)] =
          [item look])
    (look : Nat) :
    (vigil.stepsBefore look).filterMap extract =
      (List.range look).map item := by
  induction look with
  | zero => rfl
  | succ look inductionHypothesis =>
      rw [stepsBefore, List.filterMap_append, inductionHypothesis, eachRound,
        List.range_succ, List.map_append]
      rfl

theorem exchanges_stepsBefore
    (look : Nat) :
    exchanges (vigil.stepsBefore look) =
      (List.range look).map vigil.exchangeAt :=
  vigil.filterMap_stepsBefore (fun _ => rfl) look

theorem exchanges_stepsUpTo
    (look : Nat) :
    exchanges (vigil.stepsUpTo look) =
      (List.range (look + 1)).map vigil.exchangeAt := by
  rw [stepsUpTo, exchanges_append, exchanges_stepsBefore, List.range_succ,
    List.map_append]
  rfl

theorem sleeps_stepsBefore
    (look : Nat) :
    sleeps (vigil.stepsBefore look) = (List.range look).map vigil.sleepAfter :=
  vigil.filterMap_stepsBefore (fun _ => rfl) look

theorem sleeps_stepsUpTo
    (look : Nat) :
    sleeps (vigil.stepsUpTo look) = (List.range look).map vigil.sleepAfter := by
  rw [← sleeps_stepsBefore, sleeps, sleeps, stepsUpTo, List.filterMap_append]
  exact List.append_nil _

/-- What was slept before a look is the time that passed since the beginning. -/
theorem slept_stepsBefore
    (look : Nat) :
    vigil.start.clock + slept (vigil.stepsBefore look) =
      vigil.policy.lookTime vigil.start.clock look := by
  rw [← (vigil.reaches_before look).clock, clock_before]

/-- Steps with the same sleeps take as long. -/
theorem slept_of_sleeps
    {steps : List Step}
    {rests : Nat}
    (rested : sleeps steps = (List.range rests).map vigil.sleepAfter) :
    vigil.start.clock + slept steps =
      vigil.policy.lookTime vigil.start.clock rests := by
  rw [← slept_stepsBefore, slept_eq_foldr, slept_eq_foldr, rested,
    sleeps_stepsBefore]

theorem fetchTimes_stepsBefore
    (look : Nat) :
    Step.fetchTimes vigil.start.clock (vigil.stepsBefore look) =
      (List.range look).map (vigil.policy.lookTime vigil.start.clock) := by
  induction look with
  | zero => rfl
  | succ look inductionHypothesis =>
      rw [stepsBefore, fetchTimes_append, slept_stepsBefore,
        inductionHypothesis, List.range_succ, List.map_append]
      rfl

theorem fetchTimes_stepsUpTo
    (look : Nat) :
    Step.fetchTimes vigil.start.clock (vigil.stepsUpTo look) =
      (List.range (look + 1)).map
        (vigil.policy.lookTime vigil.start.clock) := by
  rw [stepsUpTo, fetchTimes_append, slept_stepsBefore, fetchTimes_stepsBefore,
    List.range_succ, List.map_append]
  rfl

/-! ## How a wait goes -/

/--
The loop of the wait at a look, with patience for some looks from then on.
-/
def loop (look looks : Nat) : Option (Except Failure Unit) × Session σ :=
  (Workflow.poll vigil.policy vigil.kind vigil.event
      (vigil.policy.deadline? vigil.start.clock)
      looks (vigil.policy.periodAfter look)).runAt vigil.worldAt
        (vigil.before look)

/-- A look ends the loop, or else the loop goes on with the next look. -/
theorem loop_succ
    (look looks : Nat) :
    vigil.loop look (looks + 1) =
      match vigil.endAt? look with
      | some outcome => (some outcome, vigil.after look)
      | none => vigil.loop (look + 1) looks := by
  have delays := vigil.policy.delay?_lookTime vigil.start.clock look
  rw [← clock_before] at delays
  rw [loop, Workflow.runAt_poll_succ]
  -- the round speaks of the look in the session before it
  change
    (match Event.verdict? vigil.event (vigil.replyAt look) with
      | some outcome => (some outcome, vigil.after look)
      | none => _) = _
  rw [endAt?]
  cases Event.verdict? vigil.event (vigil.replyAt look) with
  | some outcome => rfl
  | none =>
      by_cases due : vigil.IsDue look
      · have spent : vigil.policy.IsDue vigil.start.clock look := due
        rw [if_pos spent, Option.map_eq_none_iff] at delays
        simp only [delays, if_pos due, Option.none_or]
        rfl
      · have left : ¬ vigil.policy.IsDue vigil.start.clock look := due
        rw [if_neg left, Option.map_eq_some_iff] at delays
        obtain ⟨delay, delays, sleepsFor⟩ := delays
        simp only [delays, if_neg due, Option.none_or, sleepsFor]
        rw [loop, PollPolicy.periodAfter_succ]
        rfl

/-- As long as no look ends the wait, its loop comes to the next look. -/
theorem run_eq_loop
    {look patience : Nat}
    (enough : look ≤ patience + 1)
    (undecided : ∀ earlier < look, vigil.endAt? earlier = none) :
    vigil.run patience = vigil.loop look (patience + 1 - look) := by
  induction look with
  | zero => rfl
  | succ look inductionHypothesis =>
      have one : patience + 1 - look = (patience + 1 - (look + 1)) + 1 := by
        omega
      rw [inductionHypothesis (by omega)
          fun earlier before => undecided earlier (by omega),
        one, loop_succ, undecided look (Nat.lt_succ_self look)]

/--
With patience enough to come to it, the first look that ends the wait tells
how it goes.
-/
theorem run_of_endsAt
    {vigil : Vigil σ}
    {look patience : Nat}
    {outcome : Except Failure Unit}
    (endsAt : vigil.EndsAt look outcome)
    (enough : look ≤ patience) :
    vigil.run patience = (some outcome, vigil.after look) := by
  have one : patience + 1 - look = (patience - look) + 1 := by omega
  rw [vigil.run_eq_loop (by omega) endsAt.first, one, loop_succ, endsAt.ends]

/--
A wait stays unfinished if the looks that there is patience for do not end it.
-/
theorem run_of_none
    {vigil : Vigil σ}
    {patience : Nat}
    (undecided : ∀ look ≤ patience, vigil.endAt? look = none) :
    vigil.run patience = (none, vigil.before (patience + 1)) := by
  rw [vigil.run_eq_loop (Nat.le_refl _)
      fun look before => undecided look (by omega),
    Nat.sub_self]
  rfl

/--
Among the first looks there is one that ends the wait, or none of them does.
-/
theorem exists_endsAt_or
    (looks : Nat) :
    (∃ look < looks, ∃ outcome, vigil.EndsAt look outcome) ∨
      ∀ look < looks, vigil.endAt? look = none := by
  induction looks with
  | zero => exact .inr fun look before => absurd before (Nat.not_lt_zero look)
  | succ looks inductionHypothesis =>
      rcases inductionHypothesis with ⟨look, before, ending⟩ | undecided
      · exact .inl ⟨look, by omega, ending⟩
      · cases ending : vigil.endAt? looks with
        | some outcome =>
            exact .inl
              ⟨looks, Nat.lt_succ_self looks, outcome, ending, undecided⟩
        | none =>
            refine .inr fun look before => ?_
            rcases Nat.lt_succ_iff_lt_or_eq.mp before with earlier | rfl
            · exact undecided look earlier
            · exact ending

/--
A wait ends at the first look that ends it, or stays unfinished because
none does.
-/
theorem run_cases
    (patience : Nat) :
    (∃ look ≤ patience, ∃ outcome,
        vigil.EndsAt look outcome ∧
          vigil.run patience = (some outcome, vigil.after look)) ∨
      (∀ look ≤ patience, vigil.endAt? look = none) ∧
        vigil.run patience = (none, vigil.before (patience + 1)) := by
  rcases vigil.exists_endsAt_or (patience + 1) with
    ⟨look, enough, outcome, endsAt⟩ | undecided
  · exact .inl
      ⟨look, by omega, outcome, endsAt, run_of_endsAt endsAt (by omega)⟩
  · have never : ∀ look ≤ patience, vigil.endAt? look = none :=
      fun look enough => undecided look (by omega)
    exact .inr ⟨never, run_of_none never⟩

end Vigil

/-! ## Worlds that do not change -/

namespace World

variable (world : World σ) (event : Int32) (state : σ)

/-- The state after some looks at an event and nothing else. -/
def afterLooks : (looks : Nat) → σ
  | 0 => state
  | looks + 1 => (world.answer (afterLooks looks) (.getEvent event)).2

/--
What looks at an event are replied to one after the other, whenever they
take place.
-/
def answers (look : Nat) : Except Failure Event :=
  (world.answer (world.afterLooks event state look) (.getEvent event)).1

/-- A wait in a world that does not change. -/
def vigil
    (policies : PollPolicies)
    (kind : EventKind)
    (session : Session σ) :
    Vigil σ :=
  ⟨fun _ => world, policies, kind, event, session⟩

variable (policies : PollPolicies) (kind : EventKind) (session : Session σ)

theorem run_vigil
    (patience : Nat) :
    (world.vigil event policies kind session).run patience =
      (Workflow.waitFor policies patience event kind).run world session :=
  Workflow.runAt_constant world _ session

/-- The state depends on how many looks there were, and not on their times. -/
theorem state_before
    (look : Nat) :
    ((world.vigil event policies kind session).before look).state =
      world.afterLooks event session.state look := by
  induction look with
  | zero => rfl
  | succ look inductionHypothesis =>
      rw [afterLooks, ← inductionHypothesis]
      rfl

theorem replyAt_vigil
    (look : Nat) :
    (world.vigil event policies kind session).replyAt look =
      world.answers event session.state look := by
  rw [answers, ← world.state_before event policies kind session]
  rfl

end World

end DropletClient
