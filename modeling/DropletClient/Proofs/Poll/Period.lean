import DropletClient.Proofs.Poll.Round

namespace DropletClient

/-!
# Periods, and the times of looks

The loop of a wait computes each period from the one before. Here the periods,
the sleeps and the times of the looks are given by the position of the look
alone, the first look having position 0; `periodAfter_succ`, `lookTime_succ` and
`delay?_lookTime` say that this is what the loop computes.
-/

namespace PollPolicy

/--
The longest duration that can be written: all but a nanosecond of
`2 ^ 64` seconds.
-/
def longestDuration : Nat := Nat.pow 2 64 * nanosecondsPerSecond - 1

/--
A period is doubled without regard to the longest duration. Doubling that stops
there makes no difference, for the greatest period is a duration as well.
-/
theorem nextPeriod_eq_saturating
    {policy : PollPolicy}
    (writable : policy.maxPeriod ≤ longestDuration)
    (period : Nat) :
    policy.nextPeriod period =
      min (min (2 * period) longestDuration) policy.maxPeriod := by
  unfold nextPeriod
  omega

variable (policy : PollPolicy)

/--
The period after a look: the first one as it is, and later ones doubled as often
as there were looks before, but not beyond the greatest one.
-/
def periodAfter : (look : Nat) → Nat
  | 0 => policy.initialPeriod
  | look + 1 =>
      min (Nat.pow 2 (look + 1) * policy.initialPeriod) policy.maxPeriod

/--
The longest that a sleep after a look can be: a period, but not beyond the
longest sleep.
-/
def restAfter (look : Nat) : Nat :=
  min (policy.periodAfter look) Workflow.longestSleep

/--
The time from the first look to a later one, if no deadline cuts a sleep short.
-/
def restBefore : (look : Nat) → Nat
  | 0 => 0
  | look + 1 => restBefore look + policy.restAfter look

/--
The deadline of a wait that begins at a time is within the range of the clock.
-/
def HasDeadline (start : Nat) : Prop :=
  start + policy.timeout < clockEnd

instance (start : Nat) : Decidable (policy.HasDeadline start) :=
  inferInstanceAs (Decidable (_ < _))

/-- The time of a look of a wait that begins at a time. -/
def lookTime (start look : Nat) : Nat :=
  if policy.HasDeadline start then
    start + min policy.timeout (policy.restBefore look)
  else start + policy.restBefore look

/-- The sleep after a look of a wait that begins at a time. -/
def sleepAfter (start look : Nat) : Nat :=
  if policy.HasDeadline start then
    min (policy.restAfter look) (policy.timeout - policy.restBefore look)
  else policy.restAfter look

/--
A look takes place at the deadline of a wait that begins at a time: no time is
left after it.
-/
def IsDue (start look : Nat) : Prop :=
  policy.deadline? start = some (policy.lookTime start look)

/-- The loop goes from one period to the next. -/
theorem periodAfter_succ
    (look : Nat) :
    policy.periodAfter (look + 1) =
      policy.nextPeriod (policy.periodAfter look) := by
  cases look with
  | zero => rfl
  | succ look =>
      -- the greatest period may have cut the period before, but then it cuts
      -- the double as well
      have doubled :
          Nat.pow 2 (look + 1 + 1) * policy.initialPeriod =
            2 * (Nat.pow 2 (look + 1) * policy.initialPeriod) := by
        rw [← Nat.mul_assoc, Nat.mul_comm 2]
        rfl
      rw [periodAfter, periodAfter, nextPeriod, doubled]
      omega

/-- No period is longer than the first one and the greatest one. -/
theorem periodAfter_le
    (look : Nat) :
    policy.periodAfter look ≤ max policy.initialPeriod policy.maxPeriod := by
  cases look with
  | zero => exact Nat.le_max_left ..
  | succ look => exact Nat.le_trans (Nat.min_le_right ..) (Nat.le_max_right ..)

theorem periodAfter_pos
    {policy : PollPolicy}
    (initialPositive : 0 < policy.initialPeriod)
    (maxPositive : 0 < policy.maxPeriod)
    (look : Nat) :
    0 < policy.periodAfter look := by
  cases look with
  | zero => exact initialPositive
  | succ look =>
      exact Nat.lt_min.mpr
        ⟨Nat.mul_pos (Nat.pow_pos (by decide)) initialPositive, maxPositive⟩

/-- Periods that take time take as much time as there are looks, at least. -/
theorem le_restBefore
    {policy : PollPolicy}
    (initialPositive : 0 < policy.initialPeriod)
    (maxPositive : 0 < policy.maxPeriod)
    (look : Nat) :
    look ≤ policy.restBefore look := by
  induction look with
  | zero => exact Nat.zero_le _
  | succ look inductionHypothesis =>
      have positive : 0 < policy.restAfter look :=
        Nat.lt_min.mpr
          ⟨periodAfter_pos initialPositive maxPositive look, by decide⟩
      rw [restBefore]
      omega

section

variable {policy : PollPolicy} {start : Nat}

theorem deadline?_eq_some
    (within : policy.HasDeadline start) :
    policy.deadline? start = some (start + policy.timeout) :=
  if_pos within

theorem deadline?_eq_none
    (beyond : ¬ policy.HasDeadline start) :
    policy.deadline? start = none :=
  if_neg beyond

theorem lookTime_of_hasDeadline
    (within : policy.HasDeadline start)
    (look : Nat) :
    policy.lookTime start look =
      start + min policy.timeout (policy.restBefore look) :=
  if_pos within

theorem lookTime_of_not_hasDeadline
    (beyond : ¬ policy.HasDeadline start)
    (look : Nat) :
    policy.lookTime start look = start + policy.restBefore look :=
  if_neg beyond

theorem sleepAfter_of_hasDeadline
    (within : policy.HasDeadline start)
    (look : Nat) :
    policy.sleepAfter start look =
      min (policy.restAfter look) (policy.timeout - policy.restBefore look) :=
  if_pos within

theorem sleepAfter_of_not_hasDeadline
    (beyond : ¬ policy.HasDeadline start)
    (look : Nat) :
    policy.sleepAfter start look = policy.restAfter look :=
  if_neg beyond

/--
A look is at the deadline if there is one and the sleeps before it cover the
time allowed.
-/
theorem isDue_iff
    {look : Nat} :
    policy.IsDue start look ↔
      policy.HasDeadline start ∧ policy.timeout ≤ policy.restBefore look := by
  unfold IsDue
  by_cases within : policy.HasDeadline start
  · rw [deadline?_eq_some within, lookTime_of_hasDeadline within,
      Option.some.injEq]
    simp only [within, true_and]
    omega
  · simp [deadline?_eq_none within, within]

end

instance (start look : Nat) : Decidable (policy.IsDue start look) :=
  decidable_of_iff _ isDue_iff.symm

/-- The first look is at the beginning of the wait. -/
theorem lookTime_zero
    (start : Nat) :
    policy.lookTime start 0 = start := by
  simp [lookTime, restBefore]

/-- A sleep leads from one look to the next. -/
theorem lookTime_succ
    (start look : Nat) :
    policy.lookTime start (look + 1) =
      policy.lookTime start look + policy.sleepAfter start look := by
  by_cases within : policy.HasDeadline start
  · rw [lookTime_of_hasDeadline within, lookTime_of_hasDeadline within,
      sleepAfter_of_hasDeadline within, restBefore]
    omega
  · rw [lookTime_of_not_hasDeadline within, lookTime_of_not_hasDeadline within,
      sleepAfter_of_not_hasDeadline within, restBefore, Nat.add_assoc]

/-- No two looks that follow on one another are further apart than a period. -/
theorem sleepAfter_le
    (start look : Nat) :
    policy.sleepAfter start look ≤
      max policy.initialPeriod policy.maxPeriod := by
  have short :
      policy.restAfter look ≤ max policy.initialPeriod policy.maxPeriod :=
    Nat.le_trans (Nat.min_le_left ..) (policy.periodAfter_le look)
  unfold sleepAfter
  split
  · exact Nat.le_trans (Nat.min_le_left ..) short
  · exact short

/-- No look comes after the deadline. -/
theorem lookTime_le
    {policy : PollPolicy}
    {start : Nat}
    (within : policy.HasDeadline start)
    (look : Nat) :
    policy.lookTime start look ≤ start + policy.timeout := by
  rw [lookTime_of_hasDeadline within]
  omega

/--
After a look there is no delay at the deadline, and the sleep that is due
otherwise.
-/
theorem delay?_lookTime
    (start look : Nat) :
    (delay? (policy.deadline? start) (policy.lookTime start look)
        (policy.periodAfter look)).map (min · Workflow.longestSleep) =
      if policy.IsDue start look then none
      else some (policy.sleepAfter start look) := by
  by_cases within : policy.HasDeadline start
  · have time := lookTime_of_hasDeadline within look
    have same :
        min (min (policy.periodAfter look)
            (start + policy.timeout - policy.lookTime start look))
            Workflow.longestSleep =
          policy.sleepAfter start look := by
      rw [sleepAfter_of_hasDeadline within, restAfter]
      omega
    rw [deadline?_eq_some within, delay?]
    by_cases due : policy.IsDue start look
    · have covered := (isDue_iff.mp due).2
      rw [if_pos (by omega), if_pos due]
      rfl
    · have uncovered : ¬ policy.timeout ≤ policy.restBefore look :=
        fun covered => due (isDue_iff.mpr ⟨within, covered⟩)
      rw [if_neg (by omega), if_neg due, Option.map_some, same]
  · have never : ¬ policy.IsDue start look :=
      fun due => within (isDue_iff.mp due).1
    rw [deadline?_eq_none within, if_neg never,
      sleepAfter_of_not_hasDeadline within]
    rfl

end PollPolicy

end DropletClient
