import DropletClient.Proofs.Poll.Round
import DropletClient.Proofs.Workflow.Exchange

namespace DropletClient

/-!
# Waits come to an end

The periods of a wait never fall below the first one, so that every round but
the last one uses up a first period at least. That bounds the rounds, and with
them the looks; no sleep goes beyond the deadline.
-/

namespace PollPolicy

/--
The most looks of a wait: one for each first period that the time holds, and one
at its end.
-/
def mostLooks (policy : PollPolicy) : Nat :=
  (policy.timeout + policy.initialPeriod - 1) / policy.initialPeriod + 1

/--
A policy with periods that use up the time, which is short enough to be
slept through.
-/
structure IsBounded (policy : PollPolicy) : Prop where
  positive : 0 < policy.initialPeriod
  ordered : policy.initialPeriod ≤ policy.maxPeriod
  short : policy.timeout ≤ Workflow.longestSleep

theorem le_nextPeriod
    {policy : PollPolicy}
    {period : Nat}
    (bounded : policy.IsBounded)
    (long : policy.initialPeriod ≤ period) :
    policy.initialPeriod ≤ policy.nextPeriod period :=
  Nat.le_min.mpr ⟨by omega, bounded.ordered⟩

/-- The first periods of all looks but one cover the time of a policy. -/
theorem timeout_le
    {policy : PollPolicy}
    (bounded : policy.IsBounded) :
    policy.timeout ≤ (policy.mostLooks - 1) * policy.initialPeriod := by
  have positive := bounded.positive
  have division :=
    Nat.div_add_mod (policy.timeout + policy.initialPeriod - 1)
      policy.initialPeriod
  have remainder :=
    Nat.mod_lt (policy.timeout + policy.initialPeriod - 1) positive
  rw [mostLooks, Nat.add_sub_cancel, Nat.mul_comm]
  omega

/-- A delay is as long as the period, or as long as the time that is left. -/
theorem delay?_eq_some
    {limit time period delay : Nat}
    (delays : delay? (some limit) time period = some delay) :
    0 < limit - time ∧ delay = min period (limit - time) := by
  simp only [delay?] at delays
  split at delays
  · cases delays
  · cases delays
    exact ⟨by omega, rfl⟩

end PollPolicy

theorem World.exchanges_look
    (world : World σ)
    (session : Session σ)
    (event : Int32) :
    (exchanges (world.look session event).2.history).length =
      (exchanges session.history).length + 1 :=
  rfl

namespace Workflow

variable (world : World σ)

/--
As many rounds as first periods fit into the time that is left, and one more,
are enough for a wait to end; the deadline is not passed, and there is one look
in each round.
-/
theorem poll_ends
    {policy : PollPolicy}
    (bounded : policy.IsBounded)
    (kind : EventKind)
    (event : Int32)
    {limit rounds period : Nat}
    {session : Session σ}
    (long : policy.initialPeriod ≤ period)
    (inTime : session.clock ≤ limit)
    (short : limit ≤ session.clock + longestSleep)
    (covered : limit ≤ session.clock + rounds * policy.initialPeriod) :
    ∃ outcome later,
      (∀ looks,
        rounds + 1 ≤ looks →
          (poll policy kind event (some limit) looks period).run world session =
            (some outcome, later)) ∧
      later.clock ≤ limit ∧
      (exchanges later.history).length ≤
        (exchanges session.history).length + (rounds + 1) := by
  -- each round but the last takes one period from the time that the
  -- rounds cover
  induction rounds using Nat.strongRecOn generalizing period session with
  | ind rounds inductionHypothesis =>
      rcases run_poll_cases world policy kind event (some limit)
            period session with
          ⟨outcome, _, ends⟩ | ⟨delay, _, delays, goesOn⟩
      · have added := world.exchanges_look session event
        refine ⟨outcome, (world.look session event).2, fun looks isEnough => ?_,
          inTime, by omega⟩
        cases looks with
        | zero => omega
        | succ looks => exact ends looks
      · obtain ⟨timeLeft, rfl⟩ := PollPolicy.delay?_eq_some delays
        have whole :
            min (min period (limit - session.clock)) longestSleep =
              min period (limit - session.clock) := by
          omega
        rw [whole] at goesOn
        cases rounds with
        | zero => omega
        | succ rounds =>
            have product :
                (rounds + 1) * policy.initialPeriod =
                  rounds * policy.initialPeriod + policy.initialPeriod :=
              Nat.succ_mul rounds policy.initialPeriod
            let rested :=
              (world.look session event).2.rest
                (min period (limit - session.clock))
            have clock : rested.clock =
                session.clock + min period (limit - session.clock) :=
              rfl
            have added :
                (exchanges rested.history).length =
                  (exchanges session.history).length + 1 :=
              rfl
            obtain ⟨outcome, later, ends, inTimeLater, looked⟩ :=
              @inductionHypothesis rounds (Nat.lt_succ_self rounds) _ rested
                (PollPolicy.le_nextPeriod bounded long) (by omega) (by omega)
                  (by omega)
            refine ⟨outcome, later, fun looks isEnough => ?_,
              inTimeLater, by omega⟩
            cases looks with
            | zero => omega
            | succ looks => exact (goesOn looks).trans (ends looks (by omega))

/--
A wait ends with patience for as many looks as the policy may lead to, and goes
the same way with more; it makes no more calls than that, and sleeps no longer
than the policy allows.
-/
theorem waitFor_ends
    {policies : PollPolicies}
    {kind : EventKind}
    (bounded : (policies.get kind).IsBounded)
    (event : Int32)
    (session : Session σ)
    (room : session.clock + (policies.get kind).timeout < PollPolicy.clockEnd) :
    ∃ outcome later steps,
      (∀ patience,
        (policies.get kind).mostLooks ≤ patience + 1 →
          (waitFor policies patience event kind).run world session =
            (some outcome, later)) ∧
      session.Reaches steps later ∧
      (exchanges steps).length ≤ (policies.get kind).mostLooks ∧
      slept steps ≤ (policies.get kind).timeout := by
  have deadline :
      (policies.get kind).deadline? session.clock =
        some (session.clock + (policies.get kind).timeout) :=
    if_pos room
  obtain ⟨outcome, later, ends, inTime, looked⟩ :=
    poll_ends world bounded kind event (Nat.le_refl _)
      (Nat.le_add_right session.clock _)
      (Nat.add_le_add_left bounded.short session.clock)
      (Nat.add_le_add_left (PollPolicy.timeout_le bounded) session.clock)
  have runs :
      ∀ patience,
        (policies.get kind).mostLooks ≤ patience + 1 →
          (waitFor policies patience event kind).run world session =
            (some outcome, later) := by
    intro patience isEnough
    rw [run_waitFor, deadline]
    exact ends (patience + 1) isEnough
  obtain ⟨steps, reaches, _⟩ :=
    run_plays world
      (waitFor policies (policies.get kind).mostLooks event kind) session
  rw [runs _ (Nat.le_succ _)] at reaches
  refine ⟨outcome, later, steps, runs, reaches, ?_, ?_⟩
  · rw [reaches.history, exchanges_append, exchanges_reverse,
      List.length_append, List.length_reverse] at looked
    change _ ≤ _ + (policies.get kind).mostLooks at looked
    omega
  · rw [reaches.clock] at inTime
    omega

end Workflow

end DropletClient
