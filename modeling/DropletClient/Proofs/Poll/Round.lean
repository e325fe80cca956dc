import DropletClient.Poll.Wait
import DropletClient.Proofs.Workflow.Timed

namespace DropletClient

/-!
# Rounds of a wait

A round is one look and, unless it ends the wait, the delay that follows
it. What a round does depends on the reply to the look, the time, and the
period only.
-/

/-- A session after a sleep. -/
def Session.rest (session : Session σ) (duration : Nat) : Session σ :=
  { session with
    clock := session.clock + duration
    history := .slept duration :: session.history }

/-- The reply to a look at an event, and the session after it. -/
def World.look
    (world : World σ)
    (session : Session σ)
    (event : Int32) :
    Except Failure Event × Session σ :=
  world.perform session (.send (.getEvent event))

/-- The delay after a look at a time, unless no time is left. -/
def PollPolicy.delay?
    (deadline : Option Nat)
    (time period : Nat) :
    Option Nat :=
  match deadline with
  | none => some period
  | some limit =>
      if limit - time = 0 then none else some (min period (limit - time))

/--
How the reply to a look ends a wait for an event; a pending event does
not end it.
-/
def Event.verdict?
    (event : Int32) :
    Except Failure Event → Option (Except Failure Unit)
  | .error failure => some (.error failure)
  | .ok seen =>
      match seen.status with
      | .done => some (.ok ())
      | .error => some (.error (.operationFailed event))
      | .pending => none

/-- Where there is no verdict, the event is pending. -/
theorem Event.pending_of_verdict?
    {event : Int32}
    {reply : Except Failure Event}
    (undecided : Event.verdict? event reply = none) :
    reply.map Event.status = .ok .pending := by
  cases reply with
  | error failure => cases undecided
  | ok seen =>
      obtain ⟨_, status, _, _, _⟩ := seen
      cases status with
      | done => cases undecided
      | error => cases undecided
      | pending => rfl

namespace Workflow

section

variable (worldAt : Nat → World σ)

/-- A pause fails if there is no delay, and otherwise sleeps for it. -/
theorem runAt_pause
    (kind : EventKind)
    (event : Int32)
    (deadline : Option Nat)
    (period : Nat)
    (session : Session σ) :
    (pause kind event deadline period).runAt worldAt session =
      match PollPolicy.delay? deadline session.clock period with
      | none => (some (.error (.timeout kind event)), session)
      | some delay =>
          (some (.ok ()), session.rest (min delay longestSleep)) := by
  cases deadline with
  | none => rfl
  | some limit =>
      change
        (if limit - session.clock = 0 then fail (.timeout kind event)
        else sleep (min period (limit - session.clock))).runAt
            worldAt session = _
      by_cases spent : limit - session.clock = 0
      · simp only [PollPolicy.delay?, if_pos spent]
        rfl
      · simp only [PollPolicy.delay?, if_neg spent]
        rfl

/-- One round of a wait. -/
theorem runAt_poll_succ
    (policy : PollPolicy)
    (kind : EventKind)
    (event : Int32)
    (deadline : Option Nat)
    (looks period : Nat)
    (session : Session σ) :
    (poll policy kind event deadline (looks + 1) period).runAt worldAt session =
      match Event.verdict? event
        ((worldAt session.clock).look session event).1 with
      | some outcome =>
          (some outcome, ((worldAt session.clock).look session event).2)
      | none =>
          match PollPolicy.delay? deadline session.clock period with
          | none =>
              (some (.error (.timeout kind event)),
                ((worldAt session.clock).look session event).2)
          | some delay =>
              (poll policy kind event deadline looks
                (policy.nextPeriod period)).runAt worldAt
                (((worldAt session.clock).look session event).2.rest
                  (min delay longestSleep)) := by
  have looked :
      (send (.getEvent event)).runAt worldAt session =
        (some ((worldAt session.clock).look session event).1,
          ((worldAt session.clock).look session event).2) :=
    rfl
  rw [poll, runAt_bind, looked]
  cases reply : ((worldAt session.clock).look session event).1 with
  | error failure => rfl
  | ok seen =>
      simp only [Event.verdict?]
      cases status : seen.status with
      | done => rfl
      | error => rfl
      | pending =>
          have still :
              ((worldAt session.clock).look session event).2.clock =
                session.clock :=
            rfl
          simp only []
          rw [runAt_bind, runAt_pause, still]
          cases PollPolicy.delay? deadline session.clock period <;> rfl

end

variable (world : World σ)

/-- One round of a wait in a world that does not change. -/
theorem run_poll_succ
    (policy : PollPolicy)
    (kind : EventKind)
    (event : Int32)
    (deadline : Option Nat)
    (looks period : Nat)
    (session : Session σ) :
    (poll policy kind event deadline (looks + 1) period).run world session =
      match Event.verdict? event (world.look session event).1 with
      | some outcome => (some outcome, (world.look session event).2)
      | none =>
          match PollPolicy.delay? deadline session.clock period with
          | none =>
              (some (.error (.timeout kind event)),
                (world.look session event).2)
          | some delay =>
              (poll policy kind event deadline looks
                (policy.nextPeriod period)).run world
                ((world.look session event).2.rest
                  (min delay longestSleep)) := by
  simpa only [runAt_constant] using
    runAt_poll_succ (fun _ => world)
      policy kind event deadline looks period session

/--
A round ends the wait after its look, with a verdict or because no time is left,
or else there is a delay after which the wait goes on.
-/
theorem run_poll_cases
    (policy : PollPolicy)
    (kind : EventKind)
    (event : Int32)
    (deadline : Option Nat)
    (period : Nat)
    (session : Session σ) :
    (∃ outcome,
        (Event.verdict? event (world.look session event).1 = some outcome ∨
          Event.verdict? event (world.look session event).1 = none ∧
            PollPolicy.delay? deadline session.clock period = none ∧
            outcome = .error (.timeout kind event)) ∧
          ∀ looks,
            (poll policy kind event deadline (looks + 1) period).run
                world session =
              (some outcome, (world.look session event).2)) ∨
      ∃ delay,
        Event.verdict? event (world.look session event).1 = none ∧
          PollPolicy.delay? deadline session.clock period = some delay ∧
          ∀ looks,
            (poll policy kind event deadline (looks + 1) period).run
                world session =
              (poll policy kind event deadline looks
                (policy.nextPeriod period)).run world
                ((world.look session event).2.rest
                  (min delay longestSleep)) := by
  cases verdict : Event.verdict? event (world.look session event).1 with
  | some outcome =>
      refine .inl ⟨outcome, .inl rfl, fun looks => ?_⟩
      rw [run_poll_succ, verdict]
  | none =>
      cases delays : PollPolicy.delay? deadline session.clock period with
      | none =>
          refine .inl ⟨.error (.timeout kind event), .inr ⟨rfl, rfl, rfl⟩,
            fun looks => ?_⟩
          rw [run_poll_succ, verdict, delays]
      | some delay =>
          refine .inr ⟨delay, rfl, rfl, fun looks => ?_⟩
          rw [run_poll_succ, verdict, delays]

/-- A wait begins with a look, and its deadline is counted from then. -/
theorem run_waitFor
    (policies : PollPolicies)
    (patience : Nat)
    (event : Int32)
    (kind : EventKind)
    (session : Session σ) :
    (waitFor policies patience event kind).run world session =
      (poll (policies.get kind) kind event
        ((policies.get kind).deadline? session.clock)
        (patience + 1) (policies.get kind).initialPeriod).run world session :=
  rfl

end Workflow

end DropletClient
