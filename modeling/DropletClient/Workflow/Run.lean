import DropletClient.Workflow.Basic

namespace DropletClient

/-!
# Carrying out workflows

A world replies to effects and may change by doing so; its clock moves only when
a workflow sleeps. A session keeps the state of the world, its clock, and the
history of all that was done.
-/

/-- How requests, key generation and naming are replied to in a state. -/
structure World (σ : Type) where
  answer : σ → (request : Request) → Except Failure request.Answer × σ
  generate : σ → Except Failure KeyPair × σ
  propose : σ → String → String × σ

/-- One thing that was done, with its reply. -/
inductive Step where
  | sent (request : Request) (reply : Except Failure request.Answer)
  | slept (duration : Nat)
  | generated (reply : Except Failure KeyPair)
  | proposed (group name : String)

/--
The times at which events were looked at, for steps in the order in which they
were done.
-/
def Step.fetchTimes (time : Nat) : List Step → List Nat
  | [] => []
  | .slept duration :: rest => Step.fetchTimes (time + duration) rest
  | .sent (.getEvent _) _ :: rest => time :: Step.fetchTimes time rest
  | _ :: rest => Step.fetchTimes time rest

/--
A state, the time in nanoseconds, and what was done so far, the newest first.
-/
structure Session (σ : Type) where
  state : σ
  clock : Nat
  history : List Step

namespace Session

/-- A session in which nothing was done. -/
def start (state : σ) : Session σ :=
  ⟨state, 0, []⟩

/-- A session in which one more thing was done. -/
def record (session : Session σ) (state : σ) (step : Step) : Session σ :=
  { session with state, history := step :: session.history }

end Session

/-- Replies to one effect. -/
def World.perform
    (world : World σ)
    (session : Session σ) :
    (effect : Effect) → effect.Reply × Session σ
  | .send request =>
      let (reply, state) := world.answer session.state request
      (reply, session.record state (.sent request reply))
  | .sleep duration =>
      ((), { session with
        clock := session.clock + duration
        history := .slept duration :: session.history })
  | .readClock => (session.clock, session)
  | .generateKeys =>
      let (reply, state) := world.generate session.state
      (reply, session.record state (.generated reply))
  | .proposeName group =>
      let (name, state) := world.propose session.state group
      (name, session.record state (.proposed group name))

/-- Carries out a workflow; there is no outcome if its patience has run out. -/
def Workflow.run
    (world : World σ) :
    Workflow α → Session σ → Option (Except Failure α) × Session σ
  | .finished outcome, session => (some outcome, session)
  | .unfinished, session => (none, session)
  | .perform effect next, session =>
      let (reply, later) := world.perform session effect
      (next reply).run world later

/-- Carries out a workflow where effects take place outside of the program. -/
def Workflow.runWith
    [Monad m]
    (perform : (effect : Effect) → m effect.Reply) :
    Workflow α → m (Option (Except Failure α))
  | .finished outcome => return some outcome
  | .unfinished => return none
  | .perform effect next => do
      let reply ← perform effect
      (next reply).runWith perform

/--
Carrying out a workflow in a session is performing its effects on the session
one by one.
-/
theorem Workflow.runWith_perform
    (world : World σ)
    (workflow : Workflow α)
    (session : Session σ) :
    workflow.runWith (m := StateM (Session σ))
        (fun effect session => world.perform session effect) session =
      workflow.run world session := by
  induction workflow generalizing session with
  | finished outcome => rfl
  | unfinished => rfl
  | perform effect continuation inductionHypothesis =>
      simp only [Workflow.runWith, Workflow.run]
      exact inductionHypothesis _ _

/--
Carrying out a workflow and then what follows from its value is carrying out
both as one.
-/
theorem Workflow.run_bind
    (world : World σ)
    (workflow : Workflow α)
    (next : α → Workflow β)
    (session : Session σ) :
    (workflow >>= next).run world session =
      match workflow.run world session with
      | (some (.ok value), later) => (next value).run world later
      | (some (.error failure), later) => (some (.error failure), later)
      | (none, later) => (none, later) := by
  change (workflow.bind next).run world session = _
  induction workflow generalizing session with
  | finished outcome => cases outcome <;> simp [Workflow.bind, Workflow.run]
  | unfinished => simp [Workflow.bind, Workflow.run]
  | perform effect continuation inductionHypothesis =>
      simp only [Workflow.bind, Workflow.run]
      exact inductionHypothesis _ _

end DropletClient
