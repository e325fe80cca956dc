import DropletClient.Poll.Wait
import DropletClient.Proofs.ScriptedCloud.Scripts
import DropletClient.Proofs.Workflow.Crowd

namespace DropletClient

/-!
# Waits side by side

Waits for distinct events do not disturb one another, in whatever order their
looks, sleeps and wakings fall in, and nothing else disturbs a wait either that
neither looks at its event nor prepares its states anew.
-/

namespace ScriptedCloud

/--
What can happen to the scripted provider besides what callers of a crowd do.
-/
inductive Interference where
  | asks (request : Request)
  | scriptsEvent (event : Int32) (statuses : List EventStatus)
  | pushesCreation (creation : DropletCreation)
  | pushesActionEvent (event : Int32)
  | refusesImageDeletion
  | skipsSnapshotRegistration

namespace Interference

/-- The scripted provider afterwards. -/
def apply (cloud : ScriptedCloud) : Interference → ScriptedCloud
  | asks request => (cloud.answer request).2
  | scriptsEvent event statuses => cloud.scriptEvent event statuses
  | pushesCreation creation => cloud.pushCreation creation
  | pushesActionEvent event => cloud.pushActionEvent event
  | refusesImageDeletion => cloud.refuseImageDeletion
  | skipsSnapshotRegistration => cloud.skipSnapshotRegistration

/-- An event is neither looked at nor prepared anew. -/
def Spares (event : Int32) : Interference → Prop
  | asks request => request ≠ .getEvent event
  | scriptsEvent other _ => event ≠ other
  | _ => True

/-- What spares an event does not touch what the looks at it depend on. -/
theorem track_apply
    {event : Int32}
    {interference : Interference}
    (spares : interference.Spares event)
    (cloud : ScriptedCloud) :
    (interference.apply cloud).track event = cloud.track event := by
  cases interference with
  | asks request => exact track_answer cloud spares
  | scriptsEvent other statuses =>
      exact Prod.ext (Scripts.statuses_set_of_ne spares ..) rfl
  | pushesCreation creation => rfl
  | pushesActionEvent other => rfl
  | refusesImageDeletion => rfl
  | skipsSnapshotRegistration => rfl

end Interference

/--
A world with the scripted provider, and with keys and names from elsewhere.
-/
def sharedWorld
    (generate : τ → Except Failure KeyPair × τ)
    (propose : τ → String → String × τ) :
    World (ScriptedCloud × τ) where
  answer state request :=
    let (reply, cloud) := state.1.answer request
    (reply, (cloud, state.2))
  generate state :=
    let (pair, rest) := generate state.2
    (pair, (state.1, rest))
  propose state group :=
    let (name, rest) := propose state.2 group
    (name, (state.1, rest))

theorem sharedWorld_answer
    (generate : τ → Except Failure KeyPair × τ)
    (propose : τ → String → String × τ)
    (state : ScriptedCloud × τ)
    (request : Request) :
    (sharedWorld generate propose).answer state request =
      ((state.1.answer request).1, ((state.1.answer request).2, state.2)) :=
  rfl

/-- The scripted provider is interfered with. -/
def interfere
    (interference : Interference)
    (state : ScriptedCloud × τ) :
    ScriptedCloud × τ :=
  (interference.apply state.1, state.2)

end ScriptedCloud

open ScriptedCloud

/-- The effects of a wait for an event. -/
def Effect.Watches (event : Int32) : Effect → Prop
  | .send request => request = .getEvent event
  | .sleep _ => True
  | .readClock => True
  | .generateKeys => False
  | .proposeName _ => False

/--
A move of a crowd spares an event unless it looks at the event or prepares its
states anew; what the caller at a position does is left open.
-/
def Move.Spares (position : Nat) (event : Int32) : Move Interference → Prop
  | .acts other (some (.send request)) =>
      other ≠ position → request ≠ .getEvent event
  | .acts _ _ => True
  | .passes _ => True
  | .disturbs interference => interference.Spares event

/-- What a wait is for, and how it is waited. -/
structure Wait where
  policies : PollPolicies
  patience : Nat
  event : Int32
  kind : EventKind

namespace Wait

/-- The workflow of a wait. -/
def workflow (wait : Wait) : Workflow Unit :=
  Workflow.waitFor wait.policies wait.patience wait.event wait.kind

private theorem pause_only
    (kind : EventKind)
    (event : Int32)
    (deadline : Option Nat)
    (period : Nat) :
    (Workflow.pause kind event deadline period).Only
      (Effect.Watches event) := by
  have sleeps (duration : Nat) :
      (Workflow.sleep duration).Only (Effect.Watches event) :=
    .perform trivial fun _ => .finished _
  cases deadline with
  | none => exact sleeps period
  | some limit =>
      refine .perform trivial fun time => ?_
      change Workflow.Only _ (if limit - time = 0 then _ else _)
      split
      · exact .finished _
      · exact sleeps _

private theorem poll_only
    (policy : PollPolicy)
    (kind : EventKind)
    (event : Int32)
    (deadline : Option Nat)
    (looks period : Nat) :
    (Workflow.poll policy kind event deadline looks period).Only
      (Effect.Watches event) := by
  induction looks generalizing period with
  | zero => exact .unfinished
  | succ looks inductionHypothesis =>
      have looksAtEvent :
          (Workflow.send (.getEvent event)).Only (Effect.Watches event) :=
        .perform rfl fun _ => .finished _
      refine looksAtEvent.bind fun seen => ?_
      cases seen.status with
      | done => exact .finished _
      | error => exact .finished _
      | pending =>
          exact (pause_only kind event deadline period).bind fun _ =>
            inductionHypothesis _

/--
A wait looks at its event, sleeps and reads the clock; it does nothing else.
-/
theorem workflow_only
    (wait : Wait) :
    wait.workflow.Only (Effect.Watches wait.event) :=
  .perform trivial fun _ => poll_only ..

section

variable
  {generate : τ → Except Failure KeyPair × τ}
  {propose : τ → String → String × τ}

/--
What the effects of a wait are replied to depends on the states of its event,
and the time.
-/
theorem isolates
    (event : Int32) :
    (sharedWorld generate propose).Isolates (fun state => state.1.track event)
      (Effect.Watches event) := by
  intro effect first second watches sameTrack sameTime
  cases effect with
  | sleep duration => exact ⟨rfl, sameTrack⟩
  | readClock => exact ⟨sameTime, sameTrack⟩
  | generateKeys => cases watches
  | proposeName group => cases watches
  | send request =>
      cases watches
      obtain ⟨sameStatuses, sameCount⟩ := Prod.mk.inj sameTrack
      obtain ⟨firstReply, firstTrack⟩ := answer_getEvent first.state.1 event
      obtain ⟨secondReply, secondTrack⟩ := answer_getEvent second.state.1 event
      constructor
      · change (first.state.1.answer (.getEvent event)).1 =
          (second.state.1.answer (.getEvent event)).1
        rw [firstReply, secondReply, sameStatuses]
      · change (first.state.1.answer (.getEvent event)).2.track event =
          (second.state.1.answer (.getEvent event)).2.track event
        rw [firstTrack, secondTrack, sameStatuses, sameCount]

/--
A move that spares an event touches nothing that the looks at it depend on.
-/
theorem keeps_of_spares
    {position : Nat}
    {event : Int32}
    {move : Move Interference}
    (spares : move.Spares position event) :
    move.Keeps (sharedWorld generate propose) interfere
      (fun state => state.1.track event) position := by
  cases move with
  | passes duration => trivial
  | disturbs interference =>
      exact fun state => Interference.track_apply spares state.1
  | acts other effect =>
      cases effect with
      | none => trivial
      | some effect =>
          intro different session
          cases effect with
          | send request =>
              exact track_answer session.state.1 (spares different)
          | sleep duration => rfl
          | readClock => rfl
          | generateKeys => rfl
          | proposeName group => rfl

/-- The effects of the callers at the positions of some waits. -/
def Owns (waits : List Wait) (position : Nat) (effect : Effect) : Prop :=
  ∃ wait, waits[position]? = some wait ∧ effect.Watches wait.event

/-- A wait for one event spares every other event. -/
private theorem spares_of_isOwn
    {waits : List Wait}
    {position : Nat}
    {wait : Wait}
    {move : Move Interference}
    (distinct : (waits.map Wait.event).Nodup)
    (present : waits[position]? = some wait)
    (isOwn : move.IsOwn (Owns waits))
    (spared :
      ∀ interference,
        move = .disturbs interference → interference.Spares wait.event) :
    move.Spares position wait.event := by
  cases move with
  | passes duration => trivial
  | disturbs interference => exact spared interference rfl
  | acts other effect =>
      cases effect with
      | none => trivial
      | some effect =>
          obtain ⟨otherWait, otherPresent, watches⟩ := isOwn
          cases effect with
          | sleep duration => trivial
          | readClock => trivial
          | generateKeys => trivial
          | proposeName group => trivial
          | send request =>
              intro different looks
              have sameEvent : otherWait.event = wait.event :=
                Request.getEvent.inj (watches.symm.trans looks)
              have inBounds : other < (waits.map Wait.event).length := by
                simpa using (List.getElem?_eq_some_iff.mp otherPresent).1
              apply different
              apply (List.getElem?_inj inBounds distinct).mp
              simp [otherPresent, present, sameEvent]

/-- Callers that begin to wait. -/
def crowd (waits : List Wait) (state : σ) (clock : Nat) : Crowd σ :=
  ⟨state, clock, waits.map fun wait => .start wait.workflow⟩

theorem crowd_allOnly
    (waits : List Wait)
    (state : σ)
    (clock : Nat) :
    (crowd waits state clock).AllOnly (Owns waits) := by
  intro position caller present
  rw [crowd, List.getElem?_map, Option.map_eq_some_iff] at present
  obtain ⟨wait, isWait, rfl⟩ := present
  have watches : wait.workflow.Only (Owns waits position) := by
    apply wait.workflow_only.mono
    intro effect watched
    exact ⟨wait, isWait, watched⟩
  exact watches

/-- In a crowd that has become a later one, a wait went as if it were alone. -/
def GoesAsAlone
    (world : World (ScriptedCloud × τ))
    (wait : Wait)
    (position : Nat)
    (start later : Crowd (ScriptedCloud × τ)) : Prop :=
  ∃ done activity,
    later.callers[position]? = some ⟨Unit, done, activity⟩ ∧
      KeepsTo (fun state => state.1.track wait.event)
        (wait.workflow.run world ⟨start.state, start.clock, []⟩)
        start.clock later.state later.clock done activity

end

/--
A wait sees the states, ends in the way, after the looks and at the time as if
it were alone. This holds in every crowd of callers, whatever they and others do
meanwhile, as long as nobody else looks at the event or prepares its states
anew; and so it holds for all waits in a crowd of waits for distinct events. The
callers of a crowd can always all come to their ends.
-/
theorem waits_are_undisturbed
    (generate : τ → Except Failure KeyPair × τ)
    (propose : τ → String → String × τ) :
    let world := sharedWorld generate propose
    (∀ (wait : Wait)
        (position : Nat)
        (start later : Crowd (ScriptedCloud × τ))
        (moves : List (Move Interference)),
      start.callers[position]? = some (.start wait.workflow) →
      Crowd.Runs world interfere start moves later →
      (∀ move ∈ moves, move.Spares position wait.event) →
        wait.GoesAsAlone world position start later) ∧
    (∀ (waits : List Wait)
        (state : ScriptedCloud × τ)
        (clock : Nat)
        (later : Crowd (ScriptedCloud × τ))
        (moves : List (Move Interference)),
      (waits.map Wait.event).Nodup →
      Crowd.Runs world interfere (crowd waits state clock) moves later →
      (∀ interference,
        .disturbs interference ∈ moves →
          ∀ wait ∈ waits, interference.Spares wait.event) →
      ∀ (position : Nat) (wait : Wait),
        waits[position]? = some wait →
          wait.GoesAsAlone world position (crowd waits state clock) later) ∧
    ∀ start : Crowd (ScriptedCloud × τ), start.CanEnd world interfere := by
  intro world
  have spared
      (wait : Wait)
      (position : Nat)
      (start later : Crowd (ScriptedCloud × τ))
      (moves : List (Move Interference))
      (starts : start.callers[position]? = some (.start wait.workflow))
      (runs : Crowd.Runs world interfere start moves later)
      (spares : ∀ move ∈ moves, move.Spares position wait.event) :
      wait.GoesAsAlone world position start later := by
    apply runs.keepsTo (isolates wait.event) wait.workflow_only starts
    intro move member
    exact keeps_of_spares (spares move member)
  refine ⟨spared, ?_, Crowd.exists_end world interfere⟩
  intro waits state clock later moves distinct runs sparesAll position
    wait present
  apply spared wait position (crowd waits state clock) later moves ?_ runs
  · intro move member
    apply spares_of_isOwn distinct present
    · exact ((crowd_allOnly waits state clock).runs runs).1 move member
    · rintro interference rfl
      exact sparesAll interference member wait (List.mem_of_getElem? present)
  · simp [crowd, present]

end Wait

end DropletClient
