import DropletClient.Proofs.Poll.Settlement
import DropletClient.Proofs.Poll.Undisturbed

namespace DropletClient

/-!
# Waiting again

The last state of a script stays. If it is the only final one, then a wait
that is told the end of an operation leaves nothing else to be told, and
whoever waits for the operation again is told the same by the first look.
`waiting_again_is_immediate` says so for every policy, and whatever is done
to the provider in between, as long as the states of the event are not
prepared anew.
-/

namespace Scripts

/-- Only the last state of a script can be a final one. -/
def EndsOnce (statuses : List EventStatus) : Prop :=
  ∀ status ∈ statuses.dropLast, status = .pending

instance (statuses : List EventStatus) : Decidable (EndsOnce statuses) :=
  inferInstanceAs (Decidable (∀ status ∈ statuses.dropLast, status = .pending))

/-- A look leaves a script that ends once. -/
theorem EndsOnce.afterLook
    {statuses : List EventStatus}
    (endsOnce : EndsOnce statuses) :
    EndsOnce (Scripts.afterLook statuses) := by
  rcases statuses with _ | ⟨status, _ | ⟨next, rest⟩⟩
  · exact endsOnce
  · exact endsOnce
  · intro later member
    exact endsOnce later (List.mem_cons_of_mem status member)

/--
A final state in front of a script that ends once is all that is left of it.
-/
theorem EndsOnce.eq_singleton
    {status : EventStatus}
    {rest : List EventStatus}
    (endsOnce : EndsOnce (status :: rest))
    (isFinal : status ≠ .pending) :
    rest = [] := by
  cases rest with
  | nil => rfl
  | cons next later => exact absurd (endsOnce status List.mem_cons_self) isFinal

end Scripts

namespace ScriptedCloud

namespace Interference

/-- The states of an event are not prepared anew. -/
def LeavesScript (event : Int32) : Interference → Prop
  | scriptsEvent other _ => event ≠ other
  | _ => True

/--
The scripted provider after some things that happen to it one after the other.
-/
def applyAll
    (cloud : ScriptedCloud)
    (interferences : List Interference) :
    ScriptedCloud :=
  interferences.foldl apply cloud

/-- What leaves a script alone takes a state off it at most. -/
theorem statuses_apply
    {event : Int32}
    {interference : Interference}
    (leaves : interference.LeavesScript event)
    (cloud : ScriptedCloud) :
    (interference.apply cloud).statuses event = cloud.statuses event ∨
      (interference.apply cloud).statuses event =
        Scripts.afterLook (cloud.statuses event) := by
  by_cases spares : interference.Spares event
  · exact .inl (congrArg Prod.fst (track_apply spares cloud))
  · right
    cases interference with
    | asks request =>
        have looks : request = .getEvent event := Classical.not_not.mp spares
        subst looks
        exact statuses_answer_getEvent cloud event
    | scriptsEvent other statuses => exact absurd leaves spares
    | pushesCreation creation => exact absurd trivial spares
    | pushesActionEvent other => exact absurd trivial spares
    | refusesImageDeletion => exact absurd trivial spares
    | skipsSnapshotRegistration => exact absurd trivial spares

/-- A state that is all that is left of a script stays. -/
theorem statuses_applyAll
    {event : Int32}
    {last : EventStatus}
    {interferences : List Interference}
    (leave : ∀ interference ∈ interferences, interference.LeavesScript event)
    {cloud : ScriptedCloud}
    (left : cloud.statuses event = [last]) :
    (applyAll cloud interferences).statuses event = [last] := by
  induction interferences generalizing cloud with
  | nil => exact left
  | cons interference later inductionHypothesis =>
      obtain ⟨leaves, leaveLater⟩ := List.forall_mem_cons.mp leave
      apply inductionHypothesis leaveLater
      rcases statuses_apply leaves cloud with same | taken
      · rw [same, left]
      · rw [taken, left]
        rfl

end Interference

end ScriptedCloud

/-- The state after a look of a wait. -/
theorem World.state_after
    (world : World σ)
    (event : Int32)
    (policies : PollPolicies)
    (kind : EventKind)
    (session : Session σ)
    (look : Nat) :
    ((world.vigil event policies kind session).after look).state =
      world.afterLooks event session.state (look + 1) := by
  rw [afterLooks, ← world.state_before event policies kind session]
  rfl

open ScriptedCloud

namespace Wait

/-- An outcome tells how an operation ended. -/
inductive TellsEnd : Except Failure Unit → Prop where
  | done : TellsEnd (.ok ())
  | failed (event : Int32) : TellsEnd (.error (.operationFailed event))

/--
A look that tells the end of an operation shows the last state of a script that
ends once.
-/
theorem exists_last_of_verdict
    {event : Int32}
    {statuses : List EventStatus}
    {outcome : Except Failure Unit}
    (endsOnce : Scripts.EndsOnce statuses)
    (tells : TellsEnd outcome)
    (verdict :
      Event.verdict? event (Scripts.shown event statuses) = some outcome) :
    ∃ last, statuses = [last] := by
  cases statuses with
  | nil =>
      -- an event without a script is unknown, which is no end of an operation
      cases verdict
      cases tells
  | cons status rest =>
      have isFinal : status ≠ .pending := by
        rintro rfl
        cases verdict
      exact ⟨status, by rw [endsOnce.eq_singleton isFinal]⟩

section

variable
  {generate : τ → Except Failure KeyPair × τ}
  {propose : τ → String → String × τ}

/-- What a look shows after some looks is the next state that they have left. -/
theorem answers_eq_shown
    (event : Int32)
    (state : ScriptedCloud × τ)
    (look : Nat) :
    (sharedWorld generate propose).answers event state look =
      Scripts.shown event
        (((sharedWorld generate propose).afterLooks event state look).1.statuses
          event) :=
  (answer_getEvent _ event).1

theorem statuses_afterLooks_succ
    (event : Int32)
    (state : ScriptedCloud × τ)
    (looks : Nat) :
    ((sharedWorld generate propose).afterLooks event state
        (looks + 1)).1.statuses event =
      Scripts.afterLook
        (((sharedWorld generate propose).afterLooks event state
          looks).1.statuses event) :=
  statuses_answer_getEvent _ event

/-- Looks leave a script that ends once. -/
theorem endsOnce_afterLooks
    {event : Int32}
    {state : ScriptedCloud × τ}
    (endsOnce : Scripts.EndsOnce (state.1.statuses event))
    (looks : Nat) :
    Scripts.EndsOnce
      (((sharedWorld generate propose).afterLooks event state looks).1.statuses
        event) := by
  induction looks with
  | zero => exact endsOnce
  | succ looks inductionHypothesis =>
      rw [statuses_afterLooks_succ]
      exact inductionHypothesis.afterLook

/--
A wait that is told the end of an operation leaves the last state of the
script only.
-/
theorem exists_last_of_run
    {wait : Wait}
    {session later : Session (ScriptedCloud × τ)}
    {outcome : Except Failure Unit}
    (endsOnce : Scripts.EndsOnce (session.state.1.statuses wait.event))
    (tells : TellsEnd outcome)
    (ends : wait.workflow.run (sharedWorld generate propose) session =
      (some outcome, later)) :
    ∃ last,
      later.state.1.statuses wait.event = [last] ∧
        Event.verdict? wait.event (Scripts.shown wait.event [last]) =
          some outcome := by
  let world := sharedWorld generate propose
  let vigil := world.vigil wait.event wait.policies wait.kind session
  have runs : vigil.run wait.patience = (some outcome, later) :=
    (world.run_vigil wait.event wait.policies wait.kind session
      wait.patience).trans ends
  rcases vigil.run_cases wait.patience with
      ⟨look, _, found, endsAt, foundRun⟩ | ⟨_, unfinished⟩
  · obtain ⟨sameOutcome, rfl⟩ := Prod.mk.inj (foundRun.symm.trans runs)
    cases sameOutcome
    have verdict :
        Event.verdict? wait.event
            (Scripts.shown wait.event
              ((world.afterLooks wait.event session.state look).1.statuses
                wait.event)) =
          some outcome := by
      have ending := endsAt.ends
      rw [Vigil.endAt?, world.replyAt_vigil, answers_eq_shown] at ending
      rcases Option.or_eq_some_iff.mp ending with told | ⟨_, timedOut⟩
      · exact told
      · obtain ⟨_, isTimeout⟩ := Option.ite_none_right_eq_some.mp timedOut
        cases isTimeout
        cases tells
    obtain ⟨last, isLast⟩ :=
      exists_last_of_verdict (endsOnce_afterLooks endsOnce look) tells verdict
    refine ⟨last, ?_, isLast ▸ verdict⟩
    rw [world.state_after, statuses_afterLooks_succ, isLast]
    rfl
  · cases unfinished.symm.trans runs

/--
A look that tells the end of an operation ends the wait that begins with it.
-/
theorem run_of_verdict
    {world : World σ}
    {wait : Wait}
    {session : Session σ}
    {outcome : Except Failure Unit}
    (verdict :
      Event.verdict? wait.event (world.answers wait.event session.state 0) =
        some outcome) :
    ∃ later,
      wait.workflow.run world session = (some outcome, later) ∧
        session.Reaches
          [.sent (.getEvent wait.event)
            (world.answers wait.event session.state 0)] later := by
  let vigil := world.vigil wait.event wait.policies wait.kind session
  have ends : vigil.endAt? 0 = some outcome := by
    rw [Vigil.endAt?, world.replyAt_vigil]
    exact Option.or_eq_some_iff.mpr (.inl verdict)
  have endsAt : vigil.EndsAt 0 outcome :=
    ⟨ends, fun earlier before => absurd before (Nat.not_lt_zero earlier)⟩
  refine ⟨vigil.after 0, ?_, vigil.reaches_after 0⟩
  rw [← Vigil.run_of_endsAt endsAt (Nat.zero_le wait.patience)]
  exact (world.run_vigil wait.event wait.policies wait.kind session
    wait.patience).symm

end

/--
If only the last state of a script can be a final one, then a wait for its event
that was told the end of the operation can be repeated: it is told the same by
one look and does not sleep. This holds for every kind and policy, at any later
time, and whatever was done to the provider meanwhile, as long as the states of
the event were not prepared anew.
-/
theorem waiting_again_is_immediate
    (generate : τ → Except Failure KeyPair × τ)
    (propose : τ → String → String × τ)
    (first again : Wait)
    (sameEvent : again.event = first.event)
    (session later resumed : Session (ScriptedCloud × τ))
    (outcome : Except Failure Unit)
    (interferences : List Interference)
    (endsOnce : Scripts.EndsOnce (session.state.1.statuses first.event))
    (tells : TellsEnd outcome)
    (ends : first.workflow.run (sharedWorld generate propose) session =
      (some outcome, later))
    (leave : ∀ interference ∈ interferences,
      interference.LeavesScript first.event)
    (resumes :
      resumed.state.1 = Interference.applyAll later.state.1 interferences) :
    ∃ seen last,
      again.workflow.run (sharedWorld generate propose) resumed =
          (some outcome, last) ∧
        resumed.Reaches [.sent (.getEvent first.event) (.ok seen)] last := by
  obtain ⟨final, left, verdict⟩ := exists_last_of_run endsOnce tells ends
  have still : resumed.state.1.statuses first.event = [final] := by
    rw [resumes]
    exact Interference.statuses_applyAll leave left
  have answers :
      (sharedWorld generate propose).answers first.event resumed.state 0 =
        Scripts.shown first.event [final] := by
    rw [answers_eq_shown, ← still]
    rfl
  rw [← answers, ← sameEvent] at verdict
  obtain ⟨last, repeats, reaches⟩ := run_of_verdict verdict
  rw [sameEvent, answers] at reaches
  exact ⟨_, last, repeats, reaches⟩

/--
An operation that was found to have failed at the second look is found so again
by one look, although no time is allowed, somebody else has looked at it
meanwhile, and another event was prepared.
-/
theorem waiting_again_is_immediate_failed_operation :
    let generate (state : Unit) : Except Failure KeyPair × Unit :=
      (.error (.transport .noResponse), state)
    let propose (state : Unit) (group : String) : String × Unit :=
      (group, state)
    let first : Wait := ⟨.uniform ⟨2, 1, 1⟩, 5, 7, .nodeRunning⟩
    let again : Wait := ⟨.uniform ⟨0, 0, 0⟩, 0, 7, .imageAvailable⟩
    let session : Session (ScriptedCloud × Unit) :=
      .start (ScriptedCloud.empty.scriptEvent 7 [.pending, .error], ())
    let outcome : Except Failure Unit := .error (.operationFailed 7)
    let interferences : List Interference :=
      [.asks (.getEvent 7), .scriptsEvent 8 [.done], .asks .listImages]
    Scripts.EndsOnce (session.state.1.statuses 7) ∧
      TellsEnd outcome ∧
      (∀ interference ∈ interferences, interference.LeavesScript 7) ∧
      ∃ later,
        first.workflow.run (sharedWorld generate propose) session =
            (some outcome, later) ∧
          ∃ seen last,
            let resumed : Session (ScriptedCloud × Unit) :=
              ⟨(Interference.applyAll later.state.1 interferences, ()), 9, []⟩
            again.workflow.run (sharedWorld generate propose) resumed =
                (some outcome, last) ∧
              resumed.Reaches [.sent (.getEvent 7) (.ok seen)] last := by
  intro generate propose first again session outcome interferences
  have endsOnce : Scripts.EndsOnce (session.state.1.statuses 7) := by decide
  have leave : ∀ interference ∈ interferences, interference.LeavesScript 7 := by
    simp [interferences, Interference.LeavesScript]
  exact ⟨endsOnce, .failed 7, leave, _, rfl,
    waiting_again_is_immediate generate propose first again rfl session _ _
      outcome interferences endsOnce (.failed 7) rfl leave rfl⟩

end Wait

end DropletClient
