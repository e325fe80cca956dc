import DropletClient.Proofs.ScriptedCloud.History
import Mathlib.Logic.Function.Iterate

namespace DropletClient

/-!
# The order of scripted answers

Answers of the scripted provider are neither lost nor repeated nor given in
another order than the one in which they were prepared, whoever asks for them.
`KeepsOrder` says how the answers depend on the history, and
`scripted_answers_keep_order` that they always do.
-/

namespace Scripts

/--
A look leaves a script without its first state, unless that is the only one.
-/
theorem afterLook_eq_drop
    (statuses : List EventStatus) :
    afterLook statuses = statuses.drop (min 1 (statuses.length - 1)) := by
  rcases statuses with _ | ⟨status, _ | ⟨next, rest⟩⟩
  · rfl
  · rfl
  · rw [List.length_cons, List.length_cons, Nat.add_sub_cancel,
      Nat.min_eq_left (by omega)]
    rfl

/-- Some looks leave a script without as many states, or with the last one. -/
theorem iterate_afterLook
    (statuses : List EventStatus)
    (looks : Nat) :
    afterLook^[looks] statuses =
      statuses.drop (min looks (statuses.length - 1)) := by
  induction looks with
  | zero => rw [Nat.zero_min, List.drop_zero, Function.iterate_zero, id]
  | succ looks inductionHypothesis =>
      rw [Function.iterate_succ_apply', inductionHypothesis, afterLook_eq_drop,
        List.drop_drop, List.length_drop]
      congr 1
      omega

/--
A look after some looks shows the state of as many places further on, or the
last one.
-/
theorem shown_iterate_afterLook
    {statuses : List EventStatus}
    (prepared : statuses ≠ [])
    (event : Int32)
    (looks : Nat) :
    ∃ status,
      statuses[min looks (statuses.length - 1)]? = some status ∧
        shown event (afterLook^[looks] statuses) =
          .ok {
            id := event, status, droplet := none, action := none,
            percentage := none } := by
  have isPlace : min looks (statuses.length - 1) < statuses.length := by
    have := List.length_pos_iff.mpr prepared
    omega
  refine ⟨_, List.getElem?_eq_getElem isPlace, ?_⟩
  rw [iterate_afterLook, List.drop_eq_getElem_cons isPlace, shown]

end Scripts

namespace ScriptedCloud

/-- How often an event is looked at in a history. -/
def looksAt (event : Int32) (history : List Occurrence) : Nat :=
  (history.filterMap Occurrence.request?).count (.getEvent event)

/--
Looks at an event change what is left of its script, and nothing else does.
-/
theorem statuses_apply_of_leavesScript
    {event : Int32}
    {occurrence : Occurrence}
    (leaves : occurrence.LeavesScript event)
    (cloud : ScriptedCloud) :
    (occurrence.apply cloud).statuses event =
      Scripts.afterLook^[looksAt event [occurrence]]
        (cloud.statuses event) := by
  cases occurrence with
  | seeds entry =>
      exact congrArg (Scripts.statuses · event) (seed_keeps cloud entry).2.1
  | meets interference =>
      cases interference with
      | asks request =>
          by_cases looks : request = .getEvent event
          · subst looks
            have once : looksAt event [.meets (.asks (.getEvent event))] = 1 :=
              List.count_singleton_self
            rw [once]
            exact statuses_answer_getEvent cloud event
          · have never : looksAt event [.meets (.asks request)] = 0 :=
              List.count_eq_zero.mpr fun member =>
                looks (List.mem_singleton.mp member).symm
            rw [never]
            exact congrArg Prod.fst (track_answer cloud looks)
      | scriptsEvent other statuses =>
          exact Scripts.statuses_set_of_ne leaves ..
      | pushesCreation | pushesActionEvent => rfl
      | refusesImageDeletion | skipsSnapshotRegistration => rfl

/--
What is left of a script depends on how often its event was looked at, and on
nothing else.
-/
theorem statuses_after
    {event : Int32}
    {history : List Occurrence}
    (leave : ∀ occurrence ∈ history, occurrence.LeavesScript event)
    (cloud : ScriptedCloud) :
    (cloud.after history).statuses event =
      Scripts.afterLook^[looksAt event history] (cloud.statuses event) := by
  induction history generalizing cloud with
  | nil => rfl
  | cons occurrence later inductionHypothesis =>
      obtain ⟨leaves, leaveLater⟩ := List.forall_mem_cons.mp leave
      have counted :
          looksAt event (occurrence :: later) =
            looksAt event later + looksAt event [occurrence] := by
        unfold looksAt
        rw [← List.singleton_append, List.filterMap_append, List.count_append,
          Nat.add_comm]
      change ((occurrence.apply cloud).after later).statuses event = _
      rw [inductionHypothesis leaveLater, statuses_apply_of_leavesScript leaves,
        counted, Function.iterate_add_apply]

/-- Gives out what there is, or fails. -/
def giveOut (failure : Failure) : Option α → Except Failure α
  | some item => .ok item
  | none => .error failure

theorem nextActionEvent_fst
    (cloud : ScriptedCloud)
    (what : String) :
    (cloud.nextActionEvent what).1 =
      giveOut (noEventId what) cloud.actionEvents[0]? := by
  rcases cloud.nextActionEvent_cases what with
    ⟨nothing, next⟩ | ⟨event, rest, front, next⟩
  · rw [next, nothing]
    rfl
  · rw [next, front]
    rfl

/-- An action takes the event id in front. -/
theorem answer_dropletAction
    (cloud : ScriptedCloud)
    (id : Int32)
    (action : DropletAction) :
    (cloud.answer (.dropletAction id action)).1 =
      giveOut (noEventId action.segment) cloud.actionEvents[0]? := by
  refine Eq.trans ?_ (nextActionEvent_fst
    (cloud.logging (.dropletAction id action)) action.segment)
  rw [answer_eq_carryOut, carryOut]
  split
  · next taken => rw [taken]
  · next taken => rw [taken]

/-- A transfer takes the event id in front. -/
theorem answer_transferImage
    (cloud : ScriptedCloud)
    (id regionId : Int32) :
    (cloud.answer (.transferImage id regionId)).1 =
      giveOut (noEventId "transfer") cloud.actionEvents[0]? :=
  nextActionEvent_fst (cloud.logging (.transferImage id regionId)) "transfer"

/-- An order takes the answer in front. -/
theorem answer_createDroplet
    (cloud : ScriptedCloud)
    (order : NewDroplet) :
    (cloud.answer (.createDroplet order)).1 =
      giveOut (.provider "no scripted creation") cloud.creations[0]? := by
  rw [answer_eq_carryOut, carryOut]
  rcases (cloud.logging (.createDroplet order)).nextCreation_cases with
      ⟨nothing, next⟩ | ⟨creation, rest, front, next⟩
  · rw [next, show cloud.creations = _ from nothing]
    rfl
  · rw [next, show cloud.creations = _ from front]
    rfl

namespace Supply.IsKept

variable {supply : Supply α}

/--
What is given out is the beginning of what was pushed, if nothing waited
at first.
-/
theorem given_prefix
    (keeps : supply.IsKept)
    {cloud : ScriptedCloud}
    (nothing : supply.waiting cloud = [])
    (history : List Occurrence) :
    supply.given cloud history <+: supply.pushed history := by
  refine ⟨supply.waiting (cloud.after history), ?_⟩
  rw [keeps.given_append_waiting, nothing, List.nil_append]

/--
What is given out next is what was pushed in the place after all that was
given out.
-/
theorem getElem?_waiting
    (keeps : supply.IsKept)
    {cloud : ScriptedCloud}
    (nothing : supply.waiting cloud = [])
    (history : List Occurrence) :
    (supply.waiting (cloud.after history))[0]? =
      (supply.pushed history)[(supply.given cloud history).length]? := by
  have conserved := keeps.given_append_waiting cloud history
  rw [nothing, List.nil_append] at conserved
  rw [← conserved, List.getElem?_append_right (Nat.le_refl _), Nat.sub_self]

end Supply.IsKept

/-- Something happens to the scripted provider in a world that callers share. -/
def befall
    (occurrence : Occurrence)
    (state : ScriptedCloud × τ) :
    ScriptedCloud × τ :=
  (occurrence.apply state.1, state.2)

end ScriptedCloud

open ScriptedCloud

/-- What a move of a crowd is to the scripted provider, if it is anything. -/
def Move.occurrence? : Move Occurrence → Option Occurrence
  | .acts _ (some (.send request)) => some (.meets (.asks request))
  | .disturbs occurrence => some occurrence
  | _ => none

section

variable
  {generate : τ → Except Failure KeyPair × τ}
  {propose : τ → String → String × τ}
  {crowd later : Crowd (ScriptedCloud × τ)}

/--
What a caller does is what happens to the scripted provider, with the
same replies.
-/
theorem Caller.Acts.exchanges_done
    {clock : Nat}
    {state laterState : ScriptedCloud × τ}
    {caller laterCaller : Caller}
    {effect : Option Effect}
    (position : Nat)
    (acts :
      caller.Acts (sharedWorld generate propose)
        clock state effect laterState laterCaller) :
    let asked :=
      (Move.acts position effect : Move Occurrence).occurrence?.toList
    laterState.1 = state.1.after asked ∧
      exchanges laterCaller.done =
        exchanges caller.done ++ state.1.exchanged asked := by
  cases acts with
  | @performs _ _ _ effect next restless =>
      cases effect with
      | sleep duration => exact absurd rfl (restless duration)
      | send request => exact ⟨rfl, exchanges_append ..⟩
      | readClock => exact ⟨rfl, exchanges_append ..⟩
      | generateKeys => exact ⟨rfl, exchanges_append ..⟩
      | proposeName group => exact ⟨rfl, exchanges_append ..⟩
  | fallsAsleep => exact ⟨rfl, exchanges_append ..⟩
  | wakes => exact ⟨rfl, (List.append_nil _).symm⟩
  | ends => exact ⟨rfl, (List.append_nil _).symm⟩

/--
The callers of a crowd are told some of the replies of a history, each in
their order.
-/
def Crowd.IsTold
    (crowd : Crowd σ)
    (replies : List Exchange)
    (later : Crowd σ) : Prop :=
  ∀ (position : Nat) (caller : Caller),
    later.callers[position]? = some caller →
      ∃ before told,
        crowd.callers[position]? = some before ∧
          exchanges caller.done = exchanges before.done ++ told ∧
          told.Sublist replies

/-- Callers that stay the same are told nothing. -/
theorem Crowd.IsTold.of_callers_eq
    {crowd later : Crowd σ}
    (same : later.callers = crowd.callers)
    (replies : List Exchange) :
    crowd.IsTold replies later := by
  intro position caller present
  rw [same] at present
  exact ⟨caller, [], present, (List.append_nil _).symm, List.nil_sublist _⟩

theorem Crowd.IsTold.trans
    {crowd middle later : Crowd σ}
    {first second : List Exchange}
    (isTold : crowd.IsTold first middle)
    (isToldMore : middle.IsTold second later) :
    crowd.IsTold (first ++ second) later := by
  intro position caller present
  obtain ⟨between, more, wasPresent, continued, isPart⟩ :=
    isToldMore position caller present
  obtain ⟨before, told, wasThere, begun, wasPart⟩ :=
    isTold position between wasPresent
  refine ⟨before, told ++ more, wasThere, ?_, wasPart.append isPart⟩
  rw [continued, begun, List.append_assoc]

/--
What happens in a crowd happens to the scripted provider, and whoever asks is
told the reply.
-/
theorem Crowd.Moves.isTold
    {move : Move Occurrence}
    (moved : crowd.Moves (sharedWorld generate propose) befall move later) :
    later.state.1 = crowd.state.1.after move.occurrence?.toList ∧
      crowd.IsTold (crowd.state.1.exchanged move.occurrence?.toList) later := by
  cases moved with
  | @acts position caller laterCaller effect state present acts =>
      obtain ⟨happened, isTold⟩ := acts.exchanges_done position
      refine ⟨happened, ?_⟩
      intro other otherCaller isOther
      by_cases same : other = position
      · subst same
        have inBounds := (List.getElem?_eq_some_iff.mp present).1
        rw [List.getElem?_set_self inBounds] at isOther
        cases isOther
        exact ⟨caller, _, present, isTold, List.Sublist.refl _⟩
      · rw [List.getElem?_set_ne (Ne.symm same)] at isOther
        exact ⟨otherCaller, [], isOther, (List.append_nil _).symm,
          List.nil_sublist _⟩
  | passes => exact ⟨rfl, .of_callers_eq rfl _⟩
  | disturbs occurrence => exact ⟨rfl, .of_callers_eq rfl _⟩

/--
A run of a crowd is a history of the scripted provider, and its replies are
those of that.
-/
theorem Crowd.Runs.isTold
    {moves : List (Move Occurrence)}
    (runs : crowd.Runs (sharedWorld generate propose) befall moves later) :
    later.state.1 = crowd.state.1.after (moves.filterMap Move.occurrence?) ∧
      crowd.IsTold (crowd.state.1.exchanged (moves.filterMap Move.occurrence?))
        later := by
  induction runs with
  | nil => exact ⟨rfl, .of_callers_eq rfl _⟩
  | @snoc middle last moves move _ moved inductionHypothesis =>
      obtain ⟨happened, isTold⟩ := inductionHypothesis
      obtain ⟨happens, isToldMore⟩ := moved.isTold
      have oneMore :
          (moves ++ [move]).filterMap Move.occurrence? =
            moves.filterMap Move.occurrence? ++ move.occurrence?.toList := by
        rw [List.filterMap_append, filterMap_cons_eq_append, List.filterMap_nil,
          List.append_nil]
      rw [happened] at happens isToldMore
      rw [oneMore, after_append, exchanged_append]
      exact ⟨happens, isTold.trans isToldMore⟩

end

namespace ScriptedCloud

/--
How the answers after a history depend on it. What comes next is known by its
place: as many event ids, or answers to orders, were given out before it, or as
many looks went before it since the states of the event were prepared.
-/
structure KeepsOrder (history : List Occurrence) : Prop where
  logged :
    (empty.after history).log.reverse = history.filterMap Occurrence.request?
  eventsInOrder :
    Supply.actionEvents.given empty history <+:
      Supply.actionEvents.pushed history
  creationsInOrder :
    Supply.creations.given empty history <+: Supply.creations.pushed history
  nextAction (id : Int32) (action : DropletAction) :
    ((empty.after history).answer (.dropletAction id action)).1 =
      giveOut (noEventId action.segment)
        (Supply.actionEvents.pushed history)[
          (Supply.actionEvents.given empty history).length]?
  nextTransfer (id regionId : Int32) :
    ((empty.after history).answer (.transferImage id regionId)).1 =
      giveOut (noEventId "transfer")
        (Supply.actionEvents.pushed history)[
          (Supply.actionEvents.given empty history).length]?
  nextCreation (order : NewDroplet) :
    ((empty.after history).answer (.createDroplet order)).1 =
      giveOut (.provider "no scripted creation")
        (Supply.creations.pushed history)[
          (Supply.creations.given empty history).length]?
  nextLook (event : Int32) (script : List EventStatus)
      (before later : List Occurrence) :
    history = before ++ .meets (.scriptsEvent event script) :: later →
      script ≠ [] →
        (∀ occurrence ∈ later, occurrence.LeavesScript event) →
          ∃ status,
            script[min (looksAt event later) (script.length - 1)]? =
                some status ∧
              ((empty.after history).answer (.getEvent event)).1 =
                .ok {
                  id := event, status, droplet := none, action := none,
                  percentage := none }
  callers {τ : Type}
    (generate : τ → Except Failure KeyPair × τ)
    (propose : τ → String → String × τ)
    (crowd later : Crowd (ScriptedCloud × τ))
    (moves : List (Move Occurrence)) :
    crowd.state.1 = empty.after history →
      crowd.Runs (sharedWorld generate propose) befall moves later →
        later.state.1 =
            empty.after (history ++ moves.filterMap Move.occurrence?) ∧
          crowd.IsTold ((empty.after history).exchanged
            (moves.filterMap Move.occurrence?)) later

/--
Whatever happens, the scripted provider logs all that it is asked, in order. The
event ids and the answers to orders are given out in the order in which they
were pushed, one after the other, and nothing fails for the lack of one until
all are given out. Each look at an event shows the next state of its script, and
the last one again when there is no other. So it is for callers that carry out
workflows side by side.
-/
theorem scripted_answers_keep_order
    (history : List Occurrence) :
    KeepsOrder history where
  logged := by
    rw [log_after, List.reverse_append, List.reverse_reverse]
    exact List.nil_append _
  eventsInOrder := Supply.isKept_actionEvents.given_prefix rfl history
  creationsInOrder := Supply.isKept_creations.given_prefix rfl history
  nextAction id action := by
    rw [answer_dropletAction]
    exact congrArg _ (Supply.isKept_actionEvents.getElem?_waiting rfl history)
  nextTransfer id regionId := by
    rw [answer_transferImage]
    exact congrArg _ (Supply.isKept_actionEvents.getElem?_waiting rfl history)
  nextCreation order := by
    rw [answer_createDroplet]
    exact congrArg _ (Supply.isKept_creations.getElem?_waiting rfl history)
  nextLook event script before later shape prepared leave := by
    have left :
        (empty.after history).statuses event =
          Scripts.afterLook^[looksAt event later] script := by
      rw [shape, after_append]
      change
        (((empty.after before).scriptEvent event script).after later).statuses
          event = _
      rw [statuses_after leave]
      exact congrArg _ (Scripts.statuses_set_self ..)
    rw [(answer_getEvent _ event).1, left]
    exact Scripts.shown_iterate_afterLook prepared event (looksAt event later)
  callers generate propose crowd later moves starts runs := by
    obtain ⟨happened, isTold⟩ := runs.isTold
    rw [starts] at happened isTold
    rw [after_append]
    exact ⟨happened, isTold⟩

/--
An action and a transfer take what was pushed in turn, and a third one fails.
-/
example :
    Supply.actionEvents.given empty
        [.meets (.pushesActionEvent 70), .meets (.pushesActionEvent 80),
          .meets (.asks (.dropletAction 1 .powerOff)),
            .meets (.asks (.transferImage 2 3)),
          .meets (.asks (.dropletAction 1 .powerOff))] =
      [70, 80] :=
  rfl

end ScriptedCloud

end DropletClient
