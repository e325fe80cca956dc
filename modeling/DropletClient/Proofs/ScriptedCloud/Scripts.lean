import DropletClient.Proofs.ScriptedCloud.Operation

namespace DropletClient

/-!
# What the scripted provider gives out for events

A look at an event depends on the states that are still to be given out for it,
and on nothing else; no other request touches them.
-/

namespace Scripts

private theorem lookup_filter_ne
    {event other : Int32}
    (different : event ≠ other)
    (scripts : Scripts) :
    (scripts.filter fun script => script.1 != other).lookup event =
      scripts.lookup event := by
  induction scripts with
  | nil => rfl
  | cons script rest inductionHypothesis =>
      obtain ⟨key, statuses⟩ := script
      by_cases removed : key = other
      · subst removed
        have notSought : (event == key) = false := by simpa using different
        simp [List.lookup_cons, notSought, inductionHypothesis]
      · simp [removed, List.lookup_cons, inductionHypothesis]

@[simp] theorem statuses_set_self
    (scripts : Scripts)
    (event : Int32)
    (given : List EventStatus) :
    (scripts.set event given).statuses event = given := by
  simp [statuses, set]

theorem statuses_set_of_ne
    {event other : Int32}
    (different : event ≠ other)
    (scripts : Scripts)
    (given : List EventStatus) :
    (scripts.set other given).statuses event = scripts.statuses event := by
  have notSet : (event == other) = false := by simpa using different
  simp [statuses, set, List.lookup_cons, notSet, lookup_filter_ne different]

/-- What is still to be given out after a look; the last state stays. -/
def afterLook : List EventStatus → List EventStatus
  | _ :: next :: rest => next :: rest
  | statuses => statuses

/--
What a look at an event shows, if some states are still to be given out for it.
-/
def shown (event : Int32) : List EventStatus → Except Failure Event
  | [] => .error (ScriptedCloud.unknownEvent event)
  | status :: _ =>
      .ok {
        id := event, status, droplet := none, action := none,
        percentage := none }

end Scripts

namespace ScriptedCloud

/-- What is still to be given out for an event. -/
def statuses (cloud : ScriptedCloud) (event : Int32) : List EventStatus :=
  cloud.scripts.statuses event

/-- A request is logged, whether it fails or not. -/
theorem log_answer
    (cloud : ScriptedCloud)
    (request : Request) :
    (cloud.answer request).2.log = request :: cloud.log :=
  (passes_carryOut (cloud.logging request) request).log

/-- The next state of one event leaves the states of the others as they are. -/
theorem statuses_nextStatus_of_ne
    {event other : Int32}
    (different : event ≠ other)
    (cloud : ScriptedCloud) :
    (cloud.nextStatus other).2.statuses event = cloud.statuses event := by
  rcases cloud.nextStatus_cases other with
    ⟨_, next⟩ | ⟨_, _, next⟩ | ⟨_, _, _, _, next⟩
  · rw [next]
  · rw [next]
  · rw [next]
    exact Scripts.statuses_set_of_ne different ..

/-- The next state of an event is taken unless it is the last one. -/
theorem statuses_nextStatus_self
    (cloud : ScriptedCloud)
    (event : Int32) :
    (cloud.nextStatus event).2.statuses event =
      Scripts.afterLook (cloud.statuses event) := by
  unfold statuses
  rcases cloud.nextStatus_cases event with
      ⟨shape, next⟩ | ⟨last, shape, next⟩
        | ⟨status, following, rest, shape, next⟩
  · rw [next, shape, Scripts.afterLook]
    nofun
  · rw [next, shape, Scripts.afterLook]
    nofun
  · rw [next, shape, Scripts.afterLook]
    exact Scripts.statuses_set_self ..

/-- A look at an event shows the next state of it. -/
theorem carryOut_getEvent_fst
    (cloud : ScriptedCloud)
    (event : Int32) :
    (cloud.carryOut (.getEvent event)).1 =
      Scripts.shown event (cloud.statuses event) := by
  rw [carryOut, statuses]
  rcases cloud.nextStatus_cases event with
      ⟨shape, next⟩ | ⟨last, shape, next⟩
        | ⟨status, following, rest, shape, next⟩
  all_goals
    rw [next, shape]
    rfl

/-- What the looks at an event depend on, and how many there were. -/
def track (event : Int32) (cloud : ScriptedCloud) : List EventStatus × Nat :=
  (cloud.statuses event, cloud.eventFetches event)

/--
A look at an event shows the next state of it, and takes that unless it is the
last one.
-/
theorem answer_getEvent
    (cloud : ScriptedCloud)
    (event : Int32) :
    (cloud.answer (.getEvent event)).1 =
        Scripts.shown event (cloud.statuses event) ∧
      (cloud.answer (.getEvent event)).2.track event =
        (Scripts.afterLook (cloud.statuses event),
          cloud.eventFetches event + 1) := by
  have counted : (cloud.answer (.getEvent event)).2.eventFetches event =
      cloud.eventFetches event + 1 := by
    unfold eventFetches
    rw [log_answer]
    exact List.count_cons_self
  refine ⟨carryOut_getEvent_fst (cloud.logging (.getEvent event)) event, ?_⟩
  rw [track, counted, answer_eq_carryOut, carryOut_getEvent_snd,
    statuses_nextStatus_self]
  rfl

/--
A look takes a state off the script of its event, unless it is the last one.
-/
theorem statuses_answer_getEvent
    (cloud : ScriptedCloud)
    (event : Int32) :
    (cloud.answer (.getEvent event)).2.statuses event =
      Scripts.afterLook (cloud.statuses event) :=
  congrArg Prod.fst (answer_getEvent cloud event).2

/--
Whatever is asked for, only a look at an event touches what later looks at it
depend on.
-/
theorem track_answer
    {event : Int32}
    {request : Request}
    (cloud : ScriptedCloud)
    (isNoLook : request ≠ .getEvent event) :
    (cloud.answer request).2.track event = cloud.track event := by
  have uncounted : (cloud.answer request).2.eventFetches event =
      cloud.eventFetches event := by
    unfold eventFetches
    rw [log_answer]
    exact List.count_cons_of_ne isNoLook
  refine Prod.ext ?_ uncounted
  by_cases looks : ∃ other, request = .getEvent other
  · obtain ⟨other, rfl⟩ := looks
    have different : event ≠ other := by
      rintro rfl
      exact isNoLook rfl
    change (cloud.answer (.getEvent other)).2.statuses event = _
    rw [answer_eq_carryOut, carryOut_getEvent_snd,
      statuses_nextStatus_of_ne different]
    rfl
  · have passes := passes_carryOut (cloud.logging request) request
    have sameScripts := passes.scripts fun other same => looks ⟨other, same⟩
    exact congrArg (Scripts.statuses · event) sameScripts

end ScriptedCloud

end DropletClient
