import DropletClient.Proofs.Workflow.Play

namespace DropletClient

/-!
# Workflows side by side

Callers share a world and its clock. Each carries out a workflow of its own, and
their steps fall in between one another in any order. Effects take no time but
for sleeps, and a sleeper wakes in time: the clock moves only while nobody is
awake, and never beyond the time at which somebody wakes.

`Crowd.Runs.keepsTo` says that a caller keeps to what it does alone if its
effects depend on a part of the state that nobody else touches.
`Crowd.exists_end` says that the callers can always all come to their ends.
-/

/-- What a caller is up to. -/
inductive Activity (α : Type) where
  | awake (rest : Workflow α)
  | asleep (wakesAt : Nat) (rest : Workflow α)
  | ended (time : Nat) (outcome : Option (Except Failure α))

/-- A caller: what it did so far, and what it is up to. -/
structure Caller : Type 1 where
  Result : Type
  done : List Step
  activity : Activity Result

/-- The state and the clock that callers share, and the callers. -/
structure Crowd (σ : Type) : Type 1 where
  state : σ
  clock : Nat
  callers : List Caller

/-- How a workflow ends that does nothing any more. -/
def Workflow.ending? : Workflow α → Option (Option (Except Failure α))
  | .finished outcome => some (some outcome)
  | .unfinished => some none
  | .perform _ _ => none

namespace Activity

/-- The time may come without passing over what a caller has to do before. -/
def Permits (time : Nat) : Activity α → Prop
  | awake _ => False
  | asleep wakesAt _ => time ≤ wakesAt
  | ended _ _ => True

/-- There is nothing left to do. -/
def HasEnded : Activity α → Prop
  | ended _ _ => True
  | _ => False

/--
The time at which a caller does what it does next, or at which it has ended.
-/
def time (now : Nat) : Activity α → Nat
  | awake _ => now
  | asleep wakesAt _ => wakesAt
  | ended time _ => time

/--
A caller that must act again and permits some time is asleep until then
at least.
-/
theorem time_of_permits
    {activity : Activity α}
    {now : Nat}
    (permitted : activity.Permits (now + 1))
    (unended : ¬ activity.HasEnded) :
    now + 1 ≤ activity.time now ∧
      activity.time (now + 1) = activity.time now := by
  cases activity with
  | awake rest => cases permitted
  | asleep wakesAt rest => exact ⟨permitted, rfl⟩
  | ended time outcome => exact absurd trivial unended

end Activity

namespace Caller

/-- A caller at the beginning of a workflow. -/
def start (workflow : Workflow α) : Caller :=
  ⟨α, [], .awake workflow⟩

/--
One step of a caller at a time, with the effect that takes place at once, if
there is one.
-/
inductive Acts (world : World σ) (clock : Nat) :
    σ → Caller → Option Effect → σ → Caller → Prop where
  | performs
      {state : σ}
      {done : List Step}
      {effect : Effect}
      {next : effect.Reply → Workflow α}
      (restless : ∀ duration, effect ≠ .sleep duration) :
      Acts world clock state ⟨α, done, .awake (.perform effect next)⟩
        (some effect) (world.perform ⟨state, clock, []⟩ effect).2.state
        ⟨α, done ++ effect.trace (world.perform ⟨state, clock, []⟩ effect).1,
          .awake (next (world.perform ⟨state, clock, []⟩ effect).1)⟩
  | fallsAsleep
      {state : σ}
      {done : List Step}
      {duration : Nat}
      {next : Unit → Workflow α} :
      Acts world clock state
        ⟨α, done, .awake (.perform (.sleep duration) next)⟩ none
        state ⟨α, done ++ [.slept duration],
          .asleep (clock + duration) (next ())⟩
  | wakes
      {state : σ}
      {done : List Step}
      {wakesAt : Nat}
      {rest : Workflow α}
      (due : wakesAt ≤ clock) :
      Acts world clock state ⟨α, done, .asleep wakesAt rest⟩ none state
        ⟨α, done, .awake rest⟩
  | ends
      {state : σ}
      {done : List Step}
      {rest : Workflow α}
      {outcome : Option (Except Failure α)}
      (isOver : rest.ending? = some outcome) :
      Acts world clock state ⟨α, done, .awake rest⟩ none state
        ⟨α, done, .ended clock outcome⟩

/-- A caller that is awake can act. -/
theorem exists_acts
    (world : World σ)
    (clock : Nat)
    (state : σ)
    (done : List Step)
    (rest : Workflow α) :
    ∃ effect laterState later,
      Acts world clock state ⟨α, done, .awake rest⟩
        effect laterState later := by
  cases rest with
  | finished outcome => exact ⟨_, _, _, .ends rfl⟩
  | unfinished => exact ⟨_, _, _, .ends rfl⟩
  | perform effect next =>
      by_cases sleeps : ∃ duration, effect = .sleep duration
      · obtain ⟨duration, rfl⟩ := sleeps
        exact ⟨_, _, _, .fallsAsleep⟩
      · exact ⟨_, _, _, .performs fun duration same => sleeps ⟨duration, same⟩⟩

/--
A step leads from a caller to a later one, whatever the time and the state are.
-/
def Steps (world : World σ) (later caller : Caller) : Prop :=
  ∃ clock state effect laterState,
    caller.Acts world clock state effect laterState later

private theorem acc_ended
    (world : World σ)
    (done : List Step)
    (time : Nat)
    (outcome : Option (Except Failure α)) :
    Acc (Steps world) ⟨α, done, .ended time outcome⟩ := by
  apply Acc.intro
  rintro later ⟨_, _, _, _, acts⟩
  cases acts

private theorem acc_asleep
    {world : World σ}
    {rest : Workflow α}
    (accAwake : ∀ done, Acc (Steps world) ⟨α, done, .awake rest⟩)
    (done : List Step)
    (wakesAt : Nat) :
    Acc (Steps world) ⟨α, done, .asleep wakesAt rest⟩ := by
  apply Acc.intro
  rintro later ⟨_, _, _, _, acts⟩
  cases acts with
  | wakes => exact accAwake done

private theorem acc_awake
    (world : World σ)
    (rest : Workflow α)
    (done : List Step) :
    Acc (Steps world) ⟨α, done, .awake rest⟩ := by
  induction rest generalizing done with
  | finished result =>
      apply Acc.intro
      rintro later ⟨_, _, _, _, acts⟩
      cases acts with
      | ends => exact acc_ended world done _ _
  | unfinished =>
      apply Acc.intro
      rintro later ⟨_, _, _, _, acts⟩
      cases acts with
      | ends => exact acc_ended world done _ _
  | perform effect next inductionHypothesis =>
      apply Acc.intro
      rintro later ⟨_, _, _, _, acts⟩
      cases acts with
      | performs => exact inductionHypothesis _ _
      | fallsAsleep =>
          exact acc_asleep (fun done => inductionHypothesis () done) _ _
      | ends isOver => cases isOver

/-- A caller does not take steps forever. -/
theorem acc_steps
    (world : World σ)
    (caller : Caller) :
    Acc (Steps world) caller := by
  obtain ⟨Result, done, activity⟩ := caller
  cases activity with
  | awake rest => exact acc_awake world rest done
  | asleep wakesAt rest => exact acc_asleep (acc_awake world rest) done wakesAt
  | ended time outcome => exact acc_ended world done time outcome

end Caller

/--
What happens in a crowd: a caller acts, time passes, or something disturbs
the state.
-/
inductive Move (ι : Type) where
  | acts (position : Nat) (effect : Option Effect)
  | passes (duration : Nat)
  | disturbs (disturbance : ι)

namespace Crowd

variable (world : World σ) (disturb : ι → σ → σ)

/-- One thing that happens in a crowd. -/
inductive Moves : Crowd σ → Move ι → Crowd σ → Prop where
  | acts
      {crowd : Crowd σ}
      {position : Nat}
      {caller later : Caller}
      {effect : Option Effect}
      {state : σ}
      (present : crowd.callers[position]? = some caller)
      (acts : caller.Acts world crowd.clock crowd.state effect state later) :
      Moves crowd (.acts position effect)
        ⟨state, crowd.clock, crowd.callers.set position later⟩
  | passes
      {crowd : Crowd σ}
      {duration : Nat}
      (permitted :
        ∀ caller ∈ crowd.callers,
          caller.activity.Permits (crowd.clock + duration)) :
      Moves crowd (.passes duration)
        ⟨crowd.state, crowd.clock + duration, crowd.callers⟩
  | disturbs
      {crowd : Crowd σ}
      (disturbance : ι) :
      Moves crowd (.disturbs disturbance)
        ⟨disturb disturbance crowd.state, crowd.clock, crowd.callers⟩

/-- What happens in a crowd one after the other. -/
inductive Runs : Crowd σ → List (Move ι) → Crowd σ → Prop where
  | nil (crowd : Crowd σ) : Runs crowd [] crowd
  | snoc
      {crowd later last : Crowd σ}
      {moves : List (Move ι)}
      {move : Move ι}
      (runs : Runs crowd moves later)
      (moved : Moves world disturb later move last) :
      Runs crowd (moves ++ [move]) last

end Crowd

/-- A move that is a step of a caller, or that lets some time pass. -/
def Move.IsInner : Move ι → Prop
  | .acts _ _ => True
  | .passes duration => 0 < duration
  | .disturbs _ => False

/--
What a caller did, and what it is up to, is what it would have done alone, at
the same times; and if it has ended, then in the same way, and the view of the
state is the one that it would have left.
-/
structure KeepsTo
    (view : σ → ν)
    (alone : Option (Except Failure α) × Session σ)
    (start : Nat)
    (state : σ)
    (now : Nat)
    (done : List Step)
    (activity : Activity α) : Prop where
  did : done <+: alone.2.history.reverse
  inTime : activity.time now = start + slept done
  notLate : now ≤ activity.time now ∨ activity.HasEnded
  ended :
    ∀ {time outcome},
      activity = .ended time outcome →
        outcome = alone.1 ∧ done = alone.2.history.reverse ∧
          time = alone.2.clock ∧
          view state = view alone.2.state

/-- A workflow with effects of some kind only, whatever the replies are. -/
inductive Workflow.Only (own : Effect → Prop) : Workflow α → Prop where
  | finished (outcome : Except Failure α) : Only own (.finished outcome)
  | unfinished : Only own .unfinished
  | perform
      {effect : Effect}
      {next : effect.Reply → Workflow α}
      (isOwn : own effect)
      (goesOn : ∀ reply, Only own (next reply)) :
      Only own (.perform effect next)

theorem Workflow.Only.mono
    {own other : Effect → Prop}
    {workflow : Workflow α}
    (only : workflow.Only own)
    (isOther : ∀ effect, own effect → other effect) :
    workflow.Only other := by
  induction only with
  | finished outcome => exact .finished outcome
  | unfinished => exact .unfinished
  | perform isOwn _ inductionHypothesis =>
      exact .perform (isOther _ isOwn) inductionHypothesis

/-- Parts with effects of some kind make a whole with effects of that kind. -/
theorem Workflow.Only.bind
    {own : Effect → Prop}
    {workflow : Workflow α}
    {next : α → Workflow β}
    (first : workflow.Only own)
    (second : ∀ value, (next value).Only own) :
    (workflow >>= next).Only own := by
  change (workflow.bind next).Only own
  induction first with
  | finished outcome =>
      cases outcome with
      | ok value => exact second value
      | error failure => exact .finished (.error failure)
  | unfinished => exact .unfinished
  | perform isOwn _ inductionHypothesis =>
      exact .perform isOwn inductionHypothesis

/--
A run keeps a view of the state that no effect of a kind changes, if it has only
such effects.
-/
theorem Workflow.Only.run_keeps
    {world : World σ}
    {view : σ → ν}
    {own : Effect → Prop}
    {workflow : Workflow α}
    (only : workflow.Only own)
    (keeps :
      ∀ effect, own effect →
        ∀ session : Session σ,
          view (world.perform session effect).2.state = view session.state)
    (session : Session σ) :
    view (workflow.run world session).2.state = view session.state := by
  induction only generalizing session with
  | finished outcome => rfl
  | unfinished => rfl
  | perform isOwn _ inductionHypothesis =>
      exact (inductionHypothesis _ _).trans (keeps _ isOwn session)

/-- A caller with effects of some kind only in what it has still to do. -/
def Caller.Only (own : Effect → Prop) (caller : Caller) : Prop :=
  match caller.activity with
  | .awake rest => rest.Only own
  | .asleep _ rest => rest.Only own
  | .ended _ _ => True

theorem Caller.Only.acts
    {world : World σ}
    {own : Effect → Prop}
    {clock : Nat}
    {state laterState : σ}
    {caller later : Caller}
    {effect : Option Effect}
    (only : caller.Only own)
    (acts : caller.Acts world clock state effect laterState later) :
    (∀ performed, effect = some performed → own performed) ∧
      later.Only own := by
  cases acts with
  | performs =>
      cases only with
      | perform isOwn goesOn =>
          refine ⟨?_, goesOn _⟩
          rintro performed ⟨⟩
          exact isOwn
  | fallsAsleep =>
      cases only with
      | perform isOwn goesOn => exact ⟨nofun, goesOn ()⟩
  | wakes => exact ⟨nofun, only⟩
  | ends => exact ⟨nofun, trivial⟩

/-- A move of a caller that has an effect of the kind of that caller. -/
def Move.IsOwn (own : Nat → Effect → Prop) : Move ι → Prop
  | .acts position (some effect) => own position effect
  | _ => True

/--
What some effects are replied to, and how they change a view of the state,
depends on the view.
-/
def World.Isolates
    (world : World σ)
    (view : σ → ν)
    (own : Effect → Prop) : Prop :=
  ∀ (effect : Effect) (first second : Session σ),
    own effect → view first.state = view second.state →
      first.clock = second.clock →
      (world.perform first effect).1 = (world.perform second effect).1 ∧
        view (world.perform first effect).2.state =
          view (world.perform second effect).2.state

/--
A move that does not touch a view of the state, unless it is one of the caller
at a position.
-/
def Move.Keeps
    (world : World σ)
    (disturb : ι → σ → σ)
    (view : σ → ν)
    (position : Nat) :
    Move ι → Prop
  | .acts other (some effect) =>
      other ≠ position →
        ∀ session : Session σ,
          view (world.perform session effect).2.state = view session.state
  | .acts _ none => True
  | .passes _ => True
  | .disturbs disturbance =>
      ∀ state, view (disturb disturbance state) = view state

/--
A caller follows what it would do alone: there is a session in which it is
alone, that has come as far as the caller, and that ends like the one in which
it is alone from the start.
-/
structure Follows
    (world : World σ)
    (view : σ → ν)
    (own : Effect → Prop)
    (start : Session σ)
    (alone : Option (Except Failure α) × Session σ)
    (state : σ)
    (now : Nat)
    (done : List Step)
    (activity : Activity α) : Prop where
  session :
    ∃ session : Session σ,
      start.Reaches done session ∧ view session.state = view state ∧
        match activity with
        | .awake rest =>
            session.clock = now ∧ rest.Only own ∧ rest.run world session = alone
        | .asleep wakesAt rest =>
            session.clock = wakesAt ∧ now ≤ wakesAt ∧ rest.Only own ∧
              rest.run world session = alone
        | .ended time outcome =>
            session.clock = time ∧ (outcome, session) = alone

namespace Follows

variable
  {world : World σ}
  {view : σ → ν}
  {own : Effect → Prop}
  {start : Session σ}
  {alone : Option (Except Failure α) × Session σ}
  {state : σ}
  {now : Nat}
  {done : List Step}
  {activity : Activity α}

theorem begin
    {workflow : Workflow α}
    (onlyOwn : workflow.Only own) :
    Follows world view own start (workflow.run world start)
      start.state start.clock [] (.awake workflow) :=
  ⟨start, .refl start, rfl, rfl, onlyOwn, rfl⟩

/-- What does not touch the view does not matter to the caller. -/
theorem disturbed
    {later : σ}
    (follows : Follows world view own start alone state now done activity)
    (kept : view later = view state) :
    Follows world view own start alone later now done activity := by
  obtain ⟨session, reaches, sameView, rest⟩ := follows
  exact ⟨session, reaches, sameView.trans kept.symm, rest⟩

/-- Time that the caller permits does not matter to it. -/
theorem passes
    {duration : Nat}
    (follows : Follows world view own start alone state now done activity)
    (permitted : activity.Permits (now + duration)) :
    Follows world view own start alone state (now + duration)
      done activity := by
  obtain ⟨session, reaches, sameView, rest⟩ := follows
  cases activity with
  | awake rest => cases permitted
  | asleep wakesAt workflow =>
      obtain ⟨isTime, _, onlyOwn, runs⟩ := rest
      exact ⟨session, reaches, sameView, isTime, permitted, onlyOwn, runs⟩
  | ended time outcome => exact ⟨session, reaches, sameView, rest⟩

/-- A step of the caller is the one that it would do alone. -/
theorem acts
    (isolates : world.Isolates view own)
    {effect : Option Effect}
    {laterState : σ}
    {later : Caller}
    (follows : Follows world view own start alone state now done activity)
    (acts :
      Caller.Acts world now state ⟨α, done, activity⟩ effect laterState later) :
    ∃ laterDone laterActivity,
      later = ⟨α, laterDone, laterActivity⟩ ∧
        Follows world view own start alone laterState now laterDone
          laterActivity := by
  obtain ⟨session, reaches, sameView, rest⟩ := follows
  cases acts with
  | @performs _ _ _ effect next restless =>
      obtain ⟨isNow, onlyOwn, runs⟩ := rest
      cases onlyOwn with
      | perform isOwn goesOn =>
          obtain ⟨sameReply, sameLater⟩ :=
            isolates effect session ⟨state, now, []⟩ isOwn sameView isNow
          have performed := Workflow.perform_reaches world session effect
          have still :
              (world.perform session effect).2.clock = session.clock := by
            cases effect with
            | sleep duration => exact absurd rfl (restless duration)
            | send request => rfl
            | readClock => rfl
            | generateKeys => rfl
            | proposeName group => rfl
          rw [sameReply] at performed
          refine ⟨_, _, rfl, _, reaches.trans performed, sameLater,
            still.trans isNow, goesOn _, ?_⟩
          rw [← sameReply]
          exact runs
  | @fallsAsleep _ _ _ duration next =>
      obtain ⟨isNow, onlyOwn, runs⟩ := rest
      cases onlyOwn with
      | perform isOwn goesOn =>
          have performed :=
            Workflow.perform_reaches world session (.sleep duration)
          refine ⟨_, _, rfl, _, reaches.trans performed, sameView, ?_,
            Nat.le_add_right now _, goesOn (), runs⟩
          change session.clock + duration = now + duration
          rw [isNow]
  | wakes due =>
      obtain ⟨isTime, notLate, onlyOwn, runs⟩ := rest
      have isNow : session.clock = now := by omega
      exact ⟨_, _, rfl, session, reaches, sameView, isNow, onlyOwn, runs⟩
  | @ends _ _ _ rest outcome isOver =>
      obtain ⟨isNow, onlyOwn, runs⟩ := rest
      refine ⟨_, _, rfl, session, reaches, sameView, isNow, ?_⟩
      cases rest with
      | finished result =>
          cases isOver
          exact runs
      | unfinished =>
          cases isOver
          exact runs
      | perform effect next => cases isOver

/-- Who follows what it would do alone keeps to it. -/
theorem keepsTo
    (fresh : start.history = [])
    (follows : Follows world view own start alone state now done activity) :
    KeepsTo view alone start.clock state now done activity := by
  obtain ⟨session, reaches, sameView, rest⟩ := follows
  have history : session.history = done.reverse := by
    rw [reaches.history, fresh, List.append_nil]
  have begun
      {workflow : Workflow α}
      (runs : workflow.run world session = alone) :
      done <+: alone.2.history.reverse := by
    obtain ⟨steps, goesOn, _⟩ := Workflow.run_plays world workflow session
    rw [← runs, goesOn.history, history]
    simp
  cases activity with
  | awake workflow =>
      obtain ⟨isNow, _, runs⟩ := rest
      exact ⟨begun runs, isNow.symm.trans reaches.clock,
        Or.inl (Nat.le_refl now), nofun⟩
  | asleep wakesAt workflow =>
      obtain ⟨isTime, notLate, _, runs⟩ := rest
      exact ⟨begun runs, isTime.symm.trans reaches.clock, Or.inl notLate, nofun⟩
  | ended time outcome =>
      obtain ⟨isTime, same⟩ := rest
      subst same
      refine ⟨by simp [history], isTime.symm.trans reaches.clock,
        Or.inr trivial, ?_⟩
      intro _ _ isEnd
      cases isEnd
      exact ⟨rfl, by simp [history], isTime.symm, sameView.symm⟩

end Follows

namespace Crowd

variable {world : World σ} {disturb : ι → σ → σ}

/-- A crowd in which the caller at a position follows what it would do alone. -/
def Tracks
    (world : World σ)
    (view : σ → ν)
    (own : Effect → Prop)
    (start : Session σ)
    (alone : Option (Except Failure α) × Session σ)
    (position : Nat)
    (crowd : Crowd σ) : Prop :=
  ∃ done activity,
    crowd.callers[position]? = some ⟨α, done, activity⟩ ∧
      Follows world view own start alone crowd.state crowd.clock done activity

section Tracking

variable
  {view : σ → ν}
  {own : Effect → Prop}
  {start : Session σ}
  {alone : Option (Except Failure α) × Session σ}
  {position : Nat}
  {crowd later : Crowd σ}

/-- The effect of a step is all that touches the state. -/
private theorem view_of_acts
    {clock : Nat}
    {state laterState : σ}
    {caller laterCaller : Caller}
    {effect : Option Effect}
    {other : Nat}
    (different : other ≠ position)
    (keeps : Move.Keeps world disturb view position (.acts other effect))
    (acts : caller.Acts world clock state effect laterState laterCaller) :
    view laterState = view state := by
  cases acts with
  | performs => exact keeps different _
  | fallsAsleep => rfl
  | wakes => rfl
  | ends => rfl

/--
One move keeps a caller on track, if it does not touch what the caller
depends on.
-/
theorem Tracks.moves
    (isolates : world.Isolates view own)
    {move : Move ι}
    (tracks : Tracks world view own start alone position crowd)
    (keeps : move.Keeps world disturb view position)
    (moved : Moves world disturb crowd move later) :
    Tracks world view own start alone position later := by
  obtain ⟨done, activity, present, follows⟩ := tracks
  cases moved with
  | @acts other caller laterCaller effect state isCaller acts =>
      by_cases same : other = position
      · subst same
        cases present.symm.trans isCaller
        obtain ⟨laterDone, laterActivity, rfl, goesOn⟩ :=
          follows.acts isolates acts
        refine ⟨laterDone, laterActivity, ?_, goesOn⟩
        have inBounds := (List.getElem?_eq_some_iff.mp present).1
        exact List.getElem?_set_self inBounds
      · refine ⟨done, activity, ?_,
          follows.disturbed (view_of_acts same keeps acts)⟩
        rw [← present]
        exact List.getElem?_set_ne same
  | passes permitted =>
      have isPermitted := permitted _ (List.mem_of_getElem? present)
      exact ⟨done, activity, present, follows.passes isPermitted⟩
  | disturbs disturbance =>
      exact ⟨done, activity, present, follows.disturbed (keeps _)⟩

theorem Tracks.runs
    (isolates : world.Isolates view own)
    {moves : List (Move ι)}
    (tracks : Tracks world view own start alone position crowd)
    (keeps : ∀ move ∈ moves, move.Keeps world disturb view position)
    (runs : Runs world disturb crowd moves later) :
    Tracks world view own start alone position later := by
  induction runs with
  | nil => exact tracks
  | snoc _ moved inductionHypothesis =>
      rw [List.forall_mem_append] at keeps
      obtain ⟨keepsBefore, keepsLast⟩ := keeps
      exact (inductionHypothesis keepsBefore).moves isolates
        (keepsLast _ List.mem_cons_self) moved

/--
A caller whose effects depend on a view of the state keeps to what it would do
alone, as long as nobody else touches the view.
-/
theorem Runs.keepsTo
    (isolates : world.Isolates view own)
    {workflow : Workflow α}
    (onlyOwn : workflow.Only own)
    {moves : List (Move ι)}
    (starts : crowd.callers[position]? = some (.start workflow))
    (runs : Runs world disturb crowd moves later)
    (keeps : ∀ move ∈ moves, move.Keeps world disturb view position) :
    ∃ done activity,
      later.callers[position]? = some ⟨α, done, activity⟩ ∧
        KeepsTo view (workflow.run world ⟨crowd.state, crowd.clock, []⟩)
          crowd.clock later.state later.clock done activity := by
  have tracks :
      Tracks world view own ⟨crowd.state, crowd.clock, []⟩
        (workflow.run world ⟨crowd.state, crowd.clock, []⟩) position crowd :=
    ⟨[], .awake workflow, starts, .begin onlyOwn⟩
  obtain ⟨done, activity, present, follows⟩ := tracks.runs isolates keeps runs
  exact ⟨done, activity, present, follows.keepsTo rfl⟩

end Tracking

section Kinds

variable
  {own : Nat → Effect → Prop}
  {crowd later : Crowd σ}

/-- Callers each of which has effects of a kind of its own only. -/
def AllOnly (own : Nat → Effect → Prop) (crowd : Crowd σ) : Prop :=
  ∀ (position : Nat) (caller : Caller),
    crowd.callers[position]? = some caller → caller.Only (own position)

/--
One move is of the kind of the caller that makes it, and so are those
that follow.
-/
theorem AllOnly.moves
    {move : Move ι}
    (allOnly : crowd.AllOnly own)
    (moved : Moves world disturb crowd move later) :
    move.IsOwn own ∧ later.AllOnly own := by
  cases moved with
  | @acts position caller laterCaller effect state present acts =>
      obtain ⟨isOwn, goesOn⟩ := (allOnly position caller present).acts acts
      constructor
      · cases effect with
        | none => trivial
        | some performed => exact isOwn performed rfl
      · intro other otherCaller isOther
        by_cases same : other = position
        · subst same
          have inBounds := (List.getElem?_eq_some_iff.mp present).1
          rw [List.getElem?_set_self inBounds] at isOther
          cases isOther
          exact goesOn
        · rw [List.getElem?_set_ne (Ne.symm same)] at isOther
          exact allOnly other otherCaller isOther
  | passes permitted => exact ⟨trivial, allOnly⟩
  | disturbs disturbance => exact ⟨trivial, allOnly⟩

theorem AllOnly.runs
    {moves : List (Move ι)}
    (allOnly : crowd.AllOnly own)
    (runs : Runs world disturb crowd moves later) :
    (∀ move ∈ moves, move.IsOwn own) ∧ later.AllOnly own := by
  induction runs with
  | nil => exact ⟨List.forall_mem_nil _, allOnly⟩
  | snoc _ moved inductionHypothesis =>
      obtain ⟨before, allOnlyThen⟩ := inductionHypothesis
      obtain ⟨isOwn, goesOn⟩ := allOnlyThen.moves moved
      refine ⟨?_, goesOn⟩
      intro move member
      rcases List.mem_append.mp member with earlier | isLast
      · exact before move earlier
      · cases List.mem_singleton.mp isLast
        exact isOwn

end Kinds

theorem Runs.cons
    {crowd middle later : Crowd σ}
    {move : Move ι}
    {moves : List (Move ι)}
    (moved : Moves world disturb crowd move middle)
    (runs : Runs world disturb middle moves later) :
    Runs world disturb crowd (move :: moves) later := by
  induction runs with
  | nil => exact .snoc (.nil crowd) moved
  | snoc _ last inductionHypothesis => exact .snoc inductionHypothesis last

/-- Unless time can pass, one of the callers can act. -/
theorem permits_or_acts
    (world : World σ)
    (state : σ)
    (clock : Nat)
    (callers : List Caller) :
    (∀ caller ∈ callers, caller.activity.Permits (clock + 1)) ∨
      ∃ (position : Nat)
          (caller : Caller)
          (effect : Option Effect)
          (laterState : σ)
          (later : Caller),
        callers[position]? = some caller ∧
          caller.Acts world clock state effect laterState later := by
  by_cases permitted : ∀ caller ∈ callers, caller.activity.Permits (clock + 1)
  · exact Or.inl permitted
  · right
    obtain ⟨caller, isRefused⟩ := Classical.not_forall.mp permitted
    obtain ⟨member, refuses⟩ := Classical.not_imp.mp isRefused
    obtain ⟨position, present⟩ := List.mem_iff_getElem?.mp member
    obtain ⟨Result, done, activity⟩ := caller
    cases activity with
    | awake rest =>
        obtain ⟨effect, laterState, later, acts⟩ :=
          Caller.exists_acts world clock state done rest
        exact ⟨position, _, effect, laterState, later, present, acts⟩
    | asleep wakesAt rest =>
        have due : wakesAt ≤ clock :=
          Nat.le_of_lt_succ (Nat.lt_of_not_le refuses)
        exact ⟨position, _, none, state, _, present, .wakes due⟩
    | ended time outcome => exact absurd trivial refuses

/-- One of some callers takes a step. -/
def StepsIn (world : World σ) (later callers : List Caller) : Prop :=
  ∃ position caller laterCaller,
    callers[position]? = some caller ∧
      Caller.Steps world laterCaller caller ∧
      later = callers.set position laterCaller

private theorem acc_cons
    {caller : Caller}
    (accCaller : Acc (Caller.Steps world) caller)
    {rest : List Caller}
    (accRest : Acc (StepsIn world) rest) :
    Acc (StepsIn world) (caller :: rest) := by
  induction accCaller generalizing rest with
  | intro caller _ callerHypothesis =>
      induction accRest with
      | intro rest accLater restHypothesis =>
          apply Acc.intro
          rintro later ⟨position, actor, laterActor, present, steps, rfl⟩
          cases position with
          | zero =>
              cases present
              exact callerHypothesis _ steps (.intro rest accLater)
          | succ position =>
              exact restHypothesis _
                ⟨position, actor, laterActor, present, steps, rfl⟩

/-- Callers together do not take steps forever either. -/
theorem acc_callers
    (world : World σ)
    (callers : List Caller) :
    Acc (StepsIn world) callers := by
  induction callers with
  | nil =>
      apply Acc.intro
      rintro later ⟨position, actor, laterActor, present, _⟩
      cases present
  | cons caller rest inductionHypothesis =>
      exact acc_cons (Caller.acc_steps world caller) inductionHypothesis

/--
The callers of a crowd can all come to their ends, with nobody else involved.
-/
def CanEnd (world : World σ) (disturb : ι → σ → σ) (crowd : Crowd σ) : Prop :=
  ∃ (moves : List (Move ι)) (later : Crowd σ),
    Runs world disturb crowd moves later ∧ (∀ move ∈ moves, move.IsInner) ∧
      ∀ caller ∈ later.callers, caller.activity.HasEnded

theorem CanEnd.of_move
    {crowd later : Crowd σ}
    {move : Move ι}
    (moved : Moves world disturb crowd move later)
    (inner : move.IsInner)
    (canEnd : CanEnd world disturb later) :
    CanEnd world disturb crowd := by
  obtain ⟨moves, last, runs, allInner, ended⟩ := canEnd
  exact ⟨move :: moves, last, .cons moved runs,
    List.forall_mem_cons.mpr ⟨inner, allInner⟩, ended⟩

/--
Where somebody is waited for, the callers can end if they can once somebody
has acted.
-/
private theorem canEnd_of_pending
    {callers : List Caller}
    (afterStep :
      ∀ {state clock position caller effect laterState later},
        callers[position]? = some caller →
        caller.Acts world clock state effect laterState later →
          CanEnd world disturb ⟨laterState, clock, callers.set position later⟩)
    {pending : Caller}
    (member : pending ∈ callers)
    (unended : ¬ pending.activity.HasEnded)
    (state : σ)
    {clock remaining : Nat}
    (covers : pending.activity.time clock ≤ clock + remaining) :
    CanEnd world disturb ⟨state, clock, callers⟩ := by
  -- whoever can act does so; where nobody can, time passes until somebody wakes
  induction remaining generalizing clock with
  | zero =>
      rcases permits_or_acts world state clock callers with
          permitted | ⟨_, _, _, _, _, present, acts⟩
      · have later :=
          (Activity.time_of_permits (permitted pending member) unended).1
        omega
      · exact .of_move (.acts present acts) trivial (afterStep present acts)
  | succ remaining inductionHypothesis =>
      rcases permits_or_acts world state clock callers with
          permitted | ⟨_, _, _, _, _, present, acts⟩
      · have same :=
          (Activity.time_of_permits (permitted pending member) unended).2
        have coversLater :
            pending.activity.time (clock + 1) ≤ clock + 1 + remaining := by
          omega
        exact .of_move (.passes permitted) Nat.one_pos
          (inductionHypothesis coversLater)
      · exact .of_move (.acts present acts) trivial (afterStep present acts)

/-- The callers of every crowd can all come to their ends. -/
theorem exists_end
    (world : World σ)
    (disturb : ι → σ → σ)
    (crowd : Crowd σ) :
    CanEnd world disturb crowd := by
  obtain ⟨state, clock, callers⟩ := crowd
  induction acc_callers world callers generalizing state clock with
  | intro callers _ stepHypothesis =>
      by_cases allEnded : ∀ caller ∈ callers, caller.activity.HasEnded
      · exact ⟨[], _, .nil _, List.forall_mem_nil _, allEnded⟩
      · obtain ⟨pending, isPending⟩ := Classical.not_forall.mp allEnded
        obtain ⟨member, unended⟩ := Classical.not_imp.mp isPending
        apply canEnd_of_pending ?_ member unended state (Nat.le_add_left ..)
        intro state clock position caller effect laterState later present acts
        exact stepHypothesis _
          ⟨position, caller, later, present,
            ⟨clock, state, effect, laterState, acts⟩, rfl⟩ _ _

end Crowd

end DropletClient
