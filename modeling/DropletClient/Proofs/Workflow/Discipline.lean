import DropletClient.Proofs.Position
import DropletClient.Proofs.Workflow.Exchange

namespace DropletClient

/-!
# The discipline of waiting

Whoever starts something waits for it: a change is directly followed by looks
at its event, all but the last of which find it pending, and nothing else is
done before it is done. A workflow stops at the first failure and reports just
that failure.

`WaitDiscipline` says this of all positions in a sequence of exchanges.
`Orderly` is the grammar of such sequences, which parts of workflows are shown
to follow, and `Orderly.discipline` leads from the one to the other.
-/

/--
What a workflow is after: what is refused at once, and how missing things
are called.
-/
structure Undertaking where
  refusal : Option Failure
  dropletText : Int32 → String
  imageName : Option String

namespace Undertaking

/--
The failure for an answer in which the droplet or the image that is asked for
is missing.
-/
def missing? (undertaking : Undertaking) : Exchange → Option Failure
  | ⟨.getDroplet id, .ok none⟩ =>
      some (.noSuchElement (.droplet (undertaking.dropletText id)))
  | ⟨.listImages, .ok images⟩ =>
      (undertaking.imageName.filter fun name =>
        (images.find? (·.name == name)).isNone).map
        fun name => .noSuchElement (.image name)
  | _ => none

/--
The failure that an exchange means: that of the reply, or else that something
is missing.
-/
def failure?
    (undertaking : Undertaking)
    (exchange : Exchange) :
    Option Failure :=
  exchange.failure?.or (undertaking.missing? exchange)

variable (undertaking : Undertaking)

theorem failure?_of_started?
    {change : Exchange}
    {started : Int32 × EventKind}
    (starts : change.started? = some started) :
    undertaking.failure? change = none := by
  rw [failure?, Exchange.failure?_of_started? starts]
  obtain ⟨request, reply⟩ := change
  cases request <;> first | rfl | simp [Exchange.started?] at starts

theorem failure?_of_finds
    {look : Exchange}
    {event : Int32}
    {status : EventStatus}
    (finds : look.Finds event status) :
    undertaking.failure? look = none := by
  obtain ⟨seen, rfl, _⟩ := finds
  rfl

theorem failure?_of_loses
    {look : Exchange}
    {event : Int32}
    {failure : Failure}
    (loses : look.Loses event failure) :
    undertaking.failure? look = some failure := by
  rw [loses]
  rfl

end Undertaking

/-- How a wait ends in which the event was not found done by the last look. -/
inductive Stops
    (event : Int32)
    (kind : EventKind)
    (last : Exchange) :
    Option (Except Failure α) → Prop where
  | failed (finds : last.Finds event .error) :
      Stops event kind last (some (.error (.operationFailed event)))
  | timedOut (finds : last.Finds event .pending) :
      Stops event kind last (some (.error (.timeout kind event)))
  | lost {failure : Failure} (loses : last.Loses event failure) :
      Stops event kind last (some (.error failure))
  | cutOff (finds : last.Finds event .pending) :
      Stops event kind last none

namespace Stops

variable {event : Int32} {kind : EventKind} {last : Exchange}

theorem lookedAt?
    {outcome : Option (Except Failure α)}
    (stops : Stops event kind last outcome) :
    last.lookedAt? = some event := by
  cases stops with
  | failed finds => exact finds.lookedAt?
  | timedOut finds => exact finds.lookedAt?
  | lost loses => exact loses.lookedAt?
  | cutOff finds => exact finds.lookedAt?

/-- A wait that ends with a failure ends with it for whoever waits. -/
theorem failure
    {failure : Failure}
    (stops : Stops event kind last
      (some (.error failure) : Option (Except Failure α))) :
    Stops event kind last
      (some (.error failure) : Option (Except Failure β)) := by
  cases stops with
  | failed finds => exact .failed finds
  | timedOut finds => exact .timedOut finds
  | lost loses => exact .lost loses

/-- A wait that is cut off is cut off for whoever waits. -/
theorem unfinished
    (stops : Stops event kind last (none : Option (Except Failure α))) :
    Stops event kind last (none : Option (Except Failure β)) := by
  cases stops with
  | cutOff finds => exact .cutOff finds

end Stops

/--
The discipline of waiting, for all that a workflow exchanges with the provider.
-/
structure WaitDiscipline
    (undertaking : Undertaking)
    (exchanges : List Exchange)
    (outcome : Option (Except Failure α)) : Prop where
  /-- What is refused at once never reaches the provider. -/
  refused :
    ∀ {failure},
      undertaking.refusal = some failure →
      exchanges = [] ∧ outcome = some (.error failure)
  /--
  A change is directly followed by looks at its event, and goes no further
  unless it is done.
  -/
  awaited :
    ∀ {before change after event kind},
      exchanges = before ++ change :: after →
      change.started? = some (event, kind) →
      ∃ waiting last rest,
        after = waiting ++ last :: rest ∧
          (∀ look ∈ waiting, look.Finds event .pending) ∧
          (last.Finds event .done ∨ rest = [] ∧ Stops event kind last outcome)
  /--
  A look follows directly on the change that started the event, but for looks
  that found it pending.
  -/
  owned :
    ∀ {before look after event},
      exchanges = before ++ look :: after →
      look.lookedAt? = some event →
      ∃ earlier change waiting kind,
        before = earlier ++ change :: waiting ∧
          change.started? = some (event, kind) ∧
          ∀ look ∈ waiting, look.Finds event .pending
  /-- Nothing follows on a failure, which is the outcome. -/
  stopped :
    ∀ {before exchange after failure},
      exchanges = before ++ exchange :: after →
      undertaking.failure? exchange = some failure →
      after = [] ∧ outcome = some (.error failure)
  /--
  A failure in the end is that of a refusal, of the last exchange, or of a wait.
  -/
  blamed :
    ∀ {failure},
      outcome = some (.error failure) →
      undertaking.refusal = some failure ∨
        ∃ before last,
          exchanges = before ++ [last] ∧
            (undertaking.failure? last = some failure ∨
              ∃ event kind, Stops event kind last outcome)

/-- The grammar of sequences of exchanges in which every change is awaited. -/
inductive Orderly (undertaking : Undertaking) :
    List Exchange → Option (Except Failure α) → Prop where
  | returned (value : α) :
      Orderly undertaking [] (some (.ok value))
  | passed
      {exchange : Exchange}
      {later : List Exchange}
      {outcome : Option (Except Failure α)}
      (startsNothing : exchange.started? = none)
      (looksAtNothing : exchange.lookedAt? = none)
      (succeeds : undertaking.failure? exchange = none)
      (goesOn : Orderly undertaking later outcome) :
      Orderly undertaking (exchange :: later) outcome
  | stopped
      {exchange : Exchange}
      {failure : Failure}
      (startsNothing : exchange.started? = none)
      (looksAtNothing : exchange.lookedAt? = none)
      (fails : undertaking.failure? exchange = some failure) :
      Orderly undertaking [exchange] (some (.error failure))
  | awaited
      {change last : Exchange}
      {event : Int32}
      {kind : EventKind}
      {waiting later : List Exchange}
      {outcome : Option (Except Failure α)}
      (starts : change.started? = some (event, kind))
      (pending : ∀ look ∈ waiting, look.Finds event .pending)
      (done : last.Finds event .done)
      (goesOn : Orderly undertaking later outcome) :
      Orderly undertaking (change :: (waiting ++ last :: later)) outcome
  | abandoned
      {change last : Exchange}
      {event : Int32}
      {kind : EventKind}
      {waiting : List Exchange}
      {outcome : Option (Except Failure α)}
      (starts : change.started? = some (event, kind))
      (pending : ∀ look ∈ waiting, look.Finds event .pending)
      (stops : Stops event kind last outcome) :
      Orderly undertaking (change :: (waiting ++ [last])) outcome

private theorem lookedAt?_of_mem
    {event : Int32}
    {waiting : List Exchange}
    {last look : Exchange}
    (pending : ∀ look ∈ waiting, look.Finds event .pending)
    (lastLooks : last.lookedAt? = some event)
    (member : look ∈ waiting ++ [last]) :
    look.lookedAt? = some event := by
  rcases List.mem_append.mp member with inWaiting | isLast
  · exact (pending look inWaiting).lookedAt?
  · rw [List.mem_singleton.mp isLast]
    exact lastLooks

namespace Orderly

variable {undertaking : Undertaking}

/-- What follows on a part that gave a value is orderly together with it. -/
theorem append
    {value : α}
    {first second : List Exchange}
    {outcome : Option (Except Failure β)}
    (firstOrderly : Orderly undertaking first (some (.ok value)))
    (secondOrderly : Orderly undertaking second outcome) :
    Orderly undertaking (first ++ second) outcome := by
  generalize succeeds : some (Except.ok value) = ending at firstOrderly
  induction firstOrderly with
  | returned => exact secondOrderly
  | passed startsNothing looksAtNothing fine _ inductionHypothesis =>
      exact .passed startsNothing looksAtNothing fine
        (inductionHypothesis succeeds)
  | stopped => cases succeeds
  | awaited starts pending done _ inductionHypothesis =>
      simp only [List.cons_append, List.append_assoc]
      exact .awaited starts pending done (inductionHypothesis succeeds)
  | abandoned starts pending stops =>
      subst succeeds
      cases stops

/-- A part that failed is orderly on its own, for whomever it is a part of. -/
theorem failure
    {failure : Failure}
    {exchanges : List Exchange}
    (orderly : Orderly undertaking exchanges
      (some (.error failure) : Option (Except Failure α))) :
    Orderly undertaking exchanges
      (some (.error failure) : Option (Except Failure β)) := by
  generalize fails :
    (some (.error failure) : Option (Except Failure α)) = ending at orderly
  induction orderly with
  | returned => cases fails
  | passed startsNothing looksAtNothing fine _ inductionHypothesis =>
      exact .passed startsNothing looksAtNothing fine
        (inductionHypothesis fails)
  | stopped startsNothing looksAtNothing failed =>
      cases fails
      exact .stopped startsNothing looksAtNothing failed
  | awaited starts pending done _ inductionHypothesis =>
      exact .awaited starts pending done (inductionHypothesis fails)
  | abandoned starts pending stops =>
      subst fails
      exact .abandoned starts pending stops.failure

/--
A part that was cut off is orderly on its own, for whomever it is a part of.
-/
theorem unfinished
    {exchanges : List Exchange}
    (orderly :
      Orderly undertaking exchanges (none : Option (Except Failure α))) :
    Orderly undertaking exchanges (none : Option (Except Failure β)) := by
  generalize cut : (none : Option (Except Failure α)) = ending at orderly
  induction orderly with
  | returned => cases cut
  | passed startsNothing looksAtNothing fine _ inductionHypothesis =>
      exact .passed startsNothing looksAtNothing fine (inductionHypothesis cut)
  | stopped => cases cut
  | awaited starts pending done _ inductionHypothesis =>
      exact .awaited starts pending done (inductionHypothesis cut)
  | abandoned starts pending stops =>
      subst cut
      exact .abandoned starts pending stops.unfinished

section Positions

variable {exchanges before after : List Exchange}
  {outcome : Option (Except Failure α)}

/-- In an orderly sequence, looks follow directly on every change. -/
theorem awaits
    {change : Exchange}
    {event : Int32}
    {kind : EventKind}
    (orderly : Orderly undertaking exchanges outcome)
    (shape : exchanges = before ++ change :: after)
    (starts : change.started? = some (event, kind)) :
    ∃ waiting last rest,
      after = waiting ++ last :: rest ∧
        (∀ look ∈ waiting, look.Finds event .pending) ∧
        (last.Finds event .done ∨
          rest = [] ∧ Stops event kind last outcome) := by
  -- a change is no look, so the one in question is not inside a wait
  have notLook
      {look : Exchange}
      {other : Int32}
      (looks : look.lookedAt? = some other) :
      change ≠ look := by
    rintro rfl
    rw [Exchange.lookedAt?_of_started? starts] at looks
    cases looks
  induction orderly generalizing before with
  | returned => simp at shape
  | passed startsNothing _ _ _ inductionHypothesis =>
      cases before with
      | nil =>
          obtain ⟨rfl, _⟩ := List.cons.inj shape
          rw [starts] at startsNothing
          cases startsNothing
      | cons head rest => exact inductionHypothesis (List.cons.inj shape).2
  | stopped startsNothing =>
      cases before with
      | nil =>
          obtain ⟨rfl, _⟩ := List.cons.inj shape
          rw [starts] at startsNothing
          cases startsNothing
      | cons head rest => simp at shape
  | @awaited _ last _ _ waiting later _ itsStart pending done _
        inductionHypothesis =>
      cases before with
      | nil =>
          obtain ⟨rfl, rfl⟩ := List.cons.inj shape
          obtain ⟨rfl, rfl⟩ :=
            Prod.mk.inj (Option.some.inj (itsStart.symm.trans starts))
          exact ⟨waiting, last, later, rfl, pending, .inl done⟩
      | cons head rest =>
          have behind :
              (waiting ++ [last]) ++ later = rest ++ change :: after := by
            simpa using (List.cons.inj shape).2
          obtain ⟨middle, _, laterShape⟩ :=
            Position.split_behind behind fun member =>
            notLook (lookedAt?_of_mem pending done.lookedAt? member) rfl
          exact inductionHypothesis laterShape
  | @abandoned _ last _ _ waiting _ itsStart pending stops =>
      cases before with
      | nil =>
          obtain ⟨rfl, rfl⟩ := List.cons.inj shape
          obtain ⟨rfl, rfl⟩ :=
            Prod.mk.inj (Option.some.inj (itsStart.symm.trans starts))
          exact ⟨waiting, last, [], rfl, pending, .inr ⟨rfl, stops⟩⟩
      | cons head rest =>
          have member : change ∈ waiting ++ [last] := by
            rw [(List.cons.inj shape).2]
            simp
          exact
            (notLook (lookedAt?_of_mem pending stops.lookedAt? member) rfl).elim

/--
In an orderly sequence, a look follows directly on the change that started
its event.
-/
theorem owns
    {look : Exchange}
    {event : Int32}
    (orderly : Orderly undertaking exchanges outcome)
    (shape : exchanges = before ++ look :: after)
    (looks : look.lookedAt? = some event) :
    ∃ earlier change waiting kind,
      before = earlier ++ change :: waiting ∧
        change.started? = some (event, kind) ∧
        ∀ look ∈ waiting, look.Finds event .pending := by
  -- a look inside a wait has only looks of the same wait between itself and
  -- the change
  have inside
      {change last : Exchange}
      {waiting leading trailing : List Exchange}
      {other : Int32}
      {kind : EventKind}
      (starts : change.started? = some (other, kind))
      (pending : ∀ look ∈ waiting, look.Finds other .pending)
      (lastLooks : last.lookedAt? = some other)
      (position : waiting ++ [last] = leading ++ look :: trailing) :
      ∃ earlier owner pendingLooks kind,
        change :: leading = earlier ++ owner :: pendingLooks ∧
          owner.started? = some (event, kind) ∧
          ∀ look ∈ pendingLooks, look.Finds event .pending := by
    have sameEvent : other = event := by
      have member : look ∈ waiting ++ [last] := by
        rw [position]
        simp
      exact Option.some.inj
        ((lookedAt?_of_mem pending lastLooks member).symm.trans looks)
    subst sameEvent
    refine ⟨[], change, leading, kind, rfl, starts, ?_⟩
    rcases Position.split_snoc position with ⟨rest, rfl, _⟩ | ⟨rfl, _, _⟩
    · exact fun earlierLook member =>
        pending earlierLook (List.mem_append_left _ member)
    · exact pending
  induction orderly generalizing before with
  | returned => simp at shape
  | passed _ looksAtNothing _ _ inductionHypothesis =>
      cases before with
      | nil =>
          obtain ⟨rfl, _⟩ := List.cons.inj shape
          rw [looks] at looksAtNothing
          cases looksAtNothing
      | cons head rest =>
          obtain ⟨earlier, change, waiting, kind, rfl, starts, pending⟩ :=
            inductionHypothesis (List.cons.inj shape).2
          exact ⟨head :: earlier, change, waiting, kind, rfl, starts, pending⟩
  | stopped _ looksAtNothing =>
      cases before with
      | nil =>
          obtain ⟨rfl, _⟩ := List.cons.inj shape
          rw [looks] at looksAtNothing
          cases looksAtNothing
      | cons head rest => simp at shape
  | @awaited change last _ _ waiting later _ starts pending done _
        inductionHypothesis =>
      cases before with
      | nil =>
          obtain ⟨rfl, _⟩ := List.cons.inj shape
          rw [Exchange.lookedAt?_of_started? starts] at looks
          cases looks
      | cons head rest =>
          obtain ⟨rfl, tail⟩ := List.cons.inj shape
          have position :
              (waiting ++ [last]) ++ later = rest ++ look :: after := by
            simpa using tail
          rcases List.append_eq_append_iff.mp position with
              ⟨middle, rfl, laterShape⟩ | ⟨middle, looksShape, itemShape⟩
          · obtain ⟨earlier, owner, pendingLooks, kind, rfl, ownerStarts,
                ownerPending⟩ :=
              inductionHypothesis laterShape
            exact ⟨change :: (waiting ++ [last] ++ earlier), owner,
              pendingLooks, kind, by simp, ownerStarts, ownerPending⟩
          · cases middle with
            | nil =>
                obtain ⟨earlier, owner, pendingLooks, kind, nothing, _⟩ :=
                  @inductionHypothesis [] itemShape.symm
                simp at nothing
            | cons first others =>
                obtain ⟨rfl, _⟩ := List.cons.inj itemShape
                exact inside starts pending done.lookedAt? looksShape
  | abandoned starts pending stops =>
      cases before with
      | nil =>
          obtain ⟨rfl, _⟩ := List.cons.inj shape
          rw [Exchange.lookedAt?_of_started? starts] at looks
          cases looks
      | cons head rest =>
          obtain ⟨rfl, position⟩ := List.cons.inj shape
          exact inside starts pending stops.lookedAt? position

/--
In an orderly sequence, nothing follows on a failure, which is the outcome.
-/
theorem stops
    {exchange : Exchange}
    {failure : Failure}
    (orderly : Orderly undertaking exchanges outcome)
    (shape : exchanges = before ++ exchange :: after)
    (fails : undertaking.failure? exchange = some failure) :
    after = [] ∧ outcome = some (.error failure) := by
  -- neither changes nor looks that find a state are failures, so a failure is
  -- the end of a part
  have notFine {other : Exchange} (fine : undertaking.failure? other = none) :
      exchange ≠ other := by
    rintro rfl
    rw [fine] at fails
    cases fails
  have notWaiting {waiting : List Exchange} {event : Int32}
      (pending : ∀ look ∈ waiting, look.Finds event .pending) :
      exchange ∉ waiting := fun member =>
    notFine (undertaking.failure?_of_finds (pending exchange member)) rfl
  induction orderly generalizing before with
  | returned => simp at shape
  | passed _ _ fine _ inductionHypothesis =>
      cases before with
      | nil => exact (notFine fine (List.cons.inj shape).1.symm).elim
      | cons head rest => exact inductionHypothesis (List.cons.inj shape).2
  | stopped _ _ failed =>
      cases before with
      | nil =>
          obtain ⟨rfl, rfl⟩ := List.cons.inj shape
          rw [failed] at fails
          cases fails
          exact ⟨rfl, rfl⟩
      | cons head rest => simp at shape
  | @awaited _ last _ _ waiting later _ starts pending done _
        inductionHypothesis =>
      cases before with
      | nil =>
          exact (notFine (undertaking.failure?_of_started? starts)
            (List.cons.inj shape).1.symm).elim
      | cons head rest =>
          have behind :
              (waiting ++ [last]) ++ later = rest ++ exchange :: after := by
            simpa using (List.cons.inj shape).2
          obtain ⟨middle, _, laterShape⟩ :=
            Position.split_behind behind fun member => by
            rcases List.mem_append.mp member with inWaiting | isLast
            · exact notWaiting pending inWaiting
            · exact notFine (undertaking.failure?_of_finds done)
                (List.mem_singleton.mp isLast)
          exact inductionHypothesis laterShape
  | @abandoned _ last _ _ waiting _ starts pending stops =>
      cases before with
      | nil =>
          exact (notFine (undertaking.failure?_of_started? starts)
            (List.cons.inj shape).1.symm).elim
      | cons head rest =>
          rcases Position.split_snoc (List.cons.inj shape).2 with
            ⟨others, rfl, _⟩ | ⟨_, rfl, rfl⟩
          · exact (notWaiting pending (by simp)).elim
          · refine ⟨rfl, ?_⟩
            cases stops with
            | failed finds =>
                exact (notFine (undertaking.failure?_of_finds finds) rfl).elim
            | timedOut finds =>
                exact (notFine (undertaking.failure?_of_finds finds) rfl).elim
            | cutOff finds =>
                exact (notFine (undertaking.failure?_of_finds finds) rfl).elim
            | lost loses =>
                rw [undertaking.failure?_of_loses loses] at fails
                rw [Option.some.inj fails]

/--
In an orderly sequence, a failure in the end is that of the last exchange or
of a wait.
-/
theorem blames
    {failure : Failure}
    (orderly : Orderly undertaking exchanges outcome)
    (fails : outcome = some (.error failure)) :
    ∃ before last,
      exchanges = before ++ [last] ∧
        (undertaking.failure? last = some failure ∨
          ∃ event kind, Stops event kind last outcome) := by
  induction orderly with
  | returned => cases fails
  | @passed exchange _ _ _ _ _ _ inductionHypothesis =>
      obtain ⟨before, last, rfl, cause⟩ := inductionHypothesis fails
      exact ⟨exchange :: before, last, rfl, cause⟩
  | @stopped exchange _ _ _ failed =>
      cases fails
      exact ⟨[], exchange, rfl, .inl failed⟩
  | @awaited change last _ _ waiting _ _ _ _ _ _ inductionHypothesis =>
      obtain ⟨before, final, rfl, cause⟩ := inductionHypothesis fails
      exact ⟨change :: (waiting ++ last :: before), final, by simp, cause⟩
  | @abandoned change last event kind waiting _ _ _ stops =>
      exact ⟨change :: waiting, last, rfl, .inr ⟨event, kind, stops⟩⟩

end Positions

/--
Orderly exchanges of a workflow that refuses nothing keep the discipline
of waiting.
-/
theorem discipline
    {exchanges : List Exchange}
    {outcome : Option (Except Failure α)}
    (orderly : Orderly undertaking exchanges outcome)
    (accepted : undertaking.refusal = none) :
    WaitDiscipline undertaking exchanges outcome where
  refused refuses := by
    rw [accepted] at refuses
    cases refuses
  awaited shape starts := orderly.awaits shape starts
  owned shape looks := orderly.owns shape looks
  stopped shape fails := orderly.stops shape fails
  blamed fails := .inr (orderly.blames fails)

end Orderly

/--
A workflow that refuses what it is asked for keeps the discipline by
doing nothing.
-/
theorem WaitDiscipline.of_refusal
    {undertaking : Undertaking}
    {failure : Failure}
    (refuses : undertaking.refusal = some failure) :
    WaitDiscipline undertaking []
      (some (.error failure) : Option (Except Failure α)) where
  refused other := by
    rw [refuses] at other
    cases other
    exact ⟨rfl, rfl⟩
  awaited shape := by simp at shape
  owned shape := by simp at shape
  stopped shape := by simp at shape
  blamed fails := by
    cases fails
    exact .inl refuses

end DropletClient
