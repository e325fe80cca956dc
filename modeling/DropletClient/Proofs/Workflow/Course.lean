import DropletClient.Proofs.Workflow.Play

namespace DropletClient

/-!
# Courses of workflows

A course says what a workflow does when it succeeds, and with which value.
`Workflow.SucceedsBy` makes a course the exact condition for success: a play
that does not succeed does not even begin with what the course describes.
Courses of parts in a sequence make the course of the sequence.
-/

/-- A step other than a sleep. -/
def Step.isDeed : Step → Bool
  | .slept _ => false
  | _ => true

/-- What was done, sleeps aside. -/
def deeds (steps : List Step) : List Step :=
  steps.filter Step.isDeed

@[simp] theorem deeds_append
    (first second : List Step) :
    deeds (first ++ second) = deeds first ++ deeds second :=
  List.filter_append ..

/-- What is done on the way to a value. -/
abbrev Course (α : Type) := List Step → α → Prop

/-- An effect that leaves a step other than a sleep. -/
def Effect.IsDeed : Effect → Prop
  | .send _ => True
  | .sleep _ => False
  | .readClock => False
  | .generateKeys => True
  | .proposeName _ => True

theorem Effect.IsDeed.deeds_trace
    {effect : Effect}
    (isDeed : effect.IsDeed)
    (reply : effect.Reply) :
    deeds (effect.trace reply) = effect.trace reply := by
  cases effect with
  | sleep duration => cases isDeed
  | readClock => cases isDeed
  | send request => rfl
  | generateKeys => rfl
  | proposeName group => rfl

/-- The step that is left tells the reply. -/
theorem Effect.IsDeed.reply_unique
    {effect : Effect}
    {reply other : effect.Reply}
    {rest otherRest : List Step}
    (isDeed : effect.IsDeed)
    (same : effect.trace reply ++ rest = effect.trace other ++ otherRest) :
    reply = other := by
  cases effect with
  | sleep duration => cases isDeed
  | readClock => cases isDeed
  | send request =>
      cases same
      rfl
  | generateKeys =>
      cases same
      rfl
  | proposeName group =>
      cases same
      rfl

namespace Course

/-- One course, and then another one that depends on the value. -/
def andThen (first : Course α) (second : α → Course β) : Course β :=
  fun done result =>
    ∃ value before after,
      done = before ++ after ∧ first before value ∧ second value after result

/-- Whatever is done begins with the course to one value at most. -/
def IsUnambiguous (course : Course α) : Prop :=
  ∀ {first second firstRest secondRest : List Step} {value other : α},
    course first value → course second other →
      first ++ firstRest = second ++ secondRest →
      first = second ∧ value = other

theorem IsUnambiguous.andThen
    {first : Course α}
    {second : α → Course β}
    (firstTells : first.IsUnambiguous)
    (secondTells : ∀ value, (second value).IsUnambiguous) :
    (first.andThen second).IsUnambiguous := by
  rintro _ _ rest otherRest result otherResult
    ⟨value, before, after, rfl, goes, goesOn⟩
    ⟨other, otherBefore, otherAfter, rfl, otherGoes, otherGoesOn⟩ same
  simp only [List.append_assoc] at same
  obtain ⟨rfl, rfl⟩ := firstTells goes otherGoes same
  obtain ⟨rfl, rfl⟩ :=
    secondTells value goesOn otherGoesOn (List.append_cancel_left same)
  exact ⟨rfl, rfl⟩

end Course

namespace Workflow

/--
A workflow gives a value if and only if what it does is the course to the value.
-/
structure SucceedsBy (workflow : Workflow α) (course : Course α) : Prop where
  gives :
    ∀ {steps value},
      workflow.Plays steps (some (.ok value)) → course (deeds steps) value
  misses :
    ∀ {steps outcome first rest value},
      workflow.Plays steps outcome →
      (∀ given, outcome ≠ some (.ok given)) →
      deeds steps = first ++ rest →
        ¬ course first value
  tells : course.IsUnambiguous

namespace SucceedsBy

/--
A play gives a value if and only if what is done in it is the course to
the value.
-/
theorem succeeds_iff
    {workflow : Workflow α}
    {course : Course α}
    (succeeds : workflow.SucceedsBy course)
    {steps : List Step}
    {outcome : Option (Except Failure α)}
    (plays : workflow.Plays steps outcome)
    (value : α) :
    outcome = some (.ok value) ↔ course (deeds steps) value := by
  constructor
  · rintro rfl
    exact succeeds.gives plays
  · intro goes
    by_cases gives : ∃ given, outcome = some (.ok given)
    · obtain ⟨given, rfl⟩ := gives
      obtain ⟨-, rfl⟩ :=
        succeeds.tells goes (succeeds.gives plays) (rfl : _ ++ [] = _)
      rfl
    · have fails : ∀ given, outcome ≠ some (.ok given) :=
        fun given same => gives ⟨given, same⟩
      exact absurd goes (succeeds.misses plays fails (List.append_nil _).symm)

theorem congr
    {workflow : Workflow α}
    {course other : Course α}
    (succeeds : workflow.SucceedsBy course)
    (same : ∀ done value, course done value ↔ other done value) :
    workflow.SucceedsBy other := by
  have sameCourse : course = other := by
    funext done value
    exact propext (same done value)
  exact sameCourse ▸ succeeds

theorem of_finished
    (outcome : Except Failure α) :
    (Workflow.finished outcome).SucceedsBy fun done value => done = [] ∧
      outcome = .ok value where
  gives plays := by
    obtain ⟨rfl, same⟩ := plays.of_finished
    exact ⟨rfl, (Option.some.inj same).symm⟩
  misses plays fails _ := by
    obtain ⟨rfl, rfl⟩ := plays.of_finished
    rintro ⟨-, rfl⟩
    exact fails _ rfl
  tells := by
    rintro _ _ _ _ value other ⟨rfl, gives⟩ ⟨rfl, givesOther⟩ _
    exact ⟨rfl, Except.ok.inj (gives.symm.trans givesOther)⟩

theorem of_pure
    (value : α) :
    (pure value : Workflow α).SucceedsBy fun done given => done = [] ∧
      value = given :=
  (of_finished (.ok value)).congr fun _ _ => by simp

theorem of_fail
    (failure : Failure) :
    (fail failure : Workflow α).SucceedsBy fun _ _ => False :=
  (of_finished (.error failure)).congr fun _ _ =>
    iff_of_false (fun holds => nomatch holds.2) id

/-- An effect that is a deed succeeds by its reply. -/
theorem of_effect
    (effect : Effect)
    (isDeed : effect.IsDeed)
    (outcomeOf : effect.Reply → Except Failure α) :
    (perform effect fun reply => .finished (outcomeOf reply)).SucceedsBy
      fun done value =>
        ∃ reply, done = effect.trace reply ∧ outcomeOf reply = .ok value where
  gives plays := by
    cases plays with
    | perform reply goesOn =>
        obtain ⟨rfl, gives⟩ := goesOn.of_finished
        rw [List.append_nil, isDeed.deeds_trace]
        exact ⟨reply, rfl, (Option.some.inj gives).symm⟩
  misses plays fails begins := by
    rintro ⟨expected, rfl, gives⟩
    cases plays with
    | perform reply goesOn =>
        obtain ⟨rfl, rfl⟩ := goesOn.of_finished
        rw [List.append_nil, isDeed.deeds_trace,
          ← List.append_nil (effect.trace reply)] at begins
        obtain rfl := isDeed.reply_unique begins
        exact fails _ (congrArg some gives)
  tells := by
    rintro _ _ _ _ value other ⟨reply, rfl, gives⟩
      ⟨otherReply, rfl, givesOther⟩ same
    obtain rfl := isDeed.reply_unique same
    exact ⟨rfl, Except.ok.inj (gives.symm.trans givesOther)⟩

theorem of_send
    (request : Request) :
    (send request).SucceedsBy fun done answer =>
      done = [.sent request (.ok answer)] := by
  apply (of_effect (.send request) trivial fun reply => reply).congr
  intro done answer
  constructor
  · rintro ⟨reply, rfl, rfl⟩
    rfl
  · rintro rfl
    exact ⟨.ok answer, rfl, rfl⟩

theorem of_attempt
    (request : Request) :
    (attempt request).SucceedsBy fun done reply =>
      done = [.sent request reply] := by
  apply (of_effect (.send request) trivial fun reply => .ok reply).congr
  intro done reply
  constructor
  · rintro ⟨reply, rfl, ⟨⟩⟩
    rfl
  · rintro rfl
    exact ⟨reply, rfl, rfl⟩

theorem of_generateKeys :
    generateKeys.SucceedsBy fun done pair =>
      done = [.generated (.ok pair)] := by
  apply (of_effect .generateKeys trivial fun reply => reply).congr
  intro done pair
  constructor
  · rintro ⟨reply, rfl, rfl⟩
    rfl
  · rintro rfl
    exact ⟨.ok pair, rfl, rfl⟩

theorem of_proposeName
    (group : String) :
    (proposeName group).SucceedsBy fun done name =>
      done = [.proposed group name] := by
  apply (of_effect (.proposeName group) trivial fun name => .ok name).congr
  intro done name
  constructor
  · rintro ⟨name, rfl, ⟨⟩⟩
    rfl
  · rintro rfl
    exact ⟨name, rfl, rfl⟩

/--
A sequence succeeds by the course of its first part, and then by that of the
second one.
-/
theorem bind
    {workflow : Workflow α}
    {next : α → Workflow β}
    {first : Course α}
    {second : α → Course β}
    (firstSucceeds : workflow.SucceedsBy first)
    (secondSucceeds : ∀ value, (next value).SucceedsBy (second value)) :
    (workflow >>= next).SucceedsBy (first.andThen second) where
  gives plays := by
    rcases plays.of_bind with
        ⟨value, before, after, firstPlays, secondPlays, rfl⟩ | ⟨_, _, fails⟩
          | ⟨_, cut⟩
    · exact ⟨value, deeds before, deeds after, deeds_append ..,
        firstSucceeds.gives firstPlays,
        (secondSucceeds value).gives secondPlays⟩
    · cases fails
    · cases cut
  misses plays fails begins := by
    rintro ⟨value, before, after, rfl, goes, goesOn⟩
    rw [List.append_assoc] at begins
    rcases plays.of_bind with
        ⟨given, beforeSteps, afterSteps, firstPlays, secondPlays, rfl⟩
          | ⟨_, firstPlays, _⟩ |
        ⟨firstPlays, _⟩
    · rw [deeds_append] at begins
      obtain ⟨same, rfl⟩ :=
        firstSucceeds.tells (firstSucceeds.gives firstPlays) goes begins
      rw [same] at begins
      exact (secondSucceeds given).misses secondPlays fails
        (List.append_cancel_left begins) goesOn
    · exact firstSucceeds.misses firstPlays (by simp) begins goes
    · exact firstSucceeds.misses firstPlays (by simp) begins goes
  tells :=
    Course.IsUnambiguous.andThen firstSucceeds.tells fun value =>
      (secondSucceeds value).tells

/-- The same, where the course of the second part is said and not found out. -/
theorem andThen
    {workflow : Workflow α}
    {next : α → Workflow β}
    {first : Course α}
    (firstSucceeds : workflow.SucceedsBy first)
    (second : α → Course β)
    (secondSucceeds : ∀ value, (next value).SucceedsBy (second value)) :
    (workflow >>= next).SucceedsBy (first.andThen second) :=
  firstSucceeds.bind secondSucceeds

/--
A reading of the clock does not matter to a course that does not depend on
the time.
-/
theorem after_readClock
    {next : Nat → Workflow α}
    {course : Course α}
    (succeeds : ∀ time, (next time).SucceedsBy course) :
    (readClock >>= next).SucceedsBy course where
  gives plays := by
    obtain ⟨time, goesOn⟩ := Plays.of_readClock plays
    exact (succeeds time).gives goesOn
  misses plays := by
    obtain ⟨time, goesOn⟩ := Plays.of_readClock plays
    exact (succeeds time).misses goesOn
  tells := (succeeds 0).tells

/-- What is silent does not matter to a course on which something is done. -/
theorem after_silence
    {workflow : Workflow Unit}
    {next : Unit → Workflow α}
    {course : Course α}
    (silent : ∀ {steps outcome},
      workflow.Plays steps outcome → deeds steps = [])
    (succeeds : (next ()).SucceedsBy course)
    (needsDeeds : ∀ value, ¬ course [] value) :
    (workflow >>= next).SucceedsBy course where
  gives plays := by
    rcases plays.of_bind with
        ⟨_, before, after, firstPlays, secondPlays, rfl⟩ | ⟨_, _, fails⟩
          | ⟨_, cut⟩
    · rw [deeds_append, silent firstPlays]
      exact succeeds.gives secondPlays
    · cases fails
    · cases cut
  misses := by
    intro steps outcome first rest value plays fails begins goes
    have notSilent {outcome : Option (Except Failure Unit)}
        (firstPlays : workflow.Plays steps outcome) : False := by
      rw [silent firstPlays] at begins
      obtain ⟨rfl, -⟩ := List.append_eq_nil_iff.mp begins.symm
      exact needsDeeds _ goes
    rcases plays.of_bind with
        ⟨_, before, after, firstPlays, secondPlays, rfl⟩ | ⟨_, firstPlays, _⟩
          | ⟨firstPlays, _⟩
    · rw [deeds_append, silent firstPlays] at begins
      exact succeeds.misses secondPlays fails begins goes
    · exact notSilent firstPlays
    · exact notSilent firstPlays
  tells := succeeds.tells

end SucceedsBy

end Workflow

end DropletClient
