import DropletClient.Proofs.Compute.Sharing
import DropletClient.Proofs.Position

namespace DropletClient.Provisioner

/-!
# Credentials are provisioned once

However many callers share a provisioner, there is one attempt at a time, none
of them after the first that succeeds, and all callers get what that attempt
gave: `credentials_are_provisioned_once`.
-/

/-- A call that was answered with default credentials. -/
def Visit.Provides (visit : Visit) : Prop :=
  visit.call.own? = none ∧ ∃ answer, visit.outcome = .ok answer

/-- All that was done by the calls on a shared provisioner, in this order. -/
def Shared.steps (shared : Shared) : List Step :=
  shared.visits.flatMap Visit.steps ++ (shared.turn.map Turn.done).getD []

/-- What holds of a shared provisioner at every moment. -/
structure ProvisionsOnce (shared : Shared) : Prop where
  /--
  An image with credentials of its own gets just those, and nothing is
  done for it.
  -/
  own :
    ∀ visit ∈ shared.visits, ∀ credentials,
      visit.call.own? = some credentials →
      visit.steps = [] ∧ visit.outcome = .ok (.login credentials)
  /--
  Before the first success every other call makes one attempt, and ends as the
  attempt does.
  -/
  attempted :
    ∀ {before visit after},
      shared.visits = before ++ visit :: after →
      visit.call.own? = none →
      (∀ earlier ∈ before, ¬ earlier.Provides) →
      ∃ result,
        Attempt visit.steps result ∧
          visit.outcome = result.map fun credentials =>
            visit.call.answerWith credentials
  /-- Failed attempts leave nothing behind. -/
  untouched :
    (∀ visit ∈ shared.visits, ¬ visit.Provides) → shared.provisioner = empty
  /--
  From the first success on, nothing is done any more, and the same credentials
  are given.
  -/
  kept :
    ∀ {before visit after},
      shared.visits = before ++ visit :: after →
      visit.Provides →
      ∃ credentials,
        shared.provisioner.cached = some credentials ∧
          shared.turn = none ∧
          visit.outcome = .ok (visit.call.answerWith credentials) ∧
          ∀ later ∈ after,
            later.steps = [] ∧
              (later.call.own? = none →
                later.outcome = .ok (later.call.answerWith credentials))
  /--
  A call has its turn only while there are no credentials, and has begun
  an attempt.
  -/
  begun :
    ∀ {turn},
      shared.turn = some turn →
      shared.provisioner = empty ∧
        turn.call.own? = none ∧
        ∃ later result, Attempt (turn.done ++ later) result
  /-- No more than one key is ever registered. -/
  once : shared.steps.countP isRegistration ≤ 1
  /--
  The private half that is kept was generated with the public half that was
  registered.
  -/
  paired :
    ∀ {credentials},
      shared.provisioner.cached = some credentials →
      ∃ visit ∈ shared.visits, ∃ pair name,
        Attempt visit.steps (.ok credentials) ∧
          .generated (.ok pair) ∈ visit.steps ∧
          .sent (.createKey name pair.publicKey) (.ok credentials.key) ∈
            visit.steps ∧
          credentials.credentials = ⟨defaultUser, some pair.privateKey⟩

theorem eq_empty_of_cached
    {provisioner : Provisioner}
    (nothing : provisioner.cached = none) :
    provisioner = empty := by
  obtain ⟨cached⟩ := provisioner
  cases nothing
  rfl

namespace Progress

variable {visits : List Visit} {kept : Option DefaultCredentials}

/-- Nothing is said of calls for images without credentials of their own. -/
private theorem given_of_foreign
    {visit : Visit}
    (foreign : visit.call.own? = none) :
    ∀ credentials,
      visit.call.own? = some credentials →
      visit.steps = [] ∧ visit.outcome = .ok (.login credentials) := by
  intro credentials own
  cases own.symm.trans foreign

theorem own
    (progress : Progress visits kept) :
    ∀ visit ∈ visits, ∀ credentials,
      visit.call.own? = some credentials →
      visit.steps = [] ∧ visit.outcome = .ok (.login credentials) := by
  induction progress with
  | start => exact List.forall_mem_nil _
  | served _ own inductionHypothesis =>
      refine List.forall_mem_append.mpr ⟨inductionHypothesis, ?_⟩
      rw [List.forall_mem_singleton]
      intro credentials same
      cases own.symm.trans same
      exact ⟨rfl, rfl⟩
  | failed _ foreign _ inductionHypothesis =>
      refine List.forall_mem_append.mpr ⟨inductionHypothesis, ?_⟩
      exact List.forall_mem_singleton.mpr (given_of_foreign foreign)
  | provided _ foreign _ inductionHypothesis =>
      refine List.forall_mem_append.mpr ⟨inductionHypothesis, ?_⟩
      exact List.forall_mem_singleton.mpr (given_of_foreign foreign)
  | reused _ foreign inductionHypothesis =>
      refine List.forall_mem_append.mpr ⟨inductionHypothesis, ?_⟩
      exact List.forall_mem_singleton.mpr (given_of_foreign foreign)

/-- Credentials that are kept were given to a call by an attempt. -/
theorem exists_provides
    {credentials : DefaultCredentials}
    (progress : Progress visits (some credentials)) :
    ∃ visit ∈ visits,
      visit.Provides ∧ Attempt visit.steps (.ok credentials) := by
  generalize isKept : some credentials = kept at progress
  induction progress with
  | start => cases isKept
  | served _ _ inductionHypothesis =>
      obtain ⟨visit, member, provides⟩ := inductionHypothesis isKept
      exact ⟨visit, List.mem_append_left _ member, provides⟩
  | failed => cases isKept
  | provided _ foreign attempt =>
      cases isKept
      exact ⟨_, List.mem_concat_self, ⟨foreign, _, rfl⟩, attempt⟩
  | reused _ _ inductionHypothesis =>
      obtain ⟨visit, member, provides⟩ := inductionHypothesis isKept
      exact ⟨visit, List.mem_append_left _ member, provides⟩

theorem attempted
    {before after : List Visit}
    {visit : Visit}
    (progress : Progress visits kept)
    (shape : visits = before ++ visit :: after)
    (foreign : visit.call.own? = none)
    (nothingYet : ∀ earlier ∈ before, ¬ earlier.Provides) :
    ∃ result,
      Attempt visit.steps result ∧
        visit.outcome = result.map fun credentials =>
          visit.call.answerWith credentials := by
  induction progress generalizing before after with
  | start => simp at shape
  | served _ own inductionHypothesis =>
      rcases Position.split_snoc shape with ⟨rest, earlier, _⟩ | ⟨_, rfl, _⟩
      · exact inductionHypothesis earlier nothingYet
      · cases own.symm.trans foreign
  | failed _ _ attempt inductionHypothesis =>
      rcases Position.split_snoc shape with ⟨rest, earlier, _⟩ | ⟨_, rfl, _⟩
      · exact inductionHypothesis earlier nothingYet
      · exact ⟨_, attempt, rfl⟩
  | provided _ _ attempt inductionHypothesis =>
      rcases Position.split_snoc shape with ⟨rest, earlier, _⟩ | ⟨_, rfl, _⟩
      · exact inductionHypothesis earlier nothingYet
      · exact ⟨_, attempt, rfl⟩
  | reused progress _ inductionHypothesis =>
      rcases Position.split_snoc shape with ⟨rest, earlier, _⟩ | ⟨rfl, _, _⟩
      · exact inductionHypothesis earlier nothingYet
      · -- what is used again was provided to an earlier call
        obtain ⟨earlier, member, provides, _⟩ := progress.exists_provides
        exact absurd provides (nothingYet earlier member)

theorem kept_of_provides
    {before after : List Visit}
    {visit : Visit}
    (progress : Progress visits kept)
    (shape : visits = before ++ visit :: after)
    (provides : visit.Provides) :
    ∃ credentials,
      kept = some credentials ∧
        visit.outcome = .ok (visit.call.answerWith credentials) ∧
        ∀ later ∈ after,
          later.steps = [] ∧
            (later.call.own? = none →
              later.outcome = .ok (later.call.answerWith credentials)) := by
  obtain ⟨foreign, answer, succeeds⟩ := provides
  induction progress generalizing before after with
  | start => simp at shape
  | served _ own inductionHypothesis =>
      rcases Position.split_snoc shape with ⟨rest, earlier, rfl⟩ | ⟨_, rfl, _⟩
      · obtain ⟨credentials, isKept, same, still⟩ := inductionHypothesis earlier
        refine ⟨credentials, isKept, same,
          List.forall_mem_append.mpr ⟨still, ?_⟩⟩
        rw [List.forall_mem_singleton]
        exact ⟨rfl,
          fun needy => absurd (own.symm.trans needy) (Option.some_ne_none _)⟩
      · cases own.symm.trans foreign
  | failed _ _ _ inductionHypothesis =>
      rcases Position.split_snoc shape with ⟨rest, earlier, _⟩ | ⟨_, rfl, _⟩
      · obtain ⟨credentials, isKept, _⟩ := inductionHypothesis earlier
        cases isKept
      · cases succeeds
  | provided _ _ _ inductionHypothesis =>
      rcases Position.split_snoc shape with ⟨rest, earlier, _⟩ | ⟨_, rfl, rfl⟩
      · obtain ⟨credentials, isKept, _⟩ := inductionHypothesis earlier
        cases isKept
      · exact ⟨_, rfl, rfl, List.forall_mem_nil _⟩
  | reused _ _ inductionHypothesis =>
      rcases Position.split_snoc shape with ⟨rest, earlier, rfl⟩ | ⟨_, rfl, rfl⟩
      · obtain ⟨credentials, isKept, same, still⟩ := inductionHypothesis earlier
        cases isKept
        refine ⟨_, rfl, same, List.forall_mem_append.mpr ⟨still, ?_⟩⟩
        rw [List.forall_mem_singleton]
        exact ⟨rfl, fun _ => rfl⟩
      · exact ⟨_, rfl, rfl, List.forall_mem_nil _⟩

/--
There was one registration if there are credentials, and none if there are not.
-/
theorem countP_isRegistration
    (progress : Progress visits kept) :
    (visits.flatMap Visit.steps).countP isRegistration =
      kept.toList.length := by
  induction progress with
  | start => rfl
  | served _ _ inductionHypothesis =>
      simpa using inductionHypothesis
  | failed _ _ attempt inductionHypothesis =>
      simp [List.flatMap_append, inductionHypothesis, attempt.countP_of_error]
  | provided _ _ attempt inductionHypothesis =>
      simp [List.flatMap_append, inductionHypothesis, attempt.countP_of_ok]
  | reused _ _ inductionHypothesis =>
      simpa using inductionHypothesis

end Progress

/-- What is sound holds of a shared provisioner at every moment. -/
theorem provisionsOnce_of_isSound
    {shared : Shared}
    (sound : IsSound shared) :
    ProvisionsOnce shared where
  own := sound.progress.own
  attempted := sound.progress.attempted
  untouched noneProvides := by
    cases isKept : shared.provisioner.cached with
    | none => exact eq_empty_of_cached isKept
    | some credentials =>
        have progress := sound.progress
        rw [isKept] at progress
        obtain ⟨visit, member, provides, _⟩ := progress.exists_provides
        exact absurd provides (noneProvides visit member)
  kept shape provides := by
    obtain ⟨credentials, isKept, same, still⟩ :=
      sound.progress.kept_of_provides shape provides
    refine ⟨credentials, isKept, ?_, same, still⟩
    cases isTurn : shared.turn with
    | none => rfl
    | some turn => cases isKept.symm.trans (sound.atTurn isTurn).1
  begun isTurn := by
    obtain ⟨nothing, isAttempt⟩ := sound.atTurn isTurn
    exact ⟨eq_empty_of_cached nothing, isAttempt.foreign, isAttempt.begun⟩
  once := by
    have visits := sound.progress.countP_isRegistration
    rw [Shared.steps, List.countP_append, visits]
    cases isTurn : shared.turn with
    | none => cases shared.provisioner.cached <;> simp
    | some turn =>
        obtain ⟨nothing, isAttempt⟩ := sound.atTurn isTurn
        obtain ⟨later, result, attempt⟩ := isAttempt.begun
        have whole := attempt.countP_le_one
        rw [List.countP_append] at whole
        have begun : turn.done.countP isRegistration ≤ 1 :=
          Nat.le_of_add_right_le whole
        simpa [nothing] using begun
  paired isKept := by
    have progress := sound.progress
    rw [isKept] at progress
    obtain ⟨visit, member, _, attempt⟩ := progress.exists_provides
    obtain ⟨pair, name, generated, registered, login⟩ := attempt.exists_pair
    exact ⟨visit, member, pair, name, attempt, generated, registered, login⟩

/--
Calls that follow one on the other in a world: their outcomes, and what is
left behind.
-/
def serve
    (world : World σ) :
    List Call → Provisioner → Session σ →
      List (Option (Except Failure Answer)) × Provisioner × Session σ
  | [], provisioner, session => ([], provisioner, session)
  | call :: rest, provisioner, session =>
      let (outcome, later) := (call.workflow provisioner).run world session
      let kept := match outcome with
        | some (.ok (_, kept)) => kept
        | _ => provisioner
      let (outcomes, final) := serve world rest kept later
      (outcome.map (·.map Prod.fst) :: outcomes, final)

/-- A turn can be played to its end. -/
theorem reached_of_plays
    {provisioner : Provisioner}
    {visits : List Visit}
    {call : Call}
    {done steps : List Step}
    {rest : Workflow (Answer × Provisioner)}
    {outcome : Except Failure (Answer × Provisioner)}
    (reached : Reached ⟨provisioner, some ⟨call, done, rest⟩, visits⟩)
    (plays : rest.Plays steps (some outcome)) :
    Reached
      ⟨(outcome.toOption.map Prod.snd).getD provisioner, none,
        visits ++ [⟨call, done ++ steps, outcome.map Prod.fst⟩]⟩ := by
  generalize ends : some outcome = ending at plays
  induction plays generalizing done with
  | finished result =>
      cases ends
      rw [List.append_nil]
      cases outcome with
      | ok value => exact reached.moves (.succeeds rfl)
      | error failure => exact reached.moves (.fails rfl)
  | unfinished => cases ends
  | @perform effect next reply later _ _ inductionHypothesis =>
      rw [← List.append_assoc]
      exact inductionHypothesis (reached.moves (.acts reply rfl)) ends

/--
A call that nobody else gets in the way of leads from one reachable state
to another.
-/
theorem reached_of_workflow_plays
    {provisioner : Provisioner}
    {visits : List Visit}
    {call : Call}
    {steps : List Step}
    {outcome : Option (Except Failure (Answer × Provisioner))}
    (reached : Reached ⟨provisioner, none, visits⟩)
    (plays : (call.workflow provisioner).Plays steps outcome) :
    ∃ result,
      outcome = some result ∧
        Reached
          ⟨(result.toOption.map Prod.snd).getD provisioner, none,
            visits ++ [⟨call, steps, result.map Prod.fst⟩]⟩ := by
  have atOnce {answer : Answer}
      (ready :
        call.workflow provisioner = .finished (.ok (answer, provisioner))) :
      ∃ result,
        outcome = some result ∧
          Reached
            ⟨(result.toOption.map Prod.snd).getD provisioner, none,
              visits ++ [⟨call, steps, result.map Prod.fst⟩]⟩ := by
    rw [ready] at plays
    obtain ⟨rfl, rfl⟩ := plays.of_finished
    exact ⟨_, rfl, reached.moves (.answersAtOnce ready)⟩
  cases own : call.own? with
  | some credentials => exact atOnce (Call.workflow_of_own? own provisioner)
  | none =>
      obtain ⟨cached⟩ := provisioner
      cases cached with
      | some credentials =>
          exact atOnce (Call.workflow_of_cached own credentials)
      | none =>
          obtain ⟨result, _, rfl⟩ := Call.attempt_of_workflow_plays own plays
          exact ⟨_, rfl,
            reached_of_plays (reached.moves (.takesTurn own rfl rfl)) plays⟩

/--
Calls that follow one on the other lead from one reachable state to another.
-/
theorem reached_serve
    (world : World σ)
    (calls : List Call)
    {provisioner : Provisioner}
    {visits : List Visit}
    (reached : Reached ⟨provisioner, none, visits⟩)
    (session : Session σ) :
    ∃ added,
      Reached
          ⟨(serve world calls provisioner session).2.1, none, visits ++ added⟩ ∧
        added.map Visit.call = calls ∧
        (serve world calls provisioner session).1 =
          added.map (some ∘ Visit.outcome) ∧
        (serve world calls provisioner session).2.2.history =
          (added.flatMap Visit.steps).reverse ++ session.history := by
  induction calls generalizing provisioner visits session with
  | nil => exact ⟨[], by simpa [serve] using reached, rfl, rfl, rfl⟩
  | cons call rest inductionHypothesis =>
      obtain ⟨steps, reaches, plays⟩ :=
        Workflow.run_plays world (call.workflow provisioner) session
      obtain ⟨result, isResult, reachedNext⟩ :=
        reached_of_workflow_plays reached plays
      cases runs : (call.workflow provisioner).run world session with
      | mk outcome later =>
          rw [runs] at reaches isResult
          cases isResult
          have serves :
              serve world (call :: rest) provisioner session =
                let (outcomes, final) :=
                  serve world rest
                    ((result.toOption.map Prod.snd).getD provisioner) later
                (some (result.map Prod.fst) :: outcomes, final) := by
            simp only [serve, runs]
            cases result <;> rfl
          have past : later.history = steps.reverse ++ session.history :=
            reaches.history
          obtain ⟨added, reachedLast, areCalls, outcomes, history⟩ :=
            inductionHypothesis reachedNext later
          rw [List.append_assoc] at reachedLast
          rw [serves]
          refine ⟨⟨call, steps, result.map Prod.fst⟩ :: added, reachedLast,
            ?_, ?_, ?_⟩
          · rw [List.map_cons, areCalls]
          · simp only [outcomes, List.map_cons, Function.comp_apply]
          · simp only [history, past, List.flatMap_cons, List.reverse_append,
              List.append_assoc]

/--
Default credentials are provisioned once. This holds in every state of a shared
provisioner, however its callers get in between each other and whatever the
replies are; and calls that follow one on the other in a world are answered as
on a shared provisioner, with the same steps.
-/
theorem credentials_are_provisioned_once :
    (∀ shared, Reached shared → ProvisionsOnce shared) ∧
      ∀ {σ : Type} (world : World σ) (session : Session σ) (calls : List Call),
        ∃ shared,
          Reached shared ∧
            shared.turn = none ∧
            shared.provisioner = (serve world calls empty session).2.1 ∧
            shared.visits.map Visit.call = calls ∧
            (serve world calls empty session).1 =
              shared.visits.map (some ∘ Visit.outcome) ∧
            (serve world calls empty session).2.2.history =
              shared.steps.reverse ++ session.history := by
  refine
    ⟨fun shared reached =>
      provisionsOnce_of_isSound (isSound_of_reached reached),
    fun world session calls => ?_⟩
  obtain ⟨visits, reached, areCalls, outcomes, history⟩ :=
    reached_serve world calls .start session
  refine ⟨_, reached, rfl, rfl, areCalls, outcomes, ?_⟩
  rw [history]
  simp [Shared.steps]

end DropletClient.Provisioner
