import DropletClient.Proofs.Text.Run

namespace DropletClient.Text

/-!
# Patterns

A pattern matches the start of a text in several ways, of which it prefers some
to others: a run is rather longer than shorter, and what is optional is rather
there than not. A search takes the preferred match at the first place of a text
that has one.
-/

/-- A pattern of characters. -/
inductive Pattern where
  | one (accepts : Char → Bool)
  | run (accepts : Char → Bool)
  | optional (pattern : Pattern)
  | sequence (first second : Pattern)

namespace Pattern

/--
The parts of a run that a text can begin with, and what follows them, the
longest first.
-/
def runCandidates
    (accepts : Char → Bool) :
    List Char → List (List Char × List Char)
  | [] => []
  | character :: rest =>
      if accepts character then
        (runCandidates accepts rest).map
            (fun (part, after) => (character :: part, after)) ++
          [([character], rest)]
      else
        []

/--
The matches at the start of a text, and what follows them, the preferred
one first.
-/
def candidates : Pattern → List Char → List (List Char × List Char)
  | .one _, [] => []
  | .one accepts, character :: rest =>
      if accepts character then [([character], rest)] else []
  | .run accepts, text => runCandidates accepts text
  | .optional pattern, text => pattern.candidates text ++ [([], text)]
  | .sequence first second, text =>
      (first.candidates text).flatMap fun (front, rest) =>
        (second.candidates rest).map fun (back, after) => (front ++ back, after)

/-- The preferred match at the first place of a text that has one. -/
def find? (pattern : Pattern) : List Char → Option (List Char)
  | [] => (pattern.candidates []).head?.map Prod.fst
  | character :: rest =>
      match (pattern.candidates (character :: rest)).head? with
      | some (found, _) => some found
      | none => pattern.find? rest

variable {accepts : Char → Bool} {pattern first second : Pattern}
  {text run after : List Char}

theorem mem_candidates_one
    {found : List Char} :
    (found, after) ∈ (one accepts).candidates text ↔
      ∃ character, accepts character = true ∧ found = [character] ∧
        text = character :: after := by
  cases text with
  | nil => simp [candidates]
  | cons character rest =>
      rw [candidates]
      split
      case isTrue accepted =>
        simp only [List.mem_singleton, Prod.mk.injEq, List.cons.injEq]
        constructor
        · rintro ⟨rfl, rfl⟩
          exact ⟨character, accepted, rfl, rfl, rfl⟩
        · rintro ⟨_, -, rfl, rfl, rfl⟩
          exact ⟨rfl, rfl⟩
      case isFalse refused =>
        refine iff_of_false List.not_mem_nil ?_
        rintro ⟨_, accepted, -, shape⟩
        obtain ⟨rfl, -⟩ := List.cons.inj shape
        exact refused accepted

/-- A sequence matches as its parts do, one behind the other. -/
theorem mem_candidates_sequence
    {found : List Char} :
    (found, after) ∈ (sequence first second).candidates text ↔
      ∃ front rest back,
        (front, rest) ∈ first.candidates text ∧
          (back, after) ∈ second.candidates rest ∧
          found = front ++ back := by
  simp only [candidates, List.mem_flatMap, List.mem_map, Prod.exists,
    Prod.mk.injEq]
  constructor
  · rintro ⟨front, rest, begins, back, _, goesOn, rfl, rfl⟩
    exact ⟨front, rest, back, begins, goesOn, rfl⟩
  · rintro ⟨front, rest, back, begins, goesOn, rfl⟩
    exact ⟨front, rest, begins, back, after, goesOn, rfl, rfl⟩

/-- No run begins where a text does not go on with an accepted character. -/
theorem candidates_run_of_ended
    (ended : ∀ next ∈ text.head?, accepts next = false) :
    (Pattern.run accepts).candidates text = [] := by
  rw [candidates]
  cases text with
  | nil => rfl
  | cons next rest =>
      have refused : ¬ accepts next = true := by simp [ended next rfl]
      rw [runCandidates, if_neg refused]

/-- The whole run is the preferred one. -/
theorem head?_candidates_run
    (isRun : IsRun accepts run after)
    (nonempty : run ≠ []) :
    ((Pattern.run accepts).candidates (run ++ after)).head? =
      some (run, after) := by
  induction run with
  | nil => exact absurd rfl nonempty
  | cons character later inductionHypothesis =>
      obtain ⟨acceptedHere, acceptedLater⟩ :=
        List.forall_mem_cons.mp isRun.accepted
      rw [candidates] at inductionHypothesis ⊢
      rw [List.cons_append, runCandidates, if_pos acceptedHere,
        List.head?_append, List.head?_map]
      by_cases last : later = []
      · subst last
        have noMore : runCandidates accepts after = [] :=
          candidates_run_of_ended isRun.ended
        rw [List.nil_append, noMore]
        rfl
      · rw [inductionHypothesis ⟨acceptedLater, isRun.ended⟩ last]
        rfl

theorem head?_candidates_optional
    (pattern : Pattern)
    (text : List Char) :
    ((optional pattern).candidates text).head? =
      some ((pattern.candidates text).head?.getD ([], text)) := by
  rw [candidates, List.head?_append]
  cases (pattern.candidates text).head? <;> rfl

/--
A sequence prefers what its parts prefer, if the second one matches behind
the first.
-/
theorem head?_candidates_sequence
    {front rest back : List Char}
    (begins : (first.candidates text).head? = some (front, rest))
    (goesOn : (second.candidates rest).head? = some (back, after)) :
    ((sequence first second).candidates text).head? =
      some (front ++ back, after) := by
  obtain ⟨others, shape⟩ := List.head?_eq_some_iff.mp begins
  rw [candidates, shape, List.flatMap_cons, List.head?_append,
    List.head?_map, goesOn]
  rfl

/-- A search finds what the pattern prefers where it begins to match. -/
theorem find?_of_head?
    {found : List Char}
    (matches? : (pattern.candidates text).head? = some (found, after)) :
    pattern.find? text = some found := by
  cases text with
  | nil => rw [find?, matches?]; rfl
  | cons character rest => rw [find?, matches?]

/-- A search goes on behind a character at which nothing begins to match. -/
theorem find?_cons
    {character : Char}
    (nothing : pattern.candidates (character :: text) = []) :
    pattern.find? (character :: text) = pattern.find? text := by
  rw [find?, nothing]
  rfl

end Pattern

end DropletClient.Text
