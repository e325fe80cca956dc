namespace DropletClient.Text

/-!
# Runs of characters

A run is a part of a text with accepted characters only, which does not go on
behind it. What a text begins with and what follows that are told apart in this
way only: `IsRun.takeWhile_eq` and `IsRun.dropWhile_eq`.
-/

/-- Accepted characters in front of a text that does not go on with one. -/
structure IsRun (accepts : Char → Bool) (run after : List Char) : Prop where
  accepted : ∀ character ∈ run, accepts character = true
  ended : ∀ next ∈ after.head?, accepts next = false

variable {accepts : Char → Bool} {run after : List Char}

/-- Every text begins with a run, which may be empty. -/
theorem isRun_takeWhile
    (accepts : Char → Bool)
    (text : List Char) :
    IsRun accepts (text.takeWhile accepts) (text.dropWhile accepts) where
  accepted := List.all_eq_true.mp List.all_takeWhile
  ended := by
    intro next isNext
    have ends := List.head?_dropWhile_not accepts text
    rw [Option.mem_def.mp isNext] at ends
    exact ends

theorem exists_isRun
    (accepts : Char → Bool)
    (text : List Char) :
    ∃ run after, text = run ++ after ∧ IsRun accepts run after :=
  ⟨_, _, List.takeWhile_append_dropWhile.symm, isRun_takeWhile accepts text⟩

/--
A run in front of which nothing stands holds the first character, if that is
accepted.
-/
theorem IsRun.ne_nil
    {character : Char}
    {rest : List Char}
    (isRun : IsRun accepts run after)
    (shape : character :: rest = run ++ after)
    (accepted : accepts character = true) :
    run ≠ [] := by
  rintro rfl
  have refused :=
    isRun.ended character (by rw [← List.nil_append after, ← shape]; rfl)
  cases accepted.symm.trans refused

theorem dropWhile_of_ended
    (ended : ∀ next ∈ after.head?, accepts next = false) :
    after.dropWhile accepts = after := by
  cases after with
  | nil => rfl
  | cons next rest =>
      have refused : ¬ accepts next = true := by simp [ended next rfl]
      rw [List.dropWhile_cons, if_neg refused]

theorem takeWhile_of_ended
    (ended : ∀ next ∈ after.head?, accepts next = false) :
    after.takeWhile accepts = [] := by
  cases after with
  | nil => rfl
  | cons next rest =>
      have refused : ¬ accepts next = true := by simp [ended next rfl]
      rw [List.takeWhile_cons, if_neg refused]

/-- A run is what a text begins with, as far as its characters are accepted. -/
theorem IsRun.takeWhile_eq
    (isRun : IsRun accepts run after) :
    (run ++ after).takeWhile accepts = run := by
  rw [List.takeWhile_append_of_pos isRun.accepted,
    takeWhile_of_ended isRun.ended, List.append_nil]

theorem IsRun.dropWhile_eq
    (isRun : IsRun accepts run after) :
    (run ++ after).dropWhile accepts = after := by
  rw [List.dropWhile_append_of_pos isRun.accepted,
    dropWhile_of_ended isRun.ended]

end DropletClient.Text
