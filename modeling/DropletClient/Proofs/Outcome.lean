namespace DropletClient.Outcome

/-!
# Outcomes of steps in sequence

A sequence of steps that may fail succeeds exactly if every step does.
-/

variable {step : Except ε α} {next : α → Except ε β}

theorem ok_bind
    (value : α)
    (next : α → Except ε β) :
    (Except.ok value >>= next) = next value :=
  rfl

/-- A sequence succeeds if its first step does, and the rest after it. -/
theorem bind_eq_ok
    {value : β} :
    (step >>= next) = .ok value ↔
      ∃ middle, step = .ok middle ∧ next middle = .ok value := by
  cases step with
  | error failure => simp [bind, Except.bind]
  | ok middle => simp [bind, Except.bind]

theorem map_eq_ok
    {change : α → β}
    {value : β} :
    step.map change = .ok value ↔
      ∃ middle, step = .ok middle ∧ change middle = value := by
  cases step with
  | error failure => simp [Except.map]
  | ok middle => simp [Except.map]

end DropletClient.Outcome
