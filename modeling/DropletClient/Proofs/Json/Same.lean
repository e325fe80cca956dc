import DropletClient.Json.Basic

namespace DropletClient.Json

/-!
# Values that differ in the order of members only

Two values say the same if every look-up in one of them gives the same as in the
other one, at any depth. The order of members does not matter for that, and
neither do members that later ones hide.
-/

mutual

/-- Two values say the same. -/
inductive Same : Json → Json → Prop where
  | refl (value : Json) : Same value value
  | array
      {items others : List Json}
      (same : SameItems items others) :
      Same (.array items) (.array others)
  | object
      {members others : List (String × Json)}
      (same : ∀ name, SameIfAny (lookup name members) (lookup name others)) :
      Same (.object members) (.object others)

/-- Items say the same one by one. -/
inductive SameItems : List Json → List Json → Prop where
  | nil : SameItems [] []
  | cons
      {item other : Json}
      {items others : List Json}
      (first : Same item other)
      (later : SameItems items others) :
      SameItems (item :: items) (other :: others)

/-- What was found says the same, or nothing was found. -/
inductive SameIfAny : Option Json → Option Json → Prop where
  | none : SameIfAny none none
  | some
      {value other : Json}
      (same : Same value other) :
      SameIfAny (some value) (some other)

end

theorem SameItems.refl :
    ∀ items : List Json, SameItems items items
  | [] => .nil
  | item :: rest => .cons (.refl item) (refl rest)

theorem SameIfAny.refl :
    ∀ found : Option Json, SameIfAny found found
  | .none => .none
  | .some value => .some (.refl value)

mutual

theorem Same.trans
    {first second third : Json} :
    Same first second → Same second third → Same first third
  | .refl _, next => next
  | .array same, .refl _ => .array same
  | .array same, .array next => .array (same.trans next)
  | .object same, .refl _ => .object same
  | .object same, .object next =>
      .object fun name => (same name).trans (next name)

theorem SameItems.trans
    {first second third : List Json} :
    SameItems first second → SameItems second third → SameItems first third
  | .nil, .nil => .nil
  | .cons same later, .cons next nextLater =>
      .cons (same.trans next) (later.trans nextLater)

theorem SameIfAny.trans
    {first second third : Option Json} :
    SameIfAny first second → SameIfAny second third → SameIfAny first third
  | .none, .none => .none
  | .some same, .some next => .some (same.trans next)

end

variable {before between after : List (String × Json)} {name other : String}
  {value : Json}

theorem lookup_cons
    (sought : String)
    (member : String × Json)
    (rest : List (String × Json)) :
    lookup sought (member :: rest) =
      (lookup sought rest).or
        (if member.1 = sought then some member.2 else none) := by
  obtain ⟨key, value⟩ := member
  rw [lookup]
  cases lookup sought rest <;> rfl

theorem Same.of_lookup
    {members others : List (String × Json)}
    (same : ∀ name, lookup name members = lookup name others) :
    Same (.object members) (.object others) := by
  refine .object fun name => ?_
  rw [same name]
  exact .refl _

/-- Members with different names may change places. -/
theorem Same.swap
    {first second : String × Json}
    (different : first.1 ≠ second.1) :
    Same (.object (before ++ first :: second :: after))
      (.object (before ++ second :: first :: after)) := by
  refine .of_lookup fun name => ?_
  simp only [lookup_append, lookup_cons, Option.or_assoc]
  by_cases isFirst : first.1 = name
  · have noSecond : ¬ second.1 = name :=
      fun isSecond => different (isFirst.trans isSecond.symm)
    simp only [if_neg noSecond, Option.none_or]
  · simp only [if_neg isFirst, Option.none_or]

/-- A member may be left out in front of one with the same name. -/
theorem Same.hidden
    {shown : Json} :
    Same
      (.object (before ++ (name, value) :: (between ++ (name, shown) :: after)))
      (.object (before ++ (between ++ (name, shown) :: after))) := by
  refine .of_lookup fun sought => ?_
  simp only [lookup_append, lookup_cons, Option.or_assoc]
  by_cases isName : name = sought
  · simp only [if_pos isName, Option.some_or]
  · simp only [if_neg isName, Option.none_or]

theorem SameIfAny.or
    {first firstOther second secondOther : Option Json} :
    SameIfAny first firstOther → SameIfAny second secondOther →
      SameIfAny (first.or second) (firstOther.or secondOther)
  | .none, next => by simpa using next
  | .some same, _ => .some same

/-- The value of a member may be replaced by one that says the same. -/
theorem Same.member
    {newValue : Json}
    (same : Same value newValue) :
    Same (.object (before ++ (name, value) :: after))
      (.object (before ++ (name, newValue) :: after)) := by
  refine .object fun sought => ?_
  simp only [lookup_append, lookup_cons]
  refine .or (.or (.refl _) ?_) (.refl _)
  by_cases isName : name = sought
  · rw [if_pos isName, if_pos isName]
    exact .some same
  · rw [if_neg isName, if_neg isName]
    exact .none

/-- An item may be replaced by one that says the same. -/
theorem SameItems.item
    {before after : List Json}
    {newValue : Json}
    (same : Same value newValue) :
    SameItems (before ++ value :: after) (before ++ newValue :: after) := by
  induction before with
  | nil => exact .cons same (.refl after)
  | cons first rest inductionHypothesis =>
      exact .cons (.refl first) inductionHypothesis

end DropletClient.Json
