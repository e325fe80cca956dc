import DropletClient.Proofs.Json.Same
import DropletClient.Proofs.Json.Spelling

namespace DropletClient.Json.Spelling

/-!
# Other arrangements of the same value

Members of an object may stand in another order if no name is repeated among
them, and a member may be left out if a later one has the same name. Such
changes can be made to any object in a spelling, any number of times; the values
that are read say the same.
-/

variable {spelling other : Spelling} {members others : List (Quoted × Spelling)}
  {change : List (Quoted × Spelling) → List (Quoted × Spelling) → Prop}

/--
The members of some objects are changed, at any depth and any number of times.
-/
inductive Rewrites
    (change : List (Quoted × Spelling) → List (Quoted × Spelling) → Prop) :
    Spelling → Spelling → Prop where
  | refl (spelling : Spelling) : Rewrites change spelling spelling
  | trans
      {spelling middle other : Spelling}
      (first : Rewrites change spelling middle)
      (later : Rewrites change middle other) :
      Rewrites change spelling other
  | object
      {members others : List (Quoted × Spelling)}
      (changes : change members others) :
      Rewrites change (.object members) (.object others)
  | item
      {before after : List Spelling}
      {item other : Spelling}
      (rewrites : Rewrites change item other) :
      Rewrites change (.array (before ++ item :: after))
        (.array (before ++ other :: after))
  | member
      {before after : List (Quoted × Spelling)}
      {name : Quoted}
      {value other : Spelling}
      (rewrites : Rewrites change value other) :
      Rewrites change (.object (before ++ (name, value) :: after))
        (.object (before ++ (name, other) :: after))

/-- No two members have the same name. -/
def NamesDiffer (members : List (Quoted × Spelling)) : Prop :=
  members.Pairwise fun first second =>
    ∀ name, first.1.text? = some name → second.1.text? ≠ some name

/-- Members without repeated names stand in another order. -/
structure Permutes (members others : List (Quoted × Spelling)) : Prop where
  namesDiffer : NamesDiffer members
  order : members.Perm others

/-- A member is left out that a later one with the same name hides. -/
inductive Uncovers :
    List (Quoted × Spelling) → List (Quoted × Spelling) → Prop where
  | drop
      {before between after : List (Quoted × Spelling)}
      {name again : Quoted}
      {hidden shown : Spelling}
      (sameName : name.text? = again.text?) :
      Uncovers
        (before ++ (name, hidden) :: (between ++ (again, shown) :: after))
        (before ++ (between ++ (again, shown) :: after))

section Parts

variable {depth : Nat}

theorem readItems?_cons
    {item : Spelling}
    {rest : List Spelling}
    {values : List Json} :
    readItems? depth (item :: rest) = some values ↔
      ∃ value later,
        item.read? depth = some value ∧
          readItems? depth rest = some later ∧ values = value :: later := by
  simp only [readItems?, Option.bind_eq_bind, Option.bind_eq_some_iff,
    Option.some.injEq, @eq_comm _ _ values]
  simp only [exists_and_left]

theorem readMembers?_cons
    {name : Quoted}
    {spelling : Spelling}
    {rest : List (Quoted × Spelling)}
    {values : List (String × Json)} :
    readMembers? depth ((name, spelling) :: rest) = some values ↔
      ∃ text value later,
        name.text? = some text ∧
          spelling.read? depth = some value ∧
          readMembers? depth rest = some later ∧
          values = (text, value) :: later := by
  simp only [readMembers?, Option.bind_eq_bind, Option.bind_eq_some_iff,
    Option.some.injEq, @eq_comm _ _ values]
  simp only [exists_and_left]

theorem readItems?_append
    {first second : List Spelling}
    {values : List Json} :
    readItems? depth (first ++ second) = some values ↔
      ∃ before after,
        readItems? depth first = some before ∧
          readItems? depth second = some after ∧ values = before ++ after := by
  induction first generalizing values with
  | nil => simp [readItems?]
  | cons item rest inductionHypothesis =>
      simp only [List.cons_append, readItems?_cons, inductionHypothesis]
      constructor
      · rintro ⟨value, _, isValue, ⟨before, after, isBefore, isAfter, rfl⟩, rfl⟩
        exact ⟨value :: before, after, ⟨value, before, isValue, isBefore, rfl⟩,
          isAfter, rfl⟩
      · rintro ⟨_, after, ⟨value, before, isValue, isBefore, rfl⟩, isAfter, rfl⟩
        exact ⟨value, before ++ after, isValue,
          ⟨before, after, isBefore, isAfter, rfl⟩, rfl⟩

theorem readMembers?_append
    {first second : List (Quoted × Spelling)}
    {values : List (String × Json)} :
    readMembers? depth (first ++ second) = some values ↔
      ∃ before after,
        readMembers? depth first = some before ∧
          readMembers? depth second = some after ∧
          values = before ++ after := by
  induction first generalizing values with
  | nil => simp [readMembers?]
  | cons member rest inductionHypothesis =>
      obtain ⟨name, spelling⟩ := member
      simp only [List.cons_append, readMembers?_cons, inductionHypothesis]
      constructor
      · rintro ⟨text, value, _, isText, isValue,
          ⟨before, after, isBefore, isAfter, rfl⟩, rfl⟩
        exact ⟨(text, value) :: before, after,
          ⟨text, value, before, isText, isValue, isBefore, rfl⟩, isAfter, rfl⟩
      · rintro ⟨_, after, ⟨text, value, before, isText, isValue, isBefore, rfl⟩,
          isAfter, rfl⟩
        exact ⟨text, value, before ++ after, isText, isValue,
          ⟨before, after, isBefore, isAfter, rfl⟩, rfl⟩

theorem read?_array
    {items : List Spelling}
    {value : Json} :
    (array items).read? depth = some value ↔
      depth < greatestDepth ∧
        ∃ values, readItems? (depth + 1) items = some values ∧
        .array values = value := by
  rw [read?]
  split
  case isTrue inside => simp [inside, Option.map_eq_some_iff]
  case isFalse outside => simp [outside]

theorem read?_object
    {members : List (Quoted × Spelling)}
    {value : Json} :
    (object members).read? depth = some value ↔
      depth < greatestDepth ∧
        ∃ values, readMembers? (depth + 1) members = some values ∧
        .object values = value := by
  rw [read?]
  split
  case isTrue inside => simp [inside, Option.map_eq_some_iff]
  case isFalse outside => simp [outside]

end Parts

/-- A change of members leaves what an object says. -/
def Keeps
    (change : List (Quoted × Spelling) → List (Quoted × Spelling) → Prop) :
    Prop :=
  ∀ members others,
    change members others →
      ∀ depth values,
        readMembers? depth members = some values →
          ∃ otherValues,
            readMembers? depth others = some otherValues ∧
              Same (.object values) (.object otherValues)

/--
If a change leaves what an object says, then many such changes do, at any depth.
-/
theorem Rewrites.same
    (keeps : Keeps change)
    (rewrites : Rewrites change spelling other)
    {depth : Nat}
    {value : Json}
    (reads : spelling.read? depth = some value) :
    ∃ otherValue,
      other.read? depth = some otherValue ∧ Same value otherValue := by
  induction rewrites generalizing depth value with
  | refl spelling => exact ⟨value, reads, .refl value⟩
  | trans first later firstSame laterSame =>
      obtain ⟨middle, readsMiddle, same⟩ := firstSame reads
      obtain ⟨last, readsLast, next⟩ := laterSame readsMiddle
      exact ⟨last, readsLast, same.trans next⟩
  | object changes =>
      obtain ⟨inside, values, readsMembers, rfl⟩ := read?_object.mp reads
      obtain ⟨otherValues, readsOthers, same⟩ :=
        keeps _ _ changes _ _ readsMembers
      exact ⟨_, read?_object.mpr ⟨inside, otherValues, readsOthers, rfl⟩, same⟩
  | item rewrites itemSame =>
      obtain ⟨inside, _, readsItems, rfl⟩ := read?_array.mp reads
      obtain ⟨before, _, readsBefore, readsRest, rfl⟩ :=
        readItems?_append.mp readsItems
      obtain ⟨item, after, readsItem, readsAfter, rfl⟩ :=
        readItems?_cons.mp readsRest
      obtain ⟨otherItem, readsOther, same⟩ := itemSame readsItem
      have readsOthers := readItems?_append.mpr
        ⟨before, _, readsBefore,
          readItems?_cons.mpr ⟨_, _, readsOther, readsAfter, rfl⟩, rfl⟩
      exact ⟨_, read?_array.mpr ⟨inside, _, readsOthers, rfl⟩,
        .array (.item same)⟩
  | member rewrites memberSame =>
      obtain ⟨inside, _, readsMembers, rfl⟩ := read?_object.mp reads
      obtain ⟨before, _, readsBefore, readsRest, rfl⟩ :=
        readMembers?_append.mp readsMembers
      obtain ⟨text, value, after, isText, readsValue, readsAfter, rfl⟩ :=
        readMembers?_cons.mp readsRest
      obtain ⟨otherValue, readsOther, same⟩ := memberSame readsValue
      have readsOthers := readMembers?_append.mpr
        ⟨before, _, readsBefore,
          readMembers?_cons.mpr ⟨_, _, _, isText, readsOther, readsAfter, rfl⟩,
            rfl⟩
      exact ⟨_, read?_object.mpr ⟨inside, _, readsOthers, rfl⟩, .member same⟩

theorem keeps_uncovers : Keeps Uncovers := by
  rintro _ _ ⟨sameName⟩ depth _ reads
  obtain ⟨before, _, readsBefore, readsRest, rfl⟩ :=
    readMembers?_append.mp reads
  obtain ⟨text, hidden, _, isText, -, readsLater, rfl⟩ :=
    readMembers?_cons.mp readsRest
  obtain ⟨between, _, readsBetween, readsShown, rfl⟩ :=
    readMembers?_append.mp readsLater
  obtain ⟨again, shown, after, isAgain, -, -, rfl⟩ :=
    readMembers?_cons.mp readsShown
  have same : text = again :=
    Option.some.inj (isText.symm.trans (sameName.trans isAgain))
  subst same
  exact ⟨_,
    readMembers?_append.mpr ⟨before, _, readsBefore, readsLater, rfl⟩, .hidden⟩

theorem NamesDiffer.perm
    (differ : NamesDiffer members)
    (order : members.Perm others) :
    NamesDiffer others := by
  refine
    (order.pairwise_iff
      fun {first second} apart name isSecond isFirst => ?_).mp differ
  exact apart name isFirst isSecond

theorem Permutes.symm
    (permutes : Permutes members others) :
    Permutes others members :=
  ⟨permutes.namesDiffer.perm permutes.order, permutes.order.symm⟩

theorem Rewrites.symm
    (symmetric : ∀ members others,
      change members others → change others members)
    (rewrites : Rewrites change spelling other) :
    Rewrites change other spelling := by
  induction rewrites with
  | refl spelling => exact .refl spelling
  | trans first later firstBack laterBack => exact laterBack.trans firstBack
  | object changes => exact .object (symmetric _ _ changes)
  | item rewrites back => exact .item back
  | member rewrites back => exact .member back

/-- Members with different names say the same in every order. -/
private theorem same_of_perm
    {depth : Nat}
    (order : members.Perm others)
    (before : List (Quoted × Spelling))
    (differ : NamesDiffer (before ++ members))
    {values : List (String × Json)}
    (reads : readMembers? depth (before ++ members) = some values) :
    ∃ otherValues,
      readMembers? depth (before ++ others) = some otherValues ∧
        Same (.object values) (.object otherValues) := by
  induction order generalizing before values with
  | nil => exact ⟨values, reads, .refl _⟩
  | cons member order inductionHypothesis =>
      -- a later member can hide one in front of it, so the members in front are
      -- carried along
      rw [List.append_cons] at reads differ
      rw [List.append_cons]
      exact inductionHypothesis (before ++ [member]) differ reads
  | swap first second rest =>
      obtain ⟨start, _, readsStart, readsRest, rfl⟩ :=
        readMembers?_append.mp reads
      obtain ⟨text, value, _, isText, readsValue, readsLater, rfl⟩ :=
        readMembers?_cons.mp readsRest
      obtain ⟨other, otherValue, after, isOther, readsOther, readsAfter, rfl⟩ :=
        readMembers?_cons.mp readsLater
      have apart :=
        List.rel_of_pairwise_cons (List.pairwise_append.mp differ).2.1
        (List.mem_cons_self ..)
      have different : text ≠ other := by
        rintro rfl
        exact apart text isText isOther
      have readsSwapped := readMembers?_cons.mpr
        ⟨_, _, _, isOther, readsOther, readMembers?_cons.mpr
          ⟨_, _, _, isText, readsValue, readsAfter, rfl⟩, rfl⟩
      exact ⟨_,
        readMembers?_append.mpr ⟨start, _, readsStart, readsSwapped, rfl⟩,
        .swap different⟩
  | trans first later firstSame laterSame =>
      obtain ⟨middle, readsMiddle, same⟩ := firstSame before differ reads
      obtain ⟨last, readsLast, next⟩ :=
        laterSame before (differ.perm (first.append_left before)) readsMiddle
      exact ⟨last, readsLast, same.trans next⟩

theorem keeps_permutes : Keeps Permutes :=
  fun _ _ permutes _ _ reads =>
    same_of_perm permutes.order [] permutes.namesDiffer reads

/-- The names of an object as they are read, in their order. -/
def names : Spelling → List (Option String)
  | .object members => members.map fun member => member.1.text?
  | _ => []

theorem Rewrites.names_perm
    (rewrites : Rewrites Permutes spelling other) :
    spelling.names.Perm other.names := by
  induction rewrites with
  | refl spelling => exact .refl _
  | trans first later firstPerm laterPerm => exact firstPerm.trans laterPerm
  | object permutes => exact permutes.order.map _
  | item rewrites inductionHypothesis => exact .refl _
  | member rewrites inductionHypothesis =>
      simp only [names, List.map_append, List.map_cons]
      exact .refl _

theorem names_eq_of_readMembers?
    {depth : Nat}
    {values : List (String × Json)}
    (reads : readMembers? depth members = some values) :
    (object members).names = values.map fun member => some member.1 := by
  induction members generalizing values with
  | nil =>
      cases reads
      rfl
  | cons member rest inductionHypothesis =>
      obtain ⟨name, value⟩ := member
      obtain ⟨text, value, later, isText, -, readsLater, rfl⟩ :=
        readMembers?_cons.mp reads
      have sameLater := inductionHypothesis readsLater
      simp only [names] at sameLater
      simp only [names, List.map_cons, isText, sameLater]

/-- How often a name occurs is told by the spelling. -/
theorem occurrences_eq_count
    {depth : Nat}
    {values : List (String × Json)}
    (reads : spelling.read? depth = some (.object values))
    (name : String) :
    occurrences name values = spelling.names.count (some name) := by
  cases spelling with
  | scalar spelling =>
      obtain ⟨token, -, isValue⟩ := Option.bind_eq_some_iff.mp reads
      cases token <;> cases isValue
  | array items =>
      obtain ⟨-, values, -, isArray⟩ := read?_array.mp reads
      cases isArray
  | object members =>
      obtain ⟨-, values, readsMembers, isObject⟩ := read?_object.mp reads
      cases isObject
      rw [names_eq_of_readMembers? readsMembers, occurrences, List.count,
        List.countP_map]
      rfl

end DropletClient.Json.Spelling
