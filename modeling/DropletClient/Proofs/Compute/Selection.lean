import DropletClient.Compute.Nodes
import DropletClient.Proofs.Identifier.Spelling
import DropletClient.Proofs.Workflow.Play

namespace DropletClient

/-!
# Nodes selected by texts

A list of texts selects the droplets that one of them names. Which texts they
are, in which order, how often and how spelled does not matter: what is given is
the list of the provider without the droplets that no text names.
`nodes_are_selected_by_id` is the main result.
-/

namespace Compute

open Workflow

/-- One of some texts spells an id. -/
def Named (texts : List String) (id : Int32) : Prop :=
  ∃ text ∈ texts, Identifier.Spells text id.toInt

/--
The droplets of a list whose ids are wanted, in the order of the list and as
often as in it.
-/
structure IsSelection
    (wanted : Int32 → Prop)
    (listed given : List Droplet) : Prop where
  ordered : given.Sublist listed
  only : ∀ droplet ∈ given, wanted droplet.id
  complete : ∀ droplet : Droplet,
    wanted droplet.id → given.count droplet = listed.count droplet

section

variable {wanted : Int32 → Prop} {listed given : List Droplet}

/-- A test for what is wanted selects it. -/
theorem isSelection_filter
    {test : Int32 → Bool}
    (isTest : ∀ id, test id = true ↔ wanted id)
    (listed : List Droplet) :
    IsSelection wanted listed
      (listed.filter fun droplet => test droplet.id) where
  ordered := List.filter_sublist
  only droplet member := (isTest droplet.id).mp (List.mem_filter.mp member).2
  complete droplet isWanted :=
  List.count_filter ((isTest droplet.id).mpr isWanted)

theorem IsSelection.congr
    {alsoWanted : Int32 → Prop}
    (selection : IsSelection wanted listed given)
    (same : ∀ id, wanted id ↔ alsoWanted id) :
    IsSelection alsoWanted listed given where
  ordered := selection.ordered
  only droplet member := (same droplet.id).mp (selection.only droplet member)
  complete droplet isWanted :=
  selection.complete droplet ((same droplet.id).mpr isWanted)

/-- A droplet that is not wanted is not selected. -/
theorem IsSelection.count_eq_zero
    (selection : IsSelection wanted listed given)
    {droplet : Droplet}
    (unwanted : ¬ wanted droplet.id) :
    given.count droplet = 0 :=
  List.count_eq_zero_of_not_mem fun member =>
    unwanted (selection.only droplet member)

/--
What is left of a list without the unwanted droplets is the only
selection from it.
-/
theorem IsSelection.eq_filter
    {test : Int32 → Bool}
    (isTest : ∀ id, test id = true ↔ wanted id)
    (selection : IsSelection wanted listed given) :
    given = listed.filter fun droplet => test droplet.id := by
  have filtered := isSelection_filter isTest listed
  have kept : given.filter (fun droplet => test droplet.id) = given :=
    List.filter_eq_self.mpr fun droplet member =>
      (isTest droplet.id).mpr (selection.only droplet member)
  have inOrder := selection.ordered.filter fun droplet => test droplet.id
  rw [kept] at inOrder
  apply inOrder.eq_of_length
  apply List.Perm.length_eq
  rw [List.perm_iff_count]
  intro droplet
  by_cases isWanted : wanted droplet.id
  · rw [selection.complete droplet isWanted, filtered.complete droplet isWanted]
  · rw [selection.count_eq_zero isWanted, filtered.count_eq_zero isWanted]

end

/-- A test for the ids that texts spell. -/
def names (texts : List String) (id : Int32) : Bool :=
  (texts.filterMap Identifier.read?).contains id

theorem names_iff
    {texts : List String}
    {id : Int32} :
    names texts id = true ↔ Named texts id := by
  simp [names, Named, Identifier.read?_eq_some_iff]

theorem isSelection_named
    (texts : List String)
    (listed : List Droplet) :
    IsSelection (Named texts) listed
      (listed.filter fun droplet => names texts droplet.id) :=
  isSelection_filter (fun _ => names_iff) listed

theorem named_cons
    (text : String)
    (texts : List String)
    (id : Int32) :
    Named (text :: texts) id ↔
      Identifier.Spells text id.toInt ∨ Named texts id := by
  simp [Named]

theorem named_append
    (texts others : List String)
    (id : Int32) :
    Named (texts ++ others) id ↔ Named texts id ∨ Named others id := by
  simp only [Named, List.mem_append, or_and_right, exists_or]

/-- Texts of which the same ids are spelled select the same. -/
theorem listNodesByIds_congr
    {texts others : List String}
    (sameNamed : ∀ id, Named texts id ↔ Named others id) :
    listNodesByIds texts = listNodesByIds others := by
  have sameTest : names texts = names others := by
    funext id
    rw [Bool.eq_iff_iff, names_iff, names_iff]
    exact sameNamed id
  change (listNodes >>= fun listed =>
      pure (listed.filter fun droplet => names texts droplet.id)) =
    listNodes >>= fun listed =>
      pure (listed.filter fun droplet => names others droplet.id)
  rw [sameTest]

/--
Wherever the provider lists some droplets, texts select those given from them,
and nothing is done but to ask for the list.
-/
def SelectsFrom (texts : List String) (listed given : List Droplet) : Prop :=
  ∀ ⦃σ : Type⦄ (world : World σ) (session : Session σ),
    (world.answer session.state .listDroplets).1 = .ok listed →
      (listNodesByIds texts).run world session =
        (some (.ok given), (world.perform session (.send .listDroplets)).2)

theorem selectsFrom_filter
    (texts : List String)
    (listed : List Droplet) :
    SelectsFrom texts listed
      (listed.filter fun droplet => names texts droplet.id) := by
  intro σ world session told
  have asked :
      listNodes.run world session =
        (some (.ok listed),
          (world.perform session (.send .listDroplets)).2) := by
    rw [listNodes, run_send, told]
  rw [listNodesByIds, run_bind, asked]
  rfl

/-- A selection of what texts name is what they select. -/
theorem IsSelection.selectsFrom
    {texts : List String}
    {listed given : List Droplet}
    (selection : IsSelection (Named texts) listed given) :
    SelectsFrom texts listed given := by
  rw [selection.eq_filter fun _ => names_iff]
  exact selectsFrom_filter texts listed

/-- One text is another one with white space around it. -/
def IsPaddingOf (text padded : String) : Prop :=
  ∃ front back,
    padded.toList = front ++ (text.toList ++ back) ∧
      ∀ character ∈ front ++ back, Text.isBlank character = true

/-- What a list of texts selects. -/
structure SelectsNamed (texts : List String) : Prop where
  /-- What is given is the selection of the droplets that are named. -/
  selects :
    ∀ listed, ∃ given,
      SelectsFrom texts listed given ∧
        ∀ other, IsSelection (Named texts) listed other ↔ other = given
  /-- Without a list nothing is selected. -/
  fails :
    ∀ {σ : Type} (world : World σ) (session : Session σ) (failure : Failure),
      (world.answer session.state .listDroplets).1 = .error failure →
        (listNodesByIds texts).run world session =
          (some (.error failure),
            (world.perform session (.send .listDroplets)).2)
  /-- The order of the texts and their repetition do not matter. -/
  rearranged :
    ∀ others, (∀ text, text ∈ others ↔ text ∈ texts) →
      listNodesByIds others = listNodesByIds texts
  /-- White space around the texts does not matter. -/
  padded :
    ∀ others, texts.Forall₂ IsPaddingOf others →
      listNodesByIds others = listNodesByIds texts
  /-- Texts that spell no id do not matter. -/
  unrecognised :
    ∀ others,
        (∀ text ∈ others, ∀ id : Int32, ¬ Identifier.Spells text id.toInt) →
      listNodesByIds (texts ++ others) = listNodesByIds texts
  /-- Texts that spell the same ids, however they do it, select the same. -/
  respelled :
    ∀ others, (∀ id, Named others id ↔ Named texts id) →
      listNodesByIds others = listNodesByIds texts
  /-- All droplets are selected if the texts of all of their ids are there. -/
  whole :
    ∀ listed : List Droplet,
        (∀ droplet ∈ listed, Identifier.text droplet.id ∈ texts) →
      SelectsFrom texts listed listed
  /--
  With more texts, that is selected which one list of texts or the other
  selects.
  -/
  union :
    ∀ others listed, ∃ given otherGiven both,
      SelectsFrom texts listed given ∧
        SelectsFrom others listed otherGiven ∧
        SelectsFrom (texts ++ others) listed both ∧
        (∀ droplet, droplet ∈ both ↔ droplet ∈ given ∨ droplet ∈ otherGiven) ∧
        ∀ droplet, both.count droplet =
          max (given.count droplet) (otherGiven.count droplet)

/--
What is wanted for either of two reasons is what the selections for each of
them have.
-/
theorem IsSelection.count_either
    {wanted alsoWanted : Int32 → Prop}
    {listed given otherGiven both : List Droplet}
    (selection : IsSelection wanted listed given)
    (otherwise : IsSelection alsoWanted listed otherGiven)
    (either : IsSelection (fun id => wanted id ∨ alsoWanted id) listed both)
    (droplet : Droplet) :
    both.count droplet =
      max (given.count droplet) (otherGiven.count droplet) := by
  have bound := selection.ordered.count_le droplet
  have otherBound := otherwise.ordered.count_le droplet
  by_cases isWanted : wanted droplet.id
  · rw [either.complete droplet (.inl isWanted),
      selection.complete droplet isWanted, Nat.max_eq_left otherBound]
  · by_cases isAlsoWanted : alsoWanted droplet.id
    · rw [either.complete droplet (.inr isAlsoWanted),
        otherwise.complete droplet isAlsoWanted, Nat.max_eq_right bound]
    · have unwanted : ¬ (wanted droplet.id ∨ alsoWanted droplet.id) :=
        not_or.mpr ⟨isWanted, isAlsoWanted⟩
      rw [either.count_eq_zero unwanted, selection.count_eq_zero isWanted,
        otherwise.count_eq_zero isAlsoWanted]
      rfl

/-- White space around texts does not change what they spell. -/
theorem named_of_padded
    {texts others : List String}
    (padded : texts.Forall₂ IsPaddingOf others)
    (id : Int32) :
    Named others id ↔ Named texts id := by
  induction padded with
  | nil => exact Iff.rfl
  | @cons text other later otherLater isPadding _ inductionHypothesis =>
      obtain ⟨front, back, shape, blank⟩ := isPadding
      have sameSpelled :
          Identifier.Spells other id.toInt ↔ Identifier.Spells text id.toInt :=
        Identifier.Spells.padded_iff shape blank
      rw [named_cons, named_cons, sameSpelled, inductionHypothesis]

/--
Texts select exactly the droplets that one of them names: in the order of the
provider, each as often as it is listed, and however the texts are arranged,
repeated, padded or spelled.
-/
theorem nodes_are_selected_by_id
    (texts : List String) :
    SelectsNamed texts where
  selects listed := by
    have selection := isSelection_named texts listed
    refine ⟨_, selection.selectsFrom, fun other => ⟨fun otherwise => ?_, ?_⟩⟩
    · exact otherwise.eq_filter fun _ => names_iff
    · rintro rfl
      exact selection
  fails world session failure told := by
    have asked :
        listNodes.run world session =
          (some (.error failure),
            (world.perform session (.send .listDroplets)).2) := by
      rw [listNodes, run_send, told]
    rw [listNodesByIds, run_bind, asked]
  rearranged others sameTexts :=
    listNodesByIds_congr fun id => by simp only [Named, sameTexts]
  padded others isPadded := listNodesByIds_congr (named_of_padded isPadded)
  unrecognised others unspelled := by
    apply listNodesByIds_congr
    intro id
    rw [named_append]
    exact or_iff_left fun ⟨text, member, spells⟩ =>
      unspelled text member id spells
  respelled others sameNamed := listNodesByIds_congr sameNamed
  whole listed present := by
    have selection : IsSelection (Named texts) listed listed :=
      ⟨List.Sublist.refl listed,
        fun droplet member => ⟨_, present droplet member,
          Identifier.read?_eq_some_iff.mp (Identifier.read?_text droplet.id)⟩,
        fun _ _ => rfl⟩
    exact selection.selectsFrom
  union others listed := by
    have selection := isSelection_named texts listed
    have otherwise := isSelection_named others listed
    have both := isSelection_named (texts ++ others) listed
    have counted :=
      selection.count_either otherwise (both.congr (named_append texts others))
    refine ⟨_, _, _, selection.selectsFrom, otherwise.selectsFrom,
      both.selectsFrom, ?_, counted⟩
    intro droplet
    rw [← List.count_pos_iff, ← List.count_pos_iff, ← List.count_pos_iff,
      counted droplet, lt_max_iff]

end Compute

end DropletClient
