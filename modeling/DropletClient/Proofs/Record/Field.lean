import DropletClient.Proofs.Outcome
import DropletClient.Record.Field

namespace DropletClient.Record.Field

/-!
# What fields are read as

The value of a field comes from the member or the item for it, or else from what
stands for the field where it is missing.
-/

variable {field : Field α} {value : α}

/--
Where the value of a field comes from: from what is given for it, or from its
fallback.
-/
inductive Yields
    (field : Field α)
    (value : α) :
    (given : Option Json) → Prop where
  | given
      {json : Json}
      (reads : field.read json = .ok value) :
      Yields field value (some json)
  | missing
      (stands : field.fallback = some value) :
      Yields field value none

/-- A field of an object yields its value from the member with its name. -/
theorem yields_of_settle
    {members : List (String × Json)}
    {visited : Option α}
    (visits : field.visit members = .ok visited)
    (settles : field.settle visited = .ok value) :
    field.Yields value (Json.lookup field.name members) := by
  unfold visit at visits
  unfold settle at settles
  cases has : Json.lookup field.name members with
  | none =>
      rw [has] at visits
      cases visits
      cases stands : field.fallback with
      | none => simp [stands] at settles
      | some fallback =>
          simp only [stands, Option.none_or, Except.ok.injEq] at settles
          exact .missing (by rw [stands, settles])
  | some json =>
      rw [has] at visits
      obtain ⟨read, reads, rfl⟩ := Outcome.map_eq_ok.mp visits
      cases settles
      exact .given reads

/-- A field of an array yields its value from the next item. -/
theorem yields_of_next
    {name : String}
    {size : Nat}
    {cursor later : Cursor}
    (reads : field.next name size cursor = .ok (value, later)) :
    field.Yields value cursor.rest.head? ∧ later.rest = cursor.rest.tail := by
  unfold next at reads
  cases items : cursor.rest with
  | nil =>
      rw [items] at reads
      cases stands : field.fallback with
      | none => simp [stands] at reads
      | some fallback =>
          simp only [stands, Except.ok.injEq, Prod.mk.injEq] at reads
          obtain ⟨same, rfl⟩ := reads
          exact ⟨.missing (by rw [stands, same]), rfl⟩
  | cons item rest =>
      rw [items] at reads
      obtain ⟨read, readsItem, same⟩ := Outcome.map_eq_ok.mp reads
      cases same
      exact ⟨.given readsItem, rfl⟩

end DropletClient.Record.Field

namespace DropletClient.Record

/-- A record that an array holds is read from its items. -/
theorem Layout.ofItems_of_decode
    {layout : Layout α}
    {items : List Json}
    {value : α}
    (decodes : layout.decode (.array items) = .ok value) :
    ∃ cursor, layout.ofItems ⟨0, items⟩ = .ok (value, cursor) := by
  obtain ⟨⟨read, cursor⟩, reads, finishes⟩ := Outcome.bind_eq_ok.mp decodes
  simp only [] at finishes
  split at finishes
  · cases finishes
    exact ⟨cursor, reads⟩
  · cases finishes

end DropletClient.Record
