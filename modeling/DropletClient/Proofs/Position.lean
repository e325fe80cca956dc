namespace DropletClient.Position

/-!
# Positions in lists

Where an item of a list lies, if the list is known to be made of parts.
-/

/--
A position in a nonempty list lies before the last item, which stays behind it,
or is that of the last item.
-/
theorem split_snoc
    {items before after : List α}
    {last item : α}
    (shape : items ++ [last] = before ++ item :: after) :
    (∃ rest, items = before ++ item :: rest ∧ after = rest ++ [last]) ∨
      before = items ∧ item = last ∧ after = [] := by
  rcases List.eq_nil_or_concat after with rfl | ⟨rest, final, rfl⟩
  · obtain ⟨sameItems, sameLast⟩ := List.append_inj' shape rfl
    exact .inr ⟨sameItems.symm, (List.singleton_inj.mp sameLast).symm, rfl⟩
  · rw [List.concat_eq_append, ← List.cons_append, ← List.append_assoc] at shape
    obtain ⟨sameItems, sameLast⟩ := List.append_inj' shape rfl
    refine .inl ⟨rest, sameItems, ?_⟩
    rw [List.concat_eq_append, sameLast]

/--
The position of an item that is not in the front part lies in what
follows on it.
-/
theorem split_behind
    {front later before after : List α}
    {item : α}
    (shape : front ++ later = before ++ item :: after)
    (absent : item ∉ front) :
    ∃ middle, before = front ++ middle ∧ later = middle ++ item :: after := by
  rcases List.append_eq_append_iff.mp shape with
      ⟨middle, beforeShape, laterShape⟩ | ⟨middle, frontShape, itemShape⟩
  · exact ⟨middle, beforeShape, laterShape⟩
  · cases middle with
    | nil => exact ⟨[], by simpa using frontShape.symm, itemShape.symm⟩
    | cons head rest =>
        obtain ⟨rfl, _⟩ := List.cons.inj itemShape
        exact (absent (frontShape ▸ by simp)).elim

end DropletClient.Position
