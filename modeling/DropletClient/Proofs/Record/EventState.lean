import DropletClient.Proofs.Record.Field
import DropletClient.Record.Event

namespace DropletClient

/-!
# The state that a record gives for its event

An event is in the state that its record gives: the word for the state may be
missing or null, and then the event is pending.
-/

namespace EventStatus

/-- A state is read from a word, or from null. -/
theorem read_eq_ok
    {value : Json}
    {status : EventStatus} :
    read value = .ok status ↔
      value = .null ∧ status = .pending ∨
        ∃ word, value = .text word ∧ status = ofLabel word := by
  cases value <;>
    simp [read, Record.readNullable, Record.readText, Except.map, eq_comm]

theorem ofLabel_eq_done
    {word : String} :
    ofLabel word = .done ↔ word.toList.map Char.toLower = "done".toList := by
  unfold ofLabel
  simp only []
  split
  · simp_all
  · split <;> simp_all

theorem ofLabel_eq_error
    {word : String} :
    ofLabel word = .error ↔
      word.toList.map Char.toLower = "error".toList ∨
        word.toList.map Char.toLower = "failed".toList := by
  unfold ofLabel
  simp only []
  split
  · next done =>
      rw [done]
      decide
  · split <;> simp_all

/--
The state that is given for an event: by a word in letters of either case, by
null, or not at all.
-/
inductive IsGiven : (given : Option Json) → EventStatus → Prop where
  | done
      {word : String}
      (spelled : word.toList.map Char.toLower = "done".toList) :
      IsGiven (some (.text word)) .done
  | error
      {word : String}
      (spelled :
        word.toList.map Char.toLower = "error".toList ∨
          word.toList.map Char.toLower = "failed".toList) :
      IsGiven (some (.text word)) .error
  | pending
      {word : String}
      (unfinished : word.toList.map Char.toLower ≠ "done".toList)
      (unfailed :
        ¬ (word.toList.map Char.toLower = "error".toList ∨
          word.toList.map Char.toLower = "failed".toList)) :
      IsGiven (some (.text word)) .pending
  | null : IsGiven (some .null) .pending
  | missing : IsGiven none .pending

/-- A word gives the state that it is the label of. -/
theorem isGiven_ofLabel
    (word : String) :
    IsGiven (some (.text word)) (ofLabel word) := by
  cases status : ofLabel word with
  | done => exact .done (ofLabel_eq_done.mp status)
  | error => exact .error (ofLabel_eq_error.mp status)
  | pending =>
      refine .pending (fun spelled => ?_) fun spelled => ?_
      · cases status.symm.trans (ofLabel_eq_done.mpr spelled)
      · cases status.symm.trans (ofLabel_eq_error.mpr spelled)

/-- No word gives another state than the one that it is the label of. -/
theorem IsGiven.eq_ofLabel
    {word : String}
    {status : EventStatus}
    (given : IsGiven (some (.text word)) status) :
    status = ofLabel word := by
  cases given with
  | done spelled => exact (ofLabel_eq_done.mpr spelled).symm
  | error spelled => exact (ofLabel_eq_error.mpr spelled).symm
  | pending unfinished unfailed =>
      cases status : ofLabel word with
      | done => exact absurd (ofLabel_eq_done.mp status) unfinished
      | error => exact absurd (ofLabel_eq_error.mp status) unfailed
      | pending => rfl

theorem IsGiven.unique
    {given : Option Json}
    {first second : EventStatus}
    (isFirst : IsGiven given first)
    (isSecond : IsGiven given second) :
    first = second := by
  cases given with
  | none =>
      cases isFirst
      cases isSecond
      rfl
  | some value =>
      cases value with
      | text word => rw [isFirst.eq_ofLabel, isSecond.eq_ofLabel]
      | null =>
          cases isFirst
          cases isSecond
          rfl
      | boolean value => cases isFirst
      | number value => cases isFirst
      | array items => cases isFirst
      | object members => cases isFirst

end EventStatus

namespace Event

open Record

/--
What a record gives for the state: a member of an object, or the second item of
an array.
-/
def givenStatus? : Json → Option Json
  | .object members => Json.lookup "action_status" members
  | .array items => items[1]?
  | _ => none

/-- The field for the state yields the state that is given. -/
private theorem isGiven_of_yields
    {given : Option Json}
    {status : EventStatus}
    (yields : statusField.Yields status given) :
    EventStatus.IsGiven given status := by
  cases yields with
  | given reads =>
      rcases EventStatus.read_eq_ok.mp reads with ⟨rfl, rfl⟩ | ⟨word, rfl, rfl⟩
      · exact .null
      · exact EventStatus.isGiven_ofLabel word
  | missing stands =>
      cases stands
      exact .missing

private theorem statusField_yields_ofMembers
    {members : List (String × Json)}
    {seen : Event}
    (decodes : ofMembers members = .ok seen) :
    statusField.Yields seen.status (Json.lookup "action_status" members) := by
  obtain ⟨status, visits, decodes⟩ := Outcome.bind_eq_ok.mp decodes
  obtain ⟨droplet, _, decodes⟩ := Outcome.bind_eq_ok.mp decodes
  obtain ⟨action, _, decodes⟩ := Outcome.bind_eq_ok.mp decodes
  obtain ⟨id, _, decodes⟩ := Outcome.bind_eq_ok.mp decodes
  obtain ⟨percentage, _, decodes⟩ := Outcome.bind_eq_ok.mp decodes
  obtain ⟨settledId, _, decodes⟩ := Outcome.bind_eq_ok.mp decodes
  obtain ⟨settledStatus, settles, decodes⟩ := Outcome.bind_eq_ok.mp decodes
  obtain ⟨settledDroplet, _, decodes⟩ := Outcome.bind_eq_ok.mp decodes
  obtain ⟨settledAction, _, decodes⟩ := Outcome.bind_eq_ok.mp decodes
  obtain ⟨settledPercentage, _, decodes⟩ := Outcome.bind_eq_ok.mp decodes
  cases decodes
  exact Field.yields_of_settle visits settles

private theorem statusField_yields_ofItems
    {items : List Json}
    {seen : Event}
    {cursor : Cursor}
    (decodes : ofItems ⟨0, items⟩ = .ok (seen, cursor)) :
    statusField.Yields seen.status items[1]? := by
  obtain ⟨⟨id, afterId⟩, readsId, decodes⟩ := Outcome.bind_eq_ok.mp decodes
  obtain ⟨⟨status, afterStatus⟩, readsStatus, decodes⟩ :=
    Outcome.bind_eq_ok.mp decodes
  obtain ⟨⟨droplet, afterDroplet⟩, _, decodes⟩ := Outcome.bind_eq_ok.mp decodes
  obtain ⟨⟨action, afterAction⟩, _, decodes⟩ := Outcome.bind_eq_ok.mp decodes
  obtain ⟨⟨percentage, afterPercentage⟩, _, decodes⟩ :=
    Outcome.bind_eq_ok.mp decodes
  cases decodes
  have second : items[1]? = afterId.rest.head? := by
    rw [(Field.yields_of_next readsId).2]
    cases items with
    | nil => rfl
    | cons item rest => cases rest <;> rfl
  rw [second]
  exact (Field.yields_of_next readsStatus).1

/-- The state of an event is the one that its record gives. -/
theorem isGiven_status
    {record : Json}
    {seen : Event}
    (decodes : layout.decode record = .ok seen) :
    EventStatus.IsGiven (givenStatus? record) seen.status := by
  refine isGiven_of_yields ?_
  cases record with
  | object members => exact statusField_yields_ofMembers decodes
  | array items =>
      obtain ⟨cursor, reads⟩ := Layout.ofItems_of_decode decodes
      exact statusField_yields_ofItems reads
  | null => cases decodes
  | boolean value => cases decodes
  | number value => cases decodes
  | text value => cases decodes

end Event

end DropletClient
