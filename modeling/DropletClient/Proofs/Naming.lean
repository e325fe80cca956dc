import DropletClient.Naming
import DropletClient.Proofs.Text.Hexadecimal

namespace DropletClient.Naming

/-!
# Names and the groups that they carry

A name is cut at its last dash, and no suffix holds a dash. So the group of a
generated name is read back whole, whatever dashes and digits it ends in.
-/

/--
The digits of a random identifier of 128 bits, as they are written
without dashes.
-/
def identifierDigits (identifier : BitVec 128) : List Char :=
  Text.hexDigits 32 identifier.toNat

/-- The first 32 bits of a random identifier. -/
def firstWord (identifier : BitVec 128) : UInt32 :=
  ⟨identifier.extractLsb' 96 32⟩

/-- Eight hexadecimal digits of either case. -/
structure IsEnding (ending : String) : Prop where
  length : ending.length = 8
  digits :
    ∀ character ∈ ending.toList,
      ('0' ≤ character ∧ character ≤ '9') ∨
        ('a' ≤ character ∧ character ≤ 'f') ∨
        ('A' ≤ character ∧ character ≤ 'F')

section SplitLast

variable {separator : Char} {text front back : List Char}

theorem splitLast?_of_not_mem
    (absent : separator ∉ text) :
    splitLast? separator text = none := by
  induction text with
  | nil => rfl
  | cons character rest inductionHypothesis =>
      have other := List.ne_of_not_mem_cons absent
      rw [splitLast?, inductionHypothesis (List.not_mem_of_not_mem_cons absent)]
      exact if_neg (Ne.symm other)

/-- A text is cut at a separator that none follows. -/
theorem splitLast?_append
    (absent : separator ∉ back) :
    splitLast? separator (front ++ separator :: back) = some (front, back) := by
  induction front with
  | nil =>
      rw [List.nil_append, splitLast?, splitLast?_of_not_mem absent]
      exact if_pos rfl
  | cons character rest inductionHypothesis =>
      rw [List.cons_append, splitLast?, inductionHypothesis]

/-- A text that is cut is cut at its last separator. -/
theorem splitLast?_eq_some_iff :
    splitLast? separator text = some (front, back) ↔
      text = front ++ separator :: back ∧ separator ∉ back := by
  constructor
  · intro cut
    by_cases present : separator ∈ text
    · obtain ⟨later, earlier, shape, absent⟩ :=
        List.eq_append_cons_of_mem (List.mem_reverse.mpr present)
      have whole : text = earlier.reverse ++ separator :: later.reverse := by
        rw [← List.reverse_reverse text, shape]
        simp
      have absentLater : separator ∉ later.reverse := fun member =>
        absent (List.mem_reverse.mp member)
      rw [whole, splitLast?_append absentLater] at cut
      cases cut
      exact ⟨whole, absentLater⟩
    · rw [splitLast?_of_not_mem present] at cut
      cases cut
  · rintro ⟨rfl, absent⟩
    exact splitLast?_append absent

end SplitLast

theorem isSuffix_iff
    {ending : String} :
    isSuffix ending.toList = true ↔ IsEnding ending := by
  simp only [isSuffix, Bool.and_eq_true, beq_iff_eq, List.all_eq_true,
    Text.isHexDigit_iff]
  exact ⟨fun accepted => ⟨accepted.1, accepted.2⟩,
    fun ends => ⟨ends.length, ends.digits⟩⟩

theorem isEnding_suffix
    (word : UInt32) :
    IsEnding (String.ofList (suffix word)) := by
  rw [← isSuffix_iff, String.toList_ofList, isSuffix, Bool.and_eq_true]
  refine ⟨beq_iff_eq.mpr (Text.length_hexDigits ..), List.all_eq_true.mpr ?_⟩
  exact fun character member => Text.isHexDigit_of_mem_hexDigits member

theorem IsEnding.not_mem
    {ending : String}
    (isEnding : IsEnding ending) :
    '-' ∉ ending.toList := by
  intro member
  have isDigit := isEnding.digits '-' member
  revert isDigit
  decide

theorem uniqueName_eq
    (group : String)
    (word : UInt32) :
    uniqueName group word = group ++ "-" ++ String.ofList (suffix word) := by
  rw [← String.toList_inj]
  simp [uniqueName]

theorem toList_named
    (group ending : String) :
    (group ++ "-" ++ ending).toList = group.toList ++ '-' :: ending.toList := by
  simp

/--
What is read from a group, a dash and eight digits is the group, unless it
is empty.
-/
theorem groupOf?_named
    {ending : String}
    (isEnding : IsEnding ending)
    (group : String) :
    groupOf? (group ++ "-" ++ ending) =
      if group = "" then none else some group := by
  have cut :
      splitLast? '-' (group.toList ++ '-' :: ending.toList) =
        some (group.toList, ending.toList) :=
    splitLast?_append isEnding.not_mem
  rw [groupOf?, toList_named, cut]
  simp [isSuffix_iff.mpr isEnding]

/--
A name carries the group in front of its last dash, if eight digits follow that.
-/
theorem groupOf?_eq_some_iff
    {name group : String} :
    groupOf? name = some group ↔
      group ≠ "" ∧
        ∃ ending, IsEnding ending ∧ name = group ++ "-" ++ ending := by
  constructor
  · intro carries
    rw [groupOf?] at carries
    split at carries
    case h_1 front back cut =>
      obtain ⟨shape, -⟩ := splitLast?_eq_some_iff.mp cut
      split at carries
      case isTrue accepted =>
        cases carries
        obtain ⟨ends, nonempty⟩ := Bool.and_eq_true_iff.mp accepted
        rw [← String.toList_ofList (l := back)] at ends
        refine ⟨by simpa using nonempty, String.ofList back,
          isSuffix_iff.mp ends, ?_⟩
        rw [← String.toList_inj, toList_named, String.toList_ofList,
          String.toList_ofList, shape]
      case isFalse => cases carries
    case h_2 => cases carries
  · rintro ⟨nonempty, ending, isEnding, rfl⟩
    rw [groupOf?_named isEnding, if_neg nonempty]

/-- A group may look like a name that was made for another one. -/
example : groupOf? "web-1a2b3c4d-00FF00ff" = some "web-1a2b3c4d" := by
  decide

/--
The suffix of a random identifier's first word holds the first eight
digits of it.
-/
theorem suffix_firstWord
    (identifier : BitVec 128) :
    suffix (firstWord identifier) =
      (identifierDigits identifier).take suffixLength := by
  have small : identifier.toNat / Nat.pow 16 24 < Nat.pow 2 32 :=
    Nat.div_lt_of_lt_mul identifier.isLt
  have word : (firstWord identifier).toNat = identifier.toNat / Nat.pow 16 24 :=
    calc
      (firstWord identifier).toNat = (identifier.toNat >>> 96) % Nat.pow 2 32 :=
        BitVec.extractLsb'_toNat ..
      _ = identifier.toNat / Nat.pow 16 24 % Nat.pow 2 32 := by
        rw [Nat.shiftRight_eq_div_pow]
      _ = identifier.toNat / Nat.pow 16 24 := Nat.mod_eq_of_lt small
  rw [suffix, word]
  exact (Text.take_hexDigits suffixLength 24 identifier.toNat).symm

/-- A group can be read from the names that carry it, and from these only. -/
structure IsCarried (group : String) : Prop where
  /-- The group is what stands in front of a dash and eight digits. -/
  read :
    ∀ name,
      groupOf? name = some group ↔
        group ≠ "" ∧ ∃ ending, IsEnding ending ∧ name = group ++ "-" ++ ending
  /--
  The name that is made for it ends in the first digits of a random identifier.
  -/
  named :
    ∀ identifier,
      uniqueName group (firstWord identifier) =
        group ++ "-" ++ String.ofList ((identifierDigits identifier).take 8)
  /-- A group is read back from every name that is made for it. -/
  readBack : group ≠ "" → ∀ word, groupOf? (uniqueName group word) = some group
  /-- Names that are made for different groups are different. -/
  apart :
    group ≠ "" →
      ∀ other, other ≠ "" → other ≠ group →
        ∀ word otherWord, uniqueName group word ≠ uniqueName other otherWord
  /-- A name that is made for no group carries none. -/
  groupless : group = "" → ∀ word, groupOf? (uniqueName group word) = none

/--
Groups can be told from names, and the group of a generated name is the one it
was made for.
-/
theorem names_carry_their_groups
    (group : String) :
    IsCarried group := by
  have read (made : String) (word : UInt32) :
      groupOf? (uniqueName made word) =
        if made = "" then none else some made := by
    rw [uniqueName_eq, groupOf?_named (isEnding_suffix word)]
  refine ⟨fun name => groupOf?_eq_some_iff, fun identifier => ?_,
    fun nonempty word => ?_, ?_, ?_⟩
  · rw [uniqueName_eq, suffix_firstWord]
    rfl
  · rw [read, if_neg nonempty]
  · intro nonempty other otherNonempty different word otherWord same
    have reads := read group word
    rw [same, read, if_neg otherNonempty, if_neg nonempty] at reads
    exact different (Option.some.inj reads)
  · intro empty word
    rw [read, if_pos empty]

end DropletClient.Naming
