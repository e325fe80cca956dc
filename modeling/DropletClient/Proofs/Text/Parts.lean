import DropletClient.Proofs.Text.Run
import DropletClient.Text.Blank
import DropletClient.Text.Split

namespace DropletClient.Text

/-!
# Parts of a text

A part without the separator is split off whole, and how many separators there
are tells whether there are some in the parts. A text that neither begins nor
ends with white space is left as it is by trimming.
-/

theorem split_of_not_mem
    {separator : Char}
    {text : List Char}
    (absent : separator ∉ text) :
    split separator text = [text] := by
  induction text with
  | nil => rfl
  | cons character rest inductionHypothesis =>
      have other : character ≠ separator :=
        fun same => absent (same ▸ List.mem_cons_self ..)
      have absentRest : separator ∉ rest :=
        fun member => absent (List.mem_cons_of_mem _ member)
      rw [split, if_neg other, inductionHypothesis absentRest]

/-- The texts on both sides of a separator are split on their own. -/
theorem split_append_separator
    (separator : Char)
    (text rest : List Char) :
    split separator (text ++ separator :: rest) =
      split separator text ++ split separator rest := by
  induction text with
  | nil => simp [split]
  | cons character later inductionHypothesis =>
      rw [List.cons_append, split, split, inductionHypothesis]
      split
      · rfl
      · cases shape : split separator later with
        | nil => exact absurd shape (split_ne_nil separator later)
        | cons part parts => rfl

/-- What is in front of the first separator is the first part. -/
theorem split_append
    {separator : Char}
    {part : List Char}
    (absent : separator ∉ part)
    (rest : List Char) :
    split separator (part ++ separator :: rest) =
      part :: split separator rest := by
  rw [split_append_separator, split_of_not_mem absent, List.singleton_append]

/-- Separators in front of a text have empty parts before them. -/
theorem split_replicate_append
    (separator : Char)
    (count : Nat)
    (text : List Char) :
    split separator (List.replicate count separator ++ text) =
      List.replicate count [] ++ split separator text := by
  induction count with
  | zero => rfl
  | succ count inductionHypothesis =>
      rw [List.replicate_succ, List.cons_append, split, if_pos rfl,
        inductionHypothesis, List.replicate_succ, List.cons_append]

/-- Separators behind a text have empty parts behind them. -/
theorem split_append_replicate
    (separator : Char)
    (text : List Char)
    (count : Nat) :
    split separator (text ++ List.replicate count separator) =
      split separator text ++ List.replicate count [] := by
  induction count with
  | zero =>
      rw [List.replicate_zero, List.replicate_zero, List.append_nil,
        List.append_nil]
  | succ count inductionHypothesis =>
      rw [List.replicate_succ', ← List.append_assoc, split_append_separator,
        inductionHypothesis, split, List.append_assoc, ← List.replicate_succ']

/--
Parts without the separator are what their joining is split into, if
there are any.
-/
theorem split_join
    {separator : Char}
    {parts : List (List Char)}
    (some : parts ≠ [])
    (absent : ∀ part ∈ parts, separator ∉ part) :
    split separator (join [separator] parts) = parts := by
  induction parts with
  | nil => exact absurd rfl some
  | cons part rest inductionHypothesis =>
      obtain ⟨absentPart, absentRest⟩ := List.forall_mem_cons.mp absent
      cases rest with
      | nil => exact split_of_not_mem absentPart
      | cons next later =>
          have joined :
              join [separator] (part :: next :: later) =
                part ++ separator :: join [separator] (next :: later) := by
            simp [join]
          rw [joined, split_append absentPart,
            inductionHypothesis (by simp) absentRest]

/-- Parts with nothing between them are what they are one after the other. -/
theorem join_nil_eq_flatten
    (parts : List (List Char)) :
    join [] parts = parts.flatten := by
  induction parts with
  | nil => rfl
  | cons part rest inductionHypothesis =>
      cases rest with
      | nil => exact (List.append_nil part).symm
      | cons next later =>
          rw [join, inductionHypothesis, List.append_nil]
          · rfl
          · exact List.cons_ne_nil next later

/-- A text has one part more than it holds separators. -/
theorem length_split
    (separator : Char)
    (text : List Char) :
    (split separator text).length = text.count separator + 1 := by
  induction text with
  | nil => rfl
  | cons character rest inductionHypothesis =>
      rw [split, List.count_cons]
      by_cases same : character = separator
      · subst same
        rw [if_pos rfl, List.length_cons, inductionHypothesis,
          if_pos (beq_self_eq_true _)]
      · rw [if_neg same, if_neg (by simpa using same), Nat.add_zero,
          ← inductionHypothesis]
        cases shape : split separator rest with
        | nil => exact absurd shape (split_ne_nil separator rest)
        | cons part parts => rfl

/-- Joined parts hold their separators, and one between any two of them. -/
theorem count_join
    (separator : Char)
    (parts : List (List Char)) :
    (join [separator] parts).count separator =
      parts.flatten.count separator + (parts.length - 1) := by
  induction parts with
  | nil => rfl
  | cons part rest inductionHypothesis =>
      cases rest with
      | nil => simp [join]
      | cons next later =>
          rw [join, List.count_append, List.count_append, inductionHypothesis,
            List.count_singleton_self]
          · simp only [List.flatten_cons, List.count_append, List.length_cons]
            omega
          · exact List.cons_ne_nil next later

/--
Parts without the separator are told apart again if each of them is
ended by one.
-/
theorem split_terminated
    {separator : Char}
    {parts : List (List Char)}
    (absent : ∀ part ∈ parts, separator ∉ part) :
    split separator (parts.flatMap (· ++ [separator])) = parts ++ [[]] := by
  induction parts with
  | nil => rfl
  | cons part rest inductionHypothesis =>
      obtain ⟨absentPart, absentRest⟩ := List.forall_mem_cons.mp absent
      rw [List.flatMap_cons, List.append_assoc, List.singleton_append,
        split_append absentPart, inductionHypothesis absentRest,
        List.cons_append]

/--
Parts of which each is ended by a separator hold their separators, and one for
each of them.
-/
theorem count_terminated
    (separator : Char)
    (parts : List (List Char)) :
    (parts.flatMap (· ++ [separator])).count separator =
      parts.flatten.count separator + parts.length := by
  induction parts with
  | nil => rfl
  | cons part rest inductionHypothesis =>
      rw [List.flatMap_cons, List.count_append, List.count_append,
        inductionHypothesis, List.count_singleton_self, List.flatten_cons,
        List.count_append, List.length_cons]
      omega

/-- What is in a part is in what the parts are joined to. -/
theorem mem_join_of_mem
    {between part : List Char}
    {parts : List (List Char)}
    {character : Char}
    (isPart : part ∈ parts)
    (member : character ∈ part) :
    character ∈ join between parts := by
  induction parts with
  | nil => cases isPart
  | cons first rest inductionHypothesis =>
      cases rest with
      | nil =>
          cases List.mem_singleton.mp isPart
          exact member
      | cons next later =>
          rw [join, List.append_assoc]
          · rcases List.mem_cons.mp isPart with rfl | isLater
            · exact List.mem_append_left _ member
            · exact List.mem_append_right _
                (List.mem_append_right _ (inductionHypothesis isLater))
          · exact List.cons_ne_nil next later

/-- What is joined comes from the parts and from what is put between them. -/
theorem mem_join
    {between : List Char}
    {parts : List (List Char)}
    {character : Char}
    (member : character ∈ join between parts) :
    character ∈ between ∨ ∃ part ∈ parts, character ∈ part := by
  induction parts with
  | nil => cases member
  | cons part rest inductionHypothesis =>
      cases rest with
      | nil => exact .inr ⟨part, List.mem_cons_self .., member⟩
      | cons next later =>
          rcases List.mem_append.mp member with inFront | inRest
          · rcases List.mem_append.mp inFront with inPart | inBetween
            · exact .inr ⟨part, List.mem_cons_self .., inPart⟩
            · exact .inl inBetween
          · rcases inductionHypothesis inRest with
              inBetween | ⟨other, otherMember, inOther⟩
            · exact .inl inBetween
            · exact .inr ⟨other, List.mem_cons_of_mem _ otherMember, inOther⟩

/-- No part holds the separator. -/
theorem not_mem_of_mem_split
    {separator : Char}
    {text part : List Char}
    (member : part ∈ split separator text) :
    separator ∉ part := by
  induction text generalizing part with
  | nil =>
      rw [List.mem_singleton.mp member]
      exact List.not_mem_nil
  | cons character rest inductionHypothesis =>
      rw [split] at member
      split at member
      case isTrue =>
        rcases List.mem_cons.mp member with rfl | later
        · exact List.not_mem_nil
        · exact inductionHypothesis later
      case isFalse other =>
        split at member
        case h_1 none => exact absurd none (split_ne_nil separator rest)
        case h_2 first parts shape =>
          rw [shape] at inductionHypothesis
          rcases List.mem_cons.mp member with rfl | later
          · have absent := inductionHypothesis (List.mem_cons_self ..)
            exact List.not_mem_cons_of_ne_of_not_mem (Ne.symm other) absent
          · exact inductionHypothesis (List.mem_cons_of_mem _ later)

theorem trimEnd_eq_self
    {text : List Char}
    (ends : ∀ character,
      text.getLast? = some character → isBlank character = false) :
    trimEnd text = text := by
  rw [← List.head?_reverse] at ends
  rw [trimEnd, dropWhile_of_ended ends, List.reverse_reverse]

/-- White space at the end does not count. -/
theorem trimEnd_append_blanks
    {text blanks : List Char}
    (blank : ∀ character ∈ blanks, isBlank character = true) :
    trimEnd (text ++ blanks) = trimEnd text := by
  have blankBackwards : ∀ character ∈ blanks.reverse,
      isBlank character = true :=
    fun character member => blank character (List.mem_reverse.mp member)
  rw [trimEnd, trimEnd, List.reverse_append,
    List.dropWhile_append_of_pos blankBackwards]

/-- What is removed from the end of a text is white space. -/
theorem exists_blanks_of_trimEnd
    (text : List Char) :
    ∃ blanks, text = trimEnd text ++ blanks ∧
      ∀ character ∈ blanks, isBlank character = true := by
  refine ⟨(text.reverse.takeWhile isBlank).reverse, ?_,
    fun character member => ?_⟩
  · rw [trimEnd, ← List.reverse_append, List.takeWhile_append_dropWhile,
      List.reverse_reverse]
  · exact List.all_eq_true.mp List.all_takeWhile character
      (List.mem_reverse.mp member)

/-- What is removed from both ends of a text is white space. -/
theorem exists_blanks_of_trim
    (text : List Char) :
    ∃ front back,
      text = front ++ (trim text ++ back) ∧
        ∀ character ∈ front ++ back, isBlank character = true := by
  obtain ⟨back, shape, blank⟩ := exists_blanks_of_trimEnd (trimStart text)
  refine ⟨text.takeWhile isBlank, back, ?_, fun character member => ?_⟩
  · rw [trim, ← shape]
    exact List.takeWhile_append_dropWhile.symm
  · rcases List.mem_append.mp member with inFront | inBack
    · exact List.all_eq_true.mp List.all_takeWhile character inFront
    · exact blank character inBack

/-- Trimming leaves something of a text to be seen if there was something. -/
theorem allBlank_trim
    (text : List Char) :
    allBlank (trim text) = allBlank text := by
  obtain ⟨front, back, shape, blank⟩ := exists_blanks_of_trim text
  obtain ⟨blankFront, blankBack⟩ := List.forall_mem_append.mp blank
  have sides : front.all isBlank = true ∧ back.all isBlank = true :=
    ⟨List.all_eq_true.mpr blankFront, List.all_eq_true.mpr blankBack⟩
  have whole := congrArg (List.all · isBlank) shape
  simp only [List.all_append, sides, Bool.true_and, Bool.and_true] at whole
  exact whole.symm

theorem trimEnd_trimEnd
    (text : List Char) :
    trimEnd (trimEnd text) = trimEnd text := by
  obtain ⟨blanks, shape, blank⟩ := exists_blanks_of_trimEnd text
  have trimmed := congrArg trimEnd shape
  rw [trimEnd_append_blanks blank] at trimmed
  exact trimmed.symm

/--
White space at the end is removed only, if the text does not begin with any.
-/
theorem trim_eq_trimEnd
    {text : List Char}
    (starts : ∀ character,
      text.head? = some character → isBlank character = false) :
    trim text = trimEnd text := by
  rw [trim, trimStart, dropWhile_of_ended starts]

/-- White space on both sides does not count. -/
theorem trim_surrounded
    {front back : List Char}
    (blank : ∀ character ∈ front ++ back, isBlank character = true)
    (text : List Char) :
    trim (front ++ (text ++ back)) = trim text := by
  obtain ⟨blankFront, blankBack⟩ := List.forall_mem_append.mp blank
  rw [trim, trimStart, List.dropWhile_append_of_pos blankFront,
    List.dropWhile_append]
  split
  case isTrue nothing =>
    have noBack : back.dropWhile isBlank = [] :=
      (trimStart_eq_nil_iff back).mpr (List.all_eq_true.mpr blankBack)
    have noText : trimStart text = [] := List.isEmpty_iff.mp nothing
    rw [noBack, trim, noText]
  case isFalse =>
    rw [trimEnd_append_blanks blankBack]
    rfl

theorem trim_eq_self
    {text : List Char}
    (starts : ∀ character,
      text.head? = some character → isBlank character = false)
    (ends : ∀ character,
      text.getLast? = some character → isBlank character = false) :
    trim text = text := by
  rw [trim_eq_trimEnd starts, trimEnd_eq_self ends]

end DropletClient.Text
