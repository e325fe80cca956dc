import DropletClient.Portable.OperatingSystem
import DropletClient.Proofs.Text.Pattern

namespace DropletClient.OperatingSystem

open Text (IsRun Pattern isDecimalDigit)

/-!
# What the name of an image tells

The version and the architecture of an operating system are parts of the name of
its image. Which parts they are is said in two ways: by what stands in front of
them and behind them, and as what a search for a pattern finds.
-/

/--
A run of digits, with the dot and the run of digits behind it if there are such.
-/
inductive IsVersion : (version after : List Char) → Prop where
  | whole
      {major after : List Char}
      (nonempty : major ≠ [])
      (isRun : IsRun isDecimalDigit major after)
      (noFraction :
        ∀ digit rest,
          after = '.' :: digit :: rest → isDecimalDigit digit = false) :
      IsVersion major after
  | fraction
      {major minor after : List Char}
      (nonempty : major ≠ [])
      (isRun : IsRun isDecimalDigit major ('.' :: (minor ++ after)))
      (minorNonempty : minor ≠ [])
      (minorIsRun : IsRun isDecimalDigit minor after) :
      IsVersion (major ++ '.' :: minor) after

/-- A version stands in a name, and there is no digit in front of it. -/
structure IsFirstVersion (name before version after : List Char) : Prop where
  shape : name = before ++ (version ++ after)
  noDigit : ∀ character ∈ before, isDecimalDigit character = false
  isVersion : IsVersion version after

/-- An `x` with two digits behind it. -/
def IsArchitecture (text : List Char) : Prop :=
  ∃ first second,
    text = ['x', first, second] ∧
      isDecimalDigit first = true ∧
      isDecimalDigit second = true

/-- An architecture stands in a name, and none begins in front of it. -/
structure IsFirstArchitecture (name before text after : List Char) : Prop where
  shape : name = before ++ (text ++ after)
  isArchitecture : IsArchitecture text
  leftmost :
    ∀ front other back,
      name = front ++ (other ++ back) → IsArchitecture other →
        before.length ≤ front.length

/-- Digits, which there may be a dot in front of. -/
def fractionPattern : Pattern :=
  .sequence (.optional (.one (· == '.'))) (.run isDecimalDigit)

/-- Digits, and what may follow them. -/
def versionPattern : Pattern :=
  .sequence (.run isDecimalDigit) (.optional fractionPattern)

/-- An `x` and two digits. -/
def architecturePattern : Pattern :=
  .sequence (.one (· == 'x'))
    (.sequence (.one isDecimalDigit) (.one isDecimalDigit))

section Version

variable {name before version after : List Char}

theorem IsVersion.exists_digit
    (isVersion : IsVersion version after) :
    ∃ digit rest, version = digit :: rest ∧ isDecimalDigit digit = true := by
  cases isVersion with
  | whole nonempty isRun noFraction =>
      obtain ⟨digit, rest, rfl⟩ := List.exists_cons_of_ne_nil nonempty
      exact ⟨digit, rest, rfl, isRun.accepted digit (List.mem_cons_self ..)⟩
  | fraction nonempty isRun minorNonempty minorIsRun =>
      obtain ⟨digit, rest, rfl⟩ := List.exists_cons_of_ne_nil nonempty
      exact ⟨digit, _, rfl, isRun.accepted digit (List.mem_cons_self ..)⟩

theorem IsVersion.ne_nil
    (isVersion : IsVersion version after) :
    version ≠ [] := by
  obtain ⟨digit, rest, rfl, -⟩ := isVersion.exists_digit
  exact List.cons_ne_nil digit rest

/-- Where no fraction begins, none is read. -/
theorem minorVersion_eq_nil
    (noFraction : ∀ digit rest,
      after = '.' :: digit :: rest → isDecimalDigit digit = false) :
    minorVersion after = [] := by
  unfold minorVersion
  split
  case h_1 rest =>
    have ended : ∀ next ∈ rest.head?, isDecimalDigit next = false := by
      intro next isNext
      obtain ⟨later, rfl⟩ := List.head?_eq_some_iff.mp isNext
      exact noFraction next later rfl
    rw [Text.takeWhile_of_ended ended]
    rfl
  case h_2 => rfl

theorem minorVersion_fraction
    {minor : List Char}
    (nonempty : minor ≠ [])
    (isRun : IsRun isDecimalDigit minor after) :
    minorVersion ('.' :: (minor ++ after)) = '.' :: minor := by
  rw [minorVersion, isRun.takeWhile_eq]
  exact if_neg (by simpa using nonempty)

/-- What stands in front of the first version is passed over. -/
theorem IsFirstVersion.dropWhile_eq
    (isFirst : IsFirstVersion name before version after) :
    name.dropWhile (fun character => !isDecimalDigit character) =
      version ++ after := by
  obtain ⟨digit, rest, shape, isDigit⟩ := isFirst.isVersion.exists_digit
  have isRun : IsRun (fun character => !isDecimalDigit character) before
      (version ++ after) := by
    refine ⟨fun character member => ?_, fun next isNext => ?_⟩
    · simp [isFirst.noDigit character member]
    · rw [shape] at isNext
      cases isNext
      simp [isDigit]
  rw [isFirst.shape, isRun.dropWhile_eq]

/-- The version that is read is the first one in the name. -/
theorem IsFirstVersion.firstVersion_eq
    (isFirst : IsFirstVersion name before version after) :
    firstVersion name = version := by
  have start := isFirst.dropWhile_eq
  rw [firstVersion, start]
  cases isFirst.isVersion with
  | whole nonempty isRun noFraction =>
      rw [isRun.takeWhile_eq, isRun.dropWhile_eq,
        minorVersion_eq_nil noFraction, List.append_nil]
  | fraction nonempty isRun minorNonempty minorIsRun =>
      rw [List.append_assoc, List.cons_append, isRun.takeWhile_eq,
        isRun.dropWhile_eq, minorVersion_fraction minorNonempty minorIsRun]

theorem firstVersion_of_noDigit
    (noDigit : ∀ character ∈ name, isDecimalDigit character = false) :
    firstVersion name = [] := by
  have isRun : IsRun (fun character => !isDecimalDigit character) name [] :=
    ⟨fun character member => by simp [noDigit character member], by simp⟩
  have passedOver := isRun.dropWhile_eq
  rw [List.append_nil] at passedOver
  rw [firstVersion, passedOver]
  rfl

/-- There is a version wherever a text begins with a digit. -/
theorem exists_isVersion
    {digit : Char}
    (isDigit : isDecimalDigit digit = true)
    (rest : List Char) :
    ∃ version after,
      digit :: rest = version ++ after ∧ IsVersion version after := by
  obtain ⟨major, after, shape, isRun⟩ :=
    Text.exists_isRun isDecimalDigit (digit :: rest)
  have nonempty := isRun.ne_nil shape isDigit
  by_cases goesOn : ∃ next later,
    after = '.' :: next :: later ∧ isDecimalDigit next = true
  · obtain ⟨next, later, rfl, isNext⟩ := goesOn
    obtain ⟨minor, rest, minorShape, minorIsRun⟩ :=
      Text.exists_isRun isDecimalDigit (next :: later)
    have minorNonempty := minorIsRun.ne_nil minorShape isNext
    rw [minorShape] at shape isRun
    exact ⟨major ++ '.' :: minor, rest, by simp [shape],
      .fraction nonempty isRun minorNonempty minorIsRun⟩
  · refine ⟨major, after, shape,
      .whole nonempty isRun fun next later goes => ?_⟩
    cases isNext : isDecimalDigit next with
    | false => rfl
    | true => exact absurd ⟨next, later, goes, isNext⟩ goesOn

/-- A name with a digit has a first version. -/
theorem exists_isFirstVersion
    (hasDigit : ¬ ∀ character ∈ name, isDecimalDigit character = false) :
    ∃ before version after, IsFirstVersion name before version after := by
  obtain ⟨before, start, shape, isRun⟩ :=
    Text.exists_isRun (fun character => !isDecimalDigit character) name
  have noDigit : ∀ character ∈ before, isDecimalDigit character = false :=
    fun character member => by simpa using isRun.accepted character member
  cases start with
  | nil =>
      rw [List.append_nil] at shape
      exact absurd (shape ▸ noDigit) hasDigit
  | cons digit rest =>
      have isDigit : isDecimalDigit digit = true := by
        simpa using isRun.ended digit rfl
      obtain ⟨version, after, startShape, isVersion⟩ :=
        exists_isVersion isDigit rest
      exact ⟨before, version, after, by rw [shape, startShape], noDigit,
        isVersion⟩

/--
A name with a first version has a digit, the one that the version begins with.
-/
theorem IsFirstVersion.hasDigit
    (isFirst : IsFirstVersion name before version after) :
    ¬ ∀ character ∈ name, isDecimalDigit character = false := by
  intro noDigit
  obtain ⟨digit, rest, shape, isDigit⟩ := isFirst.isVersion.exists_digit
  have member : digit ∈ name := by
    rw [isFirst.shape, shape]
    simp
  rw [noDigit digit member] at isDigit
  cases isDigit

/-- Behind a run of digits, nothing matches where no fraction begins. -/
theorem candidates_fraction_eq_nil
    (ended : ∀ next ∈ after.head?, isDecimalDigit next = false)
    (noFraction : ∀ digit rest,
      after = '.' :: digit :: rest → isDecimalDigit digit = false) :
    fractionPattern.candidates after = [] := by
  have noRun : Pattern.runCandidates isDecimalDigit after = [] :=
    Pattern.candidates_run_of_ended ended
  cases after with
  | nil => rfl
  | cons next rest =>
      by_cases isDot : next = '.'
      · subst isDot
        have noLater : Pattern.runCandidates isDecimalDigit rest = [] := by
          apply Pattern.candidates_run_of_ended
          intro digit isDigit
          obtain ⟨later, rfl⟩ := List.head?_eq_some_iff.mp isDigit
          exact noFraction digit later rfl
        simp [fractionPattern, Pattern.candidates, noRun, noLater]
      · simp [fractionPattern, Pattern.candidates, noRun, isDot]

/-- The version pattern prefers the whole version, with its fraction. -/
theorem IsVersion.head?_candidates
    (isVersion : IsVersion version after) :
    (versionPattern.candidates (version ++ after)).head? =
      some (version, after) := by
  cases isVersion with
  | whole nonempty isRun noFraction =>
      have major := Pattern.head?_candidates_run isRun nonempty
      have nothing := Pattern.head?_candidates_optional fractionPattern after
      rw [candidates_fraction_eq_nil isRun.ended noFraction] at nothing
      have whole := Pattern.head?_candidates_sequence major nothing
      rwa [List.append_nil] at whole
  | @fraction majorDigits minor after nonempty isRun minorNonempty minorIsRun =>
      have major := Pattern.head?_candidates_run isRun nonempty
      have dot :
          ((Pattern.optional (.one (· == '.'))).candidates
              ('.' :: (minor ++ after))).head? =
            some (['.'], minor ++ after) :=
        rfl
      have digits := Pattern.head?_candidates_run minorIsRun minorNonempty
      have goesOn :
          (fractionPattern.candidates ('.' :: (minor ++ after))).head? = _ :=
        Pattern.head?_candidates_sequence dot digits
      have taken :=
        Pattern.head?_candidates_optional fractionPattern
          ('.' :: (minor ++ after))
      rw [goesOn] at taken
      have whole := Pattern.head?_candidates_sequence major taken
      rwa [List.append_assoc, List.cons_append]

/-- No version begins at a character that is not a digit. -/
theorem candidates_version_of_noDigit
    {character : Char}
    (noDigit : isDecimalDigit character = false)
    (rest : List Char) :
    versionPattern.candidates (character :: rest) = [] := by
  simp [versionPattern, Pattern.candidates, Pattern.runCandidates, noDigit]

/-- A search for the version pattern finds the first version. -/
theorem IsFirstVersion.find?_eq
    (isFirst : IsFirstVersion name before version after) :
    versionPattern.find? name = some version := by
  have found := Pattern.find?_of_head? isFirst.isVersion.head?_candidates
  obtain ⟨rfl, noDigit, -⟩ := isFirst
  induction before with
  | nil => exact found
  | cons character rest inductionHypothesis =>
      obtain ⟨noDigitHere, noDigitLater⟩ := List.forall_mem_cons.mp noDigit
      rw [List.cons_append,
        Pattern.find?_cons (candidates_version_of_noDigit noDigitHere _)]
      exact inductionHypothesis noDigitLater

theorem find?_version_of_noDigit
    (noDigit : ∀ character ∈ name, isDecimalDigit character = false) :
    versionPattern.find? name = none := by
  induction name with
  | nil => rfl
  | cons character rest inductionHypothesis =>
      obtain ⟨noDigitHere, noDigitLater⟩ := List.forall_mem_cons.mp noDigit
      rw [Pattern.find?_cons (candidates_version_of_noDigit noDigitHere _)]
      exact inductionHypothesis noDigitLater

/--
What is read from a name as its version: nothing, or the first one that it has.
-/
inductive ReadsVersion (name : List Char) : (read : List Char) → Prop where
  | nothing
      (noDigit : ∀ character ∈ name, isDecimalDigit character = false) :
      ReadsVersion name []
  | first
      {before version after : List Char}
      (isFirst : IsFirstVersion name before version after) :
      ReadsVersion name version

theorem readsVersion_firstVersion
    (name : List Char) :
    ReadsVersion name (firstVersion name) := by
  by_cases noDigit : ∀ character ∈ name, isDecimalDigit character = false
  · rw [firstVersion_of_noDigit noDigit]
    exact .nothing noDigit
  · obtain ⟨before, version, after, isFirst⟩ := exists_isFirstVersion noDigit
    rw [isFirst.firstVersion_eq]
    exact .first isFirst

theorem firstVersion_eq_nil_iff :
    firstVersion name = [] ↔
      ∀ character ∈ name, isDecimalDigit character = false := by
  have reads := readsVersion_firstVersion name
  generalize firstVersion name = read at reads ⊢
  cases reads with
  | nothing noDigit => exact iff_of_true rfl noDigit
  | first isFirst =>
      exact iff_of_false isFirst.isVersion.ne_nil isFirst.hasDigit

/-- What is read as a version is the first one in the name. -/
theorem isFirstVersion_firstVersion
    (present : firstVersion name ≠ []) :
    ∃ before after, IsFirstVersion name before (firstVersion name) after := by
  have reads := readsVersion_firstVersion name
  generalize firstVersion name = read at reads present ⊢
  cases reads with
  | nothing noDigit => exact absurd rfl present
  | first isFirst => exact ⟨_, _, isFirst⟩

/--
The last dot has no digit behind it, and the dot in front of it only one run.
-/
example : firstVersion "Ubuntu 12.04. x64".toList = "12.04".toList := by
  decide

/--
A search for the version pattern finds the first version, if there is one.
-/
theorem find?_version
    (name : List Char) :
    versionPattern.find? name =
      if firstVersion name = [] then none else some (firstVersion name) := by
  have reads := readsVersion_firstVersion name
  generalize firstVersion name = read at reads ⊢
  cases reads with
  | nothing noDigit => exact find?_version_of_noDigit noDigit
  | first isFirst => rw [isFirst.find?_eq, if_neg isFirst.isVersion.ne_nil]

end Version

section Architecture

variable {name before text after : List Char} {character : Char}

/-- An architecture stands at the start of a text. -/
def BeginsArchitecture (text : List Char) : Prop :=
  ∃ architecture after,
    text = architecture ++ after ∧ IsArchitecture architecture

/-- An architecture stands somewhere in a name. -/
def HasArchitecture (name : List Char) : Prop :=
  ∃ before text after, name = before ++ (text ++ after) ∧ IsArchitecture text

theorem IsArchitecture.ne_nil
    (isArchitecture : IsArchitecture text) :
    text ≠ [] := by
  obtain ⟨first, second, rfl, -, -⟩ := isArchitecture
  exact List.cons_ne_nil 'x' [first, second]

/--
An architecture stands at the start of a name, or behind its first character.
-/
theorem hasArchitecture_cons :
    HasArchitecture (character :: name) ↔
      BeginsArchitecture (character :: name) ∨ HasArchitecture name := by
  constructor
  · rintro ⟨before, text, after, shape, isArchitecture⟩
    cases before with
    | nil => exact .inl ⟨text, after, shape, isArchitecture⟩
    | cons first rest =>
        obtain ⟨-, shape⟩ := List.cons.inj shape
        exact .inr ⟨rest, text, after, shape, isArchitecture⟩
  · rintro (⟨text, after, shape, isArchitecture⟩
      | ⟨before, text, after, rfl, isArchitecture⟩)
    · exact ⟨[], text, after, shape, isArchitecture⟩
    · exact ⟨character :: before, text, after, rfl, isArchitecture⟩

/--
The first architecture of a name is also the first one behind a character at
which none begins.
-/
theorem IsFirstArchitecture.cons
    (isFirst : IsFirstArchitecture name before text after)
    (noStart : ¬ BeginsArchitecture (character :: name)) :
    IsFirstArchitecture (character :: name) (character :: before)
      text after where
  shape := congrArg (character :: ·) isFirst.shape
  isArchitecture := isFirst.isArchitecture
  leftmost := by
    intro front other back shape isArchitecture
    cases front with
    | nil => exact absurd ⟨other, back, shape, isArchitecture⟩ noStart
    | cons first rest =>
        obtain ⟨-, shape⟩ := List.cons.inj shape
        exact Nat.succ_le_succ
          (isFirst.leftmost rest other back shape isArchitecture)

/-- A name has one first architecture only. -/
theorem IsFirstArchitecture.unique
    {otherBefore other otherAfter : List Char}
    (isFirst : IsFirstArchitecture name before text after)
    (otherwise : IsFirstArchitecture name otherBefore other otherAfter) :
    text = other := by
  have sameStart : before.length = otherBefore.length :=
    Nat.le_antisymm
      (isFirst.leftmost _ _ _ otherwise.shape otherwise.isArchitecture)
      (otherwise.leftmost _ _ _ isFirst.shape isFirst.isArchitecture)
  have sameName := isFirst.shape.symm.trans otherwise.shape
  obtain ⟨-, sameRest⟩ := List.append_inj sameName sameStart
  obtain ⟨first, second, rfl, -, -⟩ := isFirst.isArchitecture
  obtain ⟨otherFirst, otherSecond, rfl, -, -⟩ := otherwise.isArchitecture
  exact (List.append_inj sameRest rfl).1

theorem firstArchitecture_append
    (isArchitecture : IsArchitecture text)
    (after : List Char) :
    firstArchitecture (text ++ after) = text := by
  obtain ⟨first, second, rfl, isFirst, isSecond⟩ := isArchitecture
  simp [firstArchitecture, isFirst, isSecond]

theorem firstArchitecture_cons
    (noStart : ¬ BeginsArchitecture (character :: name)) :
    firstArchitecture (character :: name) = firstArchitecture name := by
  rw [firstArchitecture.eq_def]
  split
  case h_1 first second rest shape =>
    obtain ⟨rfl, rfl⟩ := List.cons.inj shape
    refine if_neg fun digits =>
      noStart ⟨['x', first, second], rest, rfl, first, second, rfl, ?_⟩
    simpa using digits
  case h_2 first rest _ shape =>
    obtain ⟨-, rfl⟩ := List.cons.inj shape
    rfl
  case h_3 shape => cases shape

/-- The architecture is a part of the name. -/
theorem mem_of_mem_firstArchitecture
    (member : character ∈ firstArchitecture name) :
    character ∈ name := by
  fun_induction firstArchitecture name with
  | case1 first second rest digits =>
      exact List.mem_append_left rest member
  | case2 first second rest noDigits inductionHypothesis =>
      exact List.mem_cons_of_mem 'x' (inductionHypothesis member)
  | case3 first rest other inductionHypothesis =>
      exact List.mem_cons_of_mem first (inductionHypothesis member)
  | case4 => cases member

theorem head?_candidates_architecture
    (isArchitecture : IsArchitecture text)
    (after : List Char) :
    (architecturePattern.candidates (text ++ after)).head? =
      some (text, after) := by
  obtain ⟨first, second, rfl, isFirst, isSecond⟩ := isArchitecture
  simp [architecturePattern, Pattern.candidates, isFirst, isSecond]

/-- What the architecture pattern matches is an architecture. -/
theorem isArchitecture_of_mem_candidates
    (candidate : (text, after) ∈ architecturePattern.candidates name) :
    name = text ++ after ∧ IsArchitecture text := by
  obtain ⟨mark, digits, back, marks, goesOn, rfl⟩ :=
    Pattern.mem_candidates_sequence.mp candidate
  obtain ⟨front, rest, last, begins, ends, rfl⟩ :=
    Pattern.mem_candidates_sequence.mp goesOn
  obtain ⟨character, isMark, rfl, rfl⟩ := Pattern.mem_candidates_one.mp marks
  obtain ⟨first, isFirst, rfl, rfl⟩ := Pattern.mem_candidates_one.mp begins
  obtain ⟨second, isSecond, rfl, rfl⟩ := Pattern.mem_candidates_one.mp ends
  obtain rfl := beq_iff_eq.mp isMark
  exact ⟨rfl, first, second, rfl, isFirst, isSecond⟩

theorem candidates_architecture_eq_nil
    (noStart : ¬ BeginsArchitecture name) :
    architecturePattern.candidates name = [] := by
  refine List.eq_nil_iff_forall_not_mem.mpr fun ⟨text, after⟩ candidate =>
    noStart ?_
  obtain ⟨shape, isArchitecture⟩ := isArchitecture_of_mem_candidates candidate
  exact ⟨text, after, shape, isArchitecture⟩

/--
What is read from a name as its architecture: nothing, or the first one
that it has.
-/
inductive ReadsArchitecture (name : List Char) : (read : List Char) → Prop where
  | nothing
      (absent : ¬ HasArchitecture name) :
      ReadsArchitecture name []
  | first
      {before text after : List Char}
      (isFirst : IsFirstArchitecture name before text after) :
      ReadsArchitecture name text

theorem readsArchitecture_firstArchitecture
    (name : List Char) :
    ReadsArchitecture name (firstArchitecture name) := by
  induction name with
  | nil =>
      refine .nothing ?_
      rintro ⟨before, text, after, shape, isArchitecture⟩
      have nothing :=
        List.append_eq_nil_iff.mp (List.append_eq_nil_iff.mp shape.symm).2
      exact isArchitecture.ne_nil nothing.1
  | cons character rest inductionHypothesis =>
      by_cases starts : BeginsArchitecture (character :: rest)
      · obtain ⟨text, after, shape, isArchitecture⟩ := starts
        rw [shape, firstArchitecture_append isArchitecture]
        exact .first ⟨(List.nil_append _).symm, isArchitecture,
          fun _ _ _ _ _ => Nat.zero_le _⟩
      · rw [firstArchitecture_cons starts]
        generalize firstArchitecture rest = read at inductionHypothesis ⊢
        cases inductionHypothesis with
        | nothing absent =>
            exact .nothing fun present =>
              (hasArchitecture_cons.mp present).elim starts absent
        | first isFirst => exact .first (isFirst.cons starts)

theorem firstArchitecture_eq_nil_iff :
    firstArchitecture name = [] ↔ ¬ HasArchitecture name := by
  have reads := readsArchitecture_firstArchitecture name
  generalize firstArchitecture name = read at reads ⊢
  cases reads with
  | nothing absent => exact iff_of_true rfl absent
  | first isFirst =>
      refine iff_of_false isFirst.isArchitecture.ne_nil fun absent => absent ?_
      exact ⟨_, _, _, isFirst.shape, isFirst.isArchitecture⟩

/-- What is read as an architecture is the first one in the name. -/
theorem isFirstArchitecture_firstArchitecture
    (present : firstArchitecture name ≠ []) :
    ∃ before after,
      IsFirstArchitecture name before (firstArchitecture name) after := by
  have reads := readsArchitecture_firstArchitecture name
  generalize firstArchitecture name = read at reads present ⊢
  cases reads with
  | nothing absent => exact absurd rfl present
  | first isFirst => exact ⟨_, _, isFirst⟩

/-- The architecture that is read is the first one in the name. -/
theorem IsFirstArchitecture.firstArchitecture_eq
    (isFirst : IsFirstArchitecture name before text after) :
    firstArchitecture name = text := by
  have present : firstArchitecture name ≠ [] := fun absent =>
    firstArchitecture_eq_nil_iff.mp absent
      ⟨_, _, _, isFirst.shape, isFirst.isArchitecture⟩
  obtain ⟨_, _, otherwise⟩ := isFirstArchitecture_firstArchitecture present
  exact otherwise.unique isFirst

/--
A search for the architecture pattern finds the first architecture, if
there is one.
-/
theorem find?_architecture
    (name : List Char) :
    architecturePattern.find? name =
      if firstArchitecture name = [] then none
      else some (firstArchitecture name) := by
  induction name with
  | nil => rfl
  | cons character rest inductionHypothesis =>
      by_cases starts : BeginsArchitecture (character :: rest)
      · obtain ⟨text, after, shape, isArchitecture⟩ := starts
        rw [shape, firstArchitecture_append isArchitecture,
          if_neg isArchitecture.ne_nil]
        exact Pattern.find?_of_head?
          (head?_candidates_architecture isArchitecture after)
      · rw [firstArchitecture_cons starts, ← inductionHypothesis]
        exact Pattern.find?_cons (candidates_architecture_eq_nil starts)

end Architecture

/--
What is told of an operating system that is known from the name of its image:
the version and the architecture are the first ones that stand in the name, if
there are any, and what a search for their patterns finds.
-/
structure TellsName (name : String) (system : OperatingSystem) : Prop where
  versionless :
    system.version = "" ↔
      ∀ character ∈ name.toList, isDecimalDigit character = false
  version :
    system.version ≠ "" →
      ∃ before after,
        IsFirstVersion name.toList before system.version.toList after
  onlyVersion :
    ∀ before version after,
      IsFirstVersion name.toList before version after →
        system.version.toList = version
  versionFound :
    versionPattern.find? name.toList =
      if system.version = "" then none else some system.version.toList
  archless :
    system.arch = "" ↔
      ∀ before text after,
        name.toList = before ++ (text ++ after) → ¬ IsArchitecture text
  arch :
    system.arch ≠ "" →
      ∃ before after,
        IsFirstArchitecture name.toList before system.arch.toList after
  onlyArch :
    ∀ before text after,
      IsFirstArchitecture name.toList before text after →
        system.arch.toList = text
  archFound :
    architecturePattern.find? name.toList =
      if system.arch = "" then none else some system.arch.toList
  is64Bit :
    system.is64Bit = true ↔ system.arch = "x64"

theorem ofList_eq_empty_iff
    (text : List Char) :
    String.ofList text = "" ↔ text = [] := by
  rw [← String.toList_inj, String.toList_ofList]
  exact Iff.rfl

/--
The version and the architecture of an operating system are the first ones in
the name.
-/
theorem image_names_tell_first_matches
    (distribution name : String) :
    TellsName name (ofImageNames distribution name) where
  versionless := by
    rw [ofImageNames, ofList_eq_empty_iff, firstVersion_eq_nil_iff]
  version present := by
    rw [ofImageNames, ne_eq, ofList_eq_empty_iff] at present
    rw [ofImageNames, String.toList_ofList]
    exact isFirstVersion_firstVersion present
  onlyVersion before version after isFirst := by
    rw [ofImageNames, String.toList_ofList, isFirst.firstVersion_eq]
  versionFound := by
    simpa only [ofImageNames, ofList_eq_empty_iff, String.toList_ofList] using
      find?_version name.toList
  archless := by
    rw [ofImageNames, ofList_eq_empty_iff, firstArchitecture_eq_nil_iff]
    constructor
    · intro absent before text after shape isArchitecture
      exact absent ⟨before, text, after, shape, isArchitecture⟩
    · rintro absent ⟨before, text, after, shape, isArchitecture⟩
      exact absent before text after shape isArchitecture
  arch present := by
    rw [ofImageNames, ne_eq, ofList_eq_empty_iff] at present
    rw [ofImageNames, String.toList_ofList]
    exact isFirstArchitecture_firstArchitecture present
  onlyArch before text after isFirst := by
    rw [ofImageNames, String.toList_ofList, isFirst.firstArchitecture_eq]
  archFound := by
    simpa only [ofImageNames, ofList_eq_empty_iff, String.toList_ofList] using
      find?_architecture name.toList
  is64Bit := by
    rw [ofImageNames, ← String.toList_inj, String.toList_ofList]
    exact beq_iff_eq

end DropletClient.OperatingSystem
