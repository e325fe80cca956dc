import DropletClient.Json.Token

namespace DropletClient.Json

/-!
# Lexemes and white space

A JSON text is a sequence of lexemes with white space around them. Whether a
lexeme is a token, and which one, does not depend on what stands next to it, so
the tokens of a text are those of its lexemes: `scan_eq_of_laidOut`.
-/

/--
A part of a quoted text: a character that stands for itself, or one behind a
backslash.
-/
inductive QuotedPart where
  | plain
      (character : Char)
      (noQuote : character ≠ '"')
      (noBackslash : character ≠ '\\')
  | escaped (character : Char)

namespace QuotedPart

def characters : QuotedPart → List Char
  | .plain character _ _ => [character]
  | .escaped character => ['\\', character]

end QuotedPart

/-- A text between its quotes. -/
abbrev Quoted := List QuotedPart

/-- The characters of a quoted text, quotes included. -/
def Quoted.characters (quoted : Quoted) : List Char :=
  '"' :: (quoted.flatMap QuotedPart.characters ++ ['"'])

/-- A text in quotes, with a backslash where a character needs one. -/
def Quoted.ofText (text : String) : Quoted :=
  text.toList.map fun character =>
    if plain : character ≠ '"' ∧
      character ≠ '\\' then .plain character plain.1 plain.2
    else .escaped character

/-- The text that is quoted, if all escapes in it stand for something. -/
def Quoted.text? (quoted : Quoted) : Option String :=
  match scan quoted.characters with
  | some [.text value] => some value
  | _ => none

/--
The spelling of a value without parts: a word, a numeral, or a quoted text.
-/
inductive Scalar where
  | word
      (first : Char)
      (rest : List Char)
      (letters : ∀ letter ∈ first :: rest, isWordLetter letter = true)
  | numeral
      (first : Char)
      (rest : List Char)
      (begins : (Text.Decimal.isDigit first || first == '-') = true)
      (goesOn : ∀ character ∈ rest, isNumeralCharacter character = true)
  | quoted (parts : Quoted)

namespace Scalar

def characters : Scalar → List Char
  | .word first rest _ => first :: rest
  | .numeral first rest _ _ => first :: rest
  | .quoted parts => parts.characters

/-- The token that is spelled, if there is one. -/
def token? : Scalar → Option Token
  | .word first rest _ => wordToken? (first :: rest)
  | .numeral first rest _ _ => (readNumber? (first :: rest)).map .number
  | .quoted parts => parts.text?.map .text

/-- Words and numerals are as long as they can be. -/
def EndsBefore (following : List Char) : Scalar → Prop
  | .word _ _ _ => ∀ next ∈ following.head?, isWordLetter next = false
  | .numeral _ _ _ _ =>
      ∀ next ∈ following.head?, isNumeralCharacter next = false
  | .quoted _ => True

end Scalar

/-- What stands between white space. -/
inductive Lexeme where
  | mark
      (character : Char)
      (token : Token)
      (isMark : markToken? character = some token)
  | scalar (scalar : Scalar)

namespace Lexeme

def characters : Lexeme → List Char
  | .mark character _ _ => [character]
  | .scalar spelling => spelling.characters

def token? : Lexeme → Option Token
  | .mark _ token _ => some token
  | .scalar spelling => spelling.token?

def EndsBefore (following : List Char) : Lexeme → Prop
  | .mark _ _ _ => True
  | .scalar spelling => spelling.EndsBefore following

end Lexeme

/--
Lexemes one after the other, with white space before, between and behind them.
-/
inductive LaidOut : List Lexeme → List Char → Prop where
  | nil :
      LaidOut [] []
  | space
      {lexemes : List Lexeme}
      {text : List Char}
      {character : Char}
      (isSpace : isSpace character = true)
      (rest : LaidOut lexemes text) :
      LaidOut lexemes (character :: text)
  | lexeme
      {lexemes : List Lexeme}
      {text : List Char}
      {lexeme : Lexeme}
      (ends : lexeme.EndsBefore text)
      (rest : LaidOut lexemes text) :
      LaidOut (lexeme :: lexemes) (lexeme.characters ++ text)

/-- What a character gives out stands in front of what is scanned after it. -/
theorem scanFrom_cons
    (mode : Mode)
    (character : Char)
    (rest : List Char) :
    scanFrom mode (character :: rest) =
      (step mode character).bind fun given =>
        (scanFrom given.2 rest).map (given.1 ++ ·) := by
  rw [scanFrom]
  cases step mode character with
  | none => rfl
  | some given =>
      simp only [Option.bind_eq_bind, Option.bind_some]
      cases scanFrom given.2 rest <;> rfl

/-- A character that goes on with an unfinished token gives nothing out. -/
theorem scanFrom_goes_on
    {mode next : Mode}
    {character : Char}
    (goesOn : step mode character = some ([], next))
    (rest : List Char) :
    scanFrom mode (character :: rest) = scanFrom next rest := by
  rw [scanFrom_cons, goesOn]
  simp

/-- What is scanned where a token stands in front. -/
def scanAfter
    (token? : Option Token)
    (following : List Char) :
    Option (List Token) :=
  token?.bind fun token => (scan following).map (token :: ·)

private theorem opening_of_isMark
    {character : Char}
    {token : Token}
    (isMark : markToken? character = some token) :
    opening character = some ([token], .between) := by
  unfold markToken? at isMark
  split at isMark
  all_goals
    cases isMark
    try rfl

/-- A mark is a token on its own, whatever follows it. -/
theorem scan_mark
    {character : Char}
    {token : Token}
    (isMark : markToken? character = some token)
    (following : List Char) :
    scan (character :: following) = scanAfter (some token) following := by
  have opens : step .between character = some ([token], .between) :=
    opening_of_isMark isMark
  rw [scan, scanFrom_cons, opens]
  rfl

/--
Words and numerals are read in the same way: characters are collected as long as
they go on, and then the token is given out and what follows begins anew.
-/
private theorem scanFrom_run
    {unfinished : List Char → Mode}
    {goesOn : Char → Bool}
    {means? : List Char → Option Token}
    (finishes :
      ∀ read, finish (unfinished read) =
        (means? read.reverse).map fun token => [token])
    (steps :
      ∀ read next,
        step (unfinished read) next =
          if goesOn next then
            some ([], unfinished (next :: read))
          else
            (means? read.reverse).bind fun token =>
              (opening next).map fun given => (token :: given.1, given.2))
    {rest following : List Char}
    (read : List Char)
    (runs : ∀ character ∈ rest, goesOn character = true)
    (ends : ∀ next ∈ following.head?, goesOn next = false) :
    scanFrom (unfinished read) (rest ++ following) =
      scanAfter (means? (read.reverse ++ rest)) following := by
  induction rest generalizing read with
  | nil =>
      rw [List.nil_append, List.append_nil]
      cases following with
      | nil =>
          rw [scanFrom, finishes, scanAfter]
          cases means? read.reverse <;> rfl
      | cons next later =>
          have begins :
              scan (next :: later) =
                (opening next).bind fun given =>
                  (scanFrom given.2 later).map (given.1 ++ ·) :=
            scanFrom_cons .between next later
          rw [scanFrom_cons, steps, ends next rfl, scanAfter, begins]
          cases means? read.reverse with
          | none => rfl
          | some token =>
              cases opening next with
              | none => rfl
              | some given => simp [Function.comp_def]
  | cons character later inductionHypothesis =>
      obtain ⟨runsHere, runsLater⟩ := List.forall_mem_cons.mp runs
      have collects :
          step (unfinished read) character =
            some ([], unfinished (character :: read)) := by
        rw [steps, if_pos runsHere]
      rw [List.cons_append, scanFrom_goes_on collects,
        inductionHypothesis _ runsLater, List.reverse_cons, List.append_assoc]
      rfl

private theorem scanFrom_word
    {rest following : List Char}
    (letters : List Char)
    (isWord : ∀ letter ∈ rest, isWordLetter letter = true)
    (ends : ∀ next ∈ following.head?, isWordLetter next = false) :
    scanFrom (.word letters) (rest ++ following) =
      scanAfter (wordToken? (letters.reverse ++ rest)) following := by
  refine scanFrom_run (fun read => rfl) (fun read next => ?_)
    letters isWord ends
  rw [step]
  split
  · rfl
  · cases wordToken? read.reverse with
    | none => rfl
    | some token => cases opening next <;> rfl

private theorem scanFrom_numeral
    {rest following : List Char}
    (characters : List Char)
    (isNumeral : ∀ character ∈ rest, isNumeralCharacter character = true)
    (ends : ∀ next ∈ following.head?, isNumeralCharacter next = false) :
    scanFrom (.numeral characters) (rest ++ following) =
      scanAfter ((readNumber? (characters.reverse ++ rest)).map .number)
        following := by
  refine
    @scanFrom_run .numeral isNumeralCharacter
      (fun read => (readNumber? read).map .number)
      (fun read => ?_) (fun read next => ?_)
        rest following characters isNumeral ends
  · rw [finish]
    cases readNumber? read.reverse <;> rfl
  · rw [step]
    split
    · rfl
    · cases readNumber? read.reverse with
      | none => rfl
      | some token => cases opening next <;> rfl

private theorem opening_of_isWordLetter
    {letter : Char}
    (isLetter : isWordLetter letter = true) :
    opening letter = some ([], .word [letter]) := by
  have low : 97 ≤ letter.toNat := by
    rw [isWordLetter, Bool.and_eq_true, decide_eq_true_iff] at isLetter
    exact isLetter.1
  have noSpace : ¬ isSpace letter = true := by
    intro space
    simp only [isSpace, Bool.or_eq_true, beq_iff_eq] at space
    rcases space with ((rfl | rfl) | rfl) | rfl <;> contradiction
  have noQuote : ¬ (letter == '"') = true := by
    intro quote
    obtain rfl := beq_iff_eq.mp quote
    contradiction
  have noNumeral : ¬ (Text.Decimal.isDigit letter || letter == '-') = true := by
    intro begins
    rcases Bool.or_eq_true .. |>.mp begins with digit | minus
    · simp only [Text.Decimal.isDigit, Bool.and_eq_true,
        decide_eq_true_eq] at digit
      omega
    · obtain rfl := beq_iff_eq.mp minus
      contradiction
  rw [opening, if_neg noSpace, if_neg noQuote, if_neg noNumeral,
    if_pos isLetter]

private theorem opening_of_begins
    {first : Char}
    (begins : (Text.Decimal.isDigit first || first == '-') = true) :
    opening first = some ([], .numeral [first]) := by
  have noSpace : ¬ isSpace first = true := by
    intro space
    simp only [isSpace, Bool.or_eq_true, beq_iff_eq] at space
    rcases space with ((rfl | rfl) | rfl) | rfl <;> contradiction
  have noQuote : ¬ (first == '"') = true := by
    intro quote
    obtain rfl := beq_iff_eq.mp quote
    contradiction
  rw [opening, if_neg noSpace, if_neg noQuote, if_pos begins]

/-- What is being read inside of a quoted text, where a part of it ends. -/
inductive IsInside : Mode → Prop where
  | text (read : List Char) : IsInside (.text read)
  | codeUnit (read : List Char) (leading : Option Nat) (value count : Nat) :
      IsInside (.codeUnit read leading value count)
  | pairEscape (read : List Char) (leading : Nat) :
      IsInside (.pairEscape read leading)

private theorem isInside_of_afterCodeUnit
    {read : List Char}
    {leading : Option Nat}
    {unit : Nat}
    {mode : Mode}
    (continues : afterCodeUnit read leading unit = some mode) :
    IsInside mode := by
  unfold afterCodeUnit at continues
  repeat' split at continues
  all_goals cases continues
  · exact .pairEscape ..
  · exact .text ..
  · exact .text ..

private theorem step_plain
    {mode : Mode}
    {character : Char}
    (inside : IsInside mode)
    (noQuote : character ≠ '"')
    (noBackslash : character ≠ '\\') :
    step mode character = none ∨
      ∃ next, IsInside next ∧ step mode character = some ([], next) := by
  cases inside with
  | text read =>
      rw [step, if_neg (by simpa using noQuote),
        if_neg (by simpa using noBackslash)]
      split
      · exact .inl rfl
      · exact .inr ⟨_, .text _, rfl⟩
  | codeUnit read leading value count =>
      rw [step]
      cases Text.hexValue? character with
      | none => exact .inl rfl
      | some digit =>
          simp only [Option.bind_eq_bind, Option.bind_some]
          split
          · exact .inr ⟨_, .codeUnit .., rfl⟩
          · cases continues :
              afterCodeUnit read leading (value * 16 + digit) with
            | none => exact .inl rfl
            | some mode =>
                exact .inr ⟨mode, isInside_of_afterCodeUnit continues, rfl⟩
  | pairEscape read leading =>
      rw [step, if_neg (by simpa using noBackslash)]
      exact .inl rfl

theorem scanFrom_refused
    {mode : Mode}
    {character : Char}
    (refused : step mode character = none)
    (rest : List Char) :
    scanFrom mode (character :: rest) = none := by
  rw [scanFrom_cons, refused]
  rfl

private theorem scanFrom_escaped
    {mode : Mode}
    (inside : IsInside mode)
    (character : Char) :
    (∀ rest, scanFrom mode ('\\' :: character :: rest) = none) ∨
      ∃ next,
        IsInside next ∧
          ∀ rest,
            scanFrom mode ('\\' :: character :: rest) = scanFrom next rest := by
  cases inside with
  | text read =>
      have begins : step (.text read) '\\' = some ([], .escape read) := rfl
      by_cases codeUnit : character = 'u'
      · subst codeUnit
        have opens :
            step (.escape read) 'u' = some ([], .codeUnit read none 0 0) :=
          rfl
        refine .inr ⟨_, .codeUnit read none 0 0, fun rest => ?_⟩
        rw [scanFrom_goes_on begins, scanFrom_goes_on opens]
      · have steps :
            step (.escape read) character =
              (escaped? character).map fun meaning =>
                ([], .text (meaning :: read)) := by
          rw [step, if_neg (by simpa using codeUnit)]
        cases stands : escaped? character with
        | none =>
            rw [stands] at steps
            refine .inl fun rest => ?_
            rw [scanFrom_goes_on begins, scanFrom_refused steps]
        | some meaning =>
            rw [stands] at steps
            refine .inr ⟨_, .text (meaning :: read), fun rest => ?_⟩
            rw [scanFrom_goes_on begins, scanFrom_goes_on steps]
  | codeUnit read leading value count =>
      exact .inl fun rest => scanFrom_refused rfl _
  | pairEscape read leading =>
      have begins : step (.pairEscape read leading) '\\' =
          some ([], .pairLetter read leading) :=
        rfl
      by_cases codeUnit : character = 'u'
      · subst codeUnit
        have opens :
            step (.pairLetter read leading) 'u' =
              some ([], .codeUnit read (some leading) 0 0) :=
          rfl
        refine .inr ⟨_, .codeUnit read (some leading) 0 0, fun rest => ?_⟩
        rw [scanFrom_goes_on begins, scanFrom_goes_on opens]
      · have refused : step (.pairLetter read leading) character = none := by
          rw [step, if_neg (by simpa using codeUnit)]
        refine .inl fun rest => ?_
        rw [scanFrom_goes_on begins, scanFrom_refused refused]

/-- Inside of a quoted text a part is refused, or reading goes on inside. -/
theorem scanFrom_part
    {mode : Mode}
    (inside : IsInside mode)
    (part : QuotedPart) :
    (∀ rest, scanFrom mode (part.characters ++ rest) = none) ∨
      ∃ next,
        IsInside next ∧ ∀ rest,
          scanFrom mode (part.characters ++ rest) = scanFrom next rest := by
  cases part with
  | plain character noQuote noBackslash =>
      rcases step_plain inside noQuote noBackslash with
        refused | ⟨next, stays, goesOn⟩
      · exact .inl fun rest => scanFrom_refused refused rest
      · exact .inr ⟨next, stays, fun rest => scanFrom_goes_on goesOn rest⟩
  | escaped character => exact scanFrom_escaped inside character

/--
A quoted text is refused, whatever follows it, or it is a token, whatever
follows it.
-/
private theorem scanFrom_parts
    {mode : Mode}
    (inside : IsInside mode)
    (parts : Quoted) :
    ∃ text? : Option String,
      ∀ rest,
        scanFrom mode (parts.flatMap QuotedPart.characters ++ '"' :: rest) =
          scanAfter (text?.map .text) rest := by
  induction parts generalizing mode with
  | nil =>
      cases inside with
      | text read =>
          refine ⟨some (String.ofList read.reverse), fun rest => ?_⟩
          have closes :
              step (.text read) '"' =
                some ([.text (String.ofList read.reverse)], .between) :=
            rfl
          rw [List.flatMap_nil, List.nil_append, scanFrom_cons, closes]
          rfl
      | codeUnit read leading value count =>
          exact ⟨none, fun rest => scanFrom_refused rfl rest⟩
      | pairEscape read leading =>
          exact ⟨none, fun rest => scanFrom_refused rfl rest⟩
  | cons part later inductionHypothesis =>
      rcases scanFrom_part inside part with refused | ⟨next, stays, goesOn⟩
      · refine ⟨none, fun rest => ?_⟩
        rw [List.flatMap_cons, List.append_assoc, refused]
        rfl
      · obtain ⟨text?, scans⟩ := inductionHypothesis stays
        refine ⟨text?, fun rest => ?_⟩
        rw [List.flatMap_cons, List.append_assoc, goesOn, scans]

private theorem scan_quoted
    (parts : Quoted)
    (rest : List Char) :
    scan (parts.characters ++ rest) =
      scanAfter (parts.text?.map .text) rest := by
  obtain ⟨text?, scans⟩ := scanFrom_parts (.text []) parts
  have opens : step .between '"' = some ([], .text []) := rfl
  have anywhere :
      ∀ rest,
        scan (parts.characters ++ rest) = scanAfter (text?.map .text) rest := by
    intro rest
    rw [Quoted.characters, List.cons_append, scan, scanFrom_goes_on opens,
      List.append_assoc]
    exact scans rest
  have alone := anywhere []
  rw [List.append_nil] at alone
  have same : parts.text? = text? := by
    rw [Quoted.text?, alone]
    cases text? <;> rfl
  rw [same, anywhere]

private theorem scan_scalar
    {spelling : Scalar}
    {following : List Char}
    (ends : spelling.EndsBefore following) :
    scan (spelling.characters ++ following) =
      scanAfter spelling.token? following := by
  cases spelling with
  | word first rest letters =>
      obtain ⟨isLetter, isWord⟩ := List.forall_mem_cons.mp letters
      have opens : step .between first = some ([], .word [first]) :=
        opening_of_isWordLetter isLetter
      rw [Scalar.characters, List.cons_append, scan, scanFrom_goes_on opens,
        scanFrom_word [first] isWord ends]
      rfl
  | numeral first rest begins goesOn =>
      have opens : step .between first = some ([], .numeral [first]) :=
        opening_of_begins begins
      rw [Scalar.characters, List.cons_append, scan, scanFrom_goes_on opens,
        scanFrom_numeral [first] goesOn ends]
      rfl
  | quoted parts => exact scan_quoted parts following

/-- A lexeme is the same token whatever follows it, if it ends there. -/
theorem scan_lexeme
    {lexeme : Lexeme}
    {following : List Char}
    (ends : lexeme.EndsBefore following) :
    scan (lexeme.characters ++ following) =
      scanAfter lexeme.token? following := by
  cases lexeme with
  | mark character token isMark => exact scan_mark isMark following
  | scalar spelling => exact scan_scalar ends

/-- There is something else than white space in every lexeme. -/
theorem exists_visible
    (lexeme : Lexeme) :
    ∃ character ∈ lexeme.characters,
      isSpace character = false ∧ character ≠ '\x0c' := by
  -- white space begins no token, and neither does the form feed
  have visible
      {first : Char}
      {given : List Token × Mode}
      (opens : opening first = some given)
      (begins : given ≠ ([], .between)) :
      isSpace first = false ∧ first ≠ '\x0c' := by
    constructor
    · cases space : isSpace first with
      | false => rfl
      | true =>
          rw [opening, if_pos space] at opens
          exact absurd (Option.some.inj opens).symm begins
    · rintro rfl
      cases opens
  cases lexeme with
  | mark character token isMark =>
      exact ⟨character, List.mem_singleton.mpr rfl,
        visible (opening_of_isMark isMark) (by simp)⟩
  | scalar spelling =>
      cases spelling with
      | word first rest letters =>
          have opens :=
            opening_of_isWordLetter (letters first (List.mem_cons_self ..))
          exact ⟨first, List.mem_cons_self .., visible opens (by simp)⟩
      | numeral first rest begins goesOn =>
          exact ⟨first, List.mem_cons_self ..,
            visible (opening_of_begins begins) (by simp)⟩
      | quoted parts => exact ⟨'"', List.mem_cons_self .., by decide⟩

/-- The lexemes of a text stand in it whole. -/
theorem LaidOut.subset
    {lexemes : List Lexeme}
    {text : List Char}
    (laidOut : LaidOut lexemes text) :
    ∀ lexeme ∈ lexemes, ∀ character ∈ lexeme.characters, character ∈ text := by
  induction laidOut with
  | nil => exact List.forall_mem_nil _
  | space isSpace rest inductionHypothesis =>
      intro lexeme member character isCharacter
      exact List.mem_cons_of_mem _
        (inductionHypothesis lexeme member character isCharacter)
  | lexeme ends rest inductionHypothesis =>
      refine List.forall_mem_cons.mpr ⟨fun character isCharacter => ?_, ?_⟩
      · exact List.mem_append_left _ isCharacter
      · intro lexeme member character isCharacter
        exact List.mem_append_right _
          (inductionHypothesis lexeme member character isCharacter)

/--
The tokens of a text are those of its lexemes; white space leaves no trace.
-/
theorem scan_eq_of_laidOut
    {lexemes : List Lexeme}
    {text : List Char}
    (laidOut : LaidOut lexemes text) :
    scan text = lexemes.mapM Lexeme.token? := by
  induction laidOut with
  | nil => rfl
  | space isSpace rest inductionHypothesis =>
      rw [scan_blank isSpace, inductionHypothesis]
  | lexeme ends rest inductionHypothesis =>
      rw [scan_lexeme ends, scanAfter, inductionHypothesis, List.mapM_cons]
      simp only [Option.map_eq_bind]
      rfl

end DropletClient.Json
