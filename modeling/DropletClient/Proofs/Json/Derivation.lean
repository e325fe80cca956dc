import DropletClient.Proofs.Json.Spelling
import DropletClient.Proofs.Text.Run

namespace DropletClient.Json

/-!
# Every text that is read is spelled

A text that is read as a value is laid out from the lexemes of a spelling, so
that what holds of all spellings holds of all texts that can be read:
`exists_spelling`. The lexemes are split off the text one by one. That they
spell a value is shown backwards along the run of the machine that reads them.
-/

/-- Up to its closing quote, a text in quotes consists of parts. -/
def ClosesQuote (text : List Char) : Prop :=
  ∃ (parts : Quoted) (following : List Char),
    text = parts.flatMap QuotedPart.characters ++ '"' :: following

/-- Nothing is read of a text that stands inside of quotes. -/
def IsUnread (text : List Char) : Prop :=
  ∀ mode, IsInside mode → scanFrom mode text = none

private theorem closes_or_unread_part
    {text : List Char}
    (part : QuotedPart)
    (behind : ClosesQuote text ∨ IsUnread text) :
    ClosesQuote (part.characters ++ text) ∨
      IsUnread (part.characters ++ text) := by
  rcases behind with ⟨parts, following, rfl⟩ | unread
  · refine .inl ⟨part :: parts, following, ?_⟩
    rw [List.flatMap_cons, List.append_assoc]
  · refine .inr fun mode inside => ?_
    rcases scanFrom_part inside part with refused | ⟨next, stays, goesOn⟩
    · exact refused text
    · rw [goesOn, unread next stays]

private theorem closes_or_unread :
    ∀ text : List Char, ClosesQuote text ∨ IsUnread text
  | [] => by
      refine .inr fun mode inside => ?_
      cases inside <;> rfl
  | [character] => by
      by_cases isQuote : character = '"'
      · exact .inl ⟨[], [], by rw [isQuote]; rfl⟩
      by_cases isBackslash : character = '\\'
      · subst isBackslash
        refine .inr fun mode inside => ?_
        cases inside <;> rfl
      · exact closes_or_unread_part (.plain character isQuote isBackslash)
          (closes_or_unread [])
  | character :: next :: rest => by
      by_cases isQuote : character = '"'
      · exact .inl ⟨[], next :: rest, by rw [isQuote]; rfl⟩
      by_cases isBackslash : character = '\\'
      · subst isBackslash
        exact closes_or_unread_part (.escaped next) (closes_or_unread rest)
      · exact closes_or_unread_part (.plain character isQuote isBackslash)
          (closes_or_unread (next :: rest))

/-- In front of a text that has tokens stands white space or a lexeme. -/
private theorem exists_lexeme
    {character : Char}
    {rest : List Char}
    {tokens : List Token}
    (scanned : scan (character :: rest) = some tokens)
    (visible : isSpace character = false) :
    ∃ (lexeme : Lexeme) (following : List Char),
      lexeme.EndsBefore following ∧
        character :: rest = lexeme.characters ++ following := by
  by_cases isQuote : character = '"'
  · subst isQuote
    rcases closes_or_unread rest with ⟨parts, following, rfl⟩ | unread
    · refine ⟨.quoted parts, following, trivial, ?_⟩
      simp [Lexeme.quoted, Lexeme.characters, Scalar.characters,
        Quoted.characters]
    · have opens : step .between '"' = some ([], .text []) := rfl
      rw [scan, scanFrom_goes_on opens, unread _ (.text [])] at scanned
      cases scanned
  by_cases begins : (Text.Decimal.isDigit character || character == '-') = true
  · refine
        ⟨.scalar (.numeral character (rest.takeWhile isNumeralCharacter) begins
        (Text.isRun_takeWhile _ _).accepted), rest.dropWhile isNumeralCharacter,
      (Text.isRun_takeWhile _ _).ended, ?_⟩
    exact congrArg (character :: ·) List.takeWhile_append_dropWhile.symm
  by_cases isLetter : isWordLetter character = true
  · refine ⟨.scalar (.word character (rest.takeWhile isWordLetter)
        (List.forall_mem_cons.mpr
          ⟨isLetter, (Text.isRun_takeWhile _ _).accepted⟩)),
      rest.dropWhile isWordLetter, (Text.isRun_takeWhile _ _).ended, ?_⟩
    exact congrArg (character :: ·) List.takeWhile_append_dropWhile.symm
  cases isMark : markToken? character with
  | some token => exact ⟨.mark character token isMark, rest, trivial, rfl⟩
  | none =>
      have noSpace : ¬ isSpace character = true := by simp [visible]
      have noQuote : ¬ (character == '"') = true := by simpa using isQuote
      have refused : step .between character = none := by
        rw [step, opening, if_neg noSpace, if_neg noQuote, if_neg begins,
          if_neg isLetter, isMark]
        rfl
      rw [scan, scanFrom_refused refused] at scanned
      cases scanned

/-- A text that has tokens is laid out from lexemes. -/
theorem exists_laidOut
    {text : List Char}
    {tokens : List Token}
    (scanned : scan text = some tokens) :
    ∃ lexemes, LaidOut lexemes text := by
  match text with
  | [] => exact ⟨[], .nil⟩
  | character :: rest =>
      cases visible : isSpace character with
      | true =>
          rw [scan_blank visible] at scanned
          obtain ⟨lexemes, laidOut⟩ := exists_laidOut scanned
          exact ⟨lexemes, .space visible laidOut⟩
      | false =>
          obtain ⟨lexeme, following, ends, shape⟩ :=
            exists_lexeme scanned visible
          rw [shape, scan_lexeme ends, scanAfter] at scanned
          obtain ⟨token, -, scannedToo⟩ := Option.bind_eq_some_iff.mp scanned
          obtain ⟨later, scannedLater, -⟩ :=
            Option.map_eq_some_iff.mp scannedToo
          -- no lexeme is empty, so that there is less text behind it
          have shorter : following.length < rest.length + 1 := by
            obtain ⟨first, isFirst, -⟩ := exists_visible lexeme
            have lengths := congrArg List.length shape
            have := List.length_pos_of_mem isFirst
            simp only [List.length_cons, List.length_append] at lengths
            omega
          obtain ⟨lexemes, laidOut⟩ := exists_laidOut scannedLater
          exact ⟨lexeme :: lexemes, shape ▸ .lexeme ends laidOut⟩
termination_by text.length

/-- The character that a token is on its own, if it is a mark. -/
def Token.mark? : Token → Option Char
  | .beginObject => some '\x7b'
  | .endObject => some '\x7d'
  | .beginArray => some '['
  | .endArray => some ']'
  | .colon => some ':'
  | .comma => some ','
  | _ => none

private theorem mark?_of_markToken?
    {character : Char}
    {token : Token}
    (isMark : markToken? character = some token) :
    token.mark? = some character := by
  unfold markToken? at isMark
  split at isMark
  all_goals
    cases isMark
    try rfl

private theorem mark?_of_scalar
    {spelling : Scalar}
    {token : Token}
    (isToken : spelling.token? = some token) :
    token.mark? = none := by
  cases spelling with
  | word first rest letters =>
      simp only [Scalar.token?, wordToken?] at isToken
      repeat' split at isToken
      all_goals
        cases isToken
        try rfl
  | numeral first rest begins goesOn =>
      obtain ⟨value, -, rfl⟩ := Option.map_eq_some_iff.mp isToken
      rfl
  | quoted parts =>
      obtain ⟨text, -, rfl⟩ := Option.map_eq_some_iff.mp isToken
      rfl

namespace Spelling

/-- What the open containers demand of the lexemes behind a value. -/
def Closes : List Frame → List Lexeme → Prop
  | [], lexemes => lexemes = []
  | .items _ :: outer, lexemes =>
      ∃ items rest, lexemes = laterItems items ++ rest ∧ Closes outer rest
  | .members _ _ :: outer, lexemes =>
      ∃ members rest, lexemes = laterMembers members ++ rest ∧ Closes outer rest

/-- What the machine demands of the lexemes that it has not read yet. -/
def Demands : Reader → List Lexeme → Prop
  | .awaitValue frames, lexemes =>
      ∃ (spelling : Spelling) (rest : List Lexeme),
        lexemes = spelling.lexemes ++ rest ∧ Closes frames rest
  | .awaitFirstItem frames, lexemes =>
      ∃ items rest, .beginArray :: lexemes = (array items).lexemes ++ rest ∧
        Closes frames rest
  | .awaitFirstName frames, lexemes =>
      ∃ members rest,
        .beginObject :: lexemes = (object members).lexemes ++ rest ∧
          Closes frames rest
  | .awaitName frames _, lexemes =>
      ∃ members rest,
        .comma :: lexemes = laterMembers members ++ rest ∧ Closes frames rest
  | .awaitColon frames _ _, lexemes =>
      ∃ (value : Spelling)
          (members : List (Quoted × Spelling))
          (rest : List Lexeme),
        lexemes = .colon :: (value.lexemes ++ (laterMembers members ++ rest)) ∧
          Closes frames rest
  | .complete frames _, lexemes => Closes frames lexemes

variable {frames : List Frame} {reader next : Reader} {lexeme : Lexeme}
  {rest : List Lexeme}

/-- A lexeme that is given out as a mark is that mark. -/
theorem eq_mark
    {character : Char}
    {token : Token}
    {isMark : markToken? character = some token}
    (isToken : lexeme.token? = some token) :
    lexeme = .mark character token isMark := by
  cases lexeme with
  | mark other otherToken isOther =>
      obtain rfl := Option.some.inj isToken
      have same :=
        (mark?_of_markToken? isOther).symm.trans (mark?_of_markToken? isMark)
      obtain rfl := Option.some.inj same
      rfl
  | scalar spelling =>
      have none := mark?_of_scalar isToken
      rw [mark?_of_markToken? isMark] at none
      cases none

/-- A lexeme that is given out as a text is quoted. -/
theorem eq_quoted
    {text : String}
    (isToken : lexeme.token? = some (.text text)) :
    ∃ name, lexeme = .quoted name := by
  match lexeme with
  | .mark character token isMark =>
      obtain rfl := Option.some.inj isToken
      cases mark?_of_markToken? isMark
  | .scalar (.word first rest letters) =>
      simp only [Lexeme.token?, Scalar.token?, wordToken?] at isToken
      repeat' split at isToken
      all_goals cases isToken
  | .scalar (.numeral first rest begins goesOn) =>
      obtain ⟨value, -, isNumber⟩ := Option.map_eq_some_iff.mp isToken
      cases isNumber
  | .scalar (.quoted parts) => exact ⟨parts, rfl⟩

private theorem demands_awaitValue
    (acts : act (.awaitValue frames) lexeme = some next)
    (demands : Demands next rest) :
    Demands (.awaitValue frames) (lexeme :: rest) := by
  cases lexeme with
  | scalar spelling =>
      rw [act_scalar] at acts
      obtain ⟨value, -, rfl⟩ := Option.map_eq_some_iff.mp acts
      exact ⟨.scalar spelling, rest, rfl, demands⟩
  | mark character token isMark =>
      have isCharacter := mark?_of_markToken? isMark
      have begins : Reader.beginValue frames token = some next := acts
      cases token with
      | beginArray =>
          cases isCharacter
          simp only [Reader.beginValue] at begins
          split at begins
          · cases begins
            obtain ⟨items, rest, shape, closes⟩ := demands
            exact ⟨.array items, rest, shape, closes⟩
          · cases begins
      | beginObject =>
          cases isCharacter
          simp only [Reader.beginValue] at begins
          split at begins
          · cases begins
            obtain ⟨members, rest, shape, closes⟩ := demands
            exact ⟨.object members, rest, shape, closes⟩
          · cases begins
      | endObject => cases begins
      | endArray => cases begins
      | colon => cases begins
      | comma => cases begins
      | null => cases isCharacter
      | boolean value => cases isCharacter
      | number value => cases isCharacter
      | text value => cases isCharacter

/--
What is demanded before a lexeme is read follows from what is demanded after it.
-/
theorem Demands.of_act
    (acts : act reader lexeme = some next)
    (demands : Demands next rest) :
    Demands reader (lexeme :: rest) := by
  obtain ⟨token, isToken, steps⟩ := Option.bind_eq_some_iff.mp acts
  cases reader with
  | awaitValue frames => exact demands_awaitValue acts demands
  | awaitFirstItem frames =>
      by_cases isEnd : token = .endArray
      · subst isEnd
        cases steps
        obtain rfl : lexeme = .endArray := eq_mark isToken
        exact ⟨[], rest, rfl, demands⟩
      · have begins :
            act (.awaitValue (.items [] :: frames)) lexeme = some next := by
          rw [act, isToken]
          rwa [Reader.step, if_neg isEnd] at steps
        obtain ⟨item, _, shape, items, rest, rfl, closes⟩ :=
          demands_awaitValue begins demands
        refine ⟨item :: items, rest, ?_, closes⟩
        rw [lexemes, List.cons_append, List.append_assoc, shape]
  | awaitFirstName frames =>
      cases token with
      | endObject =>
          cases steps
          obtain rfl : lexeme = .endObject := eq_mark isToken
          exact ⟨[], rest, rfl, demands⟩
      | text text =>
          cases steps
          obtain ⟨name, rfl⟩ := eq_quoted isToken
          obtain ⟨value, members, rest, rfl, closes⟩ := demands
          refine ⟨(name, value) :: members, rest, ?_, closes⟩
          rw [lexemes, List.cons_append, List.cons_append, List.cons_append,
            List.append_assoc]
      | _ => cases steps
  | awaitName frames read =>
      cases token with
      | text text =>
          cases steps
          obtain ⟨name, rfl⟩ := eq_quoted isToken
          obtain ⟨value, members, rest, rfl, closes⟩ := demands
          refine ⟨(name, value) :: members, rest, ?_, closes⟩
          rw [laterMembers, List.cons_append, List.cons_append,
            List.cons_append, List.append_assoc]
      | _ => cases steps
  | awaitColon frames read name =>
      by_cases isColon : token = .colon
      · subst isColon
        cases steps
        obtain rfl : lexeme = .colon := eq_mark isToken
        obtain ⟨value, _, rfl, members, rest, rfl, closes⟩ := demands
        exact ⟨value, members, rest, rfl, closes⟩
      · rw [Reader.step, if_neg isColon] at steps
        cases steps
  | complete frames value =>
      have continues : Reader.continueAfter frames value token = some next :=
        steps
      unfold Reader.continueAfter at continues
      split at continues
      · cases continues
        obtain rfl : lexeme = .comma := eq_mark isToken
        obtain ⟨item, _, rfl, items, rest, rfl, closes⟩ := demands
        refine ⟨item :: items, rest, ?_, closes⟩
        rw [laterItems, List.cons_append, List.append_assoc]
      · cases continues
        obtain rfl : lexeme = .endArray := eq_mark isToken
        exact ⟨[], rest, rfl, demands⟩
      · cases continues
        obtain rfl : lexeme = .comma := eq_mark isToken
        obtain ⟨members, rest, shape, closes⟩ := demands
        exact ⟨members, rest, shape, closes⟩
      · cases continues
        obtain rfl : lexeme = .endObject := eq_mark isToken
        exact ⟨[], rest, rfl, demands⟩
      · cases continues

/-- What has been read to the end was demanded at its beginning. -/
theorem demands_of_foldlM
    {lexemes : List Lexeme}
    {final : Reader}
    {value : Json}
    (runs : lexemes.foldlM act reader = some final)
    (isResult : final.result? = some value) :
    Demands reader lexemes := by
  induction lexemes generalizing reader with
  | nil =>
      cases runs
      unfold Reader.result? at isResult
      split at isResult
      · rfl
      · cases isResult
  | cons lexeme rest inductionHypothesis =>
      obtain ⟨next, acts, goesOn⟩ := Option.bind_eq_some_iff.mp runs
      exact .of_act acts (inductionHypothesis goesOn)

end Spelling

/-- A text that is read is laid out from a spelling. -/
theorem exists_spelling
    {text : List Char}
    {value : Json}
    (reads : ofText? text = some value) :
    ∃ spelling : Spelling, LaidOut spelling.lexemes text := by
  obtain ⟨tokens, scanned, isValue⟩ := Option.bind_eq_some_iff.mp reads
  obtain ⟨final, runs, isResult⟩ := Option.bind_eq_some_iff.mp isValue
  obtain ⟨lexemes, laidOut⟩ := exists_laidOut scanned
  have acts : lexemes.foldlM Spelling.act (.awaitValue []) = some final := by
    rw [← Spelling.foldlM_tokens, ← scan_eq_of_laidOut laidOut, scanned]
    exact runs
  obtain ⟨spelling, rest, shape, isEnd⟩ :=
    Spelling.demands_of_foldlM acts isResult
  obtain rfl : rest = [] := isEnd
  rw [List.append_nil] at shape
  exact ⟨spelling, shape ▸ laidOut⟩

end DropletClient.Json
