import DropletClient.Json.Reader
import DropletClient.Proofs.Json.Lexeme

namespace DropletClient.Json

/-!
# Spellings of values

A spelling is a value as it stands in a text: its scalars letter by letter, and
the members of objects in their order, repeated names included. A text is read
as what it spells, however it is laid out: `ofText?_eq_of_laidOut`.
-/

/-- A value as it is spelled. -/
inductive Spelling where
  | scalar (scalar : Scalar)
  | array (items : List Spelling)
  | object (members : List (Quoted × Spelling))

namespace Lexeme

def beginObject : Lexeme := .mark '\x7b' .beginObject rfl

def endObject : Lexeme := .mark '\x7d' .endObject rfl

def beginArray : Lexeme := .mark '[' .beginArray rfl

def endArray : Lexeme := .mark ']' .endArray rfl

def colon : Lexeme := .mark ':' .colon rfl

def comma : Lexeme := .mark ',' .comma rfl

/-- A name or a text. -/
def quoted (parts : Quoted) : Lexeme := .scalar (.quoted parts)

end Lexeme

/-- The value that is spelled without parts. -/
def Scalar.value? (spelling : Scalar) : Option Json :=
  spelling.token?.bind fun token =>
    match token with
    | .null => some .null
    | .boolean value => some (.boolean value)
    | .number value => some (.number value)
    | .text value => some (.text value)
    | _ => none

namespace Spelling

mutual

/-- The lexemes of a spelling. -/
def lexemes : Spelling → List Lexeme
  | .scalar spelling => [.scalar spelling]
  | .array [] => [.beginArray, .endArray]
  | .array (item :: rest) => .beginArray :: (lexemes item ++ laterItems rest)
  | .object [] => [.beginObject, .endObject]
  | .object ((name, value) :: rest) =>
      .beginObject :: .quoted name :: .colon ::
        (lexemes value ++ laterMembers rest)

/-- What follows an item of an array. -/
def laterItems : List Spelling → List Lexeme
  | [] => [.endArray]
  | item :: rest => .comma :: (lexemes item ++ laterItems rest)

/-- What follows a member of an object. -/
def laterMembers : List (Quoted × Spelling) → List Lexeme
  | [] => [.endObject]
  | (name, value) :: rest =>
      .comma :: .quoted name :: .colon :: (lexemes value ++ laterMembers rest)

end

mutual

/--
The value that is spelled inside of some containers, if everything in it
can be read.
-/
def read? (depth : Nat) : Spelling → Option Json
  | .scalar spelling => spelling.value?
  | .array items =>
      if depth < greatestDepth then
        (readItems? (depth + 1) items).map .array
      else
        none
  | .object members =>
      if depth < greatestDepth then
        (readMembers? (depth + 1) members).map .object
      else
        none

def readItems? (depth : Nat) : List Spelling → Option (List Json)
  | [] => some []
  | item :: rest => do
      let value ← read? depth item
      let later ← readItems? depth rest
      some (value :: later)

def readMembers?
    (depth : Nat) :
    List (Quoted × Spelling) → Option (List (String × Json))
  | [] => some []
  | (name, spelling) :: rest => do
      let text ← name.text?
      let value ← read? depth spelling
      let later ← readMembers? depth rest
      some ((text, value) :: later)

end

/-- What a lexeme does to the machine that reads values. -/
def act (reader : Reader) (lexeme : Lexeme) : Option Reader :=
  lexeme.token?.bind reader.step

/-- Lexemes are read one by one as they are read as tokens. -/
theorem foldlM_tokens
    (lexemes : List Lexeme)
    (reader : Reader) :
    ((lexemes.mapM Lexeme.token?).bind fun tokens =>
        tokens.foldlM Reader.step reader) =
      lexemes.foldlM act reader := by
  induction lexemes generalizing reader with
  | nil => rfl
  | cons lexeme rest inductionHypothesis =>
      simp only [List.mapM_cons, List.foldlM_cons, act, ← inductionHypothesis]
      cases lexeme.token? with
      | none => rfl
      | some token =>
          simp only [Option.bind_eq_bind, Option.bind_some]
          cases rest.mapM Lexeme.token? with
          | none => cases reader.step token <;> rfl
          | some tokens => rfl

/-- A scalar is complete at once. -/
theorem act_scalar
    (frames : List Frame)
    (spelling : Scalar) :
    act (.awaitValue frames) (.scalar spelling) =
      spelling.value?.map (.complete frames) := by
  cases spelling with
  | word first rest letters =>
      simp only [act, Lexeme.token?, Scalar.value?, Scalar.token?, wordToken?]
      split
      · rfl
      · split
        · rfl
        · split <;> rfl
  | numeral first rest begins goesOn =>
      simp only [act, Lexeme.token?, Scalar.value?, Scalar.token?]
      cases readNumber? (first :: rest) <;> rfl
  | quoted parts =>
      simp only [act, Lexeme.token?, Scalar.value?, Scalar.token?]
      cases parts.text? <;> rfl

/-- No value begins with the end of an array. -/
theorem exists_first_lexeme
    (spelling : Spelling) :
    ∃ first rest,
      spelling.lexemes = first :: rest ∧ first.token? ≠ some .endArray := by
  match spelling with
  | .scalar (.word first rest letters) =>
      refine ⟨_, [], rfl, ?_⟩
      simp only [Lexeme.token?, Scalar.token?, wordToken?]
      repeat' split
      all_goals simp
  | .scalar (.numeral first rest begins goesOn) =>
      refine ⟨_, [], rfl, ?_⟩
      simp [Lexeme.token?, Scalar.token?]
  | .scalar (.quoted parts) =>
      refine ⟨_, [], rfl, ?_⟩
      simp [Lexeme.token?, Scalar.token?]
  | .array [] => exact ⟨.beginArray, _, rfl, by decide⟩
  | .array (item :: rest) => exact ⟨.beginArray, _, rfl, by decide⟩
  | .object [] => exact ⟨.beginObject, _, rfl, by decide⟩
  | .object ((name, value) :: rest) => exact ⟨.beginObject, _, rfl, by decide⟩

/-- The first item of an array is read like every value. -/
private theorem foldlM_firstItem
    (frames : List Frame)
    (item : Spelling) :
    item.lexemes.foldlM act (.awaitFirstItem frames) =
      item.lexemes.foldlM act (.awaitValue (.items [] :: frames)) := by
  obtain ⟨first, rest, shape, noEnd⟩ := exists_first_lexeme item
  have same :
      act (.awaitFirstItem frames) first =
        act (.awaitValue (.items [] :: frames)) first := by
    unfold act
    cases is : first.token? with
    | none => rfl
    | some token =>
        have other : token ≠ .endArray := fun isEnd => noEnd (by rw [is, isEnd])
        exact if_neg other
  rw [shape, List.foldlM_cons, List.foldlM_cons, same]

private theorem act_beginArray
    (frames : List Frame) :
    act (.awaitValue frames) .beginArray =
      if frames.length < greatestDepth then some (.awaitFirstItem frames)
      else none :=
  rfl

private theorem act_beginObject
    (frames : List Frame) :
    act (.awaitValue frames) .beginObject =
      if frames.length < greatestDepth then some (.awaitFirstName frames)
      else none :=
  rfl

private theorem act_firstName
    (frames : List Frame)
    (name : Quoted) :
    act (.awaitFirstName frames) (.quoted name) =
      name.text?.map (.awaitColon frames []) := by
  simp only [act, Lexeme.quoted, Lexeme.token?, Scalar.token?]
  cases name.text? <;> rfl

private theorem act_name
    (frames : List Frame)
    (read : List (String × Json))
    (name : Quoted) :
    act (.awaitName frames read) (.quoted name) =
      name.text?.map (.awaitColon frames read) := by
  simp only [act, Lexeme.quoted, Lexeme.token?, Scalar.token?]
  cases name.text? <;> rfl

private theorem act_colon
    (frames : List Frame)
    (read : List (String × Json))
    (name : String) :
    act (.awaitColon frames read name) .colon =
      some (.awaitValue (.members read name :: frames)) :=
  rfl

mutual

/-- The machine reads a spelling as its value. -/
theorem foldlM_lexemes :
    ∀ (spelling : Spelling) (frames : List Frame),
      spelling.lexemes.foldlM act (.awaitValue frames) =
        (spelling.read? frames.length).map (.complete frames)
  | .scalar spelling, frames => by
      rw [lexemes, read?, List.foldlM_cons, act_scalar]
      cases spelling.value? <;> rfl
  | .array [], frames => by
      rw [lexemes, read?, List.foldlM_cons, act_beginArray]
      split <;> rfl
  | .array (item :: rest), frames => by
      rw [lexemes, read?, List.foldlM_cons, act_beginArray]
      split
      case isFalse => rfl
      case isTrue =>
        have first := foldlM_lexemes item (.items [] :: frames)
        simp only [Option.bind_eq_bind, Option.bind_some, List.foldlM_append,
          foldlM_firstItem, first, List.length_cons, readItems?]
        cases read? (frames.length + 1) item with
        | none => rfl
        | some value =>
            have later := foldlM_laterItems rest frames [] value
            simp only [Option.map_some, Option.bind_some, later]
            cases readItems? (frames.length + 1) rest <;> rfl
  | .object [], frames => by
      rw [lexemes, read?, List.foldlM_cons, act_beginObject]
      split <;> rfl
  | .object ((name, value) :: rest), frames => by
      rw [lexemes, read?, List.foldlM_cons, act_beginObject]
      split
      case isFalse => rfl
      case isTrue =>
        simp only [Option.bind_eq_bind, Option.bind_some, List.foldlM_cons,
          act_firstName, readMembers?]
        cases name.text? with
        | none => rfl
        | some text =>
            have first := foldlM_lexemes value (.members [] text :: frames)
            simp only [Option.map_some, Option.bind_some, act_colon,
              List.foldlM_append, Option.bind_eq_bind, first, List.length_cons]
            cases read? (frames.length + 1) value with
            | none => rfl
            | some read =>
                have later := foldlM_laterMembers rest frames [] text read
                simp only [Option.map_some, Option.bind_some, later]
                cases readMembers? (frames.length + 1) rest <;> rfl

theorem foldlM_laterItems :
    ∀ (items : List Spelling)
      (frames : List Frame)
      (read : List Json)
      (value : Json),
      (laterItems items).foldlM act (.complete (.items read :: frames) value) =
        (readItems? (frames.length + 1) items).map fun later =>
          .complete frames (.array ((value :: read).reverse ++ later))
  | [], frames, read, value => by
      have closes :
          act (.complete (.items read :: frames) value) .endArray =
            some (.complete frames (.array (value :: read).reverse)) :=
        rfl
      rw [laterItems, readItems?, List.foldlM_cons, closes, Option.map_some,
        List.append_nil]
      rfl
  | item :: rest, frames, read, value => by
      have goesOn :
          act (.complete (.items read :: frames) value) .comma =
            some (.awaitValue (.items (value :: read) :: frames)) :=
        rfl
      have first := foldlM_lexemes item (.items (value :: read) :: frames)
      simp only [laterItems, readItems?, List.foldlM_cons, goesOn,
        Option.bind_eq_bind, Option.bind_some, List.foldlM_append, first,
        List.length_cons]
      cases read? (frames.length + 1) item with
      | none => rfl
      | some next =>
          have later := foldlM_laterItems rest frames (value :: read) next
          simp only [Option.map_some, Option.bind_some, later]
          cases readItems? (frames.length + 1) rest with
          | none => rfl
          | some values => simp

theorem foldlM_laterMembers :
    ∀ (members : List (Quoted × Spelling))
      (frames : List Frame)
      (read : List (String × Json))
      (name : String)
      (value : Json),
      (laterMembers members).foldlM act
          (.complete (.members read name :: frames) value) =
        (readMembers? (frames.length + 1) members).map fun later =>
          .complete frames (.object (((name, value) :: read).reverse ++ later))
  | [], frames, read, name, value => by
      have closes :
          act (.complete (.members read name :: frames) value) .endObject =
            some (.complete frames (.object ((name, value) :: read).reverse)) :=
        rfl
      rw [laterMembers, readMembers?, List.foldlM_cons, closes, Option.map_some,
        List.append_nil]
      rfl
  | (nextName, next) :: rest, frames, read, name, value => by
      have goesOn :
          act (.complete (.members read name :: frames) value) .comma =
            some (.awaitName frames ((name, value) :: read)) :=
        rfl
      simp only [laterMembers, readMembers?, List.foldlM_cons, goesOn,
        Option.bind_eq_bind, Option.bind_some, act_name]
      cases nextName.text? with
      | none => rfl
      | some text =>
          have first :=
            foldlM_lexemes
              next (.members ((name, value) :: read) text :: frames)
          simp only [Option.map_some, Option.bind_some, act_colon,
            List.foldlM_append, Option.bind_eq_bind, first, List.length_cons]
          cases read? (frames.length + 1) next with
          | none => rfl
          | some nextValue =>
              have later :=
                foldlM_laterMembers rest frames ((name, value) :: read)
                  text nextValue
              simp only [Option.map_some, Option.bind_some, later]
              cases readMembers? (frames.length + 1) rest with
              | none => rfl
              | some members => simp

end

end Spelling

/-- A text is read as what it spells, however it is laid out. -/
theorem ofText?_eq_of_laidOut
    {spelling : Spelling}
    {text : List Char}
    (laidOut : LaidOut spelling.lexemes text) :
    ofText? text = spelling.read? 0 := by
  calc
    ofText? text = (spelling.lexemes.mapM Lexeme.token?).bind ofTokens? := by
      rw [ofText?, scan_eq_of_laidOut laidOut]
    _ = (spelling.lexemes.foldlM Spelling.act (.awaitValue [])).bind
        Reader.result? := by
      rw [← Spelling.foldlM_tokens, Option.bind_assoc]
      rfl
    _ = spelling.read? 0 := by
      rw [Spelling.foldlM_lexemes]
      cases spelling.read? 0 <;> rfl

end DropletClient.Json
