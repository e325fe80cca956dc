namespace DropletClient.Text

/-!
# Splitting and joining

A text is cut at every occurrence of one character, and parts are joined with a
text between them.
-/

/--
The parts of a text between the occurrences of a separator; there is always one
at least.
-/
def split (separator : Char) : List Char → List (List Char)
  | [] => [[]]
  | character :: rest =>
      if character = separator then
        [] :: split separator rest
      else
        match split separator rest with
        | [] => [[character]]
        | part :: parts => (character :: part) :: parts

/-- The parts one after the other, with a text between them. -/
def join (between : List Char) : List (List Char) → List Char
  | [] => []
  | [part] => part
  | part :: rest => part ++ between ++ join between rest

/-- The strings one after the other, with a text between them. -/
def joinStrings (between : String) (parts : List String) : String :=
  String.ofList (join between.toList (parts.map String.toList))

/-- There is one part at least. -/
theorem split_ne_nil
    (separator : Char)
    (text : List Char) :
    split separator text ≠ [] := by
  cases text with
  | nil => simp [split]
  | cons head rest =>
      simp only [split]
      split
      · simp
      · cases DropletClient.Text.split separator rest <;> simp

end DropletClient.Text
