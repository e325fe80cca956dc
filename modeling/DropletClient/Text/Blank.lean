namespace DropletClient.Text

/-!
# White space

The white space of Unicode, and the removal of it from both ends of a text.
`trim_eq_nil_iff` says that a text is blank exactly when nothing remains of it.
-/

/-- The inclusive ranges of code points with the property White_Space. -/
def blankRanges : List (Nat × Nat) :=
  [(0x9, 0xD), (0x20, 0x20), (0x85, 0x85), (0xA0, 0xA0), (0x1680, 0x1680),
   (0x2000, 0x200A), (0x2028, 0x2029), (0x202F, 0x202F), (0x205F, 0x205F),
   (0x3000, 0x3000)]

/-- A code point lies in one of the inclusive ranges. -/
def inRanges (ranges : List (Nat × Nat)) (character : Char) : Bool :=
  ranges.any fun range => range.1 ≤ character.toNat && character.toNat ≤ range.2

/-- White space is what carries the property White_Space. -/
def isBlank (character : Char) : Bool :=
  inRanges blankRanges character

/-- What follows the leading white space. -/
def trimStart (text : List Char) : List Char :=
  text.dropWhile isBlank

/-- What precedes the trailing white space. -/
def trimEnd (text : List Char) : List Char :=
  (text.reverse.dropWhile isBlank).reverse

/-- What lies between the leading and the trailing white space. -/
def trim (text : List Char) : List Char :=
  trimEnd (trimStart text)

/-- A text is blank if it holds nothing but white space. -/
def allBlank (text : List Char) : Bool :=
  text.all isBlank

/-- A text is blank exactly when nothing follows its leading white space. -/
theorem trimStart_eq_nil_iff
    (text : List Char) :
    trimStart text = [] ↔ allBlank text = true := by
  unfold trimStart allBlank
  induction text with
  | nil => simp
  | cons head rest inductionHypothesis =>
      by_cases accepted : isBlank head = true
      · simp only [List.dropWhile_cons, accepted, if_true, List.all_cons,
          Bool.true_and]
        exact inductionHypothesis
      · simp [accepted]

/-- A text is blank exactly when trimming leaves nothing of it. -/
theorem trim_eq_nil_iff
    (text : List Char) :
    trim text = [] ↔ allBlank text = true := by
  rw [← trimStart_eq_nil_iff]
  constructor
  · intro nothing
    cases shape : trimStart text with
    | nil => rfl
    | cons head rest =>
        have refused := List.head?_dropWhile_not isBlank text
        rw [show text.dropWhile isBlank = head :: rest from shape] at refused
        have accepted := (trimStart_eq_nil_iff (trimStart text).reverse).1
          (List.reverse_eq_nil_iff.1 nothing)
        rw [shape] at accepted
        simp_all [allBlank]
  · intro nothing
    rw [trim, nothing]
    rfl

/-- The text of a string without the white space around it. -/
def trimmed (text : String) : String :=
  String.ofList (trim text.toList)

/-- A string is blank if it holds nothing but white space. -/
def isBlankString (text : String) : Bool :=
  allBlank text.toList

end DropletClient.Text
