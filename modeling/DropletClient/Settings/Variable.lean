import DropletClient.Settings.Basic
import DropletClient.Settings.Source
import DropletClient.Text.Blank
import DropletClient.Text.Split

namespace DropletClient.Settings.Variable

/-!
# Variables of the environment

The name of a variable tells which setting it makes, and a longer name reaches
inside of a setting, which then is no plain value. The value is given a type
before it is used: what looks like a number, a truth value, a list or a
dictionary is one, and everything else is a text.
-/

/-- A text in lower-case ASCII letters. -/
def lowerCase (text : List Char) : List Char :=
  text.map Char.toLower

/-- Two underscores stand for a point. -/
def pointed : List Char → List Char
  | '_' :: '_' :: rest => '.' :: pointed rest
  | character :: rest => character :: pointed rest
  | [] => []

/--
The parts of the name of a variable, behind what all names of settings begin
with. The case of the letters does not matter, and no part is empty.
-/
def parts? (name : String) : Option (List String) :=
  let letters := lowerCase (Text.trim name.toList)
  let start := lowerCase Setting.variableStart.toList
  if start.isPrefixOf letters then
    let parts :=
      (Text.split '.' (pointed (letters.drop start.length))).map String.ofList
    if parts.any String.isEmpty then none else some parts
  else
    none

/-- A blank between the parts of a value. -/
def isGap (character : Char) : Bool :=
  character == ' ' || character == '\t' || character == '\n'

/-- What follows the blanks in front of a text. -/
def skipGap (text : List Char) : List Char :=
  text.dropWhile isGap

/-- A character that a word does not contain. -/
def isSeparator (character : Char) : Bool :=
  character == ',' || character == '\x7b' || character == '\x7d' ||
    character == '[' || character == ']'

/--
A character of a name without quotes in a dictionary: an ASCII letter or digit,
or one of two marks.
-/
def isNameCharacter (character : Char) : Bool :=
  character.isAlphanum || character == '_' || character == '-'

/-- What follows an optional sign. -/
def unsigned : List Char → List Char
  | '+' :: rest => rest
  | '-' :: rest => rest
  | rest => rest

/--
The whole number that a word is: one of 64 bits, or a negative one of 64 bits
with a sign.
-/
def integer? : List Char → Option Int
  | '-' :: rest =>
      (Text.Decimal.value? rest).bind fun value =>
        if value ≤ Nat.pow 2 63 then some (-(value : Int)) else none
  | word =>
      (Text.Decimal.value? (unsigned word)).bind fun value =>
        if value < SourceValue.numberLimit then some value else none

/-- An exponent, or nothing. -/
def isExponent : List Char → Bool
  | [] => true
  | letter :: rest =>
      (letter == 'e' || letter == 'E') &&
        (Text.Decimal.value? (unsigned rest)).isSome

/--
A word is a decimal fraction: it has a point, and digits on one side of it
at least.
-/
def isFraction (word : List Char) : Bool :=
  let (whole, afterWhole) := (unsigned word).span Text.Decimal.isDigit
  match afterWhole with
  | '.' :: afterPoint =>
      let (fraction, rest) := afterPoint.span Text.Decimal.isDigit
      !(whole.isEmpty && fraction.isEmpty) && isExponent rest
  | _ => false

/-- The type of a word. -/
def ofWord (word : List Char) : SourceValue :=
  if isFraction word then .other
  else
    match integer? word with
    | some value => .integer value
    | none => .text (String.ofList word)

/-- The name of a member of a dictionary, quoted or not, and what follows it. -/
def skipName? (text : List Char) : Option (List Char) :=
  match text with
  | '"' :: rest => (Text.Escape.text? rest).map Prod.snd
  | _ =>
      match text.span isNameCharacter with
      | ([], _) => none
      | (_, rest) => some rest

mutual

/-- A value with the blanks around it, and what follows it. -/
def value? : (fuel : Nat) → List Char → Option (SourceValue × List Char)
  | 0, _ => none
  | fuel + 1, text =>
      match skipGap text with
      | 't' :: 'r' :: 'u' :: 'e' :: rest => some (.boolean true, skipGap rest)
      | 'f' :: 'a' :: 'l' :: 's' :: 'e' :: rest =>
          some (.boolean false, skipGap rest)
      | '\'' :: character :: '\'' :: rest =>
          some (.text (String.singleton character), skipGap rest)
      | '\'' :: _ => none
      | '"' :: rest =>
          (Text.Escape.text? rest).map fun (value, rest) =>
            (.text (String.ofList value), skipGap rest)
      | '[' :: rest => (items? fuel rest).map fun rest => (.other, skipGap rest)
      | '\x7b' :: rest =>
          (members? fuel rest).map fun rest => (.other, skipGap rest)
      | rest =>
          let (word, rest) := rest.span fun character => !isSeparator character
          some (ofWord (Text.trim word), rest)

/-- What follows the items of a list and its closing bracket. -/
def items? : (fuel : Nat) → List Char → Option (List Char)
  | 0, _ => none
  | _, ']' :: rest => some rest
  | fuel + 1, text => do
      let (_, rest) ← value? fuel text
      match rest with
      | ',' :: rest => items? fuel rest
      | ']' :: rest => some rest
      | _ => none

/-- What follows the members of a dictionary and its closing brace. -/
def members? : (fuel : Nat) → List Char → Option (List Char)
  | 0, _ => none
  | _, '\x7d' :: rest => some rest
  | fuel + 1, text => do
      let rest ← skipName? (skipGap text)
      match skipGap rest with
      | '=' :: rest => do
          let (_, rest) ← value? fuel rest
          match rest with
          | ',' :: rest => members? fuel rest
          | '\x7d' :: rest => some rest
          | _ => none
      | _ => none

end

/-- Words between commas, without brackets or quotes around them, are a list. -/
def isBareList (value : List Char) : Bool :=
  value.contains ',' &&
    match value with
    | '[' :: _ => false
    | '\x7b' :: _ => false
    | '"' :: _ => false
    | '\'' :: _ => false
    | _ => true

/-- The value of a variable with its type. -/
def typed (value : String) : SourceValue :=
  let characters := Text.trim value.toList
  if isBareList characters then .other
  else
    match value? (2 * characters.length + 2) characters with
    | some (value, []) => value
    | _ => .text (String.ofList characters)

/-- What a variable gives for a setting, if it is about that setting. -/
def valueFor? (setting : Setting) (name value : String) : Option SourceValue :=
  match parts? name with
  | some [part] => if part == setting.key then some (typed value) else none
  | some (part :: _) => if part == setting.key then some .other else none
  | _ => none

end DropletClient.Settings.Variable
