import DropletClient.Identifier

namespace DropletClient.CommandLine

/-!
# Options

What a command accepts behind its name: options with a value, flags, and at most
one argument without a name. The words are read one after the other, and the
first fault or request for help ends the reading.
-/

/-- What an option takes: nothing, a text, or an integer with 32 bits. -/
inductive ValueKind where
  | flag
  | text
  | integer
  deriving Repr, DecidableEq

/-- An option of a command; its value has a name in the help. -/
structure OptionSpec where
  name : String
  kind : ValueKind
  valueName : String
  required : Bool
  repeatable : Bool
  about : String
  deriving Repr, DecidableEq

/-- An argument without a name. -/
structure ArgumentSpec where
  valueName : String
  about : String
  deriving Repr, DecidableEq

/-- What a command accepts. -/
structure CommandSpec where
  name : String
  about : String
  argument : Option ArgumentSpec
  options : List OptionSpec
  deriving Repr, DecidableEq

/--
What was read: options with their values and flags in order, and the argument.
-/
structure Arguments where
  values : List (String × String)
  argument : Option String
  deriving Repr, DecidableEq

namespace Arguments

/-- The value of an option. -/
def value? (arguments : Arguments) (name : String) : Option String :=
  arguments.values.lookup name

/-- All values of an option. -/
def allValues (arguments : Arguments) (name : String) : List String :=
  (arguments.values.filter fun given => given.1 == name).map Prod.snd

/-- A flag is set. -/
def hasFlag (arguments : Arguments) (name : String) : Bool :=
  (arguments.value? name).isSome

end Arguments

/-- Why the reading of words ends early. -/
inductive Stop where
  | usage
  | help
  deriving Repr, DecidableEq

/-- The integer that a word is, without white space around it. -/
def integer? (word : String) : Option Int32 :=
  ((Identifier.integer? word.toList).filter Identifier.inRange).map Int32.ofInt

/-- A word is a value for a kind of option. -/
def accepts : ValueKind → String → Bool
  | .integer, word => (integer? word).isSome
  | _, _ => true

/--
An option that was named and still waits for its value, or whose value was
just read.
-/
structure Pending where
  spec : OptionSpec
  value : Option String
  deriving Repr, DecidableEq

/-- What was read so far; after two dashes every word is an argument. -/
structure Reading where
  arguments : Arguments
  pending : Option Pending
  argumentsOnly : Bool
  deriving Repr, DecidableEq

namespace Reading

/-- Nothing was read yet. -/
def start : Reading :=
  ⟨⟨[], none⟩, none, false⟩

/--
Adds an option with its value; only repeatable ones are given more than once.
-/
def add
    (reading : Reading)
    (spec : OptionSpec)
    (value : String) :
    Except Stop Reading :=
  if !spec.repeatable && reading.arguments.hasFlag spec.name then
    .error .usage
  else if accepts spec.kind value then
    let values := reading.arguments.values ++ [(spec.name, value)]
    .ok { reading with
      arguments := { reading.arguments with values }, pending := none }
  else
    .error .usage

/-- Settles the option that was named last. -/
def settle (reading : Reading) : Except Stop Reading :=
  match reading.pending with
  | none => .ok reading
  | some ⟨_, none⟩ => .error .usage
  | some ⟨spec, some value⟩ => reading.add spec value

/-- Takes the argument without a name, of which there is one at most. -/
def addArgument
    (spec : CommandSpec)
    (reading : Reading)
    (word : String) :
    Except Stop Reading :=
  if spec.argument.isSome && reading.arguments.argument.isNone then
    .ok { reading with
      arguments := { reading.arguments with argument := some word } }
  else
    .error .usage

/-- The name and the value of an option, in one word behind two dashes. -/
def splitOption (word : List Char) : String × Option String :=
  match word.dropWhile (· != '=') with
  | [] => (String.ofList word, none)
  | _ :: value =>
      (String.ofList (word.takeWhile (· != '=')), some (String.ofList value))

/-- Reads an option. -/
def readOption
    (spec : CommandSpec)
    (reading : Reading)
    (name : String)
    (value : Option String) :
    Except Stop Reading :=
  match spec.options.find? fun option => option.name == name with
  | none => .error (if name == "help" && value.isNone then .help else .usage)
  | some option =>
      match option.kind, value with
      | .flag, none => reading.add option ""
      | .flag, some _ => .error .usage
      | _, some value => reading.add option value
      | _, none => .ok { reading with pending := some ⟨option, none⟩ }

/-- Reads a word that is no option. -/
def readPlain
    (spec : CommandSpec)
    (reading : Reading)
    (word : String) :
    Except Stop Reading :=
  match reading.pending with
  | some ⟨option, none⟩ =>
      .ok { reading with pending := some ⟨option, some word⟩ }
  | _ => do
      let reading ← reading.settle
      addArgument spec reading word

/-- Reads one word. -/
def readWord
    (spec : CommandSpec)
    (reading : Reading)
    (word : String) :
    Except Stop Reading :=
  if reading.argumentsOnly then
    addArgument spec reading word
  else
    match word.toList with
    | ['-', '-'] => do
        let reading ← reading.settle
        .ok { reading with argumentsOnly := true }
    | '-' :: '-' :: rest => do
        let reading ← reading.settle
        let (name, value) := splitOption rest
        readOption spec reading name value
    | '-' :: letter :: _ => do
        let _ ← reading.settle
        .error (if letter == 'h' then .help else .usage)
    | _ => readPlain spec reading word

/-- Everything that is required was given. -/
def isComplete (spec : CommandSpec) (arguments : Arguments) : Bool :=
  (spec.argument.isNone || arguments.argument.isSome) &&
    spec.options.all fun option =>
      !option.required || arguments.hasFlag option.name

end Reading

/-- Reads all words behind the name of a command. -/
def CommandSpec.read
    (spec : CommandSpec)
    (words : List String) :
    Except Stop Arguments := do
  let reading ← words.foldlM (Reading.readWord spec) Reading.start
  let reading ← reading.settle
  if Reading.isComplete spec reading.arguments then .ok reading.arguments
  else .error .usage

end DropletClient.CommandLine
