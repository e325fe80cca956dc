import DropletClient.CommandLine.Option
import DropletClient.Text.Split

namespace DropletClient.CommandLine

/-!
# Help

The help of the program and of its commands: what it does, how it is called, and
tables of what it accepts.
-/

/-- The name of the program. -/
def programName : String := "dropship"

/-- What the program does. -/
def programAbout : String :=
  "Manage DigitalOcean droplets, images, and SSH keys through the v1 API"

/-- The command that shows the help. -/
def helpCommandName : String := "help"

/-- What the command that shows the help does. -/
def helpCommandAbout : String :=
  "Print this message or the help of the given subcommand(s)"

/-- A text with blanks behind it up to a width. -/
def padded (width : Nat) (text : String) : String :=
  text ++ String.ofList (List.replicate (width - text.length) ' ')

/--
Rows of two columns, indented, with the first column as wide as its widest text.
-/
def table (rows : List (String × String)) : String :=
  let width := (rows.map fun row => row.1.length).foldl max 0
  Text.joinStrings ""
    (rows.map fun row => "  " ++ padded width row.1 ++ "  " ++ row.2 ++ "\n")

/-- How an option is called. -/
def OptionSpec.usage (option : OptionSpec) : String :=
  match option.kind with
  | .flag => "--" ++ option.name
  | _ => "--" ++ option.name ++ " <" ++ option.valueName ++ ">"

/-- The row of an option; room is left for a short name. -/
def OptionSpec.row (option : OptionSpec) : String × String :=
  ("    " ++ option.usage, option.about)

/-- The row of the option that shows the help. -/
def helpRow : String × String :=
  ("-h, --help", "Print help")

/-- How the argument of a command is called. -/
def ArgumentSpec.usage (argument : ArgumentSpec) : String :=
  "<" ++ argument.valueName ++ ">"

/-- How a command is called. -/
def CommandSpec.usage (spec : CommandSpec) : String :=
  let (required, optional) := spec.options.partition OptionSpec.required
  let parts :=
    [programName, spec.name] ++
      (if optional.isEmpty then [] else ["[OPTIONS]"]) ++
    required.map OptionSpec.usage ++ spec.argument.toList.map ArgumentSpec.usage
  Text.joinStrings " " parts

/-- The help of a command. -/
def CommandSpec.help (spec : CommandSpec) : String :=
  let arguments :=
    match spec.argument with
    | none => ""
    | some argument =>
        "Arguments:\n" ++ table [(argument.usage, argument.about)] ++ "\n"
  spec.about ++ "\n\nUsage: " ++ spec.usage ++ "\n\n" ++ arguments ++
    "Options:\n" ++ table (spec.options.map OptionSpec.row ++ [helpRow])

/-- The help of the program. -/
def programHelp (specs : List CommandSpec) : String :=
  let rows := specs.map (fun spec => (spec.name, spec.about)) ++
    [(helpCommandName, helpCommandAbout)]
  programAbout ++ "\n\nUsage: " ++ programName ++ " <COMMAND>\n\nCommands:\n" ++
    table rows ++ "\nOptions:\n" ++ table [helpRow]

/-- The help of the command that shows the help. -/
def helpCommandHelp : String :=
  helpCommandAbout ++ "\n\nUsage: " ++ programName ++ " " ++ helpCommandName ++
    " [COMMAND]...\n\nArguments:\n" ++
    table [("[COMMAND]...", "Print help for the subcommand(s)")]

end DropletClient.CommandLine
