import ModalHighlight.Command.Arguments
import ModalHighlight.Koto.Dialect

/-!
The commands of the program, their options, and what is shown to a user who asks for help or gets the
arguments wrong.
-/

namespace ModalHighlight

/-- What the program does. -/
inductive Command
  | tokens
  | highlight
  | checkGrammar
  | dialects
deriving Repr, DecidableEq

namespace Command

def all : List Command := [checkGrammar, dialects, highlight, tokens]

def name : Command → String
  | tokens => "tokens"
  | highlight => "highlight"
  | checkGrammar => "check-grammar"
  | dialects => "dialects"

/-- The names of commands that a word comes close to. -/
def closeNames (word : String) : List String := Text.closeWords word (all.map name)

/-- The command of a name. -/
def ofName? (name : String) : Option Command := all.find? (·.name == name)

theorem ofName?_name (c : Command) : ofName? c.name = some c := by
  cases c <;> rfl

/-- The options before the command. -/
inductive MainOption
  | version
  | config
  | verbose
  | help
deriving Repr, DecidableEq

/-- The options of commands. -/
inductive Setting
  | dialect
  | openModes
  | style
  | help
deriving Repr, DecidableEq

def mainOptions : List (OptionRule MainOption) :=
  [{ meaning := .version, spellings := ["--version"] },
    { meaning := .config, spellings := ["--config"], takesValue := true },
    { meaning := .verbose, spellings := ["-v", "--verbose"] },
    { meaning := .help, spellings := ["--help"] }]

def dialectOption : OptionRule Setting :=
  { meaning := .dialect, spellings := ["--dialect"], takesValue := true }

def helpOption : OptionRule Setting := { meaning := .help, spellings := ["--help"] }

/-- The options of a command. -/
def settings : Command → List (OptionRule Setting)
  | tokens => [dialectOption, { meaning := .openModes, spellings := ["--stacks"] }, helpOption]
  | highlight =>
      [dialectOption, { meaning := .style, spellings := ["--style"], takesValue := true }, helpOption]
  | checkGrammar | dialects => [helpOption]

/-- The command works on a file. -/
def takesFile : Command → Bool
  | dialects => false
  | _ => true

def versionText : String := "koto-highlight, version 0.1.0\n"

/-- What the arguments belong to: the program as a whole or one command. -/
inductive Place
  | program
  | command (c : Command)
deriving Repr, DecidableEq

namespace Place

/-- The words that lead to a place. -/
def words : Place → String
  | program => "main"
  | command c => "main " ++ c.name

/-- The form of the arguments. -/
def usage : Place → String
  | program => "main [OPTIONS] COMMAND [ARGS]..."
  | command c => "main " ++ c.name ++ " [OPTIONS]" ++ if c.takesFile then " FILE" else ""

end Place

/-- What is wrong with the arguments. -/
inductive UsageError
  | argument (e : ArgumentError)
  | missingCommand
  | unknownCommand (name : String) (close : List String)
  | missingFile
  | extraArguments (args : List String)
  | invalidValue (parameter reason : String)
deriving Repr, DecidableEq

namespace UsageError

def message : UsageError → String
  | argument e => e.message
  | missingCommand => "Missing command."
  | unknownCommand name close =>
      "No such command " ++ Text.quoted name ++ "." ++ suggestion close
  | missingFile => "Missing argument 'FILE'."
  | extraArguments [arg] => "Got unexpected extra argument (" ++ arg ++ ")"
  | extraArguments args => "Got unexpected extra arguments (" ++ " ".intercalate args ++ ")"
  | invalidValue parameter reason => "Invalid value for '" ++ parameter ++ "': " ++ reason

/-- The form of the arguments is not shown with errors on the value of an option. -/
def showsUsage : UsageError → Bool
  | argument (.valueMissing _) | argument (.valueNotTaken _) => false
  | _ => true

/-- All that is shown on an error. -/
def display (place : Place) (e : UsageError) : String :=
  let usage := "Usage: " ++ place.usage ++ "\nTry '" ++ place.words ++ " --help' for help.\n\n"
  (if e.showsUsage then usage else "") ++ "Error: " ++ e.message ++ "\n"

end UsageError

/-- The complaint about a value that is none of the registered dialects. -/
def notADialect (value : String) : String :=
  Text.quoted value ++ " is not one of " ++
    ", ".intercalate (Koto.Dialect.names.map Text.quoted) ++ "."

/-- What a command does, in a line. -/
def summary : Command → String
  | tokens => "Print the tokens of each line of FILE."
  | highlight => "Print FILE with terminal colors."
  | checkGrammar => "Compile the JSON grammar FILE and report any problems."
  | dialects => "List the built-in grammar dialects."

/-- Lines of a list in two columns, the second of which starts at a width. -/
def columns (width : Nat) (rows : List (String × String)) : String :=
  String.join (rows.map fun (left, right) =>
    let gap := String.ofList (List.replicate (width - left.length) ' ')
    if left.length + 2 ≤ width then "  " ++ left ++ gap ++ right ++ "\n"
    else "  " ++ left ++ "\n  " ++ String.ofList (List.replicate width ' ') ++ right ++ "\n")

def helpRow : String × String := ("--help", "Show this message and exit.")

def dialectRow : String × String :=
  ("--dialect [" ++ "|".intercalate Koto.Dialect.names ++ "]",
    "Grammar dialect (overrides the config file).")

/-- What is shown to a user who asks for help. -/
def helpText : Place → String
  | .program =>
      "Usage: " ++ Place.program.usage ++
        "\n\n  Syntax highlighting tokenizer for Koto source.\n\nOptions:\n" ++
        columns 15 [("--version", "Show the version and exit."),
          ("--config FILE", "Use this koto-highlight.toml instead of searching for one."),
          ("-v, --verbose", "Log debug messages to stderr."), helpRow] ++
        "\nCommands:\n" ++ columns 15 (all.map fun c => (c.name, c.summary))
  | .command c =>
      "Usage: " ++ (Place.command c).usage ++ "\n\n  " ++ c.summary ++ "\n\nOptions:\n" ++
        match c with
        | .tokens => columns 32 [dialectRow, ("--stacks", "Show the mode stack after each line."), helpRow]
        | .highlight => columns 32 [dialectRow, ("--style TEXT", "Pygments style name."), helpRow]
        | .checkGrammar | .dialects => columns 8 [helpRow]

end Command

end ModalHighlight
