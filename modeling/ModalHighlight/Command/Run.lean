import ModalHighlight.Command.Transcript
import ModalHighlight.Command.Usage

/-!
Running the program.  The options before the command count first, then the configuration, then the arguments
of the command, and only then the command does its work.
-/

namespace ModalHighlight.Command

open ModalHighlight

/-- Shows what is wrong with the arguments. -/
def refuse (place : Place) (e : UsageError) : Transcript :=
  ⟨[⟨.errors, e.display place, false⟩], .exit 2⟩

/-- Tells the user of a complaint. -/
def complain (message : String) : Transcript := .failure ("error: " ++ message ++ "\n")

/-- Ends a run that has no configuration. -/
def withoutConfig : ConfigError → Transcript
  | .complaint c => complain c.message
  | e => .stopped (.config e)

/-- The complaint about a name that must be that of a file. -/
def notAFile (name : String) : Unavailable → String
  | .directory => "File " ++ Text.quoted name ++ " is a directory."
  | _ => "File " ++ Text.quoted name ++ " does not exist."

/-- The text of a file, or how the run ends without it. -/
def textOr (refused : Unavailable → Transcript) : Except Unavailable String → Except Transcript String
  | .ok text => .ok text
  | .error .impossibleName => .error (.stopped .impossibleName)
  | .error why => .error (refused why)

/-- What is logged on the compilation of a grammar. -/
def logged (verbose : Bool) (input : GrammarInput) : List Printed :=
  match verbose, input.notice? with
  | true, some notice => [⟨.errors, "[DEBUG] koto_highlight.grammar: " ++ notice ++ "\n", true⟩]
  | _, _ => []

/-- The diagnostics of a grammar, one after another. -/
def diagnosticsText (renderer : Renderer) (reports : List ModalHighlight.Report) : String :=
  String.join (reports.map fun r => renderer.render r.diagnostic ++ "\n")

/-- Goes on with a grammar, or shows what is wrong with it. -/
def withGrammar (verbose : Bool) (renderer : Renderer) (input : Except GrammarFileError GrammarInput)
    (go : CompiledGrammar → Transcript) : Transcript :=
  match input with
  | .error (.complaint c) => complain c.message
  | .error e => .stopped (.grammarFile e)
  | .ok input =>
      Transcript.after (logged verbose input) <|
        match input.compile with
        | .ok g => go g
        | .error (.unreadable reports) | .error (.rejected reports) =>
            .failure (diagnosticsText renderer reports)
        | .error .numberTooLong => .stopped .numberTooLong
        | .error (.stopped failure) => .stopped (.pattern failure)

/-- The line on a token. -/
def tokenLine (row : Nat) (t : Token) : Except Stop String :=
  if t.kind.isDisplayable then
    printable (toString row ++ ":" ++ toString t.start ++ "-" ++ toString t.stop ++ "\t" ++
      t.kind.display ++ "\t" ++ Text.quoted t.text ++ "\n")
  else .error .numberTooLong

/-- The line on the modes that are open after a row. -/
def stackLine (row : Nat) (stack : ModeStack) : Except Stop String :=
  printable (toString row ++ ":\tstack\t" ++ " > ".intercalate stack ++ "\n")

/-- Lists the tokens of lines, counted from a row on, and perhaps the open modes after each. -/
def listTokens (g : CompiledGrammar) (withModes : Bool) : List String → Nat → ModeStack → Transcript
  | [], _, _ => .success ""
  | line :: rest, row, stack =>
      match scanLine g line stack with
      | .error e => .stopped (.typing (.scan e))
      | .ok result =>
          let modes := if withModes then [stackLine row result.stack] else []
          Transcript.printLines (result.tokens.map (tokenLine row) ++ modes)
            (listTokens g withModes rest (row + 1) result.stack)

/-- The theme that a value names or holds. -/
def themeOf (style : Value) : Except Transcript Theme :=
  match Theme.ofValue style with
  | .ok theme => .ok theme
  | .error (.unknownName name) => .error (complain (Theme.unknownMessage name))
  | .error e => .error (.stopped (.theme e))

/-- Shows a text in the looks of a theme, whether or not colors are shown otherwise. -/
def showHighlighted (g : CompiledGrammar) (style : Value) (text : String) : Transcript :=
  match themeOf style with
  | .error t => t
  | .ok theme =>
      match highlighted g theme text with
      | .error e => .stopped (.typing e)
      | .ok shown => ⟨[⟨.output, shown, true⟩], .exit 0⟩

/-- The list of the registered dialects. -/
def dialectsText : String :=
  String.join (Koto.Dialect.registered.map fun d =>
    d.name ++ "\ttemplates=" ++ d.templateStyle ++ "\n")

/-- The dialect that the options ask for. -/
def dialectSetting (given : List (GivenOption Setting)) : Except UsageError (Option Koto.Dialect) :=
  match valueOf? .dialect given with
  | none => .ok none
  | some name =>
      match Koto.Dialect.ofName? name with
      | some d => .ok (some d)
      | none => .error (.invalidValue "--dialect" (notADialect name))

/-- What a run has at hand when its command begins. -/
structure Task where
  config : Config
  verbose : Bool
  given : List (GivenOption Setting)
  dialect : Option Koto.Dialect

namespace Task

/-- The configuration in which a dialect that was asked for takes the place of any grammar. -/
def effectiveConfig (t : Task) : Config :=
  match t.dialect with
  | some d => { t.config with dialect := d, grammar := none }
  | none => t.config

/-- How diagnostics on a source are shown. -/
def rendererFor (t : Task) (source : String) : Renderer :=
  { color := t.config.color.isPresent, source }

/-- The renderer for the grammar of the configuration. -/
def configRenderer (t : Task) : Renderer :=
  t.rendererFor <|
    match t.effectiveConfig.grammar with
    | some path => path.display
    | none => t.effectiveConfig.dialect.name

/-- The style that was asked for; an empty name leaves it to the configuration. -/
def style (t : Task) : Value :=
  match valueOf? .style t.given with
  | some name => if name = "" then t.config.style else .str name
  | none => t.config.style

variable {m : Type → Type} [Monad m]

/-- Does the work on a text with the grammar of the configuration. -/
def withConfigGrammar (t : Task) (s : Surroundings m) (go : CompiledGrammar → Transcript) :
    m Transcript := do
  return withGrammar t.verbose t.configRenderer (← Config.grammarInput s t.effectiveConfig) go

/-- Compiles the grammar in the text of a file. -/
def checkGrammarFile (t : Task) (file text : String) : Transcript :=
  let input := (groupsOfText (Path.ofText file) text).map fun table => ⟨table, .name textKind⟩
  withGrammar t.verbose (t.rendererFor file) input fun g =>
    .success (file ++ ": ok (" ++ toString g.modes.length ++ " modes)\n")

/-- Opens the file of a command: the file to check must have a name of its own, all others may also be the
standard input. -/
def openFile (c : Command) (s : Surroundings m) (file : String) : m (Except Transcript String) := do
  let refused := fun (reason : String) => refuse (.command c) (.invalidValue "FILE" reason)
  if c = checkGrammar then return textOr (fun why => refused (notAFile file why)) (← s.read file)
  else
    return textOr (fun why => refused ("'" ++ file ++ "': " ++ why.reason)) (← s.readNamed file)

/-- Does the work of a command on the text of a file. -/
def perform (t : Task) (c : Command) (s : Surroundings m) (file text : String) : m Transcript :=
  match c with
  | tokens =>
      t.withConfigGrammar s fun g =>
        listTokens g (isGiven .openModes t.given) (Text.splitLines (Text.withPlainNewlines text)) 1
          initialStack
  | highlight => t.withConfigGrammar s fun g => showHighlighted g t.style (Text.withPlainNewlines text)
  | checkGrammar => return t.checkGrammarFile file text
  | dialects => return .success dialectsText

end Task

section

variable {m : Type → Type} [Monad m] (s : Surroundings m)

/-- Runs a command on its arguments. -/
def runCommand (config : Config) (verbose : Bool) (c : Command) (args : List String) :
    m Transcript := do
  let refused := fun e => refuse (.command c) e
  match parseArguments c.settings true args with
  | .error e => return refused (.argument e)
  | .ok parsed =>
      if isGiven .help parsed.given then return .success (helpText (.command c))
      else
        match dialectSetting parsed.given with
        | .error e => return refused e
        | .ok dialect =>
            let task : Task := ⟨config, verbose, parsed.given, dialect⟩
            match c.takesFile, parsed.plain with
            | true, [] => return refused .missingFile
            | true, file :: extra =>
                match ← Task.openFile c s file with
                | .error t => return t
                | .ok text =>
                    if extra = [] then task.perform c s file text
                    else return refused (.extraArguments extra)
            | false, [] => task.perform c s "" ""
            | false, extra => return refused (.extraArguments extra)

/-- Reads the options before the command: how the run ends on account of them, or the configuration file that
they name. -/
def checkMainOptions (given : List (GivenOption MainOption)) :
    m (Except Transcript (Option String)) := do
  match given.find? fun o => o.meaning = .version ∨ o.meaning = .help with
  | some o =>
      return .error (.success (if o.meaning = .version then versionText else helpText .program))
  | none =>
      match valueOf? .config given with
      | none => return .ok none
      | some file =>
          let refused := fun why =>
            refuse .program (.invalidValue "--config" (notAFile file why))
          return (textOr refused (← s.read file)).map fun _ => some file

/-- Refuses an unknown command.  What looks like an option, which may stand there after two dashes, is first
taken for one. -/
def refuseCommand (name : String) (rest : List String) : m Transcript := do
  match parseArguments mainOptions false (name :: rest) with
  | .error e => return refuse .program (.argument e)
  | .ok parsed =>
      match ← checkMainOptions s parsed.given with
      | .error t => return t
      | .ok _ => return refuse .program (.unknownCommand name (closeNames name))

/-- Runs the program. -/
def run (args : List String) : m Transcript := do
  if args = [] then return ⟨[⟨.errors, helpText .program, false⟩], .exit 2⟩
  else
    match parseArguments mainOptions false args with
    | .error e => return refuse .program (.argument e)
    | .ok parsed =>
        match ← checkMainOptions s parsed.given with
        | .error t => return t
        | .ok file =>
            match parsed.plain with
            | [] => return refuse .program .missingCommand
            | name :: rest =>
                match ofName? name with
                | none => refuseCommand s name rest
                | some c =>
                    let config ← match file with
                      | some file => Config.load s (Path.ofText file)
                      | none => Config.loadOrDefault s none
                    match config with
                    | .error e => return withoutConfig e
                    | .ok config => runCommand s config (isGiven .verbose parsed.given) c rest

end

end ModalHighlight.Command
