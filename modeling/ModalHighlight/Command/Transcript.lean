import ModalHighlight.Config.Lookup
import ModalHighlight.Scan.Line
import ModalHighlight.Terminal.Theme

/-!
What a run of the program comes to: what it prints, and how it ends.  Lone surrogates cannot be printed: on
the output they end the run, and with the errors they are written as escapes.
-/

namespace ModalHighlight.Command

open ModalHighlight

/-- Where a text is printed. -/
inductive Channel
  | output
  | errors
deriving Repr, DecidableEq

/-- A printed text.  Unless it is kept as it is, it loses its control sequences where colors are not
shown. -/
structure Printed where
  channel : Channel
  text : String
  kept : Bool := false
deriving Repr, DecidableEq

/-- Why a run breaks off without a word to the user. -/
inductive Stop
  | config (e : ConfigError)
  | grammarFile (e : GrammarFileError)
  | pattern (failure : Pattern.Failure)
  | typing (e : TypingError)
  | theme (e : ThemeError)
  | impossibleName
  | numberTooLong
  | notCharacters

/-- A word on a run that broke off. -/
def Stop.message : Stop → String
  | config (.unavailable path why) => why.message path
  | config (.sectionNotTable name) => "the section " ++ name ++ " is no table"
  | config .dialectNotName => "the dialect is no name"
  | config .grammarNotPath => "the grammar is no path"
  | config .notFound => Config.notFoundMessage
  | config (.complaint c) | grammarFile (.complaint c) => c.message
  | config .numberTooLong | grammarFile .numberTooLong | numberTooLong =>
      "a number has too many digits"
  | grammarFile .impossibleName | impossibleName => "no file can have such a name"
  | pattern _ => "a pattern is beyond all bounds"
  | typing (.scan (.unknownMode name)) => "there is no mode called " ++ Text.quoted name
  | typing (.scan .brokenMatch) => "a group ends before its start"
  | typing (.style _) => "a kind is no name"
  | theme e => e.message
  | notCharacters => "half a character cannot be printed"

/-- How a run ends. -/
inductive Ending
  | exit (code : Nat)
  | stop (why : Stop)

/-- A text that can be printed on the output. -/
def printable (text : String) : Except Stop String :=
  if Text.hasSurrogate text then .error .notCharacters else .ok text

/-- What a run comes to. -/
structure Transcript where
  printed : List Printed
  ending : Ending

namespace Transcript

/-- A run that prints a text and succeeds. -/
def success (text : String) : Transcript := ⟨[⟨.output, text, false⟩], .exit 0⟩

/-- A run that fails on account of what its input holds. -/
def failure (text : String) : Transcript := ⟨[⟨.errors, text, false⟩], .exit 1⟩

/-- A run that breaks off. -/
def stopped (why : Stop) : Transcript := ⟨[], .stop why⟩

/-- Prints something first. -/
def after (printed : List Printed) (r : Transcript) : Transcript := { r with printed := printed ++ r.printed }

/-- Prints lines on the output before the rest of a run, up to the first that cannot be printed. -/
def printLines : List (Except Stop String) → Transcript → Transcript
  | [], r => r
  | .ok line :: rest, r => (printLines rest r).after [⟨.output, line, false⟩]
  | .error why :: _, _ => stopped why

/-- The text that reaches a channel, with colors or without. -/
def textOn (r : Transcript) (channel : Channel) (colors : Bool) : String :=
  String.join <| (r.printed.filter (·.channel = channel)).map fun p =>
    Text.withEscapedSurrogates (if colors || p.kept then p.text else Terminal.withoutSequences p.text)

/-- The text of a channel as one who collects it gets it: no carriage return stands before a newline. -/
def collectedOn (r : Transcript) (channel : Channel) (colors : Bool) : String :=
  String.ofList (Text.joinedNewlines (r.textOn channel colors).toList)

/-- The exit code; a run that breaks off fails. -/
def code (r : Transcript) : Nat :=
  match r.ending with
  | .exit code => code
  | .stop _ => 1

end Transcript

end ModalHighlight.Command
