/-!
Diagnostics on grammars and their rendering for a terminal.
-/

namespace ModalHighlight

/-- How much a diagnostic weighs. -/
inductive Severity
  | error
  | warning
  | note
deriving Repr, DecidableEq

namespace Severity

def word : Severity → String
  | error => "error"
  | warning => "warning"
  | note => "note"

/-- The severity that a word stands for. -/
def ofWord? : String → Option Severity
  | "error" => some error
  | "warning" => some warning
  | "note" => some note
  | _ => none

/-- The terminal sequence that a severity is shown in: bold red, yellow or cyan. -/
def color : Severity → String
  | error => "\x1b[1;31m"
  | warning => "\x1b[1;33m"
  | note => "\x1b[1;36m"

end Severity

/-- A group of rules, or one entry of it. -/
structure Location where
  group : String
  index : Option Int
deriving Repr, DecidableEq

/-- The group alone, or the group with the index in brackets. -/
def Location.display (l : Location) : String :=
  match l.index with
  | none => l.group
  | some i => l.group ++ "[" ++ toString i ++ "]"

/-- One problem of a grammar. -/
structure Diagnostic where
  severity : Severity
  code : String
  message : String
  location : Option Location
  notes : List String
deriving Repr, DecidableEq

/-- How diagnostics are rendered: with colors or without, and the name of their source. -/
structure Renderer where
  color : Bool := true
  source : String := "<grammar>"

namespace Renderer

/-- A terminal sequence, if colors are wanted. -/
def paint (r : Renderer) (sequence : String) : String :=
  if r.color then sequence else ""

def bold : String := "\x1b[1m"
def blue : String := "\x1b[1;34m"
def reset : String := "\x1b[0m"

/-- A line with the severity, the code and the message, one with the place, and one for each note. -/
def lines (r : Renderer) (d : Diagnostic) : List String :=
  let header := r.paint d.severity.color ++ d.severity.word ++ "[" ++ d.code ++ "]" ++ r.paint reset ++
    r.paint bold ++ ": " ++ d.message ++ r.paint reset
  let place := match d.location with
    | none => []
    | some l => ["  " ++ r.paint blue ++ "-->" ++ r.paint reset ++ " " ++ r.source ++ ": " ++ l.display]
  let notes := d.notes.map fun note => "  " ++ r.paint blue ++ "=" ++ r.paint reset ++ " note: " ++ note
  header :: place ++ notes

def render (r : Renderer) (d : Diagnostic) : String :=
  "\n".intercalate (r.lines d)

end Renderer

/-- The summary of several diagnostics: the first message and how many more there are.  Without
diagnostics there is no summary. -/
def summary? : List Diagnostic → Option String
  | [] => none
  | [d] => some d.message
  | d :: rest => some (d.message ++ " (and " ++ toString rest.length ++ " more)")

end ModalHighlight
