import ModalHighlight.Terminal.Color
import ModalHighlight.Text.Segments

/-!
How text looks on a terminal.  Looks are turned on and off by control sequences, which can also be taken out
of a text again.
-/

namespace ModalHighlight

/-- A look: a color for the letters, one behind them, and kinds of type. -/
structure Look where
  color : Option Color := none
  behind : Option Color := none
  bold : Bool := false
  underline : Bool := false
  italic : Bool := false
deriving Repr, DecidableEq

namespace Look

def plain : Look := {}
def strong : Look := { bold := true }
def slanted : Look := { italic := true }
def colored (n : Nat) : Look := { color := some (.indexed n) }

/-- The control sequence with these numbers; without numbers there is none. -/
def sequence : List String → String
  | [] => ""
  | numbers => "\x1b[" ++ ";".intercalate numbers ++ "m"

/-- What turns a look on. -/
def on (l : Look) : String :=
  sequence ((l.color.map Color.foreground).getD [] ++ (l.behind.map Color.background).getD [] ++
    (if l.bold then ["01"] else []) ++ (if l.underline then ["04"] else []) ++
    (if l.italic then ["03"] else []))

/-- What turns a look off: the colors and the type are reset apart. -/
def off (l : Look) : String :=
  sequence ((if l.color.isSome then ["39"] else []) ++ (if l.behind.isSome then ["49"] else []) ++
    (if l.bold || l.underline || l.italic then ["00"] else []))

/-- A text of one line in a look; no text needs none. -/
def paintLine (l : Look) (text : List Char) : String :=
  if text.isEmpty then "" else l.on ++ String.ofList text ++ l.off

/-- A text in a look.  The look is turned off at the end of each line. -/
def paint (l : Look) (text : String) : String :=
  "\n".intercalate ((Text.segments '\n' text.toList).map l.paintLine)

end Look

namespace Terminal

/-- A parameter of a control sequence: a digit, a separator or one of the signs beside them. -/
def isParameter (c : Char) : Bool := decide ('0' ≤ c ∧ c ≤ '?')

/-- A character that may stand between the parameters and the end of a control sequence. -/
def isIntermediate (c : Char) : Bool := decide (' ' ≤ c ∧ c ≤ '/')

/-- A character that ends a control sequence. -/
def isFinal (c : Char) : Bool := decide ('@' ≤ c ∧ c ≤ '~')

/-- The length of the control sequence that follows an escape character. -/
def sequenceLength? : List Char → Option Nat
  | '[' :: rest =>
      let parameters := (rest.takeWhile isParameter).length
      let intermediates := ((rest.drop parameters).takeWhile isIntermediate).length
      match rest.drop (parameters + intermediates) with
      | [] => none
      | c :: _ => if isFinal c then some (parameters + intermediates + 2) else none
  | _ => none

/-- Leaves out so many characters, and after them all control sequences. -/
def withoutSequencesFrom : Nat → List Char → List Char
  | _, [] => []
  | n + 1, _ :: rest => withoutSequencesFrom n rest
  | 0, c :: rest =>
      if c = '\x1b' then
        match sequenceLength? rest with
        | some n => withoutSequencesFrom n rest
        | none => c :: withoutSequencesFrom 0 rest
      else c :: withoutSequencesFrom 0 rest

/-- A text without its control sequences. -/
def withoutSequences (text : String) : String :=
  String.ofList (withoutSequencesFrom 0 text.toList)

end Terminal

end ModalHighlight
