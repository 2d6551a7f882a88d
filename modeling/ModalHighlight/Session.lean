import ModalHighlight.Scan.Line
import ModalHighlight.Text.Lines

/-!
Tokens of a buffer of lines, kept up to date across edits.  After an edit, scanning starts at the edited
row and ends at the first later line whose incoming stack is the one it was scanned with before.
-/

namespace ModalHighlight

/-- What is known of a line: the stacks before and after it, and its tokens. -/
structure LineState where
  stackIn : ModeStack
  tokens : List Token
  stackOut : ModeStack

/-- The lines of a buffer and their states, row by row.  A line that has not been scanned has none. -/
structure Session where
  lines : List String
  states : List (Option LineState)

/-- Why an operation fails. -/
inductive SessionError
  | rowOutOfRange (row : Int)
  | scan (e : ScanError)
  /-- The row before an edited one has not been scanned. -/
  | rowBeforeUnscanned
  /-- The row asked for has not been scanned. -/
  | rowUnscanned
deriving Repr, DecidableEq

/-- A change of a buffer. -/
inductive Edit
  | setLines (lines : List String)
  | setText (text : String)
  | updateLine (row : Int) (text : String)
  | insertLines (row : Int) (lines : List String)
  | deleteLines (row count : Int)

namespace Session

section

variable (g : CompiledGrammar)

/-- Scans lines from an incoming stack up to the first whose state was made from the stack that reaches
it.  A line that cannot be scanned keeps its old state and ends the scan. -/
def rescan : ModeStack → List String → List (Option LineState) →
    List (Option LineState) × Except ScanError Nat
  | stack, line :: lines, old :: olds =>
      let unchanged := match old with
        | some state => state.stackIn == stack
        | none => false
      if unchanged then (old :: olds, .ok 0)
      else
        match scanLine g line stack with
        | .error e => (old :: olds, .error e)
        | .ok result =>
            let (rest, count) := rescan result.stack lines olds
            (some ⟨stack, result.tokens, result.stack⟩ :: rest, count.map (· + 1))
  | _, _, olds => (olds, .ok 0)

/-- The stack that reaches a row. -/
def stackBefore (s : Session) (row : Nat) : Except SessionError ModeStack :=
  match row with
  | 0 => .ok initialStack
  | n + 1 =>
      match s.states[n]? with
      | some (some state) => .ok state.stackOut
      | _ => .error .rowBeforeUnscanned

/-- Brings a session up to date from a row on, and says how many lines were scanned. -/
def rescanFrom (s : Session) (row : Nat) : Session × Except SessionError Nat :=
  match s.stackBefore row with
  | .error e => (s, .error e)
  | .ok stack =>
      let (states, count) := rescan g stack (s.lines.drop row) (s.states.drop row)
      ({ s with states := s.states.take row ++ states }, count.mapError .scan)

/-- The row as an index of a line. -/
def rowIndex? (s : Session) (row : Int) : Option Nat :=
  if 0 ≤ row ∧ row < s.lines.length then some row.toNat else none

/-- Replaces the whole buffer. -/
def setLines (s : Session) (lines : List String) : Session × Except SessionError Nat :=
  rescanFrom g { s with lines, states := lines.map fun _ => none } 0

/-- Replaces the buffer by the lines of a text. -/
def setText (s : Session) (text : String) : Session × Except SessionError Nat :=
  s.setLines g (Text.splitLines text)

/-- Replaces one line. -/
def updateLine (s : Session) (row : Int) (text : String) : Session × Except SessionError Nat :=
  match s.rowIndex? row with
  | none => (s, .error (.rowOutOfRange row))
  | some r => rescanFrom g { lines := s.lines.set r text, states := s.states.set r none } r

/-- Inserts lines before a row, or at the end. -/
def insertLines (s : Session) (row : Int) (lines : List String) :
    Session × Except SessionError Nat :=
  if 0 ≤ row ∧ row ≤ s.lines.length then
    let r := row.toNat
    rescanFrom g
      { lines := s.lines.take r ++ lines ++ s.lines.drop r
        states := s.states.take r ++ lines.map (fun _ => none) ++ s.states.drop r } r
  else (s, .error (.rowOutOfRange row))

/-- An end of a range of rows as an index: a negative one counts from the end of the list. -/
def endIndex (length : Nat) (stop : Int) : Nat :=
  (if stop < 0 then stop + length else stop).toNat

/-- A list without the items from `row` up to an end. -/
def eraseRange {α : Type} (items : List α) (row : Nat) (stop : Int) : List α :=
  items.take row ++ items.drop (Nat.max row (endIndex items.length stop))

/-- Deletes lines from a row on.  An end before the start of the buffer counts from its end. -/
def deleteLines (s : Session) (row count : Int) : Session × Except SessionError Nat :=
  match s.rowIndex? row with
  | none => (s, .error (.rowOutOfRange row))
  | some r =>
      rescanFrom g
        { lines := eraseRange s.lines r (row + count)
          states := eraseRange s.states r (row + count) } r

/-- Applies a change; the count is the number of lines scanned again. -/
def apply (s : Session) : Edit → Session × Except SessionError Nat
  | .setLines lines => s.setLines g lines
  | .setText text => s.setText g text
  | .updateLine row text => s.updateLine g row text
  | .insertLines row lines => s.insertLines g row lines
  | .deleteLines row count => s.deleteLines g row count

/-- A session without lines. -/
def empty : Session := ⟨[], []⟩

/-- A session on given lines. -/
def ofLines (lines : List String) : Except SessionError Session :=
  match empty.setLines g lines with
  | (s, .ok _) => .ok s
  | (_, .error e) => .error e

end

/-- The state of a row. -/
def state (s : Session) (row : Int) : Except SessionError LineState :=
  match s.rowIndex? row with
  | none => .error (.rowOutOfRange row)
  | some r =>
      match s.states[r]? with
      | some (some state) => .ok state
      | _ => .error .rowUnscanned

end Session

/-- The message on a row that does not exist. -/
def rowMessage (row : Int) : String :=
  "row " ++ toString row ++ " out of range"

end ModalHighlight
