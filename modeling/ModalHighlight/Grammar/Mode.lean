import ModalHighlight.Data.Value
import ModalHighlight.Pattern.Match

/-!
Grammars that are ready to scan with.  A mode is a group whose includes have been replaced by the rules
they stand for.  Kinds are dotted names; only the kind of text that no mode names a kind for can be any
data value, since a configuration sets it.
-/

namespace ModalHighlight

/-- The kind of a token. -/
inductive Kind
  | name (s : String)
  | data (v : Value)

/-- The text of a kind. -/
def Kind.display : Kind → String
  | name s => s
  | data v => v.display

/-- The text of a kind can be written. -/
def Kind.isDisplayable : Kind → Bool
  | name _ => true
  | data v => v.isDisplayable

/-- The kind that a data value stands for. -/
def Kind.ofValue : Value → Kind
  | .str s => .name s
  | v => .data v

/-- What a match does to the open modes: nothing, opening a mode, closing the innermost one, or
putting another in its place. -/
inductive Transition
  | stay
  | push (name : String)
  | pop
  | switch (name : String)
deriving Repr, DecidableEq

/-- The word that closes a mode where the name of a mode is expected. -/
def popWord : String := "pop"

/-- The name of the first mode. -/
def startName : String := "start"

/-- The kind of text for which no mode names a kind, unless something else is asked for. -/
def textKind : String := "text"

namespace Transition

/-- The mode that a match opens. -/
def push? : Transition → Option String
  | push name => some name
  | _ => none

/-- What a match puts in place of the innermost mode. -/
def next? : Transition → Option String
  | pop => some popWord
  | switch name => some name
  | _ => none

/-- The transition of a rule that opens one thing or continues with another, not both. -/
def ofRule (push next : Option String) : Transition :=
  match push, next with
  | some name, _ => .push name
  | none, some name => if name = popWord then .pop else .switch name
  | none, none => .stay

end Transition

/-- A rule that is ready to match. -/
structure CompiledRule where
  kinds : List String
  pattern : Pattern
  transition : Transition
deriving Repr, DecidableEq

/-- The rule gives one token for each of its groups. -/
def CompiledRule.isMulti (r : CompiledRule) : Bool :=
  decide (1 < r.kinds.length)

/-- A group whose includes have been replaced. -/
structure Mode where
  name : String
  rules : List CompiledRule
  defaultKind : Option String
deriving Repr, DecidableEq

/-- Modes in order, and the kind of the text that they name no kind for. -/
structure CompiledGrammar where
  modes : List Mode
  fallback : Kind

namespace CompiledGrammar

/-- The mode of a name. -/
def mode? (g : CompiledGrammar) (name : String) : Option Mode :=
  g.modes.find? (·.name == name)

/-- The grammar has a mode of this name. -/
def knows (g : CompiledGrammar) (name : String) : Bool :=
  (g.mode? name).isSome

/-- The kind of unmatched text in a mode. -/
def defaultKind (g : CompiledGrammar) (mode : Mode) : Kind :=
  match mode.defaultKind with
  | some kind => if kind = "" then g.fallback else .name kind
  | none => g.fallback

/-- The grammar for an early release of the matcher. -/
def early (g : CompiledGrammar) : CompiledGrammar :=
  { g with
    modes := g.modes.map fun mode =>
      { mode with rules := mode.rules.map fun r => { r with pattern := r.pattern.early } } }

end CompiledGrammar

end ModalHighlight
