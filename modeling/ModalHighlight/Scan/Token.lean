import ModalHighlight.Grammar.Mode

/-!
Tokens of a line and the modes that are open around it.
-/

namespace ModalHighlight

/-- A span of a line with its kind and its text. -/
structure Token where
  kind : Kind
  start : Nat
  stop : Nat
  text : String

/-- The text of a line between two positions. -/
def sliceText (line : Array Char) (start stop : Nat) : String :=
  String.ofList (line.extract start stop).toList

/-- The token of a line between two positions. -/
def Token.ofSlice (line : Array Char) (kind : Kind) (start stop : Nat) : Token :=
  ⟨kind, start, stop, sliceText line start stop⟩

def Token.length (t : Token) : Nat := t.stop - t.start

/-- Names of open modes, the innermost last. -/
abbrev ModeStack := List String

/-- The stack before the first line. -/
def initialStack : ModeStack := [startName]

/-- A stack with at least one mode: the innermost, and the ones around it from the inside out. -/
structure OpenModes where
  top : String
  around : List String
deriving Repr, DecidableEq

namespace OpenModes

/-- The first mode alone. -/
def start : OpenModes := ⟨startName, []⟩

/-- The names with the innermost last. -/
def stack (m : OpenModes) : ModeStack :=
  (m.top :: m.around).reverse

/-- The open modes of a stack; an empty stack stands for the first mode alone. -/
def ofStack (stack : ModeStack) : OpenModes :=
  match stack.reverse with
  | [] => start
  | top :: around => ⟨top, around⟩

def push (m : OpenModes) (name : String) : OpenModes :=
  ⟨name, m.top :: m.around⟩

/-- Closes the innermost mode.  When it is the only one, the first mode takes its place. -/
def pop (m : OpenModes) : OpenModes :=
  match m.around with
  | [] => start
  | top :: around => ⟨top, around⟩

/-- Puts another mode in the place of the innermost. -/
def switch (m : OpenModes) (name : String) : OpenModes :=
  { m with top := name }

/-- What a transition makes of the open modes. -/
def apply (m : OpenModes) : Transition → OpenModes
  | .stay => m
  | .push name => m.push name
  | .pop => m.pop
  | .switch name => m.switch name

theorem stack_ne_nil (m : OpenModes) : m.stack ≠ [] := by
  simp [stack]

theorem stack_push (m : OpenModes) (name : String) : (m.push name).stack = m.stack ++ [name] := by
  simp [push, stack]

theorem ofStack_stack (m : OpenModes) : ofStack m.stack = m := by
  simp [ofStack, stack]

end OpenModes

/-- The modes of an incoming stack that the grammar knows; if there are none, the first mode. -/
def CompiledGrammar.repair (g : CompiledGrammar) (stack : ModeStack) : OpenModes :=
  .ofStack (stack.filter g.knows)

end ModalHighlight
