import ModalHighlight.Scan.Token

/-!
Scanning one line.  At each position the rules of the innermost mode are tried in order, and the first
that matches there wins.  Characters that no rule matches gather in a run, which becomes one token when
the next match begins or the line ends.  A match without text opens or closes modes and then lets one
character join a run, so every step moves on.
-/

namespace ModalHighlight

/-- A scan fails where it needs a mode that the grammar lacks, and where the match that wins is a broken one. -/
inductive ScanError
  | unknownMode (name : String)
  | brokenMatch
deriving Repr, DecidableEq

/-- The state of a scan: the position, the start of the run of unmatched characters before it, the open
modes and the tokens so far. -/
structure ScanState where
  pos : Nat
  run : Option Nat
  modes : OpenModes
  tokens : Array Token

/-- The first rule that matches at a position, with its match. -/
def firstMatch (rules : List CompiledRule) (line : Array Char) (pos : Nat) :
    Option (CompiledRule × Match) :=
  rules.findSome? fun r => (r.pattern.matchAt line pos).map fun m => (r, m)

/-- Adds the token between two positions, if there is text between them. -/
def addToken (line : Array Char) (kind : Kind) (start stop : Nat) (tokens : Array Token) :
    Array Token :=
  if start < stop then tokens.push (.ofSlice line kind start stop) else tokens

/-- The tokens of a match with several kinds, one for each group from `index` on.  What a group shares
with the text before the cursor or after the match is cut off, and text between groups has the default
kind. -/
def addGroups (line : Array Char) (gap : Kind) (m : Match) :
    List String → Nat → Nat → Array Token → Array Token
  | [], _, cursor, tokens => addToken line gap cursor m.stop tokens
  | kind :: rest, index, cursor, tokens =>
      match m.span? index with
      | none => addGroups line gap m rest (index + 1) cursor tokens
      | some span =>
          let start := Nat.max span.start cursor
          let stop := Nat.min span.stop m.stop
          if stop ≤ start then addGroups line gap m rest (index + 1) cursor tokens
          else
            let tokens := addToken line gap cursor start tokens
            addGroups line gap m rest (index + 1) stop (addToken line (.name kind) start stop tokens)

/-- The tokens of a match that starts at a position. -/
def addMatch (line : Array Char) (gap : Kind) (r : CompiledRule) (m : Match) (start : Nat)
    (tokens : Array Token) : Array Token :=
  if r.isMulti then addGroups line gap m r.kinds 1 start tokens
  else addToken line (.name (r.kinds.headD "")) start m.stop tokens

section

variable (g : CompiledGrammar) (line : Array Char)

/-- The innermost mode. -/
def ScanState.mode (s : ScanState) : Except ScanError Mode :=
  match g.mode? s.modes.top with
  | some mode => .ok mode
  | none => .error (.unknownMode s.modes.top)

namespace ScanState

/-- Turns the run before the position into a token of a kind. -/
def flushAs (kind : Kind) (s : ScanState) : ScanState :=
  match s.run with
  | none => s
  | some start => { s with run := none, tokens := addToken line kind start s.pos s.tokens }

/-- Lets the character at the position join the run. -/
def skip (s : ScanState) : ScanState :=
  { s with run := some (s.run.getD s.pos), pos := s.pos + 1 }

/-- Takes a match of a rule of the innermost mode, whose default kind is `gap`. -/
def accept (gap : Kind) (r : CompiledRule) (m : Match) (s : ScanState) : ScanState :=
  let s := s.flushAs line gap
  let next : ScanState :=
    { s with
      modes := s.modes.apply r.transition
      tokens := addMatch line gap r m s.pos s.tokens }
  if m.stop = s.pos then next.skip else { next with pos := m.stop }

@[simp] theorem flushAs_pos (kind : Kind) (s : ScanState) : (s.flushAs line kind).pos = s.pos := by
  unfold flushAs
  split <;> rfl

@[simp] theorem flushAs_modes (kind : Kind) (s : ScanState) :
    (s.flushAs line kind).modes = s.modes := by
  unfold flushAs
  split <;> rfl

@[simp] theorem flushAs_run (kind : Kind) (s : ScanState) : (s.flushAs line kind).run = none := by
  unfold flushAs
  split
  · assumption
  · rfl

theorem accept_pos (gap : Kind) (r : CompiledRule) (m : Match) (s : ScanState) :
    (s.accept line gap r m).pos = if m.stop = s.pos then s.pos + 1 else m.stop := by
  simp only [accept, flushAs_pos]
  split <;> rfl

@[simp] theorem accept_modes (gap : Kind) (r : CompiledRule) (m : Match) (s : ScanState) :
    (s.accept line gap r m).modes = s.modes.apply r.transition := by
  simp only [accept, flushAs_pos, flushAs_modes]
  split <;> rfl

/-- After a match only the character that an empty match lets pass is unmatched. -/
theorem accept_run (gap : Kind) (r : CompiledRule) (m : Match) (s : ScanState) :
    (s.accept line gap r m).run = if m.stop = s.pos then some s.pos else none := by
  simp only [accept, flushAs_pos, flushAs_run]
  split <;> rfl

@[simp] theorem accept_tokens (gap : Kind) (r : CompiledRule) (m : Match) (s : ScanState) :
    (s.accept line gap r m).tokens = addMatch line gap r m s.pos (s.flushAs line gap).tokens := by
  simp only [accept, flushAs_pos]
  split <;> rfl

/-- One step of a scan. -/
def step (s : ScanState) : Except ScanError ScanState :=
  match s.mode g with
  | .error e => .error e
  | .ok mode =>
      match firstMatch mode.rules line s.pos with
      | none => .ok s.skip
      | some (r, m) =>
          if m.isBroken then .error .brokenMatch else .ok (s.accept line (g.defaultKind mode) r m)

/-- Steps up to the end of the line.  Each step moves on, so the number of characters bounds them. -/
def steps : Nat → ScanState → Except ScanError ScanState
  | 0, s => .ok s
  | n + 1, s =>
      if s.pos < line.size then
        match step g line s with
        | .ok s => steps n s
        | .error e => .error e
      else .ok s

/-- Ends a scan: a run that is left becomes a token of the innermost mode's default kind. -/
def finish (s : ScanState) : Except ScanError ScanState :=
  match s.run with
  | none => .ok s
  | some _ =>
      match s.mode g with
      | .error e => .error e
      | .ok mode => .ok (s.flushAs line (g.defaultKind mode))

/-- The state before the first character. -/
def initial (stack : ModeStack) : ScanState :=
  ⟨0, none, g.repair stack, #[]⟩

end ScanState

end

/-- What a line gives: its tokens, and the stack for the next line. -/
structure LineResult where
  tokens : List Token
  stack : ModeStack

/-- Scans one line from an incoming stack. -/
def scanLine (g : CompiledGrammar) (text : String) (stack : ModeStack) :
    Except ScanError LineResult :=
  let line := text.toList.toArray
  match (ScanState.initial g stack).steps g line line.size with
  | .error e => .error e
  | .ok s =>
      match s.finish g line with
      | .error e => .error e
      | .ok s => .ok ⟨s.tokens.toList, s.modes.stack⟩

/-- Scans lines one after another, each from the stack that the one before it left.  The first failure
ends it. -/
def scanLines (g : CompiledGrammar) : List String → ModeStack →
    Except ScanError (List (List Token) × ModeStack)
  | [], stack => .ok ([], stack)
  | line :: rest, stack =>
      match scanLine g line stack with
      | .error e => .error e
      | .ok first =>
          match scanLines g rest first.stack with
          | .error e => .error e
          | .ok (more, stack) => .ok (first.tokens :: more, stack)

end ModalHighlight
