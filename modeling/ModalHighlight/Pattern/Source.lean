import ModalHighlight.Pattern.Basic
import ModalHighlight.Pattern.Error

/-!
The text of a pattern while it is read: a sequence of pieces, each a single character or a backslash
with the character after it.  Reading runs one piece ahead, so a lone backslash at the end is refused
as soon as the piece before it is taken.
-/

namespace ModalHighlight.Pattern

/-- A character, or a backslash together with the next character. -/
inductive Piece
  | plain (c : Char)
  | escaped (c : Char)
deriving Repr, DecidableEq

namespace Piece

def chars : Piece → List Char
  | plain c => [c]
  | escaped c => ['\\', c]

def text (p : Piece) : String :=
  String.ofList p.chars

def width : Piece → Nat
  | plain _ => 1
  | escaped _ => 2

/-- The plain character that the piece is. -/
def plain? : Piece → Option Char
  | plain c => some c
  | escaped _ => none

end Piece

/-- The pieces of a text, and whether a lone backslash is left at the end. -/
def pieces : List Char → List Piece × Bool
  | [] => ([], false)
  | ['\\'] => ([], true)
  | '\\' :: c :: rest => let (ps, dangling) := pieces rest; (.escaped c :: ps, dangling)
  | c :: rest => let (ps, dangling) := pieces rest; (.plain c :: ps, dangling)

/-- Bounds on the number of characters that a node consumes. -/
structure Width where
  lo : Nat
  hi : Nat
deriving Repr, DecidableEq

/-- Upper bounds are counted up to this number, which stands for no bound, and lower ones up to the number
before it. -/
def Width.unbounded : Nat := 4294967295

def Width.capped (w : Width) : Width :=
  ⟨Nat.min w.lo (Width.unbounded - 1), Nat.min w.hi Width.unbounded⟩

def Width.zero : Width := ⟨0, 0⟩

/-- The width of one after another. -/
def Width.add (v w : Width) : Width := ⟨v.lo + w.lo, v.hi + w.hi⟩

/-- The width of one or the other. -/
def Width.either (v w : Width) : Width := ⟨Nat.min v.lo w.lo, Nat.max v.hi w.hi⟩

/-- Flags of a pattern or of a part of it. -/
structure Flags where
  ignoreCase : Bool := false
  multiline : Bool := false
  dotAll : Bool := false
  verbose : Bool := false
  ascii : Bool := false
  unicode : Bool := false
  template : Bool := false
deriving Repr, DecidableEq

namespace Flags

/-- The flag that a letter stands for, alone. -/
def ofLetter? : Char → Option Flags
  | 'i' => some { ignoreCase := true }
  | 'm' => some { multiline := true }
  | 's' => some { dotAll := true }
  | 'x' => some { verbose := true }
  | 'a' => some { ascii := true }
  | 'u' => some { unicode := true }
  | 't' => some { template := true }
  | _ => none

def union (f g : Flags) : Flags where
  ignoreCase := f.ignoreCase || g.ignoreCase
  multiline := f.multiline || g.multiline
  dotAll := f.dotAll || g.dotAll
  verbose := f.verbose || g.verbose
  ascii := f.ascii || g.ascii
  unicode := f.unicode || g.unicode
  template := f.template || g.template

def without (f g : Flags) : Flags where
  ignoreCase := f.ignoreCase && !g.ignoreCase
  multiline := f.multiline && !g.multiline
  dotAll := f.dotAll && !g.dotAll
  verbose := f.verbose && !g.verbose
  ascii := f.ascii && !g.ascii
  unicode := f.unicode && !g.unicode
  template := f.template && !g.template

def meets (f g : Flags) : Bool :=
  (f.ignoreCase && g.ignoreCase) || (f.multiline && g.multiline) || (f.dotAll && g.dotAll) ||
    (f.verbose && g.verbose) || (f.ascii && g.ascii) || (f.unicode && g.unicode) ||
    (f.template && g.template)

/-- The flags that choose a character set, of which at most one holds. -/
def choosesSet (f : Flags) : Bool := f.ascii || f.unicode

/-- The flags inside a group that turns some on and some off; a chosen character set replaces the one
from outside. -/
def within (outer on off : Flags) : Flags :=
  let base := if on.choosesSet then { outer with ascii := false, unicode := false } else outer
  (base.union on).without off

def caseRule (f : Flags) : CaseRule :=
  if f.ignoreCase then if f.ascii then .foldAscii else .foldUnicode else .exact

end Flags

/-- What is known while a pattern is read. -/
structure Source where
  rest : List Piece
  pos : Nat
  dangling : Bool
  /-- The flags that hold for the whole pattern. -/
  flags : Flags
  names : List (String × Nat)
  /-- The widths of the groups from 1 on; a group that is still open has none. -/
  widths : List (Option Width)
  /-- Inside a look-behind, the number of the first group that it may not refer to. -/
  behindLimit : Option Nat
  /-- Where each group number is first asked for in a condition. -/
  conditions : List (Nat × Nat)

/-- A step of reading. -/
abbrev Reading := StateT Source (Except Failure)

namespace Reading

/-- Refuses at a distance before the next piece. -/
def refuse {α : Type} (cause : Cause) (back : Nat) : Reading α := do
  let s ← get
  throw (.refused cause (some (s.pos - back)))

/-- Refuses at a given position. -/
def refuseAt {α : Type} (cause : Cause) (position : Nat) : Reading α :=
  throw (.refused cause (some position))

def peek : Reading (Option Piece) := do
  return (← get).rest.head?

/-- Takes the next piece, which is nothing at the end. -/
def take : Reading (Option Piece) := do
  let s ← get
  match s.rest with
  | [] => return none
  | p :: rest =>
      if rest.isEmpty && s.dangling then refuseAt .badEscapeAtEnd (s.pos + p.width)
      else
        set { s with rest, pos := s.pos + p.width }
        return some p

/-- Takes the next piece if it is the given character. -/
def accept (c : Char) : Reading Bool := do
  if (← peek) == some (.plain c) then
    let _ ← take
    return true
  else return false

/-- Takes plain characters of a class, at most so many. -/
def takeWhile (ok : Char → Bool) : Nat → Reading (List Char)
  | 0 => return []
  | n + 1 => do
      match ← peek with
      | some (.plain c) =>
          if ok c then
            let _ ← take
            return c :: (← takeWhile ok n)
          else return []
      | _ => return []

/-- Takes pieces up to a terminator, which is taken too; the text before it must not be empty. -/
def takeUntil (terminator : Char) (what : String) : Nat → List Char → Reading String
  | 0, _ => refuse .nestingTooDeep 0
  | n + 1, taken => do
      match ← take with
      | none =>
          if taken.isEmpty then refuse (.missingName what) 0
          else refuse (.unterminatedName (String.singleton terminator)) taken.length
      | some p =>
          if p == .plain terminator then
            if taken.isEmpty then refuse (.missingName what) 1
            else return String.ofList taken
          else takeUntil terminator what n (taken ++ p.chars)

/-- Takes pieces up to a terminator, as many as there are. -/
def name (terminator : Char) (what : String) : Reading String := do
  takeUntil terminator what ((← get).rest.length + 1) []

end Reading

end ModalHighlight.Pattern
