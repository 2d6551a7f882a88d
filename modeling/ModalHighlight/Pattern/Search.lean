import ModalHighlight.Pattern.Basic

/-!
Matching by backtracking.  `Node.run` hands every way of matching a node to a continuation, in order,
and returns the first answer that the continuation accepts.  It recurses on the tree; a repetition
recurses on a bound that no line can exhaust, because every repetition beyond the required ones starts
further on.
-/

namespace ModalHighlight

namespace Pattern

/-- The part of a line from `start` up to `stop`. -/
structure Span where
  start : Nat
  stop : Nat
deriving Repr, DecidableEq

/-- A position together with the spans captured so far, the latest first. -/
structure Cursor where
  pos : Nat
  spans : List (Nat × Span)
deriving Repr, DecidableEq

namespace Cursor

/-- The latest span of a group. -/
def span? (c : Cursor) (index : Nat) : Option Span :=
  c.spans.lookup index

def moveTo (c : Cursor) (pos : Nat) : Cursor :=
  { c with pos }

/-- Records the text between two positions as the span of a group. -/
def capture (c : Cursor) (index start : Nat) : Cursor :=
  { c with spans := (index, ⟨start, c.pos⟩) :: c.spans }

@[simp] theorem pos_moveTo (c : Cursor) (pos : Nat) : (c.moveTo pos).pos = pos := rfl

end Cursor

/-- What follows a node: it accepts a cursor with an answer or sends the search back. -/
abbrev Continuation := Cursor → Option Cursor

/-- A node as a search: it offers its ways of matching to a continuation. -/
abbrev Search := Cursor → Continuation → Option Cursor

section

variable (text : Array Char)

/-- The character at a position satisfies the test. -/
def testAt (test : CharTest) (pos : Nat) : Bool :=
  match text[pos]? with
  | some c => test.holds c.toNat
  | none => false

/-- The character at a position exists and is part of a word. -/
def wordAt (ascii : Bool) (pos : Nat) : Bool :=
  match text[pos]? with
  | some c => CharKind.word.contains ascii c.toNat
  | none => false

/-- The position lies between a word character and another place. -/
def atWordBoundary (ascii : Bool) (pos : Nat) : Bool :=
  (decide (0 < pos) && wordAt text ascii (pos - 1)) != wordAt text ascii pos

namespace Anchor

def holds (a : Anchor) (pos : Nat) : Bool :=
  match a with
  | textStart => pos == 0
  | lineStart => pos == 0 || text[pos - 1]? == some '\n'
  | textEnd => pos == text.size
  | textEndOrLastNewline =>
      pos == text.size || (pos + 1 == text.size && text[pos]? == some '\n')
  | lineEnd => pos == text.size || text[pos]? == some '\n'
  | wordBoundary ascii => atWordBoundary text ascii pos
  | noWordBoundary ascii => decide (0 < text.size) && !atWordBoundary text ascii pos

end Anchor

/-- How many characters in a row satisfy the test, up to a limit. -/
def countWhile (test : CharTest) : Nat → Nat → Nat
  | 0, _ => 0
  | limit + 1, pos => if testAt text test pos then countWhile test limit (pos + 1) + 1 else 0

/-- What a span holds stands at a position too, up to the case rule. -/
def repeatsAt (rule : CaseRule) (span : Span) (pos : Nat) : Bool :=
  decide (pos + (span.stop - span.start) ≤ text.size) &&
    (List.range (span.stop - span.start)).all fun i =>
      match text[span.start + i]?, text[pos + i]? with
      | some a, some b => rule.lower a.toNat == rule.lower b.toNat
      | _, _ => false

end

/-- Tries `count` steps from a start, then one fewer, down to `min`. -/
def tryDown (c : Cursor) (k : Continuation) (start min : Nat) : Nat → Option Cursor
  | 0 => k (c.moveTo start)
  | count + 1 =>
      match k (c.moveTo (start + (count + 1))) with
      | some answer => some answer
      | none => if min ≤ count then tryDown c k start min count else none

/-- Tries a position, then the next ones, as many as `more` says. -/
def tryUp (c : Cursor) (k : Continuation) : Nat → Nat → Option Cursor
  | 0, pos => k (c.moveTo pos)
  | more + 1, pos =>
      match k (c.moveTo pos) with
      | some answer => some answer
      | none => tryUp c k more (pos + 1)

/-- Another repetition is allowed after `count` of them. -/
def belowMax (max : Option Nat) (count : Nat) : Bool :=
  match max with
  | some m => decide (count < m)
  | none => true

/-- Repeats as often as possible, then less often.  Past the required repetitions, one that would start
where the one before it started is not tried. -/
def runGreedy (body : Search) (min : Nat) (max : Option Nat) :
    Nat → Nat → Option Nat → Cursor → Continuation → Option Cursor
  | 0, _, _, c, k => k c
  | bound + 1, count, last, c, k =>
      if count < min then
        body c fun c' => runGreedy body min max bound (count + 1) last c' k
      else if belowMax max count && last != some c.pos then
        match body c fun c' => runGreedy body min max bound (count + 1) (some c.pos) c' k with
        | some answer => some answer
        | none => k c
      else k c

/-- Repeats as seldom as possible, then more often. -/
def runLazy (body : Search) (min : Nat) (max : Option Nat) :
    Nat → Nat → Option Nat → Cursor → Continuation → Option Cursor
  | 0, _, _, c, k => k c
  | bound + 1, count, last, c, k =>
      if count < min then
        body c fun c' => runLazy body min max bound (count + 1) last c' k
      else
        match k c with
        | some answer => some answer
        | none =>
            if belowMax max count && last != some c.pos then
              body c fun c' => runLazy body min max bound (count + 1) (some c.pos) c' k
            else none

/-- The most repetitions of a character that a limit and the rest of a line allow. -/
def repeatLimit (max : Option Nat) (room : Nat) : Nat :=
  match max with
  | some m => Nat.min m room
  | none => room

/-- A repeated character, with the continuation's way of using the count it reaches. -/
def runRepeatedChar (text : Array Char) (test : CharTest) (min : Nat) (max : Option Nat)
    (appetite : Appetite) : Search := fun c k =>
  let count := countWhile text test (repeatLimit max (text.size - c.pos)) c.pos
  if count < min then none
  else match appetite with
    | .greedy => tryDown c k c.pos min count
    | .lazy => tryUp c k (count - min) (c.pos + min)
    | .possessive | .hasty => k (c.moveTo (c.pos + count))

/-- A bound on the repetitions that can start on a line from a position on. -/
def repetitionBound (text : Array Char) (min pos : Nat) : Nat :=
  min + (text.size - pos) + 2

/-- All ways in which a node matches from a cursor, offered to the continuation in order.  A possessive
repetition keeps the first way in which the greedy one matches. -/
def Node.run (text : Array Char) : Node → Search
  | .empty, c, k => k c
  | .never, _, _ => none
  | .char test, c, k => if testAt text test c.pos then k (c.moveTo (c.pos + 1)) else none
  | .anchor a, c, k => if a.holds text c.pos then k c else none
  | .cat first second, c, k => first.run text c fun c' => second.run text c' k
  | .alt first others, c, k =>
      match first.run text c k with
      | some answer => some answer
      | none => others.run text c k
  | .capture index body, c, k => body.run text c fun c' => k (c'.capture index c.pos)
  | .scope body, c, k => body.run text c k
  | .backref index rule, c, k =>
      match c.span? index with
      | some span =>
          if repeatsAt text rule span c.pos then k (c.moveTo (c.pos + (span.stop - span.start)))
          else none
      | none => none
  | .ifCaptured index present absent, c, k =>
      if (c.span? index).isSome then present.run text c k else absent.run text c k
  | .atomic body, c, k =>
      match body.run text c some with
      | some c' => k c'
      | none => none
  | .look direction negated body, c, k =>
      let seen : Option Cursor := match direction with
        | .ahead => body.run text c some
        | .behind width _ =>
            if width ≤ c.pos then body.run text (c.moveTo (c.pos - width)) some else none
      match seen, negated with
      | some c', false => k (c'.moveTo c.pos)
      | none, true => k c
      | _, _ => none
  | .repeatChar test min max appetite, c, k => runRepeatedChar text test min max appetite c k
  | .repeatNode body min max .greedy, c, k =>
      runGreedy (fun c' k' => body.run text c' k') min max (repetitionBound text min c.pos) 0 none c k
  | .repeatNode body min max .lazy, c, k =>
      runLazy (fun c' k' => body.run text c' k') min max (repetitionBound text min c.pos) 0 none c k
  | .repeatNode body min max .possessive, c, k | .repeatNode body min max .hasty, c, k =>
      match runGreedy (fun c' k' => body.run text c' k') min max (repetitionBound text min c.pos) 0 none c
          some with
      | some c' => k c'
      | none => none

end Pattern

end ModalHighlight
