import ModalHighlight.Pattern.CharTest

/-!
Patterns as trees.  A pattern is matched from a fixed position of a line; its first way of matching, in
the order in which the alternatives are written, is the one that counts.
-/

namespace ModalHighlight

namespace Pattern

/-- A condition on a position that consumes nothing. -/
inductive Anchor
  | textStart
  | lineStart
  | textEnd
  | textEndOrLastNewline
  | lineEnd
  | wordBoundary (ascii : Bool)
  | noWordBoundary (ascii : Bool)
deriving Repr, DecidableEq

/-- Which number of repetitions is tried first, and whether fewer or more are tried later.  A hasty repetition
is a possessive one of an early release of the matcher, which no pattern text is read as. -/
inductive Appetite
  | greedy
  | lazy
  | possessive
  | hasty
deriving Repr, DecidableEq

/-- Where an assertion looks.  Behind the position it looks at a text of one width; the two bounds
differ only in a pattern that is refused for it. -/
inductive Direction
  | ahead
  | behind (lo hi : Nat)
deriving Repr, DecidableEq

/-- The syntax tree of a pattern.  Alternatives are a chain of `alt` that ends in `never`.  A repetition has
no upper limit when `max` is `none`.  A scope is a group with flags of its own, which its tests hold
already. -/
inductive Node
  | empty
  | never
  | char (test : CharTest)
  | anchor (a : Anchor)
  | cat (first second : Node)
  | alt (first others : Node)
  | capture (index : Nat) (body : Node)
  | scope (body : Node)
  | backref (index : Nat) (rule : CaseRule)
  | ifCaptured (index : Nat) (present absent : Node)
  | atomic (body : Node)
  | look (direction : Direction) (negated : Bool) (body : Node)
  | repeatChar (test : CharTest) (min : Nat) (max : Option Nat) (appetite : Appetite)
  | repeatNode (body : Node) (min : Nat) (max : Option Nat) (appetite : Appetite)
deriving Repr, DecidableEq

namespace Node

/-- A character that stands for itself. -/
def ofChar (c : Char) : Node := .char (.code c.toNat .exact false)

/-- One after another. -/
def sequence : List Node → Node
  | [] => .empty
  | [node] => node
  | node :: rest => .cat node (sequence rest)

/-- The first that matches. -/
def alternatives : List Node → Node
  | [] => .never
  | node :: rest => .alt node (alternatives rest)

/-- The test of a node that is a single character, perhaps in scopes. -/
def test? : Node → Option CharTest
  | char test => some test
  | scope body => body.test?
  | _ => none

/-- Repetition, in its own form where the body is a single character. -/
def repetition (body : Node) (min : Nat) (max : Option Nat) (appetite : Appetite) : Node :=
  match body.test? with
  | some test => .repeatChar test min max appetite
  | none => .repeatNode body min max appetite

/-- The node is equal to every node that is written alike: it holds no other nodes. -/
def isLeaf : Node → Bool
  | char _ | anchor _ | backref _ _ => true
  | _ => false

/-- The test that a node begins with, given the one that begins what follows it.  Only a single character
counts, and an empty node is passed over. -/
def opening : Node → Option CharTest → Option CharTest
  | empty, after => after
  | char test, _ => some test
  | cat first second, after => first.opening (second.opening after)
  | scope body, after => body.opening after
  | _, _ => none

/-- What failed attempts leave behind counts in the node: it holds a possessive repetition of more than a
character, or a condition. -/
def leavesTraces : Node → Bool
  | .cat a b | .alt a b => a.leavesTraces || b.leavesTraces
  | .capture _ a | .scope a | .atomic a | .look _ _ a => a.leavesTraces
  | .repeatNode a _ _ appetite => appetite == .possessive || appetite == .hasty || a.leavesTraces
  | .ifCaptured _ _ _ => true
  | _ => false

/-- The node as early releases of the matcher have it: its possessive repetitions are hasty. -/
def early : Node → Node
  | cat a b => .cat a.early b.early
  | alt a b => .alt a.early b.early
  | capture index a => .capture index a.early
  | scope a => .scope a.early
  | ifCaptured index a b => .ifCaptured index a.early b.early
  | atomic a => .atomic a.early
  | look direction negated a => .look direction negated a.early
  | repeatNode a min max appetite =>
      .repeatNode a.early min max (if appetite = .possessive then .hasty else appetite)
  | node => node

end Node

end Pattern

/-- A pattern: its text, its tree, the number of its capturing groups, and whether the traces of a search
count for it. -/
structure Pattern where
  text : String
  node : Pattern.Node
  groupCount : Nat
  traced : Bool
deriving Repr, DecidableEq

/-- The class of one character. -/
def Pattern.ofChar (c : Char) : Pattern :=
  ⟨"[" ++ String.singleton c ++ "]", .ofChar c, 0, false⟩

/-- The pattern as early releases of the matcher have it. -/
def Pattern.early (p : Pattern) : Pattern :=
  { p with node := p.node.early }

end ModalHighlight
