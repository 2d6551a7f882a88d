/-!
Sets of code points, written as the increasing list of the points at which membership changes.
Such a set starts outside, so a point belongs to it when an odd number of changes lies at or before
it.
-/

namespace ModalHighlight.Text

/-- A set of code points, given by the points at which membership changes. -/
structure CodeSet where
  changes : List Nat

namespace CodeSet

/-- Membership after the changes in the list, for a set that starts outside. -/
def containsFrom : List Nat → Nat → Bool
  | [], _ => false
  | change :: rest, code => if code < change then false else !containsFrom rest code

/-- The code point belongs to the set. -/
def contains (set : CodeSet) (code : Nat) : Bool :=
  containsFrom set.changes code

/-- The start of the last run of the set at or before the code point, if there is one. -/
def runStart? (set : CodeSet) (code : Nat) : Option Nat :=
  (set.changes.takeWhile (· ≤ code)).getLast?

end CodeSet

end ModalHighlight.Text
