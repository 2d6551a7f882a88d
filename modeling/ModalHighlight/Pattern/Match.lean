import ModalHighlight.Pattern.Trace

/-!
Matches of a pattern on a line.
-/

namespace ModalHighlight

/-- A successful match: where it ends and what its groups captured. -/
structure Match where
  stop : Nat
  spans : List (Nat × Pattern.Span)
deriving Repr, DecidableEq

/-- The span of a group that took part. -/
def Match.span? (m : Match) (index : Nat) : Option Pattern.Span :=
  m.spans.lookup index

/-- A group of the match ends before its start.  The matcher then has no result but fails. -/
def Match.isBroken (m : Match) : Bool :=
  m.spans.any fun entry => decide (entry.2.stop < entry.2.start)

namespace Pattern

/-- The match that a trail describes. -/
def Trail.toMatch (t : Trail) (groupCount : Nat) : Match :=
  ⟨t.pos, (List.range groupCount).filterMap fun i => (t.ends? (i + 1)).map (i + 1, ·)⟩

/-- The first way in which a pattern matches a line from a position on, with or without regard to the traces of
the search. -/
def matchAt (pattern : Pattern) (text : Array Char) (pos : Nat) : Option Match :=
  if pattern.traced then
    match pattern.node.trace text false none (.start pos) found with
    | .ok t => some (t.toMatch pattern.groupCount)
    | .error _ => none
  else (pattern.node.run text ⟨pos, []⟩ some).map fun c => ⟨c.pos, c.spans⟩

end Pattern

end ModalHighlight
