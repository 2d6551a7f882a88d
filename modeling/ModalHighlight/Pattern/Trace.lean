import ModalHighlight.Pattern.Search

/-!
Matching by a search that leaves traces.  When a way of matching fails, `Node.trace` tells where the search
looked last and which marks it left at the ends of groups.  Three things hang on these traces.  A condition on a
group that is being matched sees the marks of its earlier rounds.  In a possessive repetition outside any other
one, a failed alternative leaves its marks behind, so that a group can end before its start.  And a hasty
repetition goes on where its failed last round looked last.  Everything else is matched alike by `Node.run`.
-/

namespace ModalHighlight

namespace Pattern

/-- A search on its way: its position, the position looked at last, and the marks set so far by number.  Only
the marks below `reach` are in use.  A group has two marks, one at its start and one at its end. -/
structure Trail where
  pos : Nat
  looked : Nat
  marks : List (Nat × Nat)
  reach : Nat
deriving Repr, DecidableEq

/-- The trail of a successful search, or the trail that a failed one left. -/
abbrev Attempt := Except Trail Trail

/-- What follows a node on a trail. -/
abbrev TrailContinuation := Trail → Attempt

/-- A node as a search that leaves traces. -/
abbrev TrailSearch := Trail → TrailContinuation → Attempt

namespace Trail

/-- The trail before the first look. -/
def start (pos : Nat) : Trail := ⟨pos, pos, [], 0⟩

def moveTo (t : Trail) (pos : Nat) : Trail := { t with pos }

/-- Looks at the position. -/
def look (t : Trail) : Trail := { t with looked := t.pos }

/-- Looks at another position, and goes there. -/
def lookAt (t : Trail) (pos : Nat) : Trail := { t with pos, looked := pos }

/-- The position of a mark that is in use. -/
def mark? (t : Trail) (mark : Nat) : Option Nat :=
  if mark < t.reach then t.marks.lookup mark else none

/-- Sets a mark at the position.  Marks that come into use with it start unset. -/
def setMark (t : Trail) (mark : Nat) : Trail :=
  let others := t.marks.filter fun m => m.1 != mark && (decide (mark < t.reach) || decide (m.1 < t.reach))
  { t with marks := (mark, t.pos) :: others, reach := Nat.max t.reach (mark + 1) }

def openGroup (t : Trail) (index : Nat) : Trail := t.setMark (2 * index - 2)

def closeGroup (t : Trail) (index : Nat) : Trail := t.setMark (2 * index - 1)

/-- The marks of a group that both are set. -/
def ends? (t : Trail) (index : Nat) : Option Span :=
  match t.mark? (2 * index - 2), t.mark? (2 * index - 1) with
  | some start, some stop => some ⟨start, stop⟩
  | _, _ => none

/-- The span of a group, which does not end before its start. -/
def span? (t : Trail) (index : Nat) : Option Span :=
  (t.ends? index).filter fun span => decide (span.start ≤ span.stop)

/-- Goes back to a trail after a failed search.  Inside a repetition the marks are taken back; elsewhere they
only fall out of use. -/
def after (t : Trail) (inside : Bool) (left : Trail) : Trail :=
  { t with looked := left.looked, marks := if inside then t.marks else left.marks }

end Trail

/-- Ends a search at the position. -/
def found (t : Trail) : Attempt := .ok t.look

/-- What follows begins with a character that cannot stand at the position, which is known without a look
at it. -/
def passedOver (text : Array Char) (ruledOut : CharTest → Bool) (opening : Option CharTest)
    (pos : Nat) : Bool :=
  match opening with
  | some test => ruledOut test && !testAt text test pos
  | none => false

section

variable (text : Array Char) (inside : Bool)

/-- Tries `count` steps from a start, then one fewer, down to `min`.  Counts after which the next
character is known not to fit are passed over. -/
def traceDown (after : Option CharTest) (t : Trail) (k : TrailContinuation) (start min : Nat) :
    Nat → Trail → Attempt
  | 0, left =>
      if passedOver text CharTest.isPlainCode after start then .error left
      else
        match k ((t.after inside left).lookAt start) with
        | .ok answer => .ok answer
        | .error left => .error (t.after inside left)
  | count + 1, left =>
      let pos := start + (count + 1)
      let attempt :=
        if passedOver text CharTest.isPlainCode after pos then .error left
        else k ((t.after inside left).lookAt pos)
      match attempt with
      | .ok answer => .ok answer
      | .error left =>
          let left := t.after inside left
          if min ≤ count then traceDown after t k start min count left else .error left

/-- Tries a position, then the next ones, as many as `more` says, and at last looks at one character
more. -/
def traceUp (test : CharTest) (k : TrailContinuation) : Nat → Trail → Attempt
  | 0, t =>
      match k t.look with
      | .ok answer => .ok answer
      | .error left =>
          let further := if test.triesCaseForms && testAt text test t.pos then t.pos + 1 else t.pos
          .error { t.after inside left with looked := further }
  | more + 1, t =>
      match k t.look with
      | .ok answer => .ok answer
      | .error left => traceUp test k more ((t.after inside left).moveTo (t.pos + 1))

/-- A repeated character.  Only a test that tries several case forms moves the place of the last look while
it counts. -/
def traceRepeatedChar (test : CharTest) (min : Nat) (max : Option Nat) (appetite : Appetite)
    (after : Option CharTest) : TrailSearch := fun t k =>
  let room := text.size - t.pos
  let count := countWhile text test (repeatLimit max room) t.pos
  let counted := fun (n : Nat) =>
    { t with looked := if test.triesCaseForms then t.pos + n else t.pos }
  if room < min then .error t
  else match appetite with
    | .greedy =>
        if count < min then .error (counted count)
        else traceDown text inside after t k t.pos min count (counted count)
    | .lazy =>
        if count < min then .error (counted count)
        else traceUp text inside test k (count - min) (t.moveTo (t.pos + min))
    | .possessive | .hasty =>
        if count < min then .error (counted count) else k ((counted count).moveTo (t.pos + count))

/-- Repeats as often as possible, then less often. -/
def traceGreedy (body : TrailSearch) (min : Nat) (max : Option Nat) :
    Nat → Nat → Option Nat → TrailSearch
  | 0, _, _, t, k => k t
  | bound + 1, count, last, t, k =>
      let t := t.look
      let ending := fun (t : Trail) =>
        match k t with
        | .ok answer => .ok answer
        | .error left => .error { left with looked := t.pos }
      if count < min then
        match body t fun t' => traceGreedy body min max bound (count + 1) last t' k with
        | .ok answer => .ok answer
        | .error left => .error { left with looked := t.pos }
      else if belowMax max count && last != some t.pos then
        match body t fun t' => traceGreedy body min max bound (count + 1) (some t.pos) t' k with
        | .ok answer => .ok answer
        | .error _ => ending t
      else ending t

/-- Repeats as seldom as possible, then more often. -/
def traceLazy (body : TrailSearch) (min : Nat) (max : Option Nat) :
    Nat → Nat → Option Nat → TrailSearch
  | 0, _, _, t, k => k t
  | bound + 1, count, last, t, k =>
      let t := t.look
      if count < min then
        match body t fun t' => traceLazy body min max bound (count + 1) last t' k with
        | .ok answer => .ok answer
        | .error left => .error { left with looked := t.pos }
      else
        match k t with
        | .ok answer => .ok answer
        | .error left =>
            let t := (t.after inside left).look
            if belowMax max count && last != some t.pos then
              match body t fun t' =>
                traceLazy body min max bound (count + 1) (some t.pos) t' k with
              | .ok answer => .ok answer
              | .error left => .error { left with looked := t.pos }
            else .error t

/-- Repeats as often as possible, each time in the first way only, and never takes a repetition back.  When
an optional round fails, its marks are taken back, and the search goes on where the round looked last, if that is
further on.  When a required one fails, the trail that it left is the answer. -/
def traceHasty (body : Trail → Attempt) (min : Nat) (max : Option Nat) :
    Nat → Nat → Option Nat → Trail → Attempt
  | 0, _, _, t => .ok t
  | bound + 1, count, last, t =>
      if count < min then
        match body t with
        | .ok t' => traceHasty body min max bound (count + 1) last t'
        | .error left => .error left
      else if belowMax max count && last != some t.pos then
        match body t with
        | .ok t' => traceHasty body min max bound (count + 1) (some t.pos) t'
        | .error left => .ok (t.lookAt (Nat.max t.pos left.looked))
      else .ok t

end

/-- The ways in which a node matches, in order.  `after` is the test that what follows the node begins with,
and `inside` says that a repetition goes on around it. -/
def Node.trace (text : Array Char) : Node → Bool → Option CharTest → TrailSearch
  | .empty, _, _, t, k => k t
  | .never, _, _, t, _ => .error t
  | .char test, _, _, t, k => if testAt text test t.pos then k (t.moveTo (t.pos + 1)) else .error t
  | .anchor a, _, _, t, k => if a.holds text t.pos then k t else .error t
  | .cat first second, inside, after, t, k =>
      first.trace text inside (second.opening after) t fun t' => second.trace text inside after t' k
  | .alt first others, inside, _, t, k =>
      if passedOver text (fun test => test.isPlainCode || test.isPlainClass) (first.opening none) t.pos
      then others.trace text inside none t k
      else
        match first.trace text inside none t.look k with
        | .ok answer => .ok answer
        | .error left => others.trace text inside none (t.after inside left) k
  | .capture index body, inside, _, t, k =>
      body.trace text inside none (t.openGroup index) fun t' => k (t'.closeGroup index)
  | .scope body, inside, after, t, k => body.trace text inside after t k
  | .backref index rule, _, _, t, k =>
      match t.span? index with
      | some span =>
          if repeatsAt text rule span t.pos then k (t.moveTo (t.pos + (span.stop - span.start)))
          else .error t
      | none => .error t
  | .ifCaptured index present absent, inside, after, t, k =>
      if (t.span? index).isSome then
        present.trace text inside (if absent = .empty then after else none) t k
      else absent.trace text inside after t k
  | .atomic body, inside, _, t, k =>
      match body.trace text inside none t.look found with
      | .ok t' => k t'
      | .error left => .error { left with looked := t.pos }
  | .look direction negated body, inside, _, t, k =>
      let start : Option Nat := match direction with
        | .ahead => some t.pos
        | .behind width _ => if width ≤ t.pos then some (t.pos - width) else none
      match start with
      | none => if negated then k t else .error t
      | some start =>
          match body.trace text inside none (t.lookAt start) found, negated with
          | .ok t', false => k (t'.moveTo t.pos)
          | .ok t', true => .error t'
          | .error left, false => .error left
          | .error left, true => k (t.after inside left)
  | .repeatChar test min max appetite, inside, after, t, k =>
      traceRepeatedChar text inside test min max appetite after t k
  | .repeatNode body min max .greedy, _, _, t, k =>
      traceGreedy (fun t' k' => body.trace text true none t' k') min max
        (repetitionBound text min t.pos) 0 none t k
  | .repeatNode body min max .lazy, inside, _, t, k =>
      traceLazy inside (fun t' k' => body.trace text true none t' k') min max
        (repetitionBound text min t.pos) 0 none t k
  | .repeatNode body min max .possessive, inside, _, t, k =>
      match traceGreedy (fun t' k' => body.trace text inside none t' k') min max
          (repetitionBound text min t.pos) 0 none t found with
      | .ok t' => k t'
      | .error left => .error { left with looked := t.pos }
  | .repeatNode body min max .hasty, inside, _, t, k =>
      match traceHasty (fun t' => body.trace text inside none t' found) min max
          (repetitionBound text min t.pos) 0 none t.look with
      | .ok t' => k t'
      | .error left => .error { left with looked := t.pos }

end Pattern

end ModalHighlight
