import ModalHighlight.Pattern.Escape

/-!
Reading a pattern.  `Pattern.parse` gives the tree of a text or the reason for which it is refused.
Groups, alternatives and sequences read each other; every round takes a piece of the text, so the
bound computed from its length is never used up.
-/

namespace ModalHighlight

namespace Pattern

open ModalHighlight.Text

/-- The width of consecutive items together. -/
def sequenceWidth (items : List Item) : Width :=
  (items.foldl (fun (w : Width) item => w.add item.width) Width.zero).capped

/-- The width of one of several branches. -/
def branchWidth : List Width → Width
  | [] => .zero
  | [w] => w
  | w :: rest => w.either (branchWidth rest)

/-- The width of a repetition. -/
def repeatWidth (w : Width) (min : Nat) (max : Option Nat) : Width :=
  ⟨w.lo * min, w.hi * max.getD Width.unbounded⟩

/-- The node and the width of a sequence. -/
def sequenceOf (items : List Item) : Node × Width :=
  (Node.sequence (items.map (·.node)), sequenceWidth items)

/-- The first repetition count that is not supported. -/
def repetitionLimit : Nat := Width.unbounded

/-- Numbers with more digits than this are not read. -/
def numberLengthLimit : Nat := 4300

/-- The first group number that no condition may ask for. -/
def groupLimit : Nat := 1073741823

/-- A repetition count; without digits there is none. -/
def readCount (digits : List Char) : Reading (Option Nat) := do
  if digits.isEmpty then return none
  else if numberLengthLimit < digits.length then throw .numberTooLong
  else
    let n := numberOf 10 digits
    if repetitionLimit ≤ n then throw .repetitionTooLarge
    else return some n

/-- The counts of a quantifier in braces, whose opening brace has been taken.  Braces that hold no
counts are text: then nothing is taken, and there is no answer. -/
def readBraces : Reading (Option (Nat × Option Nat)) := do
  let before ← get
  if before.rest.head? == some (.plain '}') then return none
  else
    let lo ← Reading.takeWhile isDecimalDigit before.rest.length
    let comma ← Reading.accept ','
    let hi ← if comma then Reading.takeWhile isDecimalDigit before.rest.length else pure lo
    if ← Reading.accept '}' then
      let min ← readCount lo
      let max ← readCount hi
      match min, max with
      | some a, some b =>
          if b < a then Reading.refuseAt .minAboveMax before.pos else return some (a, some b)
      | _, _ => return some (min.getD 0, max)
    else
      set before
      return none

/-- The mark after a quantifier that says how it goes about its counts. -/
def readAppetite : Reading Appetite := do
  if ← Reading.accept '?' then return .lazy
  else if ← Reading.accept '+' then return .possessive
  else return .greedy

/-- Replaces the last chunk by its repetition.  `start` is the place of the quantifier. -/
def repeatLast (start : Nat) (min : Nat) (max : Option Nat) (found : List Chunk) :
    Reading (List Chunk) := do
  match found with
  | [] => Reading.refuseAt .nothingToRepeat start
  | chunk :: rest =>
      match chunk.role with
      | .anchor => Reading.refuseAt .nothingToRepeat start
      | .repeated => Reading.refuseAt .multipleRepeat start
      | .plain =>
          let appetite ← readAppetite
          let (body, width) := sequenceOf chunk.items
          let item : Item := ⟨body.repetition min max appetite, repeatWidth width min max⟩
          return ⟨[item], .repeated⟩ :: rest

/-- The item that all branches begin with, if it is a leaf, and what is left of the branches. -/
def sharedFirst? (branches : List (List Item)) : Option (Item × List (List Item)) :=
  match branches with
  | (first :: _) :: _ =>
      let shared := branches.all fun items =>
        match items with
        | item :: _ => item.node == first.node
        | [] => false
      if first.node.isLeaf && shared then some (first, branches.map (·.drop 1)) else none
  | _ => none

/-- Takes out of the branches what they all begin with, item by item.  `bound` limits the items, of which
there are at most as many as in the first branch. -/
def takeShared : Nat → List (List Item) → List Item × List (List Item)
  | 0, branches => ([], branches)
  | bound + 1, branches =>
      match sharedFirst? branches with
      | none => ([], branches)
      | some (first, branches) =>
          let (more, branches) := takeShared bound branches
          (first :: more, branches)

/-- The class that branches of one character each amount to. -/
def classOf? (flags : Flags) (branches : List (List Item)) : Option CharTest :=
  let members := branches.mapM fun items =>
    match items with
    | [⟨.char test, _⟩] => test.classItems?
    | _ => none
  members.map fun lists => .ofClass lists.flatten.eraseDups flags.caseRule false

/-- The items of alternatives: what all branches begin with is read once, and branches of one character each
are read as a class. -/
def branchItems (flags : Flags) (branches : List (List Item)) : List Item :=
  match branches with
  | [items] => items
  | _ =>
      let (shared, rest) := takeShared (branches.headD []).length branches
      let choice : Item :=
        match classOf? flags rest with
        | some test => ⟨.char test, ⟨1, 1⟩⟩
        | none =>
            let read := rest.map sequenceOf
            ⟨.alternatives (read.map (·.1)), branchWidth (read.map (·.2))⟩
      shared ++ [choice]

/-- Skips a comment of a verbose pattern up to the end of its line. -/
def skipLine : Nat → Reading Unit
  | 0 => return ()
  | n + 1 => do
      match ← Reading.take with
      | none => return ()
      | some p => if p == .plain '\n' then return () else skipLine n

/-- Skips a comment in parentheses, the opening at `start`. -/
def skipComment (start : Nat) : Nat → Reading Unit
  | 0 => Reading.refuseAt .unterminatedComment start
  | n + 1 => do
      match ← Reading.take with
      | none => Reading.refuseAt .unterminatedComment start
      | some p => if p == .plain ')' then return () else skipComment start n

/-- A letter is taken for an unknown flag, and anything else for the end of the flags. -/
def flagCause (p : Piece) (missing : Cause) : Cause :=
  match p with
  | .plain c => if isLetter c then .unknownFlag else missing
  | .escaped _ => missing

/-- The piece starts a list of flags. -/
def Piece.opensFlags (p : Piece) : Bool :=
  match p.plain? with
  | some c => c == '-' || c == 'L' || (Flags.ofLetter? c).isSome
  | none => false

/-- The flags that are turned on, from a first letter on, and the piece that ends them: a closing
parenthesis, a colon or a minus. -/
def readFlagsOn : Nat → Piece → Flags → Reading (Flags × Char)
  | 0, _, _ => Reading.refuse .nestingTooDeep 0
  | n + 1, letter, on => do
      if letter == .plain 'L' then Reading.refuse .localeFlag 0
      else
        match letter.plain?.bind Flags.ofLetter? with
        | none => Reading.refuse (flagCause letter .missingFlagEnd) letter.width
        | some flag =>
            let on := on.union flag
            if flag.choosesSet && on.ascii && on.unicode then Reading.refuse .incompatibleFlags 0
            else
              match ← Reading.take with
              | none => Reading.refuse .missingFlagEnd 0
              | some (.plain ')') => return (on, ')')
              | some (.plain '-') => return (on, '-')
              | some (.plain ':') => return (on, ':')
              | some next => readFlagsOn n next on

/-- The flags that are turned off, up to the colon. -/
def readFlagsOff : Nat → Piece → Cause → Flags → Reading Flags
  | 0, _, _, _ => Reading.refuse .nestingTooDeep 0
  | n + 1, letter, missing, off => do
      if letter == .plain 'L' then Reading.refuse .typeFlagOff 0
      else
        match letter.plain?.bind Flags.ofLetter? with
        | none => Reading.refuse (flagCause letter missing) letter.width
        | some flag =>
            if flag.choosesSet then Reading.refuse .typeFlagOff 0
            else
              let off := off.union flag
              match ← Reading.take with
              | none => Reading.refuse .missingColon 0
              | some (.plain ':') => return off
              | some next => readFlagsOff n next .missingColon off

/-- Flags in parentheses, from their first piece on.  Flags for the whole pattern give no answer and
are recorded; flags for a group are the ones turned on and the ones turned off. -/
def readFlags (first : Piece) : Reading (Option (Flags × Flags)) := do
  let bound := (← get).rest.length + 1
  let (on, ending) ←
    if first == .plain '-' then pure (({} : Flags), '-') else readFlagsOn bound first {}
  if ending == ')' then
    modify fun s => { s with flags := s.flags.union on }
    return none
  else if on.template then Reading.refuse .globalFlagOn 1
  else
    let off ←
      if ending == '-' then
        match ← Reading.take with
        | none => Reading.refuse .missingFlag 0
        | some letter => readFlagsOff bound letter .missingFlag {}
      else pure {}
    if off.template then Reading.refuse .globalFlagOff 1
    else if on.meets off then Reading.refuse .flagOnAndOff 1
    else return some (on, off)

/-- A name for a group, up to its terminator. -/
def readGroupName (terminator : Char) : Reading String := do
  let name ← Reading.name terminator "group name"
  if isIdentifier name.toList then return name
  else Reading.refuse (.badGroupName name) (name.length + 1)

/-- A new group.  It stays open until its width is known. -/
def openGroup (name : Option String) : Reading Nat := do
  let s ← get
  let index := s.widths.length + 1
  let s := { s with widths := s.widths ++ [none] }
  match name with
  | none =>
      set s
      return index
  | some name =>
      match s.names.lookup name with
      | some earlier =>
          Reading.refuse (.redefinedGroup name index earlier) (name.length + 1)
      | none =>
          set { s with names := s.names ++ [(name, index)] }
          return index

def closeGroup (index : Nat) (width : Width) : Reading Unit :=
  modify fun s => { s with widths := s.widths.set (index - 1) (some width) }

/-- The digits of a whole number: single underscores may stand between digits, and digits of any
script count. -/
def wholeNumber? : List Char → Option (List Nat)
  | [] => none
  | [c] => (digitValue? c.toNat).map ([·])
  | c :: '_' :: rest =>
      match digitValue? c.toNat, wholeNumber? rest with
      | some d, some ds => some (d :: ds)
      | _, _ => none
  | c :: rest =>
      match digitValue? c.toNat, wholeNumber? rest with
      | some d, some ds => some (d :: ds)
      | _, _ => none

/-- A number that is not negative, with blanks around it and a sign before it. -/
def conditionNumber? (chars : List Char) : Option Nat :=
  let blank := fun (c : Char) => isSpace c.toNat
  let core := ((chars.dropWhile blank).reverse.dropWhile blank).reverse
  let (negative, digits) := match core with
    | '-' :: rest => (true, rest)
    | '+' :: rest => (false, rest)
    | _ => (false, core)
  match wholeNumber? digits with
  | none => none
  | some ds =>
      let n := ds.foldl (fun n d => n * 10 + d) 0
      if numberLengthLimit < ds.length || (negative && n != 0) then none else some n

/-- The group that a condition asks for, by name or by number, after its opening parenthesis. -/
def readCondition : Reading Nat := do
  let name ← Reading.name ')' "group name"
  let back := name.length + 1
  let index ←
    if isIdentifier name.toList then
      match (← get).names.lookup name with
      | some index => pure index
      | none => Reading.refuse (.unknownGroupName name) back
    else
      match conditionNumber? name.toList with
      | none => Reading.refuse (.badGroupName name) back
      | some 0 => Reading.refuse .badGroupNumber back
      | some index =>
          if groupLimit ≤ index then Reading.refuse (.invalidGroupReference index) back
          else
            modify fun s =>
              if (s.conditions.lookup index).isSome then s
              else { s with conditions := s.conditions ++ [(index, s.pos - back)] }
            pure index
  checkBehind index
  return index

/-- Closes a group whose opening parenthesis stands at `start`. -/
def expectClose (start : Nat) : Reading Unit := do
  if ← Reading.accept ')' then return () else Reading.refuseAt .unterminatedGroup start

/-- What an opening parenthesis leads to. -/
inductive GroupResult
  | nothing
  | flags (f : Flags)
  | chunk (c : Chunk)

/-- A group of one node. -/
def GroupResult.ofNode (node : Node) (width : Width) : GroupResult :=
  .chunk (.ofNode node width)

/-- The kinds of group that open with a question mark and the body that follows. -/
inductive GroupKind
  | capture (name : Option String)
  | plain
  | scope (flags : Flags)
  | atomic
  | look (behind negated : Bool)
  | condition (index : Nat)

/-- The start of a group, after its opening parenthesis at `start`: its kind, or a construct that is
already complete. -/
def readGroupStart (flags : Flags) (atStart : Bool) (start : Nat) :
    Reading (GroupResult ⊕ GroupKind) := do
  if !(← Reading.accept '?') then return .inr (.capture none)
  else
    match ← Reading.take with
    | none => Reading.refuse .endOfPattern 0
    | some (.plain 'P') =>
        if ← Reading.accept '<' then
          return .inr (.capture (some (← readGroupName '>')))
        else if ← Reading.accept '=' then
          let name ← readGroupName ')'
          match (← get).names.lookup name with
          | none => Reading.refuse (.unknownGroupName name) (name.length + 1)
          | some index =>
              let chunk ← readBackref flags index (name.length + 1)
              return .inl (.chunk chunk)
        else
          match ← Reading.take with
          | none => Reading.refuse .endOfPattern 0
          | some p => Reading.refuse (.unknownExtension ("P" ++ p.text)) (p.width + 2)
    | some (.plain ':') => return .inr .plain
    | some (.plain '#') =>
        skipComment start ((← get).rest.length + 1)
        return .inl .nothing
    | some (.plain '=') => return .inr (.look false false)
    | some (.plain '!') => return .inr (.look false true)
    | some (.plain '<') =>
        match ← Reading.take with
        | none => Reading.refuse .endOfPattern 0
        | some (.plain '=') => return .inr (.look true false)
        | some (.plain '!') => return .inr (.look true true)
        | some p => Reading.refuse (.unknownExtension ("<" ++ p.text)) (p.width + 2)
    | some (.plain '(') => return .inr (.condition (← readCondition))
    | some (.plain '>') => return .inr .atomic
    | some p =>
        if p.opensFlags then
          match ← readFlags p with
          | some (on, off) => return .inr (.scope (flags.within on off))
          | none =>
              if atStart then
                let s ← get
                return .inl (.flags s.flags)
              else Reading.refuseAt .globalFlagsNotAtStart start
        else Reading.refuse (.unknownExtension p.text) (p.width + 1)

/-- The anchor that a start or end sign makes. -/
def startAnchor (flags : Flags) : Anchor :=
  if flags.multiline then .lineStart else .textStart

def endAnchor (flags : Flags) : Anchor :=
  if flags.multiline then .lineEnd else .textEndOrLastNewline

/-- A chunk of a sequence that is neither a group nor a quantifier. -/
def readAtom (flags : Flags) (start : Nat) : Piece → Reading Chunk
  | .escaped c => readEscape flags c
  | .plain '[' => readClass flags start
  | .plain '.' => return .ofTest (if flags.dotAll then .any else .notNewline)
  | .plain '^' => return .ofAnchor (startAnchor flags)
  | .plain '$' => return .ofAnchor (endAnchor flags)
  | .plain c => return .ofCode flags c.toNat

/-- The counts of the quantifier that a piece opens, if it opens one. -/
def readQuantifier : Piece → Reading (Option (Nat × Option Nat))
  | .plain '?' => return some (0, some 1)
  | .plain '*' => return some (0, none)
  | .plain '+' => return some (1, none)
  | .plain '{' => readBraces
  | _ => return none

/-- The items of a sequence whose chunks were found in reverse. -/
def itemsOf (found : List Chunk) : List Item :=
  found.reverse.flatMap (·.items)

/-- Skips what a verbose pattern ignores: says whether the piece was a blank or opened a comment. -/
def skipVerbose (flags : Flags) (p : Piece) : Reading Bool := do
  if !flags.verbose then return false
  else
    match p with
    | .plain c =>
        if isAsciiSpace c.toNat then return true
        else if c == '#' then
          skipLine ((← get).rest.length + 1)
          return true
        else return false
    | .escaped _ => return false

mutual

/-- Alternatives up to a closing parenthesis or the end.  At the top, flags set for the whole pattern
reach the later branches. -/
def readAlternatives : Nat → Bool → Flags → Reading (List Item)
  | 0, _, _ => Reading.refuse .nestingTooDeep 0
  | n + 1, top, flags => do
      let first ← readSequence n flags top []
      let branches ← readBranches n top flags [first]
      let whole := (← get).flags
      return branchItems (if top then whole else flags) branches

/-- The branches after the first. -/
def readBranches : Nat → Bool → Flags → List (List Item) → Reading (List (List Item))
  | 0, _, _, _ => Reading.refuse .nestingTooDeep 0
  | n + 1, top, flags, found => do
      if ← Reading.accept '|' then
        let whole := (← get).flags
        let flags := if top then whole else flags
        let branch ← readSequence n flags false []
        readBranches n top flags (found ++ [branch])
      else return found

/-- Items one after another; `first` says that flags for the whole pattern may stand here. -/
def readSequence : Nat → Flags → Bool → List Chunk → Reading (List Item)
  | 0, _, _, _ => Reading.refuse .nestingTooDeep 0
  | n + 1, flags, first, found => do
      let start := (← get).pos
      match ← Reading.peek with
      | none => return itemsOf found
      | some (.plain '|') => return itemsOf found
      | some (.plain ')') => return itemsOf found
      | some p =>
          let _ ← Reading.take
          if ← skipVerbose flags p then readSequence n flags first found
          else if p == .plain '(' then
            match ← readGroup n flags (first && found.isEmpty) start with
            | .nothing => readSequence n flags first found
            | .flags f => readSequence n f first found
            | .chunk chunk => readSequence n flags first (chunk :: found)
          else
            match ← readQuantifier p with
            | some (min, max) =>
                let found ← repeatLast start min max found
                readSequence n flags first found
            | none =>
                let chunk ← readAtom flags start p
                readSequence n flags first (chunk :: found)

/-- What follows an opening parenthesis at `start`. -/
def readGroup : Nat → Flags → Bool → Nat → Reading GroupResult
  | 0, _, _, _ => Reading.refuse .nestingTooDeep 0
  | n + 1, flags, atStart, start => do
      match ← readGroupStart flags atStart start with
      | .inl result => return result
      | .inr (.capture name) =>
          let index ← openGroup name
          let (body, width) := sequenceOf (← readAlternatives n false flags)
          expectClose start
          closeGroup index width
          return .ofNode (.capture index body) width
      | .inr .plain =>
          let items ← readAlternatives n false flags
          expectClose start
          return .chunk ⟨items, .plain⟩
      | .inr (.scope flags) =>
          let (body, width) := sequenceOf (← readAlternatives n false flags)
          expectClose start
          return .ofNode (.scope body) width
      | .inr .atomic =>
          let (body, width) := sequenceOf (← readAlternatives n false flags)
          expectClose start
          return .ofNode (.atomic body) width
      | .inr (.look false negated) =>
          let (body, _) := sequenceOf (← readAlternatives n false flags)
          expectClose start
          return .ofNode (.look .ahead negated body) .zero
      | .inr (.look true negated) =>
          let outer := (← get).behindLimit
          if outer.isNone then
            modify fun s => { s with behindLimit := some (s.widths.length + 1) }
          let (body, width) := sequenceOf (← readAlternatives n false flags)
          if outer.isNone then modify fun s => { s with behindLimit := none }
          expectClose start
          return .ofNode (.look (.behind width.lo width.hi) negated body) .zero
      | .inr (.condition index) =>
          let (present, w) := sequenceOf (← readSequence n flags false [])
          if ← Reading.accept '|' then
            let (absent, w') := sequenceOf (← readSequence n flags false [])
            if (← Reading.peek) == some (.plain '|') then Reading.refuse .tooManyBranches 0
            else
              expectClose start
              return .ofNode (.ifCaptured index present absent) (w.either w')
          else
            expectClose start
            return .ofNode (.ifCaptured index present .empty) (w.either .zero)

end

/-- The first fault of a complete tree: a look-behind without a single width, or a repetition in a
pattern whose flags rule repetitions out. -/
def Node.fault? (template : Bool) : Node → Option Cause
  | .cat a b | .alt a b | .ifCaptured _ a b => (a.fault? template).or (b.fault? template)
  | .capture _ a | .scope a | .atomic a | .look .ahead _ a => a.fault? template
  | .look (.behind lo hi) _ a => if lo ≠ hi then some .variableLookBehind else a.fault? template
  | .repeatChar _ _ _ appetite => templateFault template appetite
  | .repeatNode a _ _ appetite => (templateFault template appetite).or (a.fault? template)
  | _ => none
where
  templateFault (template : Bool) (appetite : Appetite) : Option Cause :=
    if template then
      some (.templateRepeat (match appetite with
        | .greedy => "MAX_REPEAT"
        | .lazy => "MIN_REPEAT"
        | .possessive | .hasty => "POSSESSIVE_REPEAT"))
    else none

/-- The first distance over which no look-behind is supported. -/
def distanceLimit : Nat := Nat.pow 2 31

/-- A look-behind of the tree looks too far. -/
def Node.looksTooFar : Node → Bool
  | .cat a b | .alt a b | .ifCaptured _ a b => a.looksTooFar || b.looksTooFar
  | .capture _ a | .scope a | .atomic a | .look .ahead _ a | .repeatNode a _ _ _ => a.looksTooFar
  | .look (.behind lo _) _ a => decide (distanceLimit ≤ lo) || a.looksTooFar
  | _ => false

/-- A whole pattern: no closing parenthesis is left over, every group asked for by number exists, and
the tree has no fault. -/
def readPattern (text : String) (bound : Nat) : Reading Pattern := do
  let s ← get
  if s.rest.isEmpty && s.dangling then Reading.refuseAt .badEscapeAtEnd 0
  else
    let (node, _) := sequenceOf (← readAlternatives bound true s.flags)
    let s ← get
    if s.flags.ascii && s.flags.unicode then throw .flagsExclusive
    else if !s.rest.isEmpty then Reading.refuse .unbalancedParenthesis 0
    else
      match s.conditions.find? fun (index, _) => s.widths.length < index with
      | some (index, position) => Reading.refuseAt (.invalidGroupReference index) position
      | none =>
          match node.fault? s.flags.template with
          | some cause => throw (.refused cause none)
          | none =>
              if node.looksTooFar then throw .distanceTooLarge
              else return ⟨text, node, s.widths.length, node.leavesTraces⟩

/-- Reads a pattern under flags given from outside. -/
def parseWith (flags : Flags) (text : String) : Except Failure Pattern :=
  let chars := text.toList
  let (ps, dangling) := pieces chars
  let source : Source := ⟨ps, 0, dangling, flags, [], [], none, []⟩
  ((readPattern text (4 * chars.length + 16)).run source).map (·.1)

/-- Reads a pattern. -/
def parse (text : String) : Except Failure Pattern :=
  parseWith {} text

end Pattern

end ModalHighlight
