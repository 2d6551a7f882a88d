import ModalHighlight.Proofs.Koto.Delimiters
import ModalHighlight.Proofs.Scan.Readings

/-!
Nesting of the current language.  In lines of delimiters, brackets, strings, templates, comments and
functions nest as in a pushdown automaton that reads from left to right and looks one character ahead.  The
stack after a line is the one that the automaton ends with, whatever is open before the line and whether or
not its delimiters are balanced.
-/

namespace ModalHighlight.Koto

open Pattern ScanState

/-- A region that a delimiter opens. -/
inductive Region
  | curly
  | square
  | doubleQuoted
  | singleQuoted
  | template
  | comment
  | function
  | arguments
deriving Repr, DecidableEq

/-- The mode of a region. -/
def Region.name : Region → String
  | curly => "#section/0"
  | square => "#section/1"
  | doubleQuoted => "#string-double-quoted/0"
  | singleQuoted => "#string-single-quoted/0"
  | template => "#string-template/0"
  | comment => "#comment-block/0"
  | function => "#function/0"
  | arguments => "#function_arguments/0"

/-- What becomes of the open regions. -/
inductive Change
  | stay
  | opens (region : Region)
  | closes
deriving Repr, DecidableEq

/-- A character in code, where `closing` is the character that closes the innermost region. -/
def inCode (closing : Option Char) (c : Char) (next : Option Char) : Reach × Change :=
  if closing = some c then (.one, .closes)
  else if c = '#' then if next = some '-' then (.two, .opens .comment) else (.line, .stay)
  else if c = '{' then (.one, .opens .curly)
  else if c = '[' then (.one, .opens .square)
  else if c = '"' then (.one, .opens .doubleQuoted)
  else if c = '\'' then (.one, .opens .singleQuoted)
  else if c = '|' then (.one, .opens .function)
  else (.one, .stay)

/-- A character in a string. -/
def inString (quote c : Char) (next : Option Char) : Reach × Change :=
  if c = quote then (.one, .closes)
  else if c = '\\' ∧ next ∈ [some '\'', some '"', some '$', some '\\'] then (.two, .stay)
  else if c = '$' ∧ next = some '{' then (.two, .opens .template)
  else (.one, .stay)

/-- A character in a comment. -/
def inComment (c : Char) (next : Option Char) : Reach × Change :=
  if c = '-' ∧ next = some '#' then (.two, .closes)
  else if c = '\\' ∧ next ≠ none then (.two, .stay)
  else if c = '#' ∧ next = some '-' then (.two, .opens .comment)
  else (.one, .stay)

/-- A character among arguments, where `closing` is the character that closes them. -/
def inArguments (closing c : Char) : Reach × Change :=
  if c = closing then (.one, .closes)
  else if c = '(' then (.one, .opens .arguments)
  else (.one, .stay)

/-- A character in the innermost region, given the next character of the line. -/
def move : Option Region → Char → Option Char → Reach × Change
  | none => inCode none
  | some .curly => inCode (some '}')
  | some .square => inCode (some ']')
  | some .template => inCode (some '}')
  | some .doubleQuoted => inString '"'
  | some .singleQuoted => inString '\''
  | some .comment => inComment
  | some .function => fun c _ => inArguments '|' c
  | some .arguments => fun c _ => inArguments ')' c

/-- The open regions, the innermost first, after a change. -/
def Change.apply (change : Change) (regions : List Region) : List Region :=
  match change with
  | stay => regions
  | opens region => region :: regions
  | closes => regions.tail

/-- The open regions after a line, the innermost first, given those before it. -/
def nest (regions : List Region) : List Char → List Region
  | [] => regions
  | [c] => (move regions.head? c none).2.apply regions
  | c :: d :: rest =>
      let step := move regions.head? c (some d)
      match step.1 with
      | .one => nest (step.2.apply regions) (d :: rest)
      | .two => nest (step.2.apply regions) rest
      | .line => step.2.apply regions

/-- The stack of open regions, the innermost first. -/
def stackOf (regions : List Region) : ModeStack :=
  startName :: (regions.map Region.name).reverse

/-- The mode of the innermost region; outside all regions it is the first mode. -/
def modeName : Option Region → String
  | none => startName
  | some region => region.name

/-- The transition that changes the open regions. -/
def Change.transition : Change → Transition
  | stay => .stay
  | opens region => .push region.name
  | closes => .pop

/-- The open modes of open regions. -/
def openModes : List Region → OpenModes
  | [] => .start
  | region :: rest => (openModes rest).push region.name

theorem openModes_top (regions : List Region) :
    (openModes regions).top = modeName regions.head? := by
  cases regions <;> rfl

theorem openModes_stack (regions : List Region) : (openModes regions).stack = stackOf regions := by
  induction regions with
  | nil => rfl
  | cons region rest ih => simp [openModes, OpenModes.stack_push, ih, stackOf]

/-- Nothing closes the first mode, but if something did, it would stay. -/
theorem apply_openModes (change : Change) (regions : List Region) :
    (openModes regions).apply change.transition = openModes (change.apply regions) := by
  cases change with
  | stay => rfl
  | opens region => rfl
  | closes => cases regions <;> rfl

/-- The characters that may follow one in a line of delimiters. -/
def nextChars : List (Option Char) :=
  none :: delimiters.map some

/-- Whether a mode reads every character as its region does.  The check runs over the two lists; the
instance for all characters would run over the whole of Unicode. -/
def readsAsRegion (region : Option Region) : Bool :=
  delimiters.all fun c => nextChars.all fun next =>
    decide (reading (modeSummary (modeName region)) c next =
      ((move region c next).1, (move region c next).2.transition))

theorem readsAsRegion_eq_true (region : Option Region) : readsAsRegion region = true := by
  cases region with
  | none => decide +kernel
  | some region => cases region <;> decide +kernel

/-- A mode reads a character as its region does. -/
theorem reading_eq_move (region : Option Region) {c : Char} (hc : c ∈ delimiters)
    {next : Option Char} (hnext : next ∈ nextChars) :
    reading (modeSummary (modeName region)) c next =
      ((move region c next).1, (move region c next).2.transition) := by
  have hchecked := List.all_eq_true.mp (readsAsRegion_eq_true region) c hc
  exact of_decide_eq_true (List.all_eq_true.mp hchecked next hnext)

theorem modeName_mem_outline (region : Option Region) : modeName region ∈ outline.map (·.1) := by
  cases region with
  | none => decide
  | some region => cases region <;> decide

/-- The characters that a match leaves, given those after its first. -/
def leftAfter (reach : Reach) (rest : List Char) : List Char :=
  match reach with
  | .one => rest
  | .two => rest.drop 1
  | .line => []

theorem nest_cons (regions : List Region) (c : Char) (rest : List Char) :
    nest regions (c :: rest) =
      nest ((move regions.head? c rest.head?).2.apply regions)
        (leftAfter (move regions.head? c rest.head?).1 rest) := by
  cases rest with
  | nil =>
      have hnone : ∀ reach, leftAfter reach [] = [] := by
        intro reach
        cases reach <;> rfl
      rw [List.head?_nil, hnone]
      rfl
  | cons d rest =>
      rw [nest, List.head?_cons]
      cases (move regions.head? c (some d)).1 <;> simp [leftAfter, nest]

theorem drop_stop (chars : List Char) (pos : Nat) (reach : Reach) :
    chars.drop (reach.stop pos chars.length) = leftAfter reach (chars.drop (pos + 1)) := by
  cases reach with
  | one => rfl
  | two => simp [Reach.stop, leftAfter]
  | line => simp [Reach.stop, leftAfter]

section

variable {g : CompiledGrammar} {chars : List Char} {s : ScanState} {regions : List Region}

theorem isOver_delimiters (hchars : ∀ c ∈ chars, c ∈ delimiters) :
    IsOver delimiters chars.toArray := by
  intro pos c hc
  rw [List.getElem?_toArray] at hc
  exact hchars c (List.mem_of_getElem? hc)

/-- One step of a scan is one step of the automaton. -/
theorem exists_advance_move
    (hmodes : ∀ group ∈ outline.map (·.1),
      ∃ mode, g.mode? group = some mode ∧ SumUp delimiters mode.rules (modeSummary group))
    (hchars : ∀ c ∈ chars, c ∈ delimiters) (hs : s.modes = openModes regions) {c : Char}
    {rest : List Char} (hrest : chars.drop s.pos = c :: rest) :
    ∃ t, Advance g chars.toArray s t ∧
      t.modes = openModes ((move regions.head? c rest.head?).2.apply regions) ∧
      chars.drop t.pos = leftAfter (move regions.head? c rest.head?).1 rest := by
  have hc : chars[s.pos]? = some c := by
    have hfirst : (chars.drop s.pos)[0]? = some c := by rw [hrest]; rfl
    simpa using hfirst
  have hafter : chars.drop (s.pos + 1) = rest := by
    rw [← List.drop_drop, hrest]
    rfl
  have hnext : chars[s.pos + 1]? = rest.head? := by
    rw [← hafter, List.head?_drop]
  obtain ⟨mode, hmode, hsummary⟩ := hmodes _ (modeName_mem_outline regions.head?)
  rw [← openModes_top, ← hs] at hmode
  obtain ⟨t, hadvance, hpos, hopened⟩ := exists_advance (isOver_delimiters hchars) (by decide) hmode
    hsummary (by rwa [List.getElem?_toArray])
  have hread : reading (modeSummary (modeName regions.head?)) c rest.head? =
      ((move regions.head? c rest.head?).1, (move regions.head? c rest.head?).2.transition) := by
    apply reading_eq_move regions.head? (hchars c (List.mem_of_getElem? hc))
    cases hhead : rest.head? with
    | none => exact List.mem_cons_self
    | some d =>
        refine List.mem_cons_of_mem _ (List.mem_map_of_mem (hchars d ?_))
        exact List.mem_of_getElem? (hnext.trans hhead)
  rw [List.getElem?_toArray, hnext, hread] at hpos hopened
  refine ⟨t, hadvance, ?_, ?_⟩
  · rw [hopened, hs, apply_openModes]
  · rw [hpos, List.size_toArray, drop_stop, hafter]

/-- A scan from any open regions runs to the end of the line, as the automaton does. -/
theorem exists_passes_nest
    (hmodes : ∀ group ∈ outline.map (·.1),
      ∃ mode, g.mode? group = some mode ∧ SumUp delimiters mode.rules (modeSummary group))
    (hchars : ∀ c ∈ chars, c ∈ delimiters) (hs : s.modes = openModes regions)
    (hpos : s.pos ≤ chars.length) {n : Nat} (hn : chars.length ≤ s.pos + n) :
    ∃ t, Passes g chars.toArray s t ∧ t.pos = chars.length ∧
      t.modes = openModes (nest regions (chars.drop s.pos)) := by
  induction n generalizing s regions with
  | zero =>
      have hend : s.pos = chars.length := by omega
      refine ⟨s, .refl, hend, ?_⟩
      rw [hend, List.drop_length, hs]
      rfl
  | succ n ih =>
      cases hrest : chars.drop s.pos with
      | nil =>
          have hend : s.pos = chars.length :=
            Nat.le_antisymm hpos (List.drop_eq_nil_iff.mp hrest)
          exact ⟨s, .refl, hend, hs⟩
      | cons c rest =>
          obtain ⟨t, hadvance, hopened, hleft⟩ := exists_advance_move hmodes hchars hs hrest
          have hbounds := hadvance.pos_lt
          rw [List.size_toArray] at hbounds
          obtain ⟨u, hpasses, hend, hnested⟩ := ih hopened hbounds.2 (by omega)
          refine ⟨u, .head hadvance hpasses, hend, ?_⟩
          rw [hnested, hleft, nest_cons]

end

section

variable {g : CompiledGrammar}

theorem repair_stackOf (hknown : ∀ group ∈ outline.map (·.1), g.knows group = true)
    (regions : List Region) : g.repair (stackOf regions) = openModes regions := by
  have hall : ∀ name ∈ stackOf regions, g.knows name = true := by
    intro name hname
    apply hknown
    rcases List.mem_cons.mp hname with rfl | hregion
    · exact modeName_mem_outline none
    · obtain ⟨region, _, rfl⟩ := List.mem_map.mp (List.mem_reverse.mp hregion)
      exact modeName_mem_outline (some region)
  rw [CompiledGrammar.repair, List.filter_eq_self.mpr hall, ← openModes_stack,
    OpenModes.ofStack_stack]

/-- A scan with known modes can end, and its end leaves the modes as they are. -/
theorem exists_finish {s : ScanState} {regions : List Region}
    (hknown : ∀ group ∈ outline.map (·.1), g.knows group = true) (line : Array Char)
    (hs : s.modes = openModes regions) :
    ∃ t, s.finish g line = .ok t ∧ t.modes = openModes regions := by
  cases hrun : s.run with
  | none => exact ⟨s, finish_eq_ok_iff.mpr (.inl ⟨hrun, rfl⟩), hs⟩
  | some start =>
      have hknows := hknown _ (modeName_mem_outline regions.head?)
      rw [← openModes_top, ← hs] at hknows
      obtain ⟨mode, hmode⟩ := Option.isSome_iff_exists.mp hknows
      refine ⟨s.flushAs line (g.defaultKind mode), ?_, by rw [flushAs_modes, hs]⟩
      exact finish_eq_ok_iff.mpr (.inr ⟨start, mode, hrun, hmode, rfl⟩)

end

/-- The default dialect compiles, and a line of delimiters is scanned from any open regions to the regions
that the automaton ends with. -/
theorem scanLine_nests (line : String) (hline : ∀ c ∈ line.toList, c ∈ delimiters)
    (regions : List Region) :
    ∃ g tokens, (Dialect.ofName? "default").map grammar = some (.ok g) ∧
      scanLine g line (stackOf regions) = .ok ⟨tokens, stackOf (nest regions line.toList)⟩ := by
  obtain ⟨g, hg, hmodes⟩ := exists_grammar_standard
  have hname : Dialect.ofName? "default" = some Dialect.standard := rfl
  have hknown : ∀ group ∈ outline.map (·.1), g.knows group = true := by
    intro group hgroup
    obtain ⟨mode, hmode, _⟩ := hmodes group hgroup
    rw [CompiledGrammar.knows, hmode]
    rfl
  obtain ⟨s, hpasses, hend, hopened⟩ := exists_passes_nest (s := ScanState.initial g (stackOf regions))
    (n := line.toList.length) hmodes hline (repair_stackOf hknown regions) (Nat.zero_le _)
    (Nat.le_add_left _ _)
  obtain ⟨t, hfinish, hleft⟩ := exists_finish hknown line.toList.toArray hopened
  refine ⟨g, t.tokens.toList, ?_, ?_⟩
  · rw [hname, Option.map_some, hg]
  · refine scanLine_eq_ok_iff.mpr ⟨s, t, hpasses, hend, hfinish, ?_⟩
    rw [hleft, openModes_stack]
    rfl

namespace NestingWitness

/-- A comment ends in a section, which is closed after it; the string and its template are not. -/
def unbalanced : String := "#- -# -# \x7d ] \"\\\" $\x7b [ # \x7d"

theorem scan_of_unbalanced_delimiters :
    ∃ g tokens, (Dialect.ofName? "default").map grammar = some (.ok g) ∧
      scanLine g unbalanced ["start", "#section/0", "#comment-block/0"] =
        .ok ⟨tokens, ["start", "#string-double-quoted/0", "#string-template/0", "#section/1"]⟩ := by
  have hline : (unbalanced.toList.all fun c => decide (c ∈ delimiters)) = true := by decide
  have hnest : nest [.comment, .curly] unbalanced.toList = [.square, .template, .doubleQuoted] := by
    decide
  have hscan := scanLine_nests unbalanced
    (fun c hc => of_decide_eq_true (List.all_eq_true.mp hline c hc)) [.comment, .curly]
  rwa [hnest] at hscan

end NestingWitness

end ModalHighlight.Koto
