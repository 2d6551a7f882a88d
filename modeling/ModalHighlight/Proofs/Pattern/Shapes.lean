import ModalHighlight.Pattern.Match
import Mathlib.Data.List.Basic

/-!
What patterns match in lines over a small alphabet.  Many patterns can never match there, since they ask for
a character or a word boundary that such a line does not have.  The rest are mostly short: one character, two
characters, a character and the rest of the line, or a character at the end of the line.  The match of such a
pattern depends on two characters only, the one at the position and the one after it.
-/

namespace ModalHighlight

namespace Pattern

/-- All characters of a line are from an alphabet. -/
def IsOver (alphabet : List Char) (text : Array Char) : Prop :=
  ∀ (pos : Nat) (c : Char), text[pos]? = some c → c ∈ alphabet

/-- The characters of an alphabet that satisfy a test. -/
def CharTest.select (alphabet : List Char) (test : CharTest) : List Char :=
  alphabet.filter fun c => test.holds c.toNat

/-- A node that matches nowhere in a line over the alphabet. -/
def Node.isSilent (alphabet : List Char) : Node → Bool
  | .never => true
  | .char test => (test.select alphabet).isEmpty
  | .anchor (.wordBoundary ascii) => alphabet.all fun c => !CharKind.word.contains ascii c.toNat
  | .cat first second => first.isSilent alphabet || second.isSilent alphabet
  | .alt first others => first.isSilent alphabet && others.isSilent alphabet
  | .capture _ body | .scope body | .atomic body => body.isSilent alphabet
  | .repeatChar test min _ _ => decide (0 < min) && (test.select alphabet).isEmpty
  | _ => false

/-- How a node matches in a line over an alphabet. -/
inductive Shape
  | silent
  | one (chars : List Char)
  | two (chars nexts : List Char)
  /-- A character and the rest of the line. -/
  | line (chars : List Char)
  /-- A character at the end of the line. -/
  | last (chars : List Char)
deriving Repr, DecidableEq

/-- How far a match reaches: one character, two, or up to the end of the line. -/
inductive Reach
  | one
  | two
  | line
deriving Repr, DecidableEq

/-- Where a match ends that begins at a position of a line of some size. -/
def Reach.stop (reach : Reach) (pos size : Nat) : Nat :=
  match reach with
  | one => pos + 1
  | two => pos + 2
  | line => size

/-- How far a shape reaches at a character, given the next character of the line. -/
def Shape.reach? (shape : Shape) (c : Char) (next : Option Char) : Option Reach :=
  match shape with
  | silent => none
  | one chars => if c ∈ chars then some .one else none
  | two chars nexts => if c ∈ chars ∧ next.any (· ∈ nexts) then some .two else none
  | line chars => if c ∈ chars then some .line else none
  | last chars => if c ∈ chars ∧ next = none then some .one else none

/-- The shape of a node, if it has one. -/
def Node.shape? (alphabet : List Char) (node : Node) : Option Shape :=
  if node.isSilent alphabet then some .silent
  else
    match node with
    | .char test => some (.one (test.select alphabet))
    | .cat (.char first) (.char second) =>
        some (.two (first.select alphabet) (second.select alphabet))
    | .cat (.char first) (.repeatChar .notNewline 0 none .greedy) =>
        some (.line (first.select alphabet))
    | .cat (.char first) (.anchor .textEndOrLastNewline) => some (.last (first.select alphabet))
    | _ => none

section

variable {text : Array Char}

theorem tryDown_reject (c : Cursor) (start min count : Nat) :
    tryDown c (fun _ => none) start min count = none := by
  induction count with
  | zero => rfl
  | succ count ih => simp [tryDown, ih]

theorem tryUp_reject (c : Cursor) (more pos : Nat) : tryUp c (fun _ => none) more pos = none := by
  induction more generalizing pos with
  | zero => rfl
  | succ more ih => simp [tryUp, ih]

theorem runGreedy_reject {body : Search} (hbody : ∀ c, body c (fun _ => none) = none) (min : Nat)
    (max : Option Nat) (bound count : Nat) (last : Option Nat) (c : Cursor) :
    runGreedy body min max bound count last c (fun _ => none) = none := by
  induction bound generalizing count last c with
  | zero => rfl
  | succ bound ih => simp [runGreedy, ih, hbody]

theorem runLazy_reject {body : Search} (hbody : ∀ c, body c (fun _ => none) = none) (min : Nat)
    (max : Option Nat) (bound count : Nat) (last : Option Nat) (c : Cursor) :
    runLazy body min max bound count last c (fun _ => none) = none := by
  induction bound generalizing count last c with
  | zero => rfl
  | succ bound ih => simp [runLazy, ih, hbody]

/-- Nothing is found for a continuation that accepts nothing. -/
theorem run_reject (node : Node) (c : Cursor) : node.run text c (fun _ => none) = none := by
  induction node generalizing c with
  | empty => rfl
  | never => rfl
  | char test => simp [Node.run]
  | anchor a => simp [Node.run]
  | cat first second ihFirst ihSecond => simp [Node.run, ihFirst, ihSecond]
  | alt first others ihFirst ihOthers => simp [Node.run, ihFirst, ihOthers]
  | capture index body ih => simp [Node.run, ih]
  | scope body ih => simp [Node.run, ih]
  | backref index rule => cases hspan : c.span? index <;> simp [Node.run, hspan]
  | ifCaptured index present absent ihPresent ihAbsent => simp [Node.run, ihPresent, ihAbsent]
  | atomic body ih => cases hbody : body.run text c some <;> simp [Node.run, hbody]
  | look direction negated body ih =>
      simp only [Node.run]
      split <;> rfl
  | repeatChar test min max appetite =>
      cases appetite <;> simp [Node.run, runRepeatedChar, tryDown_reject, tryUp_reject]
  | repeatNode body min max appetite ih =>
      cases appetite with
      | greedy => simp [Node.run, runGreedy_reject ih]
      | lazy => simp [Node.run, runLazy_reject ih]
      | possessive | hasty =>
          simp only [Node.run]
          split <;> rfl

end

section

variable {alphabet : List Char} {text : Array Char}

theorem testAt_of_getElem? {test : CharTest} {pos : Nat} {c : Char} (h : text[pos]? = some c) :
    testAt text test pos = test.holds c.toNat := by
  simp [testAt, h]

theorem testAt_of_select_eq_nil (hover : IsOver alphabet text) {test : CharTest}
    (htest : (test.select alphabet).isEmpty) (pos : Nat) : testAt text test pos = false := by
  unfold testAt
  split
  · rename_i c hc
    by_contra hholds
    rw [List.isEmpty_iff] at htest
    have hmem : c ∈ test.select alphabet :=
      List.mem_filter.mpr ⟨hover pos c hc, by simpa using hholds⟩
    simp [htest] at hmem
  · rfl

theorem wordAt_eq_false (hover : IsOver alphabet text) {ascii : Bool}
    (hwords : alphabet.all fun c => !CharKind.word.contains ascii c.toNat) (pos : Nat) :
    wordAt text ascii pos = false := by
  unfold wordAt
  split
  · rename_i c hc
    simpa using List.all_eq_true.mp hwords c (hover pos c hc)
  · rfl

theorem countWhile_eq_zero {test : CharTest} {pos : Nat} (h : testAt text test pos = false)
    (limit : Nat) : countWhile text test limit pos = 0 := by
  cases limit with
  | zero => rfl
  | succ limit => simp [countWhile, h]

/-- A silent node matches nowhere in a line over the alphabet. -/
theorem run_of_isSilent (hover : IsOver alphabet text) {node : Node} (h : node.isSilent alphabet)
    (c : Cursor) (k : Continuation) : node.run text c k = none := by
  induction node generalizing c k with
  | never => rfl
  | char test => simp [Node.run, testAt_of_select_eq_nil hover h]
  | anchor a =>
      cases a with
      | wordBoundary ascii =>
          simp [Node.run, Anchor.holds, atWordBoundary, wordAt_eq_false hover h]
      | _ => simp [Node.isSilent] at h
  | cat first second ihFirst ihSecond =>
      simp only [Node.isSilent, Bool.or_eq_true] at h
      rcases h with hfirst | hsecond
      · exact ihFirst hfirst c _
      · simp only [Node.run, ihSecond hsecond]
        exact run_reject first c
  | alt first others ihFirst ihOthers =>
      simp only [Node.isSilent, Bool.and_eq_true] at h
      simp [Node.run, ihFirst h.1, ihOthers h.2]
  | capture index body ih => exact ih h c _
  | scope body ih => exact ih h c k
  | atomic body ih => simp [Node.run, ih h]
  | repeatChar test min max appetite =>
      simp only [Node.isSilent, Bool.and_eq_true, decide_eq_true_eq] at h
      have hcount := countWhile_eq_zero (testAt_of_select_eq_nil hover h.2 c.pos)
      simp [Node.run, runRepeatedChar, hcount, h.1]
  | _ => simp [Node.isSilent] at h

theorem countWhile_notNewline (hover : IsOver alphabet text) (hnewline : '\n' ∉ alphabet)
    {limit pos : Nat} (hlimit : pos + limit ≤ text.size) :
    countWhile text .notNewline limit pos = limit := by
  induction limit generalizing pos with
  | zero => rfl
  | succ limit ih =>
      have hpos : pos < text.size := by omega
      have hc : text[pos]? = some text[pos] := Array.getElem?_eq_getElem hpos
      have hne : text[pos] ≠ '\n' := fun heq => hnewline (heq ▸ hover pos _ hc)
      have htest : testAt text .notNewline pos = true := by
        rw [testAt_of_getElem? hc, CharTest.holds, bne_iff_ne]
        exact fun hcode => hne (Char.toNat_inj.mp hcode)
      rw [countWhile, if_pos htest, ih (by omega)]

theorem tryDown_some (c : Cursor) (start min count : Nat) :
    tryDown c some start min count = some (c.moveTo (start + count)) := by
  cases count <;> rfl

theorem textEndOrLastNewline_holds (hover : IsOver alphabet text) (hnewline : '\n' ∉ alphabet)
    {pos : Nat} (hpos : pos ≤ text.size) :
    Anchor.textEndOrLastNewline.holds text pos = decide (text[pos]? = none) := by
  have hlast : text[pos]? ≠ some '\n' := fun h => hnewline (hover pos _ h)
  simp only [Anchor.holds, beq_eq_false_iff_ne.mpr hlast, Bool.and_false, Bool.or_false,
    Array.getElem?_eq_none_iff]
  rw [Bool.eq_iff_iff]
  simp only [beq_iff_eq, decide_eq_true_eq]
  omega

theorem mem_select_iff (hover : IsOver alphabet text) {pos : Nat} {c : Char}
    (hc : text[pos]? = some c) (test : CharTest) :
    c ∈ test.select alphabet ↔ testAt text test pos = true := by
  rw [testAt_of_getElem? hc, CharTest.select, List.mem_filter, and_iff_right (hover pos c hc)]

theorem any_mem_select (hover : IsOver alphabet text) (test : CharTest) (pos : Nat) :
    text[pos]?.any (· ∈ test.select alphabet) = testAt text test pos := by
  cases hd : text[pos]? with
  | none => simp [testAt, hd]
  | some d => simp [mem_select_iff hover hd]

/-- The match of a node with a shape depends on the character at the position and on the next one. -/
theorem run_of_shape? (hover : IsOver alphabet text) (hnewline : '\n' ∉ alphabet) {node : Node}
    {shape : Shape} (h : node.shape? alphabet = some shape) {pos : Nat} {c : Char}
    (hc : text[pos]? = some c) :
    node.run text ⟨pos, []⟩ some =
      (shape.reach? c text[pos + 1]?).map fun reach => ⟨reach.stop pos text.size, []⟩ := by
  have hpos : pos < text.size := (Array.getElem?_eq_some_iff.mp hc).1
  have hchars := mem_select_iff hover hc
  unfold Node.shape? at h
  split at h
  · rename_i hsilent
    cases h
    exact run_of_isSilent hover hsilent _ _
  split at h
  · rename_i test _
    cases h
    by_cases hone : testAt text test pos = true <;>
      simp [Node.run, Shape.reach?, hchars, hone, Cursor.moveTo, Reach.stop]
  · rename_i first second _
    cases h
    have hnexts := any_mem_select hover second (pos + 1)
    by_cases hfirst : testAt text first pos = true
    · by_cases hsecond : testAt text second (pos + 1) = true <;>
        simp only [Node.run, Shape.reach?, hchars, hfirst, hnexts, hsecond, Cursor.moveTo] <;> rfl
    · simp [Node.run, Shape.reach?, hchars, hfirst]
  · rename_i first _
    cases h
    have hcount : countWhile text .notNewline (repeatLimit none (text.size - (pos + 1))) (pos + 1) =
        text.size - (pos + 1) :=
      countWhile_notNewline hover hnewline (by simp only [repeatLimit]; omega)
    have hend : pos + 1 + (text.size - (pos + 1)) = text.size := by omega
    by_cases hfirst : testAt text first pos = true
    · simp [Node.run, runRepeatedChar, Shape.reach?, hchars, hfirst, hcount, tryDown_some,
        Cursor.moveTo, Reach.stop, hend]
    · simp [Node.run, Shape.reach?, hchars, hfirst]
  · rename_i first _
    cases h
    have hholds := textEndOrLastNewline_holds hover hnewline (show pos + 1 ≤ text.size from hpos)
    by_cases hfirst : testAt text first pos = true
    · by_cases hnext : text[pos + 1]? = none
      · simp [Node.run, Shape.reach?, hchars, hfirst, hholds, hnext, Cursor.moveTo, Reach.stop]
      · simp [Node.run, Shape.reach?, hchars, hfirst, hholds, hnext, Cursor.moveTo]
    · simp [Node.run, Shape.reach?, hchars, hfirst]
  · cases h

theorem Shape.lt_stop {shape : Shape} {pos : Nat} {c : Char} (hc : text[pos]? = some c)
    {reach : Reach} (h : shape.reach? c text[pos + 1]? = some reach) : pos < reach.stop pos text.size := by
  cases shape with
  | silent => cases h
  | one chars =>
      obtain ⟨_, rfl⟩ : c ∈ chars ∧ Reach.one = reach := by simpa [Shape.reach?] using h
      exact Nat.lt_succ_self pos
  | two chars nexts =>
      obtain ⟨_, rfl⟩ :
          (c ∈ chars ∧ text[pos + 1]?.any (· ∈ nexts) = true) ∧ Reach.two = reach := by
        simpa only [Shape.reach?, Option.ite_none_right_eq_some, Option.some.injEq] using h
      exact Nat.lt_add_of_pos_right Nat.two_pos
  | line chars =>
      obtain ⟨_, rfl⟩ : c ∈ chars ∧ Reach.line = reach := by simpa [Shape.reach?] using h
      exact (Array.getElem?_eq_some_iff.mp hc).1
  | last chars =>
      obtain ⟨_, rfl⟩ : (c ∈ chars ∧ text[pos + 1]? = none) ∧ Reach.one = reach := by
        simpa [Shape.reach?] using h
      exact Nat.lt_succ_self pos

/-- The match of a pattern with a shape. -/
theorem matchAt_of_shape? (hover : IsOver alphabet text) (hnewline : '\n' ∉ alphabet)
    {pattern : Pattern} (htraced : pattern.traced = false) {shape : Shape}
    (h : pattern.node.shape? alphabet = some shape) {pos : Nat} {c : Char}
    (hc : text[pos]? = some c) :
    pattern.matchAt text pos =
      (shape.reach? c text[pos + 1]?).map fun reach => ⟨reach.stop pos text.size, []⟩ := by
  have hrun := run_of_shape? hover hnewline h hc
  cases hreach : shape.reach? c text[pos + 1]? with
  | none => simp [Pattern.matchAt, htraced, hrun, hreach]
  | some reach => simp [Pattern.matchAt, htraced, hrun, hreach]

end

end Pattern

end ModalHighlight
