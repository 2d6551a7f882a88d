import ModalHighlight.Pattern.Match
import ModalHighlight.Proofs.Words.Trees

/-!
Which word of a list is matched.  The pattern of a tree tries the words of the tree one after another, and takes
the first that stands at the position and has the boundaries asked for.  Since no word is tried after a shorter one
that it goes on from, that is the longest.
-/

namespace ModalHighlight.Pattern

open Text

/-- A word stands at a position: the text goes on there with the characters of the word. -/
def StandsAt (text : Array Char) (pos : Nat) (w : Word) : Prop :=
  w <+: text.toList.drop pos

instance (text : Array Char) (pos : Nat) (w : Word) : Decidable (StandsAt text pos w) :=
  inferInstanceAs (Decidable (_ <+: _))

section

variable {text : Array Char} {pos : Nat} {u v w : Word} {c : Cursor} {k : Continuation}

theorem standsAt_nil : StandsAt text pos [] := List.nil_prefix

theorem standsAt_cons {a : Char} : StandsAt text pos (a :: w) ↔
    testAt text (.code a.toNat .exact false) pos = true ∧ StandsAt text (pos + 1) w := by
  unfold StandsAt
  rw [testAt_code, ← Array.getElem?_toList, ← List.head?_drop, ← List.drop_drop]
  cases text.toList.drop pos with
  | nil => simp
  | cons b rest => simp [List.cons_prefix_cons, Char.toNat_inj, eq_comm]

theorem standsAt_append : StandsAt text pos (u ++ v) ↔ StandsAt text pos u ∧ StandsAt text (pos + u.length) v := by
  induction u generalizing pos with
  | nil => simp [standsAt_nil]
  | cons a u ih =>
      have hplace : pos + 1 + u.length = pos + (a :: u).length := by
        rw [List.length_cons]
        omega
      rw [List.cons_append, standsAt_cons, standsAt_cons, ih, hplace, and_assoc]

/-- The search that goes on behind a word, where it stands. -/
def takeWord (text : Array Char) (w : Word) : Search := fun c k =>
  if StandsAt text c.pos w then k (c.moveTo (c.pos + w.length)) else none

theorem takeWord_nil : takeWord text [] c k = k c := if_pos standsAt_nil

theorem takeWord_append : takeWord text (u ++ v) c k = takeWord text u c fun c' => takeWord text v c' k := by
  unfold takeWord
  by_cases hu : StandsAt text c.pos u
  · by_cases hv : StandsAt text (c.pos + u.length) v <;>
      simp [standsAt_append, hu, hv, Cursor.moveTo, Nat.add_assoc]
  · simp [standsAt_append, hu]

theorem runItems_charItems (w : Word) : runItems text (charItems w) c k = takeWord text w c k := by
  induction w generalizing c with
  | nil => exact takeWord_nil.symm
  | cons a w ih =>
      rw [charItems, List.map_cons, ← charItems, runItems_cons]
      have hplace : c.pos + 1 + w.length = c.pos + (a :: w).length := by
        rw [List.length_cons]
        omega
      by_cases ha : testAt text (.code a.toNat .exact false) c.pos = true
      · simp [ih, Node.run, takeWord, standsAt_cons, ha, Cursor.moveTo, hplace]
      · simp [Node.run, takeWord, standsAt_cons, ha]

theorem testAt_charsTest (chars : List Char) :
    testAt text (charsTest chars) pos = chars.any fun a => testAt text (.code a.toNat .exact false) pos := by
  have hclass : testAt text (charsTest chars) pos =
      testAt text (.oneOf (chars.map fun a => .code a.toNat) .exact false) pos := by
    rw [← testAt_oneOf_eraseDups]
    unfold charsTest
    split
    · rename_i code hcode
      rw [hcode]
      have hexact : (CharTest.code code .exact false).IsExact := trivial
      exact (testAt_classItems? hexact rfl pos).symm
    · rw [ofClass_exact]
  rw [hclass]
  unfold testAt
  cases text[pos]? with
  | none => simp
  | some b => simp [CharTest.holds, CharTest.sameCode, CaseRule.isCased, ClassItem.holdsExactly,
      List.any_map, Function.comp_def]

theorem findSome?_ite {α β : Type} (p : α → Bool) (answer : Option β) (l : List α) :
    (l.findSome? fun a => if p a then answer else none) = if l.any p then answer else none := by
  induction l with
  | nil => rfl
  | cons a rest ih => cases hp : p a <;> cases answer <;> simp_all

/-- A class takes any of its characters as a word. -/
theorem runItems_charsTest (chars : List Char) (width : Width) :
    runItems text [⟨.char (charsTest chars), width⟩] c k =
      (chars.map ([·])).findSome? fun w => takeWord text w c k := by
  have hone : ∀ a : Char, takeWord text [a] c k =
      if testAt text (.code a.toNat .exact false) c.pos then k (c.moveTo (c.pos + 1)) else none := by
    intro a
    simp [takeWord, standsAt_cons, standsAt_nil]
  have hrun : runItems text [⟨.char (charsTest chars), width⟩] c k =
      (Node.char (charsTest chars)).run text c k := rfl
  rw [hrun, Node.run, testAt_charsTest, List.findSome?_map, ← findSome?_ite]
  exact findSome?_congr fun a _ => (hone a).symm

/-- A node of one character runs as its test does. -/
theorem run_of_test? {node : Node} {test : CharTest} (h : node.test? = some test) :
    node.run text c k = (Node.char test).run text c k := by
  induction node with
  | char test' => rw [Option.some.inj h]
  | scope body ih => exact ih h
  | _ => cases h

/-- An option of a character tries the character, and then goes on without it. -/
theorem run_repeatChar_option (test : CharTest) :
    (Node.repeatChar test 0 (some 1) .greedy).run text c k = ((Node.char test).run text c k).or (k c) := by
  have hstay : k (c.moveTo c.pos) = k c := rfl
  by_cases htest : testAt text test c.pos = true
  · have hroom : c.pos < text.size := by
      by_contra hout
      rw [testAt, Array.getElem?_eq_none (Nat.not_lt.mp hout)] at htest
      cases htest
    have hlimit : repeatLimit (some 1) (text.size - c.pos) = 1 := Nat.min_eq_left (by omega)
    simp only [Node.run, runRepeatedChar, hlimit, countWhile, htest, if_true, Nat.not_lt_zero, if_false,
      tryDown, Nat.zero_add, Nat.le_refl, hstay]
    cases k (c.moveTo (c.pos + 1)) <;> rfl
  · have hcount := countWhile_eq_zero (Bool.not_eq_true _ ▸ htest) (repeatLimit (some 1) (text.size - c.pos))
    simp [Node.run, runRepeatedChar, hcount, htest, tryDown, hstay]

/-- So does every option. -/
theorem run_repetition_option (body : Node) :
    (body.repetition 0 (some 1) .greedy).run text c k = (body.run text c k).or (k c) := by
  unfold Node.repetition
  split
  · rename_i test htest
    rw [run_repeatChar_option, run_of_test? htest]
  · exact Node.run_option body c k

theorem takeWord_findSome? (w : Word) (words : List Word) :
    (takeWord text w c fun c' => words.findSome? fun v => takeWord text v c' k) =
      words.findSome? fun v => takeWord text w c fun c' => takeWord text v c' k := by
  unfold takeWord
  split
  · rfl
  · exact (List.findSome?_eq_none_iff.mpr fun _ _ => rfl).symm

/-- The branches of a tree try its words one after another. -/
theorem findSome?_branches (t : WordTree) :
    (t.branches.findSome? fun items => runItems text items c k) =
      t.words.findSome? fun w => takeWord text w c k := by
  have hgroup : ∀ (t : WordTree) (c : Cursor) (k : Continuation), runItems text (branchItems {} t.branches) c k =
      t.branches.findSome? fun items => runItems text items c k :=
    fun t _ _ => runItems_branchItems t.isSimple_branches
  induction t generalizing c k with
  | none => rfl
  | word w =>
      rw [WordTree.branches, WordTree.words, List.findSome?_singleton, List.findSome?_singleton]
      exact runItems_charItems w
  | orEmpty longer ih =>
      rw [WordTree.branches, WordTree.words, List.findSome?_append, List.findSome?_singleton,
        List.findSome?_singleton, takeWord_nil, ← ih, ← hgroup]
      exact run_repetition_option _
  | orChars longer chars ih =>
      rw [WordTree.branches, WordTree.words, List.findSome?_append, List.findSome?_append, ih,
        List.findSome?_singleton, runItems_charsTest]
  | after start rest ih =>
      rw [WordTree.branches, WordTree.words, List.findSome?_singleton, List.findSome?_map, runItems_append,
        runItems_charItems]
      simp only [hgroup, ih, takeWord_findSome?, Function.comp_def, takeWord_append]
  | before rest ending ih =>
      rw [WordTree.branches, WordTree.words, List.findSome?_singleton, List.findSome?_map, runItems_append]
      simp only [hgroup, ih, runItems_charItems, Function.comp_def, takeWord_append]
  | either first second ihFirst ihSecond =>
      rw [WordTree.branches, WordTree.words, List.findSome?_append, List.findSome?_append, ihFirst, ihSecond]

/-- A position has a boundary of words, if one is asked for. -/
def HasBoundary (text : Array Char) (asked : Bool) (pos : Nat) : Prop :=
  asked = true → atWordBoundary text false pos = true

/-- A text begins with a word, with the boundaries that are asked for at its start and at the end of the word. -/
structure Fits (text : Array Char) (opens closes : Bool) (w : Word) : Prop where
  begins : w <+: text.toList
  opens : HasBoundary text opens 0
  closes : HasBoundary text closes w.length

instance (text : Array Char) (asked : Bool) (pos : Nat) : Decidable (HasBoundary text asked pos) :=
  inferInstanceAs (Decidable (_ → _))

instance (text : Array Char) (opens closes : Bool) (w : Word) : Decidable (Fits text opens closes w) :=
  decidable_of_iff (w <+: text.toList ∧ HasBoundary text opens 0 ∧ HasBoundary text closes w.length)
    ⟨fun h => ⟨h.1, h.2.1, h.2.2⟩, fun h => ⟨h.begins, h.opens, h.closes⟩⟩

theorem runItems_boundaryItems (asked : Bool) :
    runItems text (boundaryItems asked) c k = if HasBoundary text asked c.pos then k c else none := by
  cases asked with
  | false => simp [boundaryItems, HasBoundary, runItems_nil]
  | true =>
      have hrun : runItems text (boundaryItems true) c k =
          if atWordBoundary text false c.pos then k c else none := rfl
      rw [hrun]
      exact if_congr (by simp [HasBoundary]) rfl rfl

theorem findSome?_ite_some {α β : Type} (p : α → Bool) (f : α → β) (l : List α) :
    (l.findSome? fun a => if p a then some (f a) else none) = (l.find? p).map f := by
  induction l with
  | nil => rfl
  | cons a rest ih => cases hp : p a <;> simp [hp, ih]

/-- The whole pattern of a tree matches the first word of the tree that fits. -/
theorem run_wholeItems (t : WordTree) (opens closes : Bool) (index : Nat) :
    runItems text (wholeItems t opens closes index) ⟨0, []⟩ some =
      (t.words.find? fun w => decide (Fits text opens closes w)).map fun w =>
        ⟨w.length, [(index, ⟨0, w.length⟩)]⟩ := by
  have hbody : ∀ c k, (Node.capture index (sequenceOf (branchItems {} t.branches)).1).run text c k =
      t.words.findSome? fun w => takeWord text w c fun c' => k (c'.capture index c.pos) := by
    intro c k
    rw [← findSome?_branches, ← runItems_branchItems t.isSimple_branches]
    rfl
  rw [wholeItems, runItems_append, runItems_boundaryItems, runItems_cons, hbody, ← findSome?_ite_some]
  by_cases hopens : HasBoundary text opens 0
  · rw [if_pos hopens]
    refine findSome?_congr fun w _ => ?_
    have hfits : Fits text opens closes w ↔ StandsAt text 0 w ∧ HasBoundary text closes w.length :=
      ⟨fun h => ⟨h.begins, h.closes⟩, fun h => ⟨h.1, hopens, h.2⟩⟩
    simp only [takeWord, runItems_boundaryItems, hfits, decide_eq_true_eq, ite_and, Nat.zero_add]
    rfl
  · rw [if_neg hopens]
    refine (List.findSome?_eq_none_iff.mpr fun w _ => ?_).symm
    exact if_neg fun h => hopens (of_decide_eq_true h).opens

/-- So a match of it ends where this word does. -/
theorem map_stop_matchAt (text : Array Char) {pattern : Pattern} {t : WordTree} {opens closes : Bool} {index : Nat}
    (htraced : pattern.traced = false)
    (hnode : pattern.node = Node.sequence ((wholeItems t opens closes index).map (·.node))) :
    (pattern.matchAt text 0).map (·.stop) =
      (t.words.find? fun w => decide (Fits text opens closes w)).map List.length := by
  have hrun : pattern.node.run text ⟨0, []⟩ some =
      (t.words.find? fun w => decide (Fits text opens closes w)).map fun w =>
        ⟨w.length, [(index, ⟨0, w.length⟩)]⟩ :=
    hnode ▸ run_wholeItems t opens closes index
  rw [matchAt, if_neg (by simp [htraced]), hrun]
  cases t.words.find? fun w => decide (Fits text opens closes w) <;> rfl

/-- The first word that fits, of those that are tried longest first, is the longest that fits. -/
theorem length_le_of_find? {words : List Word} {opens closes : Bool} (hlongest : WordTree.LongestFirst words)
    (hfound : (words.find? fun w => decide (Fits text opens closes w)) = some u) (hmem : v ∈ words)
    (hfits : Fits text opens closes v) : v.length ≤ u.length := by
  by_contra hlonger
  obtain ⟨hu, before, after, rfl, hbefore⟩ := List.find?_eq_some_iff_append.mp hfound
  have hbegins : u <+: v :=
    List.prefix_of_prefix_length_le (of_decide_eq_true hu).begins hfits.begins (Nat.le_of_not_le hlonger)
  rcases List.mem_append.mp hmem with hmem | hmem
  · have hnot := hbefore v hmem
    simp [hfits] at hnot
  · rcases List.mem_cons.mp hmem with rfl | hmem
    · exact hlonger (Nat.le_refl _)
    · have hsame := (List.pairwise_cons.mp (List.pairwise_append.mp hlongest).2.1).1 v hmem hbegins
      exact hlonger (hsame ▸ Nat.le_refl _)

end

theorem Repetitions.mem_of (repetitions : Repetitions) {items : List String} {item : String} :
    item ∈ repetitions.of items ↔ item ∈ items := by
  cases repetitions
  · exact Iff.rfl
  · exact List.mem_eraseDups

/-- Whatever the items are and whatever becomes of repetitions, the pattern for them is accepted.  It matches at
the start of a text exactly when the text begins with an item that has the boundaries asked for, and then up to
the end of the longest of these items. -/
theorem wordsBetween_matches_longest_item (repetitions : Repetitions) (items : List String) (hitems : items ≠ [])
    (opens closes : Bool) :
    ∃ pattern, parse (wordsBetween repetitions (boundarySign opens) items (boundarySign closes)) = .ok pattern ∧
      ∀ text : String,
        ((pattern.matchAt text.toList.toArray 0).isSome = true ↔
          ∃ item ∈ items, Fits text.toList.toArray opens closes item.toList) ∧
        ∀ m, pattern.matchAt text.toList.toArray 0 = some m →
          (∃ item ∈ items, Fits text.toList.toArray opens closes item.toList ∧ m.stop = item.length) ∧
            ∀ item ∈ items, Fits text.toList.toArray opens closes item.toList → item.length ≤ m.stop := by
  have hkept : ∀ item, item ∈ repetitions.of items ↔ item ∈ items := fun item => repetitions.mem_of
  have hne : repetitions.of items ≠ [] := fun hnil => hitems (List.eq_nil_iff_forall_not_mem.mpr
    fun item hitem => List.not_mem_nil (hnil ▸ (hkept item).mpr hitem))
  obtain ⟨hfull, hperm, hlongest⟩ := arranges_ofWords hne
  obtain ⟨pattern, index, hparse, htraced, hnode⟩ := exists_parse_write hfull opens closes
  have hmem : ∀ w, w ∈ (WordTree.ofWords (repetitions.of items)).words ↔ ∃ item ∈ items, item.toList = w := by
    intro w
    rw [hperm.mem_iff, List.mem_map]
    simp only [hkept]
  refine ⟨pattern, hparse, fun text => ?_⟩
  have hstop := map_stop_matchAt text.toList.toArray htraced hnode
  cases hfound : (WordTree.ofWords (repetitions.of items)).words.find? fun w =>
      decide (Fits text.toList.toArray opens closes w) with
  | none =>
      rw [hfound, Option.map_none, Option.map_eq_none_iff] at hstop
      have hnone : ¬ ∃ item ∈ items, Fits text.toList.toArray opens closes item.toList := by
        rintro ⟨item, hitem, hfits⟩
        have hnot := List.find?_eq_none.mp hfound item.toList ((hmem _).mpr ⟨item, hitem, rfl⟩)
        exact hnot (decide_eq_true hfits)
      rw [hstop]
      exact ⟨iff_of_false (by simp) hnone, nofun⟩
  | some w =>
      obtain ⟨item, hitem, rfl⟩ := (hmem w).mp (List.mem_of_find?_eq_some hfound)
      have hfits : Fits text.toList.toArray opens closes item.toList := by
        simpa using List.find?_some hfound
      rw [hfound, Option.map_some] at hstop
      obtain ⟨m, hmatch, hend⟩ := Option.map_eq_some_iff.mp hstop
      rw [String.length_toList] at hend
      refine ⟨iff_of_true (by simp [hmatch]) ⟨item, hitem, hfits⟩, fun m' hm' => ?_⟩
      obtain rfl := Option.some.inj (hmatch.symm.trans hm')
      refine ⟨⟨item, hitem, hfits, hend⟩, fun other hother hfitsOther => ?_⟩
      have hle := length_le_of_find? hlongest hfound ((hmem _).mpr ⟨other, hother, rfl⟩) hfitsOther
      rwa [String.length_toList, String.length_toList, ← hend] at hle

namespace LongestItemWitness

/-- A word twice, one that goes on from it, and one with a sign of patterns. -/
def items : List String := ["in", "int", "i.", "in"]

/-- As whole words: the longer of two is found, and neither where the text goes on with letters. -/
theorem int_is_found_before_in :
    items ≠ [] ∧ ∃ pattern, parse (wordsBetween .kept "\\b" items "\\b") = .ok pattern ∧
      (pattern.matchAt "int x".toList.toArray 0).map (·.stop) = some 3 ∧
      pattern.matchAt "into".toList.toArray 0 = none := by
  have hitems : items ≠ [] := by decide
  obtain ⟨pattern, hparse, hmatch⟩ := wordsBetween_matches_longest_item .kept items hitems true true
  refine ⟨hitems, pattern, hparse, ?_, ?_⟩
  · have hfits : Fits "int x".toList.toArray true true "int".toList := by decide +kernel
    obtain ⟨m, hm⟩ := Option.isSome_iff_exists.mp ((hmatch "int x").1.mpr ⟨"int", by decide, hfits⟩)
    obtain ⟨⟨item, hitem, _, hstop⟩, hlongest⟩ := (hmatch "int x").2 m hm
    have hle : ∀ item ∈ items, item.length ≤ 3 := by decide
    rw [hm, Option.map_some, Nat.le_antisymm (hstop ▸ hle item hitem) (hlongest "int" (by decide) hfits)]
    rfl
  · have hnone : ∀ item ∈ items, ¬ Fits "into".toList.toArray true true item.toList := by decide +kernel
    rw [← Option.isSome_eq_false_iff.trans Option.isNone_iff_eq_none, Bool.eq_false_iff]
    exact fun hsome => (hmatch "into").1.mp hsome |>.elim fun item h => hnone item h.1 h.2

end LongestItemWitness

end ModalHighlight.Pattern
