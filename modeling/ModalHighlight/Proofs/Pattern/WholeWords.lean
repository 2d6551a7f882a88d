import ModalHighlight.Proofs.Pattern.Ways
import Mathlib.Data.List.TakeWhile

/-!
Patterns for whole words.  Such a pattern asks for a boundary, one of its words and a boundary.  At the start of
a text only one word can meet this: the longest run of word characters there.  So the pattern matches if this
word is one of its own, and in whatever order its words are tried.
-/

namespace ModalHighlight

namespace Pattern

/-- The one way in which a whole word is matched. -/
def wholeWord (word : List Char) : List Demand :=
  .boundary :: ((word.map fun c => .code c.toNat) ++ [.boundary])

/-- The pattern matches words as whole words, and nothing else. -/
def matchesWholeWords (pattern : Pattern) (words : List (List Char)) : Bool :=
  !pattern.traced &&
    match pattern.node.ways? with
    | some ways => (ways.all fun way => decide (way ∈ words.map wholeWord)) &&
        words.all fun word => decide (wholeWord word ∈ ways)
    | none => false

/-- The word that a text starts with: its word characters up to the first other one. -/
def headWord (chars : List Char) : List Char :=
  chars.takeWhile fun c => Text.isWord c.toNat

/-- A word that has characters, all of them word characters. -/
def IsWord (word : List Char) : Prop :=
  word ≠ [] ∧ ∀ c ∈ word, Text.isWord c.toNat = true

instance (word : List Char) : Decidable (IsWord word) :=
  decidable_of_iff (word ≠ [] ∧ word.all fun c => Text.isWord c.toNat) (and_congr_right' List.all_eq_true)

theorem headWord_prefix_self (chars : List Char) : headWord chars <+: chars :=
  List.takeWhile_prefix _

theorem headWord_append {word : List Char} (h : ∀ c ∈ word, Text.isWord c.toNat = true) (rest : List Char) :
    headWord (word ++ rest) = word ++ headWord rest :=
  List.takeWhile_append_of_pos h

theorem headWord_eq_self {word : List Char} (h : ∀ c ∈ word, Text.isWord c.toNat = true) : headWord word = word :=
  List.takeWhile_eq_self_iff.mpr h

theorem headWord_eq_nil_iff {chars : List Char} :
    headWord chars = [] ↔ ∀ c ∈ chars.head?, Text.isWord c.toNat = false := by
  cases chars with
  | nil => simp [headWord]
  | cons c rest => cases hc : Text.isWord c.toNat <;> simp [headWord, hc]

section

variable {text : Array Char} {pos : Nat}

theorem testAt_code_iff {c : Char} :
    testAt text (.code c.toNat .exact false) pos = true ↔ text[pos]? = some c := by
  unfold testAt
  split
  · rename_i d hd
    simp [hd, CharTest.holds, CharTest.sameCode, CaseRule.isCased, Char.toNat_inj]
  · rename_i hnone
    simp [hnone]

/-- A way that starts with a word can be followed if the word is there and the rest can be followed behind
it. -/
theorem follow_word {word chars : List Char} (hchars : text.toList.drop pos = chars) (rest : List Demand) :
    follow text pos ((word.map fun c => .code c.toNat) ++ rest) =
      if word <+: chars then follow text (pos + word.length) rest else none := by
  induction word generalizing pos chars with
  | nil => rw [if_pos List.nil_prefix]; rfl
  | cons c more ih =>
      have hnext : text.toList.drop (pos + 1) = chars.tail := by
        rw [← hchars, List.tail_drop]
      have hget : text[pos]? = chars.head? := by
        rw [← hchars, List.head?_drop, Array.getElem?_toList]
      rw [List.map_cons, List.cons_append, follow, ih hnext]
      cases chars with
      | nil =>
          have htest : ¬ testAt text (.code c.toNat .exact false) pos = true := by
            rw [testAt_code_iff, hget]
            exact Option.some_ne_none c ∘ Eq.symm
          rw [if_neg htest, if_neg (by simp)]
      | cons d others =>
          have htest : testAt text (.code c.toNat .exact false) pos = true ↔ c = d := by
            rw [testAt_code_iff, hget, List.head?_cons, Option.some.injEq, eq_comm]
          have hplace : pos + 1 + more.length = pos + (c :: more).length := by
            rw [List.length_cons, Nat.add_assoc, Nat.add_comm 1]
          rw [List.tail_cons, hplace]
          by_cases hcd : c = d
          · rw [if_pos (htest.mpr hcd), hcd]
            simp only [List.cons_prefix_cons, true_and]
          · rw [if_neg (mt htest.mp hcd), if_neg fun hprefix => hcd (List.cons_prefix_cons.mp hprefix).1]

end

section

variable {chars word : List Char}

theorem wordAt_toArray (pos : Nat) :
    wordAt chars.toArray false pos = (chars[pos]?.any fun c => Text.isWord c.toNat) := by
  unfold wordAt
  rw [List.getElem?_toArray]
  cases chars[pos]? <;> rfl

/-- Behind a word at the start of a text there is a boundary if the text's first word ends there. -/
theorem atWordBoundary_length (hword : IsWord word) (rest : List Char) :
    atWordBoundary (word ++ rest).toArray false word.length = true ↔ headWord rest = [] := by
  have hpos : 0 < word.length := List.length_pos_iff.mpr hword.1
  have hlast : wordAt (word ++ rest).toArray false (word.length - 1) = true := by
    have hlt : word.length - 1 < word.length := Nat.sub_lt hpos Nat.one_pos
    rw [wordAt_toArray, List.getElem?_append_left hlt, List.getElem?_eq_getElem hlt, Option.any_some]
    exact hword.2 _ (List.getElem_mem hlt)
  have hnext : wordAt (word ++ rest).toArray false word.length = rest.head?.any fun c => Text.isWord c.toNat := by
    rw [wordAt_toArray, List.getElem?_append_right (Nat.le_refl _), Nat.sub_self, List.head?_eq_getElem?]
  rw [atWordBoundary, hlast, hnext, headWord_eq_nil_iff]
  cases rest.head? <;> simp [hpos]

/-- A whole word is at the start of a text if it is the word that the text starts with. -/
theorem follow_wholeWord (hword : IsWord word) :
    follow chars.toArray 0 (wholeWord word) = if word = headWord chars then some word.length else none := by
  have hfollow : follow chars.toArray 0 ((word.map fun c => .code c.toNat) ++ [.boundary]) =
      if word <+: chars then follow chars.toArray (0 + word.length) [.boundary] else none :=
    follow_word rfl [.boundary]
  rw [Nat.zero_add] at hfollow
  rw [wholeWord, follow, hfollow]
  by_cases hprefix : word <+: chars
  · obtain ⟨rest, rfl⟩ := hprefix
    have hstart : atWordBoundary (word ++ rest).toArray false 0 = true := by
      obtain ⟨c, more, rfl⟩ := List.exists_cons_of_ne_nil hword.1
      simp [atWordBoundary, wordAt_toArray, hword.2 c List.mem_cons_self]
    have hends : word = headWord (word ++ rest) ↔ headWord rest = [] := by
      rw [headWord_append hword.2]
      exact List.self_eq_append_right
    rw [if_pos hstart, if_pos (List.prefix_append _ _), follow]
    by_cases hrest : headWord rest = []
    · rw [if_pos ((atWordBoundary_length hword rest).mpr hrest), if_pos (hends.mpr hrest)]
      rfl
    · rw [if_neg (mt (atWordBoundary_length hword rest).mp hrest), if_neg (mt hends.mp hrest)]
  · have hne : word ≠ headWord chars := fun heq => hprefix (heq ▸ headWord_prefix_self chars)
    rw [if_neg hprefix, if_neg hne]
    exact ite_self _

variable {pattern : Pattern} {words : List (List Char)}

/-- At the start of a text a pattern of whole words finds the word that is there, if it is one of its words. -/
theorem matchAt_of_matchesWholeWords (h : pattern.matchesWholeWords words) (hwords : ∀ word ∈ words, IsWord word)
    (chars : List Char) :
    (pattern.matchAt chars.toArray 0).map (·.stop) =
      if headWord chars ∈ words then some (headWord chars).length else none := by
  unfold matchesWholeWords at h
  simp only [Bool.and_eq_true, Bool.not_eq_true'] at h
  obtain ⟨htraced, hways⟩ := h
  split at hways
  · rename_i ways hfound
    simp only [Bool.and_eq_true, List.all_eq_true, decide_eq_true_eq, List.mem_map] at hways
    obtain ⟨honly, hevery⟩ := hways
    obtain ⟨found, hplaces, hrun⟩ := run_of_ways? chars.toArray hfound ⟨0, []⟩
    have hstops : ∀ stop ∈ ways.filterMap (follow chars.toArray 0),
        headWord chars ∈ words ∧ stop = (headWord chars).length := by
      intro stop hstop
      obtain ⟨way, hway, hend⟩ := List.mem_filterMap.mp hstop
      obtain ⟨word, hword, rfl⟩ := honly way hway
      rw [follow_wholeWord (hwords word hword), Option.ite_none_right_eq_some] at hend
      obtain ⟨rfl, hend⟩ := hend
      exact ⟨hword, (Option.some.inj hend).symm⟩
    have hmatch : (pattern.matchAt chars.toArray 0).map (·.stop) = found.head?.map (·.pos) := by
      have hfirst : pattern.node.run chars.toArray ⟨0, []⟩ some = found.head? := by
        rw [hrun]
        cases found <;> rfl
      simp only [matchAt, htraced, hfirst, Bool.false_eq_true, if_false, Option.map_map]
      rfl
    rw [hmatch, ← List.head?_map, hplaces]
    by_cases hmem : headWord chars ∈ words
    · rw [if_pos hmem]
      have hthere : (headWord chars).length ∈ ways.filterMap (follow chars.toArray 0) :=
        List.mem_filterMap.mpr ⟨_, hevery _ hmem, by rw [follow_wholeWord (hwords _ hmem), if_pos rfl]⟩
      obtain ⟨stop, rest, hcons⟩ := List.exists_cons_of_ne_nil (List.ne_nil_of_mem hthere)
      have hstop := (hstops stop (by rw [hcons]; exact List.mem_cons_self)).2
      rw [hcons, List.head?_cons, hstop]
    · rw [if_neg hmem]
      have hnil : ways.filterMap (follow chars.toArray 0) = [] :=
        List.eq_nil_iff_forall_not_mem.mpr fun stop hstop => hmem (hstops stop hstop).1
      rw [hnil]
      rfl
  · cases hways

end

end Pattern

end ModalHighlight
