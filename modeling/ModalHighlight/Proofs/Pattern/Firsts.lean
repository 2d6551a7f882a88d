import ModalHighlight.Proofs.Pattern.Bounds
import ModalHighlight.Proofs.Pattern.Shapes

/-!
What a match can begin with.  A node has a list of tests such that a match with text begins with a character
that satisfies one of them, whatever follows on the line.  Where the first character of the text fails them all,
a node that must take text does not match, and any other matches at most without text.
-/

namespace ModalHighlight

namespace Pattern

/-- The node may match without text. -/
def Node.canStay : Node → Bool
  | .never | .char _ => false
  | .cat first second => first.canStay && second.canStay
  | .alt first others => first.canStay || others.canStay
  | .capture _ body | .scope body | .atomic body => body.canStay
  | .ifCaptured _ present absent => present.canStay || absent.canStay
  | .repeatChar _ min _ _ => decide (min = 0)
  | .repeatNode body min _ _ => decide (min = 0) || body.canStay
  | .empty | .anchor _ | .backref _ _ | .look _ _ _ => true

/-- The tests that a match with text can begin with. -/
def Node.firsts : Node → List CharTest
  | .char test | .repeatChar test _ _ _ => [test]
  | .cat first second => first.firsts ++ if first.canStay then second.firsts else []
  | .alt first others => first.firsts ++ others.firsts
  | .capture _ body | .scope body | .atomic body | .repeatNode body _ _ _ => body.firsts
  | .ifCaptured _ present absent => present.firsts ++ absent.firsts
  | .backref _ _ => [.any]
  | .empty | .never | .anchor _ | .look _ _ _ => []

section

variable {text : Array Char} {pos : Nat}

/-- What a search from a position finds is accepted at the position itself, and is found only if the search may
stay. -/
def Stays (pos : Nat) (may : Bool) (search : Search) : Prop :=
  ∀ spans k answer, search ⟨pos, spans⟩ k = some answer →
    may = true ∧ ∃ spans', k ⟨pos, spans'⟩ = some answer

section

variable {may : Bool} {body : Search} (h : Stays pos may body)

include h

/-- What is found without a continuation is at the position. -/
theorem Stays.eq_of_some {spans : List (Nat × Span)} {found : Cursor}
    (hfound : body ⟨pos, spans⟩ some = some found) :
    may = true ∧ ∃ spans', found = ⟨pos, spans'⟩ := by
  obtain ⟨hmay, spans', hspans⟩ := h _ _ _ hfound
  exact ⟨hmay, spans', (Option.some.inj hspans).symm⟩

theorem Stays.eq_none (hmay : may = false) (spans : List (Nat × Span)) (k : Continuation) :
    body ⟨pos, spans⟩ k = none := by
  by_contra hfound
  obtain ⟨answer, hanswer⟩ := Option.ne_none_iff_exists'.mp hfound
  have hstays := (h _ _ _ hanswer).1
  rw [hmay] at hstays
  cases hstays

theorem Stays.keeps : Keeps (fun c => c.pos = pos) body := by
  rintro ⟨_, spans⟩ k answer rfl hrun
  obtain ⟨_, spans', hk⟩ := h _ _ _ hrun
  exact ⟨⟨_, spans'⟩, rfl, hk⟩

end

theorem stays_of_keeps {search : Search} (h : Keeps (fun c => c.pos = pos) search) :
    Stays pos true search := by
  intro spans k answer hrun
  obtain ⟨⟨_, spans'⟩, rfl, hk⟩ := h _ _ _ rfl hrun
  exact ⟨rfl, spans', hk⟩

/-- Repetitions of a body that stays, however many are tried, stay as well. -/
theorem Stays.repeatNode {body : Node} (h : Stays pos body.canStay (body.run text)) (min : Nat)
    (max : Option Nat) (appetite : Appetite) :
    Stays pos (Node.repeatNode body min max appetite).canStay
      ((Node.repeatNode body min max appetite).run text) := by
  intro spans k answer hrun
  have hmay : (Node.repeatNode body min max appetite).canStay = true := by
    by_contra hmust
    simp only [Node.canStay, Bool.or_eq_true, decide_eq_true_eq, not_or, Bool.not_eq_true] at hmust
    have hmin : 0 < min := Nat.pos_of_ne_zero hmust.1
    have hnone := h.eq_none hmust.2
    cases appetite <;>
      simp [Node.run, repetitionBound, Pattern.runGreedy, Pattern.runLazy, hmin, hnone] at hrun
  refine ⟨hmay, ?_⟩
  cases appetite with
  | greedy => exact (stays_of_keeps (h.keeps.runGreedy _ _ _ _ _) _ _ _ hrun).2
  | lazy => exact (stays_of_keeps (h.keeps.runLazy _ _ _ _ _) _ _ _ hrun).2
  | possessive | hasty =>
      rw [Node.run] at hrun
      split at hrun
      · rename_i found hfound
        obtain ⟨_, spans', rfl⟩ := (stays_of_keeps (h.keeps.runGreedy _ _ _ _ _)).eq_of_some hfound
        exact ⟨spans', hrun⟩
      · cases hrun

/-- A character that fails the test is repeated no time. -/
theorem stays_repeatChar {test : CharTest} (hmiss : testAt text test pos = false) (min : Nat)
    (max : Option Nat) (appetite : Appetite) :
    Stays pos (decide (min = 0)) (runRepeatedChar text test min max appetite) := by
  intro spans k answer hrun
  simp only [runRepeatedChar, countWhile_eq_zero hmiss] at hrun
  by_cases hmin : 0 < min
  · simp [hmin] at hrun
  · obtain rfl : min = 0 := by omega
    refine ⟨rfl, spans, ?_⟩
    cases appetite <;> exact hrun

/-- A node none of whose first tests holds at a position stays there. -/
theorem stays_of_misses {node : Node} (hpos : pos < text.size)
    (hmiss : ∀ test ∈ node.firsts, testAt text test pos = false) :
    Stays pos node.canStay (node.run text) := by
  induction node with
  | empty => exact fun spans _ _ hrun => ⟨rfl, spans, hrun⟩
  | never =>
      intro _ _ _ hrun
      cases hrun
  | char test =>
      intro _ _ _ hrun
      simp [Node.run, hmiss test List.mem_cons_self] at hrun
  | anchor a =>
      intro spans k answer hrun
      rw [Node.run] at hrun
      split at hrun
      · exact ⟨rfl, spans, hrun⟩
      · cases hrun
  | cat first second ihFirst ihSecond =>
      intro spans k answer hrun
      simp only [Node.firsts, List.forall_mem_append] at hmiss
      obtain ⟨hfirst, spans', hsecond⟩ := ihFirst hmiss.1 _ _ _ hrun
      rw [hfirst, if_pos rfl] at hmiss
      obtain ⟨hmay, hfound⟩ := ihSecond hmiss.2 _ _ _ hsecond
      exact ⟨by simp [Node.canStay, hfirst, hmay], hfound⟩
  | alt first others ihFirst ihOthers =>
      intro spans k answer hrun
      simp only [Node.firsts, List.forall_mem_append] at hmiss
      rw [Node.run] at hrun
      split at hrun
      · rename_i found hfirst
        cases hrun
        obtain ⟨hmay, hfound⟩ := ihFirst hmiss.1 _ _ _ hfirst
        exact ⟨by simp [Node.canStay, hmay], hfound⟩
      · obtain ⟨hmay, hfound⟩ := ihOthers hmiss.2 _ _ _ hrun
        exact ⟨by simp [Node.canStay, hmay], hfound⟩
  | capture index body ih =>
      intro spans k answer hrun
      obtain ⟨hmay, spans', hfound⟩ := ih hmiss _ _ _ hrun
      exact ⟨hmay, _, hfound⟩
  | scope body ih => exact ih hmiss
  | backref index rule =>
      have hany := hmiss .any List.mem_cons_self
      simp [testAt, hpos, CharTest.holds] at hany
  | ifCaptured index present absent ihPresent ihAbsent =>
      intro spans k answer hrun
      simp only [Node.firsts, List.forall_mem_append] at hmiss
      rw [Node.run] at hrun
      split at hrun
      · obtain ⟨hmay, hfound⟩ := ihPresent hmiss.1 _ _ _ hrun
        exact ⟨by simp [Node.canStay, hmay], hfound⟩
      · obtain ⟨hmay, hfound⟩ := ihAbsent hmiss.2 _ _ _ hrun
        exact ⟨by simp [Node.canStay, hmay], hfound⟩
  | atomic body ih =>
      intro spans k answer hrun
      rw [Node.run] at hrun
      split at hrun
      · rename_i found hfound
        obtain ⟨hmay, spans', rfl⟩ := (ih hmiss).eq_of_some hfound
        exact ⟨hmay, spans', hrun⟩
      · cases hrun
  | look direction negated body _ =>
      intro spans k answer hrun
      simp only [Node.run] at hrun
      split at hrun
      · exact ⟨rfl, _, hrun⟩
      · exact ⟨rfl, spans, hrun⟩
      · cases hrun
  | repeatChar test min max appetite =>
      exact stays_repeatChar (hmiss test List.mem_cons_self) min max appetite
  | repeatNode body min max appetite ih => exact (ih hmiss).repeatNode min max appetite

end

/-- The tests one of which the first character of a match satisfies, where every match is known to have
text. -/
def firsts? (pattern : Pattern) : Option (List CharTest) :=
  if pattern.traced || pattern.node.canStay then none else some pattern.node.firsts

/-- A match of a pattern can begin with a character. -/
def canBegin (pattern : Pattern) (c : Char) : Bool :=
  match pattern.firsts? with
  | none => true
  | some tests => tests.any fun test => test.holds c.toNat

/-- Where a pattern cannot begin with the character at a position, it does not match. -/
theorem matchAt_of_canBegin_eq_false {pattern : Pattern} {text : Array Char} {pos : Nat} {c : Char}
    (hc : text[pos]? = some c) (h : pattern.canBegin c = false) : pattern.matchAt text pos = none := by
  unfold canBegin firsts? at h
  by_cases hstay : pattern.traced || pattern.node.canStay
  · simp [hstay] at h
  · simp only [hstay] at h
    simp only [Bool.or_eq_true, not_or, Bool.not_eq_true] at hstay
    have hmiss : ∀ test ∈ pattern.node.firsts, testAt text test pos = false := by
      intro test htest
      rw [testAt_of_getElem? hc]
      simpa using List.any_eq_false.mp h test htest
    have hpos : pos < text.size := (Array.getElem?_eq_some_iff.mp hc).1
    have hnone := (stays_of_misses hpos hmiss).eq_none hstay.2 [] some
    simp [matchAt, hstay.1, hnone]

/-- The least and the greatest member, for an item that holds all between them. -/
def ClassItem.bounds? : ClassItem → Option (Nat × Nat)
  | .code c => some (c, c)
  | .range lo hi => some (lo, hi)
  | .kind _ _ _ => none

/-- One item ends before the other begins. -/
def ClassItem.isApart (a b : ClassItem) : Bool :=
  match a.bounds?, b.bounds? with
  | some (lo, hi), some (lo', hi') => decide (hi < lo' ∨ hi' < lo)
  | _, _ => false

/-- No member of a class satisfies the test. -/
def CharTest.avoids (test : CharTest) (items : List ClassItem) : Bool :=
  match test with
  | .code c .exact false => items.all (ClassItem.code c).isApart
  | .oneOf own .exact false => own.all fun item => items.all item.isApart
  | _ => false

/-- No match of the pattern can begin with a member of a class. -/
def avoids (pattern : Pattern) (items : List ClassItem) : Bool :=
  match pattern.firsts? with
  | some tests => tests.all (·.avoids items)
  | none => false

theorem ClassItem.holdsExactly_of_isApart {a b : ClassItem} (h : a.isApart b) {code : Nat}
    (hb : b.holdsExactly code = true) : a.holdsExactly code = false := by
  cases a <;> cases b <;> simp [isApart, bounds?, holdsExactly] at h hb ⊢ <;> omega

theorem CharTest.holds_of_avoids {test : CharTest} {items : List ClassItem} (h : test.avoids items)
    {code : Nat} (hcode : items.any (·.holdsExactly code) = true) : test.holds code = false := by
  obtain ⟨item, hitem, hholds⟩ := List.any_eq_true.mp hcode
  unfold avoids at h
  split at h
  · have hmiss := ClassItem.holdsExactly_of_isApart (List.all_eq_true.mp h item hitem) hholds
    simpa [holds, sameCode, CaseRule.isCased, ClassItem.holdsExactly] using hmiss
  · rename_i own
    have hmiss : own.any (·.holdsExactly code) = false := by
      rw [List.any_eq_false]
      intro a ha
      rw [ClassItem.holdsExactly_of_isApart (List.all_eq_true.mp (List.all_eq_true.mp h a ha) item hitem) hholds]
      exact Bool.false_ne_true
    rw [holds, hmiss]
    rfl
  · cases h

theorem canBegin_of_avoids {pattern : Pattern} {items : List ClassItem} (h : pattern.avoids items) {c : Char}
    (hc : items.any (·.holdsExactly c.toNat) = true) : pattern.canBegin c = false := by
  unfold avoids at h
  unfold canBegin
  split at h
  · rename_i tests htests
    rw [htests]
    refine List.any_eq_false.mpr fun test htest => ?_
    rw [CharTest.holds_of_avoids (List.all_eq_true.mp h test htest) hc]
    exact Bool.false_ne_true
  · cases h

/-- The node is a sequence of tests that characters satisfy one after another. -/
def Node.takes : Node → List Char → Bool
  | .char test, [c] => test.holds c.toNat
  | .cat (.char test) rest, c :: more => test.holds c.toNat && rest.takes more
  | _, _ => false

/-- The one way of matching a sequence of tests takes the characters that satisfy them. -/
theorem run_of_takes {text : Array Char} {node : Node} {chars rest : List Char} (h : node.takes chars)
    {pos : Nat} (hrest : text.toList.drop pos = chars ++ rest) (spans : List (Nat × Span))
    (k : Continuation) : node.run text ⟨pos, spans⟩ k = k ⟨pos + chars.length, spans⟩ := by
  have hhead : ∀ c more pos, text.toList.drop pos = c :: more →
      text[pos]? = some c ∧ text.toList.drop (pos + 1) = more := by
    intro c more pos hdrop
    have hfirst : (text.toList.drop pos)[0]? = some c := by
      rw [hdrop]
      rfl
    refine ⟨by simpa using hfirst, ?_⟩
    rw [← List.drop_drop, hdrop]
    rfl
  fun_induction Node.takes node chars generalizing pos with
  | case1 test c =>
      obtain ⟨hc, _⟩ := hhead _ _ _ hrest
      simp [Node.run, testAt_of_getElem? hc, h, Cursor.moveTo]
  | case2 test following c more ih =>
      obtain ⟨hc, hmore⟩ := hhead _ _ _ hrest
      simp only [Bool.and_eq_true] at h
      have hlength : pos + 1 + more.length = pos + (c :: more).length := by
        rw [List.length_cons]
        omega
      simp only [Node.run, testAt_of_getElem? hc, h.1, if_true, Cursor.moveTo, ih h.2 hmore, hlength]
  | case3 => cases h

theorem matchAt_of_takes {text : Array Char} {pattern : Pattern} {chars rest : List Char}
    (htraced : pattern.traced = false) (h : pattern.node.takes chars) {pos : Nat}
    (hrest : text.toList.drop pos = chars ++ rest) :
    pattern.matchAt text pos = some ⟨pos + chars.length, []⟩ := by
  simp [matchAt, htraced, run_of_takes h hrest]

end Pattern

end ModalHighlight
