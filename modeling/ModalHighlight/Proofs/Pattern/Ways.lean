import ModalHighlight.Proofs.Pattern.Firsts
import Mathlib.Data.Option.NAry

/-!
Ways of matching.  Where the text settles which way of matching a node comes first, the node reaches the end of
that way: any continuation that accepts the cursor there gets it before any other.  Where the node has no way of
matching, it fails.  Both are found part by part, without a look at what follows.
-/

namespace ModalHighlight

namespace Pattern

namespace Node

section

variable (text : Array Char)

/-- A match of the node from a position comes to another before anywhere else. -/
def Reaches (node : Node) (pos stop : Nat) : Prop :=
  ∀ spans k answer, k ⟨stop, spans⟩ = some answer → node.run text ⟨pos, spans⟩ k = some answer

/-- The node matches in no way from a position. -/
def Fails (node : Node) (pos : Nat) : Prop :=
  ∀ spans k, node.run text ⟨pos, spans⟩ k = none

end

variable {text : Array Char} {pos middle stop : Nat} {first second body : Node} {test : CharTest}

theorem Reaches.char (h : testAt text test pos = true) : (Node.char test).Reaches text pos (pos + 1) := by
  intro spans k answer hk
  rw [Node.run, if_pos h]
  exact hk

theorem Reaches.anchor {a : Anchor} (h : a.holds text pos = true) :
    (Node.anchor a).Reaches text pos pos := by
  intro spans k answer hk
  rw [Node.run, if_pos h]
  exact hk

theorem Reaches.cat (hfirst : first.Reaches text pos middle) (hsecond : second.Reaches text middle stop) :
    (Node.cat first second).Reaches text pos stop := by
  intro spans k answer hk
  exact hfirst spans _ answer (hsecond spans k answer hk)

theorem Reaches.alt_first (h : first.Reaches text pos stop) : (Node.alt first second).Reaches text pos stop := by
  intro spans k answer hk
  rw [Node.run, h spans k answer hk]

theorem Reaches.alt_others (hfirst : first.Fails text pos) (hothers : second.Reaches text pos stop) :
    (Node.alt first second).Reaches text pos stop := by
  intro spans k answer hk
  rw [Node.run, hfirst spans k]
  exact hothers spans k answer hk

/-- A greedy repetition of a character comes first to the end of the characters that satisfy the test. -/
theorem Reaches.repeatChar {min : Nat} {max : Option Nat} {count : Nat}
    (hcount : countWhile text test (repeatLimit max (text.size - pos)) pos = count) (hmin : min ≤ count) :
    (Node.repeatChar test min max .greedy).Reaches text pos (pos + count) := by
  intro spans k answer hk
  simp only [Node.run, runRepeatedChar, hcount, if_neg (Nat.not_lt.mpr hmin)]
  cases count with
  | zero => exact hk
  | succ count =>
      rw [tryDown]
      simp only [Cursor.moveTo, hk]

/-- A greedy option tries its body, and then goes without it. -/
theorem run_option (body : Node) (c : Cursor) (k : Continuation) :
    (Node.repeatNode body 0 (some 1) .greedy).run text c k = (body.run text c k).or (k c) := by
  have hagain : ∀ c', runGreedy (fun c'' k' => body.run text c'' k') 0 (some 1) (text.size - c.pos + 1) 1
      (some c.pos) c' k = k c' := by
    intro c'
    simp [runGreedy, belowMax]
  simp only [Node.run, repetitionBound, Nat.zero_add]
  rw [runGreedy]
  simp only [hagain, Nat.lt_irrefl, belowMax]
  cases body.run text c k <;> simp

theorem Reaches.option (h : body.Reaches text pos stop) :
    (Node.repeatNode body 0 (some 1) .greedy).Reaches text pos stop := by
  intro spans k answer hk
  rw [run_option, h spans k answer hk, Option.some_or]

theorem Reaches.option_none (h : body.Fails text pos) :
    (Node.repeatNode body 0 (some 1) .greedy).Reaches text pos pos := by
  intro spans k answer hk
  rw [run_option, h spans k, Option.none_or, hk]

theorem Fails.never : Node.never.Fails text pos := fun _ _ => rfl

theorem Fails.char (h : testAt text test pos = false) : (Node.char test).Fails text pos := by
  intro spans k
  simp [Node.run, h]

theorem Fails.anchor_cat {a : Anchor} (h : a.holds text pos = false) :
    (Node.cat (.anchor a) second).Fails text pos := by
  intro spans k
  simp [Node.run, h]

theorem Fails.cat_first (h : first.Fails text pos) : (Node.cat first second).Fails text pos :=
  fun spans _ => h spans _

theorem Fails.alt (hfirst : first.Fails text pos) (hothers : second.Fails text pos) :
    (Node.alt first second).Fails text pos := by
  intro spans k
  rw [Node.run, hfirst spans k]
  exact hothers spans k

theorem Fails.look_ahead (h : body.Fails text pos) : (Node.look .ahead false body).Fails text pos := by
  intro spans k
  simp only [Node.run, h spans]

theorem Fails.cat_char (h : second.Fails text (pos + 1)) : (Node.cat (.char test) second).Fails text pos := by
  intro spans k
  simp only [Node.run, Cursor.moveTo, h spans, ite_self]

theorem Fails.cat_anchor {a : Anchor} (h : second.Fails text pos) :
    (Node.cat (.anchor a) second).Fails text pos := by
  intro spans k
  simp only [Node.run, h spans, ite_self]

theorem tryDown_eq_none {c : Cursor} {k : Continuation} {start min count : Nat}
    (h : ∀ i ≤ count, min ≤ i → k (c.moveTo (start + i)) = none) (hmin : min ≤ count) :
    tryDown c k start min count = none := by
  induction count with
  | zero => exact h 0 (Nat.le_refl _) hmin
  | succ count ih =>
      have hlast : k (c.moveTo (start + (count + 1))) = none := h (count + 1) (Nat.le_refl _) hmin
      simp only [tryDown, hlast]
      split
      · rename_i hmore
        exact ih (fun i hi => h i (Nat.le_succ_of_le hi)) hmore
      · rfl

/-- What is found by trying positions downwards is found at one of them. -/
theorem exists_of_tryDown {c : Cursor} {k : Continuation} {start min count : Nat} {answer : Cursor}
    (h : tryDown c k start min count = some answer) : ∃ i ≤ count, k (c.moveTo (start + i)) = some answer := by
  induction count with
  | zero => exact ⟨0, Nat.le_refl _, h⟩
  | succ count ih =>
      rw [tryDown] at h
      split at h
      · rename_i found hfound
        cases h
        exact ⟨count + 1, Nat.le_refl _, hfound⟩
      · split at h
        · obtain ⟨i, hi, hfound⟩ := ih h
          exact ⟨i, Nat.le_succ_of_le hi, hfound⟩
        · cases h

theorem Fails.cat_repeatChar {min : Nat} {max : Option Nat}
    (h : ∀ i ≤ countWhile text test (repeatLimit max (text.size - pos)) pos, min ≤ i →
      second.Fails text (pos + i)) :
    (Node.cat (.repeatChar test min max .greedy) second).Fails text pos := by
  intro spans k
  simp only [Node.run, runRepeatedChar]
  split
  · rfl
  · rename_i hmin
    exact tryDown_eq_none (fun i hi hmini => h i hi hmini spans k) (Nat.not_lt.mp hmin)

end Node

section

variable {pattern : Pattern} {text : Array Char} {pos stop : Nat}

theorem matchAt_of_reaches (htraced : pattern.traced = false) (h : pattern.node.Reaches text pos stop) :
    pattern.matchAt text pos = some ⟨stop, []⟩ := by
  have hrun := h [] some ⟨stop, []⟩ rfl
  simp [matchAt, htraced, hrun]

theorem matchAt_of_fails (htraced : pattern.traced = false) (h : pattern.node.Fails text pos) :
    pattern.matchAt text pos = none := by
  simp [matchAt, htraced, h [] some]

end

section

variable {text : Array Char} {pos : Nat} {chars rest : List Char}

theorem getElem?_add_of_drop (hrest : text.toList.drop pos = chars) (i : Nat) :
    text[pos + i]? = chars[i]? := by
  rw [← hrest, List.getElem?_drop, Array.getElem?_toList]

theorem getElem?_eq_head? (hrest : text.toList.drop pos = chars) : text[pos]? = chars.head? := by
  rw [← hrest, List.head?_drop, Array.getElem?_toList]

theorem testAt_eq_false_of_drop {test : CharTest} (hrest : text.toList.drop pos = rest)
    (hend : ∀ c ∈ rest.head?, test.holds c.toNat = false) : testAt text test pos = false := by
  unfold testAt
  rw [getElem?_eq_head? hrest]
  cases hhead : rest.head? with
  | none => rfl
  | some c => exact hend c hhead

theorem wordAt_of_drop (hrest : text.toList.drop pos = chars) :
    wordAt text false pos = chars.head?.any fun c => Text.isWord c.toNat := by
  unfold wordAt
  rw [getElem?_eq_head? hrest]
  cases chars.head? <;> rfl

/-- Characters that are counted satisfy the test. -/
theorem testAt_of_lt_countWhile {test : CharTest} {limit pos i : Nat}
    (h : i < countWhile text test limit pos) : testAt text test (pos + i) = true := by
  induction limit generalizing pos i with
  | zero => cases h
  | succ limit ih =>
      rw [countWhile] at h
      split at h
      · rename_i htest
        cases i with
        | zero => exact htest
        | succ i =>
            rw [Nat.add_comm i 1, ← Nat.add_assoc]
            exact ih (Nat.lt_of_succ_lt_succ h)
      · cases h

/-- Characters that satisfy a test, before one that does not, are counted. -/
theorem countWhile_of_drop {test : CharTest} (hrest : text.toList.drop pos = chars ++ rest)
    (hchars : ∀ c ∈ chars, test.holds c.toNat = true) (hend : ∀ c ∈ rest.head?, test.holds c.toNat = false)
    {limit : Nat} (hlimit : chars.length ≤ limit) : countWhile text test limit pos = chars.length := by
  induction chars generalizing pos limit with
  | nil => exact countWhile_eq_zero (testAt_eq_false_of_drop hrest hend) limit
  | cons c more ih =>
      obtain ⟨hc, hmore⟩ := List.forall_mem_cons.mp hchars
      have hget : text[pos]? = some c := by
        rw [← Nat.add_zero pos, getElem?_add_of_drop hrest]
        rfl
      have hnext : text.toList.drop (pos + 1) = more ++ rest := by
        rw [← List.drop_drop, hrest]
        rfl
      cases limit with
      | zero => cases hlimit
      | succ limit =>
          rw [countWhile, testAt_of_getElem? hget, if_pos hc,
            ih hnext hmore (Nat.le_of_succ_le_succ hlimit), List.length_cons]

/-- No more characters are counted than stand before one that does not satisfy the test. -/
theorem countWhile_le_of_drop {test : CharTest} (hrest : text.toList.drop pos = chars ++ rest)
    (hend : ∀ c ∈ rest.head?, test.holds c.toNat = false) (limit : Nat) :
    countWhile text test limit pos ≤ chars.length := by
  by_contra hlt
  have htest := testAt_of_lt_countWhile (Nat.lt_of_not_le hlt)
  have hafter : text.toList.drop (pos + chars.length) = rest := by
    rw [← List.drop_drop, hrest, List.drop_left]
  exact Bool.false_ne_true ((testAt_eq_false_of_drop hafter hend).symm.trans htest)

end

/-- What a way of matching asks for at a position: a character, which it takes, or a boundary of words. -/
inductive Demand
  | code (c : Nat)
  | boundary
deriving Repr, DecidableEq

/-- The ways of matching of a node, in the order in which they are tried, if there are finitely many and each
asks for single characters and boundaries only. -/
def Node.ways? : Node → Option (List (List Demand))
  | .empty => some [[]]
  | .never => some []
  | .char (.code c .exact false) => some [[.code c]]
  | .anchor (.wordBoundary false) => some [[.boundary]]
  | .cat first second =>
      Option.map₂ (fun before after => before.flatMap fun way => after.map (way ++ ·)) first.ways? second.ways?
  | .alt first others => Option.map₂ (· ++ ·) first.ways? others.ways?
  | .capture _ body | .scope body => body.ways?
  | .repeatNode body 0 (some 1) .greedy => body.ways?.map (· ++ [[]])
  | _ => none

section

variable (text : Array Char)

/-- Where a way of matching ends that starts at a position, if the text meets what it asks for. -/
def follow : Nat → List Demand → Option Nat
  | pos, [] => some pos
  | pos, .code c :: rest => if testAt text (.code c .exact false) pos then follow (pos + 1) rest else none
  | pos, .boundary :: rest => if atWordBoundary text false pos then follow pos rest else none

theorem follow_append (way more : List Demand) (pos : Nat) :
    follow text pos (way ++ more) = (follow text pos way).bind fun middle => follow text middle more := by
  induction way generalizing pos with
  | nil => rfl
  | cons demand rest ih =>
      cases demand with
      | code c =>
          simp only [List.cons_append, follow]
          split
          · exact ih (pos + 1)
          · rfl
      | boundary =>
          simp only [List.cons_append, follow]
          split
          · exact ih pos
          · rfl

theorem filterMap_follow_flatMap (before after : List (List Demand)) (pos : Nat) :
    (before.flatMap fun way => after.map (way ++ ·)).filterMap (follow text pos) =
      (before.filterMap (follow text pos)).flatMap fun middle => after.filterMap (follow text middle) := by
  induction before with
  | nil => rfl
  | cons way rest ih =>
      have hway : (after.map (way ++ ·)).filterMap (follow text pos) =
          after.filterMap fun more => (follow text pos way).bind fun middle => follow text middle more := by
        rw [List.filterMap_map]
        exact congrArg (List.filterMap · after) (funext fun more => follow_append text way more pos)
      rw [List.flatMap_cons, List.filterMap_append, ih, hway]
      cases hfollow : follow text pos way with
      | none => simp [List.filterMap_cons_none hfollow]
      | some middle => simp [List.filterMap_cons_some hfollow]

/-- A node with finitely many ways offers the ends of those that the text allows, one after another. -/
theorem run_of_ways? {node : Node} {ways : List (List Demand)} (h : node.ways? = some ways) (c : Cursor) :
    ∃ found : List Cursor, found.map (·.pos) = ways.filterMap (follow text c.pos) ∧
      ∀ k, node.run text c k = found.findSome? k := by
  induction node using Node.ways?.induct generalizing ways c with
  | case1 =>
      cases h
      exact ⟨[c], rfl, fun k => by simp [Node.run]⟩
  | case2 =>
      cases h
      exact ⟨[], rfl, fun k => rfl⟩
  | case3 code =>
      cases h
      by_cases htest : testAt text (.code code .exact false) c.pos = true
      · exact ⟨[c.moveTo (c.pos + 1)], by simp [follow, htest], fun k => by simp [Node.run, htest]⟩
      · exact ⟨[], by simp [follow, htest], fun k => by simp [Node.run, htest]⟩
  | case4 =>
      cases h
      by_cases hboundary : atWordBoundary text false c.pos = true
      · exact ⟨[c], by simp [follow, hboundary], fun k => by simp [Node.run, Anchor.holds, hboundary]⟩
      · exact ⟨[], by simp [follow, hboundary], fun k => by simp [Node.run, Anchor.holds, hboundary]⟩
  | case5 first second ihFirst ihSecond =>
      obtain ⟨before, after, hbefore, hafter, rfl⟩ := Option.map₂_eq_some_iff.mp h
      obtain ⟨starts, hstarts, hrun⟩ := ihFirst hbefore c
      choose found hfound hsecond using ihSecond hafter
      refine ⟨starts.flatMap found, ?_, fun k => ?_⟩
      · rw [filterMap_follow_flatMap, ← hstarts, List.flatMap_map, List.map_flatMap]
        exact congrArg (List.flatMap · starts) (funext hfound)
      · rw [Node.run, hrun, ← List.head?_filterMap (l := starts.flatMap found), List.filterMap_flatMap,
          List.head?_flatMap]
        refine congrArg (List.findSome? · starts) (funext fun start => ?_)
        rw [List.head?_filterMap, hsecond]
  | case6 first others ihFirst ihOthers =>
      obtain ⟨before, after, hbefore, hafter, rfl⟩ := Option.map₂_eq_some_iff.mp h
      obtain ⟨found, hfound, hrun⟩ := ihFirst hbefore c
      obtain ⟨more, hmore, hothers⟩ := ihOthers hafter c
      refine ⟨found ++ more, by rw [List.map_append, hfound, hmore, List.filterMap_append], fun k => ?_⟩
      rw [Node.run, hrun, hothers, List.findSome?_append]
      cases found.findSome? k <;> rfl
  | case7 index body ih =>
      obtain ⟨found, hfound, hrun⟩ := ih h c
      refine ⟨found.map (·.capture index c.pos), ?_, fun k => ?_⟩
      · rw [List.map_map, ← hfound]
        rfl
      · rw [Node.run, hrun, List.findSome?_map]
        rfl
  | case8 body ih => exact ih h c
  | case9 body ih =>
      obtain ⟨ways, hways, rfl⟩ := Option.map_eq_some_iff.mp h
      obtain ⟨found, hfound, hrun⟩ := ih hways c
      refine ⟨found ++ [c], ?_, fun k => ?_⟩
      · rw [List.map_append, hfound, List.filterMap_append]
        rfl
      · rw [Node.run_option, hrun, List.findSome?_append]
        simp
  | case10 => simp_all [Node.ways?]

end

end Pattern

end ModalHighlight
