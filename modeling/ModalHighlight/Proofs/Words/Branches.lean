import ModalHighlight.Pattern.Parser
import ModalHighlight.Proofs.Pattern.Ways

/-!
What reading makes of branches.  It takes out what all of them begin with, and puts single characters together to
a class.  Neither changes how they match: the branches are tried one after another, each as the sequence of its
items.
-/

namespace ModalHighlight.Pattern

/-- The test asks for certain code points, whatever their case. -/
def CharTest.IsExact : CharTest → Prop
  | .code _ .exact false | .oneOf _ .exact false => True
  | _ => False

/-- The node holds exact tests and greedy repetitions only, no assertion and no condition. -/
def Node.IsSimple : Node → Prop
  | .empty | .never | .anchor _ => True
  | .char test => test.IsExact
  | .cat first second => first.IsSimple ∧ second.IsSimple
  | .alt first others => first.IsSimple ∧ others.IsSimple
  | .capture _ body | .scope body => body.IsSimple
  | .repeatChar test _ _ appetite => test.IsExact ∧ appetite = .greedy
  | .repeatNode body _ _ appetite => body.IsSimple ∧ appetite = .greedy
  | _ => False

namespace Node

variable {node body : Node} {nodes : List Node}

/-- Nothing in a simple node makes a pattern refused, or one for which traces count. -/
theorem IsSimple.accepted (h : node.IsSimple) :
    node.fault? false = none ∧ node.looksTooFar = false ∧ node.leavesTraces = false := by
  induction node with
  | cat first second ihFirst ihSecond | alt first second ihFirst ihSecond =>
      obtain ⟨hfault, hlooks, htraces⟩ := ihFirst h.1
      obtain ⟨hfault', hlooks', htraces'⟩ := ihSecond h.2
      simp [fault?, looksTooFar, leavesTraces, *]
  | capture index body ih | scope body ih =>
      obtain ⟨hfault, hlooks, htraces⟩ := ih h
      simp [fault?, looksTooFar, leavesTraces, *]
  | repeatNode body min max appetite ih =>
      obtain ⟨hbody, rfl⟩ := h
      obtain ⟨hfault, hlooks, htraces⟩ := ih hbody
      simp [fault?, fault?.templateFault, looksTooFar, leavesTraces, *]
  | repeatChar test min max appetite => simp [fault?, fault?.templateFault, looksTooFar, leavesTraces]
  | empty | never | char _ | anchor _ => simp [fault?, looksTooFar, leavesTraces]
  | backref _ _ | ifCaptured _ _ _ | atomic _ | look _ _ _ => exact absurd h id

theorem isSimple_sequence (h : ∀ node ∈ nodes, node.IsSimple) : (sequence nodes).IsSimple := by
  induction nodes with
  | nil => trivial
  | cons node rest ih =>
      obtain ⟨hnode, hrest⟩ := List.forall_mem_cons.mp h
      cases rest with
      | nil => exact hnode
      | cons next more => exact ⟨hnode, ih hrest⟩

theorem isSimple_alternatives (h : ∀ node ∈ nodes, node.IsSimple) : (alternatives nodes).IsSimple := by
  induction nodes with
  | nil => trivial
  | cons node rest ih =>
      obtain ⟨hnode, hrest⟩ := List.forall_mem_cons.mp h
      exact ⟨hnode, ih hrest⟩

theorem isExact_of_test? {test : CharTest} (h : node.IsSimple) (htest : node.test? = some test) :
    test.IsExact := by
  induction node with
  | char test' => exact Option.some.inj htest ▸ h
  | scope body ih => exact ih h htest
  | _ => cases htest

theorem IsSimple.repetition (h : body.IsSimple) (min : Nat) (max : Option Nat) :
    (body.repetition min max .greedy).IsSimple := by
  unfold Node.repetition
  split
  · rename_i test htest
    exact ⟨isExact_of_test? h htest, rfl⟩
  · exact ⟨h, rfl⟩

end Node

theorem findSome?_congr {α β : Type} {f g : α → Option β} {l : List α} (h : ∀ a ∈ l, f a = g a) :
    l.findSome? f = l.findSome? g := by
  rw [← List.head?_filterMap, ← List.head?_filterMap, List.filterMap_congr h]

section

variable (text : Array Char)

/-- Items as a search, one after another. -/
def runItems (items : List Item) : Search :=
  (Node.sequence (items.map (·.node))).run text

variable {text} {c : Cursor} {k : Continuation}

theorem runItems_nil : runItems text [] c k = k c := rfl

theorem runItems_cons (item : Item) (rest : List Item) :
    runItems text (item :: rest) c k = item.node.run text c fun c' => runItems text rest c' k := by
  cases rest <;> rfl

theorem runItems_append (items more : List Item) :
    runItems text (items ++ more) c k = runItems text items c fun c' => runItems text more c' k := by
  induction items generalizing c with
  | nil => rfl
  | cons item rest ih =>
      rw [List.cons_append, runItems_cons, runItems_cons]
      exact congrArg (item.node.run text c) (funext fun c' => ih)

theorem run_alternatives (nodes : List Node) :
    (Node.alternatives nodes).run text c k = nodes.findSome? fun node => node.run text c k := by
  induction nodes with
  | nil => rfl
  | cons node rest ih =>
      rw [Node.alternatives, Node.run, ih, List.findSome?_cons]
      cases node.run text c k <;> rfl

/-- A leaf goes on from one place or from none. -/
theorem exists_run_eq_bind {node : Node} (h : node.isLeaf = true) :
    ∃ found : Option Cursor, ∀ k, node.run text c k = found.bind k := by
  cases node with
  | char test =>
      refine ⟨if testAt text test c.pos then some (c.moveTo (c.pos + 1)) else none, fun k => ?_⟩
      rw [Node.run]
      split <;> rfl
  | anchor a =>
      refine ⟨if a.holds text c.pos then some c else none, fun k => ?_⟩
      rw [Node.run]
      split <;> rfl
  | backref index rule =>
      cases hspan : c.span? index with
      | none => exact ⟨none, fun k => by simp [Node.run, hspan]⟩
      | some span =>
          refine ⟨if repeatsAt text rule span c.pos then some (c.moveTo (c.pos + (span.stop - span.start)))
            else none, fun k => ?_⟩
          simp only [Node.run, hspan]
          split <;> rfl
  | _ => cases h

/-- The item that branches share is a leaf that each of them begins with. -/
theorem sharedFirst?_eq_some {branches rest : List (List Item)} {first : Item}
    (h : sharedFirst? branches = some (first, rest)) :
    first.node.isLeaf = true ∧ rest = branches.map (·.drop 1) ∧ (∃ items ∈ branches, first ∈ items) ∧
      ∀ items ∈ branches, ∃ item more, items = item :: more ∧ item.node = first.node := by
  unfold sharedFirst? at h
  split at h
  · rename_i first' items more
    dsimp only at h
    split at h
    · rename_i hshared
      simp only [Bool.and_eq_true, List.all_eq_true] at hshared
      obtain ⟨rfl, rfl⟩ := Prod.mk.inj (Option.some.inj h)
      refine ⟨hshared.1, rfl, ⟨_, List.mem_cons_self, List.mem_cons_self⟩, fun branch hbranch => ?_⟩
      have hfirst := hshared.2 branch hbranch
      cases branch with
      | nil => cases hfirst
      | cons item more => exact ⟨item, more, rfl, by simpa using hfirst⟩
    · cases h
  · cases h

/-- What the branches begin with can be matched once, before all of them. -/
theorem findSome?_takeShared (bound : Nat) (branches : List (List Item)) :
    (runItems text (takeShared bound branches).1 c fun c' =>
      (takeShared bound branches).2.findSome? fun items => runItems text items c' k) =
        branches.findSome? fun items => runItems text items c k := by
  induction bound generalizing branches c with
  | zero => rfl
  | succ bound ih =>
      rw [takeShared]
      split
      · rfl
      · rename_i first rest hshared
        obtain ⟨hleaf, rfl, _, hbegin⟩ := sharedFirst?_eq_some hshared
        obtain ⟨found, hfound⟩ : ∃ found : Option Cursor, ∀ k, first.node.run text c k = found.bind k :=
          exists_run_eq_bind hleaf
        have heach : ∀ items ∈ branches, runItems text items c k =
            found.bind fun c' => runItems text (items.drop 1) c' k := by
          intro items hitems
          obtain ⟨item, more, rfl, heq⟩ := hbegin items hitems
          rw [runItems_cons, heq, hfound]
          rfl
        dsimp only
        rw [runItems_cons, hfound, findSome?_congr heach]
        simp only [ih, List.findSome?_map]
        cases found with
        | none => exact (List.findSome?_eq_none_iff.mpr fun _ _ => rfl).symm
        | some c' => rfl

/-- What is taken out, and what is left, was in the branches. -/
theorem forall_mem_takeShared {P : Item → Prop} {branches : List (List Item)} (bound : Nat)
    (h : ∀ items ∈ branches, ∀ item ∈ items, P item) :
    (∀ item ∈ (takeShared bound branches).1, P item) ∧
      ∀ items ∈ (takeShared bound branches).2, ∀ item ∈ items, P item := by
  induction bound generalizing branches with
  | zero => exact ⟨fun _ hitem => (nomatch hitem), h⟩
  | succ bound ih =>
      rw [takeShared]
      split
      · exact ⟨fun _ hitem => (nomatch hitem), h⟩
      · rename_i first rest hshared
        obtain ⟨_, rfl, ⟨items, hitems, hfirst⟩, _⟩ := sharedFirst?_eq_some hshared
        have hrest : ∀ items ∈ branches.map (·.drop 1), ∀ item ∈ items, P item := by
          intro items hmem item hitem
          obtain ⟨whole, hwhole, rfl⟩ := List.mem_map.mp hmem
          exact h whole hwhole item (List.mem_of_mem_drop hitem)
        obtain ⟨hmore, hleft⟩ := ih hrest
        exact ⟨List.forall_mem_cons.mpr ⟨h items hitems first hfirst, hmore⟩, hleft⟩

/-- The character at a position is a given code point. -/
theorem testAt_code {code pos : Nat} :
    testAt text (.code code .exact false) pos = true ↔ text[pos]?.map Char.toNat = some code := by
  unfold testAt
  cases text[pos]? with
  | none => simp
  | some c => simp [CharTest.holds, CharTest.sameCode, CaseRule.isCased]

/-- A class holds what its members hold. -/
theorem holds_oneOf (items : List ClassItem) (code : Nat) :
    (CharTest.oneOf items .exact false).holds code = items.any (·.holdsExactly code) := by
  simp [CharTest.holds]

theorem any_classItems? {test : CharTest} {items : List ClassItem} (h : test.IsExact)
    (hitems : test.classItems? = some items) (code : Nat) :
    items.any (·.holdsExactly code) = test.holds code := by
  unfold CharTest.IsExact at h
  split at h
  · cases hitems
    simp [CharTest.holds, CharTest.sameCode, CaseRule.isCased, ClassItem.holdsExactly]
  · cases hitems
    exact (holds_oneOf items code).symm
  · exact absurd h id

theorem ofClass_exact (items : List ClassItem) : CharTest.ofClass items .exact false = .oneOf items .exact false := by
  rw [CharTest.ofClass, ite_self]

theorem testAt_congr {first second : CharTest} (h : ∀ code, first.holds code = second.holds code) (pos : Nat) :
    testAt text first pos = testAt text second pos := by
  simp only [testAt, h]

theorem testAt_oneOf_nil (pos : Nat) : testAt text (.oneOf [] .exact false) pos = false := by
  unfold testAt
  cases text[pos]? <;> rfl

theorem testAt_oneOf_append (first second : List ClassItem) (pos : Nat) :
    testAt text (.oneOf (first ++ second) .exact false) pos =
      (testAt text (.oneOf first .exact false) pos || testAt text (.oneOf second .exact false) pos) := by
  unfold testAt
  cases text[pos]? with
  | none => rfl
  | some c => simp [holds_oneOf]

theorem testAt_oneOf_eraseDups (items : List ClassItem) (pos : Nat) :
    testAt text (.oneOf items.eraseDups .exact false) pos = testAt text (.oneOf items .exact false) pos := by
  refine testAt_congr (fun code => ?_) pos
  rw [holds_oneOf, holds_oneOf, Bool.eq_iff_iff, List.any_eq_true, List.any_eq_true]
  simp only [List.mem_eraseDups]

theorem testAt_classItems? {test : CharTest} {items : List ClassItem} (h : test.IsExact)
    (hitems : test.classItems? = some items) (pos : Nat) :
    testAt text (.oneOf items .exact false) pos = testAt text test pos :=
  testAt_congr (fun code => (holds_oneOf items code).trans (any_classItems? h hitems code)) pos

/-- The members that one branch adds to a class, if it is a single character. -/
def branchMembers? (items : List Item) : Option (List ClassItem) :=
  match items with
  | [⟨.char test, _⟩] => test.classItems?
  | _ => none

theorem branchMembers?_eq_some {items : List Item} {members : List ClassItem}
    (h : branchMembers? items = some members) :
    ∃ test width, items = [⟨.char test, width⟩] ∧ test.classItems? = some members := by
  unfold branchMembers? at h
  split at h
  · rename_i test width
    exact ⟨test, width, rfl, h⟩
  · cases h

/-- Single characters match one after another as their class does. -/
theorem findSome?_of_mapM_branchMembers? {branches : List (List Item)} {lists : List (List ClassItem)}
    (hsimple : ∀ items ∈ branches, ∀ item ∈ items, item.node.IsSimple)
    (h : branches.mapM branchMembers? = some lists) :
    (branches.findSome? fun items => runItems text items c k) =
      (Node.char (.oneOf lists.flatten .exact false)).run text c k := by
  induction branches generalizing lists with
  | nil =>
      cases h
      simp [Node.run, testAt_oneOf_nil]
  | cons items rest ih =>
      obtain ⟨hitems, hrest⟩ := List.forall_mem_cons.mp hsimple
      rw [List.mapM_cons] at h
      obtain ⟨members, hmembers, h⟩ := Option.bind_eq_some_iff.mp h
      obtain ⟨more, hmore, h⟩ := Option.bind_eq_some_iff.mp h
      cases h
      obtain ⟨test, width, rfl, hclass⟩ := branchMembers?_eq_some hmembers
      have hexact : test.IsExact := hitems _ List.mem_cons_self
      have hrun : runItems text [⟨.char test, width⟩] c k = (Node.char test).run text c k := rfl
      rw [List.findSome?_cons, ih hrest hmore, hrun]
      simp only [Node.run, List.flatten_cons, testAt_oneOf_append, testAt_classItems? hexact hclass]
      cases testAt text test c.pos with
      | false => rfl
      | true =>
          cases hk : k (c.moveTo (c.pos + 1)) with
          | none => simp
          | some answer => simp

theorem classOf?_eq_some {branches : List (List Item)} {test : CharTest} (h : classOf? {} branches = some test) :
    ∃ lists, branches.mapM branchMembers? = some lists ∧ test = .oneOf lists.flatten.eraseDups .exact false := by
  obtain ⟨lists, hlists, rfl⟩ := Option.map_eq_some_iff.mp h
  exact ⟨lists, hlists, ofClass_exact _⟩

/-- Alternatives match as their branches do, one after another. -/
theorem runItems_branchItems {branches : List (List Item)}
    (h : ∀ items ∈ branches, ∀ item ∈ items, item.node.IsSimple) :
    runItems text (branchItems {} branches) c k = branches.findSome? fun items => runItems text items c k := by
  unfold branchItems
  split
  · exact List.findSome?_singleton.symm
  · obtain ⟨_, hleft⟩ := forall_mem_takeShared (branches.headD []).length h
    rw [← findSome?_takeShared (branches.headD []).length branches, runItems_append]
    refine congrArg (runItems text _ c) (funext fun c' => ?_)
    rw [runItems_cons]
    split
    · rename_i test htest
      obtain ⟨lists, hlists, rfl⟩ := classOf?_eq_some htest
      rw [findSome?_of_mapM_branchMembers? hleft hlists]
      simp only [Node.run, testAt_oneOf_eraseDups]
      rfl
    · rw [run_alternatives, List.map_map, List.findSome?_map]
      rfl

theorem isSimple_branchItems {branches : List (List Item)}
    (h : ∀ items ∈ branches, ∀ item ∈ items, item.node.IsSimple) :
    ∀ item ∈ branchItems {} branches, item.node.IsSimple := by
  unfold branchItems
  split
  · exact h _ List.mem_cons_self
  · obtain ⟨hshared, hleft⟩ := forall_mem_takeShared (branches.headD []).length h
    intro item hitem
    rcases List.mem_append.mp hitem with hitem | hitem
    · exact hshared item hitem
    · rw [List.mem_singleton.mp hitem]
      split
      · rename_i test htest
        obtain ⟨lists, _, rfl⟩ := classOf?_eq_some htest
        trivial
      · refine Node.isSimple_alternatives fun node hnode => ?_
        rw [List.map_map] at hnode
        obtain ⟨items, hitems, rfl⟩ := List.mem_map.mp hnode
        refine Node.isSimple_sequence fun node hnode => ?_
        obtain ⟨item, hitem, rfl⟩ := List.mem_map.mp hnode
        exact hleft items hitems item hitem

end

end ModalHighlight.Pattern
