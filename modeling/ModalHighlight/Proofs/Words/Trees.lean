import ModalHighlight.Proofs.Words.Branches
import ModalHighlight.Proofs.Words.Reading

/-!
The pattern of a tree of words.  It is read back to branches that are built as the tree is, so what they match can
be told by recursion on the tree: they try the words of the tree one after another.
-/

namespace ModalHighlight.Pattern

open Text

/-- The items that the characters of a word are read back as. -/
def charItems (w : Word) : List Item :=
  w.map fun c => ⟨.char (.code c.toNat .exact false), ⟨1, 1⟩⟩

theorem flatMap_charChunk (w : Word) : (w.map charChunk).flatMap (·.items) = charItems w := by
  rw [List.flatMap_map, charItems, List.map_eq_flatMap]
  rfl

theorem Reads.branch_of_eq {text : List Char} {chunks : List Chunk} {items : List Item} (h : Reads text chunks)
    (heq : chunks.flatMap (·.items) = items) : ReadsBranch text items :=
  heq ▸ h.branch

theorem head?_append_ne {first second : List Char} {c : Char} (hfirst : first.head? ≠ some c)
    (hsecond : second.head? ≠ some c) : (first ++ second).head? ≠ some c := by
  cases first with
  | nil => exact hsecond
  | cons d rest => exact hfirst

namespace WordTree

/-- The branches that the pattern of a tree is read back as. -/
def branches : WordTree → List (List Item)
  | .none => []
  | word w => [charItems w]
  | orEmpty longer =>
      let (body, width) := sequenceOf (branchItems {} longer.branches)
      [[⟨body.repetition 0 (some 1) .greedy, repeatWidth width 0 (some 1)⟩]]
  | orChars longer chars => longer.branches ++ [[⟨.char (charsTest chars), ⟨1, 1⟩⟩]]
  | after start rest => [charItems start ++ branchItems {} rest.branches]
  | before rest ending => [branchItems {} rest.branches ++ charItems ending]
  | either first second => first.branches ++ second.branches

variable {t : WordTree}

/-- Only what encloses it differs in the texts that a tree is written as. -/
theorem write_eq_wrap (h : t.Full) (enclosure : Enclosure) : t.write enclosure = enclosure.wrap (t.write .bare) := by
  cases t with
  | none => exact absurd h id
  | orChars longer chars => cases longer <;> rfl
  | _ => rfl

theorem reads_write_group (h : t.Full) (hbranches : ReadsBranches (t.write .bare) t.branches) :
    Reads (t.write .group) [⟨branchItems {} t.branches, .plain⟩] := by
  rw [write_eq_wrap h]
  exact hbranches.group

/-- The text of a tree is read to the branches of the tree. -/
theorem readsBranches_write (h : t.Full) : ReadsBranches (t.write .bare) t.branches := by
  induction t with
  | none => exact absurd h id
  | word w => exact ((reads_escapeWord w).branch_of_eq (flatMap_charChunk w)).branches
  | orEmpty longer ih =>
      exact (reads_write_group (t := longer) h (ih h)).option.branches
  | orChars longer chars ih =>
      obtain ⟨hne, hlonger⟩ := h
      have hclass := (reads_charSet hne).branch.branches
      rcases hlonger with rfl | hfull
      · exact hclass
      · have hwrite : (orChars longer chars).write .bare = longer.write .bare ++ '|' :: charSet chars := by
          cases longer with
          | none => exact absurd hfull id
          | _ => rfl
        rw [hwrite]
        exact (ih hfull).append hclass
  | after start rest ih =>
      have hgroup := reads_write_group (t := rest) h (ih h)
      refine (((reads_escapeWord start).append hgroup).branch_of_eq ?_).branches
      rw [List.flatMap_append, flatMap_charChunk, List.flatMap_singleton]
  | before rest ending ih =>
      have hgroup := reads_write_group (t := rest) h (ih h)
      refine ((hgroup.append (reads_escapeWord ending)).branch_of_eq ?_).branches
      rw [List.flatMap_append, flatMap_charChunk, List.flatMap_singleton]
  | either first second ihFirst ihSecond => exact (ihFirst h.1).append (ihSecond h.2)

theorem head?_escapeWord_ne (w : Word) : (escapeWord w).head? ≠ some '?' := by
  cases w with
  | nil => simp [escapeWord]
  | cons c rest =>
      by_cases hc : isSpecialChar c = true
      · simp [escapeWord, hc]
      · have hne : c ≠ '?' := fun heq => hc (heq ▸ rfl)
        simp [escapeWord, hc, hne]

theorem head?_write_group_append_ne (h : t.Full) (more : List Char) :
    (t.write .group ++ more).head? ≠ some '?' := by
  rw [write_eq_wrap h]
  simp [Enclosure.wrap]

/-- No text of a tree begins with the sign of a special group. -/
theorem head?_write_ne (h : t.Full) : (t.write .bare).head? ≠ some '?' := by
  induction t with
  | none => exact absurd h id
  | word w => exact head?_escapeWord_ne w
  | orEmpty longer => exact head?_write_group_append_ne (t := longer) h ['?']
  | orChars longer chars ih =>
      cases longer with
      | none => simp [write, Enclosure.wrap, charSet]
      | _ => exact head?_append_ne (ih (h.2.resolve_left nofun)) (by simp)
  | after start rest =>
      refine head?_append_ne (head?_escapeWord_ne start) ?_
      exact List.append_nil (rest.write .group) ▸ head?_write_group_append_ne (t := rest) h []
  | before rest ending => exact head?_write_group_append_ne (t := rest) h (escapeWord ending)
  | either first second ih => exact head?_append_ne (ih h.1) (by simp)

end WordTree

theorem head?_pieces {text : List Char} {c : Char} (h : (pieces text).1.head? = some (.plain c)) :
    text.head? = some c := by
  unfold pieces at h
  split at h
  · cases h
  · cases h
  · cases h
  · exact congrArg some (Piece.plain.inj (Option.some.inj h))

/-- A closing parenthesis behind a text does not make it begin with a question mark. -/
theorem Cuts.head?_ne {text : List Char} {ps : List Piece} (h : Cuts text ps) (htext : text.head? ≠ some '?')
    (tail : List Piece) : (ps ++ .plain ')' :: tail).head? ≠ some (.plain '?') := by
  have hpieces := congrArg (·.1.head?) (h [')'])
  have hhead : (ps ++ .plain ')' :: tail).head? = (pieces (text ++ [')'])).1.head? := by
    rw [hpieces]
    cases ps <;> rfl
  rw [hhead]
  exact mt head?_pieces (head?_append_ne htext (by simp))

/-- A group whose text does not begin with a question mark captures. -/
theorem run_readGroupStart_capture {s : Source} (h : s.rest.head? ≠ some (.plain '?')) (atStart : Bool)
    (start : Nat) : (readGroupStart {} atStart start).run s = .ok (.inr (.capture none), s) := by
  rw [readGroupStart, run_bind_of_eq (run_accept_of_ne h)]
  rfl

/-- The state in which one more group is open. -/
def Source.opened (s : Source) : Source :=
  { s with widths := s.widths ++ [none] }

theorem run_openGroup (s : Source) : (openGroup none).run s = .ok (s.widths.length + 1, s.opened) := rfl

theorem Ready.opened {n : Nat} {s : Source} {ps : List Piece} (h : Ready n s ps) : Ready n s.opened ps :=
  { h with }

/-- A capturing group is one chunk. -/
theorem reads_capture {text : List Char} {branches : List (List Item)} (h : ReadsBranches text branches)
    (hhead : text.head? ≠ some '?') :
    ∃ ps, Cuts (Enclosure.capture.wrap text) ps ∧ ∀ n s tail first found, Ready n s (ps ++ tail) →
      ∃ m s' index, Ready m s' tail ∧
        (readSequence n {} first found).run s = (readSequence m {} first
          (.ofNode (.capture index (sequenceOf (branchItems {} branches)).1)
            (sequenceOf (branchItems {} branches)).2 :: found)).run s' := by
  obtain ⟨ps, hps, hread⟩ := run_readAlternatives h
  have hcuts : Cuts (Enclosure.capture.wrap text) ([.plain '('] ++ (ps ++ [.plain ')'])) :=
    (cuts_plain (by decide)).append (hps.append (cuts_plain (by decide)))
  refine ⟨_, hcuts, fun n s tail first found hready => ?_⟩
  simp only [List.cons_append, List.nil_append, List.append_assoc] at hready
  obtain ⟨n, rfl⟩ : ∃ k, n = k + 3 := by
    have henough := hready.enough
    rw [List.length_cons] at henough
    exact ⟨n - 3, by omega⟩
  have hinside : Ready n (s.behind (.plain '(') (ps ++ .plain ')' :: tail)) (ps ++ .plain ')' :: tail) :=
    hready.taken (Nat.le_succ _)
  obtain ⟨s', hready', heq⟩ := hread n _ (.plain ')' :: tail) hinside.opened
    (fun p hp => .inr (Option.some.inj hp).symm) (by simp)
  have hquestion : (s.behind (.plain '(') (ps ++ .plain ')' :: tail)).rest.head? ≠ some (.plain '?') :=
    hps.head?_ne hhead tail
  have hclosed : Ready (n + 2)
      { s'.behind (.plain ')') tail with
        widths := s'.widths.set s.widths.length (some (sequenceOf (branchItems {} branches)).2) } tail :=
    { hready'.next.mono (Nat.le_add_right n 2) with }
  refine ⟨n + 2, _, s.widths.length + 1, hclosed, run_readSequence_group hready ?_⟩
  rw [readGroup, run_bind_of_eq (run_readGroupStart_capture hquestion _ _)]
  refine (run_bind_of_eq (run_openGroup _)).trans ?_
  rw [run_bind_of_eq heq, run_bind_of_eq (run_expectClose hready')]
  rfl

/-- The sign of a boundary of words, where one is asked for. -/
def boundarySign (asked : Bool) : String :=
  if asked then "\\b" else ""

/-- The item that the sign of a boundary is read back as. -/
def boundaryItems (asked : Bool) : List Item :=
  if asked then [⟨.anchor (.wordBoundary false), .zero⟩] else []

theorem reads_boundarySign (asked : Bool) :
    ∃ chunks, Reads (boundarySign asked).toList chunks ∧ chunks.flatMap (·.items) = boundaryItems asked := by
  cases asked with
  | false => exact ⟨[], reads_nil, rfl⟩
  | true =>
      refine ⟨[.ofAnchor (.wordBoundary false)], ⟨[.escaped 'b'], cuts_escaped 'b', ?_⟩, rfl⟩
      intro n s tail first found hready
      obtain ⟨n, rfl⟩ := hready.exists_eq_add_one
      exact ⟨n, _, hready.behind,
        run_readSequence_atom hready (by decide) (by decide) (by decide) rfl rfl⟩

theorem isExact_charsTest (chars : List Char) : (charsTest chars).IsExact := by
  unfold charsTest
  split
  · trivial
  · rw [ofClass_exact]
    trivial

theorem WordTree.isSimple_branches (t : WordTree) : ∀ items ∈ t.branches, ∀ item ∈ items, item.node.IsSimple := by
  have hchars : ∀ w : Word, ∀ item ∈ charItems w, item.node.IsSimple := by
    intro w item hitem
    obtain ⟨c, _, rfl⟩ := List.mem_map.mp hitem
    trivial
  induction t with
  | none => intro items hitems; cases hitems
  | word w =>
      intro items hitems
      cases List.mem_singleton.mp hitems
      exact hchars w
  | orEmpty longer ih =>
      intro items hitems item hitem
      cases List.mem_singleton.mp hitems
      cases List.mem_singleton.mp hitem
      refine Node.IsSimple.repetition (Node.isSimple_sequence fun node hnode => ?_) 0 (some 1)
      obtain ⟨item, hitem, rfl⟩ := List.mem_map.mp hnode
      exact isSimple_branchItems ih item hitem
  | orChars longer chars ih =>
      intro items hitems
      rcases List.mem_append.mp hitems with hitems | hitems
      · exact ih items hitems
      · cases List.mem_singleton.mp hitems
        intro item hitem
        cases List.mem_singleton.mp hitem
        exact isExact_charsTest chars
  | after start rest ih =>
      intro items hitems item hitem
      cases List.mem_singleton.mp hitems
      exact (List.mem_append.mp hitem).elim (hchars start item) (isSimple_branchItems ih item)
  | before rest ending ih =>
      intro items hitems item hitem
      cases List.mem_singleton.mp hitems
      exact (List.mem_append.mp hitem).elim (isSimple_branchItems ih item) (hchars ending item)
  | either first second ihFirst ihSecond =>
      intro items hitems
      exact (List.mem_append.mp hitems).elim (ihFirst items) (ihSecond items)

/-- The items that the whole pattern of a tree is read back as. -/
def wholeItems (t : WordTree) (opens closes : Bool) (index : Nat) : List Item :=
  let (body, width) := sequenceOf (branchItems {} t.branches)
  boundaryItems opens ++ ⟨.capture index body, width⟩ :: boundaryItems closes

theorem isSimple_wholeItems (t : WordTree) (opens closes : Bool) (index : Nat) :
    (Node.sequence ((wholeItems t opens closes index).map (·.node))).IsSimple := by
  have hboundary : ∀ asked, ∀ item ∈ boundaryItems asked, item.node.IsSimple := by
    intro asked item hitem
    cases asked with
    | false => cases hitem
    | true =>
        cases List.mem_singleton.mp hitem
        trivial
  refine Node.isSimple_sequence fun node hnode => ?_
  obtain ⟨item, hitem, rfl⟩ := List.mem_map.mp hnode
  rcases List.mem_append.mp hitem with hitem | hitem
  · exact hboundary opens item hitem
  · rcases List.mem_cons.mp hitem with rfl | hitem
    · refine Node.isSimple_sequence fun node hnode => ?_
      obtain ⟨item, hitem, rfl⟩ := List.mem_map.mp hnode
      exact isSimple_branchItems t.isSimple_branches item hitem
    · exact hboundary closes item hitem

/-- A text of signs and a tree is read to the items of the whole pattern. -/
theorem run_readSequence_whole {t : WordTree} (h : t.Full) (opens closes : Bool) :
    ∃ ps, Cuts ((boundarySign opens).toList ++ (t.write .capture ++ (boundarySign closes).toList)) ps ∧
      ∀ n s, Ready n s ps → ∃ s' index, Ready 1 s' [] ∧
        (readSequence n {} true []).run s = .ok (wholeItems t opens closes index, s') := by
  obtain ⟨before, hbefore, hopens⟩ := reads_boundarySign opens
  obtain ⟨after, hafter, hcloses⟩ := reads_boundarySign closes
  obtain ⟨ps, hps, hreadBefore⟩ := hbefore
  obtain ⟨rs, hrs, hreadAfter⟩ := hafter
  obtain ⟨qs, hqs, hreadTree⟩ := reads_capture (t.readsBranches_write h) (t.head?_write_ne h)
  rw [WordTree.write_eq_wrap h]
  refine ⟨ps ++ (qs ++ rs), hps.append (hqs.append hrs), fun n s hready => ?_⟩
  obtain ⟨m, s₁, hready₁, heq₁⟩ := hreadBefore n s (qs ++ rs) true [] hready
  obtain ⟨m₂, s₂, index, hready₂, heq₂⟩ := hreadTree m s₁ rs true _ hready₁
  rw [← List.append_nil rs] at hready₂
  obtain ⟨m₃, s₃, hready₃, heq₃⟩ := hreadAfter m₂ s₂ [] true _ hready₂
  refine ⟨s₃, index, { hready₃ with enough := Nat.le_refl _ }, ?_⟩
  rw [heq₁, heq₂, heq₃, run_readSequence_of_closes hready₃ (fun p hp => nomatch hp), itemsOf, wholeItems, ← hopens,
    ← hcloses]
  simp [Chunk.ofNode]

theorem run_readAlternatives_whole {n : Nat} {s s' : Source} {items : List Item} (hready : Ready 1 s' [])
    (h : (readSequence (n + 1) {} true []).run s = .ok (items, s')) :
    (readAlternatives (n + 2) true {}).run s = .ok (items, s') := by
  have hbranches : (readBranches (n + 1) true {} [items]).run s' = .ok ([items], s') := by
    rw [readBranches, run_bind_of_eq (run_accept_of_ne (by simp [hready.rest]))]
    rfl
  rw [readAlternatives, run_bind_of_eq h, run_bind_of_eq hbranches, run_bind_of_eq (run_get s')]
  rfl

/-- The pattern of a tree is accepted, and no traces count for it. -/
theorem exists_parse_write {t : WordTree} (h : t.Full) (opens closes : Bool) :
    ∃ pattern index,
      parse (boundarySign opens ++ String.ofList (t.write .capture) ++ boundarySign closes) = .ok pattern ∧
        pattern.traced = false ∧
        pattern.node = Node.sequence ((wholeItems t opens closes index).map (·.node)) := by
  obtain ⟨ps, hps, hread⟩ := run_readSequence_whole h opens closes
  have htext : (boundarySign opens ++ String.ofList (t.write .capture) ++ boundarySign closes).toList =
      (boundarySign opens).toList ++ (t.write .capture ++ (boundarySign closes).toList) := by
    simp
  generalize boundarySign opens ++ String.ofList (t.write .capture) ++ boundarySign closes = text at htext
  rw [← htext] at hps
  have hpieces : pieces text.toList = (ps, false) := by
    have hwhole := hps []
    rwa [List.append_nil, pieces, List.append_nil] at hwhole
  have hlength : ps.length ≤ text.toList.length := by
    simpa only [hpieces] using length_pieces_le text.toList
  have hready : Ready (4 * text.toList.length + 15) ⟨ps, 0, false, {}, [], [], none, []⟩ ps :=
    ⟨rfl, rfl, rfl, rfl, by omega⟩
  obtain ⟨s', index, hready', heq⟩ := hread _ _ hready
  obtain ⟨hfault, hlooks, htraces⟩ := (isSimple_wholeItems t opens closes index).accepted
  have hpattern : (readPattern text (4 * text.toList.length + 16)).run ⟨ps, 0, false, {}, [], [], none, []⟩ =
      .ok (⟨text, Node.sequence ((wholeItems t opens closes index).map (·.node)), s'.widths.length, false⟩, s') := by
    rw [readPattern, run_bind_of_eq (run_get _), if_neg (by simp),
      run_bind_of_eq (run_readAlternatives_whole hready' heq)]
    simp only [sequenceOf]
    rw [run_bind_of_eq (run_get s')]
    simp only [hready'.flags, hready'.rest, hready'.conditions, hfault, hlooks, htraces]
    rfl
  refine ⟨⟨text, Node.sequence ((wholeItems t opens closes index).map (·.node)), s'.widths.length, false⟩, index,
    ?_, rfl, rfl⟩
  rw [parse, parseWith]
  simp only [hpieces, hpattern]
  rfl

end ModalHighlight.Pattern
