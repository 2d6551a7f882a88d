import ModalHighlight.Pattern.Parser
import ModalHighlight.Proofs.Words.Arrangement

/-!
Reading what a tree of words is written as.  A piece of text is read to chunks wherever it stands and whatever
follows it, so what is read one after another can be put together.  Each form of tree is read back to items that
have its parts for their parts: none of its words can be taken for a sign of the pattern, and none of the signs
for a part of a word.
-/

namespace ModalHighlight.Pattern

open Text

section

variable {α β : Type} {s s' : Source} {p : Piece} {rest : List Piece} {c : Char}

theorem run_bind_of_eq {x : Reading α} {f : α → Reading β} {a : α} (h : x.run s = .ok (a, s')) :
    (x >>= f).run s = (f a).run s' := by
  rw [StateT.run_bind, h]
  rfl

theorem run_get (s : Source) : (get : Reading Source).run s = .ok (s, s) := rfl

theorem run_peek (s : Source) : Reading.peek.run s = .ok (s.rest.head?, s) := rfl

/-- The state behind a piece. -/
def Source.behind (s : Source) (p : Piece) (rest : List Piece) : Source :=
  { s with rest, pos := s.pos + p.width }

theorem run_take (hrest : s.rest = p :: rest) (hdangling : s.dangling = false) :
    Reading.take.run s = .ok (some p, s.behind p rest) := by
  rw [Reading.take, run_bind_of_eq (run_get s), hrest]
  simp only [hdangling, Bool.and_false, Bool.false_eq_true, if_false]
  rw [Source.behind, hdangling]
  rfl

theorem run_accept (hrest : s.rest = .plain c :: rest) (hdangling : s.dangling = false) :
    (Reading.accept c).run s = .ok (true, s.behind (.plain c) rest) := by
  rw [Reading.accept, run_bind_of_eq (run_peek s), if_pos (by simp [hrest]),
    run_bind_of_eq (run_take hrest hdangling)]
  rfl

theorem run_accept_of_ne (hne : s.rest.head? ≠ some (.plain c)) :
    (Reading.accept c).run s = .ok (false, s) := by
  rw [Reading.accept, run_bind_of_eq (run_peek s), if_neg (by simpa using hne)]
  rfl

end

/-- In a state these pieces are left, with rounds enough to read them, and nothing has been recorded for the whole
pattern. -/
structure Ready (n : Nat) (s : Source) (ps : List Piece) : Prop where
  rest : s.rest = ps
  dangling : s.dangling = false
  flags : s.flags = {}
  conditions : s.conditions = []
  enough : 4 * ps.length + 1 ≤ n

section

variable {n : Nat} {s s' : Source} {p : Piece} {ps tail : List Piece} {first : Bool} {found : List Chunk}

/-- Each piece has four rounds. -/
theorem Ready.taken {m : Nat} (h : Ready n s (p :: ps)) (hm : n ≤ m + 4) : Ready m (s.behind p ps) ps where
  rest := rfl
  dangling := h.dangling
  flags := h.flags
  conditions := h.conditions
  enough := by
    have henough := h.enough
    rw [List.length_cons] at henough
    omega

theorem Ready.behind (h : Ready (n + 1) s (p :: ps)) : Ready n (s.behind p ps) ps :=
  h.taken (Nat.add_le_add_left (by decide) n)

/-- The rounds are not counted where only what is left matters. -/
theorem Ready.next (h : Ready n s (p :: ps)) : Ready n (s.behind p ps) ps :=
  h.taken (Nat.le_add_right n 4)

theorem Ready.exists_eq_add_one (h : Ready n s ps) : ∃ m, n = m + 1 :=
  Nat.exists_eq_add_one.mpr (Nat.lt_of_lt_of_le (Nat.succ_pos _) h.enough)

theorem Ready.mono {m : Nat} (h : Ready n s ps) (hm : n ≤ m) : Ready m s ps :=
  { h with enough := h.enough.trans hm }

/-- Rounds enough for some pieces and what follows them are enough for what follows. -/
theorem Ready.of_append {m : Nat} (h : Ready n s (ps ++ tail)) (h' : Ready m s' tail) : Ready n s' tail where
  rest := h'.rest
  dangling := h'.dangling
  flags := h'.flags
  conditions := h'.conditions
  enough := by
    have henough := h.enough
    rw [List.length_append] at henough
    omega

/-- What is read next closes a sequence. -/
def Closes (tail : List Piece) : Prop :=
  ∀ p ∈ tail.head?, p = .plain '|' ∨ p = .plain ')'

/-- A sequence ends where a bar or a closing parenthesis is left, or nothing. -/
theorem run_readSequence_of_closes (h : Ready n s tail) (hcloses : Closes tail) :
    (readSequence n {} first found).run s = .ok (itemsOf found, s) := by
  obtain ⟨n, rfl⟩ := h.exists_eq_add_one
  rw [readSequence, run_bind_of_eq (run_get s), run_bind_of_eq (run_peek s), h.rest]
  cases tail with
  | nil => rfl
  | cons p rest => rcases hcloses p rfl with rfl | rfl <;> rfl

/-- A piece that is no bar and no closing parenthesis is taken. -/
theorem run_readSequence_of_ne (h : Ready (n + 1) s (p :: ps)) (hbar : p ≠ .plain '|')
    (hclose : p ≠ .plain ')') :
    (readSequence (n + 1) {} first found).run s =
      (if p == Piece.plain '(' then do
        match ← readGroup n {} (first && found.isEmpty) s.pos with
        | .nothing => readSequence n {} first found
        | .flags f => readSequence n f first found
        | .chunk chunk => readSequence n {} first (chunk :: found)
      else do
        match ← readQuantifier p with
        | some (min, max) =>
            let found ← repeatLast s.pos min max found
            readSequence n {} first found
        | none =>
            let chunk ← readAtom {} s.pos p
            readSequence n {} first (chunk :: found)).run (s.behind p ps) := by
  rw [readSequence, run_bind_of_eq (run_get s), run_bind_of_eq (run_peek s), h.rest, List.head?_cons]
  split
  · rename_i heq
    cases heq
  · rename_i heq
    exact absurd (Option.some.inj heq) hbar
  · rename_i heq
    exact absurd (Option.some.inj heq) hclose
  · rename_i q _ _ heq
    obtain rfl := Option.some.inj heq
    rw [run_bind_of_eq (run_take h.rest h.dangling)]
    exact run_bind_of_eq (rfl : (skipVerbose {} p).run _ = .ok (false, _))

/-- A piece that makes a chunk by itself. -/
theorem run_readSequence_atom {chunk : Chunk} (h : Ready (n + 1) s (p :: ps)) (hbar : p ≠ .plain '|')
    (hclose : p ≠ .plain ')') (hopen : p ≠ .plain '(') (hquantifier : readQuantifier p = pure none)
    (hatom : (readAtom {} s.pos p).run (s.behind p ps) = .ok (chunk, s')) :
    (readSequence (n + 1) {} first found).run s = (readSequence n {} first (chunk :: found)).run s' := by
  rw [run_readSequence_of_ne h hbar hclose, if_neg (by simpa using hopen), hquantifier, pure_bind]
  exact run_bind_of_eq hatom

/-- A group that makes a chunk. -/
theorem run_readSequence_group {chunk : Chunk} (h : Ready (n + 1) s (.plain '(' :: ps))
    (hgroup : (readGroup n {} (first && found.isEmpty) s.pos).run (s.behind (.plain '(') ps) =
      .ok (.chunk chunk, s')) :
    (readSequence (n + 1) {} first found).run s = (readSequence n {} first (chunk :: found)).run s' := by
  rw [run_readSequence_of_ne h (by decide) (by decide), if_pos (by decide)]
  exact run_bind_of_eq hgroup

end

/-- A text is cut into pieces whatever follows it. -/
def Cuts (text : List Char) (ps : List Piece) : Prop :=
  ∀ tail, pieces (text ++ tail) = (ps ++ (pieces tail).1, (pieces tail).2)

theorem cuts_nil : Cuts [] [] := fun _ => rfl

theorem cuts_plain {c : Char} (h : c ≠ '\\') : Cuts [c] [.plain c] := by
  intro tail
  simp [pieces, h]

theorem cuts_escaped (c : Char) : Cuts ['\\', c] [.escaped c] := by
  intro tail
  simp [pieces]

theorem Cuts.append {first second : List Char} {ps qs : List Piece} (hfirst : Cuts first ps)
    (hsecond : Cuts second qs) : Cuts (first ++ second) (ps ++ qs) := by
  intro tail
  rw [List.append_assoc, hfirst, hsecond, List.append_assoc]

theorem length_pieces_le (text : List Char) : (pieces text).1.length ≤ text.length := by
  induction text using pieces.induct with
  | case1 => exact Nat.le_refl _
  | case2 => exact Nat.zero_le _
  | case3 c rest ps dangling hpieces ih =>
      rw [hpieces] at ih
      simp only [pieces, hpieces, List.length_cons]
      exact Nat.le_succ_of_le (Nat.succ_le_succ ih)
  | case4 c rest _ _ ps dangling hpieces ih =>
      rw [hpieces] at ih
      simp_all [pieces]

/-- The piece that a character of a word is written as. -/
def pieceOf (special : Char → Bool) (c : Char) : Piece :=
  if special c then .escaped c else .plain c

/-- The text of a word whose special characters are escaped. -/
theorem cuts_flatMap {special : Char → Bool} (h : special '\\' = true) (w : Word) :
    Cuts (w.flatMap fun c => if special c then ['\\', c] else [c]) (w.map (pieceOf special)) := by
  induction w with
  | nil => exact cuts_nil
  | cons c rest ih =>
      have hc : Cuts (if special c then ['\\', c] else [c]) [pieceOf special c] := by
        unfold pieceOf
        split
        · exact cuts_escaped c
        · rename_i hplain
          exact cuts_plain fun heq => hplain (heq ▸ h)
      exact hc.append ih

/-- Neither an ASCII letter nor a digit. -/
def IsSign (c : Char) : Prop :=
  (isAsciiLetter c || isDecimalDigit c) = false

section

variable {c : Char}

/-- What an escape can name by its letter has a letter or a digit for it, a backslash aside. -/
theorem IsSign.names_nothing (h : IsSign c) : letterAnchor? {} c = none ∧ letterClass? {} c = none ∧
    readCodeEscape? c = none ∧ isDecimalDigit c = false ∧ isOctalDigit c = false := by
  have hdigit : isDecimalDigit c = false := (Bool.or_eq_false_iff.mp h).2
  refine ⟨?_, ?_, ?_, hdigit, ?_⟩
  · unfold letterAnchor?
    split <;> first | rfl | cases h
  · unfold letterClass?
    split <;> first | rfl | cases h
  · unfold readCodeEscape?
    split <;> first | rfl | cases h
  · simp only [isDecimalDigit, isOctalDigit, decide_eq_false_iff_not, not_and, not_le] at hdigit ⊢
    exact fun hlow => (by decide : '7' < '9').trans (hdigit hlow)

theorem IsSign.letterControl?_eq (h : IsSign c) {code : Nat} (hcode : letterControl? c = some code) :
    code = c.toNat := by
  unfold letterControl? at hcode
  split at hcode <;> cases hcode <;> first | rfl | cases h

theorem IsSign.run_readPlainEscape (h : IsSign c) (s : Source) :
    (readPlainEscape c).run s = .ok (c.toNat, s) := by
  rw [readPlainEscape, if_neg (Bool.eq_false_iff.mp h)]
  rfl

/-- Behind a backslash a sign stands for itself. -/
theorem IsSign.run_readEscape (h : IsSign c) (s : Source) :
    (readEscape {} c).run s = .ok (.ofCode {} c.toNat, s) := by
  obtain ⟨hanchor, hclass, hcode, hdigit, _⟩ := h.names_nothing
  rw [readEscape, hanchor, hclass, hcode]
  cases hletter : letterControl? c with
  | some code =>
      rw [h.letterControl?_eq hletter]
      rfl
  | none =>
      have hzero : (c == '0') = false := beq_eq_false_iff_ne.mpr fun heq => by cases heq ▸ hdigit
      simp only [hzero, hdigit, Bool.false_eq_true, if_false]
      exact run_bind_of_eq (h.run_readPlainEscape s)

/-- So it does in a class. -/
theorem IsSign.run_readClassEscape (h : IsSign c) (s : Source) :
    (readClassEscape {} c).run s = .ok (.code c.toNat, s) := by
  obtain ⟨_, hclass, hcode, _, hoctal⟩ := h.names_nothing
  have hbackspace : (c == 'b') = false := beq_eq_false_iff_ne.mpr fun heq => by cases heq ▸ h
  rw [readClassEscape, hclass, hcode, hbackspace]
  cases hletter : letterControl? c with
  | some code =>
      rw [h.letterControl?_eq hletter]
      rfl
  | none =>
      simp only [hoctal, Bool.false_eq_true, if_false]
      exact run_bind_of_eq (h.run_readPlainEscape s)

theorem isSign_of_contains {chars : List Char}
    (hall : (chars.all fun d => !(isAsciiLetter d || isDecimalDigit d)) = true) (h : chars.contains c = true) :
    IsSign c := by
  have hmem : c ∈ chars := List.contains_iff_mem.mp h
  unfold IsSign
  simpa using List.all_eq_true.mp hall c hmem

theorem isSign_of_isSpecialChar (h : isSpecialChar c = true) : IsSign c :=
  isSign_of_contains (by decide) h

end

theorem ne_of_isSpecialChar {c d : Char} (hc : isSpecialChar c = false) (hd : isSpecialChar d = true) : c ≠ d :=
  fun heq => Bool.false_ne_true (hc.symm.trans (heq ▸ hd))

/-- What a character of a word is read back as. -/
def charChunk (c : Char) : Chunk :=
  .ofCode {} c.toNat

theorem run_readAtom_pieceOf (start : Nat) (c : Char) (s : Source) :
    (readAtom {} start (pieceOf isSpecialChar c)).run s = .ok (charChunk c, s) := by
  unfold pieceOf
  split
  · rename_i hspecial
    exact (isSign_of_isSpecialChar hspecial).run_readEscape s
  · rename_i hplain
    have hc : isSpecialChar c = false := by simpa using hplain
    have hset : c ≠ '[' := ne_of_isSpecialChar hc rfl
    have hdot : c ≠ '.' := ne_of_isSpecialChar hc rfl
    have hstart : c ≠ '^' := ne_of_isSpecialChar hc rfl
    have hend : c ≠ '$' := ne_of_isSpecialChar hc rfl
    simp only [readAtom]
    rfl

/-- A character of a word is no sign of the pattern. -/
theorem pieceOf_ne {c d : Char} (hd : isSpecialChar d = true) : pieceOf isSpecialChar c ≠ .plain d := by
  unfold pieceOf
  split
  · exact Piece.noConfusion
  · rename_i hplain
    exact fun heq => hplain (Piece.plain.inj heq ▸ hd)

theorem readQuantifier_pieceOf (c : Char) : readQuantifier (pieceOf isSpecialChar c) = pure none := by
  have hquestion : pieceOf isSpecialChar c ≠ .plain '?' := pieceOf_ne rfl
  have hstar : pieceOf isSpecialChar c ≠ .plain '*' := pieceOf_ne rfl
  have hplus : pieceOf isSpecialChar c ≠ .plain '+' := pieceOf_ne rfl
  have hbrace : pieceOf isSpecialChar c ≠ .plain '\x7b' := pieceOf_ne rfl
  simp only [readQuantifier]

/-- In a sequence a text is read to chunks, whatever stands before it and after it. -/
def Reads (text : List Char) (chunks : List Chunk) : Prop :=
  ∃ ps, Cuts text ps ∧ ∀ n s tail first found, Ready n s (ps ++ tail) →
    ∃ m s', Ready m s' tail ∧
      (readSequence n {} first found).run s = (readSequence m {} first (chunks.reverse ++ found)).run s'

/-- Before the end of a sequence a text is read to items. -/
def ReadsBranch (text : List Char) (items : List Item) : Prop :=
  ∃ ps, Cuts text ps ∧ ∀ n s tail, Ready n s (ps ++ tail) → Closes tail →
    ∃ s', Ready n s' tail ∧ (readSequence n {} false []).run s = .ok (items, s')

/-- Before the end of a sequence a text is read to branches, whatever branches stand before it. -/
def ReadsBranches (text : List Char) (branches : List (List Item)) : Prop :=
  ∃ ps, Cuts text ps ∧ ∀ n s tail found, Ready n s (ps ++ tail) → Closes tail →
    ∃ m s', Ready m s' tail ∧
      (do
        let branch ← readSequence n {} false []
        readBranches n false {} (found ++ [branch])).run s =
      (readBranches m false {} (found ++ branches)).run s'

theorem reads_nil : Reads [] [] :=
  ⟨[], cuts_nil, fun n s _ _ _ hready => ⟨n, s, hready, rfl⟩⟩

theorem Reads.append {first second : List Char} {chunks more : List Chunk} (hfirst : Reads first chunks)
    (hsecond : Reads second more) : Reads (first ++ second) (chunks ++ more) := by
  obtain ⟨ps, hps, hreadFirst⟩ := hfirst
  obtain ⟨qs, hqs, hreadSecond⟩ := hsecond
  refine ⟨ps ++ qs, hps.append hqs, fun n s tail first found hready => ?_⟩
  rw [List.append_assoc] at hready
  obtain ⟨m, s', hready', heq⟩ := hreadFirst n s (qs ++ tail) first found hready
  obtain ⟨m', s'', hready'', heq'⟩ := hreadSecond m s' tail first _ hready'
  exact ⟨m', s'', hready'', by rw [heq, heq', List.reverse_append, List.append_assoc]⟩

theorem reads_escapeWord (w : Word) : Reads (escapeWord w) (w.map charChunk) := by
  refine ⟨w.map (pieceOf isSpecialChar), cuts_flatMap rfl w, fun n s tail first found hready => ?_⟩
  induction w generalizing n s found with
  | nil => exact ⟨n, s, hready, rfl⟩
  | cons c rest ih =>
      obtain ⟨n, rfl⟩ := hready.exists_eq_add_one
      obtain ⟨m, s', hready', heq⟩ := ih n _ (charChunk c :: found) hready.behind
      refine ⟨m, s', hready', ?_⟩
      rw [run_readSequence_atom hready (pieceOf_ne rfl) (pieceOf_ne rfl) (pieceOf_ne rfl)
        (readQuantifier_pieceOf c) (run_readAtom_pieceOf _ c _), heq]
      simp

theorem Reads.branch {text : List Char} {chunks : List Chunk} (h : Reads text chunks) :
    ReadsBranch text (chunks.flatMap (·.items)) := by
  obtain ⟨ps, hps, hread⟩ := h
  refine ⟨ps, hps, fun n s tail hready hcloses => ?_⟩
  obtain ⟨m, s', hready', heq⟩ := hread n s tail false [] hready
  refine ⟨s', hready.of_append hready', ?_⟩
  rw [heq, run_readSequence_of_closes hready' hcloses, itemsOf, List.reverse_append, List.reverse_reverse]
  rfl

theorem ReadsBranch.branches {text : List Char} {items : List Item} (h : ReadsBranch text items) :
    ReadsBranches text [items] := by
  obtain ⟨ps, hps, hread⟩ := h
  refine ⟨ps, hps, fun n s tail found hready hcloses => ?_⟩
  obtain ⟨s', hready', heq⟩ := hread n s tail hready hcloses
  exact ⟨n, s', hready', run_bind_of_eq heq⟩

/-- A bar stands between branches. -/
theorem ReadsBranches.append {first second : List Char} {branches more : List (List Item)}
    (hfirst : ReadsBranches first branches) (hsecond : ReadsBranches second more) :
    ReadsBranches (first ++ '|' :: second) (branches ++ more) := by
  obtain ⟨ps, hps, hreadFirst⟩ := hfirst
  obtain ⟨qs, hqs, hreadSecond⟩ := hsecond
  have hbar : Cuts ('|' :: second) (.plain '|' :: qs) := (cuts_plain (by decide)).append hqs
  refine ⟨ps ++ .plain '|' :: qs, hps.append hbar, fun n s tail found hready hcloses => ?_⟩
  rw [List.append_assoc] at hready
  obtain ⟨m, s', hready', heq⟩ := hreadFirst n s _ found hready fun p hp => by
    cases hp
    exact .inl rfl
  obtain ⟨m, rfl⟩ := hready'.exists_eq_add_one
  obtain ⟨m', s'', hready'', heq'⟩ := hreadSecond m _ tail (found ++ branches) hready'.behind hcloses
  refine ⟨m', s'', hready'', ?_⟩
  rw [heq, readBranches, run_bind_of_eq (run_accept hready'.rest hready'.dangling), if_pos rfl,
    run_bind_of_eq (run_get _), ← List.append_assoc, ← heq']
  rfl

/-- Branches before something else than a bar are all alternatives. -/
theorem run_readAlternatives {text : List Char} {branches : List (List Item)} (h : ReadsBranches text branches) :
    ∃ ps, Cuts text ps ∧ ∀ n s tail, Ready n s (ps ++ tail) → Closes tail → tail.head? ≠ some (.plain '|') →
      ∃ s', Ready n s' tail ∧
        (readAlternatives (n + 1) false {}).run s = .ok (branchItems {} branches, s') := by
  obtain ⟨ps, hps, hread⟩ := h
  refine ⟨ps, hps, fun n s tail hready hcloses hne => ?_⟩
  obtain ⟨m, s', hready', heq⟩ := hread n s tail [] hready hcloses
  obtain ⟨m, rfl⟩ := hready'.exists_eq_add_one
  have hbranches : (readBranches (m + 1) false {} ([] ++ branches)).run s' = .ok (branches, s') := by
    rw [readBranches, run_bind_of_eq (run_accept_of_ne (hready'.rest.symm ▸ hne))]
    rfl
  refine ⟨s', hready.of_append hready', ?_⟩
  rw [readAlternatives, ← bind_assoc]
  exact run_bind_of_eq (heq.trans hbranches)

theorem run_readGroupStart {n : Nat} {s : Source} {ps : List Piece} {atStart : Bool} {start : Nat}
    (h : Ready n s (.plain '?' :: .plain ':' :: ps)) : (readGroupStart {} atStart start).run s =
      .ok (.inr .plain, (s.behind (.plain '?') (.plain ':' :: ps)).behind (.plain ':') ps) := by
  rw [readGroupStart, run_bind_of_eq (run_accept h.rest h.dangling), if_neg (by decide),
    run_bind_of_eq (run_take h.next.rest h.next.dangling)]
  rfl

theorem run_expectClose {n : Nat} {s : Source} {tail : List Piece} {start : Nat}
    (h : Ready n s (.plain ')' :: tail)) : (expectClose start).run s = .ok ((), s.behind (.plain ')') tail) := by
  rw [expectClose, run_bind_of_eq (run_accept h.rest h.dangling)]
  rfl

/-- A plain group is one chunk, which holds the items of its branches. -/
theorem ReadsBranches.group {text : List Char} {branches : List (List Item)} (h : ReadsBranches text branches) :
    Reads (Enclosure.group.wrap text) [⟨branchItems {} branches, .plain⟩] := by
  obtain ⟨ps, hps, hread⟩ := run_readAlternatives h
  have hcuts : Cuts (Enclosure.group.wrap text)
      ([.plain '('] ++ ([.plain '?'] ++ ([.plain ':'] ++ (ps ++ [.plain ')'])))) :=
    (cuts_plain (by decide)).append ((cuts_plain (by decide)).append ((cuts_plain (by decide)).append
      (hps.append (cuts_plain (by decide)))))
  refine ⟨_, hcuts, fun n s tail first found hready => ?_⟩
  simp only [List.cons_append, List.nil_append, List.append_assoc] at hready
  obtain ⟨n, rfl⟩ := hready.exists_eq_add_one
  obtain ⟨n, rfl⟩ := hready.behind.exists_eq_add_one
  obtain ⟨n, rfl⟩ := hready.behind.behind.exists_eq_add_one
  obtain ⟨s', hready', heq⟩ := hread n _ (.plain ')' :: tail) hready.behind.behind.behind
    (fun p hp => .inr (Option.some.inj hp).symm) (by simp)
  refine ⟨n + 2, _, hready'.next.mono (by omega), run_readSequence_group hready ?_⟩
  rw [readGroup, run_bind_of_eq (run_readGroupStart hready.behind), run_bind_of_eq heq,
    run_bind_of_eq (run_expectClose hready')]
  rfl

/-- A group with a question mark behind it is an option. -/
theorem Reads.option {text : List Char} {items : List Item} (h : Reads text [⟨items, .plain⟩]) :
    ReadsBranch (text ++ ['?'])
      [⟨(sequenceOf items).1.repetition 0 (some 1) .greedy, repeatWidth (sequenceOf items).2 0 (some 1)⟩] := by
  obtain ⟨ps, hps, hread⟩ := h
  refine ⟨ps ++ [.plain '?'], hps.append (cuts_plain (by decide)), fun n s tail hready hcloses => ?_⟩
  obtain ⟨m, s', hready', heq⟩ := hread n s _ false [] (List.append_assoc .. ▸ hready)
  obtain ⟨m, rfl⟩ := hready'.exists_eq_add_one
  have hnext := hready'.behind
  have hne : ∀ c, c ≠ '|' → c ≠ ')' → (s'.behind (.plain '?') tail).rest.head? ≠ some (.plain c) := by
    intro c hbar hclose heq
    rcases hcloses _ heq with hp | hp
    · exact hbar (Piece.plain.inj hp)
    · exact hclose (Piece.plain.inj hp)
  have hgreedy : readAppetite.run (s'.behind (.plain '?') tail) = .ok (.greedy, s'.behind (.plain '?') tail) := by
    rw [readAppetite, run_bind_of_eq (run_accept_of_ne (hne '?' (by decide) (by decide))),
      if_neg Bool.false_ne_true, run_bind_of_eq (run_accept_of_ne (hne '+' (by decide) (by decide)))]
    rfl
  refine ⟨s'.behind (.plain '?') tail, hready.of_append hnext, ?_⟩
  have hrepeat : (repeatLast s'.pos 0 (some 1) [⟨items, .plain⟩]).run (s'.behind (.plain '?') tail) =
      .ok ([⟨[⟨(sequenceOf items).1.repetition 0 (some 1) .greedy,
        repeatWidth (sequenceOf items).2 0 (some 1)⟩], .repeated⟩], s'.behind (.plain '?') tail) := by
    rw [repeatLast, run_bind_of_eq hgreedy]
    rfl
  rw [heq, run_readSequence_of_ne hready' (by decide) (by decide), if_neg (by decide)]
  refine (run_bind_of_eq (rfl : (readQuantifier (.plain '?')).run _ = .ok (some (0, some 1), _))).trans ?_
  exact (run_bind_of_eq hrepeat).trans (run_readSequence_of_closes hnext hcloses)

/-- The characters that stand for themselves in a class only behind a backslash. -/
def isClassSign (c : Char) : Bool :=
  "[^\\-]".toList.contains c

/-- The test that a class of given characters is read back as. -/
def charsTest (chars : List Char) : CharTest :=
  match (chars.map fun c => ClassItem.code c.toNat).eraseDups with
  | [.code c] => .code c .exact false
  | items => .ofClass items .exact false

theorem pieceOf_isClassSign_ne {c d : Char} (hd : isClassSign d = true) : pieceOf isClassSign c ≠ .plain d := by
  unfold pieceOf
  split
  · exact Piece.noConfusion
  · rename_i hplain
    exact fun heq => hplain (Piece.plain.inj heq ▸ hd)

theorem isSign_of_isClassSign {c : Char} (h : isClassSign c = true) : IsSign c :=
  isSign_of_contains (by decide) h

theorem run_readClassItem (c : Char) (s : Source) :
    (readClassItem {} (pieceOf isClassSign c)).run s = .ok (.code c.toNat, s) := by
  unfold pieceOf
  split
  · rename_i hsign
    exact (isSign_of_isClassSign hsign).run_readClassEscape s
  · rfl

theorem run_readClassItems {chars : List Char} {n bound : Nat} {s : Source} {tail : List Piece}
    {found : List ClassItem} (opening : Nat) (h : Ready n s (chars.map (pieceOf isClassSign) ++ .plain ']' :: tail))
    (hbound : chars.length < bound) (hne : chars ≠ [] ∨ found ≠ []) :
    ∃ s', Ready n s' tail ∧ (readClassItems {} opening bound found).run s =
      .ok (found ++ chars.map (fun c => .code c.toNat), s') := by
  induction chars generalizing s bound found with
  | nil =>
      obtain ⟨bound, rfl⟩ := Nat.exists_eq_add_one.mpr hbound
      have hfound : found ≠ [] := hne.resolve_left (not_not_intro rfl)
      refine ⟨_, h.next, ?_⟩
      rw [readClassItems, run_bind_of_eq (run_take h.rest h.dangling)]
      simp [hfound]
      rfl
  | cons c rest ih =>
      rw [List.map_cons, List.cons_append] at h
      obtain ⟨bound, rfl⟩ := Nat.exists_eq_add_one.mpr (Nat.lt_of_le_of_lt (Nat.zero_le _) hbound)
      have hfound : found ++ [.code c.toNat] ≠ [] := by simp
      obtain ⟨s', hready, heq⟩ := ih h.next (Nat.lt_of_succ_lt_succ hbound) (.inr hfound)
      have hminus : (rest.map (pieceOf isClassSign) ++ .plain ']' :: tail).head? ≠ some (.plain '-') := by
        cases rest with
        | nil => simp
        | cons d rest => exact fun heq => pieceOf_isClassSign_ne rfl (Option.some.inj heq)
      refine ⟨s', hready, ?_⟩
      rw [readClassItems, run_bind_of_eq (run_take h.rest h.dangling)]
      have hclose : (pieceOf isClassSign c == .plain ']') = false := by
        simpa using pieceOf_isClassSign_ne rfl
      simp only [hclose, Bool.false_and, Bool.false_eq_true, if_false]
      rw [run_bind_of_eq (run_readClassItem c _),
        run_bind_of_eq (run_accept_of_ne (s := s.behind _ _) hminus), if_neg Bool.false_ne_true, heq]
      simp

theorem run_readClass {chars : List Char} {n : Nat} {s : Source} {tail : List Piece} (opening : Nat)
    (hne : chars ≠ []) (h : Ready n s (chars.map (pieceOf isClassSign) ++ .plain ']' :: tail)) :
    ∃ s', Ready n s' tail ∧ (readClass {} opening).run s = .ok (.ofTest (charsTest chars), s') := by
  have hcaret : s.rest.head? ≠ some (.plain '^') := by
    rw [h.rest]
    cases chars with
    | nil => simp
    | cons d rest => exact fun heq => pieceOf_isClassSign_ne rfl (Option.some.inj heq)
  have hbound : chars.length < s.rest.length + 1 := by
    rw [h.rest, List.length_append, List.length_map]
    omega
  have hchars : chars ≠ [] ∨ ([] : List ClassItem) ≠ [] := .inl hne
  obtain ⟨s', hready, heq⟩ := run_readClassItems opening h hbound hchars
  refine ⟨s', hready, ?_⟩
  rw [readClass, run_bind_of_eq (run_accept_of_ne hcaret), run_bind_of_eq (run_get _), run_bind_of_eq heq,
    List.nil_append, charsTest]
  generalize (chars.map fun c => ClassItem.code c.toNat).eraseDups = items
  match items with
  | [] | [.code _] | .code _ :: _ :: _ | .range _ _ :: _ | .kind _ _ _ :: _ => rfl

theorem reads_charSet {chars : List Char} (hne : chars ≠ []) :
    Reads (charSet chars) [.ofTest (charsTest chars)] := by
  have hcuts : Cuts (charSet chars) ([.plain '['] ++ (chars.map (pieceOf isClassSign) ++ [.plain ']'])) :=
    (cuts_plain (by decide)).append ((cuts_flatMap rfl chars).append (cuts_plain (by decide)))
  refine ⟨_, hcuts, fun n s tail first found hready => ?_⟩
  simp only [List.cons_append, List.nil_append, List.append_assoc] at hready
  obtain ⟨n, rfl⟩ := hready.exists_eq_add_one
  obtain ⟨s', hready', heq⟩ := run_readClass s.pos hne hready.behind
  exact ⟨n, s', hready', run_readSequence_atom hready (by decide) (by decide) (by decide) rfl heq⟩

end ModalHighlight.Pattern
