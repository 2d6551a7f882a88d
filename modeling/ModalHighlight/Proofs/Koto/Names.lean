import ModalHighlight.Proofs.Koto.Rules
import ModalHighlight.Proofs.Scan.Coverage
import ModalHighlight.Proofs.Scan.Literals

/-!
Reserved words and names.  A rule of reserved words takes the word characters that a text starts with, if they
are one of its words.  The characters of names are not all word characters, so a name can start with a reserved
word that ends where the name does not.  Every other name is one token, and so is every reserved word by itself.
-/

namespace ModalHighlight

namespace Pattern

/-- The pattern matches a text in full, in one of its ways. -/
def matchesWhole (pattern : Pattern) (chars : List Char) : Bool :=
  !pattern.traced &&
    (pattern.node.run chars.toArray ⟨0, []⟩ fun c => if c.pos = chars.length then some c else none).isSome

end Pattern

namespace Koto

open Pattern

/-- The pattern of names matches the text in full. -/
def IsIdentifier (s : String) : Prop :=
  ∃ pattern, Pattern.parse identifier = .ok pattern ∧ pattern.matchesWhole s.toList

/-- The characters are those of a name. -/
def isName : List Char → Bool
  | [] => false
  | first :: rest =>
      (CharTest.oneOf nameStart .exact false).holds first.toNat &&
        rest.all fun c => (CharTest.oneOf namePart .exact false).holds c.toNat

/-- The pattern of names is read here. -/
theorem parse_identifier :
    (match Pattern.parse identifier with
      | .ok pattern => !pattern.traced && decide (pattern.node = nameNode)
      | .error _ => false) = true := by
  decide +kernel

section

variable {first : Char} {rest : List Char} (h : isName (first :: rest))

include h

theorem testAt_of_isName : testAt (first :: rest).toArray (.oneOf nameStart .exact false) 0 = true := by
  obtain ⟨hfirst, _⟩ := (Bool.and_eq_true _ _).mp h
  rwa [testAt_of_getElem? (show (first :: rest).toArray[0]? = some first from rfl)]

theorem reaches_of_isName : nameNode.Reaches (first :: rest).toArray 0 (first :: rest).length := by
  obtain ⟨_, hrest⟩ := (Bool.and_eq_true _ _).mp h
  have hdrop : (first :: rest).toArray.toList.drop 1 = rest ++ [] := (List.append_nil rest).symm
  have hcount : countWhile (first :: rest).toArray (.oneOf namePart .exact false)
      (repeatLimit none ((first :: rest).toArray.size - 1)) 1 = rest.length :=
    countWhile_of_drop hdrop (List.all_eq_true.mp hrest) (by simp) (by simp [repeatLimit])
  have hreaches := (Node.Reaches.char (testAt_of_isName h)).cat (.repeatChar hcount (Nat.zero_le _))
  rwa [Nat.add_comm, ← List.length_cons] at hreaches

/-- No colon follows a name that ends with the text. -/
theorem member_fails_of_isName : memberNode.Fails (first :: rest).toArray 0 := by
  obtain ⟨_, hrest⟩ := (Bool.and_eq_true _ _).mp h
  refine .cat_char (.cat_repeatChar fun i _ _ => .look_ahead (.char (Bool.eq_false_iff.mpr fun hcolon => ?_)))
  have hget : rest[i]? = some ':' := by
    have hcolon := testAt_code_iff.mp hcolon
    rwa [Nat.zero_add, Nat.add_comm, List.getElem?_toArray, List.getElem?_cons_succ] at hcolon
  have hholds := List.all_eq_true.mp hrest ':' (List.mem_of_getElem? hget)
  exact absurd hholds (by decide)

end

/-- A text that the node of names matches in full is a name. -/
theorem isName_of_run {chars : List Char} {answer : Cursor}
    (h : nameNode.run chars.toArray ⟨0, []⟩ (fun c => if c.pos = chars.length then some c else none) =
      some answer) : isName chars := by
  simp only [nameNode, nameRest, Node.run, runRepeatedChar, Nat.not_lt_zero, if_false] at h
  split at h
  · rename_i hstart
    obtain ⟨i, hi, hfound⟩ := Node.exists_of_tryDown h
    have hend : chars.length = i + 1 := by
      by_contra hne
      simp [Cursor.moveTo, Nat.add_comm 1 i, Ne.symm hne] at hfound
    obtain ⟨first, rest, rfl⟩ := List.exists_cons_of_length_eq_add_one hend
    refine (Bool.and_eq_true _ _).mpr ⟨by simpa [testAt] using hstart, List.all_eq_true.mpr fun c hc => ?_⟩
    obtain ⟨j, hj, rfl⟩ := List.getElem_of_mem hc
    have hlt : j < i := Nat.lt_of_lt_of_eq hj (Nat.succ.inj hend)
    have htest := testAt_of_lt_countWhile (Nat.lt_of_lt_of_le hlt hi)
    have hget : (first :: rest).toArray[1 + j]? = some rest[j] := by simp [Nat.add_comm 1 j, hj]
    rwa [Cursor.pos_moveTo, testAt_of_getElem? hget] at htest
  · cases h

theorem isIdentifier_iff {s : String} : IsIdentifier s ↔ isName s.toList := by
  have hparse := parse_identifier
  constructor
  · rintro ⟨pattern, hpattern, hmatch⟩
    rw [hpattern] at hparse
    simp only [Bool.and_eq_true, decide_eq_true_eq] at hparse
    simp only [Pattern.matchesWhole, hparse.2, Bool.and_eq_true] at hmatch
    obtain ⟨answer, hanswer⟩ := Option.isSome_iff_exists.mp hmatch.2
    exact isName_of_run hanswer
  · intro hname
    split at hparse
    · rename_i pattern hpattern
      simp only [Bool.and_eq_true, Bool.not_eq_true', decide_eq_true_eq] at hparse
      refine ⟨pattern, hpattern, ?_⟩
      cases hchars : s.toList with
      | nil => simp [hchars, isName] at hname
      | cons first rest =>
          rw [hchars] at hname
          have hrun := reaches_of_isName hname []
            (fun c => if c.pos = (first :: rest).length then some c else none) _ (if_pos rfl)
          simp only [Pattern.matchesWhole, hparse, hrun]
          rfl
    · cases hparse

instance (s : String) : Decidable (IsIdentifier s) :=
  decidable_of_iff (isName s.toList) isIdentifier_iff.symm

/-- The reserved words of a dialect. -/
def Dialect.reservedWords (d : Dialect) : List String :=
  d.wordClasses.flatMap (·.words)

/-- No word is reserved twice, and all reserved words are names of word characters. -/
theorem reservedWords_of_mem_registered {d : Dialect} (h : d ∈ Dialect.registered) :
    d.reservedWords.Nodup ∧ ∀ word ∈ d.reservedWords, IsWord word.toList ∧ isName word.toList := by
  simp only [Dialect.registered, List.mem_cons, List.not_mem_nil, or_false] at h
  rcases h with rfl | rfl | rfl <;> decide +kernel

/-- The first of some classes that has a word. -/
def classOf? (classes : List WordClass) (word : List Char) : Option WordClass :=
  classes.find? fun c => decide (word ∈ c.words.map String.toList)

/-- What a rule that wins makes of a text: its kinds, its transition, and where its match ends. -/
def outcome (found : CompiledRule × Match) : List String × Transition × Nat :=
  (found.1.kinds, found.1.transition, found.2.stop)

section

variable {d : Dialect} {first : Char} {rest : List Char} (hname : isName (first :: rest))

include hname

/-- Rules that take words and names take the word that the text starts with, if it is one of theirs, and else
the whole name. -/
theorem firstMatch_of_takesNames {classes : List WordClass} {rules : List CompiledRule}
    (h : takesNames d classes rules) (hwords : ∀ c ∈ classes, ∀ word ∈ c.words, IsWord word.toList) :
    (firstMatch rules (first :: rest).toArray 0).map outcome =
      some (match classOf? classes (headWord (first :: rest)) with
        | some c => ([c.kind], c.transition, (headWord (first :: rest)).length)
        | none => ([TokenKind.identifier], .stay, (first :: rest).length)) := by
  fun_induction takesNames d classes rules with
  | case1 c classes r rules ih =>
      obtain ⟨htakes, hmore⟩ := (Bool.and_eq_true _ _).mp h
      obtain ⟨hc, hclasses⟩ := List.forall_mem_cons.mp hwords
      simp only [takesWords, Bool.and_eq_true, decide_eq_true_eq] at htakes
      obtain ⟨⟨hkinds, htransition⟩, hmatches⟩ := htakes
      have hmatch := matchAt_of_matchesWholeWords hmatches (List.forall_mem_map.mpr hc) (first :: rest)
      by_cases hmem : headWord (first :: rest) ∈ c.words.map String.toList
      · rw [if_pos hmem, Option.map_eq_some_iff] at hmatch
        obtain ⟨m, hmatch, hstop⟩ := hmatch
        have hclass : classOf? (c :: classes) (headWord (first :: rest)) = some c :=
          List.find?_cons_of_pos (decide_eq_true hmem)
        rw [firstMatch, List.findSome?_cons, hmatch, hclass]
        simp [outcome, hkinds, htransition, hstop]
      · rw [if_neg hmem, Option.map_eq_none_iff] at hmatch
        have hclass : classOf? (c :: classes) (headWord (first :: rest)) =
            classOf? classes (headWord (first :: rest)) :=
          List.find?_cons_of_neg fun hhas => hmem (of_decide_eq_true hhas)
        rw [firstMatch, List.findSome?_cons, hmatch, hclass]
        exact ih hmore hclasses
  | case2 member name =>
      simp only [Bool.and_eq_true, decide_eq_true_eq] at h
      obtain ⟨⟨_, _, hmember, hmemberNode⟩, hkinds, htransition, htraced, hnode⟩ := h
      have hfails := matchAt_of_fails hmember (hmemberNode ▸ member_fails_of_isName hname)
      have hreaches := matchAt_of_reaches htraced (hnode ▸ reaches_of_isName hname)
      have hclass : classOf? [] (headWord (first :: rest)) = none := rfl
      simp only [firstMatch, List.findSome?_cons, hfails, hreaches, hclass]
      simp [outcome, hkinds, htransition]
  | case3 => cases h

end

theorem Dialect.Reads.firstMatch_name {d : Dialect} {g : CompiledGrammar} {start : Mode} (h : d.Reads g start)
    (hd : d ∈ Dialect.registered) {chars : List Char} (hname : isName chars) :
    (firstMatch start.rules chars.toArray 0).map outcome =
      some (match classOf? d.wordClasses (headWord chars) with
        | some c => ([c.kind], c.transition, (headWord chars).length)
        | none => ([TokenKind.identifier], .stay, chars.length)) := by
  match chars, hname with
  | first :: rest, hname =>
      have hwords : ∀ c ∈ d.wordClasses, ∀ word ∈ c.words, IsWord word.toList := by
        intro c hc word hword
        exact ((reservedWords_of_mem_registered hd).2 word (List.mem_flatMap.mpr ⟨c, hc, hword⟩)).1
      rw [← firstMatch_of_takesNames hname h.code.names hwords]
      refine congrArg (Option.map outcome) (firstMatch_filter fun r _ havoids => ?_).symm
      have hbegin : nameStart.any (·.holdsExactly first.toNat) = true := by
        simpa [CharTest.holds] using (Bool.and_eq_true _ _).mp hname |>.1
      exact matchAt_of_canBegin_eq_false rfl (canBegin_of_avoids (by simpa using havoids) hbegin)

/-- A reserved word is found in its class. -/
theorem classOf?_eq_some {classes : List WordClass} (hnodup : (classes.flatMap (·.words)).Nodup)
    {c : WordClass} (hc : c ∈ classes) {word : String} (hword : word ∈ c.words) :
    classOf? classes word.toList = some c := by
  induction classes with
  | nil => cases hc
  | cons other rest ih =>
      rw [List.flatMap_cons, List.nodup_append] at hnodup
      obtain ⟨_, hrest, hapart⟩ := hnodup
      rcases List.mem_cons.mp hc with rfl | hmem
      · exact List.find?_cons_of_pos (decide_eq_true (List.mem_map_of_mem hword))
      · refine (List.find?_cons_of_neg fun hother => ?_).trans (ih hrest hmem)
        obtain ⟨same, hsame, heq⟩ := List.mem_map.mp (of_decide_eq_true hother)
        exact hapart same hsame word (List.mem_flatMap.mpr ⟨c, hmem, hword⟩) (String.toList_inj.mp heq)

/-- The word that a text starts with. -/
def firstWord (s : String) : String :=
  String.ofList (headWord s.toList)

section

variable {d : Dialect} {g : CompiledGrammar} {start : Mode} (h : d.Reads g start) {s : String} {kind : String}
  {transition : Transition}

include h

/-- A scan that begins with a match of one kind. -/
theorem Dialect.Reads.scanLine_eq {taken more : List Char} (hs : s.toList = taken ++ more) (htaken : taken ≠ [])
    (hfirst : (firstMatch start.rules s.toList.toArray 0).map outcome = some ([kind], transition, taken.length)) :
    scanLine g s initialStack =
      (piecesFrom g s.toList.toArray taken.length (OpenModes.start.apply transition)).map
        (resultAfter [⟨.name kind, 0, taken.length, String.ofList taken⟩] none) := by
  obtain ⟨⟨r, m⟩, hfirst, hsame⟩ := Option.map_eq_some_iff.mp hfirst
  obtain ⟨hkinds, htransition, hstop⟩ : r.kinds = [kind] ∧ r.transition = transition ∧ m.stop = taken.length := by
    simpa [outcome] using hsame
  have hrest : s.toList.toArray.toList.drop 0 = taken ++ more := hs
  have hwhole := isBroken_of_firstMatch h.untraced hfirst (Nat.zero_le _)
  rw [scanLine_initialStack h.start_eq, result_of_firstMatch h.start_eq hfirst hwhole hkinds htaken hrest
    (hstop.trans (Nat.zero_add _).symm), htransition, Nat.zero_add]
  rfl

/-- A text that is matched as a whole is one token. -/
theorem Dialect.Reads.scanLine_whole (hs : s.toList ≠ [])
    (hfirst : (firstMatch start.rules s.toList.toArray 0).map outcome = some ([kind], transition, s.toList.length)) :
    scanLine g s initialStack =
      .ok ⟨[⟨.name kind, 0, s.length, s⟩], (OpenModes.start.apply transition).stack⟩ := by
  rw [h.scanLine_eq (List.append_nil _).symm hs hfirst, result_of_drop_eq_nil List.drop_length,
    String.ofList_toList, String.length_toList]

/-- Tokens up to a place before the end of a line are not all of its tokens. -/
theorem Dialect.Reads.exists_more_tokens {taken more : List Char} (hs : s.toList = taken ++ more)
    (htaken : taken ≠ []) (hmore : more ≠ [])
    (hfirst : (firstMatch start.rules s.toList.toArray 0).map outcome = some ([kind], transition, taken.length)) :
    ∃ rest stack, rest ≠ [] ∧
      scanLine g s initialStack =
        .ok ⟨⟨.name kind, 0, taken.length, String.ofList taken⟩ :: rest, stack⟩ := by
  obtain ⟨result, hresult⟩ := h.scans s initialStack
  have hscan := h.scanLine_eq hs htaken hfirst
  cases hpieces : piecesFrom g s.toList.toArray taken.length (OpenModes.start.apply transition) with
  | error e =>
      rw [hscan, hpieces] at hresult
      cases hresult
  | ok found =>
      rw [hpieces] at hscan
      refine ⟨joinAfter none found.1, found.2.stack, fun hnil => ?_, hscan⟩
      obtain ⟨_, _, _, hend⟩ : Tiles _ _ (_ :: joinAfter none found.1) _ := tiles_of_scanLine hscan
      rw [hnil, hs, List.length_append] at hend
      have hlength : taken.length = taken.length + more.length := hend
      have hpos := List.length_pos_iff.mpr hmore
      omega

end

/-- In every registered dialect each reserved word by itself is one token of its class.  A name that is not
reserved is one token too, unless the word characters that it starts with are a reserved word: then it is split
behind this word. -/
theorem scanLine_tells_words_from_names {d : Dialect} (hd : d ∈ Dialect.registered) :
    ∃ g, (Dialect.ofName? d.name).map grammar = some (.ok g) ∧
      (∀ c ∈ d.wordClasses, ∀ word ∈ c.words, ∃ stack,
        scanLine g word initialStack = .ok ⟨[⟨.name c.kind, 0, word.length, word⟩], stack⟩) ∧
      ∀ s, IsIdentifier s → s ∉ d.reservedWords →
        (firstWord s ∉ d.reservedWords →
          scanLine g s initialStack = .ok ⟨[⟨.name TokenKind.identifier, 0, s.length, s⟩], initialStack⟩) ∧
        ∀ c ∈ d.wordClasses, firstWord s ∈ c.words → ∃ rest stack, rest ≠ [] ∧
          scanLine g s initialStack =
            .ok ⟨⟨.name c.kind, 0, (firstWord s).length, firstWord s⟩ :: rest, stack⟩ := by
  obtain ⟨g, start, hreads⟩ := exists_reads hd
  obtain ⟨hnodup, hwords⟩ := reservedWords_of_mem_registered hd
  refine ⟨g, by rw [Dialect.ofName?_name hd, Option.map_some, hreads.compiles], ?_, ?_⟩
  · intro c hc word hword
    obtain ⟨hchars, hname⟩ := hwords word (List.mem_flatMap.mpr ⟨c, hc, hword⟩)
    have hfirst := hreads.firstMatch_name hd hname
    rw [headWord_eq_self hchars.2, classOf?_eq_some hnodup hc hword] at hfirst
    exact ⟨_, hreads.scanLine_whole hchars.1 hfirst⟩
  · intro s hs hreserved
    have hname := isIdentifier_iff.mp hs
    have hfirst := hreads.firstMatch_name hd hname
    constructor
    · intro hnone
      have hclass : classOf? d.wordClasses (headWord s.toList) = none := by
        refine List.find?_eq_none.mpr fun c hc hhas => hnone ?_
        obtain ⟨word, hword, heq⟩ := List.mem_map.mp (of_decide_eq_true hhas)
        rw [firstWord, ← heq, String.ofList_toList]
        exact List.mem_flatMap.mpr ⟨c, hc, hword⟩
      rw [hclass] at hfirst
      exact hreads.scanLine_whole (fun hnil => by rw [hnil] at hname; cases hname) hfirst
    · intro c hc hword
      have hclass := classOf?_eq_some hnodup hc hword
      have hchars := (hwords _ (List.mem_flatMap.mpr ⟨c, hc, hword⟩)).1.1
      rw [firstWord, String.toList_ofList] at hclass hchars
      obtain ⟨more, hmore⟩ := headWord_prefix_self s.toList
      have hrest : more ≠ [] := by
        rintro rfl
        rw [List.append_nil] at hmore
        refine hreserved (List.mem_flatMap.mpr ⟨c, hc, ?_⟩)
        rwa [firstWord, hmore, String.ofList_toList] at hword
      rw [hclass] at hfirst
      rw [firstWord, String.length_ofList]
      exact hreads.exists_more_tokens hmore.symm hchars hrest hfirst

namespace NamesWitness

/-- A name that starts with a reserved word, and whose accent is a character of its own. -/
def accented : String := "in\u0303"

/-- A reserved word, a longer name that is made of word characters, and one that is split behind a word. -/
theorem word_name_and_split_name :
    Dialect.standard ∈ Dialect.registered ∧
      ∃ g, (Dialect.ofName? "default").map grammar = some (.ok g) ∧
        (∃ stack, scanLine g "let" initialStack = .ok ⟨[⟨.name TokenKind.control, 0, 3, "let"⟩], stack⟩) ∧
        scanLine g "inner" initialStack = .ok ⟨[⟨.name TokenKind.identifier, 0, 5, "inner"⟩], ["start"]⟩ ∧
        ∃ rest stack, rest ≠ [] ∧
          scanLine g accented initialStack = .ok ⟨⟨.name TokenKind.control, 0, 2, "in"⟩ :: rest, stack⟩ := by
  have hd : Dialect.standard ∈ Dialect.registered := by decide
  obtain ⟨g, hg, hwords, hnames⟩ := scanLine_tells_words_from_names hd
  have hlet : WordClass.mk TokenKind.control ["let"] (.push "#let/0") ∈ Dialect.standard.wordClasses := by
    decide +kernel
  have hin : WordClass.mk TokenKind.control controlWords .stay ∈ Dialect.standard.wordClasses := by
    decide +kernel
  have hinner : IsIdentifier "inner" ∧ "inner" ∉ Dialect.standard.reservedWords ∧
      firstWord "inner" ∉ Dialect.standard.reservedWords := by decide +kernel
  have haccented : IsIdentifier accented ∧ accented ∉ Dialect.standard.reservedWords ∧
      firstWord accented = "in" ∧ "in" ∈ controlWords := by decide +kernel
  obtain ⟨hname, hreserved, hfirst, hmem⟩ := haccented
  have hsplit := (hnames accented hname hreserved).2 _ hin (hfirst ▸ hmem)
  rw [hfirst] at hsplit
  exact ⟨hd, g, hg, hwords _ hlet "let" List.mem_cons_self, (hnames "inner" hinner.1 hinner.2.1).1 hinner.2.2,
    hsplit⟩

end NamesWitness

end Koto

end ModalHighlight
