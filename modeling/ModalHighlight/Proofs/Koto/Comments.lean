import ModalHighlight.Proofs.Koto.Rules
import ModalHighlight.Proofs.Scan.Literals
import ModalHighlight.Proofs.Scan.MatchGroups

/-!
Block comments over lines.  How many comments are open can be counted from left to right: an escape takes two
characters, an end of a comment counts down, and, where comments nest, a start counts up.  The modes of a scan
that starts inside comments follow this count, over any number of lines, until it comes to nothing; all that is
read up to there is comment.
-/

namespace ModalHighlight.Koto

open Pattern ScanState

/-- How comments stand behind a line: so many are open, or the last of them was closed before an offset. -/
inductive LineDepth
  | inside (depth : Nat)
  | closed (offset : Nat)
deriving Repr, DecidableEq

/-- How comments stand behind lines: so many are open, or the last of them was closed in a row before an
offset. -/
inductive LinesDepth
  | inside (depth : Nat)
  | closed (row offset : Nat)
deriving Repr, DecidableEq

/-- The same with a line in front. -/
def LinesDepth.later : LinesDepth → LinesDepth
  | inside depth => inside depth
  | closed row offset => closed (row + 1) offset

/-- Counts open comments from a position of a line on. -/
def countInLine (nested : Bool) : Nat → Nat → List Char → LineDepth
  | depth, _, [] => .inside depth
  | depth, _, [_] => .inside depth
  | depth, pos, c :: d :: rest =>
      if c = '\\' then countInLine nested depth (pos + 2) rest
      else if c = '-' ∧ d = '#' then
        if depth = 1 then .closed (pos + 2) else countInLine nested (depth - 1) (pos + 2) rest
      else if nested ∧ c = '#' ∧ d = '-' then countInLine nested (depth + 1) (pos + 2) rest
      else countInLine nested depth (pos + 1) (d :: rest)

/-- Counts open comments over lines. -/
def countInLines (nested : Bool) : Nat → List String → LinesDepth
  | depth, [] => .inside depth
  | depth, line :: rest =>
      match countInLine nested depth 0 line.toList with
      | .inside depth => (countInLines nested depth rest).later
      | .closed offset => .closed 0 offset

/-- A token of comment text or of an escape in it. -/
def IsComment (t : Token) : Prop :=
  t.kind = .name TokenKind.blockComment ∨ t.kind = .name TokenKind.escape

/-- The stack inside a number of comments. -/
def commentStack (depth : Nat) : ModeStack :=
  startName :: List.replicate depth commentMode

/-- The open modes inside a number of comments. -/
def commentModes : Nat → OpenModes
  | 0 => .start
  | depth + 1 => (commentModes depth).push commentMode

theorem stack_commentModes (depth : Nat) : (commentModes depth).stack = commentStack depth := by
  induction depth with
  | zero => rfl
  | succ depth ih =>
      rw [commentModes, OpenModes.stack_push, ih, commentStack, commentStack, List.replicate_succ',
        List.cons_append]

/-- The token of the end of a comment before an offset. -/
def closingToken (offset : Nat) : Token :=
  ⟨.name TokenKind.blockComment, offset - 2, offset, "-#"⟩

section

variable {text : Array Char} {pos : Nat} {c d : Char}

theorem testAt_char (hc : text[pos]? = some c) (code : Char) :
    testAt text (.code code.toNat .exact false) pos = decide (c = code) := by
  rw [Bool.eq_iff_iff, testAt_code_iff, hc, Option.some_inj, decide_eq_true_eq]

/-- A pattern of two characters matches where they stand. -/
theorem matchAt_pair (source : String) (groupCount : Nat) (first second : CharTest) :
    Pattern.matchAt ⟨source, .cat (.char first) (.char second), groupCount, false⟩ text pos =
      if testAt text first pos && testAt text second (pos + 1) then some ⟨pos + 2, []⟩ else none := by
  split
  · rename_i hboth
    obtain ⟨hfirst, hsecond⟩ := (Bool.and_eq_true _ _).mp hboth
    exact matchAt_of_reaches rfl ((Node.Reaches.char hfirst).cat (.char hsecond))
  · rename_i hnot
    rw [Bool.and_eq_true, not_and_or, Bool.not_eq_true, Bool.not_eq_true] at hnot
    refine matchAt_of_fails rfl ?_
    rcases hnot with hfirst | hsecond
    · exact (Node.Fails.char hfirst).cat_first
    · exact (Node.Fails.char hsecond).cat_char

theorem matchAt_chars (hc : text[pos]? = some c) (hd : text[pos + 1]? = some d) (source : String)
    (groupCount : Nat) (first second : Char) :
    Pattern.matchAt ⟨source, .cat (.ofChar first) (.ofChar second), groupCount, false⟩ text pos =
      if c = first ∧ d = second then some ⟨pos + 2, []⟩ else none := by
  rw [Node.ofChar, Node.ofChar, matchAt_pair, testAt_char hc, testAt_char hd, ← Bool.decide_and]
  simp only [decide_eq_true_eq]

theorem matchAt_char_any (hc : text[pos]? = some c) (hd : text[pos + 1]? = some d) (hline : d ≠ '\n')
    (source : String) (groupCount : Nat) (first : Char) :
    Pattern.matchAt ⟨source, .cat (.ofChar first) (.char .notNewline), groupCount, false⟩ text pos =
      if c = first then some ⟨pos + 2, []⟩ else none := by
  have hsecond : testAt text .notNewline (pos + 1) = true := by
    rw [testAt_of_getElem? hd]
    exact bne_iff_ne.mpr fun heq => hline (Char.toNat_inj.mp heq)
  rw [Node.ofChar, matchAt_pair, testAt_char hc, hsecond, Bool.and_true]
  simp only [decide_eq_true_eq]

/-- What two characters inside a comment are taken as together. -/
def pair? (nested : Bool) (c d : Char) : Option (String × Transition) :=
  if c = '\\' then some (TokenKind.escape, .stay)
  else if c = '-' ∧ d = '#' then some (TokenKind.blockComment, .pop)
  else if nested ∧ c = '#' ∧ d = '-' then some (TokenKind.blockComment, .push commentMode)
  else none

theorem firstMatch_commentRules (nested : Bool) (hc : text[pos]? = some c) (hd : text[pos + 1]? = some d)
    (hline : d ≠ '\n') :
    (firstMatch (commentRules nested) text pos).map (fun found =>
        (found.1.kinds, found.1.transition, found.2.stop)) =
      (pair? nested c d).map fun taken => ([taken.1], taken.2, pos + 2) := by
  -- the three pairs begin differently, so the order of the rules does not matter
  cases nested <;>
    simp only [commentRules, firstMatch, if_true, Bool.false_eq_true, if_false, List.cons_append,
      List.nil_append, List.findSome?_cons, List.findSome?_nil, matchAt_chars hc hd,
      matchAt_char_any hc hd hline, pair?] <;>
    split_ifs <;> simp_all

/-- The last character of a line is left. -/
theorem firstMatch_commentRules_last (nested : Bool) (hend : text[pos + 1]? = none) :
    firstMatch (commentRules nested) text pos = none := by
  have hnone : ∀ test, testAt text test (pos + 1) = false := fun test => by simp [testAt, hend]
  cases nested <;> simp [commentRules, firstMatch, Node.ofChar, matchAt_pair, hnone]

end

/-- A scan inside a number of comments has read nothing but comment so far. -/
structure InsideComments (s : ScanState) (depth : Nat) : Prop where
  modes_eq : s.modes = commentModes depth
  tokens : ∀ t ∈ s.tokens.toList, IsComment t

/-- A scan that has just closed the last comment before an offset. -/
structure OutOfComments (s : ScanState) (offset : Nat) : Prop where
  pos_eq : s.pos = offset
  run_eq : s.run = none
  modes_eq : s.modes = .start
  tokens_eq : ∃ before, s.tokens.toList = before ++ [closingToken offset] ∧ ∀ t ∈ before, IsComment t

/-- A scan goes as the count says: to the end of the line inside comments, or out of them. -/
def Follows (g : CompiledGrammar) (text : Array Char) (s : ScanState) : LineDepth → Prop
  | .inside inner => 0 < inner ∧ ∃ t, Passes g text s t ∧ text.size ≤ t.pos ∧ InsideComments t inner
  | .closed offset => ∃ t, Passes g text s t ∧ OutOfComments t offset

theorem Follows.head {g : CompiledGrammar} {text : Array Char} {s t : ScanState} {count : LineDepth}
    (hadvance : Advance g text s t) (h : Follows g text t count) : Follows g text s count := by
  cases count with
  | inside inner =>
      obtain ⟨hinner, u, hpasses, hu⟩ := h
      exact ⟨hinner, u, .head hadvance hpasses, hu⟩
  | closed offset =>
      obtain ⟨u, hpasses, hu⟩ := h
      exact ⟨u, .head hadvance hpasses, hu⟩

section

variable {g : CompiledGrammar} {text : Array Char} {s : ScanState} {nested : Bool} {depth : Nat}

/-- Text that is left inside a comment becomes comment. -/
theorem InsideComments.flushAs (hs : InsideComments s depth) (text : Array Char) :
    ∀ t ∈ (s.flushAs text (.name TokenKind.blockComment)).tokens.toList, IsComment t := by
  unfold ScanState.flushAs
  split
  · exact hs.tokens
  · intro t ht
    rw [addToken_append, List.mem_append] at ht
    rcases ht with hbefore | hadded
    · exact hs.tokens t hbefore
    · unfold addToken at hadded
      split at hadded
      · obtain rfl := List.mem_singleton.mp hadded
        exact Or.inl rfl
      · cases hadded

variable (hmode : g.mode? commentMode =
  some ⟨commentMode, commentRules nested, some TokenKind.blockComment⟩)

include hmode

theorem InsideComments.mode?_top (hs : InsideComments s (depth + 1)) :
    g.mode? s.modes.top = some ⟨commentMode, commentRules nested, some TokenKind.blockComment⟩ := by
  rw [hs.modes_eq]
  exact hmode

/-- A character by itself is left. -/
theorem InsideComments.skip (hs : InsideComments s (depth + 1)) (hpos : s.pos < text.size)
    (hnone : firstMatch (commentRules nested) text s.pos = none) :
    Advance g text s s.skip ∧ InsideComments s.skip (depth + 1) :=
  ⟨⟨hpos, .skip (hs.mode?_top hmode) hnone⟩, hs.modes_eq, hs.tokens⟩

variable {c d : Char} {rest : List Char} (hrest : text.toList.drop s.pos = c :: d :: rest)
  (hline : d ≠ '\n') {kind : String} {transition : Transition}
  (hpair : pair? nested c d = some (kind, transition))

include hrest hline hpair

/-- Two characters that are taken together become one token, and change the open modes as they ask. -/
theorem InsideComments.exists_advance_pair (hs : InsideComments s (depth + 1)) :
    ∃ t before, Advance g text s t ∧ t.pos = s.pos + 2 ∧ t.run = none ∧
      t.modes = (commentModes (depth + 1)).apply transition ∧
      t.tokens.toList = before ++ [⟨.name kind, s.pos, s.pos + 2, String.ofList [c, d]⟩] ∧
      ∀ u ∈ before, IsComment u := by
  have hc : text[s.pos]? = some c := getElem?_of_drop hrest
  have hd : text[s.pos + 1]? = some d := getElem?_add_of_drop hrest 1
  have hpos : s.pos < text.size := (Array.getElem?_eq_some_iff.mp hc).1
  have hfirst := firstMatch_commentRules nested hc hd hline
  rw [hpair, Option.map_some, Option.map_eq_some_iff] at hfirst
  obtain ⟨⟨r, m⟩, hfirst, hsame⟩ := hfirst
  obtain ⟨hkinds, htransition, hstop⟩ : r.kinds = [kind] ∧ r.transition = transition ∧ m.stop = s.pos + 2 := by
    simpa using hsame
  have huntraced : ∀ r ∈ commentRules nested, r.pattern.traced = false := by
    cases nested <;> decide
  have hwhole := isBroken_of_firstMatch huntraced hfirst (Nat.le_of_lt hpos)
  have hmoves : m.stop ≠ s.pos := by omega
  refine ⟨s.accept text (.name TokenKind.blockComment) r m, _,
    ⟨hpos, .accept ⟨hs.mode?_top hmode, hfirst, hwhole⟩⟩, ?_, ?_, ?_, ?_, hs.flushAs text⟩
  · rw [accept_pos, if_neg hmoves, hstop]
  · rw [accept_run, if_neg hmoves]
  · rw [accept_modes, htransition, hs.modes_eq]
  · have htoken : Token.ofSlice text (.name kind) s.pos (s.pos + 2) =
        ⟨.name kind, s.pos, s.pos + 2, String.ofList [c, d]⟩ :=
      ofSlice_eq (show _ = [c, d] ++ rest from hrest) (.name kind)
    rw [accept_tokens, addMatch_append, addMatch_of_kinds_eq hkinds (by omega), hstop, htoken]

/-- Behind a pair that leaves comments open the scan goes on as the count does. -/
theorem InsideComments.follows_pair (hs : InsideComments s (depth + 1))
    (hkind : kind = TokenKind.blockComment ∨ kind = TokenKind.escape) {inner : Nat}
    (hopened : (commentModes (depth + 1)).apply transition = commentModes inner) {count : LineDepth}
    (hfollows : ∀ t, InsideComments t inner → t.pos = s.pos + 2 → text.toList.drop (s.pos + 2) = rest →
      Follows g text t count) : Follows g text s count := by
  obtain ⟨t, before, hadvance, hpos, _, hmodes, htokens, hbefore⟩ :=
    hs.exists_advance_pair hmode hrest hline hpair
  have ht : InsideComments t inner := by
    refine ⟨hmodes.trans hopened, fun u hu => ?_⟩
    rw [htokens, List.mem_append, List.mem_singleton] at hu
    rcases hu with hu | rfl
    · exact hbefore u hu
    · exact hkind.imp (congrArg Kind.name) (congrArg Kind.name)
  exact (hfollows t ht hpos (drop_add (show _ = [c, d] ++ rest from hrest))).head hadvance

omit hrest hline hpair

/-- The end of the last comment leads out of all comments. -/
theorem InsideComments.exists_advance_closing (hs : InsideComments s 1)
    (hrest : text.toList.drop s.pos = '-' :: '#' :: rest) :
    ∃ t, Advance g text s t ∧ OutOfComments t (s.pos + 2) := by
  obtain ⟨t, before, hadvance, hpos, hrun, hmodes, htokens, hbefore⟩ :=
    hs.exists_advance_pair hmode hrest (by decide) rfl
  exact ⟨t, hadvance, hpos, hrun, hmodes, before, htokens, hbefore⟩

/-- The scan of a line follows the count, to the end of the line or out of all comments. -/
theorem InsideComments.follows {pos : Nat} {chars : List Char} (hs : InsideComments s depth)
    (hdepth : 0 < depth) (hpos : s.pos = pos) (hrest : text.toList.drop pos = chars)
    (hline : ∀ c ∈ chars, c ≠ '\n') : Follows g text s (countInLine nested depth pos chars) := by
  fun_induction countInLine nested depth pos chars generalizing s with
  | case1 depth pos =>
      have hend := List.drop_eq_nil_iff.mp hrest
      exact ⟨hdepth, s, .refl, hpos ▸ hend, hs⟩
  | case2 depth pos c =>
      obtain ⟨around, rfl⟩ := Nat.exists_eq_add_one.mpr hdepth
      subst hpos
      have hlast : text[s.pos + 1]? = none := getElem?_add_of_drop hrest 1
      have hlt : s.pos < text.size := (Array.getElem?_eq_some_iff.mp (getElem?_of_drop hrest)).1
      obtain ⟨hadvance, hskip⟩ := hs.skip hmode hlt (firstMatch_commentRules_last nested hlast)
      exact ⟨hdepth, s.skip, .single hadvance, Array.getElem?_eq_none_iff.mp hlast, hskip⟩
  | case3 depth pos d rest ih =>
      obtain ⟨around, rfl⟩ := Nat.exists_eq_add_one.mpr hdepth
      subst hpos
      obtain ⟨hd, hmore⟩ := List.forall_mem_cons.mp (List.forall_mem_cons.mp hline).2
      have hpair : pair? nested '\\' d = some (TokenKind.escape, .stay) := if_pos rfl
      exact hs.follows_pair hmode hrest hd hpair (Or.inr rfl) rfl fun t ht hpos hnext =>
        ih ht hdepth hpos hnext hmore
  | case4 pos c d rest hescape hclose =>
      obtain ⟨rfl, rfl⟩ := hclose
      subst hpos
      obtain ⟨t, hadvance, ht⟩ := hs.exists_advance_closing hmode hrest
      exact ⟨t, .single hadvance, ht⟩
  | case5 depth pos c d rest hescape hclose hlast ih =>
      obtain ⟨around, rfl⟩ : ∃ around, depth = around + 2 := ⟨depth - 2, by omega⟩
      obtain ⟨rfl, rfl⟩ := hclose
      subst hpos
      obtain ⟨hd, hmore⟩ := List.forall_mem_cons.mp (List.forall_mem_cons.mp hline).2
      exact hs.follows_pair hmode hrest hd rfl (Or.inl rfl) rfl fun t ht hpos hnext =>
        ih ht (Nat.succ_pos _) hpos hnext hmore
  | case6 depth pos c d rest hescape hclose hopen ih =>
      obtain ⟨around, rfl⟩ := Nat.exists_eq_add_one.mpr hdepth
      obtain ⟨rfl, rfl, rfl⟩ := hopen
      subst hpos
      obtain ⟨hd, hmore⟩ := List.forall_mem_cons.mp (List.forall_mem_cons.mp hline).2
      exact hs.follows_pair hmode hrest hd rfl (Or.inl rfl) rfl fun t ht hpos hnext =>
        ih ht (Nat.succ_pos _) hpos hnext hmore
  | case7 depth pos c d rest hescape hclose hopen ih =>
      obtain ⟨around, rfl⟩ := Nat.exists_eq_add_one.mpr hdepth
      subst hpos
      obtain ⟨hd, hmore⟩ := List.forall_mem_cons.mp (List.forall_mem_cons.mp hline).2
      have hget := getElem?_of_drop hrest
      have hfirst := firstMatch_commentRules nested hget (getElem?_add_of_drop hrest 1) hd
      rw [pair?, if_neg hescape, if_neg hclose, if_neg hopen, Option.map_none, Option.map_eq_none_iff] at hfirst
      obtain ⟨hadvance, hskip⟩ := hs.skip hmode (Array.getElem?_eq_some_iff.mp hget).1 hfirst
      have hnext := drop_add (show _ = [c] ++ (d :: rest) from hrest)
      exact (ih hskip hdepth rfl hnext (List.forall_mem_cons.mp hline).2).head hadvance

end

/-- Lines hold comment alone, and so many comments are open behind them. -/
def StaysInComments (g : CompiledGrammar) (depth : Nat) (lines : List String) (tokens : List (List Token))
    (inner : Nat) : Prop :=
  scanLines g lines (commentStack depth) = .ok (tokens, commentStack inner) ∧
    ∀ row ∈ tokens, ∀ t ∈ row, IsComment t

/-- A line closes the last comment before an offset: the scan goes on from there outside all comments, and the
tokens up to there are the first of the line. -/
structure LeavesComments (g : CompiledGrammar) (depth : Nat) (line : String) (offset : Nat) (result : LineResult) :
    Prop where
  scan : scanLine g line (commentStack depth) = .ok result
  leaves : ∃ s, Passes g line.toList.toArray (initial g (commentStack depth)) s ∧ OutOfComments s offset ∧
    s.tokens.toList <+: result.tokens
  at_end : offset = line.toList.length → result.stack = initialStack

section

variable {d : Dialect} {g : CompiledGrammar} {start : Mode} {depth : Nat} {line : String}

theorem Dialect.Reads.repair_commentStack (h : d.Reads g start) (depth : Nat) :
    g.repair (commentStack depth) = commentModes depth := by
  have hall : ∀ name ∈ commentStack depth, g.knows name = true := by
    intro name hname
    rcases List.mem_cons.mp hname with rfl | hcomment
    · simp [CompiledGrammar.knows, h.start_eq]
    · rw [List.eq_of_mem_replicate hcomment]
      simp [CompiledGrammar.knows, h.comment_eq]
  rw [CompiledGrammar.repair, List.filter_eq_self.mpr hall, ← stack_commentModes,
    OpenModes.ofStack_stack]

/-- The scan of a line that starts inside comments. -/
theorem Dialect.Reads.follows (h : d.Reads g start) (hdepth : 0 < depth)
    (hline : ∀ c ∈ line.toList, c ≠ '\n') :
    Follows g line.toList.toArray (initial g (commentStack depth))
      (countInLine d.nestedComments depth 0 line.toList) := by
  have hinitial : InsideComments (initial g (commentStack depth)) depth :=
    ⟨h.repair_commentStack depth, by simp [initial]⟩
  exact hinitial.follows h.comment_eq hdepth rfl rfl hline

theorem Dialect.Reads.scanLine_inside_comments (h : d.Reads g start) (hdepth : 0 < depth)
    (hline : ∀ c ∈ line.toList, c ≠ '\n') {inner : Nat}
    (hcount : countInLine d.nestedComments depth 0 line.toList = .inside inner) :
    0 < inner ∧ ∃ tokens, scanLine g line (commentStack depth) = .ok ⟨tokens, commentStack inner⟩ ∧
      ∀ t ∈ tokens, IsComment t := by
  obtain ⟨hinner, s, hpasses, hend, hs⟩ : Follows _ _ _ (.inside inner) := hcount ▸ h.follows hdepth hline
  obtain ⟨around, rfl⟩ := Nat.exists_eq_add_one.mpr hinner
  have hpos : s.pos = line.toList.length := Nat.le_antisymm (hpasses.pos_le (Nat.zero_le _)) hend
  have hfinish : s.finish g line.toList.toArray =
      .ok (s.flushAs line.toList.toArray (.name TokenKind.blockComment)) := by
    cases hrun : s.run with
    | none => exact finish_eq_ok_iff.mpr (.inl ⟨hrun, by rw [ScanState.flushAs, hrun]⟩)
    | some begin =>
        exact finish_eq_ok_iff.mpr (.inr ⟨begin, _, hrun, hs.mode?_top h.comment_eq, rfl⟩)
  refine ⟨hinner, _, scanLine_eq_ok_iff.mpr ⟨s, _, hpasses, hpos, hfinish, ?_⟩, hs.flushAs line.toList.toArray⟩
  rw [flushAs_modes, hs.modes_eq, stack_commentModes]

theorem Dialect.Reads.exists_leavesComments (h : d.Reads g start) (hdepth : 0 < depth)
    (hline : ∀ c ∈ line.toList, c ≠ '\n') {offset : Nat}
    (hcount : countInLine d.nestedComments depth 0 line.toList = .closed offset) :
    ∃ result, LeavesComments g depth line offset result := by
  obtain ⟨s, hpasses, hs⟩ : Follows _ _ _ (.closed offset) := hcount ▸ h.follows hdepth hline
  obtain ⟨result, hscan⟩ := h.scans line (commentStack depth)
  refine ⟨result, hscan, ⟨s, hpasses, hs, scanLine_keeps_tokens hscan hpasses⟩, fun hend => ?_⟩
  have hfinish : s.finish g line.toList.toArray = .ok s := finish_eq_ok_iff.mpr (.inl ⟨hs.run_eq, rfl⟩)
  have hlast := scanLine_eq_ok_iff.mpr ⟨s, s, hpasses, hs.pos_eq.trans hend, hfinish, rfl⟩
  rw [hscan, hs.modes_eq] at hlast
  cases hlast
  rfl

theorem scanLines_cons {stack out : ModeStack} {lines : List String} {first : LineResult}
    {tokens : List (List Token)} (hfirst : scanLine g line stack = .ok first)
    (hlines : scanLines g lines first.stack = .ok (tokens, out)) :
    scanLines g (line :: lines) stack = .ok (first.tokens :: tokens, out) := by
  rw [scanLines, hfirst]
  simp only [hlines]

theorem Dialect.Reads.exists_scanLines (h : d.Reads g start) (lines : List String) (stack : ModeStack) :
    ∃ result, scanLines g lines stack = .ok result := by
  induction lines generalizing stack with
  | nil => exact ⟨_, rfl⟩
  | cons line rest ih =>
      obtain ⟨first, hfirst⟩ := h.scans line stack
      obtain ⟨more, hmore⟩ := ih first.stack
      exact ⟨_, scanLines_cons hfirst hmore⟩

/-- Lines are scanned as the count says.  All of them are comment; or those before a row are, and the line of
this row closes the last comment. -/
def FollowsLines (g : CompiledGrammar) (nested : Bool) (depth : Nat) (lines : List String) : LinesDepth → Prop
  | .inside inner => ∃ tokens, StaysInComments g depth lines tokens inner
  | .closed row offset =>
      ∃ tokens stack inner line result, scanLines g lines (commentStack depth) = .ok (tokens, stack) ∧
        countInLines nested depth (lines.take row) = .inside inner ∧
        StaysInComments g depth (lines.take row) (tokens.take row) inner ∧
        lines[row]? = some line ∧ tokens[row]? = some result.tokens ∧
        LeavesComments g inner line offset result

/-- A line of comment may stand before. -/
theorem FollowsLines.cons {nested : Bool} {inner : Nat} {lines : List String} {count : LinesDepth}
    {first : List Token} (hcount : countInLine nested depth 0 line.toList = .inside inner)
    (hscan : scanLine g line (commentStack depth) = .ok ⟨first, commentStack inner⟩)
    (hfirst : ∀ t ∈ first, IsComment t) (h : FollowsLines g nested inner lines count) :
    FollowsLines g nested depth (line :: lines) count.later := by
  cases count with
  | inside last =>
      obtain ⟨tokens, hlines, htokens⟩ := h
      exact ⟨first :: tokens, scanLines_cons hscan hlines, List.forall_mem_cons.mpr ⟨hfirst, htokens⟩⟩
  | closed row offset =>
      obtain ⟨tokens, stack, last, final, result, hlines, hbefore, ⟨hstays, htokens⟩, hline, hrow, hleaves⟩ := h
      refine ⟨first :: tokens, stack, last, final, result, scanLines_cons hscan hlines, ?_,
        ⟨scanLines_cons hscan hstays, List.forall_mem_cons.mpr ⟨hfirst, htokens⟩⟩, hline, hrow, hleaves⟩
      rw [List.take_succ_cons, countInLines, hcount]
      exact congrArg LinesDepth.later hbefore

theorem Dialect.Reads.followsLines (h : d.Reads g start) (hdepth : 0 < depth) {lines : List String}
    (hlines : ∀ line ∈ lines, ∀ c ∈ line.toList, c ≠ '\n') :
    FollowsLines g d.nestedComments depth lines (countInLines d.nestedComments depth lines) := by
  induction lines generalizing depth with
  | nil => exact ⟨[], rfl, by simp⟩
  | cons line rest ih =>
      obtain ⟨hline, hrest⟩ := List.forall_mem_cons.mp hlines
      rw [countInLines]
      cases hcount : countInLine d.nestedComments depth 0 line.toList with
      | inside inner =>
          obtain ⟨hinner, tokens, hscan, htokens⟩ := h.scanLine_inside_comments hdepth hline hcount
          exact .cons hcount hscan htokens (ih hinner hrest)
      | closed offset =>
          obtain ⟨result, hleaves⟩ := h.exists_leavesComments hdepth hline hcount
          obtain ⟨⟨more, stack⟩, hmore⟩ := h.exists_scanLines rest result.stack
          exact ⟨result.tokens :: more, stack, depth, line, result, scanLines_cons hleaves.scan hmore, rfl,
            ⟨rfl, by simp⟩, rfl, rfl, hleaves⟩

end

/-- In every registered dialect the scan of lines that starts inside comments follows the count of open
comments.  As long as some are open, all is comment; when the last of them is closed, the scan goes on behind
it with the first mode alone. -/
theorem scanLines_follow_comment_count {d : Dialect} (hd : d ∈ Dialect.registered) {depth : Nat}
    (hdepth : 0 < depth) {lines : List String} (hlines : ∀ line ∈ lines, '\n' ∉ line.toList) :
    ∃ g, (Dialect.ofName? d.name).map grammar = some (.ok g) ∧
      FollowsLines g d.nestedComments depth lines (countInLines d.nestedComments depth lines) := by
  obtain ⟨g, start, hreads⟩ := exists_reads hd
  refine ⟨g, ?_, hreads.followsLines hdepth fun line hline c hc hnewline => ?_⟩
  · rw [Dialect.ofName?_name hd, Option.map_some, hreads.compiles]
  · exact hlines line hline (hnewline ▸ hc)

namespace CommentsWitness

/-- A backslash at the end of a line skips nothing, an escaped end does not count, and a minus sign before an
end does not hide it. -/
def lines : List String := ["a #-# b\\", "-#\\-# x", "--#y"]

theorem last_comment_closed_in_third_line :
    Dialect.standard ∈ Dialect.registered ∧ 0 < 1 ∧ (∀ line ∈ lines, '\n' ∉ line.toList) ∧
      ∃ g, (Dialect.ofName? "default").map grammar = some (.ok g) ∧
        FollowsLines g true 1 lines (.closed 2 3) := by
  have hd : Dialect.standard ∈ Dialect.registered := by decide
  have hlines : ∀ line ∈ lines, '\n' ∉ line.toList := by decide
  have hcount : countInLines true 1 lines = .closed 2 3 := by decide
  have hfollows := scanLines_follow_comment_count hd Nat.one_pos hlines
  exact ⟨hd, Nat.one_pos, hlines, hcount ▸ hfollows⟩

end CommentsWitness

end ModalHighlight.Koto
