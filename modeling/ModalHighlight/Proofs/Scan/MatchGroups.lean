import ModalHighlight.Proofs.Scan.Coverage
import ModalHighlight.Proofs.Scan.Labelling

/-!
The tokens of a match with several kinds.  The scan goes through the groups once, with a cursor behind what it
has made tokens of.  The spans may lie in any way: inside one another, in any order, before the match or after
it.  What comes of it can be told for each position alone: the first group that reaches beyond a position gives
it its kind if the group has begun there, and if not, the position is between groups.
-/

namespace ModalHighlight

/-- The part of a group's span before the end of the match, if the group took part and that part has text. -/
def Match.cut? (m : Match) (index : Nat) : Option Pattern.Span :=
  match m.span? index with
  | none => none
  | some span =>
      if span.start < Nat.min span.stop m.stop then some ⟨span.start, Nat.min span.stop m.stop⟩ else none

/-- The first group, of those that are counted from an index on, that reaches beyond a position. -/
def Match.reaching? (m : Match) (kinds : List String) (index pos : Nat) :
    Option (String × Pattern.Span) :=
  (kinds.zipIdx index).findSome? fun (kind, i) =>
    ((m.cut? i).filter fun span => decide (pos < span.stop)).map fun span => (kind, span)

/-- The kind that groups give to a position: that of the first one that reaches beyond it, if that group has
begun. -/
def Match.kindAt (m : Match) (gap : Kind) (kinds : List String) (index pos : Nat) : Kind :=
  match m.reaching? kinds index pos with
  | some (kind, span) => if span.start ≤ pos then .name kind else gap
  | none => gap

/-- The kind of the first token that holds a position. -/
def kindAt (tokens : List Token) (pos : Nat) : Option Kind :=
  (tokens.find? fun t => decide (t.start ≤ pos ∧ pos < t.stop)).map (·.kind)

/-- The span of a group that took part and has text. -/
def Match.filled? (m : Match) (index : Nat) : Option Pattern.Span :=
  (m.span? index).filter fun span => decide (span.start < span.stop)

/-- The groups that took part and have text, with their kinds. -/
def Match.groups (m : Match) (kinds : List String) (index : Nat) : List (String × Pattern.Span) :=
  (kinds.zipIdx index).filterMap fun (kind, i) => (m.filled? i).map fun span => (kind, span)

/-- Groups that follow one another between two positions. -/
def InOrder : Nat → List (String × Pattern.Span) → Nat → Prop
  | start, [], stop => start ≤ stop
  | start, (_, span) :: rest, stop =>
      start ≤ span.start ∧ span.start < span.stop ∧ InOrder span.stop rest stop

/-- One token for each of some groups with the span of the group, and gap tokens for the text between. -/
def interleave (line : Array Char) (gap : Kind) (stop : Nat) :
    Nat → List (String × Pattern.Span) → List Token
  | cursor, [] => (addToken line gap cursor stop #[]).toList
  | cursor, (kind, span) :: rest =>
      (addToken line gap cursor span.start #[]).toList ++
        .ofSlice line (.name kind) span.start span.stop :: interleave line gap stop span.stop rest

/-- How groups split a match: the tokens cover it in order, each position has the kind that the groups give to
it, and groups in order have one token each. -/
structure SplitByGroups (line : Array Char) (gap : Kind) (kinds : List String) (m : Match) (start : Nat)
    (tokens : List Token) : Prop where
  tiles : Tiles line start tokens m.stop
  kind_eq : ∀ pos, start ≤ pos → pos < m.stop → kindAt tokens pos = some (m.kindAt gap kinds 1 pos)
  eq_interleave : InOrder start (m.groups kinds 1) m.stop →
    tokens = interleave line gap m.stop start (m.groups kinds 1)

section

variable {line : Array Char} {gap : Kind} {m : Match} {kind : String} {rest : List String}
  {index cursor pos : Nat} {span : Pattern.Span}

theorem addGroups_of_cut?_eq_none (h : m.cut? index = none) (tokens : Array Token) :
    addGroups line gap m (kind :: rest) index cursor tokens =
      addGroups line gap m rest (index + 1) cursor tokens := by
  rw [Match.cut?] at h
  rw [addGroups]
  cases hspan : m.span? index with
  | none => rfl
  | some span =>
      simp only [hspan] at h
      split at h
      · cases h
      · rename_i hempty
        have hskip : Nat.min span.stop m.stop ≤ Nat.max span.start cursor :=
          Nat.le_trans (Nat.not_lt.mp hempty) (Nat.le_max_left _ _)
        simp only [if_pos hskip]

theorem addGroups_of_cut?_eq_some (h : m.cut? index = some span) (tokens : Array Token) :
    addGroups line gap m (kind :: rest) index cursor tokens =
      if span.stop ≤ cursor then addGroups line gap m rest (index + 1) cursor tokens
      else
        addGroups line gap m rest (index + 1) span.stop
          (addToken line (.name kind) (Nat.max span.start cursor) span.stop
            (addToken line gap cursor (Nat.max span.start cursor) tokens)) := by
  rw [Match.cut?] at h
  rw [addGroups]
  cases hspan : m.span? index with
  | none => simp [hspan] at h
  | some whole =>
      simp only [hspan] at h
      split at h
      · rename_i hlt
        cases h
        -- A group with text is only passed over if it ends before the cursor.
        have hiff : Nat.min whole.stop m.stop ≤ Nat.max whole.start cursor ↔
            Nat.min whole.stop m.stop ≤ cursor := by
          change _ ≤ max whole.start cursor ↔ _
          omega
        simp only [hiff]
      · cases h

/-- A group that ends before the cursor gives nothing. -/
theorem addGroups_of_stop_le (h : m.cut? index = some span) (hbehind : span.stop ≤ cursor)
    (tokens : Array Token) :
    addGroups line gap m (kind :: rest) index cursor tokens =
      addGroups line gap m rest (index + 1) cursor tokens := by
  rw [addGroups_of_cut?_eq_some h, if_pos hbehind]

/-- A group that reaches beyond the cursor takes what follows the cursor, and the text before that is a gap. -/
theorem addGroups_of_lt_stop (h : m.cut? index = some span) (hbeyond : cursor < span.stop) :
    (addGroups line gap m (kind :: rest) index cursor #[]).toList =
      (addToken line gap cursor (Nat.max span.start cursor) #[]).toList ++
        ((addToken line (.name kind) (Nat.max span.start cursor) span.stop #[]).toList ++
          (addGroups line gap m rest (index + 1) span.stop #[]).toList) := by
  rw [addGroups_of_cut?_eq_some h, if_neg (Nat.not_le.mpr hbeyond), addGroups_append,
    addToken_append (.name kind), List.append_assoc]

theorem Match.start_lt_stop_of_cut? (h : m.cut? index = some span) : span.start < span.stop := by
  rw [Match.cut?] at h
  split at h
  · cases h
  · split at h
    · rename_i hlt
      cases h
      exact hlt
    · cases h

theorem Match.kindAt_of_cut?_eq_none (h : m.cut? index = none) :
    m.kindAt gap (kind :: rest) index pos = m.kindAt gap rest (index + 1) pos := by
  simp [Match.kindAt, Match.reaching?, List.zipIdx_cons, h]

theorem Match.kindAt_of_cut?_eq_some (h : m.cut? index = some span) :
    m.kindAt gap (kind :: rest) index pos =
      if pos < span.stop then if span.start ≤ pos then .name kind else gap
      else m.kindAt gap rest (index + 1) pos := by
  by_cases hreach : pos < span.stop <;>
    simp [Match.kindAt, Match.reaching?, List.zipIdx_cons, h, hreach, Option.filter]

/-- A token before others gives its kind to the positions it holds, and leaves the rest to them. -/
theorem kindAt_addToken (kind : Kind) (start stop : Nat) (more : List Token) :
    kindAt ((addToken line kind start stop #[]).toList ++ more) pos =
      if start ≤ pos ∧ pos < stop then some kind else kindAt more pos := by
  unfold addToken kindAt
  by_cases hlt : start < stop
  · by_cases hholds : start ≤ pos ∧ pos < stop <;> simp [hlt, hholds, Token.ofSlice]
  · have hnone : ¬ (start ≤ pos ∧ pos < stop) := by omega
    simp [hlt, hnone]

/-- A gap and a group after it decide on the positions before the end of the group. -/
theorem kindAt_gap_group (kind : Kind) {start stop : Nat} (hcursor : cursor ≤ pos) (hspan : start < stop)
    (more : List Token) :
    kindAt ((addToken line gap cursor (Nat.max start cursor) #[]).toList ++
        ((addToken line kind (Nat.max start cursor) stop #[]).toList ++ more)) pos =
      if pos < stop then some (if start ≤ pos then kind else gap) else kindAt more pos := by
  have hbegun : Nat.max start cursor ≤ pos ↔ start ≤ pos :=
    Nat.max_le.trans (and_iff_left hcursor)
  rw [kindAt_addToken, kindAt_addToken]
  by_cases hstart : start ≤ pos
  · have hafter : ¬ pos < Nat.max start cursor := Nat.not_lt.mpr (hbegun.mpr hstart)
    by_cases hreach : pos < stop <;> simp [hafter, hbegun, hstart, hreach]
  · have hbefore : pos < Nat.max start cursor := Nat.not_le.mp (hstart ∘ hbegun.mp)
    have hreach : pos < stop := by omega
    simp [hbefore, hcursor, hstart, hreach]

/-- Each position from the cursor on gets the kind that the groups give to it. -/
theorem kindAt_addGroups (kinds : List String) (index : Nat) (hcursor : cursor ≤ pos)
    (hpos : pos < m.stop) :
    kindAt (addGroups line gap m kinds index cursor #[]).toList pos =
      some (m.kindAt gap kinds index pos) := by
  induction kinds generalizing index cursor with
  | nil =>
      rw [addGroups, ← List.append_nil (addToken line gap cursor m.stop #[]).toList, kindAt_addToken,
        if_pos ⟨hcursor, hpos⟩]
      rfl
  | cons kind rest ih =>
      cases hcut : m.cut? index with
      | none => rw [addGroups_of_cut?_eq_none hcut, ih (index + 1) hcursor, m.kindAt_of_cut?_eq_none hcut]
      | some span =>
          rw [Match.kindAt_of_cut?_eq_some hcut]
          by_cases hbeyond : cursor < span.stop
          · rw [addGroups_of_lt_stop hcut hbeyond,
              kindAt_gap_group _ hcursor (Match.start_lt_stop_of_cut? hcut)]
            by_cases hreach : pos < span.stop
            · rw [if_pos hreach, if_pos hreach]
            · rw [if_neg hreach, if_neg hreach, ih (index + 1) (Nat.not_lt.mp hreach)]
          · have hreach : ¬ pos < span.stop := by omega
            rw [addGroups_of_stop_le hcut (Nat.not_lt.mp hbeyond), ih (index + 1) hcursor, if_neg hreach]

theorem InOrder.start_le_stop {groups : List (String × Pattern.Span)} {start stop : Nat}
    (h : InOrder start groups stop) : start ≤ stop := by
  induction groups generalizing start with
  | nil => exact h
  | cons group rest ih =>
      obtain ⟨hstart, hlt, hrest⟩ := h
      have := ih hrest
      omega

theorem Match.groups_of_filled?_eq_none (h : m.filled? index = none) :
    m.groups (kind :: rest) index = m.groups rest (index + 1) := by
  simp [Match.groups, List.zipIdx_cons, h]

theorem Match.groups_of_filled?_eq_some (h : m.filled? index = some span) :
    m.groups (kind :: rest) index = (kind, span) :: m.groups rest (index + 1) := by
  simp [Match.groups, List.zipIdx_cons, h]

/-- A group without text has none before the end of the match. -/
theorem Match.cut?_eq_none (h : m.filled? index = none) : m.cut? index = none := by
  rw [Match.cut?]
  split
  · rfl
  · rename_i span hspan
    have hempty : ¬ span.start < span.stop := by
      simpa [Match.filled?, hspan] using h
    have hcut := Nat.min_le_left span.stop m.stop
    rw [if_neg (fun hlt => hempty (Nat.lt_of_lt_of_le hlt hcut))]

theorem Match.cut?_of_stop_le (h : m.filled? index = some span) (hstop : span.stop ≤ m.stop) :
    m.cut? index = some span := by
  obtain ⟨hspan, hlt⟩ := Option.filter_eq_some_iff.mp h
  have hcut : Nat.min span.stop m.stop = span.stop := Nat.min_eq_left hstop
  simp only [Match.cut?, hspan, hcut, if_pos (of_decide_eq_true hlt)]

/-- Groups in order have one token each. -/
theorem addGroups_eq_interleave (kinds : List String) (index : Nat)
    (h : InOrder cursor (m.groups kinds index) m.stop) :
    (addGroups line gap m kinds index cursor #[]).toList =
      interleave line gap m.stop cursor (m.groups kinds index) := by
  induction kinds generalizing index cursor with
  | nil => rfl
  | cons kind rest ih =>
      cases hfilled : m.filled? index with
      | none =>
          rw [Match.groups_of_filled?_eq_none hfilled] at h ⊢
          rw [addGroups_of_cut?_eq_none (Match.cut?_eq_none hfilled), ih (index + 1) h]
      | some span =>
          rw [Match.groups_of_filled?_eq_some hfilled] at h ⊢
          obtain ⟨hcursor, hlt, hrest⟩ := h
          have hcut := Match.cut?_of_stop_le hfilled hrest.start_le_stop
          have hstart : Nat.max span.start cursor = span.start := Nat.max_eq_left hcursor
          have htoken : (addToken line (.name kind) span.start span.stop #[]).toList =
              [.ofSlice line (.name kind) span.start span.stop] := by
            rw [addToken, if_pos hlt]
            rfl
          rw [addGroups_of_lt_stop hcut (Nat.lt_of_le_of_lt hcursor hlt), hstart, htoken,
            ih (index + 1) hrest]
          rfl

theorem splitByGroups_addGroups (kinds : List String) {start : Nat} (hstop : start ≤ m.stop) :
    SplitByGroups line gap kinds m start (addGroups line gap m kinds 1 start #[]).toList where
  tiles := Tiles.addGroups kinds gap m 1 rfl hstop
  kind_eq _ hstart hpos := kindAt_addGroups kinds 1 hstart hpos
  eq_interleave := addGroups_eq_interleave kinds 1

end

namespace ScanState

variable {g : CompiledGrammar} {line : Array Char} {s t : ScanState}

theorem flushAs_keeps_tokens (kind : Kind) :
    s.tokens.toList <+: (s.flushAs line kind).tokens.toList := by
  unfold flushAs
  split
  · exact List.prefix_rfl
  · rw [addToken_append]
    exact List.prefix_append _ _

/-- A scan takes back no token. -/
theorem Passes.keeps_tokens (h : Passes g line s t) : s.tokens.toList <+: t.tokens.toList := by
  refine h.preserves (P := fun u => s.tokens.toList <+: u.tokens.toList) ?_ List.prefix_rfl
  intro u v hu hadvance
  refine hu.trans ?_
  obtain ⟨_, _ | _⟩ := hadvance
  · exact List.prefix_rfl
  · rw [accept_tokens, addMatch_append]
    exact (flushAs_keeps_tokens _).trans (List.prefix_append _ _)

end ScanState

open ScanState

/-- The tokens that a line has had at some point of its scan are the first of its tokens. -/
theorem scanLine_keeps_tokens {g : CompiledGrammar} {text : String} {stack : ModeStack} {result : LineResult}
    {s : ScanState} (h : scanLine g text stack = .ok result)
    (hpasses : Passes g text.toList.toArray (initial g stack) s) :
    s.tokens.toList <+: result.tokens := by
  obtain ⟨last, t, hrest, hfinish, rfl⟩ := exists_finish_of_passes h hpasses
  refine hrest.keeps_tokens.trans ?_
  rcases finish_eq_ok_iff.mp hfinish with ⟨_, rfl⟩ | ⟨_, _, _, _, rfl⟩
  · exact List.prefix_rfl
  · exact flushAs_keeps_tokens _

/-- In the result of a line the tokens of a match stand between those of the text before it and after it. -/
theorem tokens_around_match {g : CompiledGrammar} {text : String} {stack : ModeStack} {result : LineResult}
    {s : ScanState} {mode : Mode} {r : CompiledRule} {m : Match} (h : scanLine g text stack = .ok result)
    (hpasses : Passes g text.toList.toArray (initial g stack) s) (hpos : s.pos < text.toList.toArray.size)
    (hwins : s.Wins g text.toList.toArray mode r m) :
    ∃ before after, Tiles text.toList.toArray 0 before s.pos ∧ result.tokens =
      before ++ (addMatch text.toList.toArray (g.defaultKind mode) r m s.pos #[]).toList ++ after := by
  have hadvance : Advance g text.toList.toArray s (s.accept _ (g.defaultKind mode) r m) :=
    ⟨hpos, .accept hwins⟩
  obtain ⟨after, hafter⟩ := scanLine_keeps_tokens h (hpasses.tail hadvance)
  have hcovered := (covered_initial g text.toList.toArray stack).passes hpasses
  refine ⟨_, after, hcovered.flushAs (g.defaultKind mode), ?_⟩
  rw [← hafter, accept_tokens, addMatch_append]

/-- A match of a rule with several kinds is split by its groups, however their spans lie; the text that is in
no group has the default kind of the mode in which the rule matched.  In the result of a line the tokens stand
between those of the text before the match and those of the text after it. -/
theorem accept_splits_by_groups {g : CompiledGrammar} {line : Array Char} {s : ScanState} {mode : Mode}
    {r : CompiledRule} {m : Match} (hmode : g.mode? s.modes.top = some mode)
    (hmulti : r.isMulti = true) (hstop : s.pos ≤ m.stop) :
    ∃ tokens, SplitByGroups line (g.defaultKind mode) r.kinds m s.pos tokens ∧
      (s.accept line (g.defaultKind mode) r m).tokens.toList =
        (s.flushAs line (g.defaultKind mode)).tokens.toList ++ tokens ∧
      ∀ text stack result, line = text.toList.toArray → scanLine g text stack = .ok result →
        Passes g line (initial g stack) s → s.pos < line.size →
        firstMatch mode.rules line s.pos = some (r, m) →
          ∃ before after, Tiles line 0 before s.pos ∧ result.tokens = before ++ tokens ++ after := by
  have hgroups : addMatch line (g.defaultKind mode) r m s.pos #[] =
      addGroups line (g.defaultKind mode) m r.kinds 1 s.pos #[] := by
    rw [addMatch, if_pos hmulti]
  refine ⟨_, splitByGroups_addGroups r.kinds hstop, ?_, ?_⟩
  · rw [accept_tokens, addMatch_append, hgroups]
  · rintro text stack result rfl hscan hpasses hpos hfirst
    obtain ⟨t, hstep⟩ := exists_step_of_passes hscan hpasses (by simpa using hpos)
    exact hgroups ▸ tokens_around_match hscan hpasses hpos (wins_of_step_eq_ok hstep hmode hfirst)

namespace MatchGroupsWitness

/-- A group inside another, one after them, and one in the text after the match. -/
def rule : CompiledRule :=
  ⟨["outer", "inner", "last", "ahead"],
    ⟨"(a(b))c(d)(?=(e))",
      .cat (.capture 1 (.cat (.ofChar 'a') (.capture 2 (.ofChar 'b'))))
        (.cat (.ofChar 'c') (.cat (.capture 3 (.ofChar 'd')) (.look .ahead false (.capture 4 (.ofChar 'e'))))),
      4, false⟩,
    .push "inside"⟩

def start : Mode := ⟨"start", [rule], some "plain"⟩

def grammar : CompiledGrammar := ⟨[start, ⟨"inside", [], some "other"⟩], .name "text"⟩

def line : Array Char := "abcde".toList.toArray

def found : Match := ⟨4, [(4, ⟨4, 5⟩), (3, ⟨3, 4⟩), (1, ⟨0, 2⟩), (2, ⟨1, 2⟩)]⟩

/-- The inner group has no text left behind the outer one, and the text that is only looked at is left to the
mode that the rule opens. -/
def tokens : List Token :=
  [⟨.name "outer", 0, 2, "ab"⟩, ⟨.name "plain", 2, 3, "c"⟩, ⟨.name "last", 3, 4, "d"⟩,
    ⟨.name "other", 4, 5, "e"⟩]

theorem groups_split_abcd :
    firstMatch start.rules line 0 = some (rule, found) ∧ rule.isMulti = true ∧
      scanLine grammar "abcde" initialStack = .ok ⟨tokens, ["start", "inside"]⟩ ∧
      ∃ split, SplitByGroups line (.name "plain") rule.kinds found 0 split ∧
        ∃ before after, Tiles line 0 before 0 ∧ tokens = before ++ split ++ after := by
  have hfirst : firstMatch start.rules line 0 = some (rule, found) := by decide +kernel
  have hscan : scanLine grammar "abcde" initialStack = .ok ⟨tokens, ["start", "inside"]⟩ := rfl
  have hmode : grammar.mode? (initial grammar initialStack).modes.top = some start := rfl
  have hmulti : rule.isMulti = true := by decide
  have hstop : (initial grammar initialStack).pos ≤ found.stop := by decide
  obtain ⟨split, (hsplit : SplitByGroups line _ _ _ _ split), _, hresult⟩ :=
    accept_splits_by_groups hmode hmulti hstop
  exact ⟨hfirst, hmulti, hscan, split, hsplit,
    hresult "abcde" initialStack _ rfl hscan .refl (by decide) hfirst⟩

end MatchGroupsWitness

end ModalHighlight
