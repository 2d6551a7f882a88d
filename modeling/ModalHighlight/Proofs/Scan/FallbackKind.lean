import ModalHighlight.Proofs.Scan.MatchGroups
import ModalHighlight.Grammar.Compile

/-!
What the fallback kind does.  It is the kind of default text in modes that name none of their own, and nothing
else looks at it.  Beside each scan stands the scan of the same modes in which such text has no name for a kind.
The two go through the same states but for the kinds of their tokens, so two scans with different fallback kinds
differ in these kinds only.
-/

namespace ModalHighlight

/-- The fallback kind of a compiled grammar is the one asked for; its modes, or the reports, do not depend on
it. -/
theorem exists_compileGroups_eq (groups : GroupTable) :
    ∃ outcome : Except CompileError (List Mode), ∀ fallback,
      compileGroups groups fallback = outcome.map fun modes => ⟨modes, fallback⟩ := by
  unfold compileGroups
  dsimp only
  split
  · rename_i failure _
    exact ⟨.error (.stopped failure), fun _ => rfl⟩
  · rename_i table faults _
    generalize (hoist groups).2 ++ _ ++ faults ++ (flattenAll table).reports = reports
    cases reports with
    | nil => exact ⟨.ok (modesOf table (flattenAll table).finished), fun _ => rfl⟩
    | cons report rest => exact ⟨.error (.rejected (report :: rest)), fun _ => rfl⟩

theorem exists_compileSources_eq (sources : List (String × GroupSource)) :
    ∃ outcome : Except CompileError (List Mode), ∀ fallback,
      compileSources sources fallback = outcome.map fun modes => ⟨modes, fallback⟩ := by
  unfold compileSources
  split
  · exact exists_compileGroups_eq _
  · split
    · rename_i reports _
      exact ⟨.error (.unreadable reports), fun _ => rfl⟩
    · exact ⟨.error .numberTooLong, fun _ => rfl⟩
    · exact exists_compileGroups_eq _

/-- A kind, or another in the place of one that is no name. -/
def Kind.orElse : Kind → Kind → Kind
  | .name s, _ => .name s
  | .data _, fallback => fallback

def Token.orElse (t : Token) (fallback : Kind) : Token :=
  { t with kind := t.kind.orElse fallback }

def ScanState.orElse (s : ScanState) (fallback : Kind) : ScanState :=
  { s with tokens := s.tokens.map (·.orElse fallback) }

def LineResult.orElse (result : LineResult) (fallback : Kind) : LineResult :=
  { result with tokens := result.tokens.map (·.orElse fallback) }

/-- Modes in a grammar that has no name for the kind of text where they name none. -/
def unnamedGrammar (modes : List Mode) : CompiledGrammar :=
  ⟨modes, .data .null⟩

section

variable (fallback : Kind) (line : Array Char) (modes : List Mode)

theorem orElse_defaultKind (mode : Mode) :
    ((unnamedGrammar modes).defaultKind mode).orElse fallback =
      CompiledGrammar.defaultKind ⟨modes, fallback⟩ mode := by
  unfold CompiledGrammar.defaultKind
  split
  · split <;> rfl
  · rfl

theorem map_orElse_addToken (kind : Kind) (start stop : Nat) (tokens : Array Token) :
    (addToken line kind start stop tokens).map (·.orElse fallback) =
      addToken line (kind.orElse fallback) start stop (tokens.map (·.orElse fallback)) := by
  unfold addToken
  split
  · rw [Array.map_push]
    rfl
  · rfl

theorem map_orElse_addGroups (gap : Kind) (m : Match) (kinds : List String) (index cursor : Nat)
    (tokens : Array Token) :
    (addGroups line gap m kinds index cursor tokens).map (·.orElse fallback) =
      addGroups line (gap.orElse fallback) m kinds index cursor (tokens.map (·.orElse fallback)) := by
  induction kinds generalizing index cursor tokens with
  | nil => exact map_orElse_addToken fallback line gap cursor m.stop tokens
  | cons kind rest ih =>
      rw [addGroups, addGroups]
      split
      · exact ih _ _ _
      · dsimp only
        split
        · exact ih _ _ _
        · rw [ih, map_orElse_addToken, map_orElse_addToken]
          rfl

theorem map_orElse_addMatch (gap : Kind) (r : CompiledRule) (m : Match) (start : Nat) (tokens : Array Token) :
    (addMatch line gap r m start tokens).map (·.orElse fallback) =
      addMatch line (gap.orElse fallback) r m start (tokens.map (·.orElse fallback)) := by
  unfold addMatch
  split
  · exact map_orElse_addGroups fallback line gap m r.kinds 1 start tokens
  · exact map_orElse_addToken fallback line _ start m.stop tokens

namespace ScanState

theorem orElse_flushAs (kind : Kind) (s : ScanState) :
    (s.flushAs line kind).orElse fallback = (s.orElse fallback).flushAs line (kind.orElse fallback) := by
  obtain ⟨pos, run, modes, tokens⟩ := s
  cases run with
  | none => rfl
  | some start =>
      exact congrArg (ScanState.mk pos none modes) (map_orElse_addToken fallback line kind start pos tokens)

theorem orElse_accept (gap : Kind) (r : CompiledRule) (m : Match) (s : ScanState) :
    (s.accept line gap r m).orElse fallback =
      (s.orElse fallback).accept line (gap.orElse fallback) r m := by
  have htokens : (s.accept line gap r m).tokens.map (·.orElse fallback) =
      ((s.orElse fallback).accept line (gap.orElse fallback) r m).tokens := by
    rw [accept_tokens, accept_tokens, map_orElse_addMatch, ← orElse_flushAs]
    rfl
  have hpos : (s.accept line gap r m).pos =
      ((s.orElse fallback).accept line (gap.orElse fallback) r m).pos := by
    rw [accept_pos, accept_pos]
    rfl
  have hrun : (s.accept line gap r m).run =
      ((s.orElse fallback).accept line (gap.orElse fallback) r m).run := by
    rw [accept_run, accept_run]
    rfl
  have hmodes : (s.accept line gap r m).modes =
      ((s.orElse fallback).accept line (gap.orElse fallback) r m).modes := by
    rw [accept_modes, accept_modes]
    rfl
  exact (ScanState.mk.injEq ..).mpr ⟨hpos, hrun, hmodes, htokens⟩

theorem initial_orElse (stack : ModeStack) :
    initial ⟨modes, fallback⟩ stack = (initial (unnamedGrammar modes) stack).orElse fallback := by
  simp only [initial, orElse, Array.map_empty]
  rfl

/-- A step does the same to a state whatever the kind of its default text is. -/
theorem step_orElse (s : ScanState) :
    step ⟨modes, fallback⟩ line (s.orElse fallback) =
      (step (unnamedGrammar modes) line s).map (·.orElse fallback) := by
  have hmode : (s.orElse fallback).mode ⟨modes, fallback⟩ = s.mode (unnamedGrammar modes) := rfl
  have hpos : (s.orElse fallback).pos = s.pos := rfl
  simp only [step, hmode, hpos]
  cases s.mode (unnamedGrammar modes) with
  | error e => rfl
  | ok mode =>
      dsimp only
      cases firstMatch mode.rules line s.pos with
      | none => rfl
      | some found =>
          dsimp only
          split
          · rfl
          · simp only [Except.map, orElse_accept, orElse_defaultKind]

theorem steps_orElse (n : Nat) (s : ScanState) :
    steps ⟨modes, fallback⟩ line n (s.orElse fallback) =
      (steps (unnamedGrammar modes) line n s).map (·.orElse fallback) := by
  induction n generalizing s with
  | zero => rfl
  | succ n ih =>
      have hpos : (s.orElse fallback).pos = s.pos := rfl
      simp only [steps, hpos, step_orElse]
      split
      · cases step (unnamedGrammar modes) line s with
        | error e => rfl
        | ok next => exact ih next
      · rfl

theorem finish_orElse (s : ScanState) :
    finish ⟨modes, fallback⟩ line (s.orElse fallback) =
      (finish (unnamedGrammar modes) line s).map (·.orElse fallback) := by
  have hmode : (s.orElse fallback).mode ⟨modes, fallback⟩ = s.mode (unnamedGrammar modes) := rfl
  have hrun : (s.orElse fallback).run = s.run := rfl
  simp only [finish, hmode, hrun]
  split
  · rfl
  · cases s.mode (unnamedGrammar modes) with
    | error e => rfl
    | ok mode => simp only [Except.map, orElse_flushAs, orElse_defaultKind]

/-- Two scans of the same modes go through the same states. -/
theorem Passes.orElse {s t : ScanState} (h : Passes (unnamedGrammar modes) line s t) :
    Passes ⟨modes, fallback⟩ line (s.orElse fallback) (t.orElse fallback) := by
  refine Relation.ReflTransGen.lift (fun u : ScanState => u.orElse fallback) ?_ _ _ h
  rintro a b ⟨hpos, hmove⟩
  refine ⟨hpos, step_eq_ok_iff.mp ?_⟩
  rw [step_orElse, step_eq_ok_iff.mpr hmove]
  rfl

theorem Passes.exists_orElse {s u : ScanState} (h : Passes ⟨modes, fallback⟩ line (s.orElse fallback) u) :
    ∃ t, Passes (unnamedGrammar modes) line s t ∧ u = t.orElse fallback := by
  induction h with
  | refl => exact ⟨s, .refl, rfl⟩
  | tail _ hlast ih =>
      obtain ⟨t, hpasses, rfl⟩ := ih
      obtain ⟨hpos, hmove⟩ := hlast
      have hstep := step_eq_ok_iff.mpr hmove
      rw [step_orElse] at hstep
      cases hnext : step (unnamedGrammar modes) line t with
      | error e => simp [hnext, Except.map] at hstep
      | ok next =>
          simp only [hnext, Except.map, Except.ok.injEq] at hstep
          exact ⟨next, hpasses.tail ⟨hpos, step_eq_ok_iff.mp hnext⟩, hstep.symm⟩

end ScanState

/-- So does the scan of a line. -/
theorem scanLine_orElse (text : String) (stack : ModeStack) :
    scanLine ⟨modes, fallback⟩ text stack =
      (scanLine (unnamedGrammar modes) text stack).map (·.orElse fallback) := by
  simp only [scanLine, ScanState.initial_orElse fallback modes, ScanState.steps_orElse]
  cases ScanState.steps (unnamedGrammar modes) text.toList.toArray _ _ with
  | error e => rfl
  | ok s =>
      simp only [Except.map, ScanState.finish_orElse]
      cases s.finish (unnamedGrammar modes) text.toList.toArray with
      | error e => rfl
      | ok t => simp [ScanState.orElse, LineResult.orElse]

end

/-- A position of a match is between the groups of its rule: none has begun there that reaches beyond it. -/
def Match.IsBetween (m : Match) (kinds : List String) (pos : Nat) : Prop :=
  ∀ kind span, m.reaching? kinds 1 pos = some (kind, span) → pos < span.start

/-- A position of a line holds default text of a mode: it is in a run of unmatched text that is open while the
mode is the innermost one, or between the groups of a match in that mode. -/
inductive IsDefaultText (g : CompiledGrammar) (line : Array Char) (stack : ModeStack) (mode : Mode)
    (pos : Nat) : Prop
  | unmatched {s : ScanState} {start : Nat} (hpasses : ScanState.Passes g line (.initial g stack) s)
      (hmode : g.mode? s.modes.top = some mode) (hrun : s.run = some start) (hstart : start ≤ pos)
      (hstop : pos < s.pos)
  | between {s : ScanState} {r : CompiledRule} {m : Match} (hpasses : ScanState.Passes g line (.initial g stack) s)
      (hpos : s.pos < line.size) (hwins : s.Wins g line mode r m) (hmulti : r.isMulti = true)
      (hstart : s.pos ≤ pos) (hstop : pos < m.stop) (hbetween : m.IsBetween r.kinds pos)

/-- A token has a name for a kind, or it holds default text of a mode and has the kind of that text. -/
def Token.HasSource (g : CompiledGrammar) (line : Array Char) (stack : ModeStack) (t : Token) : Prop :=
  (∃ s, t.kind = .name s) ∨
    ∃ mode, t.kind = g.defaultKind mode ∧
      ∀ pos, t.start ≤ pos → pos < t.stop → IsDefaultText g line stack mode pos

section

variable {g : CompiledGrammar} {line : Array Char} {stack : ModeStack} {mode : Mode} {pos start stop : Nat}
  {tokens more : List Token} {kind gap : Kind}

theorem eq_ofSlice_of_mem_addToken {t : Token} (h : t ∈ (addToken line kind start stop #[]).toList) :
    t = .ofSlice line kind start stop := by
  unfold addToken at h
  split at h
  · simpa using h
  · cases h

theorem kindAt_prefix_mono (h : tokens <+: more) (hkind : kindAt tokens pos = some kind) :
    kindAt more pos = some kind := by
  obtain ⟨after, rfl⟩ := h
  unfold kindAt at hkind ⊢
  obtain ⟨t, hfind, rfl⟩ := Option.map_eq_some_iff.mp hkind
  rw [List.find?_append, hfind]
  rfl

/-- What tokens before a position say is left to those after them. -/
theorem Tiles.kindAt_append (h : Tiles line start tokens stop) (hstop : stop ≤ pos) :
    kindAt (tokens ++ more) pos = kindAt more pos := by
  induction tokens generalizing start with
  | nil => rfl
  | cons t rest ih =>
      obtain ⟨_, _, _, hrest⟩ := h
      have hle := hrest.start_le_stop
      have hafter : ¬ (t.start ≤ pos ∧ pos < t.stop) := by omega
      rw [← ih hrest]
      simp [kindAt, hafter]

theorem Tiles.start_le_of_mem (h : Tiles line start tokens stop) {t : Token} (hmem : t ∈ tokens) :
    start ≤ t.start := by
  induction tokens generalizing start with
  | nil => cases hmem
  | cons first rest ih =>
      obtain ⟨hfirst, hlt, _, hrest⟩ := h
      rcases List.mem_cons.mp hmem with rfl | hmem
      · exact Nat.le_of_eq hfirst.symm
      · exact Nat.le_trans (Nat.le_of_lt hlt) (ih hrest hmem)

theorem Tiles.stop_le_of_mem (h : Tiles line start tokens stop) {t : Token} (hmem : t ∈ tokens) :
    t.stop ≤ stop := by
  induction tokens generalizing start with
  | nil => cases hmem
  | cons first rest ih =>
      obtain ⟨_, _, _, hrest⟩ := h
      rcases List.mem_cons.mp hmem with rfl | hmem
      · exact hrest.start_le_stop
      · exact ih hrest hmem

theorem Tiles.kindAt_of_mem (h : Tiles line start tokens stop) {t : Token} (hmem : t ∈ tokens)
    (hstart : t.start ≤ pos) (hstop : pos < t.stop) : kindAt tokens pos = some t.kind := by
  induction tokens generalizing start with
  | nil => cases hmem
  | cons first rest ih =>
      obtain ⟨hfirst, hlt, htext, hrest⟩ := h
      rcases List.mem_cons.mp hmem with rfl | hmem
      · simp [kindAt, hstart, hstop]
      · have hle := hrest.start_le_of_mem hmem
        have hone : Tiles line start [first] first.stop := ⟨hfirst, hlt, htext, rfl⟩
        have hbehind : kindAt (first :: rest) pos = kindAt rest pos :=
          hone.kindAt_append (Nat.le_trans hle hstart)
        exact hbehind.trans (ih hrest hmem)

theorem Match.kindAt_eq_of_isBetween {m : Match} {kinds : List String} (h : m.IsBetween kinds pos) :
    m.kindAt gap kinds 1 pos = gap := by
  unfold Match.kindAt
  split
  · rename_i kind span hreaching
    rw [if_neg (Nat.not_le.mpr (h kind span hreaching))]
  · rfl

theorem Match.isBetween_of_kindAt_eq {m : Match} {kinds : List String} {v : Value}
    (h : m.kindAt gap kinds 1 pos = .data v) : m.IsBetween kinds pos ∧ gap = .data v := by
  unfold Match.kindAt at h
  unfold Match.IsBetween
  split at h
  · rename_i kind span hreaching
    split at h
    · cases h
    · rename_i hbefore
      refine ⟨fun kind' span' hreaching' => ?_, h⟩
      cases hreaching.symm.trans hreaching'
      exact Nat.not_le.mp hbefore
  · rename_i hreaching
    exact ⟨fun kind' span' hreaching' => (nomatch hreaching.symm.trans hreaching'), h⟩

namespace ScanState

variable {s t : ScanState}

/-- A run becomes a token of the kind it is ended with. -/
theorem Covered.kindAt_flushAs (h : Covered line s) (hrun : s.run = some start) (hstart : start ≤ pos)
    (hstop : pos < s.pos) : kindAt (s.flushAs line kind).tokens.toList pos = some kind := by
  have htiles := h.tiles
  rw [hrun] at htiles
  have hflush : (s.flushAs line kind).tokens.toList =
      s.tokens.toList ++ (addToken line kind start s.pos #[]).toList := by
    rw [ScanState.flushAs, hrun]
    exact addToken_append ..
  rw [hflush, htiles.kindAt_append hstart, ← List.append_nil (addToken ..).toList, kindAt_addToken,
    if_pos ⟨hstart, hstop⟩]

/-- A position of a run is still in the run, or a token of its mode's kind holds it. -/
def Settles (g : CompiledGrammar) (line : Array Char) (mode : Mode) (start pos : Nat) (s : ScanState) : Prop :=
  Covered line s ∧
    (s.run = some start ∧ g.mode? s.modes.top = some mode ∧ pos < s.pos ∨
      kindAt s.tokens.toList pos = some (g.defaultKind mode))

theorem Settles.advance (h : Settles g line mode start pos s) (hstart : start ≤ pos)
    (hadvance : Advance g line s t) : Settles g line mode start pos t := by
  obtain ⟨hcovered, hopen | htoken⟩ := h
  · refine ⟨hcovered.advance hadvance, ?_⟩
    obtain ⟨hrun, hmode, hpos⟩ := hopen
    obtain ⟨_, _ | @⟨mode', r, m, hwins⟩⟩ := hadvance
    · left
      exact ⟨by simp [skip, hrun], hmode, Nat.lt_succ_of_lt hpos⟩
    · right
      cases hmode.symm.trans hwins.1
      rw [accept_tokens, addMatch_append]
      exact kindAt_prefix_mono (List.prefix_append _ _) (hcovered.kindAt_flushAs hrun hstart hpos)
  · have hpasses : Passes g line s t := .single hadvance
    exact ⟨hcovered.advance hadvance, .inr (kindAt_prefix_mono hpasses.keeps_tokens htoken)⟩

theorem Settles.finish (h : Settles g line mode start pos s) (hstart : start ≤ pos)
    (hfinish : s.finish g line = .ok t) : kindAt t.tokens.toList pos = some (g.defaultKind mode) := by
  obtain ⟨hcovered, ⟨hrun, hmode, hpos⟩ | htoken⟩ := h
  · rcases finish_eq_ok_iff.mp hfinish with ⟨hnone, _⟩ | ⟨_, mode', _, hmode', rfl⟩
    · cases hrun.symm.trans hnone
    · cases hmode.symm.trans hmode'
      exact hcovered.kindAt_flushAs hrun hstart hpos
  · rcases finish_eq_ok_iff.mp hfinish with ⟨_, rfl⟩ | ⟨_, _, _, _, rfl⟩
    · exact htoken
    · exact kindAt_prefix_mono (flushAs_keeps_tokens _) htoken

/-- Tokens that end a run hold default text of the mode that is then the innermost one. -/
theorem hasSource_of_mem_flushAs (hpasses : Passes g line (initial g stack) s)
    (hmode : g.mode? s.modes.top = some mode) (hsources : ∀ t ∈ s.tokens.toList, t.HasSource g line stack) :
    ∀ t ∈ (s.flushAs line (g.defaultKind mode)).tokens.toList, t.HasSource g line stack := by
  cases hrun : s.run with
  | none =>
      rw [flushAs, hrun]
      exact hsources
  | some start =>
      intro t hmem
      rw [flushAs, hrun] at hmem
      rw [addToken_append, List.mem_append] at hmem
      rcases hmem with hmem | hmem
      · exact hsources t hmem
      · cases eq_ofSlice_of_mem_addToken hmem
        exact .inr ⟨mode, rfl, fun pos hstart hstop => .unmatched hpasses hmode hrun hstart hstop⟩

/-- So do those between the groups of a match; the others have a name from the rule. -/
theorem hasSource_of_mem_addMatch {r : CompiledRule} {m : Match}
    (hpasses : Passes g line (initial g stack) s) (hpos : s.pos < line.size)
    (hwins : s.Wins g line mode r m) :
    ∀ t ∈ (addMatch line (g.defaultKind mode) r m s.pos #[]).toList, t.HasSource g line stack := by
  intro t hmem
  cases hkind : t.kind with
  | name name => exact .inl ⟨name, hkind⟩
  | data v =>
      have hbounds := firstMatch_bounds hwins.2.1 (Nat.le_of_lt hpos)
      unfold addMatch at hmem
      split at hmem
      · rename_i hmulti
        have htiles : Tiles line s.pos
            (addGroups line (g.defaultKind mode) m r.kinds 1 s.pos #[]).toList m.stop :=
          Tiles.addGroups r.kinds _ m 1 rfl hbounds.1
        -- What the groups say of a position of the token is what its kind is.
        have hgroups : ∀ pos, t.start ≤ pos → pos < t.stop → s.pos ≤ pos ∧ pos < m.stop ∧
            m.kindAt (g.defaultKind mode) r.kinds 1 pos = .data v := by
          intro pos hstart hstop
          have hfrom := Nat.le_trans (htiles.start_le_of_mem hmem) hstart
          have hto := Nat.lt_of_lt_of_le hstop (htiles.stop_le_of_mem hmem)
          have hat := (htiles.kindAt_of_mem hmem hstart hstop).symm.trans (kindAt_addGroups r.kinds 1 hfrom hto)
          rw [hkind, Option.some.injEq] at hat
          exact ⟨hfrom, hto, hat.symm⟩
        obtain ⟨_, _, hfirst⟩ := hgroups t.start (Nat.le_refl _) (htiles.start_lt_stop_of_mem t hmem)
        refine .inr ⟨mode, hkind.trans (Match.isBetween_of_kindAt_eq hfirst).2.symm, ?_⟩
        intro pos hstart hstop
        obtain ⟨hfrom, hto, hat⟩ := hgroups pos hstart hstop
        exact .between hpasses hpos hwins hmulti hfrom hto (Match.isBetween_of_kindAt_eq hat).1
      · cases eq_ofSlice_of_mem_addToken hmem
        exact .inl ⟨_, rfl⟩

theorem Passes.hasSource (h : Passes g line (initial g stack) s) :
    ∀ t ∈ s.tokens.toList, t.HasSource g line stack := by
  induction h with
  | refl => intro t hmem; cases hmem
  | tail hpasses hlast ih =>
      obtain ⟨hpos, _ | @⟨mode, r, m, hwins⟩⟩ := hlast
      · exact ih
      · rw [accept_tokens, addMatch_append]
        intro t hmem
        rcases List.mem_append.mp hmem with hmem | hmem
        · exact hasSource_of_mem_flushAs hpasses hwins.1 ih t hmem
        · exact hasSource_of_mem_addMatch hpasses hpos hwins t hmem

end ScanState

end

open ScanState

section

variable {g : CompiledGrammar} {text : String} {stack : ModeStack} {result : LineResult}

/-- Every token of a line has a name for a kind, or holds default text of a mode. -/
theorem hasSource_of_mem_scanLine (h : scanLine g text stack = .ok result) :
    ∀ t ∈ result.tokens, t.HasSource g text.toList.toArray stack := by
  obtain ⟨s, t, hpasses, _, hfinish, rfl⟩ := scanLine_eq_ok_iff.mp h
  rcases finish_eq_ok_iff.mp hfinish with ⟨_, rfl⟩ | ⟨_, mode, _, hmode, rfl⟩
  · exact hpasses.hasSource
  · exact hasSource_of_mem_flushAs hpasses hmode hpasses.hasSource

/-- Default text of a mode has the default kind of the mode. -/
theorem IsDefaultText.kindAt_eq {mode : Mode} {pos : Nat} (h : scanLine g text stack = .ok result)
    (hdefault : IsDefaultText g text.toList.toArray stack mode pos) :
    kindAt result.tokens pos = some (g.defaultKind mode) := by
  cases hdefault with
  | @unmatched u start hpasses hmode hrun hstart hstop =>
      obtain ⟨s, t, hrest, hfinish, rfl⟩ := exists_finish_of_passes h hpasses
      have hcovered := (covered_initial g _ stack).passes hpasses
      have hsettles : Settles g text.toList.toArray mode start pos u := ⟨hcovered, .inl ⟨hrun, hmode, hstop⟩⟩
      exact (hrest.preserves (fun _ _ hu hadvance => hu.advance hstart hadvance) hsettles).finish hstart hfinish
  | @between s r m hpasses hpos hwins hmulti hstart hstop hbetween =>
      obtain ⟨before, after, htiles, heq⟩ := tokens_around_match h hpasses hpos hwins
      rw [heq, List.append_assoc, htiles.kindAt_append hstart]
      refine kindAt_prefix_mono (List.prefix_append _ _) ?_
      rw [addMatch, if_pos hmulti, kindAt_addGroups r.kinds 1 hstart hstop,
        Match.kindAt_eq_of_isBetween hbetween]

end

/-- A mode has no kind of its own for the text that no rule matches. -/
def Mode.NamesNoKind (mode : Mode) : Prop :=
  mode.defaultKind = none ∨ mode.defaultKind = some ""

/-- A token of a line holds default text of a mode that names no kind for it. -/
def Token.IsUnnamed (g : CompiledGrammar) (line : Array Char) (stack : ModeStack) (t : Token) : Prop :=
  ∃ mode : Mode, mode.NamesNoKind ∧
    ∀ pos, t.start ≤ pos → pos < t.stop → IsDefaultText g line stack mode pos

/-- Two tokens have the same place and text.  Where the first is default text that no mode names a kind for,
each has the fallback kind of its grammar, and elsewhere their kinds are the same. -/
structure Relabels (g h : CompiledGrammar) (line : Array Char) (stack : ModeStack) (t u : Token) : Prop where
  start_eq : t.start = u.start
  stop_eq : t.stop = u.stop
  text_eq : t.text = u.text
  kind_of_unnamed : t.IsUnnamed g line stack → t.kind = g.fallback ∧ u.kind = h.fallback
  kind_of_named : ¬ t.IsUnnamed g line stack → t.kind = u.kind

section

variable {modes : List Mode} {line : Array Char} {stack : ModeStack} {mode : Mode} {pos : Nat}

theorem defaultKind_unnamedGrammar (h : mode.NamesNoKind) :
    (unnamedGrammar modes).defaultKind mode = .data .null := by
  unfold CompiledGrammar.defaultKind
  rcases h with hnone | hempty
  · rw [hnone]
    rfl
  · rw [hempty]
    rfl

theorem namesNoKind_of_defaultKind {v : Value} (h : (unnamedGrammar modes).defaultKind mode = .data v) :
    mode.NamesNoKind := by
  unfold CompiledGrammar.defaultKind at h
  split at h
  · rename_i kind hkind
    split at h
    · rename_i hempty
      exact .inr (hempty ▸ hkind)
    · cases h
  · rename_i hnone
    exact .inl hnone

/-- The same text is default text whatever the fallback kind is. -/
theorem isDefaultText_iff (fallback : Kind) :
    IsDefaultText ⟨modes, fallback⟩ line stack mode pos ↔
      IsDefaultText (unnamedGrammar modes) line stack mode pos := by
  constructor
  · rintro (⟨hpasses, hmode, hrun, hstart, hstop⟩ | ⟨hpasses, hpos, hwins, hmulti, hstart, hstop, hbetween⟩)
    · rw [initial_orElse] at hpasses
      obtain ⟨t, ht, rfl⟩ := hpasses.exists_orElse
      exact .unmatched ht hmode hrun hstart hstop
    · rw [initial_orElse] at hpasses
      obtain ⟨t, ht, rfl⟩ := hpasses.exists_orElse
      exact .between ht hpos hwins hmulti hstart hstop hbetween
  · rintro (⟨hpasses, hmode, hrun, hstart, hstop⟩ | ⟨hpasses, hpos, hwins, hmulti, hstart, hstop, hbetween⟩)
    · have hlifted := hpasses.orElse fallback line modes
      rw [← initial_orElse] at hlifted
      exact .unmatched hlifted hmode hrun hstart hstop
    · have hlifted := hpasses.orElse fallback line modes
      rw [← initial_orElse] at hlifted
      exact .between hlifted hpos hwins hmulti hstart hstop hbetween

theorem isUnnamed_iff (fallback : Kind) {t : Token} :
    t.IsUnnamed ⟨modes, fallback⟩ line stack ↔ t.IsUnnamed (unnamedGrammar modes) line stack := by
  simp only [Token.IsUnnamed, isDefaultText_iff fallback]

/-- In the scan without a fallback kind, the tokens of default text that no mode names a kind for are those
without a name for a kind. -/
theorem isUnnamed_iff_kind {text : String} {result : LineResult} {t : Token}
    (h : scanLine (unnamedGrammar modes) text stack = .ok result) (hmem : t ∈ result.tokens) :
    t.IsUnnamed (unnamedGrammar modes) text.toList.toArray stack ↔ ∃ v, t.kind = .data v := by
  have htiles := tiles_of_scanLine h
  constructor
  · rintro ⟨mode, hmode, hdefault⟩
    have hlt := htiles.start_lt_stop_of_mem t hmem
    have hkind := (hdefault t.start (Nat.le_refl _) hlt).kindAt_eq h
    rw [htiles.kindAt_of_mem hmem (Nat.le_refl _) hlt, Option.some.injEq,
      defaultKind_unnamedGrammar hmode] at hkind
    exact ⟨_, hkind⟩
  · rintro ⟨v, hkind⟩
    rcases hasSource_of_mem_scanLine h t hmem with ⟨name, hname⟩ | ⟨mode, hmode, hdefault⟩
    · cases hkind.symm.trans hname
    · exact ⟨mode, namesNoKind_of_defaultKind (hmode.symm.trans hkind), hdefault⟩

/-- The tokens that two fallback kinds make of one token of the scan without any. -/
theorem relabels_orElse (a b : Kind) {text : String} {result : LineResult} {t : Token}
    (h : scanLine (unnamedGrammar modes) text stack = .ok result) (hmem : t ∈ result.tokens) :
    Relabels ⟨modes, a⟩ ⟨modes, b⟩ text.toList.toArray stack (t.orElse a) (t.orElse b) := by
  have hunnamed : (t.orElse a).IsUnnamed ⟨modes, a⟩ text.toList.toArray stack ↔ ∃ v, t.kind = .data v :=
    (isUnnamed_iff a).trans (isUnnamed_iff_kind h hmem)
  refine ⟨rfl, rfl, rfl, fun hdefault => ?_, fun hother => ?_⟩
  · obtain ⟨v, hkind⟩ := hunnamed.mp hdefault
    exact ⟨by rw [Token.orElse, hkind]; rfl, by rw [Token.orElse, hkind]; rfl⟩
  · cases hkind : t.kind with
    | name name => rw [Token.orElse, Token.orElse, hkind]; rfl
    | data v => exact absurd (hunnamed.mpr ⟨v, hkind⟩) hother

end

/-- The fallback kind only relabels.  With any two of them a table is rejected with the same reports or gives
two grammars, and on every line and incoming stack these fail alike or leave the same stack and the same tokens,
whose kinds differ only where a token is default text that no mode names a kind for. -/
theorem fallback_kind_only_relabels (sources : List (String × GroupSource)) (a b : String) :
    (∃ e, compileSources sources (.name a) = .error e ∧ compileSources sources (.name b) = .error e) ∨
      ∃ g h : CompiledGrammar, compileSources sources (.name a) = .ok g ∧
        compileSources sources (.name b) = .ok h ∧ g.fallback = .name a ∧ h.fallback = .name b ∧
        ∀ text stack,
          (∃ e, scanLine g text stack = .error e ∧ scanLine h text stack = .error e) ∨
            ∃ first second out, scanLine g text stack = .ok ⟨first, out⟩ ∧
              scanLine h text stack = .ok ⟨second, out⟩ ∧
              List.Forall₂ (Relabels g h text.toList.toArray stack) first second := by
  obtain ⟨outcome, houtcome⟩ := exists_compileSources_eq sources
  rw [houtcome, houtcome]
  cases outcome with
  | error e => exact .inl ⟨e, rfl, rfl⟩
  | ok modes =>
      refine .inr ⟨⟨modes, .name a⟩, ⟨modes, .name b⟩, rfl, rfl, rfl, rfl, fun text stack => ?_⟩
      rw [scanLine_orElse (.name a), scanLine_orElse (.name b)]
      cases hscan : scanLine (unnamedGrammar modes) text stack with
      | error e => exact .inl ⟨e, rfl, rfl⟩
      | ok result =>
          refine .inr ⟨_, _, result.stack, rfl, rfl, ?_⟩
          simp only [List.forall₂_map_left_iff, List.forall₂_map_right_iff]
          exact List.forall₂_same.mpr fun t hmem => relabels_orElse _ _ hscan hmem

end ModalHighlight
