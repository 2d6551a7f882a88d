import ModalHighlight.Proofs.Scan.Run
import Mathlib.Data.List.Chain

/-!
When unmatched text gets its kind.  A scan leaves a run of unmatched characters open, and gives it the
default kind of the mode that is innermost when the run ends.  Beside it stands a scan without runs, which
labels each unmatched character as it passes it.  No transition happens while a run is open, so joining the
characters that have no match between them gives the tokens of the scan, and no character changes its kind.
-/

namespace ModalHighlight

/-- What a scan without runs takes from a line at a time. -/
inductive Piece
  /-- A character that no rule matches, or that an empty match lets pass. -/
  | single (t : Token)
  /-- The tokens of a match.  An empty match has none, but still parts what is before it from what is
  after it. -/
  | matched (tokens : List Token)

/-- One token for two that follow each other. -/
def Token.join (t u : Token) : Token :=
  ⟨t.kind, t.start, u.stop, t.text ++ u.text⟩

/-- The tokens of pieces after a run that they may go on: single characters without a match between them
are joined. -/
def joinAfter : Option Token → List Piece → List Token
  | run, [] => run.toList
  | run, .matched tokens :: rest => run.toList ++ tokens ++ joinAfter none rest
  | none, .single t :: rest => joinAfter (some t) rest
  | some run, .single t :: rest => joinAfter (some (run.join t)) rest

/-- Pieces before others. -/
def prepend (first : List Piece) (found : List Piece × OpenModes) : List Piece × OpenModes :=
  (first ++ found.1, found.2)

/-- The result of a line after tokens, an open run and pieces. -/
def resultAfter (tokens : List Token) (run : Option Token) (found : List Piece × OpenModes) :
    LineResult :=
  ⟨tokens ++ joinAfter run found.1, found.2.stack⟩

/-- Two pieces that would be joined are of one kind. -/
def Piece.Agree : Piece → Piece → Prop
  | .single t, .single u => t.kind = u.kind
  | _, _ => True

section

variable (g : CompiledGrammar) (line : Array Char)

/-- The character at a position, with the default kind of a mode. -/
def singleAt (mode : Mode) (pos : Nat) : Piece :=
  .single (.ofSlice line (g.defaultKind mode) pos (pos + 1))

/-- The tokens of a match at a position of a mode. -/
def matchedAt (mode : Mode) (r : CompiledRule) (m : Match) (pos : Nat) : Piece :=
  .matched (addMatch line (g.defaultKind mode) r m pos #[]).toList

/-- The scan without runs, from a position on: the pieces it takes, and the modes that are open in the
end.  Where a match is empty, the character after it is taken under the mode that is innermost then, and no
rule of that mode is tried on it. -/
def piecesFrom (pos : Nat) (modes : OpenModes) : Except ScanError (List Piece × OpenModes) :=
  if pos < line.size then
    match g.mode? modes.top with
    | none => .error (.unknownMode modes.top)
    | some mode =>
        match hfirst : firstMatch mode.rules line pos with
        | none => (piecesFrom (pos + 1) modes).map (prepend [singleAt g line mode pos])
        | some (r, m) =>
            if m.isBroken then .error .brokenMatch
            else if m.stop = pos then
              match g.mode? (modes.apply r.transition).top with
              | none => .error (.unknownMode (modes.apply r.transition).top)
              | some under =>
                  (piecesFrom (pos + 1) (modes.apply r.transition)).map
                    (prepend [matchedAt g line mode r m pos, singleAt g line under pos])
            else
              (piecesFrom m.stop (modes.apply r.transition)).map
                (prepend [matchedAt g line mode r m pos])
  else .ok ([], modes)
termination_by line.size - pos
decreasing_by
  · omega
  · omega
  · have hbounds := firstMatch_bounds hfirst (by omega)
    omega

/-- The pieces of a line from an incoming stack. -/
def pieces (g : CompiledGrammar) (text : String) (stack : ModeStack) :
    Except ScanError (List Piece × OpenModes) :=
  piecesFrom g text.toList.toArray 0 (g.repair stack)

/-- A line's result without runs: its pieces joined. -/
def scanLineBySingles (g : CompiledGrammar) (text : String) (stack : ModeStack) :
    Except ScanError LineResult :=
  (pieces g text stack).map (resultAfter [] none)

end

section

variable {line : Array Char}

theorem addToken_append (kind : Kind) (start stop : Nat) (tokens : Array Token) :
    (addToken line kind start stop tokens).toList =
      tokens.toList ++ (addToken line kind start stop #[]).toList := by
  unfold addToken
  split
  · rw [Array.toList_push, Array.toList_push]
    rfl
  · exact (List.append_nil _).symm

theorem addGroups_append (gap : Kind) (m : Match) (kinds : List String) (index cursor : Nat)
    (tokens : Array Token) :
    (addGroups line gap m kinds index cursor tokens).toList =
      tokens.toList ++ (addGroups line gap m kinds index cursor #[]).toList := by
  induction kinds generalizing index cursor tokens with
  | nil => exact addToken_append gap cursor m.stop tokens
  | cons kind rest ih =>
      rw [addGroups, addGroups]
      split
      · exact ih (index + 1) cursor tokens
      · dsimp only
        split
        · exact ih (index + 1) cursor tokens
        · rw [ih, addToken_append, addToken_append gap _ _ tokens,
            ih _ _ (addToken line (.name kind) _ _ _), addToken_append _ _ _ (addToken line gap _ _ _)]
          simp only [List.append_assoc]

/-- The tokens of a match do not depend on those before it. -/
theorem addMatch_append (gap : Kind) (r : CompiledRule) (m : Match) (start : Nat)
    (tokens : Array Token) :
    (addMatch line gap r m start tokens).toList =
      tokens.toList ++ (addMatch line gap r m start #[]).toList := by
  unfold addMatch
  split
  · exact addGroups_append gap m r.kinds 1 start tokens
  · exact addToken_append _ start m.stop tokens

theorem sliceText_append {start middle stop : Nat} (hfirst : start ≤ middle) (hlast : middle ≤ stop) :
    sliceText line start middle ++ sliceText line middle stop = sliceText line start stop := by
  rw [sliceText, sliceText, sliceText, ← String.ofList_append, ← Array.toList_append,
    Array.extract_append_extract, Nat.min_eq_left hfirst, Nat.max_eq_right hlast]

theorem join_ofSlice (kind : Kind) {start middle stop : Nat} (hfirst : start ≤ middle)
    (hlast : middle ≤ stop) :
    (Token.ofSlice line kind start middle).join (.ofSlice line kind middle stop) =
      .ofSlice line kind start stop := by
  simp only [Token.ofSlice, Token.join, sliceText_append hfirst hlast]

end

theorem joinAfter_matched (run : Option Token) (tokens : List Token) (rest : List Piece) :
    joinAfter run (.matched tokens :: rest) = run.toList ++ tokens ++ joinAfter none rest := by
  cases run <;> rfl

theorem map_resultAfter {first : List Piece} {tokens tokens' : List Token} {run run' : Option Token}
    (h : ∀ rest, tokens ++ joinAfter run (first ++ rest) = tokens' ++ joinAfter run' rest)
    (found : Except ScanError (List Piece × OpenModes)) :
    found.map (resultAfter tokens' run') = (found.map (prepend first)).map (resultAfter tokens run) := by
  rcases found with e | ⟨rest, out⟩
  · rfl
  · exact congrArg (fun tokens => Except.ok (LineResult.mk tokens out.stack)) (h rest).symm

namespace ScanState

section

variable (g : CompiledGrammar) (line : Array Char)

/-- The result of a line whose scan has come to a state. -/
def complete (n : Nat) (s : ScanState) : Except ScanError LineResult :=
  match s.steps g line n with
  | .error e => .error e
  | .ok s =>
      match s.finish g line with
      | .error e => .error e
      | .ok s => .ok ⟨s.tokens.toList, s.modes.stack⟩

/-- The open run of a state as a token: of the innermost mode, from the start of the run up to the
position. -/
def OpenRun (s : ScanState) (run : Option Token) : Prop :=
  (s.run = none ∧ run = none) ∨
    ∃ start mode, s.run = some start ∧ start < s.pos ∧ g.mode? s.modes.top = some mode ∧
      run = some (.ofSlice line (g.defaultKind mode) start s.pos)

end

variable {g : CompiledGrammar} {line : Array Char} {s : ScanState} {run : Option Token}
  {mode : Mode} {m : Match}

/-- The character that joins a run is joined to its token. -/
theorem OpenRun.skip (h : OpenRun g line s run) (hmode : g.mode? s.modes.top = some mode) :
    ∃ longer, OpenRun g line s.skip longer ∧
      ∀ rest, joinAfter run (singleAt g line mode s.pos :: rest) = joinAfter longer rest := by
  rcases h with ⟨hrun, rfl⟩ | ⟨start, mode', hrun, hlt, hmode', rfl⟩
  · refine ⟨_, Or.inr ⟨s.pos, mode, ?_, Nat.lt_succ_self _, hmode, rfl⟩, fun rest => rfl⟩
    simp [ScanState.skip, hrun]
  · obtain rfl : mode' = mode := Option.some.inj (hmode'.symm.trans hmode)
    refine ⟨_, Or.inr ⟨start, mode', ?_, Nat.lt_succ_of_lt hlt, hmode, rfl⟩, fun rest => ?_⟩
    · simp [ScanState.skip, hrun]
    · rw [singleAt, joinAfter, join_ofSlice _ (Nat.le_of_lt hlt) (Nat.le_succ _)]
      rfl

/-- The run becomes its token when it ends. -/
theorem OpenRun.flushAs (h : OpenRun g line s run) (hmode : g.mode? s.modes.top = some mode) :
    (s.flushAs line (g.defaultKind mode)).tokens.toList = s.tokens.toList ++ run.toList := by
  rcases h with ⟨hrun, rfl⟩ | ⟨start, mode', hrun, hlt, hmode', rfl⟩
  · simp [ScanState.flushAs, hrun]
  · obtain rfl : mode' = mode := Option.some.inj (hmode'.symm.trans hmode)
    simp [ScanState.flushAs, hrun, addToken, hlt]

/-- A match ends the run, and its tokens follow. -/
theorem OpenRun.accept (h : OpenRun g line s run) (hmode : g.mode? s.modes.top = some mode)
    (r : CompiledRule) (m : Match) (rest : List Piece) :
    s.tokens.toList ++ joinAfter run (matchedAt g line mode r m s.pos :: rest) =
      (s.accept line (g.defaultKind mode) r m).tokens.toList ++ joinAfter none rest := by
  rw [accept_tokens, addMatch_append, h.flushAs hmode, matchedAt, joinAfter_matched]
  simp only [List.append_assoc]

/-- A match with text leaves no run. -/
theorem openRun_accept (hmoves : m.stop ≠ s.pos) (kind : Kind) (r : CompiledRule) :
    OpenRun g line (s.accept line kind r m) none :=
  Or.inl ⟨by rw [accept_run, if_neg hmoves], rfl⟩

/-- An empty match leaves a run of one character, under the mode that is innermost after it. -/
theorem openRun_accept_empty {r : CompiledRule} (hempty : m.stop = s.pos)
    (hmode : g.mode? (s.modes.apply r.transition).top = some mode) (kind : Kind) :
    OpenRun g line (s.accept line kind r m)
      (some (.ofSlice line (g.defaultKind mode) s.pos (s.pos + 1))) := by
  refine Or.inr ⟨s.pos, mode, ?_, ?_, ?_, ?_⟩
  · rw [accept_run, if_pos hempty]
  · rw [accept_pos, if_pos hempty]
    exact Nat.lt_succ_self _
  · rwa [accept_modes]
  · rw [accept_pos, if_pos hempty]

section

variable {n : Nat} (hn : line.size ≤ s.pos + n)

include hn

theorem complete_of_size_le (h : OpenRun g line s run) (hpos : line.size ≤ s.pos) :
    s.complete g line n = .ok ⟨s.tokens.toList ++ run.toList, s.modes.stack⟩ := by
  have hsteps : s.steps g line n = .ok s := steps_eq_ok_of_passes .refl hpos hn
  rcases h with ⟨hrun, rfl⟩ | ⟨start, mode, hrun, hlt, hmode, rfl⟩
  · have hfinish : s.finish g line = .ok s := finish_eq_ok_iff.mpr (Or.inl ⟨hrun, rfl⟩)
    simp only [complete, hsteps, hfinish, Option.toList_none, List.append_nil]
  · have hfinish : s.finish g line = .ok (s.flushAs line (g.defaultKind mode)) :=
      finish_eq_ok_iff.mpr (Or.inr ⟨start, mode, hrun, hmode, rfl⟩)
    have hopen : OpenRun g line s (some (.ofSlice line (g.defaultKind mode) start s.pos)) :=
      Or.inr ⟨start, mode, hrun, hlt, hmode, rfl⟩
    simp only [complete, hsteps, hfinish, hopen.flushAs hmode, flushAs_modes]

theorem complete_eq_error (hmode : g.mode? s.modes.top = none)
    (hneeds : s.pos < line.size ∨ s.run ≠ none) :
    s.complete g line n = .error (.unknownMode s.modes.top) := by
  by_cases hpos : s.pos < line.size
  · have hstep : step g line s = .error (.unknownMode s.modes.top) :=
      step_eq_error_iff.mpr (Or.inl ⟨hmode, rfl⟩)
    simp only [complete, steps_eq_error_of_passes .refl hpos hstep hn]
  · have hfinish : s.finish g line = .error (.unknownMode s.modes.top) :=
      finish_eq_error_iff.mpr ⟨hneeds.resolve_left hpos, hmode, rfl⟩
    simp only [complete, steps_eq_ok_of_passes .refl (Nat.not_lt.mp hpos) hn, hfinish]

theorem complete_eq_error_of_breaks (hpos : s.pos < line.size) (hbreaks : s.Breaks g line) :
    s.complete g line n = .error .brokenMatch := by
  have hstep : step g line s = .error .brokenMatch := step_eq_error_iff.mpr (Or.inr ⟨hbreaks, rfl⟩)
  simp only [complete, steps_eq_error_of_passes .refl hpos hstep hn]

theorem exists_complete_eq {t : ScanState} (hadvance : Advance g line s t) :
    ∃ k, line.size ≤ t.pos + k ∧ s.complete g line n = t.complete g line k := by
  obtain ⟨k, hk, hsteps⟩ := steps_of_passes (Relation.ReflTransGen.single hadvance) hn
  exact ⟨k, hk, by simp only [complete, hsteps]⟩

end

/-- A scan with an open run goes on as the scan without runs does. -/
theorem complete_eq {pos : Nat} {modes : OpenModes} {n : Nat} (hpos : s.pos = pos)
    (hmodes : s.modes = modes) (h : OpenRun g line s run) (hn : line.size ≤ s.pos + n) :
    s.complete g line n =
      (piecesFrom g line pos modes).map (resultAfter s.tokens.toList run) := by
  fun_induction piecesFrom g line pos modes generalizing s run n with
  | case1 pos modes hlt hmode =>
      subst hpos hmodes
      exact complete_eq_error hn hmode (Or.inl hlt)
  | case2 pos modes hlt mode hmode hnone ih =>
      subst hpos hmodes
      obtain ⟨longer, hlonger, hjoin⟩ := h.skip hmode
      obtain ⟨k, hk, hcomplete⟩ := exists_complete_eq hn ⟨hlt, .skip hmode hnone⟩
      rw [hcomplete, ih (s := s.skip) rfl rfl hlonger hk]
      exact map_resultAfter (fun rest => congrArg _ (hjoin rest)) _
  | case3 pos modes hlt mode hmode r m hfirst hbroken =>
      subst hpos hmodes
      exact complete_eq_error_of_breaks hn hlt ⟨mode, r, m, hmode, hfirst, hbroken⟩
  | case4 modes mode hmode r m hwhole hnext hlt hfirst =>
      subst hmodes
      obtain ⟨k, hk, hcomplete⟩ := exists_complete_eq hn
        ⟨hpos ▸ hlt, .accept ⟨hmode, hpos ▸ hfirst, Bool.eq_false_iff.mpr hwhole⟩⟩
      rw [hcomplete, complete_eq_error hk (by rwa [accept_modes]), accept_modes]
      · rfl
      · rw [accept_run, if_pos hpos.symm]
        exact Or.inr (Option.some_ne_none _)
  | case5 modes mode hmode r m hwhole under hunder hlt hfirst ih =>
      subst hmodes
      obtain ⟨k, hk, hcomplete⟩ := exists_complete_eq hn
        ⟨hpos ▸ hlt, .accept ⟨hmode, hpos ▸ hfirst, Bool.eq_false_iff.mpr hwhole⟩⟩
      have hrun : OpenRun g line (s.accept line (g.defaultKind mode) r m) _ :=
        openRun_accept_empty hpos.symm hunder _
      rw [hcomplete, ih (by rw [accept_pos, if_pos hpos.symm, hpos]) (accept_modes _ _ _ _ _) hrun hk]
      rw [← hpos]
      exact map_resultAfter (fun rest => h.accept hmode r m _) _
  | case6 pos modes hlt mode hmode r m hfirst hwhole hmoves ih =>
      subst hpos hmodes
      obtain ⟨k, hk, hcomplete⟩ := exists_complete_eq hn
        ⟨hlt, .accept ⟨hmode, hfirst, Bool.eq_false_iff.mpr hwhole⟩⟩
      rw [hcomplete, ih (by rw [accept_pos, if_neg hmoves]) (accept_modes _ _ _ _ _)
        (openRun_accept hmoves _ r) hk]
      exact map_resultAfter (fun rest => h.accept hmode r m rest) _
  | case7 pos modes hend =>
      subst hpos hmodes
      rw [complete_of_size_le hn h (Nat.not_lt.mp hend)]
      cases run <;> rfl

end ScanState

section

variable {g : CompiledGrammar} {line : Array Char} {pos : Nat} {modes out : OpenModes}
  {found : List Piece}

theorem exists_of_map_prepend {first : List Piece} {e : Except ScanError (List Piece × OpenModes)}
    (h : e.map (prepend first) = .ok (found, out)) :
    ∃ rest, e = .ok (rest, out) ∧ found = first ++ rest := by
  rcases e with e | ⟨rest, out'⟩
  · cases h
  · cases h
    exact ⟨rest, rfl, rfl⟩

/-- A single character that comes first has the default kind of the innermost mode. -/
theorem kind_of_head?_piecesFrom (h : piecesFrom g line pos modes = .ok (found, out)) {t : Token}
    (ht : found.head? = some (.single t)) :
    ∃ mode, g.mode? modes.top = some mode ∧ t.kind = g.defaultKind mode := by
  rw [piecesFrom] at h
  split at h
  · split at h
    · cases h
    · rename_i mode hmode
      split at h
      · obtain ⟨rest, _, rfl⟩ := exists_of_map_prepend h
        cases ht
        exact ⟨mode, hmode, rfl⟩
      · split at h
        · cases h
        · split at h
          · split at h
            · cases h
            · obtain ⟨rest, _, rfl⟩ := exists_of_map_prepend h
              cases ht
          · obtain ⟨rest, _, rfl⟩ := exists_of_map_prepend h
            cases ht
  · cases h
    cases ht

theorem agree_singleAt {mode : Mode} (hmode : g.mode? modes.top = some mode) (before : Nat)
    (h : piecesFrom g line pos modes = .ok (found, out)) :
    ∀ piece ∈ found.head?, Piece.Agree (singleAt g line mode before) piece := by
  rintro (t | tokens) hpiece
  · obtain ⟨mode', hmode', hkind⟩ := kind_of_head?_piecesFrom h hpiece
    obtain rfl : mode' = mode := Option.some.inj (hmode'.symm.trans hmode)
    exact hkind.symm
  · trivial

/-- Characters that would be joined are of one kind, since no transition parts them. -/
theorem isChain_agree_piecesFrom (h : piecesFrom g line pos modes = .ok (found, out)) :
    found.IsChain Piece.Agree := by
  fun_induction piecesFrom g line pos modes generalizing found with
  | case1 => cases h
  | case2 pos modes hlt mode hmode hnone ih =>
      obtain ⟨rest, hrest, rfl⟩ := exists_of_map_prepend h
      exact List.isChain_cons.mpr ⟨agree_singleAt hmode pos hrest, ih hrest⟩
  | case3 => cases h
  | case4 => cases h
  | case5 modes mode hmode r m hwhole under hunder hlt hfirst ih =>
      obtain ⟨rest, hrest, rfl⟩ := exists_of_map_prepend h
      refine List.isChain_cons.mpr ⟨fun piece _ => trivial, ?_⟩
      exact List.isChain_cons.mpr ⟨agree_singleAt hunder m.stop hrest, ih hrest⟩
  | case6 pos modes hlt mode hmode r m hfirst hwhole hmoves ih =>
      obtain ⟨rest, hrest, rfl⟩ := exists_of_map_prepend h
      exact List.isChain_cons.mpr ⟨fun piece _ => trivial, ih hrest⟩
  | case7 =>
      cases h
      exact .nil

end

/-- Unmatched text has the kind of the mode that let it pass.  Every line comes to the tokens and the stack,
or to the failure, of the scan that labels each unmatched character at once; and the characters that are
joined to one token are of one kind. -/
theorem scanLine_labels_text_as_it_passes (g : CompiledGrammar) (text : String) (stack : ModeStack) :
    scanLine g text stack = scanLineBySingles g text stack ∧
      ∀ found out, pieces g text stack = .ok (found, out) → found.IsChain Piece.Agree := by
  refine ⟨?_, fun found out hfound => isChain_agree_piecesFrom hfound⟩
  have hrun : (ScanState.initial g stack).OpenRun g text.toList.toArray none := Or.inl ⟨rfl, rfl⟩
  exact ScanState.complete_eq rfl rfl hrun (Nat.le_add_left _ _)

namespace LabellingWitness

/-- An empty match before a bracket opens a mode that has its own kind for unmatched text. -/
def grammar : CompiledGrammar :=
  ⟨[⟨"start",
      [⟨["open"], ⟨"(?=[(])", .look .ahead false (.ofChar '('), 0, false⟩,
        .push "inner"⟩],
      none⟩,
    ⟨"inner", [⟨["close"], ⟨"[)]", .ofChar ')', 0, false⟩, .pop⟩], some "inside"⟩],
    .name "text"⟩

/-- The bracket that the empty match lets pass is joined to the text after it, not to the text before. -/
theorem opening_bracket_is_labelled_inside :
    scanLineBySingles grammar "ab(cd)e" initialStack = .ok
        ⟨[⟨.name "text", 0, 2, "ab"⟩, ⟨.name "inside", 2, 5, "(cd"⟩, ⟨.name "close", 5, 6, ")"⟩,
            ⟨.name "text", 6, 7, "e"⟩],
          ["start"]⟩ ∧
      ∃ found out, pieces grammar "ab(cd)e" initialStack = .ok (found, out) ∧
        found.IsChain Piece.Agree := by
  obtain ⟨hscan, hagree⟩ := scanLine_labels_text_as_it_passes grammar "ab(cd)e" initialStack
  have hresult : scanLineBySingles grammar "ab(cd)e" initialStack = .ok
      ⟨[⟨.name "text", 0, 2, "ab"⟩, ⟨.name "inside", 2, 5, "(cd"⟩, ⟨.name "close", 5, 6, ")"⟩,
          ⟨.name "text", 6, 7, "e"⟩],
        ["start"]⟩ := hscan.symm
  refine ⟨hresult, ?_⟩
  cases hpieces : pieces grammar "ab(cd)e" initialStack with
  | error e =>
      rw [scanLineBySingles, hpieces] at hresult
      cases hresult
  | ok found => exact ⟨found.1, found.2, rfl, hagree found.1 found.2 hpieces⟩

end LabellingWitness

end ModalHighlight
