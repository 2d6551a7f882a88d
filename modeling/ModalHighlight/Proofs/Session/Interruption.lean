import ModalHighlight.Proofs.Session.Consistency

/-!
What a failed edit leaves behind.  A row out of range is found before anything changes.  A scan that fails
comes later: the lines are changed by then, the rows scanned so far have new states, and the row that cannot
be scanned and all after it have what they had, which for a new line is nothing.  A grammar that compiles
fails only through a rule that opens the word for closing a mode, or through a broken match.
-/

namespace ModalHighlight

/-- A rule opens the word for closing a mode, and no mode has that name. -/
def CompiledGrammar.OpensPopWord (g : CompiledGrammar) : Prop :=
  ¬ g.knows popWord ∧ ∃ mode ∈ g.modes, ∃ r ∈ mode.rules, r.transition = .push popWord

theorem CompiledGrammar.Sound.neverFails {g : CompiledGrammar} (hg : g.Sound)
    (h : ¬ g.OpensPopWord) (hwhole : ¬ g.MayBreak) : g.NeverFails := by
  refine exists_scanLine_eq_ok hg ?_ hwhole
  intro mode hmode r hr hpush
  by_contra hlacks
  exact h ⟨hlacks, mode, hmode, r, hr, hpush⟩

namespace Session

variable {g : CompiledGrammar} {first : ModeStack} {lines : List String}
  {states : List (Option LineState)} {s t : Session} {p : Splice} {e : SessionError}

/-- A scan that fails has given states to the lines before the one that fails, and changed no other. -/
theorem rescan_eq_error {err : ScanError} (h : (rescan g first lines states).2 = .error err) :
    ∃ scanned failed rest fresh stack, lines = scanned ++ failed :: rest ∧
      Segment g first scanned fresh stack ∧ scanLine g failed stack = .error err ∧
      (rescan g first lines states).1 = fresh ++ states.drop scanned.length := by
  induction lines generalizing first states with
  | nil => cases h
  | cons line rest ih =>
      rcases states with _ | ⟨old, olds⟩
      · cases h
      rcases rescan_cases g first line old with
        ⟨state, rfl, hin⟩ | ⟨hold, ⟨err', hscan⟩ | ⟨result, hscan⟩⟩
      · rw [rescan_reuse hin] at h
        cases h
      · rw [rescan_fail hold hscan] at h ⊢
        cases h
        exact ⟨[], line, rest, [], first, rfl, .nil, hscan, rfl⟩
      · rw [rescan_cons hold hscan] at h ⊢
        rcases hrest : (rescan g result.stack rest olds).2 with err' | count
        · rw [hrest] at h
          cases h
          obtain ⟨scanned, failed, after, fresh, stack, rfl, hsegment, hfailed, hstates⟩ := ih hrest
          refine ⟨line :: scanned, failed, after, _, stack, rfl, .cons hscan hsegment, hfailed, ?_⟩
          rw [hstates]
          rfl
        · rw [hrest] at h
          cases h

/-- What an edit leaves behind that fails after its change is made. -/
inductive LeftBehind (g : CompiledGrammar) (s : Session) (p : Splice) : SessionError → Session → Prop
  /-- Nothing is scanned after a row without a state. -/
  | unscanned {row : Nat} (hrow : p.row = row + 1) (hbefore : s.states[row]? = some none) :
      LeftBehind g s p .rowBeforeUnscanned (p.pending s)
  /-- The lines before the one that fails have new states. -/
  | scan {first stack : ModeStack} {scanned rest : List String} {failed : String}
      {fresh : List (Option LineState)} {err : ScanError}
      (hfirst : s.stackBefore p.row = .ok first)
      (hlines : p.linesOn s.lines = scanned ++ failed :: rest)
      (hscanned : Segment g first scanned fresh stack)
      (hfailed : scanLine g failed stack = .error err) :
      LeftBehind g s p (.scan err)
        ⟨p.lines s.lines,
          s.states.take p.row ++ (fresh ++ (p.statesOn s.states).drop scanned.length)⟩

theorem stackBefore_eq_error {row : Nat} (h : s.stackBefore row = .error e)
    (hrow : row ≤ s.states.length) :
    e = .rowBeforeUnscanned ∧ ∃ before, row = before + 1 ∧ s.states[before]? = some none := by
  rcases row with _ | before
  · cases h
  · simp only [stackBefore] at h
    split at h
    · cases h
    · rename_i hstate
      cases h
      refine ⟨rfl, before, rfl, ?_⟩
      rcases hbefore : s.states[before]? with _ | _ | state
      · rw [List.getElem?_eq_none_iff] at hbefore
        omega
      · rfl
      · exact absurd hbefore (hstate state)

/-- An edit that fails in a scan, or before one, leaves its change behind. -/
theorem leftBehind_of_rescanFrom (hs : s.Aligned) (hrow : p.row ≤ s.lines.length)
    (h : (rescanFrom g (p.pending s) p.row).2 = .error e) :
    LeftBehind g s p e (rescanFrom g (p.pending s) p.row).1 := by
  have hlength : s.states.length = s.lines.length := hs
  rcases hfirst : s.stackBefore p.row with e' | first
  · obtain ⟨rfl, before, hbefore, hunscanned⟩ := stackBefore_eq_error hfirst (by omega)
    rw [rescanFrom_pending_error hs hrow hfirst] at h ⊢
    cases h
    exact .unscanned hbefore hunscanned
  · rw [rescanFrom_pending hs hrow hfirst] at h ⊢
    rcases hrescan : (rescan g first (p.linesOn s.lines) (p.statesOn s.states)).2 with err | count
    · rw [hrescan] at h
      cases h
      obtain ⟨scanned, failed, rest, fresh, stack, hsplit, hscanned, hfailed, hleft⟩ :=
        rescan_eq_error hrescan
      rw [hleft]
      exact .scan hfirst hsplit hscanned hfailed
    · rw [hrescan] at h
      cases h

/-- The failing scans of a grammar that compiles lack the mode of the word for closing a mode, or break down. -/
theorem LeftBehind.error_eq (h : LeftBehind g s p e t) (hg : g.Sound) :
    e = .scan (.unknownMode popWord) ∨ e = .scan .brokenMatch ∨ e = .rowBeforeUnscanned := by
  rcases h with _ | ⟨_, _, _, hfailed⟩
  · exact Or.inr (Or.inr rfl)
  · rcases opensPopWordAt_or_breaksDown hg hfailed with ⟨rfl, _⟩ | ⟨rfl, _⟩
    · exact Or.inl rfl
    · exact Or.inr (Or.inl rfl)

/-- The stack that reaches a row of such a session is the one that scanning from scratch gives. -/
theorem AgreesWithScan.stackInto_eq (h : AgreesWithScan g s) {row : Nat}
    (hrow : row ≤ s.lines.length) {stack : ModeStack} (hstack : s.stackBefore row = .ok stack) :
    stackInto g s.lines row = .ok stack := by
  rcases row with _ | before
  · cases hstack
    rfl
  · obtain ⟨tokens, reaching, result, hscanned, hscan, hstate⟩ :=
      h.row before s.lines[before] (List.getElem?_eq_getElem hrow)
    rw [state_eq_ok_iff hrow] at hstate
    simp only [stackBefore, hstate, Except.ok.injEq] at hstack
    subst hstack
    have hreaching : stackAfter g (s.lines.take before) initialStack = .ok reaching := by
      rw [stackAfter, hscanned]
      rfl
    rw [stackInto, ← List.take_append_getElem hrow, stackAfter_append hreaching,
      stackAfter_cons hscan]
    rfl

/-- An edit that fails in a scan leaves lines that cannot be scanned from scratch. -/
theorem LeftBehind.not_agreesWithScan (h : LeftBehind g s p e t) (hagrees : AgreesWithScan g s)
    (hrow : p.row ≤ s.lines.length) : ¬ AgreesWithScan g t := by
  rcases h with ⟨hbefore, hunscanned⟩ | @⟨first, stack, scanned, rest, failed, fresh, err, hfirst,
    hlines, hscanned, hfailed⟩
  · rename_i before
    have hlt : before < s.lines.length := by omega
    obtain ⟨_, _, _, _, _, hstate⟩ :=
      hagrees.row before s.lines[before] (List.getElem?_eq_getElem hlt)
    rw [state_eq_ok_iff hlt, hunscanned] at hstate
    cases hstate
  · intro hafter
    have hlength : (s.lines.take p.row).length = p.row := List.length_take_of_le hrow
    have hlast : p.lines s.lines = (s.lines.take p.row ++ scanned) ++ failed :: rest := by
      rw [Splice.lines, hlines, List.append_assoc]
    have hfailedRow : (p.lines s.lines)[(s.lines.take p.row ++ scanned).length]? = some failed := by
      rw [hlast, List.getElem?_append_right (Nat.le_refl _), Nat.sub_self]
      rfl
    obtain ⟨_, reaching, result, hreaching, hscan, _⟩ := hafter.row _ failed hfailedRow
    have hstack : stackAfter g (s.lines.take p.row ++ scanned) initialStack = .ok stack := by
      rw [stackAfter_append (hagrees.stackInto_eq hrow hfirst)]
      exact hscanned.stackAfter_eq
    rw [show (p.lines s.lines).take (s.lines.take p.row ++ scanned).length =
      s.lines.take p.row ++ scanned by rw [hlast, List.take_left]] at hreaching
    rw [stackAfter, hreaching] at hstack
    obtain rfl : reaching = stack := Except.ok.inj hstack
    cases hfailed.symm.trans hscan

/-- A failed edit changes nothing when its row is out of range, and this is the only way to fail unless a rule
opens the word for closing a mode or a match may be a broken one.  Then a scan can fail after the change is made:
the change stays, with the states that it had come to, and a session that was up to date is so no more. -/
theorem failed_edit_changes_nothing_or_stops_halfway {sources : List (String × GroupSource)}
    {fallback : Kind} {g : CompiledGrammar} (hcompile : compileSources sources fallback = .ok g)
    {s : Session} (hs : Reachable g s) {edit : Edit} {e : SessionError}
    (hfails : (s.apply g edit).2 = .error e) :
    (∃ row, s.splice? edit = .error row ∧ e = .rowOutOfRange row ∧ (s.apply g edit).1 = s) ∨
      ((g.OpensPopWord ∨ g.MayBreak) ∧
        (e = .scan (.unknownMode popWord) ∨ e = .scan .brokenMatch ∨ e = .rowBeforeUnscanned) ∧
        ∃ p, s.splice? edit = .ok p ∧ LeftBehind g s p e (s.apply g edit).1 ∧
          (AgreesWithScan g s → ¬ AgreesWithScan g (s.apply g edit).1)) := by
  have hg := sound_of_compileSources hcompile
  have happly : s.apply g edit = _ := apply_eq hs.aligned edit
  rcases hsplice : s.splice? edit with row | p
  · simp only [hsplice] at happly
    rw [happly] at hfails ⊢
    cases hfails
    exact Or.inl ⟨row, rfl, rfl, rfl⟩
  · simp only [hsplice] at happly
    have hrow := (splice?_bounds hsplice).1
    have hleft : LeftBehind g s p e (s.apply g edit).1 := by
      rw [happly] at hfails ⊢
      exact leftBehind_of_rescanFrom hs.aligned hrow hfails
    have herror := hleft.error_eq hg
    have hcause : g.OpensPopWord ∨ g.MayBreak := by
      by_contra hnever
      obtain ⟨hpop, hwhole⟩ := not_or.mp hnever
      have hscans := hg.neverFails hpop hwhole
      rcases (hs.chained hscans).keepsChain hscans edit with ⟨_, count, hcount⟩ | ⟨row, hrefused⟩
      · rw [hcount] at hfails
        cases hfails
      · rw [hrefused] at hfails
        cases hfails
        rcases herror with h | h | h <;> cases h
    exact Or.inr ⟨hcause, herror, p, rfl, hleft,
      fun hagrees => hleft.not_agreesWithScan hagrees hrow⟩

end Session

namespace InterruptionWitness

open FailureWitness

/-- A line that no rule matches. -/
def session : Session :=
  (Session.empty.setLines grammar ["b"]).1

theorem reachable_session : Session.Reachable grammar session :=
  ⟨["b"], session, [], rfl, rfl⟩

theorem session_agreesWithScan : Session.AgreesWithScan grammar session := by
  have hscan : scanLine grammar "b" initialStack = .ok ⟨[⟨.name "text", 0, 1, "b"⟩], ["start"]⟩ := rfl
  have hchained : Session.Chained grammar session := ⟨_, .cons hscan .nil⟩
  exact hchained.agreesWithScan

/-- The new line cannot be scanned: it takes the place of the old one all the same, and has no state.  A row
out of range is refused before that. -/
theorem unscannable_line_stays_without_state :
    (session.apply grammar (.updateLine 0 "ab")).2 = .error (.scan (.unknownMode "pop")) ∧
      (session.apply grammar (.updateLine 0 "ab")).1 = ⟨["ab"], [none]⟩ ∧
      ¬ Session.AgreesWithScan grammar (session.apply grammar (.updateLine 0 "ab")).1 ∧
      (session.apply grammar (.updateLine 1 "ab")).2 = .error (.rowOutOfRange 1) ∧
      (session.apply grammar (.updateLine 1 "ab")).1 = session := by
  have hcompile : compileSources sources (.name "text") = .ok grammar := rfl
  have hfails : (session.apply grammar (.updateLine 0 "ab")).2 =
      .error (.scan (.unknownMode "pop")) := rfl
  have hrefused : (session.apply grammar (.updateLine 1 "ab")).2 = .error (.rowOutOfRange 1) := rfl
  have hhalfway := Session.failed_edit_changes_nothing_or_stops_halfway hcompile reachable_session hfails
  have hnothing :=
    Session.failed_edit_changes_nothing_or_stops_halfway hcompile reachable_session hrefused
  refine ⟨hfails, rfl, ?_, hrefused, ?_⟩
  · rcases hhalfway with ⟨_, _, herror, _⟩ | ⟨_, _, _, _, _, hstale⟩
    · cases herror
    · exact hstale session_agreesWithScan
  · rcases hnothing with ⟨_, _, _, hsame⟩ | ⟨_, herror | herror | herror, _⟩
    · exact hsame
    · cases herror
    · cases herror
    · cases herror

end InterruptionWitness

end ModalHighlight
