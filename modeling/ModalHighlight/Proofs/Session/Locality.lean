import ModalHighlight.Proofs.Session.Consistency

/-!
An edit scans no more lines than it must.  These are the lines that it adds, and of those that follow, the
ones before the first that the same stack reaches as before the edit, both buffers scanned from scratch.
All rows before the change and all rows after the last line scanned keep their states.
-/

namespace ModalHighlight

variable {g : CompiledGrammar} {first mid last : ModeStack} {s t : Session} {p : Splice}

namespace Session

/-- What a change leaves of the states, when so many lines that follow it are scanned again: all rows
before it, and all rows from the first that the same stack reaches. -/
structure KeepsOtherStates (g : CompiledGrammar) (s t : Session) (p : Splice) (again : Nat) : Prop where
  lines_eq : t.lines = p.lines s.lines
  before : ∀ i < p.row, t.state i = s.state i
  within : again ≤ s.lines.length - p.stop
  differs : ∀ i < again, stackInto g t.lines (p.next + i) ≠ stackInto g s.lines (p.stop + i)
  agrees : p.stop + again < s.lines.length →
    stackInto g t.lines (p.next + again) = stackInto g s.lines (p.stop + again)
  after : ∀ i, again ≤ i → p.stop + i < s.lines.length →
    t.state (p.next + i : Nat) = s.state (p.stop + i : Nat)

theorem state_eq_of_getElem? {i j : Nat} (hi : i < t.lines.length) (hj : j < s.lines.length)
    (h : t.states[i]? = s.states[j]?) : t.state i = s.state j := by
  simp only [state, rowIndex?_natCast hi, rowIndex?_natCast hj, h]

/-- Lines without states are all scanned, and scanning goes on after them. -/
theorem rescan_unscanned (hg : g.NeverFails) (added : List String) (first : ModeStack) :
    ∃ fresh mid, Segment g first added fresh mid ∧
      ∀ lines states, rescan g first (added ++ lines) (added.map (fun _ => none) ++ states) =
        (fresh ++ (rescan g mid lines states).1,
          (rescan g mid lines states).2.map (added.length + ·)) := by
  induction added generalizing first with
  | nil =>
      refine ⟨[], first, .nil, fun lines states => ?_⟩
      rcases hrescan : rescan g first lines states with ⟨states', e | count⟩
      · simp [hrescan, Except.map]
      · simp [hrescan, Except.map]
  | cons line rest ih =>
      obtain ⟨result, hresult⟩ := hg line first
      obtain ⟨fresh, mid, hsegment, hrest⟩ := ih result.stack
      refine ⟨_, mid, .cons hresult hsegment, fun lines states => ?_⟩
      rw [List.cons_append, List.map_cons, List.cons_append, rescan_cons (by simp) hresult, hrest]
      rcases rescan g mid lines states with ⟨states', e | count⟩
      · rfl
      · simp [Except.map, Nat.add_right_comm]

/-- The stack that reaches a line after a change is the one that the new lines leave, and that the lines
up to it make of that. -/
theorem stackInto_next {fresh : List (Option LineState)} {new : ModeStack}
    (hbefore : Segment g initialStack (s.lines.take p.row) (s.states.take p.row) mid)
    (hadded : Segment g mid p.added fresh new) (hrow : p.row ≤ s.lines.length) (i : Nat) :
    stackInto g (p.lines s.lines) (p.next + i) =
      stackAfter g ((s.lines.drop p.stop).take i) new := by
  have htake : (p.lines s.lines).take (p.next + i) =
      s.lines.take p.row ++ (p.added ++ (s.lines.drop p.stop).take i) := by
    have hlength : (s.lines.take p.row).length = p.row := List.length_take_of_le hrow
    rw [Splice.lines, Splice.linesOn, Splice.next, Nat.add_assoc, List.take_append, hlength,
      Nat.add_sub_cancel_left, List.take_length_add_append]
    rw [List.take_of_length_le (by omega)]
  rw [stackInto, htake, stackAfter_append hbefore.stackAfter_eq, stackAfter_append hadded.stackAfter_eq]

theorem stackInto_stop {old : ModeStack} {states : List (Option LineState)}
    (hupto : Segment g initialStack (s.lines.take p.stop) states old) (i : Nat) :
    stackInto g s.lines (p.stop + i) = stackAfter g ((s.lines.drop p.stop).take i) old := by
  rw [stackInto, List.take_add, stackAfter_append hupto.stackAfter_eq]

theorem length_lines_of_le {old : List String} (hrow : p.row ≤ old.length) :
    (p.lines old).length = p.next + (old.length - p.stop) := by
  simp only [Splice.lines, Splice.linesOn, Splice.next, List.length_append, List.length_take,
    List.length_drop, Nat.min_eq_left hrow, Nat.add_assoc]

/-- The states of the rows that follow a change come after those of the new lines. -/
theorem getElem?_next {before fresh states : List (Option LineState)}
    (hbefore : before.length = p.row) (hfresh : fresh.length = p.added.length) (i : Nat) :
    (before ++ (fresh ++ states))[p.next + i]? = states[i]? := by
  have hnext : (before ++ fresh).length = p.next := by
    rw [List.length_append, hbefore, hfresh, Splice.next]
  rw [← List.append_assoc, List.getElem?_append_right (by omega), hnext, Nat.add_sub_cancel_left]

/-- A change of a session that is one chain scans the lines that it adds and the ones that follow up to
where the stacks settle. -/
theorem Chained.keepsOtherStates (hg : g.NeverFails) (h : Chained g s)
    (hrow : p.row ≤ s.lines.length) :
    ∃ t again, rescanFrom g (p.pending s) p.row = (t, .ok (p.added.length + again)) ∧
      KeepsOtherStates g s t p again := by
  have hs := h.aligned
  obtain ⟨_, hsegment⟩ := h
  obtain ⟨mid, hbefore, _⟩ := hsegment.cut p.row
  obtain ⟨old, hupto, hafter⟩ := hsegment.cut p.stop
  obtain ⟨fresh, new, hadded, hrescan⟩ := rescan_unscanned hg p.added mid
  obtain ⟨states, _, again, hagain, _, hsettles, hkept⟩ := rescan_segment hg hafter new
  have hstates : (s.states.take p.row).length = p.row :=
    hbefore.length_eq.trans (List.length_take_of_le hrow)
  have happlied : rescanFrom g (p.pending s) p.row =
      (⟨p.lines s.lines, s.states.take p.row ++ (fresh ++ states)⟩, .ok (p.added.length + again)) := by
    rw [rescanFrom_pending hs hrow (stackBefore_eq hbefore hrow), Splice.linesOn, Splice.statesOn,
      hrescan, hagain]
    rfl
  have hsize := length_lines_of_le (p := p) hrow
  have hnext : p.row ≤ p.next := Nat.le_add_right _ _
  have hwithin : again ≤ s.lines.length - p.stop := by
    simpa using hsettles.le_length
  refine ⟨_, again, happlied, rfl, fun i hi => ?_, hwithin, fun i hi => ?_, fun hi => ?_,
    fun i hi hlast => ?_⟩
  · apply state_eq_of_getElem?
    · exact hsize ▸ (by omega)
    · omega
    · rw [List.getElem?_append_left (by omega), List.getElem?_take_of_lt hi]
  · rw [stackInto_next hbefore hadded hrow, stackInto_stop hupto]
    exact hsettles.differs i hi
  · rw [stackInto_next hbefore hadded hrow, stackInto_stop hupto]
    exact hsettles.agrees (by simp; omega)
  · apply state_eq_of_getElem?
    · exact hsize ▸ (by omega)
    · exact hlast
    · have hold : states[i]? = s.states[p.stop + i]? := by
        have hnth := congrArg (fun states => states[i - again]?) hkept
        simpa [List.getElem?_drop, hi, Nat.add_assoc] using hnth
      rw [getElem?_next hstates hadded.length_eq, hold]

/-- An edit scans no more than it must.  With a grammar that scans every line, an edit of a session, after
any history, finds its row out of range and changes nothing, or it scans the lines that it adds and those
that follow up to the first that the same stack reaches as before.  All other rows keep their states. -/
theorem edit_scans_no_more_than_it_must (g : CompiledGrammar)
    (hg : ∀ text stack, ∃ result, scanLine g text stack = .ok result) {s : Session}
    (hs : Reachable g s) (edit : Edit) :
    (∃ row, s.splice? edit = .error row ∧ s.apply g edit = (s, .error (.rowOutOfRange row))) ∨
      ∃ p again, s.splice? edit = .ok p ∧
        (s.apply g edit).2 = .ok (p.added.length + again) ∧
        KeepsOtherStates g s (s.apply g edit).1 p again := by
  have hchained := hs.chained hg
  rw [apply_eq hchained.aligned]
  rcases hsplice : s.splice? edit with row | p
  · exact Or.inl ⟨row, rfl, rfl⟩
  · obtain ⟨t, again, happlied, hkeeps⟩ :=
      hchained.keepsOtherStates hg (splice?_bounds hsplice).1
    refine Or.inr ⟨p, again, rfl, ?_⟩
    simp only [happlied]
    exact ⟨trivial, hkeeps⟩

end Session

namespace LocalityWitness

open SessionWitness

/-- A bracket that is open for two lines. -/
def session : Session :=
  (Session.empty.setLines grammar ["(a", "b", "c)", "d"]).1

theorem reachable_session : Session.Reachable grammar session :=
  ⟨["(a", "b", "c)", "d"], session, [], rfl, rfl⟩

/-- Without the bracket the two lines are scanned again, and the line after them is not. -/
theorem removing_a_bracket_scans_its_lines :
    session.splice? (.updateLine 0 "a") = .ok ⟨0, 1, ["a"]⟩ ∧
      (session.apply grammar (.updateLine 0 "a")).2 = .ok 3 ∧
      Session.KeepsOtherStates grammar session (session.apply grammar (.updateLine 0 "a")).1
        ⟨0, 1, ["a"]⟩ 2 := by
  have hsplice : session.splice? (.updateLine 0 "a") = .ok ⟨0, 1, ["a"]⟩ := rfl
  have hcount : (session.apply grammar (.updateLine 0 "a")).2 = .ok 3 := rfl
  refine ⟨hsplice, hcount, ?_⟩
  rcases Session.edit_scans_no_more_than_it_must grammar grammar_scans_every_line reachable_session
    (.updateLine 0 "a") with ⟨row, hrow, _⟩ | ⟨p, again, hp, hagain, hkeeps⟩
  · cases hsplice.symm.trans hrow
  · obtain rfl := Except.ok.inj (hsplice.symm.trans hp)
    have hthree : 3 = 1 + again := Except.ok.inj (hcount.symm.trans hagain)
    obtain rfl : again = 2 := by omega
    exact hkeeps

end LocalityWitness

end ModalHighlight
