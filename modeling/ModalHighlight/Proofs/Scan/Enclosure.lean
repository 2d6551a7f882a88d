import ModalHighlight.Proofs.Scan.Run

/-!
Regions do not depend on what is around them.  A scan looks at the innermost mode only, and what it does to the
open modes leaves the ones further out alone, with one exception: when the only open mode is closed, the first
mode takes its place, whereas inside others it would just be gone.  A scan that never comes to this point does
the same inside any other modes.
-/

namespace ModalHighlight

open ScanState

namespace OpenModes

/-- Open modes inside others, which are given as a stack. -/
def inside (m : OpenModes) (outer : ModeStack) : OpenModes :=
  { m with around := m.around ++ outer.reverse }

theorem stack_inside (m : OpenModes) (outer : ModeStack) : (m.inside outer).stack = outer ++ m.stack := by
  simp [inside, stack]

theorem length_stack_eq_one_iff {m : OpenModes} : m.stack.length = 1 ↔ m.around = [] := by
  simp [stack]

theorem ofStack_append (outer : ModeStack) {inner : ModeStack} (hinner : inner ≠ []) :
    ofStack (outer ++ inner) = (ofStack inner).inside outer := by
  unfold ofStack
  rw [List.reverse_append]
  cases hrev : inner.reverse with
  | nil => exact absurd (List.reverse_eq_nil_iff.mp hrev) hinner
  | cons top around => rfl

/-- Inside other modes a transition does the same, unless it closes the only mode there is. -/
theorem apply_inside (m : OpenModes) (outer : ModeStack) {transition : Transition}
    (h : transition = .pop → m.around ≠ []) :
    (m.inside outer).apply transition = (m.apply transition).inside outer := by
  cases transition with
  | stay => rfl
  | push name => rfl
  | switch name => rfl
  | pop =>
      obtain ⟨next, around, haround⟩ := List.exists_cons_of_ne_nil (h rfl)
      simp only [apply, pop, inside, haround, List.cons_append]

end OpenModes

namespace ScanState

/-- A state of a scan inside other modes. -/
def inside (s : ScanState) (outer : ModeStack) : ScanState :=
  { s with modes := s.modes.inside outer }

variable {g : CompiledGrammar} {line : Array Char} {s t : ScanState} {outer : ModeStack}

theorem flushAs_inside (kind : Kind) (s : ScanState) (outer : ModeStack) :
    (s.inside outer).flushAs line kind = (s.flushAs line kind).inside outer := by
  unfold flushAs
  cases hrun : s.run <;> simp only [inside, hrun]

theorem accept_inside (kind : Kind) {r : CompiledRule} (m : Match) (s : ScanState) (outer : ModeStack)
    (h : r.transition = .pop → s.modes.around ≠ []) :
    (s.inside outer).accept line kind r m = (s.accept line kind r m).inside outer := by
  have hmodes := s.modes.apply_inside outer h
  rw [← flushAs_modes line kind s] at hmodes
  simp only [accept, flushAs_inside]
  by_cases hempty : m.stop = s.pos
  · simp only [inside, flushAs_pos, if_pos hempty, hmodes]
    rfl
  · simp only [inside, flushAs_pos, if_neg hempty, hmodes]

/-- A step inside other modes, where it does not close the only mode. -/
theorem Advance.inside (h : Advance g line s t) (outer : ModeStack)
    (hpop : ∀ mode r m, s.Wins g line mode r m → r.transition = .pop → s.modes.around ≠ []) :
    Advance g line (s.inside outer) (t.inside outer) := by
  obtain ⟨hpos, hmove⟩ := h
  refine ⟨hpos, ?_⟩
  cases hmove with
  | skip hmode hnone => exact .skip (s := s.inside outer) hmode hnone
  | @accept mode r m hwins =>
      rw [← accept_inside _ m s outer (hpop mode r m hwins)]
      exact .accept (s := s.inside outer) hwins

theorem finish_inside (outer : ModeStack) (h : s.finish g line = .ok t) :
    (s.inside outer).finish g line = .ok (t.inside outer) := by
  rw [finish_eq_ok_iff] at h ⊢
  rcases h with ⟨hrun, rfl⟩ | ⟨start, mode, hrun, hmode, rfl⟩
  · exact Or.inl ⟨hrun, rfl⟩
  · exact Or.inr ⟨start, mode, hrun, hmode, (flushAs_inside _ s outer).symm⟩

end ScanState

/-- In the scan of a line from a stack, a rule closes the only mode that is open. -/
def ClosesOnlyMode (g : CompiledGrammar) (line : Array Char) (stack : ModeStack) : Prop :=
  ∃ s mode r m, Passes g line (initial g stack) s ∧ s.pos < line.size ∧ s.Wins g line mode r m ∧
    r.transition = .pop ∧ s.modes.stack.length = 1

section

variable {g : CompiledGrammar} {inner outer : ModeStack}

/-- A scan that never closes the only mode is the same inside other modes. -/
theorem passes_inside {line : Array Char} {s : ScanState} (h : Passes g line (initial g inner) s)
    (hstays : ¬ ClosesOnlyMode g line inner) (outer : ModeStack) :
    Passes g line ((initial g inner).inside outer) (s.inside outer) := by
  induction h with
  | refl => exact .refl
  | @tail s t hreach hlast ih =>
      refine ih.tail (hlast.inside outer fun mode r m hwins hpop haround => ?_)
      exact hstays ⟨s, mode, r, m, hreach, hlast.1, hwins, hpop,
        OpenModes.length_stack_eq_one_iff.mpr haround⟩

theorem initial_append (hne : inner ≠ []) (hinner : ∀ name ∈ inner, g.knows name)
    (houter : ∀ name ∈ outer, g.knows name) :
    initial g (outer ++ inner) = (initial g inner).inside outer := by
  have hrepair : g.repair (outer ++ inner) = (g.repair inner).inside outer := by
    have hall : ∀ name ∈ outer ++ inner, g.knows name := by
      intro name hname
      rcases List.mem_append.mp hname with h | h
      · exact houter name h
      · exact hinner name h
    rw [CompiledGrammar.repair, CompiledGrammar.repair, List.filter_eq_self.mpr hall,
      List.filter_eq_self.mpr hinner, OpenModes.ofStack_append outer hne]
  rw [initial, hrepair]
  rfl

/-- A line is scanned alike inside other modes.  If its scan from a stack never closes the only mode that is
open, then from that stack put on top of any other it gives the same tokens, and the other stack is left under
its own. -/
theorem scanLine_inside {line : String} {result : LineResult} (hne : inner ≠ [])
    (hinner : ∀ name ∈ inner, g.knows name) (houter : ∀ name ∈ outer, g.knows name)
    (hscan : scanLine g line inner = .ok result)
    (hstays : ¬ ClosesOnlyMode g line.toList.toArray inner) :
    scanLine g line (outer ++ inner) = .ok ⟨result.tokens, outer ++ result.stack⟩ := by
  obtain ⟨s, t, hpasses, hend, hfinish, rfl⟩ := scanLine_eq_ok_iff.mp hscan
  refine scanLine_eq_ok_iff.mpr ⟨s.inside outer, t.inside outer, ?_, hend, finish_inside outer hfinish, ?_⟩
  · rw [initial_append hne hinner houter]
    exact passes_inside hpasses hstays outer
  · rw [← OpenModes.stack_inside]
    rfl

end

namespace EnclosureWitness

/-- Brackets open a mode and close it again. -/
def grammar : CompiledGrammar :=
  ⟨[⟨"start", [⟨["open"], .ofChar '(', .push "bracket"⟩], none⟩,
    ⟨"bracket", [⟨["close"], .ofChar ')', .pop⟩, ⟨["open"], .ofChar '(', .push "bracket"⟩],
      some "inside"⟩],
    .name "text"⟩

/-- The first mode stays outermost. -/
theorem head?_stack_of_passes {line : Array Char} {s : ScanState}
    (h : Passes grammar line (initial grammar initialStack) s) : s.modes.stack.head? = some startName := by
  refine h.preserves (P := fun t => t.modes.stack.head? = some startName) ?_ rfl
  rintro a b ha ⟨_, _ | @⟨mode, r, m, hwins⟩⟩
  · exact ha
  · have hrules : ∀ mode ∈ grammar.modes, ∀ r ∈ mode.rules,
        r.transition = .push "bracket" ∨ r.transition = .pop := by decide
    rw [accept_modes]
    rcases hrules mode (List.mem_of_find?_eq_some hwins.1) r (firstMatch_eq_some hwins.2.1).1 with
      htransition | htransition
    · rw [htransition, OpenModes.apply, OpenModes.stack_push, List.head?_append, ha, Option.some_or]
    · rw [htransition, OpenModes.apply, OpenModes.pop]
      split
      · rfl
      · rename_i top around haround
        simpa [OpenModes.stack, haround] using ha

theorem not_closesOnlyMode (line : Array Char) : ¬ ClosesOnlyMode grammar line initialStack := by
  rintro ⟨s, mode, r, m, hreach, _, hwins, hpop, hlength⟩
  have haround := OpenModes.length_stack_eq_one_iff.mp hlength
  have htop : s.modes.top = startName := by
    simpa [OpenModes.stack, haround] using head?_stack_of_passes hreach
  have hmode : mode = ⟨"start", [⟨["open"], .ofChar '(', .push "bracket"⟩], none⟩ := by
    have hfound := hwins.1
    rw [htop] at hfound
    exact (Option.some.inj hfound).symm
  have hr := (firstMatch_eq_some hwins.2.1).1
  rw [hmode, List.mem_singleton] at hr
  rw [hr] at hpop
  cases hpop

/-- The bracket that is closed is the inner one; the one around the line stays open. -/
theorem brackets_inside_a_bracket :
    ([startName] ≠ [] ∧ (∀ name ∈ [startName], grammar.knows name) ∧
      ∀ name ∈ ["bracket", "bracket"], grammar.knows name) ∧
    scanLine grammar "(a)b" [startName] = .ok
      ⟨[⟨.name "open", 0, 1, "("⟩, ⟨.name "inside", 1, 2, "a"⟩, ⟨.name "close", 2, 3, ")"⟩,
        ⟨.name "text", 3, 4, "b"⟩], ["start"]⟩ ∧
    ¬ ClosesOnlyMode grammar "(a)b".toList.toArray [startName] ∧
    scanLine grammar "(a)b" ["bracket", "bracket", "start"] = .ok
      ⟨[⟨.name "open", 0, 1, "("⟩, ⟨.name "inside", 1, 2, "a"⟩, ⟨.name "close", 2, 3, ")"⟩,
        ⟨.name "text", 3, 4, "b"⟩], ["bracket", "bracket", "start"]⟩ := by
  have hne : [startName] ≠ [] := List.cons_ne_nil _ _
  have hinner : ∀ name ∈ [startName], grammar.knows name := by decide
  have houter : ∀ name ∈ ["bracket", "bracket"], grammar.knows name := by decide
  have hscan : scanLine grammar "(a)b" [startName] = .ok
      ⟨[⟨.name "open", 0, 1, "("⟩, ⟨.name "inside", 1, 2, "a"⟩, ⟨.name "close", 2, 3, ")"⟩,
        ⟨.name "text", 3, 4, "b"⟩], ["start"]⟩ := rfl
  have hstays := not_closesOnlyMode "(a)b".toList.toArray
  exact ⟨⟨hne, hinner, houter⟩, hscan, hstays, scanLine_inside hne hinner houter hscan hstays⟩

end EnclosureWitness

end ModalHighlight
