import ModalHighlight.Proofs.Grammar.Accepted
import ModalHighlight.Proofs.Scan.Run

/-!
When a scan fails.  A scan keeps to modes of its grammar, since the rules of a grammar that compiles lead
nowhere else.  Only a rule that opens the word for closing a mode can leave them, if no group has that
name, and the scan then fails unless its match ended the line.  Besides, a scan fails where the match that it
would take is a broken one, which only a pattern that is searched with regard to traces can have.
-/

namespace ModalHighlight

variable {g : CompiledGrammar}

theorem mode?_eq_none_iff {name : String} : g.mode? name = none ↔ ¬ g.knows name := by
  simp [CompiledGrammar.knows]

theorem mem_modes_of_mode?_eq_some {name : String} {mode : Mode} (h : g.mode? name = some mode) :
    mode ∈ g.modes :=
  List.mem_of_find?_eq_some h

theorem knows_of_mode?_eq_some {name : String} {mode : Mode} (h : g.mode? name = some mode) :
    g.knows name := by
  simp [CompiledGrammar.knows, h]

/-- A pattern of the grammar holds a possessive repetition of more than a character, or a condition, so that a
match of it can be a broken one. -/
def CompiledGrammar.MayBreak (g : CompiledGrammar) : Prop :=
  ∃ mode ∈ g.modes, ∃ r ∈ mode.rules, r.pattern.traced = true

namespace OpenModes

/-- The innermost mode, then the ones around it. -/
def names (m : OpenModes) : List String :=
  m.top :: m.around

theorem names_ofStack {stack : ModeStack} {name : String} (h : name ∈ (ofStack stack).names) :
    name = startName ∨ name ∈ stack := by
  unfold ofStack at h
  split at h
  · exact Or.inl (by simpa [start, names] using h)
  · rename_i top around hrev
    exact Or.inr (List.mem_reverse.mp (hrev ▸ h))

theorem names_pop {m : OpenModes} {name : String} (h : name ∈ m.pop.names) :
    name = startName ∨ name ∈ m.names := by
  unfold pop at h
  split at h
  · exact Or.inl (by simpa [start, names] using h)
  · rename_i top around haround
    refine Or.inr (List.mem_cons_of_mem _ ?_)
    rwa [haround]

end OpenModes

/-- An incoming stack is repaired to modes of the grammar. -/
theorem knows_of_mem_repair (hstart : g.knows startName) {stack : ModeStack} {name : String}
    (h : name ∈ (g.repair stack).names) : g.knows name := by
  rcases OpenModes.names_ofStack h with rfl | hmem
  · exact hstart
  · exact (List.mem_filter.mp hmem).2

/-- What a usable rule makes of open modes of the grammar: again such modes, or the word for closing a
mode on top of them. -/
theorem CompiledRule.Sound.apply {r : CompiledRule} (hr : r.Sound g) (hstart : g.knows startName)
    {modes : OpenModes} (h : ∀ name ∈ modes.names, g.knows name) :
    (∀ name ∈ (modes.apply r.transition).around, g.knows name) ∧
      (g.knows (modes.apply r.transition).top ∨
        r.transition = .push popWord ∧ (modes.apply r.transition).top = popWord) := by
  obtain ⟨htop, haround⟩ := List.forall_mem_cons.mp h
  cases htransition : r.transition with
  | stay => exact ⟨haround, Or.inl htop⟩
  | push name =>
      refine ⟨h, ?_⟩
      rcases hr.push name htransition with rfl | hknown
      · exact Or.inr ⟨rfl, rfl⟩
      · exact Or.inl hknown
  | pop =>
      have hpop : ∀ name ∈ modes.pop.names, g.knows name := by
        intro name hname
        rcases OpenModes.names_pop hname with rfl | hmem
        · exact hstart
        · exact h name hmem
      obtain ⟨htop', haround'⟩ := List.forall_mem_cons.mp hpop
      exact ⟨haround', Or.inl htop'⟩
  | switch name => exact ⟨haround, Or.inl (hr.switch name htransition)⟩

section

variable (g : CompiledGrammar) (line : Array Char) (stack : ModeStack)

/-- In a scan of a line from a stack, the first match at some position is a broken one. -/
def BreaksDown : Prop :=
  ∃ s, ScanState.Passes g line (.initial g stack) s ∧ s.pos < line.size ∧ s.Breaks g line

/-- In a scan of a line from a stack, a rule that opens the word for closing a mode wins a match that ends
at a position. -/
def OpensPopWordAt (stop : Nat) : Prop :=
  ∃ s mode r m, ScanState.Passes g line (.initial g stack) s ∧ s.pos < line.size ∧
    s.Wins g line mode r m ∧ r.transition = .push popWord ∧ m.stop = stop

/-- The open modes of a state are modes of the grammar; the innermost may be the word for closing a mode
right after a match that opened it, and a character that an empty match let pass. -/
structure KeepsToModes (s : ScanState) : Prop where
  around : ∀ name ∈ s.modes.around, g.knows name
  top : g.knows s.modes.top ∨ s.modes.top = popWord ∧ ∃ stop, OpensPopWordAt g line stack stop ∧
    (stop = s.pos ∧ s.run = none ∨ stop < s.pos ∧ s.run ≠ none)

end

variable {line : Array Char} {stack : ModeStack} {s t : ScanState}

theorem keepsToModes_initial (hg : g.Sound) : KeepsToModes g line stack (.initial g stack) := by
  have hnames : ∀ name ∈ (g.repair stack).names, g.knows name :=
    fun name hname => knows_of_mem_repair hg.start hname
  obtain ⟨htop, haround⟩ := List.forall_mem_cons.mp hnames
  exact ⟨haround, Or.inl htop⟩

/-- Every step keeps to modes of the grammar in this sense. -/
theorem KeepsToModes.advance (hg : g.Sound) (hs : KeepsToModes g line stack s)
    (hreach : ScanState.Passes g line (.initial g stack) s)
    (hstep : ScanState.Advance g line s t) : KeepsToModes g line stack t := by
  obtain ⟨hpos, hmove⟩ := hstep
  cases hmove with
  | skip hmode => exact ⟨hs.around, Or.inl (knows_of_mode?_eq_some hmode)⟩
  | @accept mode r m hwins =>
      have hr : r.Sound g := hg.rules mode (mem_modes_of_mode?_eq_some hwins.1) r
        (firstMatch_eq_some hwins.2.1).1
      have hnames : ∀ name ∈ s.modes.names, g.knows name :=
        List.forall_mem_cons.mpr ⟨knows_of_mode?_eq_some hwins.1, hs.around⟩
      obtain ⟨haround, htop⟩ := hr.apply hg.start hnames
      rw [← ScanState.accept_modes line (g.defaultKind mode) r m s] at haround htop
      refine ⟨haround, htop.imp_right ?_⟩
      rintro ⟨hpush, hword⟩
      refine ⟨hword, m.stop, ⟨s, mode, r, m, hreach, hpos, hwins, hpush, rfl⟩, ?_⟩
      rw [ScanState.accept_pos, ScanState.accept_run]
      by_cases hempty : m.stop = s.pos
      · simp [hempty]
      · simp [hempty]

/-- So does a whole scan. -/
theorem keepsToModes_of_passes (hg : g.Sound)
    (h : ScanState.Passes g line (.initial g stack) s) : KeepsToModes g line stack s := by
  induction h with
  | refl => exact keepsToModes_initial hg
  | tail hreach hlast ih => exact ih.advance hg hreach hlast

variable {text : String}

/-- A scan that fails needs a mode that the grammar lacks, or it breaks down. -/
theorem needs_mode_or_breaksDown {e : ScanError} (h : scanLine g text stack = .error e) :
    (∃ t, ScanState.Passes g text.toList.toArray (.initial g stack) t ∧ g.mode? t.modes.top = none ∧
      e = .unknownMode t.modes.top ∧
        (t.pos < text.toList.length ∨ t.pos = text.toList.length ∧ t.run ≠ none)) ∨
      (e = .brokenMatch ∧ BreaksDown g text.toList.toArray stack) := by
  obtain ⟨t, hreach, ⟨hpos, hstep⟩ | ⟨hpos, hfinish⟩⟩ := scanLine_eq_error_iff.mp h
  · rcases ScanState.step_eq_error_iff.mp hstep with ⟨hmode, he⟩ | ⟨hbreaks, he⟩
    · exact Or.inl ⟨t, hreach, hmode, he, Or.inl hpos⟩
    · exact Or.inr ⟨he, t, hreach, by simpa using hpos, hbreaks⟩
  · obtain ⟨hrun, hmode, he⟩ := ScanState.finish_eq_error_iff.mp hfinish
    exact Or.inl ⟨t, hreach, hmode, he, Or.inr ⟨hpos, hrun⟩⟩

theorem opensPopWordAt_or_breaksDown (hg : g.Sound) {e : ScanError} (h : scanLine g text stack = .error e) :
    (e = .unknownMode popWord ∧ ¬ g.knows popWord ∧
      ∃ stop < text.toList.length, OpensPopWordAt g text.toList.toArray stack stop) ∨
      (e = .brokenMatch ∧ BreaksDown g text.toList.toArray stack) := by
  refine (needs_mode_or_breaksDown h).imp_left ?_
  rintro ⟨t, hreach, hmode, rfl, hleft⟩
  rcases (keepsToModes_of_passes hg hreach).top with hknown | ⟨hword, stop, hopens, hend⟩
  · exact absurd hknown (mode?_eq_none_iff.mp hmode)
  · rw [hword] at hmode ⊢
    refine ⟨rfl, mode?_eq_none_iff.mp hmode, stop, ?_, hopens⟩
    rcases hleft with hpos | ⟨hpos, hrun⟩
    · omega
    · rcases hend with ⟨_, hnone⟩ | ⟨hlt, _⟩
      · exact absurd hnone hrun
      · omega

/-- Without a pattern that is searched with regard to traces, no scan breaks down. -/
theorem not_breaksDown (h : ¬ g.MayBreak) : ¬ BreaksDown g line stack := by
  rintro ⟨s, _, hpos, mode, r, m, hmode, hfirst, hbroken⟩
  have huntraced : ∀ r ∈ mode.rules, r.pattern.traced = false := by
    intro r hr
    by_contra htraced
    exact h ⟨mode, mem_modes_of_mode?_eq_some hmode, r, hr, by simpa using htraced⟩
  rw [isBroken_of_firstMatch huntraced hfirst (Nat.le_of_lt hpos)] at hbroken
  cases hbroken

/-- A sound grammar in which no rule opens the word for closing a mode, unless it is a mode, and no match can be
a broken one, scans every line from every stack. -/
theorem exists_scanLine_eq_ok (hg : g.Sound)
    (hpop : ∀ mode ∈ g.modes, ∀ r ∈ mode.rules, r.transition = .push popWord → g.knows popWord)
    (hwhole : ¬ g.MayBreak) (text : String) (stack : ModeStack) :
    ∃ result, scanLine g text stack = .ok result := by
  cases hscan : scanLine g text stack with
  | ok result => exact ⟨result, rfl⟩
  | error e =>
      rcases opensPopWordAt_or_breaksDown hg hscan with
        ⟨_, hlacks, _, _, s, mode, r, m, _, _, hwins, hpush, _⟩ | ⟨_, hbreaks⟩
      · exact absurd (hpop mode (mem_modes_of_mode?_eq_some hwins.1) r
          (firstMatch_eq_some hwins.2.1).1 hpush) hlacks
      · exact absurd hbreaks (not_breaksDown hwhole)

namespace FailureWitness

/-- A table whose one rule opens the word for closing a mode. -/
def sources : List (String × GroupSource) :=
  [("start", .ready [.rule ["word"] (.ready (.ofChar 'a')) (.group "pop") none])]

def grammar : CompiledGrammar :=
  ⟨[⟨"start", [⟨["word"], .ofChar 'a', .push "pop"⟩], none⟩], .name "text"⟩

/-- A possessive repetition of a group, of which only the first alternative sets a group of its own. -/
def repeated : Pattern :=
  ⟨"((x)|y|z)*+",
    .repeatNode
      (.capture 1 (.alt (.capture 2 (.ofChar 'x')) (.alt (.ofChar 'y') (.alt (.ofChar 'z') .never))))
      0 none .possessive,
    2, true⟩

end FailureWitness

end ModalHighlight
