import ModalHighlight.Proofs.Pattern.Bounds
import ModalHighlight.Scan.Line
import Mathlib.Logic.Relation

/-!
The run of a scan as a relation between states.  Every step moves on by at least one character and never
past the end of the line, so the bound on the number of steps is never felt: a scan ends at the end of
the line, or where it needs a mode that the grammar lacks, or where the match that wins is a broken one.
-/

namespace ModalHighlight

/-- The rule that wins is one of the rules tried. -/
theorem firstMatch_eq_some {rules : List CompiledRule} {line : Array Char} {pos : Nat}
    {r : CompiledRule} {m : Match} (hfirst : firstMatch rules line pos = some (r, m)) :
    r ∈ rules ∧ r.pattern.matchAt line pos = some m := by
  obtain ⟨r', hmem, hmap⟩ := List.exists_of_findSome?_eq_some hfirst
  simp only [Option.map_eq_some_iff, Prod.mk.injEq] at hmap
  obtain ⟨m', hmatch, rfl, rfl⟩ := hmap
  exact ⟨hmem, hmatch⟩

/-- A match ends between the position it was looked for and the end of the line. -/
theorem firstMatch_bounds {rules : List CompiledRule} {line : Array Char} {pos : Nat}
    {r : CompiledRule} {m : Match} (hfirst : firstMatch rules line pos = some (r, m))
    (hpos : pos ≤ line.size) : pos ≤ m.stop ∧ m.stop ≤ line.size :=
  have hfits := Pattern.fits_of_matchAt (firstMatch_eq_some hfirst).2 hpos
  ⟨hfits.le_stop, hfits.stop_le⟩

/-- Patterns that are searched without regard to traces have no broken match. -/
theorem isBroken_of_firstMatch {rules : List CompiledRule} (huntraced : ∀ r ∈ rules, r.pattern.traced = false)
    {line : Array Char} {pos : Nat} {r : CompiledRule} {m : Match}
    (hfirst : firstMatch rules line pos = some (r, m)) (hpos : pos ≤ line.size) : m.isBroken = false := by
  obtain ⟨hr, hmatch⟩ := firstMatch_eq_some hfirst
  exact (Pattern.fits_of_not_traced (huntraced r hr) hmatch hpos).2

namespace ScanState

section

variable (g : CompiledGrammar) (line : Array Char)

/-- A rule of the innermost mode wins at the position, with its match, which is not a broken one. -/
def Wins (s : ScanState) (mode : Mode) (r : CompiledRule) (m : Match) : Prop :=
  g.mode? s.modes.top = some mode ∧ firstMatch mode.rules line s.pos = some (r, m) ∧ m.isBroken = false

/-- The first match at the position of a rule of the innermost mode is a broken one. -/
def Breaks (s : ScanState) : Prop :=
  ∃ mode r m, g.mode? s.modes.top = some mode ∧ firstMatch mode.rules line s.pos = some (r, m) ∧
    m.isBroken = true

/-- The two things that a step can do. -/
inductive Move (s : ScanState) : ScanState → Prop
  | skip {mode : Mode} (hmode : g.mode? s.modes.top = some mode)
      (hnone : firstMatch mode.rules line s.pos = none) : Move s s.skip
  | accept {mode : Mode} {r : CompiledRule} {m : Match} (hwins : s.Wins g line mode r m) :
      Move s (s.accept line (g.defaultKind mode) r m)

/-- One step of a scan that has not reached the end of the line. -/
def Advance (s t : ScanState) : Prop :=
  s.pos < line.size ∧ Move g line s t

/-- A scan in one state comes to another. -/
def Passes : ScanState → ScanState → Prop :=
  Relation.ReflTransGen (Advance g line)

end

variable {g : CompiledGrammar} {line : Array Char} {s t : ScanState}

theorem step_eq_ok_iff : step g line s = .ok t ↔ Move g line s t := by
  constructor
  · intro h
    simp only [step, ScanState.mode] at h
    cases hmode : g.mode? s.modes.top with
    | none => simp [hmode] at h
    | some mode =>
        cases hfirst : firstMatch mode.rules line s.pos with
        | none =>
            simp only [hmode, hfirst, Except.ok.injEq] at h
            exact h ▸ .skip hmode hfirst
        | some found =>
            obtain ⟨r, m⟩ := found
            simp only [hmode, hfirst] at h
            split at h
            · cases h
            · rename_i hwhole
              exact Except.ok.inj h ▸ .accept ⟨hmode, hfirst, Bool.eq_false_iff.mpr hwhole⟩
  · rintro (⟨hmode, hnone⟩ | ⟨hmode, hfirst, hwhole⟩)
    · simp [step, ScanState.mode, hmode, hnone]
    · simp [step, ScanState.mode, hmode, hfirst, hwhole]

/-- A step fails exactly when the grammar lacks the innermost mode, or when the match there is a broken one. -/
theorem step_eq_error_iff {e : ScanError} :
    step g line s = .error e ↔
      (g.mode? s.modes.top = none ∧ e = .unknownMode s.modes.top) ∨
        (s.Breaks g line ∧ e = .brokenMatch) := by
  constructor
  · intro h
    simp only [step, ScanState.mode] at h
    cases hmode : g.mode? s.modes.top with
    | none =>
        simp only [hmode, Except.error.injEq] at h
        exact Or.inl ⟨rfl, h.symm⟩
    | some mode =>
        cases hfirst : firstMatch mode.rules line s.pos with
        | none => simp [hmode, hfirst] at h
        | some found =>
            obtain ⟨r, m⟩ := found
            simp only [hmode, hfirst] at h
            split at h
            · rename_i hbroken
              exact Or.inr ⟨⟨mode, r, m, hmode, hfirst, hbroken⟩, (Except.error.inj h).symm⟩
            · cases h
  · rintro (⟨hmode, rfl⟩ | ⟨⟨mode, r, m, hmode, hfirst, hbroken⟩, rfl⟩)
    · simp [step, ScanState.mode, hmode]
    · simp [step, ScanState.mode, hmode, hfirst, hbroken]

/-- A step moves on, and not past the end of the line. -/
theorem Advance.pos_lt (h : Advance g line s t) : s.pos < t.pos ∧ t.pos ≤ line.size := by
  obtain ⟨hpos, hmove⟩ := h
  cases hmove with
  | skip => exact ⟨Nat.lt_succ_self _, hpos⟩
  | accept hwins =>
      have hbounds := firstMatch_bounds hwins.2.1 (Nat.le_of_lt hpos)
      rw [accept_pos]
      split
      · exact ⟨Nat.lt_succ_self _, hpos⟩
      · omega

theorem Passes.pos_le (h : Passes g line s t) (hs : s.pos ≤ line.size) : t.pos ≤ line.size := by
  induction h with
  | refl => exact hs
  | tail _ hlast _ => exact hlast.pos_lt.2

/-- What every step keeps, a scan keeps. -/
theorem Passes.preserves {P : ScanState → Prop} (h : Passes g line s t)
    (hstep : ∀ a b, P a → Advance g line a b → P b) (hs : P s) : P t := by
  induction h with
  | refl => exact hs
  | tail _ hlast ih => exact hstep _ _ ih hlast

theorem passes_of_steps {n : Nat} (h : steps g line n s = .ok t) : Passes g line s t := by
  induction n generalizing s with
  | zero =>
      cases h
      exact .refl
  | succ n ih =>
      rw [steps] at h
      split at h
      · rename_i hpos
        cases hstep : step g line s with
        | error e => simp [hstep] at h
        | ok next =>
            simp only [hstep] at h
            exact .head ⟨hpos, step_eq_ok_iff.mp hstep⟩ (ih h)
      · cases h
        exact .refl

/-- Enough steps lead to the end of the line. -/
theorem size_le_pos_of_steps {n : Nat} (h : steps g line n s = .ok t)
    (hn : line.size ≤ s.pos + n) : line.size ≤ t.pos := by
  induction n generalizing s with
  | zero =>
      cases h
      exact hn
  | succ n ih =>
      rw [steps] at h
      split at h
      · rename_i hpos
        cases hstep : step g line s with
        | error e => simp [hstep] at h
        | ok next =>
            simp only [hstep] at h
            have hlt := (show Advance g line s next from ⟨hpos, step_eq_ok_iff.mp hstep⟩).pos_lt
            exact ih h (by omega)
      · cases h
        omega

/-- A scan that fails comes to a state without a next step. -/
theorem passes_of_steps_error {n : Nat} {e : ScanError} (h : steps g line n s = .error e) :
    ∃ t, Passes g line s t ∧ t.pos < line.size ∧ step g line t = .error e := by
  induction n generalizing s with
  | zero => cases h
  | succ n ih =>
      rw [steps] at h
      split at h
      · rename_i hpos
        cases hstep : step g line s with
        | error e' =>
            simp only [hstep, Except.error.injEq] at h
            exact ⟨s, .refl, hpos, h ▸ hstep⟩
        | ok next =>
            simp only [hstep] at h
            obtain ⟨t, hpasses, hfail⟩ := ih h
            exact ⟨t, .head ⟨hpos, step_eq_ok_iff.mp hstep⟩ hpasses, hfail⟩
      · cases h

/-- Scanning from a state or from the one it comes to first makes no difference, as long as the bound
on the steps is not felt. -/
theorem steps_of_passes (h : Passes g line s t) {n : Nat} (hn : line.size ≤ s.pos + n) :
    ∃ k, line.size ≤ t.pos + k ∧ steps g line n s = steps g line k t := by
  induction h using Relation.ReflTransGen.head_induction_on generalizing n with
  | refl => exact ⟨n, hn, rfl⟩
  | head hfirst _ ih =>
      obtain ⟨hpos, hmove⟩ := hfirst
      have hlt := (show Advance g line _ _ from ⟨hpos, hmove⟩).pos_lt
      cases n with
      | zero => omega
      | succ n =>
          obtain ⟨k, hk, heq⟩ := ih (n := n) (by omega)
          exact ⟨k, hk, by rw [steps, if_pos hpos, step_eq_ok_iff.mpr hmove, ← heq]⟩

/-- A scan that comes to the end of the line ends there. -/
theorem steps_eq_ok_of_passes (h : Passes g line s t) (hend : line.size ≤ t.pos) {n : Nat}
    (hn : line.size ≤ s.pos + n) : steps g line n s = .ok t := by
  obtain ⟨k, _, heq⟩ := steps_of_passes h hn
  rw [heq]
  cases k with
  | zero => rfl
  | succ k => rw [steps, if_neg (Nat.not_lt.mpr hend)]

/-- A scan that comes to a state without a next step fails as that state does. -/
theorem steps_eq_error_of_passes {e : ScanError} (h : Passes g line s t) (hpos : t.pos < line.size)
    (hstep : step g line t = .error e) {n : Nat} (hn : line.size ≤ s.pos + n) :
    steps g line n s = .error e := by
  obtain ⟨k, hk, heq⟩ := steps_of_passes h hn
  rw [heq]
  cases k with
  | zero => omega
  | succ k => rw [steps, if_pos hpos, hstep]

theorem finish_eq_ok_iff : s.finish g line = .ok t ↔
    (s.run = none ∧ t = s) ∨
      ∃ start mode, s.run = some start ∧ g.mode? s.modes.top = some mode ∧
        t = s.flushAs line (g.defaultKind mode) := by
  simp only [finish, ScanState.mode]
  cases hrun : s.run with
  | none => simp [eq_comm]
  | some start => cases hmode : g.mode? s.modes.top <;> simp [eq_comm]

/-- The end of a scan fails exactly when a run is left and the grammar lacks the innermost mode. -/
theorem finish_eq_error_iff {e : ScanError} : s.finish g line = .error e ↔
    s.run ≠ none ∧ g.mode? s.modes.top = none ∧ e = .unknownMode s.modes.top := by
  simp only [finish, ScanState.mode]
  cases hrun : s.run with
  | none => simp
  | some start => cases hmode : g.mode? s.modes.top <;> simp [eq_comm]

end ScanState

open ScanState

variable {g : CompiledGrammar} {text : String} {stack : ModeStack}

/-- A line gives a result when its scan comes to the end of the line and can be ended there. -/
theorem scanLine_eq_ok_iff {result : LineResult} : scanLine g text stack = .ok result ↔
    ∃ s t, Passes g text.toList.toArray (initial g stack) s ∧ s.pos = text.toList.length ∧
      s.finish g text.toList.toArray = .ok t ∧ result = ⟨t.tokens.toList, t.modes.stack⟩ := by
  have hbound : text.toList.toArray.size ≤
      (initial g stack).pos + text.toList.toArray.size := Nat.le_add_left _ _
  constructor
  · intro h
    simp only [scanLine] at h
    cases hsteps : steps g text.toList.toArray text.toList.toArray.size (initial g stack) with
    | error e =>
        simp only [hsteps] at h
        cases h
    | ok s =>
        have hpasses := passes_of_steps hsteps
        have hend := size_le_pos_of_steps hsteps hbound
        have hle := hpasses.pos_le (Nat.zero_le _)
        cases hfinish : s.finish g text.toList.toArray with
        | error e =>
            simp only [hsteps, hfinish] at h
            cases h
        | ok t =>
            simp only [hsteps, hfinish, Except.ok.injEq] at h
            exact ⟨s, t, hpasses, Nat.le_antisymm hle hend, hfinish, h.symm⟩
  · rintro ⟨s, t, hpasses, hpos, hfinish, rfl⟩
    have hsteps := steps_eq_ok_of_passes hpasses (Nat.le_of_eq hpos.symm) hbound
    simp only [scanLine, hsteps, hfinish]

/-- From each state that the scan of a line comes to, it goes on to the end of the line. -/
theorem exists_finish_of_passes {result : LineResult} {s : ScanState}
    (h : scanLine g text stack = .ok result) (hpasses : Passes g text.toList.toArray (initial g stack) s) :
    ∃ last t, Passes g text.toList.toArray s last ∧ last.finish g text.toList.toArray = .ok t ∧
      result = ⟨t.tokens.toList, t.modes.stack⟩ := by
  obtain ⟨k, _, hsteps⟩ := steps_of_passes hpasses (Nat.le_add_left text.toList.toArray.size _)
  simp only [scanLine, hsteps] at h
  cases hlast : steps g text.toList.toArray k s with
  | error e =>
      simp only [hlast] at h
      cases h
  | ok last =>
      cases hfinish : last.finish g text.toList.toArray with
      | error e =>
          simp only [hlast, hfinish] at h
          cases h
      | ok t =>
          simp only [hlast, hfinish, Except.ok.injEq] at h
          exact ⟨last, t, passes_of_steps hlast, hfinish, h.symm⟩

/-- A line fails when its scan comes to a state that has no next step, or that cannot be the last. -/
theorem scanLine_eq_error_iff {e : ScanError} : scanLine g text stack = .error e ↔
    ∃ s, Passes g text.toList.toArray (initial g stack) s ∧
      (s.pos < text.toList.length ∧ step g text.toList.toArray s = .error e ∨
        s.pos = text.toList.length ∧ s.finish g text.toList.toArray = .error e) := by
  have hbound : text.toList.toArray.size ≤
      (initial g stack).pos + text.toList.toArray.size := Nat.le_add_left _ _
  constructor
  · intro h
    simp only [scanLine] at h
    cases hsteps : steps g text.toList.toArray text.toList.toArray.size (initial g stack) with
    | error e' =>
        simp only [hsteps, Except.error.injEq] at h
        obtain ⟨s, hpasses, hfail⟩ := passes_of_steps_error hsteps
        exact ⟨s, hpasses, Or.inl (h ▸ hfail)⟩
    | ok s =>
        have hpasses := passes_of_steps hsteps
        have hend := size_le_pos_of_steps hsteps hbound
        have hle := hpasses.pos_le (Nat.zero_le _)
        cases hfinish : s.finish g text.toList.toArray with
        | ok t =>
            simp only [hsteps, hfinish] at h
            cases h
        | error e' =>
            simp only [hsteps, hfinish, Except.error.injEq] at h
            exact ⟨s, hpasses, Or.inr ⟨Nat.le_antisymm hle hend, h ▸ hfinish⟩⟩
  · rintro ⟨s, hpasses, ⟨hpos, hstep⟩ | ⟨hpos, hfinish⟩⟩
    · simp only [scanLine, steps_eq_error_of_passes hpasses hpos hstep hbound]
    · have hsteps := steps_eq_ok_of_passes hpasses (Nat.le_of_eq hpos.symm) hbound
      simp only [scanLine, hsteps, hfinish]

/-- In a scan that gives a result, every state before the end of the line has a next one. -/
theorem exists_step_of_passes {result : LineResult} {s : ScanState} (h : scanLine g text stack = .ok result)
    (hpasses : Passes g text.toList.toArray (initial g stack) s) (hpos : s.pos < text.toList.length) :
    ∃ t, step g text.toList.toArray s = .ok t := by
  cases hstep : step g text.toList.toArray s with
  | ok t => exact ⟨t, rfl⟩
  | error e =>
      rw [scanLine_eq_error_iff.mpr ⟨s, hpasses, Or.inl ⟨hpos, hstep⟩⟩] at h
      cases h

/-- The first match at the position of such a state is not a broken one. -/
theorem wins_of_step_eq_ok {line : Array Char} {s t : ScanState} {mode : Mode} {r : CompiledRule} {m : Match}
    (hstep : step g line s = .ok t) (hmode : g.mode? s.modes.top = some mode)
    (hfirst : firstMatch mode.rules line s.pos = some (r, m)) : s.Wins g line mode r m := by
  refine ⟨hmode, hfirst, ?_⟩
  cases hbroken : m.isBroken with
  | false => rfl
  | true =>
      rw [step_eq_error_iff.mpr (Or.inr ⟨⟨mode, r, m, hmode, hfirst, hbroken⟩, rfl⟩)] at hstep
      cases hstep

end ModalHighlight
