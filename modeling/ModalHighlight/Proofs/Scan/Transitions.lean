import ModalHighlight.Proofs.Scan.Run
import Mathlib.Data.List.Nodup
import Mathlib.Data.List.Perm.Subperm

/-!
How far a line can move the open modes.  A transition is applied where a rule wins, and the step that applies
it passes a character, even if the match is empty.  So a line applies at most one transition at each of its
characters.  A transition adds one name at most, and it touches no name but the last: what lies deeper in the
stack than the line is long comes out of the scan unchanged.
-/

namespace ModalHighlight

namespace OpenModes

/-- What transitions make of the open modes one after another. -/
def applyAll (m : OpenModes) (transitions : List Transition) : OpenModes :=
  transitions.foldl apply m

theorem length_stack_pos (m : OpenModes) : 1 ≤ m.stack.length :=
  List.length_pos_iff.mpr m.stack_ne_nil

theorem length_stack_apply_le (m : OpenModes) (transition : Transition) :
    (m.apply transition).stack.length ≤ m.stack.length + 1 := by
  obtain ⟨top, around⟩ := m
  cases transition with
  | stay => exact Nat.le_succ _
  | push name => simp [apply, push, stack]
  | switch name => simp [apply, switch, stack]
  | pop => cases around <;> simp [apply, pop, stack, start]

/-- A transition touches no name but the last.  Where the only mode is closed, there is no other. -/
theorem dropLast_stack_prefix_apply (m : OpenModes) (transition : Transition) :
    m.stack.dropLast <+: (m.apply transition).stack := by
  obtain ⟨top, around⟩ := m
  cases transition with
  | stay => exact List.dropLast_prefix _
  | push name =>
      rw [apply, stack_push]
      exact (List.dropLast_prefix _).trans (List.prefix_append _ _)
  | switch name => simp [apply, switch, stack]
  | pop => cases around <;> simp [apply, pop, stack]

theorem length_stack_applyAll_le (m : OpenModes) (transitions : List Transition) :
    (m.applyAll transitions).stack.length ≤ m.stack.length + transitions.length := by
  induction transitions generalizing m with
  | nil => exact Nat.le_refl _
  | cons transition rest ih =>
      have hfirst := m.length_stack_apply_le transition
      have hrest := ih (m.apply transition)
      simp only [applyAll, List.foldl_cons, List.length_cons] at hrest ⊢
      omega

/-- Transitions leave the names alone that lie deeper than there are transitions. -/
theorem take_stack_prefix_applyAll (m : OpenModes) (transitions : List Transition) :
    m.stack.take (m.stack.length - transitions.length) <+: (m.applyAll transitions).stack := by
  induction transitions generalizing m with
  | nil => exact List.take_prefix _ _
  | cons transition rest ih =>
      have hkept := m.dropLast_stack_prefix_apply transition
      have hlength := hkept.length_le
      rw [List.length_dropLast] at hlength
      -- What is left of the names after all but one of the transitions is left of them after the first.
      have hdeep : m.stack.take (m.stack.length - (rest.length + 1)) =
          (m.apply transition).stack.take (m.stack.length - (rest.length + 1)) := by
        obtain ⟨more, hmore⟩ := hkept
        rw [← hmore, List.take_append_of_le_length (by rw [List.length_dropLast]; omega),
          List.dropLast_eq_take, List.take_take, Nat.min_eq_left (by omega)]
      rw [List.length_cons, hdeep]
      exact (List.take_prefix_take_left (by omega)).trans (ih (m.apply transition))

end OpenModes

namespace ScanState

section

variable (g : CompiledGrammar) (line : Array Char)

/-- The transition of the rule that wins at the position, if one does. -/
def transition? (s : ScanState) : Option Transition :=
  match s.mode g with
  | .error _ => none
  | .ok mode => (firstMatch mode.rules line s.pos).map fun (r, _) => r.transition

/-- The transitions that steps apply, each with the position at which its rule wins. -/
def transitions : Nat → ScanState → List (Nat × Transition)
  | 0, _ => []
  | n + 1, s =>
      if s.pos < line.size then
        match step g line s with
        | .error _ => []
        | .ok next => (s.transition? g line).toList.map (s.pos, ·) ++ transitions n next
      else []

/-- In the scan from a state a rule with this transition wins at this position. -/
def AppliesAt (s : ScanState) (pos : Nat) (transition : Transition) : Prop :=
  ∃ u mode r m, Passes g line s u ∧ u.pos < line.size ∧ u.Wins g line mode r m ∧ u.pos = pos ∧
    r.transition = transition

end

variable {g : CompiledGrammar} {line : Array Char} {s t : ScanState} {pos : Nat}
  {transition : Transition}

theorem transition?_of_wins {mode : Mode} {r : CompiledRule} {m : Match} (h : s.Wins g line mode r m) :
    s.transition? g line = some r.transition := by
  obtain ⟨hmode, hfirst, _⟩ := h
  simp only [transition?, ScanState.mode, hmode, hfirst, Option.map_some]

theorem transition?_eq_some_iff (hstep : step g line s = .ok t) : s.transition? g line = some transition ↔
    ∃ mode r m, s.Wins g line mode r m ∧ r.transition = transition := by
  constructor
  · intro h
    simp only [transition?, ScanState.mode] at h
    cases hmode : g.mode? s.modes.top with
    | none => simp [hmode] at h
    | some mode =>
        simp only [hmode, Option.map_eq_some_iff, Prod.exists] at h
        obtain ⟨r, m, hfirst, rfl⟩ := h
        exact ⟨mode, r, m, wins_of_step_eq_ok hstep hmode hfirst, rfl⟩
  · rintro ⟨mode, r, m, hwins, rfl⟩
    exact transition?_of_wins hwins

/-- A step applies the transition of the rule that wins, and does nothing else to the open modes. -/
theorem Advance.modes_eq (h : Advance g line s t) :
    t.modes = s.modes.applyAll (s.transition? g line).toList := by
  cases h.2 with
  | skip hmode hnone =>
      simp only [transition?, ScanState.mode, hmode, hnone]
      rfl
  | accept hwins =>
      rw [transition?_of_wins hwins, accept_modes]
      rfl

theorem Passes.pos_mono (h : Passes g line s t) : s.pos ≤ t.pos :=
  h.preserves (P := fun u => s.pos ≤ u.pos)
    (fun _ _ hle hstep => Nat.le_trans hle (Nat.le_of_lt hstep.pos_lt.1)) (Nat.le_refl _)

/-- A state leads to itself and to what its step leads to. -/
theorem passes_iff : Passes g line s t ↔
    s = t ∨ s.pos < line.size ∧ ∃ next, step g line s = .ok next ∧ Passes g line next t := by
  rw [Passes, Relation.ReflTransGen.cases_head_iff]
  simp only [Advance, ← step_eq_ok_iff, and_assoc, exists_and_left]

theorem not_appliesAt_of_size_le (h : line.size ≤ s.pos) : ¬ AppliesAt g line s pos transition := by
  rintro ⟨u, _, _, _, hpasses, hlt, _⟩
  have := hpasses.pos_mono
  omega

theorem not_appliesAt_of_step_eq_error {e : ScanError} (h : step g line s = .error e) :
    ¬ AppliesAt g line s pos transition := by
  rintro ⟨u, mode, r, m, hpasses, _, hwins, _⟩
  rcases passes_iff.mp hpasses with rfl | ⟨_, next, hnext, _⟩
  · rw [step_eq_ok_iff.mpr (.accept hwins)] at h
    cases h
  · rw [h] at hnext
    cases hnext

/-- The first step of a scan applies what it applies, and the rest is applied after it. -/
theorem appliesAt_iff_of_step {next : ScanState} (hpos : s.pos < line.size)
    (hstep : step g line s = .ok next) : AppliesAt g line s pos transition ↔
    s.pos = pos ∧ s.transition? g line = some transition ∨
      AppliesAt g line next pos transition := by
  have hfrom : ∀ u, Passes g line s u ↔ s = u ∨ Passes g line next u := by
    intro u
    rw [passes_iff, hstep]
    simp [hpos]
  simp only [AppliesAt, hfrom, transition?_eq_some_iff hstep]
  constructor
  · rintro ⟨u, mode, r, m, rfl | hpasses, hlt, hwins, hat, htransition⟩
    · exact Or.inl ⟨hat, mode, r, m, hwins, htransition⟩
    · exact Or.inr ⟨u, mode, r, m, hpasses, hlt, hwins, hat, htransition⟩
  · rintro (⟨hat, mode, r, m, hwins, htransition⟩ | ⟨u, mode, r, m, hpasses, hfound⟩)
    · exact ⟨s, mode, r, m, Or.inl rfl, hpos, hwins, hat, htransition⟩
    · exact ⟨u, mode, r, m, Or.inr hpasses, hfound⟩

/-- The transitions of a scan are those of the rules that win in it, at the positions at which they win. -/
theorem mem_transitions_iff {n : Nat} (hn : line.size ≤ s.pos + n) :
    (pos, transition) ∈ s.transitions g line n ↔ AppliesAt g line s pos transition := by
  induction n generalizing s with
  | zero => simpa [transitions] using not_appliesAt_of_size_le hn
  | succ n ih =>
      rw [transitions]
      split
      · rename_i hpos
        cases hstep : step g line s with
        | error e => simpa using not_appliesAt_of_step_eq_error hstep
        | ok next =>
            have hlt := (show Advance g line s next from ⟨hpos, step_eq_ok_iff.mp hstep⟩).pos_lt
            rw [List.mem_append, ih (by omega), appliesAt_iff_of_step hpos hstep]
            simp [and_comm]
      · rename_i hpos
        simpa using not_appliesAt_of_size_le (Nat.le_of_not_lt hpos)

/-- Between two states these transitions are applied, at these positions from left to right. -/
structure AppliesInOrder (s t : ScanState) (applied : List (Nat × Transition)) : Prop where
  modes_eq : t.modes = s.modes.applyAll (applied.map (·.2))
  increasing : (applied.map (·.1)).Pairwise (· < ·)
  passed : ∀ pos ∈ applied.map (·.1), s.pos ≤ pos ∧ pos < t.pos

/-- A step before others applies at most one transition, at a position that the others do not come back
to. -/
theorem AppliesInOrder.head {u : ScanState} {applied : List (Nat × Transition)}
    (hstep : Advance g line s u) (h : AppliesInOrder u t applied) (hle : u.pos ≤ t.pos) :
    AppliesInOrder s t ((s.transition? g line).toList.map (s.pos, ·) ++ applied) := by
  have hlt := hstep.pos_lt.1
  have hmodes := hstep.modes_eq
  cases htransition : s.transition? g line with
  | none =>
      rw [htransition] at hmodes
      refine ⟨?_, h.increasing, fun pos hpos => ?_⟩
      · rw [h.modes_eq, hmodes]
        rfl
      · have := h.passed pos hpos
        omega
  | some transition =>
      rw [htransition] at hmodes
      have hlater : ∀ pos ∈ applied.map (·.1), s.pos < pos ∧ pos < t.pos := by
        intro pos hpos
        have := h.passed pos hpos
        omega
      constructor
      · rw [h.modes_eq, hmodes]
        rfl
      · exact List.pairwise_cons.mpr ⟨fun pos hpos => (hlater pos hpos).1, h.increasing⟩
      · intro pos hpos
        rcases List.mem_cons.mp hpos with rfl | hmem
        · exact ⟨Nat.le_refl _, Nat.lt_of_lt_of_le hlt hle⟩
        · exact ⟨Nat.le_of_lt (hlater pos hmem).1, (hlater pos hmem).2⟩

theorem appliesInOrder_of_steps {n : Nat} (h : steps g line n s = .ok t) :
    AppliesInOrder s t (s.transitions g line n) := by
  induction n generalizing s with
  | zero =>
      cases h
      exact ⟨rfl, List.Pairwise.nil, by simp [transitions]⟩
  | succ n ih =>
      rw [steps] at h
      rw [transitions]
      split at h
      · rename_i hpos
        cases hstep : step g line s with
        | error e => simp [hstep] at h
        | ok next =>
            simp only [hstep] at h
            rw [if_pos hpos]
            have hadvance : Advance g line s next := ⟨hpos, step_eq_ok_iff.mp hstep⟩
            exact (ih h).head hadvance (passes_of_steps h).pos_mono
      · rename_i hpos
        cases h
        rw [if_neg hpos]
        exact ⟨rfl, List.Pairwise.nil, by simp⟩

/-- There are no more positions than characters between the two states. -/
theorem AppliesInOrder.length_le {applied : List (Nat × Transition)} (h : AppliesInOrder s t applied) :
    applied.length ≤ t.pos := by
  have hnodup : (applied.map (·.1)).Nodup := h.increasing.imp Nat.ne_of_lt
  have hsubset : applied.map (·.1) ⊆ List.range t.pos := fun pos hpos =>
    List.mem_range.mpr (h.passed pos hpos).2
  simpa using (List.Nodup.subperm hnodup hsubset).length_le

end ScanState

open ScanState

/-- The transitions that the scan of a line applies, with their positions. -/
def transitionsIn (g : CompiledGrammar) (text : String) (stack : ModeStack) :
    List (Nat × Transition) :=
  (ScanState.initial g stack).transitions g text.toList.toArray text.toList.length

/-- Transitions lead from the open modes before a line to the stack after it, with at most one at each of
its characters. -/
structure MovesByCharacters (text : String) (before : OpenModes) (applied : List (Nat × Transition))
    (after : ModeStack) : Prop where
  stack_eq : after = (before.applyAll (applied.map (·.2))).stack
  increasing : (applied.map (·.1)).Pairwise (· < ·)
  inside : ∀ pos ∈ applied.map (·.1), pos < text.toList.length
  applied_le : applied.length ≤ text.toList.length
  one_le : 1 ≤ after.length
  length_le : after.length ≤ before.stack.length + text.toList.length
  keeps : before.stack.take (before.stack.length - text.toList.length) <+: after

/-- The scan of a line applies at most one transition at each character: those of the rules that win, where
they win.  They alone lead from the repaired stack to the one after the line, which has at least one name and
at most one more for each character; the names deeper in the repaired stack than the line is long stay. -/
theorem scanLine_applies_one_transition_per_character {g : CompiledGrammar} {text : String}
    {stack : ModeStack} {result : LineResult} (h : scanLine g text stack = .ok result) :
    (∀ pos transition, (pos, transition) ∈ transitionsIn g text stack ↔
      AppliesAt g text.toList.toArray (.initial g stack) pos transition) ∧
    MovesByCharacters text (g.repair stack) (transitionsIn g text stack) result.stack := by
  refine ⟨fun pos transition => mem_transitions_iff (Nat.le_add_left _ _), ?_⟩
  obtain ⟨last, t, hpasses, hpos, hfinish, rfl⟩ := scanLine_eq_ok_iff.mp h
  have hsteps := steps_eq_ok_of_passes hpasses (Nat.le_of_eq hpos.symm)
    (Nat.le_add_left text.toList.toArray.size _)
  have happlied : AppliesInOrder (.initial g stack) last (transitionsIn g text stack) :=
    appliesInOrder_of_steps hsteps
  have hmodes : t.modes = last.modes := by
    rcases finish_eq_ok_iff.mp hfinish with ⟨_, rfl⟩ | ⟨_, _, _, _, rfl⟩
    · rfl
    · exact flushAs_modes _ _ _
  have hcount : (transitionsIn g text stack).length ≤ text.toList.length := hpos ▸ happlied.length_le
  have hstack : t.modes.stack =
      ((g.repair stack).applyAll ((transitionsIn g text stack).map (·.2))).stack := by
    rw [hmodes, happlied.modes_eq]
    rfl
  have hlonger := (g.repair stack).length_stack_applyAll_le ((transitionsIn g text stack).map (·.2))
  have hkept := (g.repair stack).take_stack_prefix_applyAll ((transitionsIn g text stack).map (·.2))
  rw [← hstack, List.length_map] at hlonger hkept
  constructor
  · exact hstack
  · exact happlied.increasing
  · exact fun pos hmem => hpos ▸ (happlied.passed pos hmem).2
  · exact hcount
  · exact t.modes.length_stack_pos
  · exact Nat.le_trans hlonger (Nat.add_le_add_left hcount _)
  · exact (List.take_prefix_take_left (by omega)).trans hkept

namespace TransitionsWitness

/-- A pattern that matches everywhere and takes no text. -/
def nothing : Pattern := ⟨"(?:)", .empty, 0, false⟩

/-- A grammar whose one rule takes no text and opens the first mode once more. -/
def opening : CompiledGrammar :=
  ⟨[⟨"start", [⟨["gap"], nothing, .push "start"⟩], none⟩], .name "text"⟩

/-- A grammar whose one rule takes no text and closes the innermost mode. -/
def closing : CompiledGrammar :=
  ⟨[⟨"start", [⟨["gap"], nothing, .pop⟩], none⟩], .name "text"⟩

/-- Both bounds are met: three characters open three modes, and two characters close two of four. -/
theorem empty_matches_move_once_per_character :
    (∃ result, scanLine opening "abc" [] = .ok result ∧ result.stack.length = 4 ∧
      MovesByCharacters "abc" .start (transitionsIn opening "abc" []) result.stack) ∧
    ∃ result, scanLine closing "ab" ["start", "start", "start", "start"] = .ok result ∧
      result.stack = ["start", "start"] ∧
      MovesByCharacters "ab" (closing.repair ["start", "start", "start", "start"])
        (transitionsIn closing "ab" ["start", "start", "start", "start"]) result.stack := by
  have hopens : scanLine opening "abc" [] = .ok
      ⟨[⟨.name "text", 0, 1, "a"⟩, ⟨.name "text", 1, 2, "b"⟩, ⟨.name "text", 2, 3, "c"⟩],
        ["start", "start", "start", "start"]⟩ := rfl
  have hcloses : scanLine closing "ab" ["start", "start", "start", "start"] = .ok
      ⟨[⟨.name "text", 0, 1, "a"⟩, ⟨.name "text", 1, 2, "b"⟩], ["start", "start"]⟩ := rfl
  exact ⟨⟨_, hopens, rfl, (scanLine_applies_one_transition_per_character hopens).2⟩,
    _, hcloses, rfl, (scanLine_applies_one_transition_per_character hcloses).2⟩

end TransitionsWitness

end ModalHighlight
