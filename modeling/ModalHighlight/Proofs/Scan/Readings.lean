import ModalHighlight.Proofs.Grammar.Outline
import ModalHighlight.Proofs.Scan.Run

/-!
Scanning by summaries.  Where the rules of a mode are summed up, what a step of a scan does to the position
and to the open modes is read off the summary, from the character at the position and the one after it.
-/

namespace ModalHighlight

open Pattern ScanState

/-- The first rule of a summary that matches at a character, by its reach and its transition. -/
def firstReading (summary : List RuleSummary) (c : Char) (next : Option Char) :
    Option (Reach × Transition) :=
  summary.findSome? fun rule => (rule.1.reach? c next).map fun reach => (reach, rule.2)

/-- How a character is read: where no rule matches, it is passed over. -/
def reading (summary : List RuleSummary) (c : Char) (next : Option Char) : Reach × Transition :=
  (firstReading summary c next).getD (.one, .stay)

section

variable {alphabet : List Char} {chars : Array Char} {pos : Nat} {c : Char}

theorem CompiledRule.matchAt_of_shape? (hover : IsOver alphabet chars) (hnewline : '\n' ∉ alphabet)
    {r : CompiledRule} {shape : Shape} (h : r.shape? alphabet = some shape)
    (hc : chars[pos]? = some c) :
    r.pattern.matchAt chars pos =
      (shape.reach? c chars[pos + 1]?).map fun reach => ⟨reach.stop pos chars.size, []⟩ := by
  unfold CompiledRule.shape? at h
  split at h
  · cases h
  · rename_i htraced
    exact Pattern.matchAt_of_shape? hover hnewline (by simpa using htraced) h hc

/-- The first match is the first reading of the summary. -/
theorem SumUp.map_firstMatch (hover : IsOver alphabet chars) (hnewline : '\n' ∉ alphabet)
    {rules : List CompiledRule} {summary : List RuleSummary} (h : SumUp alphabet rules summary)
    (hc : chars[pos]? = some c) :
    (firstMatch rules chars pos).map (fun found => (found.2.stop, found.1.transition)) =
      (firstReading summary c chars[pos + 1]?).map fun read =>
        (read.1.stop pos chars.size, read.2) := by
  induction h with
  | nil => rfl
  | silent hshape _ ih =>
      have hmatch := CompiledRule.matchAt_of_shape? hover hnewline hshape hc
      rw [firstMatch, List.findSome?_cons, hmatch]
      exact ih
  | @rule r rules summary shape hshape _ ih =>
      have hmatch := CompiledRule.matchAt_of_shape? hover hnewline hshape hc
      rw [firstMatch, List.findSome?_cons, hmatch, firstReading, List.findSome?_cons]
      cases hreach : shape.reach? c chars[pos + 1]? with
      | none => exact ih
      | some reach => rfl

theorem firstReading_stop_lt {summary : List RuleSummary} (hc : chars[pos]? = some c)
    {read : Reach × Transition} (h : firstReading summary c chars[pos + 1]? = some read) :
    pos < read.1.stop pos chars.size := by
  obtain ⟨rule, _, hrule⟩ := List.exists_of_findSome?_eq_some h
  obtain ⟨reach, hreach, rfl⟩ := Option.map_eq_some_iff.mp hrule
  exact Shape.lt_stop hc hreach

theorem SumUp.not_traced {rules : List CompiledRule} {summary : List RuleSummary}
    (h : SumUp alphabet rules summary) : ∀ r ∈ rules, r.pattern.traced = false := by
  have hshaped : ∀ {r : CompiledRule} {shape : Shape}, r.shape? alphabet = some shape →
      r.pattern.traced = false := by
    intro r shape hshape
    unfold CompiledRule.shape? at hshape
    split at hshape
    · cases hshape
    · rename_i htraced
      simpa using htraced
  induction h with
  | nil => simp
  | silent hshape _ ih => exact List.forall_mem_cons.mpr ⟨hshaped hshape, ih⟩
  | rule hshape _ ih => exact List.forall_mem_cons.mpr ⟨hshaped hshape, ih⟩

/-- In a mode with a summary the scan goes on as the character is read. -/
theorem exists_advance (hover : IsOver alphabet chars) (hnewline : '\n' ∉ alphabet)
    {g : CompiledGrammar} {s : ScanState} {mode : Mode} (hmode : g.mode? s.modes.top = some mode)
    {summary : List RuleSummary} (hsummary : SumUp alphabet mode.rules summary)
    (hc : chars[s.pos]? = some c) :
    ∃ t, Advance g chars s t ∧
      t.pos = (reading summary c chars[s.pos + 1]?).1.stop s.pos chars.size ∧
      t.modes = s.modes.apply (reading summary c chars[s.pos + 1]?).2 := by
  have hpos : s.pos < chars.size := (Array.getElem?_eq_some_iff.mp hc).1
  have hfirst := hsummary.map_firstMatch hover hnewline hc
  cases hread : firstReading summary c chars[s.pos + 1]? with
  | none =>
      rw [hread, Option.map_none, Option.map_eq_none_iff] at hfirst
      refine ⟨s.skip, ⟨hpos, .skip hmode hfirst⟩, ?_, ?_⟩
      · rw [reading, hread]
        rfl
      · rw [reading, hread]
        rfl
  | some read =>
      rw [hread, Option.map_some, Option.map_eq_some_iff] at hfirst
      obtain ⟨⟨r, m⟩, hfound, hsame⟩ := hfirst
      obtain ⟨hstop, htransition⟩ := Prod.mk.inj hsame
      have hlt := firstReading_stop_lt hc hread
      have hwhole := isBroken_of_firstMatch hsummary.not_traced hfound (Nat.le_of_lt hpos)
      refine ⟨s.accept chars (g.defaultKind mode) r m, ⟨hpos, .accept ⟨hmode, hfound, hwhole⟩⟩, ?_, ?_⟩
      · have hmoves : m.stop ≠ s.pos := fun hstay => Nat.ne_of_gt hlt (hstop ▸ hstay)
        rw [accept_pos, if_neg hmoves, hstop, reading, hread, Option.getD_some]
      · rw [accept_modes, htransition, reading, hread, Option.getD_some]

end

end ModalHighlight
