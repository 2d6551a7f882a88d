import ModalHighlight.Proofs.Scan.Run
import Mathlib.Data.List.Chain

/-!
The tokens of a line cover it.  While a scan is under way, the tokens so far reach up to the start of the
run, or up to the position when there is no run.  The spans of groups may lie anywhere: what precedes the
cursor or follows the match is cut off before a token is made of it.
-/

namespace ModalHighlight

/-- Tokens of a line that follow one another without a gap, from one position up to another. -/
def Tiles (line : Array Char) : Nat → List Token → Nat → Prop
  | start, [], stop => start = stop
  | start, t :: rest, stop =>
      t.start = start ∧ start < t.stop ∧ t.text = sliceText line start t.stop ∧
        Tiles line t.stop rest stop

namespace Tiles

variable {line : Array Char} {start middle stop : Nat} {tokens more : List Token}

theorem append (hfirst : Tiles line start tokens middle) (hlast : Tiles line middle more stop) :
    Tiles line start (tokens ++ more) stop := by
  induction tokens generalizing start with
  | nil =>
      cases hfirst
      exact hlast
  | cons t rest ih =>
      obtain ⟨hstart, hlt, htext, hrest⟩ := hfirst
      exact ⟨hstart, hlt, htext, ih hrest⟩

theorem start_le_stop (h : Tiles line start tokens stop) : start ≤ stop := by
  induction tokens generalizing start with
  | nil => exact Nat.le_of_eq h
  | cons t rest ih =>
      obtain ⟨_, hlt, _, hrest⟩ := h
      exact Nat.le_trans (Nat.le_of_lt hlt) (ih hrest)

theorem start_of_head? (h : Tiles line start tokens stop) :
    ∀ t ∈ tokens.head?, t.start = start := by
  cases tokens with
  | nil => simp
  | cons t rest => simpa using h.1

theorem isChain (h : Tiles line start tokens stop) :
    tokens.IsChain fun a b => b.start = a.stop := by
  induction tokens generalizing start with
  | nil => exact .nil
  | cons t rest ih =>
      obtain ⟨_, _, _, hrest⟩ := h
      rw [List.isChain_cons]
      exact ⟨hrest.start_of_head?, ih hrest⟩

theorem start_lt_stop_of_mem (h : Tiles line start tokens stop) :
    ∀ t ∈ tokens, t.start < t.stop := by
  induction tokens generalizing start with
  | nil => simp
  | cons t rest ih =>
      obtain ⟨hstart, hlt, _, hrest⟩ := h
      intro t' hmem
      rcases List.mem_cons.mp hmem with rfl | hmem
      · omega
      · exact ih hrest t' hmem

theorem text_of_mem (h : Tiles line start tokens stop) :
    ∀ t ∈ tokens, t.text = sliceText line t.start t.stop := by
  induction tokens generalizing start with
  | nil => simp
  | cons t rest ih =>
      obtain ⟨hstart, _, htext, hrest⟩ := h
      intro t' hmem
      rcases List.mem_cons.mp hmem with rfl | hmem
      · rw [hstart, htext]
      · exact ih hrest t' hmem

theorem stop_of_getLast? (h : Tiles line start tokens stop) :
    ∀ t ∈ tokens.getLast?, t.stop = stop := by
  induction tokens generalizing start with
  | nil => simp
  | cons t rest ih =>
      obtain ⟨_, _, _, hrest⟩ := h
      cases rest with
      | nil =>
          have hstop : t.stop = stop := hrest
          simpa using hstop
      | cons next more =>
          rw [List.getLast?_cons_cons]
          exact ih hrest

end Tiles

variable {line : Array Char} {start cursor : Nat} {tokens : Array Token}

/-- A token that begins where the others end, or none where it would be empty. -/
theorem Tiles.addToken (h : Tiles line start tokens.toList cursor) {stop : Nat}
    (hle : cursor ≤ stop) (kind : Kind) :
    Tiles line start (addToken line kind cursor stop tokens).toList stop := by
  unfold ModalHighlight.addToken
  split
  · rename_i hlt
    rw [Array.toList_push]
    exact h.append ⟨rfl, hlt, rfl, rfl⟩
  · have heq : cursor = stop := by omega
    exact heq ▸ h

/-- Whatever the spans of its groups are, a match is covered up to its end. -/
theorem Tiles.addGroups (kinds : List String) (gap : Kind) (m : Match) (index : Nat)
    (h : Tiles line start tokens.toList cursor) (hle : cursor ≤ m.stop) :
    Tiles line start (addGroups line gap m kinds index cursor tokens).toList m.stop := by
  induction kinds generalizing index cursor tokens with
  | nil => exact h.addToken hle gap
  | cons kind rest ih =>
      rw [ModalHighlight.addGroups]
      split
      · exact ih (index + 1) h hle
      · rename_i span _
        dsimp only
        split
        · exact ih (index + 1) h hle
        · rename_i hnonempty
          have hcut : cursor ≤ Nat.max span.start cursor := Nat.le_max_right _ _
          have hspan : Nat.max span.start cursor ≤ Nat.min span.stop m.stop := by omega
          exact ih (index + 1) ((h.addToken hcut gap).addToken hspan (.name kind))
            (Nat.min_le_right _ _)

theorem Tiles.addMatch (gap : Kind) (r : CompiledRule) (m : Match)
    (h : Tiles line start tokens.toList cursor) (hle : cursor ≤ m.stop) :
    Tiles line start (addMatch line gap r m cursor tokens).toList m.stop := by
  unfold ModalHighlight.addMatch
  split
  · exact h.addGroups r.kinds gap m 1 hle
  · exact h.addToken hle _

namespace ScanState

variable {g : CompiledGrammar} {s t : ScanState}

/-- The tokens so far reach up to the text that is still unmatched. -/
structure Covered (line : Array Char) (s : ScanState) : Prop where
  tiles : Tiles line 0 s.tokens.toList (s.run.getD s.pos)
  run_le : s.run.getD s.pos ≤ s.pos

theorem covered_initial (g : CompiledGrammar) (line : Array Char) (stack : ModeStack) :
    Covered line (initial g stack) :=
  ⟨rfl, Nat.le_refl _⟩

/-- Without its run, a scan is covered up to its position. -/
theorem Covered.flushAs (h : Covered line s) (kind : Kind) :
    Tiles line 0 (s.flushAs line kind).tokens.toList s.pos := by
  obtain ⟨htiles, hle⟩ := h
  unfold ScanState.flushAs
  cases hrun : s.run with
  | none => simpa [hrun] using htiles
  | some start =>
      rw [hrun] at htiles hle
      exact htiles.addToken hle kind

theorem Covered.advance (h : Covered line s) (hadvance : Advance g line s t) : Covered line t := by
  obtain ⟨hpos, hmove⟩ := hadvance
  cases hmove with
  | skip =>
      refine ⟨?_, ?_⟩
      · simpa [skip] using h.tiles
      · simpa [skip] using Nat.le_succ_of_le h.run_le
  | @accept mode r m hwins =>
      have hbounds := firstMatch_bounds hwins.2.1 (Nat.le_of_lt hpos)
      have htiles := (h.flushAs (g.defaultKind mode)).addMatch (g.defaultKind mode) r m hbounds.1
      -- An empty match leaves the character at the position as the new run.
      by_cases hempty : m.stop = s.pos
      · refine ⟨?_, ?_⟩
        · simpa [accept_run, hempty] using hempty ▸ htiles
        · simp [accept_run, accept_pos, hempty]
      · refine ⟨?_, ?_⟩
        · simpa [accept_run, accept_pos, hempty] using htiles
        · simp [accept_run, accept_pos, hempty]

theorem Covered.passes (h : Covered line s) (hpasses : Passes g line s t) : Covered line t :=
  hpasses.preserves (fun _ _ hcovered hadvance => hcovered.advance hadvance) h

theorem Covered.finish (h : Covered line s) (hfinish : s.finish g line = .ok t) :
    Tiles line 0 t.tokens.toList s.pos := by
  rcases finish_eq_ok_iff.mp hfinish with ⟨hrun, rfl⟩ | ⟨_, mode, _, _, rfl⟩
  · simpa [hrun] using h.tiles
  · exact h.flushAs _

end ScanState

open ScanState

/-- The tokens of a scanned line reach from its first character to its last. -/
theorem tiles_of_scanLine {g : CompiledGrammar} {text : String} {stack : ModeStack}
    {result : LineResult} (h : scanLine g text stack = .ok result) :
    Tiles text.toList.toArray 0 result.tokens text.toList.length := by
  obtain ⟨s, t, hpasses, hpos, hfinish, rfl⟩ := scanLine_eq_ok_iff.mp h
  have hcovered := (covered_initial g text.toList.toArray stack).passes hpasses
  exact hpos ▸ hcovered.finish hfinish

/-- Tokens are a line cut into pieces: from its first character on, each from where the one before it
ends, none empty, each with the text between its bounds, up to the last character. -/
structure Partitions (text : String) (tokens : List Token) : Prop where
  first : ∀ t ∈ tokens.head?, t.start = 0
  next : tokens.IsChain fun a b => b.start = a.stop
  nonempty : ∀ t ∈ tokens, t.start < t.stop
  text_eq : ∀ t ∈ tokens, t.text.toList = (text.toList.take t.stop).drop t.start
  last : ∀ t ∈ tokens.getLast?, t.stop = text.length
  eq_nil_iff : tokens = [] ↔ text = ""

theorem toList_sliceText (text : String) (start stop : Nat) :
    (sliceText text.toList.toArray start stop).toList = (text.toList.take stop).drop start := by
  rw [sliceText, String.toList_ofList, Array.toList_extract, List.extract_eq_take_drop,
    List.drop_take]

theorem Tiles.partitions {text : String} {tokens : List Token}
    (h : Tiles text.toList.toArray 0 tokens text.toList.length) : Partitions text tokens where
  first := h.start_of_head?
  next := h.isChain
  nonempty := h.start_lt_stop_of_mem
  text_eq t hmem := by rw [h.text_of_mem t hmem, toList_sliceText]
  last t hmem := by rw [h.stop_of_getLast? t hmem, String.length_toList]
  eq_nil_iff := by
    rw [← String.toList_eq_nil_iff, ← List.length_eq_zero_iff (l := text.toList)]
    constructor
    · rintro rfl
      exact h.symm
    · intro hempty
      cases tokens with
      | nil => rfl
      | cons t rest =>
          obtain ⟨_, hlt, _, hrest⟩ := h
          have := hrest.start_le_stop
          omega

/-- Whatever the rules, the line and the incoming stack are, the tokens of a scan that gives a result
are the line cut into pieces. -/
theorem partitions_of_scanLine (g : CompiledGrammar) (text : String) (stack : ModeStack)
    (result : LineResult) (h : scanLine g text stack = .ok result) :
    Partitions text result.tokens :=
  (tiles_of_scanLine h).partitions

namespace CoverageWitness

/-- A rule with two kinds, whose second group lies ahead of the match. -/
def grammar : CompiledGrammar :=
  ⟨[⟨"start",
      [⟨["first", "second"],
        ⟨"(a)(?=(b))",
          .cat (.capture 1 (.ofChar 'a'))
            (.look .ahead false (.capture 2 (.ofChar 'b'))),
          2, false⟩,
        .stay⟩],
      none⟩],
    .name "text"⟩

/-- What the group ahead shares with the text after the match is left to the scan of that text. -/
theorem partitions_xab :
    scanLine grammar "xab" initialStack = .ok
        ⟨[⟨.name "text", 0, 1, "x"⟩, ⟨.name "first", 1, 2, "a"⟩, ⟨.name "text", 2, 3, "b"⟩],
          ["start"]⟩ ∧
      Partitions "xab"
        [⟨.name "text", 0, 1, "x"⟩, ⟨.name "first", 1, 2, "a"⟩, ⟨.name "text", 2, 3, "b"⟩] := by
  have hscan : scanLine grammar "xab" initialStack = .ok
      ⟨[⟨.name "text", 0, 1, "x"⟩, ⟨.name "first", 1, 2, "a"⟩, ⟨.name "text", 2, 3, "b"⟩],
        ["start"]⟩ := rfl
  exact ⟨hscan, partitions_of_scanLine _ _ _ _ hscan⟩

end CoverageWitness

end ModalHighlight
