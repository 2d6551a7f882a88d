import ModalHighlight.Proofs.Session.Splice
import ModalHighlight.Proofs.Scan.Failure

/-!
Incremental scanning gives what scanning from scratch gives.  The states of a session are one chain: each
line was scanned from the stack that the line before it left.  An edit cuts the chain at its row and puts
lines without states there; scanning goes on until it meets a stack that the rest of the chain was made
from, and the chain is whole again.
-/

namespace ModalHighlight

/-- A grammar scans every line from every stack. -/
def CompiledGrammar.NeverFails (g : CompiledGrammar) : Prop :=
  ∀ text stack, ∃ result, scanLine g text stack = .ok result

/-- The states of lines that are scanned one after another, from one stack to another. -/
inductive Segment (g : CompiledGrammar) :
    ModeStack → List String → List (Option LineState) → ModeStack → Prop
  | nil {stack : ModeStack} : Segment g stack [] [] stack
  | cons {stack : ModeStack} {line : String} {lines : List String} {result : LineResult}
      {states : List (Option LineState)} {last : ModeStack}
      (hscan : scanLine g line stack = .ok result)
      (hrest : Segment g result.stack lines states last) :
      Segment g stack (line :: lines) (some ⟨stack, result.tokens, result.stack⟩ :: states) last

section

variable {g : CompiledGrammar} {first mid last : ModeStack} {lines lines' : List String}
  {states states' : List (Option LineState)}

namespace Segment

theorem length_eq (h : Segment g first lines states last) : states.length = lines.length := by
  induction h with
  | nil => rfl
  | cons _ _ ih => rw [List.length_cons, List.length_cons, ih]

theorem append (h : Segment g first lines states mid) (h' : Segment g mid lines' states' last) :
    Segment g first (lines ++ lines') (states ++ states') last := by
  induction h with
  | nil => exact h'
  | cons hscan _ ih => exact .cons hscan (ih h')

/-- A segment can be cut at any row. -/
theorem cut (h : Segment g first lines states last) (row : Nat) :
    ∃ mid, Segment g first (lines.take row) (states.take row) mid ∧
      Segment g mid (lines.drop row) (states.drop row) last := by
  induction h generalizing row with
  | nil =>
      rw [List.take_nil, List.take_nil, List.drop_nil, List.drop_nil]
      exact ⟨_, .nil, .nil⟩
  | cons hscan hrest ih =>
      cases row with
      | zero => exact ⟨_, .nil, .cons hscan hrest⟩
      | succ row =>
          obtain ⟨mid, hbefore, hafter⟩ := ih row
          exact ⟨mid, .cons hscan hbefore, hafter⟩

/-- The lines and the first stack determine a segment. -/
theorem states_eq (h : Segment g first lines states last)
    (h' : Segment g first lines states' mid) : states = states' := by
  induction h generalizing states' with
  | nil =>
      cases h'
      rfl
  | cons hscan _ ih =>
      cases h' with
      | cons hscan' hrest' =>
          rw [hscan, Except.ok.injEq] at hscan'
          subst hscan'
          rw [ih hrest']

/-- The last stack is the one that the last line leaves. -/
theorem last_eq (h : Segment g first lines states last) :
    (states = [] ∧ last = first) ∨
      ∃ state, states.getLast? = some (some state) ∧ state.stackOut = last := by
  induction h with
  | nil => exact Or.inl ⟨rfl, rfl⟩
  | cons hscan hrest ih =>
      right
      rcases ih with ⟨rfl, rfl⟩ | ⟨state, hlast, hout⟩
      · exact ⟨_, rfl, rfl⟩
      · exact ⟨state, by rw [List.getLast?_cons, hlast]; rfl, hout⟩

/-- Scanning the lines one after another leads to the last stack. -/
theorem scanLines_eq (h : Segment g first lines states last) :
    ∃ tokens, scanLines g lines first = .ok (tokens, last) := by
  induction h with
  | nil => exact ⟨[], rfl⟩
  | @cons _ _ _ result _ _ hscan _ ih =>
      obtain ⟨tokens, hrest⟩ := ih
      refine ⟨result.tokens :: tokens, ?_⟩
      simp only [scanLines, hscan, hrest]

end Segment

/-- The stack that lines leave when they are scanned one after another. -/
def stackAfter (g : CompiledGrammar) (lines : List String) (stack : ModeStack) :
    Except ScanError ModeStack :=
  (scanLines g lines stack).map Prod.snd

theorem stackAfter_cons {line : String} {result : LineResult}
    (hscan : scanLine g line first = .ok result) :
    stackAfter g (line :: lines) first = stackAfter g lines result.stack := by
  simp only [stackAfter, scanLines, hscan]
  cases scanLines g lines result.stack <;> rfl

theorem Segment.stackAfter_eq (h : Segment g first lines states last) :
    stackAfter g lines first = .ok last := by
  obtain ⟨tokens, hscan⟩ := h.scanLines_eq
  rw [stackAfter, hscan]
  rfl

theorem stackAfter_append (h : stackAfter g lines first = .ok mid) (more : List String) :
    stackAfter g (lines ++ more) first = stackAfter g more mid := by
  induction lines generalizing first with
  | nil =>
      cases h
      rfl
  | cons line rest ih =>
      rcases hscan : scanLine g line first with e | result
      · simp only [stackAfter, scanLines, hscan] at h
        cases h
      · rw [stackAfter_cons hscan] at h
        rw [List.cons_append, stackAfter_cons hscan, ih h]

/-- The stack that reaches a row when a buffer is scanned from its first line. -/
def stackInto (g : CompiledGrammar) (lines : List String) (row : Nat) :
    Except ScanError ModeStack :=
  stackAfter g (lines.take row) initialStack

/-- From two stacks, different stacks reach a number of lines, and one stack reaches the next, unless
there is none. -/
structure Settles (g : CompiledGrammar) (lines : List String) (first second : ModeStack)
    (count : Nat) : Prop where
  le_length : count ≤ lines.length
  differs : ∀ i < count, stackAfter g (lines.take i) first ≠ stackAfter g (lines.take i) second
  agrees : count < lines.length →
    stackAfter g (lines.take count) first = stackAfter g (lines.take count) second

namespace Settles

theorem nil : Settles g [] first mid 0 :=
  ⟨Nat.le_refl _, by simp, by simp⟩

theorem refl (lines : List String) : Settles g lines first first 0 :=
  ⟨Nat.zero_le _, by simp, fun _ => rfl⟩

/-- One more line that different stacks reach. -/
theorem cons {line : String} {result result' : LineResult} {count : Nat}
    (h : Settles g lines result.stack result'.stack count) (hne : first ≠ mid)
    (hfirst : scanLine g line first = .ok result) (hmid : scanLine g line mid = .ok result') :
    Settles g (line :: lines) first mid (count + 1) := by
  refine ⟨Nat.succ_le_succ h.le_length, fun i hi => ?_, fun hcount => ?_⟩
  · cases i with
    | zero => exact fun heq => hne (Except.ok.inj heq)
    | succ i =>
        rw [List.take_succ_cons, stackAfter_cons hfirst, stackAfter_cons hmid]
        exact h.differs i (Nat.lt_of_succ_lt_succ hi)
  · rw [List.take_succ_cons, stackAfter_cons hfirst, stackAfter_cons hmid]
    exact h.agrees (Nat.lt_of_succ_lt_succ hcount)

end Settles

/-- Lines without states, and then a segment that was made from some stack. -/
inductive Stale (g : CompiledGrammar) : List String → List (Option LineState) → Prop
  | segment {first last : ModeStack} {lines : List String} {states : List (Option LineState)}
      (h : Segment g first lines states last) : Stale g lines states
  | unscanned {line : String} {lines : List String} {states : List (Option LineState)}
      (h : Stale g lines states) : Stale g (line :: lines) (none :: states)

theorem Stale.append_unscanned (h : Stale g lines states) (added : List String) :
    Stale g (added ++ lines) (added.map (fun _ => none) ++ states) := by
  induction added with
  | nil => exact h
  | cons line rest ih => exact .unscanned ih

namespace Session

/-- Scanning a segment again from another stack gives a segment.  It ends at the first line that one stack
reaches in both, and the old states go on from there. -/
theorem rescan_segment (hg : g.NeverFails) (h : Segment g mid lines states last)
    (first : ModeStack) :
    ∃ states' last' count, rescan g first lines states = (states', .ok count) ∧
      Segment g first lines states' last' ∧ Settles g lines first mid count ∧
      states'.drop count = states.drop count := by
  induction h generalizing first with
  | nil => exact ⟨[], first, 0, rfl, .nil, .nil, rfl⟩
  | @cons stack line lines result states last hscan hrest ih =>
      by_cases hsame : stack = first
      · subst hsame
        exact ⟨_, last, 0, rescan_reuse rfl, .cons hscan hrest, .refl _, rfl⟩
      · obtain ⟨found, hfound⟩ := hg line first
        obtain ⟨states', last', count, hrescan, hsegment, hsettles, hkept⟩ := ih found.stack
        refine ⟨_, last', count + 1, ?_, .cons hfound hsegment,
          hsettles.cons (Ne.symm hsame) hfound hscan, hkept⟩
        have hold : ∀ state, some (⟨stack, result.tokens, result.stack⟩ : LineState) = some state →
            state.stackIn ≠ first := by
          rintro state ⟨⟩
          exact hsame
        rw [rescan_cons hold hfound, hrescan]
        rfl

/-- Scanning again brings lines without states up to date. -/
theorem rescan_stale (hg : g.NeverFails) (h : Stale g lines states) (first : ModeStack) :
    ∃ states' last count, rescan g first lines states = (states', .ok count) ∧
      Segment g first lines states' last := by
  induction h generalizing first with
  | segment h =>
      obtain ⟨states', last', count, hrescan, hsegment, _⟩ := rescan_segment hg h first
      exact ⟨states', last', count, hrescan, hsegment⟩
  | @unscanned line lines states _ ih =>
      obtain ⟨found, hfound⟩ := hg line first
      obtain ⟨states', last, count, hrescan, hsegment⟩ := ih found.stack
      refine ⟨_, last, count + 1, ?_, .cons hfound hsegment⟩
      rw [rescan_cons (by simp) hfound, hrescan]
      rfl

/-- The states of a session are one segment from the stack before the first line. -/
def Chained (g : CompiledGrammar) (s : Session) : Prop :=
  ∃ last, Segment g initialStack s.lines s.states last

/-- The stack that a session has before a row is the one that the rows before it leave. -/
theorem stackBefore_eq {s : Session} {row : Nat}
    (h : Segment g initialStack (s.lines.take row) (s.states.take row) mid)
    (hrow : row ≤ s.lines.length) : s.stackBefore row = .ok mid := by
  have hlength : (s.states.take row).length = row :=
    h.length_eq.trans (List.length_take_of_le hrow)
  rcases h.last_eq with ⟨hnone, rfl⟩ | ⟨state, hlast, rfl⟩
  · rw [hnone] at hlength
    subst hlength
    rfl
  · rcases row with _ | before
    · cases hlast
    · rw [List.getLast?_eq_getElem?, hlength, Nat.add_sub_cancel,
        List.getElem?_take_of_lt (Nat.lt_succ_self _)] at hlast
      simp only [stackBefore, hlast]

/-- An operation on a session ends with a whole chain again, or finds its row out of range and changes
nothing. -/
def KeepsChain (g : CompiledGrammar) (s : Session) (outcome : Session × Except SessionError Nat) :
    Prop :=
  (Chained g outcome.1 ∧ ∃ count, outcome.2 = .ok count) ∨
    ∃ row, outcome = (s, .error (.rowOutOfRange row))

section

variable {s : Session}

theorem Chained.aligned (h : Chained g s) : s.Aligned := by
  obtain ⟨_, hsegment⟩ := h
  exact hsegment.length_eq

/-- A change cuts the chain at the ends of its range, and scanning again makes it whole. -/
theorem Chained.exists_rescanFrom_eq (hg : g.NeverFails) (h : Chained g s) {p : Splice}
    (hrow : p.row ≤ s.lines.length) :
    ∃ states count, rescanFrom g (p.pending s) p.row = (⟨p.lines s.lines, states⟩, .ok count) ∧
      Chained g ⟨p.lines s.lines, states⟩ := by
  have hs := h.aligned
  obtain ⟨_, hsegment⟩ := h
  obtain ⟨mid, hbefore, _⟩ := hsegment.cut p.row
  obtain ⟨_, _, hafter⟩ := hsegment.cut p.stop
  obtain ⟨states, last, count, hrescan, hscanned⟩ :=
    rescan_stale hg ((Stale.segment hafter).append_unscanned p.added) mid
  refine ⟨_, count, ?_, last, hbefore.append hscanned⟩
  rw [rescanFrom_pending hs hrow (stackBefore_eq hbefore hrow), Splice.linesOn, Splice.statesOn,
    hrescan]
  rfl

theorem Chained.keepsChain (hg : g.NeverFails) (h : Chained g s) (edit : Edit) :
    KeepsChain g s (s.apply g edit) := by
  rw [apply_eq h.aligned]
  rcases hsplice : s.splice? edit with row | p
  · exact Or.inr ⟨row, rfl⟩
  · obtain ⟨states, count, hrescan, hchained⟩ := h.exists_rescanFrom_eq hg (splice?_bounds hsplice).1
    simp only [hrescan]
    exact Or.inl ⟨hchained, count, rfl⟩

/-- One edit keeps the chain. -/
theorem Chained.apply (hg : g.NeverFails) (h : Chained g s) (edit : Edit) :
    Chained g (s.apply g edit).1 := by
  rcases h.keepsChain hg edit with ⟨hchained, _⟩ | ⟨row, hrow⟩
  · exact hchained
  · rwa [hrow]

variable (g s) in
/-- A session after a history of edits. -/
def applyAll (edits : List Edit) : Session :=
  edits.foldl (fun s edit => (s.apply g edit).1) s

/-- So does every history of edits. -/
theorem Chained.applyAll (hg : g.NeverFails) (h : Chained g s) (edits : List Edit) :
    Chained g (s.applyAll g edits) := by
  induction edits generalizing s with
  | nil => exact h
  | cons edit rest ih => exact ih (h.apply hg edit)

end

/-- A session on given lines can be built, and it is one chain on them. -/
theorem exists_ofLines_eq_ok (hg : g.NeverFails) (lines : List String) :
    ∃ s, ofLines g lines = .ok s ∧ s.lines = lines ∧ Chained g s := by
  have hempty : Chained g empty := ⟨initialStack, .nil⟩
  obtain ⟨states, count, hrescan, hchained⟩ :=
    hempty.exists_rescanFrom_eq hg (p := ⟨0, 0, lines⟩) (Nat.le_refl _)
  have hset : empty.setLines g lines = _ := (apply_eq hempty.aligned (.setLines lines)).trans hrescan
  have hlines : Splice.lines ⟨0, 0, lines⟩ [] = lines := List.append_nil lines
  exact ⟨_, by simp only [ofLines, hset], hlines, hchained⟩

/-- A session that some history of edits leads to, from one that was built on some lines. -/
def Reachable (g : CompiledGrammar) (s : Session) : Prop :=
  ∃ lines s₀ history, ofLines g lines = .ok s₀ ∧ s = s₀.applyAll g history

theorem aligned_of_ofLines {s : Session} {lines : List String} (h : ofLines g lines = .ok s) :
    s.Aligned := by
  have hset : (empty.setLines g lines).1.Aligned := aligned_empty.apply (.setLines lines)
  unfold ofLines at h
  split at h
  · rename_i t count happlied
    cases h
    rwa [happlied] at hset
  · cases h

theorem Reachable.aligned {s : Session} (h : Reachable g s) : s.Aligned := by
  obtain ⟨lines, s₀, history, hs₀, rfl⟩ := h
  have hs := aligned_of_ofLines hs₀
  clear hs₀
  induction history generalizing s₀ with
  | nil => exact hs
  | cons edit rest ih => exact ih _ (hs.apply edit)

theorem Reachable.chained (hg : g.NeverFails) {s : Session} (h : Reachable g s) : Chained g s := by
  obtain ⟨lines, s₀, history, hs₀, rfl⟩ := h
  obtain ⟨fresh, hfresh, _, hchained⟩ := exists_ofLines_eq_ok hg lines
  obtain rfl : s₀ = fresh := Except.ok.inj (hs₀.symm.trans hfresh)
  exact hchained.applyAll hg history

/-- Two chained sessions on the same lines are the same. -/
theorem Chained.eq_of_lines_eq {s t : Session} (h : Chained g s) (h' : Chained g t)
    (hlines : s.lines = t.lines) : s = t := by
  obtain ⟨_, hs⟩ := h
  obtain ⟨_, ht⟩ := h'
  obtain ⟨lines, states⟩ := s
  obtain ⟨_, states'⟩ := t
  cases hlines
  exact congrArg (Session.mk lines) (hs.states_eq ht)

/-- What a session says of each row is what scanning its lines from scratch gives. -/
structure AgreesWithScan (g : CompiledGrammar) (s : Session) : Prop where
  length_eq : s.states.length = s.lines.length
  row : ∀ (i : Nat) (line : String), s.lines[i]? = some line → ∃ tokens stack result,
    scanLines g (s.lines.take i) initialStack = .ok (tokens, stack) ∧
      scanLine g line stack = .ok result ∧
      s.state i = .ok ⟨stack, result.tokens, result.stack⟩

theorem Chained.agreesWithScan {s : Session} (h : Chained g s) : AgreesWithScan g s := by
  obtain ⟨last, hsegment⟩ := h
  refine ⟨hsegment.length_eq, fun i line hline => ?_⟩
  obtain ⟨stack, hbefore, hafter⟩ := hsegment.cut i
  obtain ⟨tokens, hscanned⟩ := hbefore.scanLines_eq
  obtain ⟨hi, rfl⟩ := List.getElem?_eq_some_iff.mp hline
  rw [List.drop_eq_getElem_cons hi] at hafter
  generalize hpending : s.states.drop i = pending at hafter
  cases hafter with
  | @cons _ _ _ result states _ hscan hrest =>
      have hstate : s.states[i]? = some (some ⟨stack, result.tokens, result.stack⟩) := by
        have hhead := congrArg (fun pending => pending[0]?) hpending
        simpa using hhead
      exact ⟨tokens, stack, result, hscanned, hscan, (state_eq_ok_iff hi).mpr hstate⟩

/-- Incremental scanning equals scanning from scratch.  With a grammar that scans every line, a session
can be built on any lines, and after any history of edits it says of each row what scanning its lines from
scratch gives, and is the session that would be built on them.  An edit only fails on a row out of range,
and then changes nothing. -/
theorem applyAll_agrees_with_scan (g : CompiledGrammar)
    (hg : ∀ text stack, ∃ result, scanLine g text stack = .ok result) (lines : List String)
    (edits : List Edit) :
    ∃ s, ofLines g lines = .ok s ∧ s.lines = lines ∧
      AgreesWithScan g (s.applyAll g edits) ∧
      ofLines g (s.applyAll g edits).lines = .ok (s.applyAll g edits) ∧
      ∀ edit, (∃ count, ((s.applyAll g edits).apply g edit).2 = .ok count) ∨
        ∃ row, (s.applyAll g edits).apply g edit =
          (s.applyAll g edits, .error (.rowOutOfRange row)) := by
  obtain ⟨s, hs, hlines, hchained⟩ := exists_ofLines_eq_ok hg lines
  have hedited := hchained.applyAll hg edits
  obtain ⟨fresh, hfresh, hsame, hfreshChained⟩ := exists_ofLines_eq_ok hg (s.applyAll g edits).lines
  refine ⟨s, hs, hlines, hedited.agreesWithScan, ?_, fun edit => ?_⟩
  · rw [hfresh, hfreshChained.eq_of_lines_eq hedited hsame]
  · exact (hedited.keepsChain hg edit).imp_left fun h => h.2

end Session

end

namespace SessionWitness

/-- Brackets that may stay open across lines. -/
def grammar : CompiledGrammar :=
  ⟨[⟨"start", [⟨["open"], .ofChar '(', .push "inner"⟩], none⟩,
    ⟨"inner", [⟨["close"], .ofChar ')', .pop⟩], none⟩], .name "text"⟩

theorem compile_eq_grammar :
    compileSources
      [("start", .ready [.rule ["open"] (.ready (.ofChar '(')) (.group "inner") none]),
        ("inner", .ready [.rule ["close"] (.ready (.ofChar ')')) .nothing (some "pop")])]
      (.name "text") = .ok grammar := rfl

theorem grammar_scans_every_line (text : String) (stack : ModeStack) :
    ∃ result, scanLine grammar text stack = .ok result := by
  have hrules : ∀ mode ∈ grammar.modes, ∀ r ∈ mode.rules,
      r.transition ≠ .push popWord ∧ r.pattern.traced = false := by decide
  refine exists_scanLine_eq_ok (sound_of_compileSources compile_eq_grammar) ?_ ?_ text stack
  · exact fun mode hmode r hr hpush => absurd hpush (hrules mode hmode r hr).1
  · rintro ⟨mode, hmode, r, hr, htraced⟩
    rw [(hrules mode hmode r hr).2] at htraced
    cases htraced

/-- An edit in the middle, one out of range, and one that closes a bracket that was left open. -/
theorem bracket_session_agrees_with_scan :
    ∃ s, Session.ofLines grammar ["(a", "b", "c)"] = .ok s ∧
      Session.AgreesWithScan grammar
        (s.applyAll grammar [.deleteLines 1 1, .updateLine 9 "", .updateLine 0 "(a)"]) := by
  obtain ⟨s, hs, _, hagrees, _⟩ := Session.applyAll_agrees_with_scan grammar
    grammar_scans_every_line ["(a", "b", "c)"] [.deleteLines 1 1, .updateLine 9 "", .updateLine 0 "(a)"]
  exact ⟨s, hs, hagrees⟩

end SessionWitness

end ModalHighlight
