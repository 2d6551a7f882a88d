import ModalHighlight.Session
import Mathlib.Data.List.Basic

/-!
Edits as splices.  Every change of a buffer puts new lines in the place of a range of rows, leaves their
states open, and scans again from the first row of the range.  Only a row out of range is refused, before
anything is touched.
-/

namespace ModalHighlight

/-- A change of a range of rows: those from `row` up to `stop` give way to new lines. -/
structure Splice where
  row : Nat
  stop : Nat
  added : List String

namespace Splice

variable (p : Splice)

/-- The first row after the new lines. -/
def next : Nat := p.row + p.added.length

/-- The new lines and those that follow them. -/
def linesOn (old : List String) : List String :=
  p.added ++ old.drop p.stop

/-- Their states before any of them is scanned: new lines have none. -/
def statesOn (old : List (Option LineState)) : List (Option LineState) :=
  p.added.map (fun _ => none) ++ old.drop p.stop

/-- The lines after a change. -/
def lines (old : List String) : List String :=
  old.take p.row ++ p.linesOn old

/-- The states after a change, before any line is scanned. -/
def states (old : List (Option LineState)) : List (Option LineState) :=
  old.take p.row ++ p.statesOn old

/-- A session after a change, before any line is scanned. -/
def pending (s : Session) : Session :=
  ⟨p.lines s.lines, p.states s.states⟩

end Splice

namespace Session

/-- The change that an edit makes, unless its row is out of range. -/
def splice? (s : Session) : Edit → Except Int Splice
  | .setLines lines => .ok ⟨0, s.lines.length, lines⟩
  | .setText text => .ok ⟨0, s.lines.length, Text.splitLines text⟩
  | .updateLine row text =>
      match s.rowIndex? row with
      | none => .error row
      | some r => .ok ⟨r, r + 1, [text]⟩
  | .insertLines row lines =>
      if 0 ≤ row ∧ row ≤ s.lines.length then .ok ⟨row.toNat, row.toNat, lines⟩ else .error row
  | .deleteLines row count =>
      match s.rowIndex? row with
      | none => .error row
      | some r => .ok ⟨r, Nat.max r (endIndex s.lines.length (row + count)), []⟩

/-- Each line has a place for its state. -/
def Aligned (s : Session) : Prop :=
  s.states.length = s.lines.length

variable {g : CompiledGrammar} {s : Session}

theorem rowIndex?_eq_some {row : Int} {r : Nat} (h : s.rowIndex? row = some r) :
    r < s.lines.length := by
  unfold rowIndex? at h
  split at h
  · cases h
    omega
  · cases h

theorem rowIndex?_natCast {row : Nat} (h : row < s.lines.length) : s.rowIndex? row = some row := by
  rw [rowIndex?, if_pos (by omega), Int.toNat_natCast]

theorem state_eq_ok_iff {row : Nat} (hrow : row < s.lines.length) {state : LineState} :
    s.state row = .ok state ↔ s.states[row]? = some (some state) := by
  simp only [Session.state, rowIndex?_natCast hrow]
  rcases s.states[row]? with _ | _ | state' <;> simp

/-- A change begins within the buffer or right after it, and does not end before it begins. -/
theorem splice?_bounds {edit : Edit} {p : Splice} (h : s.splice? edit = .ok p) :
    p.row ≤ s.lines.length ∧ p.row ≤ p.stop := by
  cases edit with
  | setLines lines =>
      cases h
      exact ⟨Nat.zero_le _, Nat.zero_le _⟩
  | setText text =>
      cases h
      exact ⟨Nat.zero_le _, Nat.zero_le _⟩
  | updateLine row text =>
      simp only [splice?] at h
      split at h
      · cases h
      · rename_i r hrow
        cases h
        exact ⟨Nat.le_of_lt (rowIndex?_eq_some hrow), Nat.le_succ r⟩
  | insertLines row lines =>
      simp only [splice?] at h
      split at h
      · rename_i hrow
        cases h
        exact ⟨Int.toNat_le.mpr hrow.2, Nat.le_refl _⟩
      · cases h
  | deleteLines row count =>
      simp only [splice?] at h
      split at h
      · cases h
      · rename_i r hrow
        cases h
        exact ⟨Nat.le_of_lt (rowIndex?_eq_some hrow), Nat.le_max_left _ _⟩

theorem set_eq_splice {α : Type} {items : List α} {r : Nat} (h : r < items.length) (item : α) :
    items.set r item = items.take r ++ ([item] ++ items.drop (r + 1)) := by
  rw [List.set_eq_take_append_cons_drop, if_pos h]
  rfl

/-- An edit makes its change and scans again from the row where that begins. -/
theorem apply_eq (hs : s.Aligned) (edit : Edit) :
    s.apply g edit =
      match s.splice? edit with
      | .error row => (s, .error (.rowOutOfRange row))
      | .ok p => rescanFrom g (p.pending s) p.row := by
  have hall : s.states.drop s.lines.length = [] := List.drop_eq_nil_of_le (Nat.le_of_eq hs)
  cases edit with
  | setLines lines =>
      simp [Session.apply, setLines, splice?, Splice.pending, Splice.lines, Splice.linesOn,
        Splice.states, Splice.statesOn, hall]
  | setText text =>
      simp [Session.apply, setText, setLines, splice?, Splice.pending, Splice.lines, Splice.linesOn,
        Splice.states, Splice.statesOn, hall]
  | updateLine row text =>
      simp only [Session.apply, updateLine, splice?]
      cases hrow : s.rowIndex? row with
      | none => rfl
      | some r =>
          have hlines := rowIndex?_eq_some hrow
          have hstates : r < s.states.length := hs ▸ hlines
          simp only [set_eq_splice hlines, set_eq_splice hstates]
          rfl
  | insertLines row lines =>
      simp only [Session.apply, insertLines, splice?]
      split
      · simp only [List.append_assoc]
        rfl
      · rfl
  | deleteLines row count =>
      simp only [Session.apply, deleteLines, splice?]
      cases hrow : s.rowIndex? row with
      | none => rfl
      | some r =>
          have hlength : s.states.length = s.lines.length := hs
          simp only [eraseRange, hlength]
          rfl

section

variable {first : ModeStack} {line : String} {lines : List String} {old : Option LineState}
  {states : List (Option LineState)}

/-- Scanning stops at a line whose state was made from the stack that reaches it. -/
theorem rescan_reuse {state : LineState} (hin : state.stackIn = first) :
    rescan g first (line :: lines) (some state :: states) = (some state :: states, .ok 0) := by
  have hsame : (state.stackIn == first) = true := beq_iff_eq.mpr hin
  simp only [rescan, hsame, if_true]

/-- Otherwise the line is scanned, which may fail and leaves its state as it was then. -/
theorem rescan_fail {err : ScanError} (hold : ∀ state, old = some state → state.stackIn ≠ first)
    (hscan : scanLine g line first = .error err) :
    rescan g first (line :: lines) (old :: states) = (old :: states, .error err) := by
  rcases old with _ | state
  · simp only [rescan, hscan, Bool.false_eq_true, if_false]
  · have hchanged : (state.stackIn == first) = false := beq_false_of_ne (hold state rfl)
    simp only [rescan, hscan, hchanged, Bool.false_eq_true, if_false]

/-- Scanning goes on from the stack that the line leaves. -/
theorem rescan_cons {result : LineResult} (hold : ∀ state, old = some state → state.stackIn ≠ first)
    (hscan : scanLine g line first = .ok result) :
    rescan g first (line :: lines) (old :: states) =
      (some ⟨first, result.tokens, result.stack⟩ :: (rescan g result.stack lines states).1,
        (rescan g result.stack lines states).2.map (· + 1)) := by
  rcases old with _ | state
  · simp only [rescan, hscan, Bool.false_eq_true, if_false]
  · have hchanged : (state.stackIn == first) = false := beq_false_of_ne (hold state rfl)
    simp only [rescan, hscan, hchanged, Bool.false_eq_true, if_false]

/-- What scanning a line again can come to: its state is reused, or it fails, or it is scanned. -/
theorem rescan_cases (g : CompiledGrammar) (first : ModeStack) (line : String)
    (old : Option LineState) :
    (∃ state, old = some state ∧ state.stackIn = first) ∨
      (∀ state, old = some state → state.stackIn ≠ first) ∧
        ((∃ err, scanLine g line first = .error err) ∨
          ∃ result, scanLine g line first = .ok result) := by
  by_cases hreuse : ∃ state, old = some state ∧ state.stackIn = first
  · exact Or.inl hreuse
  · refine Or.inr ⟨fun state hstate hin => hreuse ⟨state, hstate, hin⟩, ?_⟩
    rcases scanLine g line first with err | result
    · exact Or.inl ⟨err, rfl⟩
    · exact Or.inr ⟨result, rfl⟩

theorem length_rescan (first : ModeStack) (lines : List String) (states : List (Option LineState)) :
    (rescan g first lines states).1.length = states.length := by
  induction lines generalizing first states with
  | nil => rfl
  | cons line rest ih =>
      rcases states with _ | ⟨old, olds⟩
      · rfl
      rcases rescan_cases g first line old with
        ⟨state, rfl, hin⟩ | ⟨hold, ⟨err, hscan⟩ | ⟨result, hscan⟩⟩
      · rw [rescan_reuse hin]
      · rw [rescan_fail hold hscan]
      · rw [rescan_cons hold hscan, List.length_cons, List.length_cons, ih]

end

theorem aligned_pending {p : Splice} (hs : s.Aligned) : (p.pending s).Aligned := by
  have hlength : s.states.length = s.lines.length := hs
  simp [Aligned, Splice.pending, Splice.lines, Splice.linesOn, Splice.states, Splice.statesOn, hlength]

theorem Aligned.rescanFrom (hs : s.Aligned) (row : Nat) : (s.rescanFrom g row).1.Aligned := by
  unfold Session.rescanFrom
  split
  · exact hs
  · rename_i stack _
    have hlength : s.states.length = s.lines.length := hs
    simp only [Aligned, List.length_append, List.length_take, length_rescan, List.length_drop]
    omega

/-- Whether it fails or not, an edit leaves a place for the state of each line. -/
theorem Aligned.apply (hs : s.Aligned) (edit : Edit) : (s.apply g edit).1.Aligned := by
  rw [apply_eq hs]
  split
  · exact hs
  · exact (aligned_pending hs).rescanFrom _

theorem aligned_empty : empty.Aligned := rfl

section

variable {p : Splice} (hs : s.Aligned) (hrow : p.row ≤ s.lines.length)

include hs hrow

theorem stackBefore_pending : (p.pending s).stackBefore p.row = s.stackBefore p.row := by
  have hlength : s.states.length = s.lines.length := hs
  rcases hbefore : p.row with _ | before
  · rfl
  · have hsame : (p.states s.states)[before]? = s.states[before]? := by
      rw [Splice.states, List.getElem?_append_left, List.getElem?_take_of_lt]
      · omega
      · rw [List.length_take]
        omega
    simp only [stackBefore, Splice.pending, hsame]

/-- After a change scanning goes on from the stack that reaches its first row. -/
theorem rescanFrom_pending {stack : ModeStack} (hstack : s.stackBefore p.row = .ok stack) :
    rescanFrom g (p.pending s) p.row =
      (⟨p.lines s.lines,
          s.states.take p.row ++ (rescan g stack (p.linesOn s.lines) (p.statesOn s.states)).1⟩,
        (rescan g stack (p.linesOn s.lines) (p.statesOn s.states)).2.mapError .scan) := by
  have hlength : s.states.length = s.lines.length := hs
  have hstates : (s.states.take p.row).length = p.row := List.length_take_of_le (by omega)
  have hlines : (p.lines s.lines).drop p.row = p.linesOn s.lines :=
    List.drop_left' (List.length_take_of_le hrow)
  have hopen : (p.states s.states).drop p.row = p.statesOn s.states := List.drop_left' hstates
  have htake : (p.states s.states).take p.row = s.states.take p.row := List.take_left' hstates
  rw [rescanFrom, stackBefore_pending hs hrow, hstack]
  simp only [Splice.pending, hlines, hopen, htake]

/-- After a row without a state nothing is scanned. -/
theorem rescanFrom_pending_error {e : SessionError} (hstack : s.stackBefore p.row = .error e) :
    rescanFrom g (p.pending s) p.row = (p.pending s, .error e) := by
  rw [rescanFrom, stackBefore_pending hs hrow, hstack]

end

end Session

end ModalHighlight
