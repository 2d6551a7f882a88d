import ModalHighlight.Proofs.Session.Consistency

/-!
The lines of a session.  They are what the same edits make of a plain list of lines, whatever is scanned in
between.  There is one exception: the end of a deletion is a place in the list, and an end before its first line
counts from its last.  Such a deletion has a negative count, and takes away lines that it was not asked for.
-/

namespace ModalHighlight

/-- The lines at the rows outside a window. -/
def outsideRows (lines : List String) (first stop : Int) : List String :=
  (lines.zipIdx.filter fun (_, row) => decide ¬ (first ≤ row ∧ row < stop)).map Prod.fst

/-- What an edit makes of a plain list of lines, or the row that is out of range. -/
def plainEdit (lines : List String) : Edit → Except Int (List String)
  | .setLines new => .ok new
  | .setText text => .ok (Text.splitLines text)
  | .updateLine row text =>
      if 0 ≤ row ∧ row < lines.length then .ok (lines.set row.toNat text) else .error row
  | .insertLines row new =>
      if 0 ≤ row ∧ row ≤ lines.length then
        .ok (lines.take row.toNat ++ new ++ lines.drop row.toNat)
      else .error row
  | .deleteLines row count =>
      if 0 ≤ row ∧ row < lines.length then .ok (outsideRows lines row (row + count)) else .error row

/-- A list of lines after an edit.  An edit whose row is out of range changes nothing. -/
def afterEdit (lines : List String) (edit : Edit) : List String :=
  match plainEdit lines edit with
  | .ok new => new
  | .error _ => lines

/-- A deletion ends so far before the first line that its end counts from the last, and lies behind its row
then. -/
def Edit.CountsFromEnd (length : Nat) : Edit → Prop
  | .deleteLines row count => 0 ≤ row ∧ row < length ∧ row + count < 0 ∧ -length < count
  | _ => False

/-- No edit of a history is such a deletion, when it comes to it. -/
def NoneCountsFromEnd : List String → List Edit → Prop
  | _, [] => True
  | lines, edit :: rest =>
      ¬ edit.CountsFromEnd lines.length ∧ NoneCountsFromEnd (afterEdit lines edit) rest

instance (length : Nat) : (edit : Edit) → Decidable (edit.CountsFromEnd length)
  | .deleteLines _ _ => inferInstanceAs (Decidable (_ ∧ _))
  | .setLines _ | .setText _ | .updateLine _ _ | .insertLines _ _ => inferInstanceAs (Decidable False)

instance decidableNoneCountsFromEnd :
    (lines : List String) → (edits : List Edit) → Decidable (NoneCountsFromEnd lines edits)
  | _, [] => inferInstanceAs (Decidable True)
  | lines, edit :: rest =>
      have := decidableNoneCountsFromEnd (afterEdit lines edit) rest
      inferInstanceAs (Decidable (_ ∧ _))

theorem outsideRows_eq (lines : List String) (first : Nat) (stop : Int) :
    outsideRows lines first stop = lines.take first ++ lines.drop (max first stop.toNat) := by
  have hoffset : ∀ offset : Nat,
      ((lines.zipIdx offset).filter fun (_, row) =>
          decide ¬ ((first : Int) ≤ row ∧ (row : Int) < stop)).map Prod.fst =
        lines.take (first - offset) ++ lines.drop (max first stop.toNat - offset) := by
    induction lines with
    | nil => simp
    | cons line rest ih =>
        intro offset
        rw [List.zipIdx_cons, List.filter_cons]
        by_cases hbefore : offset < first
        · have htake : first - offset = first - (offset + 1) + 1 := by omega
          have hdrop : max first stop.toNat - offset = max first stop.toNat - (offset + 1) + 1 := by omega
          rw [if_pos (decide_eq_true (by omega)), List.map_cons, ih, htake, hdrop]
          rfl
        have htake : first - offset = 0 ∧ first - (offset + 1) = 0 := by omega
        by_cases hinside : offset < stop.toNat
        · have hdrop : max first stop.toNat - offset = max first stop.toNat - (offset + 1) + 1 := by omega
          rw [if_neg (by rw [decide_eq_true_eq]; omega), ih, htake.1, htake.2, hdrop]
          rfl
        · have hdrop : max first stop.toNat - offset = 0 ∧ max first stop.toNat - (offset + 1) = 0 := by
            omega
          rw [if_pos (decide_eq_true (by omega)), List.map_cons, ih, htake.1, htake.2, hdrop.1, hdrop.2]
          rfl
  exact hoffset 0

/-- A window that ends before it begins leaves all lines. -/
theorem outsideRows_of_stop_le (lines : List String) {first : Nat} {stop : Int} (h : stop ≤ first) :
    outsideRows lines first stop = lines := by
  rw [outsideRows_eq, max_eq_left (by omega), List.take_append_drop]

namespace Session

variable {g : CompiledGrammar} {s : Session}

/-- The rows that a deletion takes away. -/
theorem lines_deletion (lines : List String) (row : Nat) (stop : Int) :
    (⟨row, Nat.max row (endIndex lines.length stop), []⟩ : Splice).lines lines =
      outsideRows lines row (if stop < 0 then stop + lines.length else stop) := by
  rw [outsideRows_eq]
  rfl

/-- The change that an edit makes is that of a plain list of lines, unless it is a deletion whose end counts from
the last line. -/
theorem splice?_eq_plainEdit {edit : Edit} (h : ¬ edit.CountsFromEnd s.lines.length) :
    (s.splice? edit).map (·.lines s.lines) = plainEdit s.lines edit := by
  cases edit with
  | setLines new => simp [splice?, plainEdit, Except.map, Splice.lines, Splice.linesOn]
  | setText text => simp [splice?, plainEdit, Except.map, Splice.lines, Splice.linesOn]
  | updateLine row text =>
      simp only [splice?, plainEdit, rowIndex?]
      split_ifs with hrow
      · have hlt : row.toNat < s.lines.length := by omega
        simp only [Except.map, set_eq_splice hlt]
        rfl
      · rfl
  | insertLines row new =>
      simp only [splice?, plainEdit]
      split_ifs
      · simp only [Except.map, List.append_assoc]
        rfl
      · rfl
  | deleteLines row count =>
      simp only [splice?, plainEdit, rowIndex?]
      split_ifs with hrow
      · obtain ⟨first, rfl⟩ := Int.eq_ofNat_of_zero_le hrow.1
        simp only [Except.map, Int.toNat_natCast, lines_deletion]
        by_cases hend : (first : Int) + count < 0
        · -- The end that counts from the last line lies before the row as well.
          have hbefore : (first : Int) + count + s.lines.length ≤ first := by
            simp only [Edit.CountsFromEnd, not_and] at h
            have := h hrow.1 hrow.2 hend
            omega
          rw [if_pos hend, outsideRows_of_stop_le _ hbefore, outsideRows_of_stop_le _ (by omega)]
        · rw [if_neg hend]
      · rfl

/-- A deletion whose end counts from the last line takes away the rows up to there. -/
theorem splice?_of_countsFromEnd {row count : Int}
    (h : (Edit.deleteLines row count).CountsFromEnd s.lines.length) :
    ∃ p, s.splice? (.deleteLines row count) = .ok p ∧
      p.lines s.lines = outsideRows s.lines row (row + count + s.lines.length) := by
  obtain ⟨hrow, hlt, hend, _⟩ := h
  obtain ⟨first, rfl⟩ := Int.eq_ofNat_of_zero_le hrow
  refine ⟨_, by rw [splice?, rowIndex?, if_pos ⟨hrow, hlt⟩], ?_⟩
  rw [lines_deletion, if_pos hend, Int.toNat_natCast]

/-- It was asked to take away no line, and takes away at least one. -/
theorem plainEdit_of_countsFromEnd {lines : List String} {row count : Int}
    (h : (Edit.deleteLines row count).CountsFromEnd lines.length) :
    plainEdit lines (.deleteLines row count) = .ok lines ∧
      outsideRows lines row (row + count + lines.length) ≠ lines := by
  obtain ⟨hrow, hlt, hend, hcount⟩ := h
  obtain ⟨first, rfl⟩ := Int.eq_ofNat_of_zero_le hrow
  constructor
  · rw [plainEdit, if_pos ⟨hrow, hlt⟩, outsideRows_of_stop_le lines (by omega)]
  · intro hsame
    have hlength := congrArg List.length hsame
    rw [outsideRows_eq, List.length_append, List.length_take, List.length_drop] at hlength
    omega

/-- How an edit changes the lines of a session.  A row out of range is refused and changes nothing.  Else the
lines are those of a plain list after the same edit, except for a deletion whose end counts from the last line. -/
structure EditsPlainLines (g : CompiledGrammar) (s : Session) (edit : Edit) : Prop where
  refused : ∀ row, plainEdit s.lines edit = .error row →
    s.apply g edit = (s, .error (.rowOutOfRange row))
  edited : ∀ lines, plainEdit s.lines edit = .ok lines →
    (∃ count, (s.apply g edit).2 = .ok count) ∧
      ((s.apply g edit).1.lines = lines ↔ ¬ edit.CountsFromEnd s.lines.length)
  fromEnd : ∀ row count, edit = .deleteLines row count → edit.CountsFromEnd s.lines.length →
    (s.apply g edit).1.lines = outsideRows s.lines row (row + count + s.lines.length)

/-- An edit whose change is made ends with the changed lines. -/
theorem Chained.lines_apply (hg : g.NeverFails) (h : Chained g s) {edit : Edit} {p : Splice}
    (hsplice : s.splice? edit = .ok p) :
    (∃ count, (s.apply g edit).2 = .ok count) ∧ (s.apply g edit).1.lines = p.lines s.lines := by
  obtain ⟨states, count, hrescan, _⟩ := h.exists_rescanFrom_eq hg (splice?_bounds hsplice).1
  rw [apply_eq h.aligned, hsplice]
  simp only [hrescan]
  exact ⟨⟨count, rfl⟩, trivial⟩

/-- An edit that is no such deletion does to the lines what it does to a plain list. -/
theorem Chained.lines_afterEdit (hg : g.NeverFails) (h : Chained g s) {edit : Edit}
    (hend : ¬ edit.CountsFromEnd s.lines.length) :
    (s.apply g edit).1.lines = afterEdit s.lines edit := by
  rw [afterEdit, ← splice?_eq_plainEdit hend]
  cases hsplice : s.splice? edit with
  | error row =>
      rw [apply_eq h.aligned, hsplice]
      rfl
  | ok p => exact (h.lines_apply hg hsplice).2

theorem Chained.editsPlainLines (hg : g.NeverFails) (h : Chained g s) (edit : Edit) :
    EditsPlainLines g s edit := by
  by_cases hend : edit.CountsFromEnd s.lines.length
  · cases edit with
    | deleteLines row count =>
        obtain ⟨hplain, hne⟩ := plainEdit_of_countsFromEnd hend
        obtain ⟨p, hsplice, hlines⟩ := splice?_of_countsFromEnd hend
        obtain ⟨hok, hafter⟩ := h.lines_apply hg hsplice
        rw [hlines] at hafter
        refine ⟨fun row' herror => ?_, fun lines hlines => ?_, ?_⟩
        · rw [hplain] at herror
          cases herror
        · obtain rfl : s.lines = lines := Except.ok.inj (hplain.symm.trans hlines)
          exact ⟨hok, iff_of_false (hafter ▸ hne) (not_not_intro hend)⟩
        · rintro _ _ ⟨⟩ _
          exact hafter
    | _ => exact absurd hend id
  · have hplain := splice?_eq_plainEdit hend
    refine ⟨fun row herror => ?_, fun lines hlines => ?_, fun _ _ _ hcounts => absurd hcounts hend⟩
    · cases hsplice : s.splice? edit with
      | error row' =>
          rw [hsplice, herror] at hplain
          cases hplain
          rw [apply_eq h.aligned, hsplice]
      | ok p =>
          rw [hsplice, herror] at hplain
          cases hplain
    · cases hsplice : s.splice? edit with
      | error row =>
          rw [hsplice, hlines] at hplain
          cases hplain
      | ok p =>
          rw [hsplice, hlines] at hplain
          obtain ⟨hok, hafter⟩ := h.lines_apply hg hsplice
          exact ⟨hok, iff_of_true (hafter.trans (Except.ok.inj hplain)) hend⟩

/-- So does a history of edits. -/
theorem Chained.lines_applyAll (hg : g.NeverFails) (h : Chained g s) {edits : List Edit}
    (hnone : NoneCountsFromEnd s.lines edits) :
    (s.applyAll g edits).lines = edits.foldl afterEdit s.lines := by
  induction edits generalizing s with
  | nil => rfl
  | cons edit rest ih =>
      obtain ⟨hend, hrest⟩ := hnone
      have hlines := h.lines_afterEdit hg hend
      rw [← hlines] at hrest
      rw [List.foldl_cons, ← hlines]
      exact ih (h.apply hg edit) hrest

/-- The text of a session is a plainly edited list.  With a grammar that scans every line, each edit of any history
fails on a row out of range only, and then changes nothing; every other does to the lines what it does to a plain
list, unless it is a deletion whose end counts from the last line.  Such a deletion takes away the lines from its
row up to there, although none was asked for. -/
theorem applyAll_edits_plain_lines (g : CompiledGrammar)
    (hg : ∀ text stack, ∃ result, scanLine g text stack = .ok result) (lines : List String)
    (edits : List Edit) :
    ∃ s, ofLines g lines = .ok s ∧
      (NoneCountsFromEnd lines edits → (s.applyAll g edits).lines = edits.foldl afterEdit lines) ∧
      ∀ edit, EditsPlainLines g (s.applyAll g edits) edit := by
  obtain ⟨s, hs, rfl, hchained⟩ := exists_ofLines_eq_ok hg lines
  exact ⟨s, hs, hchained.lines_applyAll hg, (hchained.applyAll hg edits).editsPlainLines hg⟩

end Session

namespace PlainEditsWitness

open SessionWitness

def lines : List String := ["(a", "b", "c)"]

/-- An insertion at the end, a deletion past the end, and an edit out of range. -/
def edits : List Edit :=
  [.insertLines 3 ["d", "e"], .deleteLines 2 9, .updateLine 2 "x"]

/-- These edits lead to two lines.  The deletion of minus one line from the first row on takes away all lines but
the last. -/
theorem negative_count_deletes_lines :
    ∃ s, Session.ofLines grammar lines = .ok s ∧
      (s.applyAll grammar edits).lines = ["(a", "b"] ∧
      (s.apply grammar (.deleteLines 0 (-1))).1.lines = ["c)"] := by
  obtain ⟨s, hs, hedited, _⟩ :=
    Session.applyAll_edits_plain_lines grammar grammar_scans_every_line lines edits
  obtain ⟨s', hs', hagain, hnext⟩ :=
    Session.applyAll_edits_plain_lines grammar grammar_scans_every_line lines []
  obtain rfl : s = s' := Except.ok.inj (hs.symm.trans hs')
  have hsame : s.lines = lines := (hagain trivial).trans rfl
  refine ⟨s, hs, (hedited (by decide +kernel)).trans (by decide +kernel), ?_⟩
  have hcounts : (Edit.deleteLines 0 (-1)).CountsFromEnd s.lines.length := by
    rw [hsame]
    decide
  have hdeleted := (hnext (.deleteLines 0 (-1))).fromEnd 0 (-1) rfl hcounts
  exact hdeleted.trans (by rw [Session.applyAll, List.foldl_nil, hsame]; decide +kernel)

end PlainEditsWitness

end ModalHighlight
