import ModalHighlight.Pattern.Match

/-!
Where a match can lie.  A search finds nothing of its own: its answer is the one that what follows gives at some
cursor, and every node reaches this cursor by steps that stay on the line and do not go back.  The search that
leaves traces has trails in the place of cursors, and also answers with the trail of a failed attempt.  Marks of a
failed attempt can make a group end before its start; a match with such a group is a broken one.
-/

namespace ModalHighlight

namespace Pattern

/-- From a cursor with a property, what a search finds is what follows finds at a cursor that has it too. -/
def Keeps (P : Cursor → Prop) (search : Search) : Prop :=
  ∀ c k answer, P c → search c k = some answer → ∃ c', P c' ∧ k c' = some answer

section

variable {P : Cursor → Prop} {body : Search} (hbody : Keeps P body)

include hbody

theorem Keeps.runGreedy (min : Nat) (max : Option Nat) (bound count : Nat) (last : Option Nat) :
    Keeps P (runGreedy body min max bound count last) := by
  intro c k answer hc hrun
  induction bound generalizing count last c with
  | zero => exact ⟨c, hc, hrun⟩
  | succ bound ih =>
      -- One more round, and then the rest of them.
      have hround : ∀ last' : Option Nat,
          body c (fun c' => Pattern.runGreedy body min max bound (count + 1) last' c' k) = some answer →
            ∃ c', P c' ∧ k c' = some answer := by
        intro last' hrun
        obtain ⟨next, hnext, hrest⟩ := hbody _ _ _ hc hrun
        exact ih _ _ _ hnext hrest
      rw [Pattern.runGreedy] at hrun
      split at hrun
      · exact hround _ hrun
      · split at hrun
        · split at hrun
          · rename_i found hfound
            exact hround _ (hrun ▸ hfound)
          · exact ⟨c, hc, hrun⟩
        · exact ⟨c, hc, hrun⟩

theorem Keeps.runLazy (min : Nat) (max : Option Nat) (bound count : Nat) (last : Option Nat) :
    Keeps P (runLazy body min max bound count last) := by
  intro c k answer hc hrun
  induction bound generalizing count last c with
  | zero => exact ⟨c, hc, hrun⟩
  | succ bound ih =>
      have hround : ∀ last' : Option Nat,
          body c (fun c' => Pattern.runLazy body min max bound (count + 1) last' c' k) = some answer →
            ∃ c', P c' ∧ k c' = some answer := by
        intro last' hrun
        obtain ⟨next, hnext, hrest⟩ := hbody _ _ _ hc hrun
        exact ih _ _ _ hnext hrest
      rw [Pattern.runLazy] at hrun
      split at hrun
      · exact hround _ hrun
      · split at hrun
        · rename_i found hfound
          exact ⟨c, hc, hrun ▸ hfound⟩
        · split at hrun
          · exact hround _ hrun
          · cases hrun

end

/-- A count that is tried downwards is one of those up to the first. -/
theorem exists_of_tryDown {c : Cursor} {k : Continuation} {start min count : Nat} {answer : Cursor}
    (h : tryDown c k start min count = some answer) :
    ∃ n ≤ count, k (c.moveTo (start + n)) = some answer := by
  induction count with
  | zero => exact ⟨0, Nat.le_refl 0, h⟩
  | succ count ih =>
      rw [tryDown] at h
      split at h
      · rename_i found hfound
        exact ⟨count + 1, Nat.le_refl _, h ▸ hfound⟩
      · split at h
        · obtain ⟨n, hn, hk⟩ := ih h
          exact ⟨n, Nat.le_succ_of_le hn, hk⟩
        · cases h

theorem exists_of_tryUp {c : Cursor} {k : Continuation} {more pos : Nat} {answer : Cursor}
    (h : tryUp c k more pos = some answer) : ∃ n ≤ more, k (c.moveTo (pos + n)) = some answer := by
  induction more generalizing pos with
  | zero => exact ⟨0, Nat.le_refl 0, h⟩
  | succ more ih =>
      rw [tryUp] at h
      split at h
      · rename_i found hfound
        exact ⟨0, Nat.zero_le _, h ▸ hfound⟩
      · obtain ⟨n, hn, hk⟩ := ih h
        refine ⟨n + 1, Nat.succ_le_succ hn, ?_⟩
        rwa [← Nat.add_right_comm] at hk

section

variable {text : Array Char}

theorem lt_size_of_testAt {test : CharTest} {pos : Nat} (h : testAt text test pos = true) :
    pos < text.size := by
  rw [testAt] at h
  split at h
  · rename_i c hc
    exact (Array.getElem?_eq_some_iff.mp hc).1
  · cases h

/-- The characters that are counted are on the line. -/
theorem countWhile_le (test : CharTest) (limit : Nat) {pos : Nat} (hpos : pos ≤ text.size) :
    pos + countWhile text test limit pos ≤ text.size := by
  induction limit generalizing pos with
  | zero => exact hpos
  | succ limit ih =>
      rw [countWhile]
      split
      · rename_i htest
        have hnext : pos + 1 + countWhile text test limit (pos + 1) ≤ text.size :=
          ih (lt_size_of_testAt htest)
        omega
      · exact hpos

/-- What is repeated at a position ends on the line. -/
theorem le_size_of_repeatsAt {rule : CaseRule} {span : Span} {pos : Nat}
    (h : repeatsAt text rule span pos = true) : pos + (span.stop - span.start) ≤ text.size := by
  rw [repeatsAt, Bool.and_eq_true] at h
  exact of_decide_eq_true h.1

/-- A cursor on a line of some size and not before `start`, with groups on the line none of which ends before its
start. -/
structure Cursor.Within (size start : Nat) (c : Cursor) : Prop where
  le_pos : start ≤ c.pos
  pos_le : c.pos ≤ size
  spans : ∀ entry ∈ c.spans, entry.2.start ≤ entry.2.stop ∧ entry.2.stop ≤ size

namespace Cursor.Within

variable {size start pos : Nat} {c c' : Cursor}

theorem moveTo (h : c.Within size start) {least : Nat} (hle : least ≤ pos) (hpos : pos ≤ size) :
    (c.moveTo pos).Within size least :=
  ⟨hle, hpos, h.spans⟩

theorem onward (h : c.Within size start) (hle : c.pos ≤ pos) (hpos : pos ≤ size) :
    (c.moveTo pos).Within size start :=
  h.moveTo (Nat.le_trans h.le_pos hle) hpos

/-- Nothing is before where the cursor is. -/
theorem here (h : c.Within size start) : c.Within size c.pos :=
  ⟨Nat.le_refl _, h.pos_le, h.spans⟩

theorem mono (h : c.Within size start) {least : Nat} (hle : least ≤ start) : c.Within size least :=
  ⟨Nat.le_trans hle h.le_pos, h.pos_le, h.spans⟩

theorem capture (h : c.Within size start) (index : Nat) : (c.capture index start).Within size start := by
  refine ⟨h.le_pos, h.pos_le, ?_⟩
  intro entry hentry
  rcases List.mem_cons.mp hentry with rfl | hold
  · exact ⟨h.le_pos, h.pos_le⟩
  · exact h.spans entry hold

end Cursor.Within

/-- After a look ahead or behind, a search goes on where it was, with the groups of what it saw. -/
theorem exists_of_look {size start : Nat} (least : Nat) {c : Cursor} {k : Continuation} {answer : Cursor}
    {seen : Option Cursor} {negated : Bool} (hc : c.Within size start)
    (hrun : (match seen, negated with
      | some c', false => k (c'.moveTo c.pos)
      | none, true => k c
      | _, _ => none) = some answer)
    (hseen : ∀ found, seen = some found → found.Within size least) :
    ∃ c', c'.Within size start ∧ k c' = some answer := by
  split at hrun
  · exact ⟨_, (hseen _ rfl).moveTo hc.le_pos hc.pos_le, hrun⟩
  · exact ⟨c, hc, hrun⟩
  · cases hrun

theorem keeps_runRepeatedChar (start : Nat) (test : CharTest) (min : Nat) (max : Option Nat)
    (appetite : Appetite) :
    Keeps (Cursor.Within text.size start) (runRepeatedChar text test min max appetite) := by
  intro c k answer hc hrun
  have hcount := countWhile_le test (repeatLimit max (text.size - c.pos)) hc.pos_le
  unfold runRepeatedChar at hrun
  dsimp only at hrun
  generalize countWhile text test (repeatLimit max (text.size - c.pos)) c.pos = count at hcount hrun
  -- Wherever the count ends up, its characters are among those counted.
  have hto : ∀ n ≤ count, (c.moveTo (c.pos + n)).Within text.size start := fun n hn =>
    hc.onward (Nat.le_add_right _ _) (by omega)
  split at hrun
  · cases hrun
  · rename_i hmin
    cases appetite with
    | greedy =>
        obtain ⟨n, hn, hk⟩ := exists_of_tryDown hrun
        exact ⟨_, hto n hn, hk⟩
    | lazy =>
        obtain ⟨n, hn, hk⟩ := exists_of_tryUp hrun
        rw [Nat.add_assoc] at hk
        exact ⟨_, hto (min + n) (by omega), hk⟩
    | possessive | hasty => exact ⟨_, hto count (Nat.le_refl _), hrun⟩

/-- From a cursor on the line, every node leads on to one on the line. -/
theorem Node.keeps_run (node : Node) (start : Nat) : Keeps (Cursor.Within text.size start) (node.run text) := by
  induction node generalizing start with
  | empty => exact fun c _ _ hc hrun => ⟨c, hc, hrun⟩
  | never =>
      intro _ _ _ _ hrun
      cases hrun
  | char test =>
      intro c _ _ hc hrun
      rw [Node.run] at hrun
      split at hrun
      · rename_i htest
        exact ⟨_, hc.onward (Nat.le_succ _) (lt_size_of_testAt htest), hrun⟩
      · cases hrun
  | anchor a =>
      intro c _ _ hc hrun
      rw [Node.run] at hrun
      split at hrun
      · exact ⟨c, hc, hrun⟩
      · cases hrun
  | cat first second ihFirst ihSecond =>
      intro c _ _ hc hrun
      rw [Node.run] at hrun
      obtain ⟨next, hnext, hrest⟩ := ihFirst _ _ _ _ hc hrun
      exact ihSecond _ _ _ _ hnext hrest
  | alt first others ihFirst ihOthers =>
      intro c _ _ hc hrun
      rw [Node.run] at hrun
      split at hrun
      · rename_i found hfound
        exact ihFirst _ _ _ _ hc (hrun ▸ hfound)
      · exact ihOthers _ _ _ _ hc hrun
  | capture index body ih =>
      intro c _ _ hc hrun
      rw [Node.run] at hrun
      -- The group ends at or after its start, as the body does not go back behind that.
      obtain ⟨c', hc', hk⟩ := ih _ _ _ _ hc.here hrun
      exact ⟨_, (hc'.capture index).mono hc.le_pos, hk⟩
  | scope body ih => exact ih start
  | backref index rule =>
      intro c _ _ hc hrun
      rw [Node.run] at hrun
      split at hrun
      · split at hrun
        · rename_i hrepeats
          exact ⟨_, hc.onward (Nat.le_add_right _ _) (le_size_of_repeatsAt hrepeats), hrun⟩
        · cases hrun
      · cases hrun
  | ifCaptured index present absent ihPresent ihAbsent =>
      intro c _ _ hc hrun
      rw [Node.run] at hrun
      split at hrun
      · exact ihPresent _ _ _ _ hc hrun
      · exact ihAbsent _ _ _ _ hc hrun
  | atomic body ih =>
      intro c _ _ hc hrun
      rw [Node.run] at hrun
      split at hrun
      · rename_i found hfound
        obtain ⟨c', hc', hsame⟩ := ih _ _ _ _ hc hfound
        cases hsame
        exact ⟨_, hc', hrun⟩
      · cases hrun
  | look direction negated body ih =>
      intro c _ _ hc hrun
      simp only [Node.run] at hrun
      refine exists_of_look 0 hc hrun fun found hseen => ?_
      cases direction with
      | ahead =>
          obtain ⟨c', hc', hsame⟩ := ih _ _ _ _ (hc.mono (Nat.zero_le _)) hseen
          cases hsame
          exact hc'
      | behind width hi =>
          dsimp only at hseen
          split at hseen
          · have hback := hc.moveTo (Nat.zero_le _) (Nat.le_trans (Nat.sub_le c.pos width) hc.pos_le)
            obtain ⟨c', hc', hsame⟩ := ih _ _ _ _ hback hseen
            cases hsame
            exact hc'
          · cases hseen
  | repeatChar test min max appetite => exact keeps_runRepeatedChar start test min max appetite
  | repeatNode body min max appetite ih =>
      intro c k answer hc hrun
      cases appetite with
      | greedy => exact (ih start).runGreedy _ _ _ _ _ _ _ _ hc hrun
      | lazy => exact (ih start).runLazy _ _ _ _ _ _ _ _ hc hrun
      | possessive | hasty =>
          rw [Node.run] at hrun
          split at hrun
          · rename_i found hfound
            obtain ⟨c', hc', hsame⟩ := (ih start).runGreedy _ _ _ _ _ _ _ _ hc hfound
            cases hsame
            exact ⟨_, hc', hrun⟩
          · cases hrun

/-- A trail on a line of some size, with its last look and its marks. -/
structure Trail.Within (t : Trail) (size : Nat) : Prop where
  pos_le : t.pos ≤ size
  looked_le : t.looked ≤ size
  marks : ∀ mark ∈ t.marks, mark.2 ≤ size

/-- A search that ends on a line of some size: at no place before `start`, or with a failed trail on the line. -/
inductive EndsWithin (size start : Nat) : Attempt → Prop
  | found {t : Trail} (h : t.Within size) (hstart : start ≤ t.pos) : EndsWithin size start (.ok t)
  | failed {left : Trail} (h : left.Within size) : EndsWithin size start (.error left)

/-- A search ends on the line if what follows does, which it asks only at places on the line that are not behind. -/
def TracesOnward (size : Nat) (search : TrailSearch) : Prop :=
  ∀ start t k, t.Within size → start ≤ t.pos →
    (∀ t', t'.Within size → start ≤ t'.pos → EndsWithin size start (k t')) →
      EndsWithin size start (search t k)

namespace Trail.Within

variable {size pos : Nat} {t left : Trail}

theorem start (hpos : pos ≤ size) : (Trail.start pos).Within size :=
  ⟨hpos, hpos, by simp [Trail.start]⟩

theorem moveTo (h : t.Within size) (hpos : pos ≤ size) : (t.moveTo pos).Within size :=
  ⟨hpos, h.looked_le, h.marks⟩

theorem looks (h : t.Within size) (hpos : pos ≤ size) : ({ t with looked := pos } : Trail).Within size :=
  ⟨h.pos_le, hpos, h.marks⟩

theorem look (h : t.Within size) : t.look.Within size :=
  h.looks h.pos_le

theorem lookAt (h : t.Within size) (hpos : pos ≤ size) : (t.lookAt pos).Within size :=
  ⟨hpos, hpos, h.marks⟩

theorem setMark (h : t.Within size) (mark : Nat) : (t.setMark mark).Within size := by
  refine ⟨h.pos_le, h.looked_le, ?_⟩
  intro other hother
  rcases List.mem_cons.mp hother with rfl | hold
  · exact h.pos_le
  · exact h.marks other (List.mem_filter.mp hold).1

/-- Whether the marks are taken back or not, they are on the line. -/
theorem after (h : t.Within size) (hleft : left.Within size) (inside : Bool) :
    (t.after inside left).Within size := by
  refine ⟨h.pos_le, hleft.looked_le, ?_⟩
  cases inside with
  | true => exact h.marks
  | false => exact hleft.marks

end Trail.Within

theorem EndsWithin.mono {size start more : Nat} {attempt : Attempt} (h : EndsWithin size more attempt)
    (hle : start ≤ more) : EndsWithin size start attempt := by
  cases h with
  | found ht hstart => exact .found ht (Nat.le_trans hle hstart)
  | failed hleft => exact .failed hleft

theorem endsWithin_found {size start : Nat} {t : Trail} (h : t.Within size) (hstart : start ≤ t.pos) :
    EndsWithin size start (found t) :=
  .found h.look hstart

/-- An attempt is made, and after it something else is done. -/
theorem EndsWithin.andThen {size start first : Nat} {attempt : Attempt} {next failed : Trail → Attempt} :
    EndsWithin size first attempt →
      (∀ t : Trail, t.Within size → first ≤ t.pos → EndsWithin size start (next t)) →
      (∀ left : Trail, left.Within size → EndsWithin size start (failed left)) →
        EndsWithin size start
          (match attempt with
          | .ok t => next t
          | .error left => failed left) := by
  intro h hnext hfailed
  cases h with
  | found ht hfirst => exact hnext _ ht hfirst
  | failed hleft => exact hfailed _ hleft

/-- After a failed attempt something else is done. -/
theorem EndsWithin.orElse {size start : Nat} {attempt : Attempt} {failed : Trail → Attempt} :
    EndsWithin size start attempt →
      (∀ left : Trail, left.Within size → EndsWithin size start (failed left)) →
        EndsWithin size start
          (match attempt with
          | .ok answer => .ok answer
          | .error left => failed left) :=
  fun h => h.andThen fun _ ht hstart => .found ht hstart

section

variable {start : Nat} (inside : Bool) {t : Trail} {k : TrailContinuation}
  (hk : ∀ t', t'.Within text.size → start ≤ t'.pos → EndsWithin text.size start (k t'))

include hk

theorem endsWithin_traceDown (after : Option CharTest) (ht : t.Within text.size) {first min count : Nat}
    (hstart : start ≤ first) (hend : first + count ≤ text.size) {left : Trail}
    (hleft : left.Within text.size) :
    EndsWithin text.size start (traceDown text inside after t k first min count left) := by
  induction count generalizing left with
  | zero =>
      rw [traceDown]
      split
      · exact .failed hleft
      · have hattempt := hk _ ((ht.after hleft inside).lookAt hend) hstart
        exact hattempt.orElse fun _ hfailed => .failed (ht.after hfailed inside)
  | succ count ih =>
      rw [traceDown]
      refine EndsWithin.orElse ?_ fun _ hfailed => ?_
      · split
        · exact .failed hleft
        · exact hk _ ((ht.after hleft inside).lookAt hend) (Nat.le_add_right_of_le hstart)
      · dsimp only
        split
        · exact ih (by omega) (ht.after hfailed inside)
        · exact .failed (ht.after hfailed inside)

theorem endsWithin_traceUp (test : CharTest) {more : Nat} (ht : t.Within text.size)
    (hstart : start ≤ t.pos) (hend : t.pos + more ≤ text.size) :
    EndsWithin text.size start (traceUp text inside test k more t) := by
  induction more generalizing t with
  | zero =>
      rw [traceUp]
      refine (hk _ ht.look hstart).orElse fun _ hfailed => ?_
      refine .failed ((ht.after hfailed inside).looks ?_)
      split
      · rename_i htest
        exact lt_size_of_testAt (Bool.and_eq_true_iff.mp htest).2
      · exact ht.pos_le
  | succ more ih =>
      rw [traceUp]
      refine (hk _ ht.look hstart).orElse fun _ hfailed => ?_
      exact ih ((ht.after hfailed inside).moveTo (by omega)) (Nat.le_succ_of_le hstart)
        (show t.pos + 1 + more ≤ text.size by omega)

end

theorem tracesOnward_repeatedChar (inside : Bool) (test : CharTest) (min : Nat) (max : Option Nat)
    (appetite : Appetite) (after : Option CharTest) :
    TracesOnward text.size (traceRepeatedChar text inside test min max appetite after) := by
  intro start t k ht hstart hk
  have hcount := countWhile_le test (repeatLimit max (text.size - t.pos)) ht.pos_le
  unfold traceRepeatedChar
  dsimp only
  generalize countWhile text test (repeatLimit max (text.size - t.pos)) t.pos = count at hcount ⊢
  have hcounted : ({ t with looked := if test.triesCaseForms then t.pos + count else t.pos } : Trail).Within
      text.size := by
    refine ht.looks ?_
    split
    · exact hcount
    · exact ht.pos_le
  split
  · exact .failed ht
  · cases appetite with
    | greedy =>
        dsimp only
        split
        · exact .failed hcounted
        · exact endsWithin_traceDown inside hk after ht hstart hcount hcounted
    | lazy =>
        dsimp only
        split
        · exact .failed hcounted
        · exact endsWithin_traceUp inside hk test (ht.moveTo (by omega)) (Nat.le_add_right_of_le hstart)
            (show t.pos + min + (count - min) ≤ text.size by omega)
    | possessive | hasty =>
        dsimp only
        split
        · exact .failed hcounted
        · exact hk _ (hcounted.moveTo hcount) (Nat.le_add_right_of_le hstart)

section

variable {size : Nat} {body : TrailSearch} (hbody : TracesOnward size body)

include hbody

theorem TracesOnward.traceGreedy (min : Nat) (max : Option Nat) (bound count : Nat) (last : Option Nat) :
    TracesOnward size (traceGreedy body min max bound count last) := by
  intro start t k ht hstart hk
  induction bound generalizing count last t with
  | zero => exact hk t ht hstart
  | succ bound ih =>
      have hround : ∀ last' : Option Nat, EndsWithin size start
          (body t.look fun t' => Pattern.traceGreedy body min max bound (count + 1) last' t' k) :=
        fun last' => hbody _ _ _ ht.look hstart fun t' ht' hstart' => ih _ _ _ ht' hstart'
      have hending : EndsWithin size start
          (match k t.look with
          | .ok answer => .ok answer
          | .error left => .error { left with looked := t.look.pos }) :=
        (hk _ ht.look hstart).orElse fun _ hfailed => .failed (hfailed.looks ht.pos_le)
      rw [Pattern.traceGreedy]
      dsimp only
      split
      · exact (hround _).orElse fun _ hfailed => .failed (hfailed.looks ht.pos_le)
      · split
        · exact (hround _).orElse fun _ _ => hending
        · exact hending

theorem TracesOnward.traceLazy (inside : Bool) (min : Nat) (max : Option Nat) (bound count : Nat)
    (last : Option Nat) : TracesOnward size (traceLazy inside body min max bound count last) := by
  intro start t k ht hstart hk
  induction bound generalizing count last t with
  | zero => exact hk t ht hstart
  | succ bound ih =>
      rw [Pattern.traceLazy]
      dsimp only
      split
      · refine EndsWithin.orElse ?_ fun _ hfailed => .failed (hfailed.looks ht.pos_le)
        exact hbody _ _ _ ht.look hstart fun t' ht' hstart' => ih _ _ _ ht' hstart'
      · refine (hk _ ht.look hstart).orElse fun left hfailed => ?_
        have hback := (ht.look.after hfailed inside).look
        split
        · refine EndsWithin.orElse ?_ fun _ hfailed => .failed (hfailed.looks ht.pos_le)
          exact hbody _ _ _ hback hstart fun t' ht' hstart' => ih _ _ _ ht' hstart'
        · exact .failed hback

end

theorem endsWithin_traceHasty {size : Nat} {body : Trail → Attempt}
    (hbody : ∀ t, t.Within size → EndsWithin size t.pos (body t)) (min : Nat) (max : Option Nat)
    (bound count : Nat) (last : Option Nat) {t : Trail} (ht : t.Within size) :
    EndsWithin size t.pos (traceHasty body min max bound count last t) := by
  induction bound generalizing count last t with
  | zero => exact .found ht (Nat.le_refl _)
  | succ bound ih =>
      rw [traceHasty]
      split
      · refine (hbody t ht).andThen (fun t' ht' hle => ?_) fun _ hfailed => .failed hfailed
        exact (ih _ _ ht').mono hle
      · split
        · refine (hbody t ht).andThen (fun t' ht' hle => ?_) fun _ hfailed => ?_
          · exact (ih _ _ ht').mono hle
          · exact .found (ht.lookAt (Nat.max_le.mpr ⟨ht.pos_le, hfailed.looked_le⟩)) (Nat.le_max_left _ _)
        · exact .found ht (Nat.le_refl _)

/-- Every node leads onward with its traces, too. -/
theorem Node.tracesOnward_trace (node : Node) (inside : Bool) (after : Option CharTest) :
    TracesOnward text.size (node.trace text inside after) := by
  induction node generalizing inside after with
  | empty => exact fun _ t k ht hstart hk => hk t ht hstart
  | never => exact fun _ t k ht hstart hk => .failed ht
  | char test =>
      intro start t k ht hstart hk
      rw [Node.trace]
      split
      · rename_i htest
        exact hk _ (ht.moveTo (lt_size_of_testAt htest)) (Nat.le_succ_of_le hstart)
      · exact .failed ht
  | anchor a =>
      intro start t k ht hstart hk
      rw [Node.trace]
      split
      · exact hk t ht hstart
      · exact .failed ht
  | cat first second ihFirst ihSecond =>
      intro start t k ht hstart hk
      exact ihFirst _ _ _ _ _ ht hstart fun t' ht' hstart' => ihSecond _ _ _ _ _ ht' hstart' hk
  | alt first others ihFirst ihOthers =>
      intro start t k ht hstart hk
      rw [Node.trace]
      split
      · exact ihOthers _ _ _ _ _ ht hstart hk
      · exact (ihFirst _ _ _ _ _ ht.look hstart hk).orElse fun _ hfailed =>
          ihOthers _ _ _ _ _ (ht.after hfailed inside) hstart hk
  | capture index body ih =>
      intro start t k ht hstart hk
      exact ih _ _ _ _ _ (ht.setMark _) hstart fun t' ht' hstart' => hk _ (ht'.setMark _) hstart'
  | scope body ih => exact ih inside after
  | backref index rule =>
      intro start t k ht hstart hk
      rw [Node.trace]
      split
      · split
        · rename_i hrepeats
          exact hk _ (ht.moveTo (le_size_of_repeatsAt hrepeats)) (Nat.le_add_right_of_le hstart)
        · exact .failed ht
      · exact .failed ht
  | ifCaptured index present absent ihPresent ihAbsent =>
      intro start t k ht hstart hk
      rw [Node.trace]
      split
      · exact ihPresent _ _ _ _ _ ht hstart hk
      · exact ihAbsent _ _ _ _ _ ht hstart hk
  | atomic body ih =>
      intro start t k ht hstart hk
      rw [Node.trace]
      refine EndsWithin.andThen (ih _ _ _ _ _ ht.look hstart fun t' => endsWithin_found)
        hk fun _ hfailed => ?_
      exact .failed (hfailed.looks ht.pos_le)
  | look direction negated body ih =>
      intro start t k ht hstart hk
      unfold Node.trace
      dsimp only
      split
      · split
        · exact hk t ht hstart
        · exact .failed ht
      · rename_i place hplace
        -- What is seen may lie before the position, but the search goes on where it was.
        have hseen : EndsWithin text.size 0 (body.trace text inside none (t.lookAt place) found) := by
          refine ih _ _ _ _ _ (ht.lookAt ?_) (Nat.zero_le _) fun t' => endsWithin_found
          cases direction with
          | ahead => exact Option.some.inj hplace ▸ ht.pos_le
          | behind width hi =>
              dsimp only at hplace
              split at hplace
              · exact Option.some.inj hplace ▸ Nat.le_trans (Nat.sub_le t.pos width) ht.pos_le
              · cases hplace
        generalize body.trace text inside none (t.lookAt place) found = attempt at hseen ⊢
        obtain ⟨ht', _⟩ | hfailed := hseen
        · cases negated with
          | false => exact hk _ (ht'.moveTo ht.pos_le) hstart
          | true => exact .failed ht'
        · cases negated with
          | false => exact .failed hfailed
          | true => exact hk _ (ht.after hfailed inside) hstart
  | repeatChar test min max appetite => exact tracesOnward_repeatedChar inside test min max appetite after
  | repeatNode body min max appetite ih =>
      intro start t k ht hstart hk
      cases appetite with
      | greedy => exact TracesOnward.traceGreedy (ih true none) _ _ _ _ _ _ _ _ ht hstart hk
      | lazy => exact TracesOnward.traceLazy (ih true none) inside _ _ _ _ _ _ _ _ ht hstart hk
      | possessive =>
          rw [Node.trace]
          refine EndsWithin.andThen ?_ hk fun _ hfailed => .failed (hfailed.looks ht.pos_le)
          exact TracesOnward.traceGreedy (ih inside none) _ _ _ _ _ _ _ _ ht hstart fun t' => endsWithin_found
      | hasty =>
          rw [Node.trace]
          refine EndsWithin.andThen ?_ (fun t' ht' hle => hk t' ht' (Nat.le_trans hstart hle))
            fun _ hfailed => .failed (hfailed.looks ht.pos_le)
          refine endsWithin_traceHasty (fun t' ht' => ?_) _ _ _ _ _ ht.look
          exact ih _ _ _ _ _ ht' (Nat.le_refl _) fun t' => endsWithin_found

end

theorem Trail.Within.of_ends? {t : Trail} {size index : Nat} (h : t.Within size) {span : Span}
    (hends : t.ends? index = some span) : span.start ≤ size ∧ span.stop ≤ size := by
  have hmark : ∀ mark pos, t.mark? mark = some pos → pos ≤ size := by
    intro mark pos hpos
    rw [mark?] at hpos
    split at hpos
    · obtain ⟨before, after, hmarks, _⟩ := List.lookup_eq_some_iff.mp hpos
      exact h.marks (mark, pos) (by simp [hmarks])
    · cases hpos
  rw [ends?] at hends
  split at hends
  · rename_i start stop hstart hstop
    cases hends
    exact ⟨hmark _ _ hstart, hmark _ _ hstop⟩
  · cases hends

end Pattern

/-- A match on a line of some size that was looked for from a position on: neither it nor its groups go beyond the
line, and it does not end before the position. -/
structure Match.Fits (m : Match) (size pos : Nat) : Prop where
  le_stop : pos ≤ m.stop
  stop_le : m.stop ≤ size
  spans : ∀ entry ∈ m.spans, entry.2.start ≤ size ∧ entry.2.stop ≤ size

theorem Match.isBroken_eq_false_iff {m : Match} :
    m.isBroken = false ↔ ∀ entry ∈ m.spans, entry.2.start ≤ entry.2.stop := by
  simp [isBroken]

namespace Pattern

variable {pattern : Pattern} {text : Array Char} {pos : Nat} {m : Match}

/-- Without regard to traces, no group of a match ends before its start. -/
theorem fits_of_not_traced (htraced : pattern.traced = false)
    (hmatch : pattern.matchAt text pos = some m) (hpos : pos ≤ text.size) :
    m.Fits text.size pos ∧ m.isBroken = false := by
  rw [matchAt, if_neg (by simp [htraced])] at hmatch
  obtain ⟨found, hrun, rfl⟩ := Option.map_eq_some_iff.mp hmatch
  have hstart : (⟨pos, []⟩ : Cursor).Within text.size pos := ⟨Nat.le_refl _, hpos, by simp⟩
  obtain ⟨c, hwithin, hc⟩ := pattern.node.keeps_run _ _ _ _ hstart hrun
  cases hc
  refine ⟨⟨hwithin.le_pos, hwithin.pos_le, fun entry hentry => ?_⟩, ?_⟩
  · obtain ⟨hordered, hstop⟩ := hwithin.spans entry hentry
    exact ⟨Nat.le_trans hordered hstop, hstop⟩
  · exact Match.isBroken_eq_false_iff.mpr fun entry hentry => (hwithin.spans entry hentry).1

theorem fits_of_matchAt (hmatch : pattern.matchAt text pos = some m) (hpos : pos ≤ text.size) :
    m.Fits text.size pos := by
  cases htraced : pattern.traced with
  | false => exact (fits_of_not_traced htraced hmatch hpos).1
  | true =>
      rw [matchAt, if_pos htraced] at hmatch
      have htrace : EndsWithin text.size pos
          (pattern.node.trace text false none (.start pos) found) :=
        pattern.node.tracesOnward_trace _ _ _ _ _ (.start hpos) (Nat.le_refl _) fun t => endsWithin_found
      split at hmatch
      · rename_i t hfound
        rw [hfound] at htrace
        obtain ⟨hwithin, hle⟩ | _ := htrace
        cases hmatch
        refine ⟨hle, hwithin.pos_le, fun entry hentry => ?_⟩
        obtain ⟨i, _, hi⟩ := List.mem_filterMap.mp hentry
        obtain ⟨span, hends, rfl⟩ := Option.map_eq_some_iff.mp hi
        exact hwithin.of_ends? hends
      · cases hmatch

end Pattern

end ModalHighlight
