import ModalHighlight.Proofs.Pattern.Firsts
import ModalHighlight.Proofs.Scan.Labelling

/-!
Steps of a scan that the text at the position settles.  Rules that cannot begin with the character at the
position do not count.  If the first of the others takes the characters that stand there, it wins with a match
of just these characters; if there are no others, the character is passed over.
-/

namespace ModalHighlight

open Pattern

/-- Of the rules that can begin with the first of some characters, the first takes these characters as one token
of a kind. -/
def readsAs (rules : List CompiledRule) (chars : List Char) (kind : String) (transition : Transition) :
    Bool :=
  match chars.head?.bind fun c => rules.find? (·.pattern.canBegin c) with
  | some r =>
      !r.pattern.traced && r.pattern.node.takes chars && decide (r.kinds = [kind]) &&
        decide (r.transition = transition)
  | none => false

section

variable {g : CompiledGrammar} {text : Array Char} {pos : Nat} {modes : OpenModes} {mode : Mode}
  {rules : List CompiledRule} {c : Char}

theorem firstMatch_eq_none (hc : text[pos]? = some c) (h : ∀ r ∈ rules, r.pattern.canBegin c = false) :
    firstMatch rules text pos = none := by
  refine List.findSome?_eq_none_iff.mpr fun r hr => ?_
  rw [matchAt_of_canBegin_eq_false hc (h r hr), Option.map_none]

/-- The first rule that can begin with the character wins if it matches. -/
theorem firstMatch_of_find? (hc : text[pos]? = some c) {r : CompiledRule} {m : Match}
    (h : rules.find? (·.pattern.canBegin c) = some r) (hmatch : r.pattern.matchAt text pos = some m) :
    firstMatch rules text pos = some (r, m) := by
  obtain ⟨_, before, after, rfl, hbefore⟩ := List.find?_eq_some_iff_append.mp h
  have hnone : firstMatch before text pos = none :=
    firstMatch_eq_none hc fun other hother => by simpa using hbefore other hother
  rw [firstMatch] at hnone ⊢
  rw [List.findSome?_append, hnone, Option.none_or, List.findSome?_cons, hmatch, Option.map_some]

theorem getElem?_of_drop {more : List Char} (hrest : text.toList.drop pos = c :: more) :
    text[pos]? = some c := by
  have hfirst : (text.toList.drop pos)[0]? = some c := by
    rw [hrest]
    rfl
  simpa using hfirst

/-- Rules that do not match make no difference. -/
theorem firstMatch_filter {p : CompiledRule → Bool}
    (h : ∀ r ∈ rules, p r = false → r.pattern.matchAt text pos = none) :
    firstMatch (rules.filter p) text pos = firstMatch rules text pos := by
  induction rules with
  | nil => rfl
  | cons r rest ih =>
      obtain ⟨hr, hrest⟩ := List.forall_mem_cons.mp h
      have hmore : firstMatch (rest.filter p) text pos = firstMatch rest text pos := ih hrest
      unfold firstMatch at hmore ⊢
      cases hp : p r with
      | true => rw [List.filter_cons_of_pos hp, List.findSome?_cons, List.findSome?_cons, hmore]
      | false =>
          rw [List.filter_cons_of_neg (by simp [hp]), hmore, List.findSome?_cons, hr hp]
          rfl

/-- The text of a match of a rule with one kind is one token. -/
theorem addMatch_of_kinds_eq {r : CompiledRule} {m : Match} {kind : String} (hkinds : r.kinds = [kind])
    (hmoves : pos < m.stop) (gap : Kind) :
    (addMatch text gap r m pos #[]).toList = [.ofSlice text (.name kind) pos m.stop] := by
  have hsingle : r.isMulti = false := by simp [CompiledRule.isMulti, hkinds]
  simp [addMatch, hsingle, hkinds, addToken, hmoves]

/-- The characters that a rule with one kind matches become one token, and the scan goes on behind them. -/
theorem piecesFrom_of_firstMatch (hmode : g.mode? modes.top = some mode) {r : CompiledRule} {m : Match}
    (hfirst : firstMatch mode.rules text pos = some (r, m)) (hwhole : m.isBroken = false) {kind : String}
    (hkinds : r.kinds = [kind]) {chars rest : List Char} (hchars : chars ≠ []) (hrest : text.toList.drop pos = chars ++ rest)
    (hstop : m.stop = pos + chars.length) :
    piecesFrom g text pos modes =
      (piecesFrom g text (pos + chars.length) (modes.apply r.transition)).map
        (prepend [.matched [.ofSlice text (.name kind) pos (pos + chars.length)]]) := by
  have hmoves : pos < m.stop := hstop ▸ Nat.lt_add_of_pos_right (List.length_pos_iff.mpr hchars)
  have hpos : pos < text.size := by
    by_contra hend
    rw [List.drop_eq_nil_of_le (Nat.le_of_not_lt hend)] at hrest
    exact hchars (List.append_eq_nil_iff.mp hrest.symm).1
  have htoken : matchedAt g text mode r m pos = .matched [.ofSlice text (.name kind) pos m.stop] := by
    rw [matchedAt, addMatch_of_kinds_eq hkinds hmoves]
  rw [piecesFrom, if_pos hpos, ← hstop]
  simp only [hmode]
  split
  · rename_i hnone
    rw [hfirst] at hnone
    cases hnone
  · rename_i hsome
    rw [hfirst] at hsome
    cases hsome
    rw [if_neg (by simp [hwhole]), if_neg (Nat.ne_of_gt hmoves), htoken]

/-- The characters that the rules read become one token, and the scan goes on behind them. -/
theorem piecesFrom_of_readsAs (hmode : g.mode? modes.top = some mode) {chars rest : List Char}
    {kind : String} {transition : Transition} (h : readsAs mode.rules chars kind transition)
    (hrest : text.toList.drop pos = chars ++ rest) :
    piecesFrom g text pos modes =
      (piecesFrom g text (pos + chars.length) (modes.apply transition)).map
        (prepend [.matched [.ofSlice text (.name kind) pos (pos + chars.length)]]) := by
  match chars with
  | [] => simp [readsAs] at h
  | c :: more =>
      have hc := getElem?_of_drop hrest
      have hpos : pos < text.size := (Array.getElem?_eq_some_iff.mp hc).1
      rw [readsAs, List.head?_cons, Option.bind_some] at h
      cases hfind : mode.rules.find? (·.pattern.canBegin c) with
      | none => simp [hfind] at h
      | some r =>
          simp only [hfind, Bool.and_eq_true, Bool.not_eq_true', decide_eq_true_eq] at h
          obtain ⟨⟨⟨htraced, htakes⟩, hkinds⟩, rfl⟩ := h
          have hmatch := matchAt_of_takes htraced htakes hrest
          exact piecesFrom_of_firstMatch hmode (firstMatch_of_find? hc hfind hmatch) rfl hkinds
            (List.cons_ne_nil c more) hrest rfl

/-- A character that no rule can begin with is passed over. -/
theorem piecesFrom_of_canBegin_eq_false (hmode : g.mode? modes.top = some mode)
    (hc : text[pos]? = some c) (h : ∀ r ∈ mode.rules, r.pattern.canBegin c = false) :
    piecesFrom g text pos modes =
      (piecesFrom g text (pos + 1) modes).map (prepend [singleAt g text mode pos]) := by
  have hpos : pos < text.size := (Array.getElem?_eq_some_iff.mp hc).1
  have hfirst := firstMatch_eq_none hc h
  rw [piecesFrom, if_pos hpos]
  simp only [hmode]
  split
  · rfl
  · rename_i hsome
    rw [hfirst] at hsome
    cases hsome

end

/-- Single characters of one kind that follow one another. -/
def singles (text : Array Char) (kind : Kind) : Nat → List Char → List Piece
  | _, [] => []
  | pos, _ :: rest => .single (.ofSlice text kind pos (pos + 1)) :: singles text kind (pos + 1) rest

section

variable {text : Array Char} {pos : Nat}

theorem joinAfter_singles (kind : Kind) {start : Nat} (hstart : start ≤ pos) (chars : List Char)
    (rest : List Piece) :
    joinAfter (some (.ofSlice text kind start pos)) (singles text kind pos chars ++ rest) =
      joinAfter (some (.ofSlice text kind start (pos + chars.length))) rest := by
  induction chars generalizing pos with
  | nil => rfl
  | cons c more ih =>
      rw [singles, List.cons_append, joinAfter, join_ofSlice kind hstart (Nat.le_add_right pos 1),
        ih (Nat.le_add_right_of_le hstart), List.length_cons, Nat.add_assoc, Nat.add_comm 1]

/-- Single characters before a match are joined to one token. -/
theorem joinAfter_singles_matched (kind : Kind) (c : Char) (chars : List Char) (tokens : List Token)
    (rest : List Piece) :
    joinAfter none (singles text kind pos (c :: chars) ++ .matched tokens :: rest) =
      .ofSlice text kind pos (pos + (c :: chars).length) :: joinAfter none (.matched tokens :: rest) := by
  have hjoin : joinAfter (some (.ofSlice text kind pos (pos + 1)))
      (singles text kind (pos + 1) chars ++ .matched tokens :: rest) = _ :=
    joinAfter_singles kind (Nat.le_add_right pos 1) chars _
  rw [joinAfter_matched, Nat.add_assoc, Nat.add_comm 1] at hjoin
  exact hjoin

/-- A token has the text that stands at its place. -/
theorem ofSlice_eq {chars rest : List Char} (hrest : text.toList.drop pos = chars ++ rest) (kind : Kind) :
    Token.ofSlice text kind pos (pos + chars.length) =
      ⟨kind, pos, pos + chars.length, String.ofList chars⟩ := by
  have htake : (text.extract pos (pos + chars.length)).toList = chars := by
    rw [Array.toList_extract, List.extract_eq_take_drop, Nat.add_sub_cancel_left, hrest,
      List.take_left]
  rw [Token.ofSlice, sliceText, htake]

theorem drop_add {chars rest : List Char} (hrest : text.toList.drop pos = chars ++ rest) :
    text.toList.drop (pos + chars.length) = rest := by
  rw [← List.drop_drop, hrest, List.drop_left]

/-- Characters that no rule can begin with are passed over one by one. -/
theorem piecesFrom_singles {g : CompiledGrammar} {modes : OpenModes} {mode : Mode}
    (hmode : g.mode? modes.top = some mode) {chars rest : List Char}
    (hchars : ∀ c ∈ chars, ∀ r ∈ mode.rules, r.pattern.canBegin c = false)
    (hrest : text.toList.drop pos = chars ++ rest) :
    piecesFrom g text pos modes =
      (piecesFrom g text (pos + chars.length) modes).map
        (prepend (singles text (g.defaultKind mode) pos chars)) := by
  induction chars generalizing pos with
  | nil =>
      cases piecesFrom g text pos modes <;> rfl
  | cons c more ih =>
      obtain ⟨hc, hmore⟩ := List.forall_mem_cons.mp hchars
      have hnext : text.toList.drop (pos + 1) = more ++ rest :=
        drop_add (show _ = [c] ++ (more ++ rest) from hrest)
      rw [piecesFrom_of_canBegin_eq_false hmode (getElem?_of_drop hrest) hc, ih hmore hnext,
        List.length_cons, Nat.add_assoc, Nat.add_comm 1]
      cases piecesFrom g text (pos + (more.length + 1)) modes <;> rfl

/-- At the end of a line its tokens are those that there are. -/
theorem result_of_drop_eq_nil {g : CompiledGrammar} {modes : OpenModes} (hrest : text.toList.drop pos = [])
    (tokens : List Token) :
    (piecesFrom g text pos modes).map (resultAfter tokens none) = .ok ⟨tokens, modes.stack⟩ := by
  have hend : text.size ≤ pos := by simpa using hrest
  rw [piecesFrom, if_neg (Nat.not_lt.mpr hend)]
  exact congrArg (fun all => Except.ok (LineResult.mk all modes.stack)) (List.append_nil tokens)

/-- The result of a line that is scanned from the first mode. -/
theorem scanLine_initialStack {g : CompiledGrammar} {start : Mode} (hstart : g.mode? startName = some start)
    (line : String) :
    scanLine g line initialStack =
      (piecesFrom g line.toList.toArray 0 .start).map (resultAfter [] none) := by
  have hrepair : g.repair initialStack = OpenModes.start := by
    have hknows : g.knows startName = true := by simp [CompiledGrammar.knows, hstart]
    rw [CompiledGrammar.repair, initialStack, List.filter_cons_of_pos hknows, List.filter_nil]
    rfl
  rw [← hrepair]
  exact ScanState.complete_eq rfl rfl (Or.inl ⟨rfl, rfl⟩) (Nat.le_add_left _ _)

/-- The result of a line after tokens, where a match comes next: its tokens are added. -/
theorem result_of_matched (found : Except ScanError (List Piece × OpenModes)) (matched tokens : List Token) :
    (found.map (prepend [.matched matched])).map (resultAfter tokens none) =
      found.map (resultAfter (tokens ++ matched) none) := by
  refine (map_resultAfter (fun more => ?_) _).symm
  rw [List.singleton_append, joinAfter_matched, Option.toList_none, List.nil_append, List.append_assoc]

/-- The result of a line after tokens, where a rule with one kind matches characters: their token is added. -/
theorem result_of_firstMatch {g : CompiledGrammar} {modes : OpenModes} {mode : Mode}
    (hmode : g.mode? modes.top = some mode) {r : CompiledRule} {m : Match}
    (hfirst : firstMatch mode.rules text pos = some (r, m)) (hwhole : m.isBroken = false) {kind : String}
    (hkinds : r.kinds = [kind]) {chars rest : List Char} (hchars : chars ≠ []) (hrest : text.toList.drop pos = chars ++ rest)
    (hstop : m.stop = pos + chars.length) (tokens : List Token) :
    (piecesFrom g text pos modes).map (resultAfter tokens none) =
      (piecesFrom g text (pos + chars.length) (modes.apply r.transition)).map
        (resultAfter (tokens ++ [⟨.name kind, pos, pos + chars.length, String.ofList chars⟩]) none) := by
  rw [piecesFrom_of_firstMatch hmode hfirst hwhole hkinds hchars hrest hstop, ofSlice_eq hrest, result_of_matched]

/-- The result of a line after tokens, where rules read characters: their token is added. -/
theorem result_of_readsAs {g : CompiledGrammar} {modes : OpenModes} {mode : Mode}
    (hmode : g.mode? modes.top = some mode) {chars rest : List Char} {kind : String}
    {transition : Transition} (h : readsAs mode.rules chars kind transition)
    (hrest : text.toList.drop pos = chars ++ rest) (tokens : List Token) :
    (piecesFrom g text pos modes).map (resultAfter tokens none) =
      (piecesFrom g text (pos + chars.length) (modes.apply transition)).map
        (resultAfter (tokens ++ [⟨.name kind, pos, pos + chars.length, String.ofList chars⟩]) none) := by
  rw [piecesFrom_of_readsAs hmode h hrest, ofSlice_eq hrest, result_of_matched]

/-- The result of a line after tokens, where characters are passed over before a match: they become one
token. -/
theorem result_of_singles {g : CompiledGrammar} {modes : OpenModes} {mode : Mode}
    (hmode : g.mode? modes.top = some mode) {c : Char} {chars rest : List Char}
    (hchars : ∀ d ∈ c :: chars, ∀ r ∈ mode.rules, r.pattern.canBegin d = false)
    (hrest : text.toList.drop pos = c :: chars ++ rest) {matched : List Token}
    {found : Except ScanError (List Piece × OpenModes)}
    (hfound : piecesFrom g text (pos + (c :: chars).length) modes = found.map (prepend [.matched matched]))
    (tokens : List Token) :
    (piecesFrom g text pos modes).map (resultAfter tokens none) =
      (piecesFrom g text (pos + (c :: chars).length) modes).map
        (resultAfter (tokens ++ [⟨g.defaultKind mode, pos, pos + (c :: chars).length,
          String.ofList (c :: chars)⟩]) none) := by
  rw [piecesFrom_singles hmode hchars hrest, hfound, ← ofSlice_eq hrest]
  rcases found with e | ⟨more, out⟩
  · rfl
  · refine congrArg (fun all => Except.ok (LineResult.mk all out.stack)) ?_
    rw [List.append_assoc]
    exact congrArg (tokens ++ ·) (joinAfter_singles_matched _ c chars matched more)

end

end ModalHighlight
