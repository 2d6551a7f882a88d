import ModalHighlight.Proofs.Scan.Coverage
import ModalHighlight.Proofs.TypedText.Layout

/-!
The typed tokens of a text are the text cut into pieces.  A line is what is scanned of it, followed by the
carriage returns and newlines at its end; the tokens of the scan cover the one and a blank the other.  So
nothing is lost, whatever the lines end in, and no piece is empty.  The only kind that may have no type is
that of the text for which no mode names a kind.
-/

namespace ModalHighlight

open Text

/-- Typed tokens are a text cut into pieces, none of them empty, each with its own place. -/
structure CutsUp (text : String) (typed : List TypedToken) : Prop where
  join_eq : String.join (typed.map TypedToken.text) = text
  text_ne : ∀ t ∈ typed, t.text ≠ ""
  offset_eq : ∀ before t after, typed = before ++ t :: after →
    t.offset = (String.join (before.map TypedToken.text)).length

/-- Typed tokens cut up characters that begin at an offset. -/
inductive CutsFrom : Nat → List Char → List TypedToken → Prop
  | nil (offset : Nat) : CutsFrom offset [] []
  | cons {t : TypedToken} {chars : List Char} {rest : List TypedToken} (hne : t.text ≠ "")
      (hrest : CutsFrom (t.offset + t.text.length) chars rest) :
      CutsFrom t.offset (t.text.toList ++ chars) (t :: rest)

namespace CutsFrom

variable {offset : Nat} {chars more : List Char} {typed others : List TypedToken}

theorem append (h : CutsFrom offset chars typed)
    (hmore : CutsFrom (offset + chars.length) more others) :
    CutsFrom offset (chars ++ more) (typed ++ others) := by
  induction h with
  | nil => exact hmore
  | cons hne _ ih =>
      rw [List.append_assoc, List.cons_append]
      apply CutsFrom.cons hne
      apply ih
      rwa [List.length_append, String.length_toList, ← Nat.add_assoc] at hmore

theorem toList_join (h : CutsFrom offset chars typed) :
    (String.join (typed.map TypedToken.text)).toList = chars := by
  induction h with
  | nil => rfl
  | cons _ _ ih => rw [List.map_cons, String.join_cons, String.toList_append, ih]

theorem text_ne (h : CutsFrom offset chars typed) : ∀ t ∈ typed, t.text ≠ "" := by
  induction h with
  | nil => simp
  | cons hne _ ih => exact List.forall_mem_cons.mpr ⟨hne, ih⟩

theorem offset_eq (h : CutsFrom offset chars typed) {before after : List TypedToken} {t : TypedToken}
    (hsplit : typed = before ++ t :: after) :
    t.offset = offset + (String.join (before.map TypedToken.text)).length := by
  induction h generalizing before with
  | nil => simp at hsplit
  | cons _ _ ih =>
      rcases before with _ | ⟨first, before⟩
      · obtain ⟨rfl, -⟩ := List.cons.inj hsplit
        rfl
      · obtain ⟨rfl, hrest⟩ := List.cons.inj hsplit
        rw [ih hrest, List.map_cons, String.join_cons, String.length_append, Nat.add_assoc]

theorem cutsUp {text : String} (h : CutsFrom 0 text.toList typed) : CutsUp text typed where
  join_eq := String.toList_inj.mp h.toList_join
  text_ne := h.text_ne
  offset_eq before t after hsplit := by rw [h.offset_eq hsplit, Nat.zero_add]

end CutsFrom

namespace CompiledGrammar

/-- A kind that tokens of a scan can have: a name, or what stands where no mode names a kind. -/
def Gives (g : CompiledGrammar) (kind : Kind) : Prop :=
  (∃ name, kind = .name name) ∨ kind = g.fallback

theorem gives_name (g : CompiledGrammar) (name : String) : g.Gives (.name name) :=
  Or.inl ⟨name, rfl⟩

theorem gives_defaultKind (g : CompiledGrammar) (mode : Mode) : g.Gives (g.defaultKind mode) := by
  unfold defaultKind
  split
  · split
    · exact Or.inr rfl
    · exact g.gives_name _
  · exact Or.inr rfl

end CompiledGrammar

section

variable {P : Kind → Prop} {line : Array Char} {tokens : Array Token}

theorem kinds_addToken {kind : Kind} (hkind : P kind) (h : ∀ t ∈ tokens, P t.kind) (start stop : Nat) :
    ∀ t ∈ addToken line kind start stop tokens, P t.kind := by
  unfold addToken
  split
  · intro t ht
    rcases Array.mem_push.mp ht with hold | rfl
    · exact h t hold
    · exact hkind
  · exact h

theorem kinds_addGroups {gap : Kind} {kinds : List String} {m : Match} (hgap : P gap)
    (hkinds : ∀ name, P (.name name)) (h : ∀ t ∈ tokens, P t.kind) (index cursor : Nat) :
    ∀ t ∈ addGroups line gap m kinds index cursor tokens, P t.kind := by
  induction kinds generalizing index cursor tokens with
  | nil => exact kinds_addToken hgap h _ _
  | cons kind rest ih =>
      rw [addGroups]
      split
      · exact ih h _ _
      · dsimp only
        split
        · exact ih h _ _
        · apply ih
          apply kinds_addToken (hkinds kind)
          exact kinds_addToken hgap h _ _

theorem kinds_addMatch {gap : Kind} (hgap : P gap) (hkinds : ∀ name, P (.name name))
    (h : ∀ t ∈ tokens, P t.kind) (r : CompiledRule) (m : Match) (start : Nat) :
    ∀ t ∈ addMatch line gap r m start tokens, P t.kind := by
  unfold addMatch
  split
  · exact kinds_addGroups hgap hkinds h _ _
  · exact kinds_addToken (hkinds _) h _ _

end

namespace ScanState

variable {g : CompiledGrammar} {line : Array Char} {s t : ScanState}

/-- The tokens so far have kinds that a scan gives. -/
def KindsGiven (g : CompiledGrammar) (s : ScanState) : Prop :=
  ∀ t ∈ s.tokens, g.Gives t.kind

theorem KindsGiven.flushAs {kind : Kind} (h : KindsGiven g s) (hkind : g.Gives kind) :
    KindsGiven g (s.flushAs line kind) := by
  unfold ScanState.flushAs
  split
  · exact h
  · exact kinds_addToken hkind h _ _

theorem KindsGiven.advance (h : KindsGiven g s) (hadvance : Advance g line s t) : KindsGiven g t := by
  obtain ⟨_, ⟨_, _⟩ | @⟨mode, r, m, _⟩⟩ := hadvance
  · exact h
  · have hgap := g.gives_defaultKind mode
    rw [KindsGiven, accept_tokens]
    exact kinds_addMatch hgap g.gives_name (h.flushAs hgap) _ _ _

theorem KindsGiven.finish (h : KindsGiven g s) (hfinish : s.finish g line = .ok t) :
    KindsGiven g t := by
  rcases finish_eq_ok_iff.mp hfinish with ⟨_, rfl⟩ | ⟨_, mode, _, _, rfl⟩
  · exact h
  · exact h.flushAs (g.gives_defaultKind mode)

end ScanState

open ScanState in
theorem gives_of_mem_scanLine {g : CompiledGrammar} {text : String} {stack : ModeStack}
    {result : LineResult} (h : scanLine g text stack = .ok result) :
    ∀ t ∈ result.tokens, g.Gives t.kind := by
  obtain ⟨s, t, hpasses, _, hfinish, rfl⟩ := scanLine_eq_ok_iff.mp h
  have hinitial : KindsGiven g (initial g stack) := by
    simp [KindsGiven, initial]
  have hgiven := (hpasses.preserves (fun _ _ hs hadvance => hs.advance hadvance) hinitial).finish hfinish
  intro t ht
  exact hgiven t (Array.mem_toList_iff.mp ht)

variable {g : CompiledGrammar} {styles : StyleMap}

theorem typeTokens_cons_eq_ok {offset : Nat} {t : Token} {rest : List Token} {typed : List TypedToken}
    (h : typeTokens styles offset (t :: rest) = .ok typed) :
    ∃ type more, typeTokens styles offset rest = .ok more ∧
      typed = ⟨offset + t.start, type, t.text⟩ :: more := by
  rw [typeTokens] at h
  split at h
  · cases h
  · split at h
    · cases h
    · rename_i type _ _ more hmore
      cases h
      exact ⟨type, more, hmore, rfl⟩

theorem take_drop_eq_append {line : List Char} {start middle stop : Nat} (hstart : start ≤ middle)
    (hstop : middle ≤ stop) :
    (line.take stop).drop start = (line.take middle).drop start ++ (line.take stop).drop middle := by
  have hmiddle : start + (middle - start) = middle := Nat.add_sub_cancel' hstart
  calc (line.take stop).drop start
      = ((line.take stop).drop start).take (middle - start) ++
          ((line.take stop).drop start).drop (middle - start) := (List.take_append_drop _ _).symm
    _ = ((line.take stop).take middle).drop start ++ (line.take stop).drop middle := by
        rw [List.drop_drop, hmiddle, List.drop_take (l := line.take stop)]
    _ = (line.take middle).drop start ++ (line.take stop).drop middle := by
        rw [List.take_take, Nat.min_eq_left hstop]

/-- Tokens that cover a part of a line cut it up when they have types. -/
theorem Tiles.cutsFrom {text : String} {start stop offset : Nat} {tokens : List Token}
    {typed : List TypedToken} (h : Tiles text.toList.toArray start tokens stop)
    (hstop : stop ≤ text.toList.length) (htyped : typeTokens styles offset tokens = .ok typed) :
    CutsFrom (offset + start) ((text.toList.take stop).drop start) typed := by
  induction tokens generalizing start typed with
  | nil =>
      cases h
      cases htyped
      rw [List.drop_eq_nil_of_le (List.length_take_le _ _)]
      exact .nil _
  | cons t rest ih =>
      obtain ⟨hstart, hlt, htext, hrest⟩ := h
      obtain ⟨type, more, hmore, rfl⟩ := typeTokens_cons_eq_ok htyped
      have hle : t.stop ≤ stop := hrest.start_le_stop
      have hpiece : t.text.toList = (text.toList.take t.stop).drop start := by
        rw [htext, toList_sliceText]
      have hlength : t.text.length = t.stop - start := by
        rw [← String.length_toList, hpiece, List.length_drop, List.length_take]
        omega
      rw [take_drop_eq_append (Nat.le_of_lt hlt) hle, ← hpiece, ← hstart]
      refine .cons (t := ⟨offset + t.start, type, t.text⟩) ?_ ?_
      · intro hempty
        have hzero : t.text.length = 0 := by rw [show t.text = "" from hempty, String.length_empty]
        omega
      · have hnext : offset + t.start + t.text.length = offset + t.stop := by omega
        rw [hnext]
        exact ih hrest hmore

theorem append_splitTerminator (line : List Char) :
    (splitTerminator line).1 ++ (splitTerminator line).2 = line := by
  have hline : line =
      (line.reverse.dropWhile endsLine).reverse ++ (line.reverse.takeWhile endsLine).reverse := by
    rw [← List.reverse_append, List.takeWhile_append_dropWhile, List.reverse_reverse]
  have hlength : line.length - (line.reverse.takeWhile endsLine).length =
      (line.reverse.dropWhile endsLine).reverse.length := by
    have := congrArg List.length hline
    simp only [List.length_append, List.length_reverse] at this ⊢
    omega
  have hbody : (splitTerminator line).1 = (line.reverse.dropWhile endsLine).reverse := by
    simp only [splitTerminator, hlength]
    exact List.prefix_iff_eq_take.mp ⟨_, hline.symm⟩ |>.symm
  rw [hbody]
  exact hline.symm

theorem cutsFrom_blank (line : SplitLine) (offset : Nat) :
    CutsFrom (offset + line.body.length) line.terminator (line.blank offset) := by
  unfold SplitLine.blank
  split
  · rename_i hnone
    rw [hnone]
    exact .nil _
  · rename_i hsome
    have hne : String.ofList line.terminator ≠ "" := by simpa using hsome
    have hcut := CutsFrom.cons (t := ⟨offset + line.body.length, TokenType.whitespace,
      String.ofList line.terminator⟩) hne (.nil _)
    rwa [String.toList_ofList, List.append_nil] at hcut

theorem typeLines_cons_eq_ok {line : List Char} {rest : List (List Char)} {offset : Nat}
    {stack : ModeStack} {typed : List TypedToken}
    (h : typeLines g styles (line :: rest) offset stack = .ok typed) :
    ∃ result tokens more, scanLine g (String.ofList (splitTerminator line).1) stack = .ok result ∧
      typeTokens styles offset result.tokens = .ok tokens ∧
      typeLines g styles rest (offset + line.length) result.stack = .ok more ∧
      typed = tokens ++
        SplitLine.blank ⟨(splitTerminator line).1, (splitTerminator line).2⟩ offset ++ more := by
  rw [typeLines] at h
  dsimp only at h
  split at h
  · cases h
  rename_i result hresult
  split at h
  · cases h
  rename_i tokens htokens
  split at h
  · cases h
  rename_i more hmore
  cases h
  exact ⟨result, tokens, more, hresult, htokens, hmore, by simp [SplitLine.blank]⟩

/-- Lines are cut up one after another, each with what it ends in. -/
theorem cutsFrom_typeLines {lines : List (List Char)} {offset : Nat} {stack : ModeStack}
    {typed : List TypedToken} (h : typeLines g styles lines offset stack = .ok typed) :
    CutsFrom offset lines.flatten typed := by
  induction lines generalizing offset stack typed with
  | nil =>
      cases h
      exact .nil offset
  | cons line rest ih =>
      obtain ⟨result, tokens, more, hresult, htokens, hmore, rfl⟩ := typeLines_cons_eq_ok h
      have hbody := (tiles_of_scanLine hresult).cutsFrom (Nat.le_refl _) htokens
      simp only [String.toList_ofList, List.take_length, List.drop_zero, Nat.add_zero] at hbody
      have hline := hbody.append (cutsFrom_blank ⟨_, (splitTerminator line).2⟩ offset)
      rw [append_splitTerminator] at hline
      exact hline.append (ih hmore)

/-- The only kind of a scan that may have no type is the one that stands where no mode names a kind. -/
theorem CompiledGrammar.Gives.fallback_untyped {kind : Kind} (h : g.Gives kind) {e : StyleError}
    (he : styles.typeOfKind kind = .error e) : styles.typeOfKind g.fallback = .error e := by
  rcases h with ⟨name, rfl⟩ | rfl
  · cases he
  · exact he

theorem typeTokens_ok_or_untyped {tokens : List Token} (h : ∀ t ∈ tokens, g.Gives t.kind)
    (offset : Nat) : (∃ typed, typeTokens styles offset tokens = .ok typed) ∨
      ∃ e, styles.typeOfKind g.fallback = .error e ∧
        typeTokens styles offset tokens = .error e := by
  induction tokens with
  | nil => exact Or.inl ⟨[], rfl⟩
  | cons t rest ih =>
      obtain ⟨hkind, hrest⟩ := List.forall_mem_cons.mp h
      rw [typeTokens]
      rcases htype : styles.typeOfKind t.kind with e | type
      · exact Or.inr ⟨e, hkind.fallback_untyped htype, rfl⟩
      · rcases ih hrest with ⟨typed, hok⟩ | ⟨e, he, herror⟩
        · rw [hok]
          exact Or.inl ⟨_, rfl⟩
        · rw [herror]
          exact Or.inr ⟨e, he, rfl⟩

theorem typeLines_ok_or_untyped {lines : List (List Char)} {rows : List (List Token)}
    {stack out : ModeStack}
    (h : scanLines g (lines.map fun line => String.ofList (splitTerminator line).1) stack =
      .ok (rows, out)) (offset : Nat) :
    (∃ typed, typeLines g styles lines offset stack = .ok typed) ∨
      ∃ e, styles.typeOfKind g.fallback = .error e ∧
        typeLines g styles lines offset stack = .error (.style e) := by
  induction lines generalizing rows stack out offset with
  | nil => exact Or.inl ⟨[], rfl⟩
  | cons line rest ih =>
      simp only [List.map_cons, scanLines] at h
      split at h
      · cases h
      rename_i result hresult
      split at h
      · cases h
      rename_i more stack' hmore
      rw [typeLines]
      simp only [hresult]
      rcases typeTokens_ok_or_untyped (gives_of_mem_scanLine hresult) offset with
        ⟨tokens, htokens⟩ | ⟨e, he, herror⟩
      · rw [htokens]
        rcases ih hmore (offset + line.length) with ⟨typed, hok⟩ | ⟨e, he, herror⟩
        · rw [hok]
          exact Or.inl ⟨_, rfl⟩
        · rw [herror]
          exact Or.inr ⟨e, he, rfl⟩
      · rw [herror]
        exact Or.inr ⟨e, he, rfl⟩

theorem map_text_scannedLines (text : String) :
    (scannedLines text).map SplitLine.text = ((splitChars text.toList).map SplitLine.whole).map
      fun line => String.ofList (splitTerminator line).1 := by
  rw [← map_whole_scannedLines, List.map_map]
  apply List.map_congr_left
  intro line hline
  rw [Function.comp_apply, splitTerminator_whole_of_mem_scannedLines hline, SplitLine.text]

/-- The typed tokens of a text are the text cut into pieces, and a text has typed tokens when its lines
can be scanned, except where the kind that stands for no kind has no type. -/
theorem typedTokens_cut_up_text (g : CompiledGrammar) (styles : StyleMap) (text : String) :
    (∀ typed, typedTokens g styles text = .ok typed → CutsUp text typed) ∧
    ∀ rows stack, scanLines g ((scannedLines text).map SplitLine.text) initialStack =
        .ok (rows, stack) →
      (∃ typed, typedTokens g styles text = .ok typed) ∨
        ∃ e, styles.typeOfKind g.fallback = .error e ∧
          typedTokens g styles text = .error (.style e) := by
  constructor
  · intro typed h
    have hcuts := cutsFrom_typeLines h
    rw [← List.flatMap_def, flatMap_whole_splitChars] at hcuts
    exact hcuts.cutsUp
  · intro rows stack h
    rw [map_text_scannedLines] at h
    exact typeLines_ok_or_untyped h 0

namespace LosslessWitness

open LayoutWitness

/-- Both line ends after a line, an empty line, a line end that is scanned, and a last line without one. -/
def text : String := "a\r\n\nb\x0bc"

def typed : List TypedToken :=
  [⟨0, TokenType.text, "a"⟩, ⟨1, TokenType.whitespace, "\r\n"⟩, ⟨3, TokenType.whitespace, "\n"⟩,
    ⟨4, TokenType.text, "b\x0b"⟩, ⟨6, TokenType.text, "c"⟩]

theorem mixed_ends_are_kept :
    (scanLines plainGrammar ((scannedLines text).map SplitLine.text) initialStack).isOk ∧
      typedTokens plainGrammar plainStyles text = .ok typed ∧
      (∃ found, typedTokens plainGrammar plainStyles text = .ok found) ∧ CutsUp text typed := by
  have hok : (scanLines plainGrammar ((scannedLines text).map SplitLine.text) initialStack).isOk := by
    decide +kernel
  have htyped : typedTokens plainGrammar plainStyles text = .ok typed := by decide +kernel
  obtain ⟨hcuts, htypes⟩ := typedTokens_cut_up_text plainGrammar plainStyles text
  refine ⟨hok, htyped, ?_, hcuts typed htyped⟩
  rcases hscan : scanLines plainGrammar ((scannedLines text).map SplitLine.text) initialStack with
    e | ⟨rows, stack⟩
  · rw [hscan] at hok
    cases hok
  · rcases htypes rows stack hscan with hfound | ⟨e, he, _⟩
    · exact hfound
    · cases he

end LosslessWitness

end ModalHighlight
