import ModalHighlight.TypedText
import Mathlib.Data.List.Basic

/-!
The typed tokens of a text, told from its lines.  The lines are scanned one after another; the tokens of
each are moved to the start of the line, and its terminator follows as whitespace.  This is what a text
comes to whose lines end in carriage returns and newlines.  Any other terminator is scanned as the last
character of its line.
-/

namespace ModalHighlight

namespace Text

/-- A line that ends in a newline, a carriage return or both, or that is the last and has no end. -/
def SplitLine.EndsPlain (line : SplitLine) : Prop :=
  line.terminator ∈ [[], ['\n'], ['\r'], ['\r', '\n']]

instance (line : SplitLine) : Decidable line.EndsPlain :=
  inferInstanceAs (Decidable (line.terminator ∈ _))

/-- A line as it is scanned in a text: only a plain end is kept apart. -/
def SplitLine.scanned (line : SplitLine) : SplitLine :=
  if line.EndsPlain then line else ⟨line.whole, []⟩

/-- The text of a line without its terminator. -/
def SplitLine.text (line : SplitLine) : String :=
  String.ofList line.body

/-- The lines of a text as they are scanned. -/
def scannedLines (text : String) : List SplitLine :=
  (splitChars text.toList).map SplitLine.scanned

end Text

open Text

/-- A token of a line that begins at an offset, with the type of its kind. -/
def Token.typed (styles : StyleMap) (offset : Nat) (t : Token) : Except StyleError TypedToken := do
  let type ← styles.typeOfKind t.kind
  return ⟨offset + t.start, type, t.text⟩

/-- The terminator of a line that begins at an offset, if it has one. -/
def Text.SplitLine.blank (line : SplitLine) (offset : Nat) : List TypedToken :=
  if line.terminator = [] then []
  else [⟨offset + line.body.length, TokenType.whitespace, String.ofList line.terminator⟩]

/-- Lines with their tokens, laid out from an offset on: the tokens of each line, then its terminator. -/
def layOut (styles : StyleMap) : Nat → List (SplitLine × List Token) →
    Except StyleError (List TypedToken)
  | _, [] => .ok []
  | offset, (line, tokens) :: rest => do
      let typed ← tokens.mapM (Token.typed styles offset)
      let more ← layOut styles (offset + line.whole.length) rest
      return typed ++ line.blank offset ++ more

namespace Text

/-- A line holds no line break but its terminator, which is one line break. -/
structure SplitLine.IsLine (line : SplitLine) : Prop where
  body_eq : ∀ c ∈ line.body, isLineBreak c = false
  terminator_eq : line.terminator = [] ∨ line.terminator = ['\r', '\n'] ∨
    ∃ c, isLineBreak c = true ∧ line.terminator = [c]

theorem isLine_consToFirst {c : Char} {lines : List SplitLine} (hc : isLineBreak c = false)
    (h : ∀ line ∈ lines, line.IsLine) : ∀ line ∈ consToFirst c lines, line.IsLine := by
  cases lines with
  | nil =>
      intro line hline
      obtain rfl := List.mem_singleton.mp hline
      exact ⟨by simpa using hc, Or.inl rfl⟩
  | cons first rest =>
      obtain ⟨hfirst, hrest⟩ := List.forall_mem_cons.mp h
      refine List.forall_mem_cons.mpr ⟨⟨?_, hfirst.terminator_eq⟩, hrest⟩
      exact List.forall_mem_cons.mpr ⟨hc, hfirst.body_eq⟩

theorem isLine_of_mem_splitChars (chars : List Char) : ∀ line ∈ splitChars chars, line.IsLine := by
  fun_induction splitChars chars with
  | case1 => simp
  | case2 rest ih =>
      exact List.forall_mem_cons.mpr ⟨⟨by simp, Or.inr (Or.inl rfl)⟩, ih⟩
  | case3 c rest _ hbreak ih =>
      exact List.forall_mem_cons.mpr ⟨⟨by simp, Or.inr (Or.inr ⟨c, hbreak, rfl⟩)⟩, ih⟩
  | case4 c rest _ hbreak ih =>
      exact isLine_consToFirst (Bool.eq_false_iff.mpr hbreak) ih

theorem endsLine_eq_false {c : Char} (h : isLineBreak c = false) : endsLine c = false := by
  simp only [isLineBreak, Bool.or_eq_false_iff] at h
  simp [endsLine, h]

end Text

/-- What is split off a line is all that it ends in of carriage returns and newlines. -/
theorem splitTerminator_append {body ending : List Char}
    (hbody : ∀ c ∈ body.getLast?, endsLine c = false) (hending : ∀ c ∈ ending, endsLine c = true) :
    splitTerminator (body ++ ending) = (body, ending) := by
  have hstop : body.reverse.takeWhile endsLine = [] := by
    rw [List.getLast?_eq_head?_reverse] at hbody
    cases hrev : body.reverse with
    | nil => rfl
    | cons last rest =>
        rw [hrev] at hbody
        exact List.takeWhile_cons_of_neg (Bool.eq_false_iff.mp (hbody last rfl))
  have htake : (body ++ ending).reverse.takeWhile endsLine = ending.reverse := by
    rw [List.reverse_append, List.takeWhile_append_of_pos (by simpa using hending), hstop,
      List.append_nil]
  simp only [splitTerminator, htake]
  simp

namespace Text

@[simp] theorem whole_scanned (line : SplitLine) : line.scanned.whole = line.whole := by
  unfold SplitLine.scanned
  split
  · rfl
  · simp [SplitLine.whole]

/-- Only a plain end is split off a line. -/
theorem SplitLine.IsLine.splitTerminator_whole {line : SplitLine} (h : line.IsLine) :
    splitTerminator line.whole = (line.scanned.body, line.scanned.terminator) := by
  unfold SplitLine.scanned
  split
  · rename_i hplain
    refine splitTerminator_append (fun c hc => ?_) (fun c hc => ?_)
    · exact endsLine_eq_false (h.body_eq c (List.mem_of_getLast? hc))
    · simp only [SplitLine.EndsPlain, List.mem_cons, List.not_mem_nil, or_false] at hplain
      rcases hplain with hend | hend | hend | hend <;> rw [hend] at hc <;>
        simp_all [endsLine, or_comm]
  · rename_i hplain
    obtain ⟨c, hc, hend⟩ : ∃ c, endsLine c = false ∧ line.terminator = [c] := by
      rcases h.terminator_eq with hend | hend | ⟨c, _, hend⟩
      · exact absurd (by simp [SplitLine.EndsPlain, hend]) hplain
      · exact absurd (by simp [SplitLine.EndsPlain, hend]) hplain
      · refine ⟨c, ?_, hend⟩
        simp only [SplitLine.EndsPlain, hend] at hplain
        simp_all [endsLine]
    have hsplit : splitTerminator (line.whole ++ []) = (line.whole, []) :=
      splitTerminator_append (by simp [SplitLine.whole, hend, hc]) (by simp)
    simpa using hsplit

end Text

theorem typeTokens_eq_mapM (styles : StyleMap) (offset : Nat) (tokens : List Token) :
    typeTokens styles offset tokens = tokens.mapM (Token.typed styles offset) := by
  induction tokens with
  | nil => rfl
  | cons t rest ih =>
      rw [typeTokens, ih, List.mapM_cons]
      cases htype : styles.typeOfKind t.kind with
      | error e => simp [Token.typed, htype, bind, Except.bind]
      | ok type =>
          cases hrest : rest.mapM (Token.typed styles offset) <;>
            simp [Token.typed, htype, bind, Except.bind, pure, Except.pure]

section

variable {g : CompiledGrammar} {styles : StyleMap}

/-- Lines that are scanned without a failure are laid out with the tokens that the scan gives. -/
theorem typeLines_eq_layOut {lines : List SplitLine} {rows : List (List Token)}
    {stack out : ModeStack}
    (hlines : ∀ line ∈ lines, splitTerminator line.whole = (line.body, line.terminator))
    (hscan : scanLines g (lines.map SplitLine.text) stack = .ok (rows, out)) (offset : Nat) :
    rows.length = lines.length ∧
      typeLines g styles (lines.map SplitLine.whole) offset stack =
        (layOut styles offset (lines.zip rows)).mapError .style := by
  induction lines generalizing rows stack offset with
  | nil =>
      cases hscan
      exact ⟨rfl, rfl⟩
  | cons line rest ih =>
      obtain ⟨hline, hrest⟩ := List.forall_mem_cons.mp hlines
      simp only [List.map_cons, scanLines] at hscan
      split at hscan
      · cases hscan
      rename_i first hfirst
      split at hscan
      · cases hscan
      rename_i more stack' hmore
      cases hscan
      obtain ⟨hlength, htyped⟩ := ih hrest hmore (offset + line.whole.length)
      refine ⟨by simp [hlength], ?_⟩
      simp only [SplitLine.text] at hfirst
      simp only [List.map_cons, List.zip_cons_cons, typeLines, layOut, hline, hfirst, htyped,
        typeTokens_eq_mapM]
      cases first.tokens.mapM (Token.typed styles offset) with
      | error e => rfl
      | ok typed =>
          cases layOut styles (offset + line.whole.length) (rest.zip more) with
          | error e => rfl
          | ok laid =>
              simp [Except.mapError, bind, Except.bind, pure, Except.pure, SplitLine.blank]

end

theorem map_whole_scannedLines (text : String) :
    (scannedLines text).map SplitLine.whole = (splitChars text.toList).map SplitLine.whole := by
  simp [scannedLines, Function.comp_def]

theorem scannedLines_eq {text : String}
    (h : ∀ line ∈ splitChars text.toList, line.EndsPlain) :
    scannedLines text = splitChars text.toList := by
  rw [scannedLines]
  conv_rhs => rw [← List.map_id (splitChars text.toList)]
  exact List.map_congr_left fun line hline => if_pos (h line hline)

theorem splitTerminator_whole_of_mem_scannedLines {text : String} {line : SplitLine}
    (h : line ∈ scannedLines text) : splitTerminator line.whole = (line.body, line.terminator) := by
  obtain ⟨source, hsource, rfl⟩ := List.mem_map.mp h
  rw [whole_scanned]
  exact (isLine_of_mem_splitChars text.toList source hsource).splitTerminator_whole

/-- A text whose lines have plain ends comes to the tokens of its lines, moved to their places, each line
followed by its terminator.  So does any text, but an end that is not plain is scanned with its line. -/
theorem typedTokens_lay_out_lines (g : CompiledGrammar) (styles : StyleMap) (text : String) :
    ((∀ line ∈ splitChars text.toList, line.EndsPlain) →
      ∀ rows stack, scanLines g (splitLines text) initialStack = .ok (rows, stack) →
        rows.length = (splitChars text.toList).length ∧
          typedTokens g styles text =
            (layOut styles 0 ((splitChars text.toList).zip rows)).mapError .style) ∧
    ∀ rows stack, scanLines g ((scannedLines text).map SplitLine.text) initialStack =
        .ok (rows, stack) →
      rows.length = (scannedLines text).length ∧
        typedTokens g styles text =
          (layOut styles 0 ((scannedLines text).zip rows)).mapError .style := by
  have hall : ∀ rows stack, scanLines g ((scannedLines text).map SplitLine.text) initialStack =
        .ok (rows, stack) →
      rows.length = (scannedLines text).length ∧
        typedTokens g styles text =
          (layOut styles 0 ((scannedLines text).zip rows)).mapError .style := by
    intro rows stack hscan
    rw [typedTokens, ← map_whole_scannedLines]
    exact typeLines_eq_layOut (fun line hline => splitTerminator_whole_of_mem_scannedLines hline) hscan 0
  refine ⟨fun hplain => ?_, hall⟩
  have hsame := scannedLines_eq hplain
  rw [hsame] at hall
  exact hall

namespace LayoutWitness

/-- One mode without rules. -/
def plainGrammar : CompiledGrammar :=
  ⟨[⟨"start", [], none⟩], .name textKind⟩

def plainStyles : StyleMap := ⟨[], TokenType.text⟩

theorem newlines_are_blank_and_vertical_tabs_are_scanned :
    typedTokens plainGrammar plainStyles "a\r\nb" =
        .ok [⟨0, TokenType.text, "a"⟩, ⟨1, TokenType.whitespace, "\r\n"⟩,
          ⟨3, TokenType.text, "b"⟩] ∧
      typedTokens plainGrammar plainStyles "a\x0bb" =
        .ok [⟨0, TokenType.text, "a\x0b"⟩, ⟨2, TokenType.text, "b"⟩] := by
  constructor
  · exact ((typedTokens_lay_out_lines plainGrammar plainStyles "a\r\nb").1 (by decide)
      [[⟨.name "text", 0, 1, "a"⟩], [⟨.name "text", 0, 1, "b"⟩]] ["start"] rfl).2
  · exact ((typedTokens_lay_out_lines plainGrammar plainStyles "a\x0bb").2
      [[⟨.name "text", 0, 2, "a\x0b"⟩], [⟨.name "text", 0, 1, "b"⟩]] ["start"] rfl).2

end LayoutWitness

end ModalHighlight
