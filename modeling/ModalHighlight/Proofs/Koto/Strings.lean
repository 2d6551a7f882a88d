import ModalHighlight.Koto.Grammar
import ModalHighlight.Proofs.Scan.Literals
import Mathlib.Data.List.TakeWhile

/-!
Strings of the registered dialects.  A string whose special characters are all escaped is read as it is meant:
each escape becomes one token, the text between escapes is plain, and the closing quote closes the string.  The
proof reads four things off the grammar of a dialect: the quote opens a string, it closes the string, an escape
is taken whole, and no rule inside a string can begin with a character that is not special.
-/

namespace ModalHighlight.Koto

open Pattern

/-- A quote of the language, with the kind and the mode of its strings. -/
structure Quote where
  char : Char
  kind : String
  mode : String
deriving Repr, DecidableEq

/-- The quotes that a dialect has. -/
def Dialect.quotes (d : Dialect) : List Quote :=
  ⟨'"', TokenKind.doubleQuoted, "#string-double-quoted/0"⟩ ::
    if d.singleQuoted then [⟨'\'', TokenKind.singleQuoted, "#string-single-quoted/0"⟩] else []

/-- The characters that are escaped in a string: the backslash, the quote, and the one that starts an
expression. -/
def Dialect.specials (d : Dialect) (quote : Quote) : List Char :=
  ['\\', quote.char] ++
    if d.hasBraceTemplates then ['{'] else if d.hasTemplates then ['$'] else []

section

variable (special : List Char) (kind : String)

/-- A text with a backslash before each special character. -/
def escaped (s : List Char) : List Char :=
  s.flatMap fun c => if c ∈ special then ['\\', c] else [c]

/-- The parts of an escaped text with their kinds: the escapes, and the longest runs of other characters between
them. -/
def bodyParts : List Char → List (String × List Char)
  | [] => []
  | c :: rest =>
      if c ∈ special then (TokenKind.escape, ['\\', c]) :: bodyParts rest
      else
        (kind, c :: rest.takeWhile fun d => decide (d ∉ special)) ::
          bodyParts (rest.dropWhile fun d => decide (d ∉ special))
termination_by s => s.length
decreasing_by
  · exact Nat.lt_succ_self _
  · exact Nat.lt_succ_of_le (List.dropWhile_suffix _).length_le

end

/-- Tokens for parts of a line that follow one another. -/
def tokensOfParts : Nat → List (String × List Char) → List Token
  | _, [] => []
  | pos, (kind, chars) :: rest =>
      ⟨.name kind, pos, pos + chars.length, String.ofList chars⟩ ::
        tokensOfParts (pos + chars.length) rest

/-- A string of a dialect with its quotes. -/
def quoted (d : Dialect) (quote : Quote) (s : List Char) : String :=
  String.ofList (quote.char :: (escaped (d.specials quote) s ++ [quote.char]))

/-- The parts of a string of a dialect: the opening quote, the parts of the body, and the closing quote. -/
def quotedParts (d : Dialect) (quote : Quote) (s : List Char) : List (String × List Char) :=
  (quote.kind, [quote.char]) :: (bodyParts (d.specials quote) quote.kind s ++ [(quote.kind, [quote.char])])

/-- The rules can begin with special characters only. -/
def beginOnlyWith (special : List Char) (rules : List CompiledRule) : Bool :=
  rules.all fun r =>
    match r.pattern.firsts? with
    | some tests => tests.all fun test => special.any fun c => decide (test = .code c.toNat .exact false)
    | none => false

/-- A grammar reads the strings of a quote. -/
def readsStrings (g : CompiledGrammar) (special : List Char) (quote : Quote) : Bool :=
  match g.mode? startName, g.mode? quote.mode with
  | some start, some inside =>
      readsAs start.rules [quote.char] quote.kind (.push quote.mode) &&
        readsAs inside.rules [quote.char] quote.kind .pop &&
        (special.all fun c => readsAs inside.rules ['\\', c] TokenKind.escape .stay) &&
        beginOnlyWith special inside.rules && decide (inside.defaultKind = some quote.kind)
  | _, _ => false

/-- The grammar of a dialect reads the strings of all its quotes. -/
def Dialect.readsStrings (d : Dialect) : Bool :=
  match grammar d with
  | .ok g => d.quotes.all fun quote => Koto.readsStrings g (d.specials quote) quote
  | .error _ => false

/-- The patterns of the registered dialects are read here. -/
theorem readsStrings_of_mem_registered {d : Dialect} (h : d ∈ Dialect.registered) :
    d.readsStrings = true := by
  simp only [Dialect.registered, List.mem_cons, List.not_mem_nil, or_false] at h
  rcases h with rfl | rfl | rfl <;> decide +kernel

/-- Rules that can begin with special characters only cannot begin with another. -/
theorem canBegin_eq_false {special : List Char} {rules : List CompiledRule}
    (h : beginOnlyWith special rules) {c : Char} (hc : c ∉ special) :
    ∀ r ∈ rules, r.pattern.canBegin c = false := by
  intro r hr
  have hrule := List.all_eq_true.mp h r hr
  unfold canBegin
  split at hrule
  · rename_i tests htests
    simp only [htests, List.any_eq_false]
    intro test htest
    obtain ⟨d, hd, rfl⟩ : ∃ d ∈ special, test = .code d.toNat .exact false := by
      simpa using List.all_eq_true.mp hrule test htest
    have hne : c.toNat ≠ d.toNat := fun hcode => hc (Char.toNat_inj.mp hcode ▸ hd)
    simp [CharTest.holds, CharTest.sameCode, CaseRule.isCased, hne]
  · cases hrule

/-- A mode that reads the body of a string up to its quote. -/
structure ReadsBody (g : CompiledGrammar) (special : List Char) (quote : Quote) (mode : Mode) : Prop where
  mode_eq : g.mode? quote.mode = some mode
  closes : readsAs mode.rules [quote.char] quote.kind .pop
  escapes : ∀ c ∈ special, readsAs mode.rules ['\\', c] TokenKind.escape .stay
  beginOnly : beginOnlyWith special mode.rules
  kind_eq : g.defaultKind mode = .name quote.kind

/-- The open modes inside a string. -/
def insideModes (quote : Quote) : OpenModes :=
  OpenModes.start.push quote.mode

section

variable {g : CompiledGrammar} {special : List Char} {quote : Quote} {mode : Mode} {line : Array Char}

/-- What follows plain text in the body of a string is taken by a rule. -/
theorem ReadsBody.exists_matched (h : ReadsBody g special quote mode) {s : List Char} {pos : Nat}
    (hs : ∀ c ∈ s.head?, c ∈ special)
    (hrest : line.toList.drop pos = escaped special s ++ [quote.char]) :
    ∃ tokens found, piecesFrom g line pos (insideModes quote) =
      Except.map (prepend [.matched tokens]) found := by
  match s with
  | [] => exact ⟨_, _, piecesFrom_of_readsAs h.mode_eq h.closes hrest⟩
  | c :: rest =>
      have hc : c ∈ special := hs c rfl
      rw [escaped, List.flatMap_cons, if_pos hc, List.append_assoc] at hrest
      exact ⟨_, _, piecesFrom_of_readsAs h.mode_eq (h.escapes c hc) hrest⟩

/-- After the longest run of plain text the body is at its end or at a special character. -/
theorem mem_special_of_mem_head?_dropWhile (s : List Char) :
    ∀ c ∈ (s.dropWhile fun d => decide (d ∉ special)).head?, c ∈ special := by
  intro c hc
  rw [← List.find?_not_eq_head?_dropWhile] at hc
  simpa using List.find?_some hc

theorem escaped_append (s t : List Char) :
    escaped special (s ++ t) = escaped special s ++ escaped special t :=
  List.flatMap_append

theorem escaped_eq_self {plain : List Char} (hplain : ∀ c ∈ plain, c ∉ special) :
    escaped special plain = plain := by
  induction plain with
  | nil => rfl
  | cons c rest ih =>
      obtain ⟨hc, hrest⟩ := List.forall_mem_cons.mp hplain
      rw [escaped, List.flatMap_cons, if_neg hc, ← escaped, ih hrest]
      rfl

/-- The tokens of the body of a string from a position on, up to and with the closing quote. -/
theorem ReadsBody.result_eq (h : ReadsBody g special quote mode) {s : List Char} {pos : Nat}
    (hrest : line.toList.drop pos = escaped special s ++ [quote.char]) (tokens : List Token) :
    (piecesFrom g line pos (insideModes quote)).map (resultAfter tokens none) =
      .ok ⟨tokens ++ tokensOfParts pos (bodyParts special quote.kind s ++ [(quote.kind, [quote.char])]),
        initialStack⟩ := by
  fun_induction bodyParts special quote.kind s generalizing pos tokens with
  | case1 =>
      have hclose : line.toList.drop pos = [quote.char] ++ [] := hrest
      rw [result_of_readsAs h.mode_eq h.closes hclose, result_of_drop_eq_nil (drop_add hclose)]
      rfl
  | case2 c rest hc ih =>
      rw [escaped, List.flatMap_cons, if_pos hc, List.append_assoc] at hrest
      rw [result_of_readsAs h.mode_eq (h.escapes c hc) hrest]
      refine (ih (drop_add hrest) _).trans ?_
      rw [List.append_assoc]
      rfl
  | case3 c rest hc ih =>
      have hplain : ∀ d ∈ c :: rest.takeWhile (fun d => decide (d ∉ special)), d ∉ special := by
        refine List.forall_mem_cons.mpr ⟨hc, fun d hd => ?_⟩
        simpa using List.mem_takeWhile_imp hd
      have hsplit : c :: rest = (c :: rest.takeWhile fun d => decide (d ∉ special)) ++
          rest.dropWhile fun d => decide (d ∉ special) := by
        rw [List.cons_append, List.takeWhile_append_dropWhile]
      rw [hsplit, escaped_append, escaped_eq_self hplain, List.append_assoc] at hrest
      obtain ⟨matched, found, hfound⟩ :=
        h.exists_matched (mem_special_of_mem_head?_dropWhile rest) (drop_add hrest)
      have hmiss := fun d hd => canBegin_eq_false h.beginOnly (hplain d hd)
      rw [result_of_singles h.mode_eq hmiss hrest hfound, h.kind_eq]
      refine (ih (drop_add hrest) _).trans ?_
      rw [List.append_assoc]
      rfl

end

/-- The facts that the check of a grammar comes to. -/
theorem exists_of_readsStrings {g : CompiledGrammar} {special : List Char} {quote : Quote}
    (h : readsStrings g special quote) (hkind : quote.kind ≠ "") :
    ∃ start mode, g.mode? startName = some start ∧
      readsAs start.rules [quote.char] quote.kind (.push quote.mode) ∧ ReadsBody g special quote mode := by
  unfold readsStrings at h
  split at h
  · rename_i start mode hstart hmode
    simp only [Bool.and_eq_true, List.all_eq_true, decide_eq_true_eq] at h
    obtain ⟨⟨⟨⟨hopens, hcloses⟩, hescapes⟩, hbegin⟩, hdefault⟩ := h
    refine ⟨start, mode, hstart, hopens, hmode, hcloses, hescapes, hbegin, ?_⟩
    simp only [CompiledGrammar.defaultKind, hdefault, if_neg hkind]
  · cases h

theorem kind_ne_of_mem_quotes {d : Dialect} {quote : Quote} (h : quote ∈ d.quotes) : quote.kind ≠ "" := by
  unfold Dialect.quotes at h
  rcases List.mem_cons.mp h with rfl | hsingle
  · decide
  · split at hsingle
    · rw [List.mem_singleton.mp hsingle]
      decide
    · cases hsingle

/-- A grammar that reads the strings of a quote scans each of them to its parts. -/
theorem scanLine_quoted {g : CompiledGrammar} {special : List Char} {quote : Quote} {start mode : Mode}
    (hstart : g.mode? startName = some start)
    (hopens : readsAs start.rules [quote.char] quote.kind (.push quote.mode))
    (hbody : ReadsBody g special quote mode) (s : List Char) :
    scanLine g (String.ofList (quote.char :: (escaped special s ++ [quote.char]))) initialStack =
      .ok ⟨tokensOfParts 0 ((quote.kind, [quote.char]) ::
        (bodyParts special quote.kind s ++ [(quote.kind, [quote.char])])), initialStack⟩ := by
  let text := String.ofList (quote.char :: (escaped special s ++ [quote.char]))
  have hline : text.toList.toArray.toList.drop 0 = [quote.char] ++ (escaped special s ++ [quote.char]) := by
    simp [text]
  rw [scanLine_initialStack hstart, result_of_readsAs hstart hopens hline]
  exact hbody.result_eq (drop_add hline) _

/-- In every registered dialect a string closes at its end.  A text whose special characters are escaped, put
between quotes, comes to the opening quote, one token for each escape and for each longest run of other
characters, and the closing quote; and the scan ends where it began. -/
theorem scanLine_closes_strings {d : Dialect} (hd : d ∈ Dialect.registered) {quote : Quote}
    (hquote : quote ∈ d.quotes) (s : String) :
    ∃ g, (Dialect.ofName? d.name).map grammar = some (.ok g) ∧
      scanLine g (quoted d quote s.toList) initialStack =
        .ok ⟨tokensOfParts 0 (quotedParts d quote s.toList), initialStack⟩ := by
  have hreads := readsStrings_of_mem_registered hd
  unfold Dialect.readsStrings at hreads
  split at hreads
  · rename_i g hg
    obtain ⟨start, mode, hstart, hopens, hbody⟩ :=
      exists_of_readsStrings (List.all_eq_true.mp hreads quote hquote) (kind_ne_of_mem_quotes hquote)
    refine ⟨g, ?_, scanLine_quoted hstart hopens hbody s.toList⟩
    rw [Dialect.ofName?_name hd, Option.map_some, hg]
  · cases hreads

namespace StringsWitness

def singleQuote : Quote := ⟨'\'', TokenKind.singleQuoted, "#string-single-quoted/0"⟩

/-- A brace and a quote are escaped in the playground; the other brace, the other quote and the dollar sign
stay as they are. -/
theorem parts_of_playground_string :
    quotedParts Dialect.playground singleQuote "a\x7b'b\x7d\"$".toList =
      [(TokenKind.singleQuoted, ['\'']), (TokenKind.singleQuoted, ['a']), (TokenKind.escape, ['\\', '\x7b']),
        (TokenKind.escape, ['\\', '\'']), (TokenKind.singleQuoted, ['b', '\x7d', '"', '$']),
        (TokenKind.singleQuoted, ['\''])] := by
  simp [quotedParts, bodyParts, Dialect.specials, Dialect.hasBraceTemplates, Dialect.playground, singleQuote]

theorem playground_string_closes :
    Dialect.playground ∈ Dialect.registered ∧ singleQuote ∈ Dialect.playground.quotes ∧
      ∃ g, (Dialect.ofName? "playground").map grammar = some (.ok g) ∧
        scanLine g "'a\\\x7b\\'b\x7d\"$'" initialStack =
          .ok ⟨[⟨.name TokenKind.singleQuoted, 0, 1, "'"⟩, ⟨.name TokenKind.singleQuoted, 1, 2, "a"⟩,
              ⟨.name TokenKind.escape, 2, 4, "\\\x7b"⟩, ⟨.name TokenKind.escape, 4, 6, "\\'"⟩,
              ⟨.name TokenKind.singleQuoted, 6, 10, "b\x7d\"$"⟩,
              ⟨.name TokenKind.singleQuoted, 10, 11, "'"⟩],
            ["start"]⟩ := by
  have hd : Dialect.playground ∈ Dialect.registered := by decide
  have hquote : singleQuote ∈ Dialect.playground.quotes := by decide
  obtain ⟨g, hg, hscan⟩ := scanLine_closes_strings hd hquote "a\x7b'b\x7d\"$"
  rw [parts_of_playground_string] at hscan
  exact ⟨hd, hquote, g, hg, hscan⟩

end StringsWitness

end ModalHighlight.Koto
