import ModalHighlight.Koto.Grammar
import ModalHighlight.Proofs.Pattern.WholeWords
import ModalHighlight.Proofs.Scan.Failure

/-!
What the grammars of the registered dialects hold for comments, words and numbers.  The rules inside a comment
and the rules of numbers are the same few in every dialect and are given here as they are.  Of the other rules
it is enough to know which characters their matches begin with, and, for those of words, which words they
match.  The patterns of each dialect are read here once for all of this.
-/

namespace ModalHighlight.Koto

open Pattern

def commentMode : String := "#comment-block/0"

/-- The rules inside a block comment: its end, an escaped character, and, where comments nest, the start of
another. -/
def commentRules (nested : Bool) : List CompiledRule :=
  [⟨[TokenKind.blockComment], ⟨"-#", .cat (.ofChar '-') (.ofChar '#'), 0, false⟩, .pop⟩,
    ⟨[TokenKind.escape], ⟨"\\\\.", .cat (.ofChar '\\') (.char .notNewline), 0, false⟩, .stay⟩] ++
  if nested then
    [⟨[TokenKind.blockComment], ⟨"#-", .cat (.ofChar '#') (.ofChar '-'), 0, false⟩, .push commentMode⟩]
  else []

/-- The characters that a name starts with. -/
def nameStart : List ClassItem := [.range 65 90, .range 97 122, .code 95, .range 161 65535]

/-- The characters that a name goes on with. -/
def namePart : List ClassItem := [.range 65 90, .range 97 122, .range 48 57, .code 95, .range 161 65535]

/-- The rest of a name, after its first character. -/
def nameRest : Node := .repeatChar (.oneOf namePart .exact false) 0 none .greedy

def nameNode : Node := .cat (.char (.oneOf nameStart .exact false)) nameRest

/-- A name before a colon. -/
def memberNode : Node :=
  .cat (.char (.oneOf nameStart .exact false)) (.cat nameRest (.look .ahead false (.ofChar ':')))

/-- Reserved words that become tokens of one kind. -/
structure WordClass where
  kind : String
  words : List String
  transition : Transition := .stay
deriving Repr, DecidableEq

/-- The reserved words of a dialect by their classes, in the order in which they are tried. -/
def Dialect.wordClasses (d : Dialect) : List WordClass :=
  [{ kind := TokenKind.constant, words := constantWords d },
    { kind := TokenKind.self, words := ["self"] },
    { kind := TokenKind.builtin, words := builtinWords }] ++
  (if d.flowKeywords then
    [{ kind := TokenKind.control, words := controlWords }, { kind := TokenKind.flow, words := flowWords }]
  else [{ kind := TokenKind.control, words := controlWords ++ leavingWords }]) ++
  [{ kind := TokenKind.conditional, words := conditionalWords },
    { kind := TokenKind.importing, words := importWords }] ++
  (if d.debugKeyword then [{ kind := TokenKind.otherKeyword, words := ["debug"] }] else []) ++
  [{ kind := TokenKind.operator, words := operatorWords }] ++
  (if d.typedParams then
    [{ kind := TokenKind.control, words := ["let"], transition := .push "#let/0" }] else [])

/-- A rule takes the words of a class. -/
def takesWords (r : CompiledRule) (c : WordClass) : Bool :=
  decide (r.kinds = [c.kind]) && decide (r.transition = c.transition) &&
    r.pattern.matchesWholeWords (c.words.map String.toList)

/-- Rules take the words of classes one after another, then a name before a colon, then any name. -/
def takesNames (d : Dialect) : List WordClass → List CompiledRule → Bool
  | c :: classes, r :: rules => takesWords r c && takesNames d classes rules
  | [], [member, name] =>
      decide (member.kinds = [d.memberKind] ∧ member.transition = .stay ∧ member.pattern.traced = false ∧
        member.pattern.node = memberNode) &&
      decide (name.kinds = [TokenKind.identifier] ∧ name.transition = .stay ∧ name.pattern.traced = false ∧
        name.pattern.node = nameNode)
  | _, _ => false

/-- The rules whose matches can begin as a name does. -/
def nameRules (rules : List CompiledRule) : List CompiledRule :=
  rules.filter fun r => !r.pattern.avoids nameStart

def digits (items : List ClassItem) : Node := .repeatChar (.oneOf items .exact false) 1 none .greedy

def decimalItems : List ClassItem := [.range 48 57]

def wordEnd : Node := .anchor (.wordBoundary false)

/-- A number with or without a minus sign. -/
def signed (number : Node) : Node :=
  .cat (.repeatChar (.code 45 .exact false) 0 (some 1) .greedy) (.cat wordEnd number)

/-- Digits of another base after a zero and the letter of the base. -/
def prefixedNode (letter : Char) (items : List ClassItem) : Node :=
  .cat (.ofChar '0') (.cat (.ofChar letter) (.cat (digits items) wordEnd))

def exponentNode : Node :=
  .cat (.ofChar 'e') (.cat (.repeatChar (.oneOf [.code 45, .code 43] .exact false) 0 (some 1) .greedy)
    (digits decimalItems))

def fractionNode : Node :=
  .cat (.ofChar '.') (.cat (digits decimalItems) (.repeatNode exponentNode 0 (some 1) .greedy))

/-- Decimal digits with a fraction or an exponent or both. -/
def fractionalNode : Node :=
  .cat (digits decimalItems) (.cat (.alt fractionNode (.alt exponentNode .never)) wordEnd)

def integerNode : Node := .cat (digits decimalItems) wordEnd

/-- The forms of numbers without a minus sign, in order, with the patterns that they belong to. -/
def numberForms : List (String × Node) :=
  [("-?\\b0x[0-9a-fA-F]+\\b", prefixedNode 'x' [.range 48 57, .range 97 102, .range 65 70]),
    ("-?\\b0o[0-7]+\\b", prefixedNode 'o' [.range 48 55]),
    ("-?\\b0b[01]+\\b", prefixedNode 'b' [.code 48, .code 49]),
    ("-?\\b[0-9]+(?:\\.[0-9]+(?:e[-+]?[0-9]+)?|e[-+]?[0-9]+)\\b", fractionalNode),
    ("-?\\b[0-9]+\\b", integerNode)]

def numberRule (form : String × Node) : CompiledRule :=
  ⟨[TokenKind.number], ⟨form.1, signed form.2, 0, false⟩, .stay⟩

/-- The rules of numbers, in order. -/
def numberRules : List CompiledRule :=
  numberForms.map numberRule

/-- The characters that a number starts with. -/
def numberStart : List Char := '-' :: "0123456789".toList

/-- The rules whose matches can begin as a number does. -/
def rulesOnNumbers (rules : List CompiledRule) : List CompiledRule :=
  rules.filter fun r => numberStart.any r.pattern.canBegin

/-- A mode outside strings and comments reads words and numbers in this way, and passes blanks over. -/
structure ReadsCode (d : Dialect) (rules : List CompiledRule) : Prop where
  names : takesNames d d.wordClasses (nameRules rules) = true
  numbers : numberRules <+: rulesOnNumbers rules
  blanks : ∀ r ∈ rules, r.pattern.canBegin ' ' = false

instance (d : Dialect) (rules : List CompiledRule) : Decidable (ReadsCode d rules) :=
  decidable_of_iff (takesNames d d.wordClasses (nameRules rules) = true ∧
      numberRules <+: rulesOnNumbers rules ∧ ∀ r ∈ rules, r.pattern.canBegin ' ' = false)
    ⟨fun ⟨hnames, hnumbers, hblanks⟩ => ⟨hnames, hnumbers, hblanks⟩, fun h => ⟨h.names, h.numbers, h.blanks⟩⟩

/-- What a dialect's grammar is known to hold. -/
def Dialect.isReadable (d : Dialect) : Bool :=
  match grammar d with
  | .error _ => false
  | .ok g =>
      match g.mode? startName with
      | none => false
      | some start =>
          decide (start.defaultKind = none) && decide (ReadsCode d start.rules) &&
            decide (g.mode? commentMode =
              some ⟨commentMode, commentRules d.nestedComments, some TokenKind.blockComment⟩) &&
            g.modes.all fun mode => mode.rules.all fun r =>
              decide (r.transition ≠ .push popWord ∧ r.pattern.traced = false)

/-- The patterns of the registered dialects are read here. -/
theorem isReadable_of_mem_registered {d : Dialect} (h : d ∈ Dialect.registered) : d.isReadable = true := by
  simp only [Dialect.registered, List.mem_cons, List.not_mem_nil, or_false] at h
  rcases h with rfl | rfl | rfl <;> decide +kernel

/-- The grammar of a dialect and its first mode, with what is known about them. -/
structure Dialect.Reads (d : Dialect) (g : CompiledGrammar) (start : Mode) : Prop where
  compiles : grammar d = .ok g
  start_eq : g.mode? startName = some start
  kind_eq : g.defaultKind start = .name textKind
  code : ReadsCode d start.rules
  comment_eq : g.mode? commentMode =
    some ⟨commentMode, commentRules d.nestedComments, some TokenKind.blockComment⟩
  untraced : ∀ r ∈ start.rules, r.pattern.traced = false
  scans : ∀ line stack, ∃ result, scanLine g line stack = .ok result

theorem exists_reads {d : Dialect} (h : d ∈ Dialect.registered) : ∃ g start, d.Reads g start := by
  have hreadable := isReadable_of_mem_registered h
  unfold Dialect.isReadable at hreadable
  split at hreadable
  · cases hreadable
  · rename_i g hg
    split at hreadable
    · cases hreadable
    · rename_i start hstart
      simp only [Bool.and_eq_true, decide_eq_true_eq, List.all_eq_true] at hreadable
      obtain ⟨⟨⟨hdefault, hcode⟩, hcomment⟩, hrules⟩ := hreadable
      refine ⟨g, start, hg, hstart, ?_, hcode, hcomment, ?_, ?_⟩
      · rw [CompiledGrammar.defaultKind, hdefault]
        exact fallback_of_compileGroups hg
      · exact fun r hr => (hrules start (mem_modes_of_mode?_eq_some hstart) r hr).2
      · refine exists_scanLine_eq_ok (sound_of_compileGroups hg) ?_ ?_
        · exact fun mode hmode r hr hword => absurd hword (hrules mode hmode r hr).1
        · rintro ⟨mode, hmode, r, hr, htraced⟩
          rw [(hrules mode hmode r hr).2] at htraced
          cases htraced

end ModalHighlight.Koto
