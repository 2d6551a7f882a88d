import ModalHighlight.Grammar.Compile
import ModalHighlight.Koto.Dialect
import ModalHighlight.Pattern.Words

/-!
The highlighting grammar of the Koto language.  All dialects share one table of groups; the choices of a
dialect add, drop or change entries.  The names of groups other than the first start with a number sign.
-/

namespace ModalHighlight.Koto

open ModalHighlight.Pattern (wholeWords)

/-- The pattern of an identifier. -/
def identifier : String := "[A-Za-z_\\u00a1-\\uffff][A-Za-z0-9_\\u00a1-\\uffff]*"

namespace TokenKind

def lineComment : String := "keyword.comment.line.koto"
def blockComment : String := "comment.block.koto"
def escape : String := "constant.character.escape.koto"
def doubleQuoted : String := "string.quoted.double.koto"
def singleQuoted : String := "string.quoted.single.koto"
def template : String := "variable.parameter.koto"
def constant : String := "constant.language.koto"
def self : String := "constant.language.self.koto"
def builtin : String := "support.function.koto"
def control : String := "keyword.control.koto"
def flow : String := "keyword.control.flow.koto"
def conditional : String := "keyword.control.conditional.koto"
def importing : String := "keyword.control.import.koto"
def otherKeyword : String := "keyword.other"
def number : String := "constant.numeric.koto"
def operator : String := "keyword.operator.koto"
def assignment : String := "keyword.operator.assignment.koto"
def curly : String := "punctuation.brackets.curly.koto"
def round : String := "punctuation.brackets.round.koto"
def square : String := "punctuation.brackets.square.koto"
def dot : String := "punctuation.dot.koto"
def comma : String := "punctuation.comma.koto"
def parameters : String := "punctuation.definition.parameters.koto"
def decorator : String := "punctuation.meta.decorator.koto"
def identifier : String := "text.koto"
def punctuation : String := "punctuation.koto"
def storageType : String := "storage.type.koto"
def functionDefinition : String := "keyword.other.function-definition.koto"
def argumentsBegin : String := "punctuation.definition.arguments.begin.koto"
def argumentsEnd : String := "punctuation.definition.arguments.end.koto"
def parameterSeparator : String := "punctuation.separator.parameters.koto"

end TokenKind

/-- A rule that changes no modes. -/
def rule (kind pattern : String) : Entry :=
  .rule [kind] (.text pattern) .nothing none

/-- A rule that gives one token for each of its groups. -/
def multiRule (kinds : List String) (pattern : String) : Entry :=
  .rule kinds (.text pattern) .nothing none

/-- A rule that opens a group written in place. -/
def opening (kind pattern : String) (body : List Entry) : Entry :=
  .rule [kind] (.text pattern) (.inline body) none

/-- A rule that closes the innermost mode. -/
def closing (kind pattern : String) : Entry :=
  .rule [kind] (.text pattern) .nothing (some popWord)

/-- The entry, if it is wanted. -/
def onlyIf (wanted : Bool) (entry : Entry) : List Entry :=
  if wanted then [entry] else []

def constantWords (d : Dialect) : List String :=
  ["false", "true"] ++ if d.nullLiteral then ["null"] else []

def controlWords : List String :=
  ["catch", "finally", "for", "in", "loop", "throw", "try", "until", "while"]

def flowWords : List String := ["break", "continue", "return", "yield"]

/-- The words that leave a function, which are control words where flow words are not told apart. -/
def leavingWords : List String := ["return", "yield"]

def builtinWords : List String := ["assert", "assert_eq", "assert_ne", "assert_near"]

def conditionalWords : List String := ["else", "if", "match", "switch", "then"]

def importWords : List String := ["export", "from", "import"]

def operatorWords : List String := ["and", "not", "or"]

def keywordGroup (d : Dialect) : List Entry :=
  [rule TokenKind.constant (wholeWords (constantWords d)),
    rule TokenKind.self "\\bself\\b",
    rule TokenKind.builtin (wholeWords builtinWords)] ++
  (if d.flowKeywords then
    [rule TokenKind.control (wholeWords controlWords), rule TokenKind.flow (wholeWords flowWords)]
  else [rule TokenKind.control (wholeWords (controlWords ++ leavingWords))]) ++
  [rule TokenKind.conditional (wholeWords conditionalWords),
    rule TokenKind.importing (wholeWords importWords)] ++
  onlyIf d.debugKeyword (rule TokenKind.otherKeyword "\\bdebug\\b")

/-- Numbers: the forms with a letter first, then fractions and exponents, so that no form takes the
digits of another. -/
def numberGroup : List Entry :=
  [rule TokenKind.number "-?\\b0x[0-9a-fA-F]+\\b",
    rule TokenKind.number "-?\\b0o[0-7]+\\b",
    rule TokenKind.number "-?\\b0b[01]+\\b",
    rule TokenKind.number "-?\\b[0-9]+(?:\\.[0-9]+(?:e[-+]?[0-9]+)?|e[-+]?[0-9]+)\\b",
    rule TokenKind.number "-?\\b[0-9]+\\b"]

def operatorGroup : List Entry :=
  [rule TokenKind.operator (wholeWords operatorWords),
    rule TokenKind.operator "\\+=|-=|\\*=|/=|%=",
    rule TokenKind.operator "==?|!=|<=?|>=?",
    rule TokenKind.operator "\\+|-|%|\\*|/",
    rule TokenKind.operator "\\.\\.=?"]

def punctuationGroup (d : Dialect) : List Entry :=
  [rule TokenKind.round "\\(|\\)"] ++
  onlyIf (!d.sections) (rule TokenKind.curly "\\\x7b|\\\x7d") ++
  onlyIf (!d.sections) (rule TokenKind.square "\\[|\\]") ++
  [rule TokenKind.dot "\\.", rule TokenKind.comma ","] ++
  onlyIf (!d.typedParams) (rule TokenKind.parameters "\\|") ++
  [rule TokenKind.decorator (if d.decorators then "@(?:" ++ identifier ++ ")?" else "@")]

/-- The body of a bracketed region: its closing bracket, and the whole language inside. -/
def regionBody (kind close : String) : List Entry :=
  [closing kind close, .includeGroup "#all", .defaultKind kind]

def sectionGroup : List Entry :=
  [opening TokenKind.curly "\\\x7b" (regionBody TokenKind.curly "\\\x7d"),
    opening TokenKind.square "\\[" (regionBody TokenKind.square "\\]")]

/-- A string in a quote, with its escapes and, where the dialect has them, its templates. -/
def stringGroup (d : Dialect) (kind quote : String) : List Entry :=
  [opening kind quote
    ([closing kind quote,
        if d.richEscapes then .includeGroup "#string-escape" else rule TokenKind.escape "\\\\."] ++
      onlyIf d.hasTemplates (.includeGroup "#string-template") ++ [.defaultKind kind])]

def stringEscapeGroup (d : Dialect) : List Entry :=
  let escaped := "'$rnt\"\\\\" ++ if d.hasBraceTemplates then "\x7b" else ""
  [rule TokenKind.escape ("\\\\[" ++ escaped ++ "]"),
    rule TokenKind.escape "\\\\$",
    rule TokenKind.escape "\\\\x[0-9a-fA-F]\x7b2\x7d",
    rule TokenKind.escape "\\\\u\\\x7b[0-9a-fA-F]\x7b1,6\x7d\\\x7d"]

def stringTemplateGroup (d : Dialect) : List Entry :=
  let expression := regionBody TokenKind.template "\\\x7d"
  if d.hasBraceTemplates then [opening TokenKind.template "\\\x7b" expression]
  else
    [opening TokenKind.template "\\$\\\x7b" expression,
      rule TokenKind.template ("\\$" ++ identifier)]

/-- The groups for typed names, bindings and functions. -/
def typedGroups : GroupTable :=
  [("#id_with_type",
      [multiRule [TokenKind.identifier, TokenKind.punctuation, TokenKind.storageType]
        ("(" ++ identifier ++ ")(?:(\\s*:\\s*)(" ++ identifier ++ "\\??))?")]),
    ("#let",
      [opening TokenKind.control "\\blet\\b"
        [closing TokenKind.assignment "=", .includeGroup "#id_with_type"]]),
    ("#function",
      [opening TokenKind.functionDefinition "\\|"
        [closing TokenKind.functionDefinition "\\|", .includeGroup "#function_arguments",
          .includeGroup "#return_type"]]),
    ("#function_arguments",
      [opening TokenKind.argumentsBegin "\\("
          [closing TokenKind.argumentsEnd "\\)", .includeGroup "#function_arguments"],
        rule TokenKind.parameterSeparator ",",
        .includeGroup "#id_with_type"]),
    ("#return_type",
      [multiRule [textKind, TokenKind.storageType] ("(->\\s*)(" ++ identifier ++ ")")])]

/-- The body of a block comment, inside which others may open. -/
def commentBody (d : Dialect) : List Entry :=
  [closing TokenKind.blockComment "-#", rule TokenKind.escape "\\\\."] ++
  onlyIf d.nestedComments (.includeGroup "#comment-block") ++
  [.defaultKind TokenKind.blockComment]

/-- Everything that may stand outside strings and comments, in the order in which it is tried. -/
def allGroup (d : Dialect) : List Entry :=
  [.includeGroup "#comment-block", rule TokenKind.lineComment "#.*", .includeGroup "#keyword",
    .includeGroup "#number"] ++
  onlyIf d.typedParams (.includeGroup "#return_type") ++
  [.includeGroup "#operator", .includeGroup "#punctuation"] ++
  onlyIf d.sections (.includeGroup "#section") ++
  [.includeGroup "#string"] ++
  onlyIf d.typedParams (.includeGroup "#let") ++
  onlyIf d.typedParams (.includeGroup "#function") ++
  [.includeGroup "#identifier"]

/-- The groups of a dialect. -/
def groups (d : Dialect) : GroupTable :=
  [(startName, [.includeGroup "#all"]),
    ("#all", allGroup d),
    ("#comment-block", [opening TokenKind.blockComment "#-" (commentBody d)]),
    ("#keyword", keywordGroup d),
    ("#number", numberGroup),
    ("#operator", operatorGroup),
    ("#punctuation", punctuationGroup d),
    ("#string",
      onlyIf d.singleQuoted (.includeGroup "#string-single-quoted") ++
        [.includeGroup "#string-double-quoted"]),
    ("#string-double-quoted", stringGroup d TokenKind.doubleQuoted "\""),
    ("#identifier",
      [rule d.memberKind (identifier ++ "(?=:)"), rule TokenKind.identifier identifier])] ++
  (if d.singleQuoted then
    [("#string-single-quoted", stringGroup d TokenKind.singleQuoted "'")] else []) ++
  (if d.richEscapes then [("#string-escape", stringEscapeGroup d)] else []) ++
  (if d.hasTemplates then [("#string-template", stringTemplateGroup d)] else []) ++
  (if d.sections then [("#section", sectionGroup)] else []) ++
  (if d.typedParams then typedGroups else [])

/-- The grammar of a dialect. -/
def grammar (d : Dialect) : Except CompileError CompiledGrammar :=
  compileGroups (groups d) (.name textKind)

end ModalHighlight.Koto
