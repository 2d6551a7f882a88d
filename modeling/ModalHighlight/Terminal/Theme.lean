import ModalHighlight.Terminal.Look
import ModalHighlight.TypedText

/-!
Themes, and texts in the colors of a theme.  A token looks as its type does, and a type without a look of its
own looks like the nearest type above it.  A theme has a name, or it is written out as a list of pairs: the
full name of a type and a table of its look.
-/

namespace ModalHighlight

/-- The looks of token types. -/
abbrev Theme := List (TokenType × Look)

namespace Theme

/-- The colors for a light background. -/
def light : Theme :=
  [(⟨["Comment"]⟩, { color := some (.indexed 66), italic := true }),
    (⟨["Keyword"]⟩, { color := some (.indexed 28), bold := true }),
    (⟨["Keyword", "Type"]⟩, .colored 125),
    (⟨["Literal", "Number"]⟩, .colored 241),
    (⟨["Literal", "String"]⟩, .colored 124),
    (⟨["Literal", "String", "Escape"]⟩, { color := some (.indexed 130), bold := true }),
    (⟨["Literal", "String", "Interpol"]⟩, { color := some (.indexed 132), bold := true }),
    (⟨["Name", "Attribute"]⟩, .colored 64),
    (⟨["Name", "Builtin"]⟩, .colored 28),
    (⟨["Name", "Decorator"]⟩, .colored 129),
    (⟨["Name", "Function"]⟩, .colored 21),
    (⟨["Operator"]⟩, .colored 241),
    (⟨["Text", "Whitespace"]⟩, .colored 250)]

/-- Warm colors for a dark background. -/
def monokai : Theme :=
  [(⟨["Comment"]⟩, .colored 245),
    (⟨["Keyword"]⟩, .colored 81),
    (⟨["Keyword", "Namespace"]⟩, .colored 204),
    (⟨["Literal", "Number"]⟩, .colored 141),
    (⟨["Literal", "String"]⟩, .colored 186),
    (⟨["Literal", "String", "Escape"]⟩, .colored 141),
    (⟨["Name", "Attribute"]⟩, .colored 148),
    (⟨["Name", "Builtin"]⟩, .colored 148),
    (⟨["Name", "Decorator"]⟩, .colored 148),
    (⟨["Name", "Function"]⟩, .colored 148),
    (⟨["Operator"]⟩, .colored 204),
    (⟨["Punctuation"]⟩, .colored 255),
    (⟨["Text"]⟩, .colored 255)]

/-- No colors. -/
def blackWhite : Theme :=
  [(⟨["Comment"]⟩, .slanted),
    (⟨["Keyword"]⟩, .strong),
    (⟨["Keyword", "Type"]⟩, .plain),
    (⟨["Literal", "String"]⟩, .slanted),
    (⟨["Literal", "String", "Escape"]⟩, { bold := true, italic := true }),
    (⟨["Literal", "String", "Interpol"]⟩, { bold := true, italic := true })]

/-- The themes by name. -/
def named : List (String × Theme) :=
  [("default", light), ("monokai", monokai), ("bw", blackWhite)]

/-- The theme of a name. -/
def ofName? (name : String) : Option Theme := named.lookup name

/-- The message on a theme that is not known. -/
def unknownMessage (name : String) : String :=
  "Could not find style module " ++ Text.quoted ("pygments.styles." ++ name) ++ "."

end Theme

/-- What is wrong with a value for a theme. -/
inductive ThemeError
  | unknownName (name : String)
  | notList
  | notPairs
  | notLook
  | fieldMissing (name : String)
  | notColor
  | nameTooLong
deriving Repr, DecidableEq

def ThemeError.message : ThemeError → String
  | unknownName name => Theme.unknownMessage name
  | notList => "the style is no list"
  | notPairs => "the style is no list of pairs"
  | notLook => "a look in the style is no table"
  | fieldMissing name => "a look in the style has no " ++ name
  | notColor => "a color in the style is no color"
  | nameTooLong => "a type in the style has too many digits"

namespace Theme

/-- A field that every look has. -/
def lookField (fields : List (String × Value)) (name : String) : Except ThemeError Value :=
  match Value.field? name fields with
  | some value => .ok value
  | none => .error (.fieldMissing name)

/-- The color in the first of two fields that has one. -/
def lookColor (fields : List (String × Value)) (first second : String) :
    Except ThemeError (Option Color) := do
  let colorIn := fun (value : Value) =>
    match Color.ofValue? value with
    | some color => .ok (some color)
    | none => .error .notColor
  let preferred ← lookField fields first
  if preferred.isPresent then colorIn preferred
  else
    let other ← lookField fields second
    if other.isPresent then colorIn other else return none

/-- The look that a table describes. -/
def lookOfFields (fields : List (String × Value)) : Except ThemeError Look := do
  let color ← lookColor fields "ansicolor" "color"
  let behind ← lookColor fields "bgansicolor" "bgcolor"
  let bold ← lookField fields "bold"
  let underline ← lookField fields "underline"
  let italic ← lookField fields "italic"
  return ⟨color, behind, bold.isPresent, underline.isPresent, italic.isPresent⟩

/-- The two parts of a value that is a pair: a list, a table by its keys or a text by its characters. -/
def pairOf : Value → Except ThemeError (Value × Value)
  | .list [first, second] => .ok (first, second)
  | .table [(first, _), (second, _)] => .ok (.str first, .str second)
  | .str text =>
      match text.toList with
      | [first, second] => .ok (.str (String.singleton first), .str (String.singleton second))
      | _ => .error .notPairs
  | .list _ | .table _ => .error .notPairs
  | _ => .error .notList

/-- An entry of a written theme. -/
def entryOf (value : Value) : Except ThemeError (String × Look) := do
  let (type, look) ← pairOf value
  match look with
  | .table fields =>
      let look ← lookOfFields fields
      if type.isDisplayable then return (type.display, look) else .error .nameTooLong
  | _ => .error .notLook

/-- A written theme.  Of several entries on a type the last one counts, and an entry on something that is no
type is passed over. -/
def ofEntries (values : List Value) : Except ThemeError Theme := do
  let entries ← values.mapM entryOf
  return (entries.filterMap fun (name, look) => (TokenType.ofDisplay? name).map (·, look)).reverse

/-- The theme that a value names or holds. -/
def ofValue : Value → Except ThemeError Theme
  | .str name =>
      match ofName? name with
      | some theme => .ok theme
      | none => .error (.unknownName name)
  | .list items => ofEntries items
  | .table fields => ofEntries (fields.map fun (key, _) => .str key)
  | _ => .error .notList

/-- The look of the type at the first `n` names of a path, or of the nearest above it. -/
def lookAbove (theme : Theme) (path : List String) : Nat → Look
  | 0 => .plain
  | n + 1 =>
      match theme.lookup ⟨path.take (n + 1)⟩ with
      | some look => look
      | none => lookAbove theme path n

/-- The look of a type. -/
def lookOf (theme : Theme) (type : TokenType) : Look :=
  lookAbove theme type.path type.path.length

/-- The text of tokens in the looks of a theme. -/
def paint (theme : Theme) (tokens : List TypedToken) : String :=
  String.join (tokens.map fun t => (theme.lookOf t.type).paint t.text)

end Theme

/-- A text as it is shown: without a byte order mark, with plain newlines, without empty lines at its ends,
and with one newline at the end. -/
def shownText (text : String) : String :=
  let chars := match text.toList with
    | '\ufeff' :: rest => rest
    | chars => chars
  let isNewline := fun (c : Char) => c == '\n'
  let body := (Text.universalNewlines chars).dropWhile isNewline
  String.ofList ((body.reverse.dropWhile isNewline).reverse ++ ['\n'])

/-- A text in the looks of a theme. -/
def highlighted (g : CompiledGrammar) (theme : Theme) (text : String) : Except TypingError String :=
  (typedTokens g {} (shownText text)).map theme.paint

end ModalHighlight
