import ModalHighlight.Grammar.Mode
import ModalHighlight.Text.LetterCase
import ModalHighlight.Text.Segments

/-!
Token types and the table that assigns them to kinds.  Kinds are dotted names, and the longest entry of
the table that a kind starts with, segment by segment, decides its type.
-/

namespace ModalHighlight

/-- A token type: the path of names that leads to it from the root. -/
structure TokenType where
  path : List String
deriving Repr, DecidableEq

namespace TokenType

/-- The full name of a type. -/
def display (t : TokenType) : String :=
  ".".intercalate ("Token" :: t.path)

/-- The type of a full name. -/
def ofDisplay? (name : String) : Option TokenType :=
  match (Text.segments '.' name.toList).map String.ofList with
  | "Token" :: path => some ⟨path⟩
  | _ => none

/-- One step from a type, up to its parent or to a type below it, whose name begins with a capital.  From the
root the name of the root leads nowhere, and texts and numbers are found among the literals. -/
def step? (t : TokenType) (name : String) : Option TokenType :=
  match name.toList with
  | [] => none
  | first :: _ =>
      if name = "parent" then if t.path = [] then none else some ⟨t.path.dropLast⟩
      else if !Text.isCapital first.toNat then none
      else if t.path = [] ∧ name = "Token" then some t
      else if t.path = [] ∧ (name = "String" ∨ name = "Number") then some ⟨["Literal", name]⟩
      else some ⟨t.path ++ [name]⟩

/-- The type that a dotted name leads to from the root; the empty name stands for the root. -/
def ofName? (name : String) : Option TokenType :=
  if name = "" then some ⟨[]⟩
  else ((Text.segments '.' name.toList).map String.ofList).foldlM step? ⟨[]⟩

def text : TokenType := ⟨["Text"]⟩
def whitespace : TokenType := ⟨["Text", "Whitespace"]⟩

end TokenType

/-- Token types by dotted name. -/
abbrev StyleTable := List (String × TokenType)

/-- The types of the kinds that the built-in grammars use. -/
def defaultStyles : StyleTable :=
  [("comment", ⟨["Comment"]⟩),
    ("comment.block", ⟨["Comment", "Multiline"]⟩),
    ("keyword.comment", ⟨["Comment", "Single"]⟩),
    ("constant.character.escape", ⟨["Literal", "String", "Escape"]⟩),
    ("constant.language", ⟨["Keyword", "Constant"]⟩),
    ("constant.language.self", ⟨["Name", "Builtin", "Pseudo"]⟩),
    ("constant.numeric", ⟨["Literal", "Number"]⟩),
    ("entity.name.function", ⟨["Name", "Function"]⟩),
    ("keyword", ⟨["Keyword"]⟩),
    ("keyword.control.import", ⟨["Keyword", "Namespace"]⟩),
    ("keyword.operator", ⟨["Operator"]⟩),
    ("keyword.other.function-definition", ⟨["Keyword", "Declaration"]⟩),
    ("punctuation", ⟨["Punctuation"]⟩),
    ("punctuation.meta.decorator", ⟨["Name", "Decorator"]⟩),
    ("storage.type", ⟨["Keyword", "Type"]⟩),
    ("string", ⟨["Literal", "String"]⟩),
    ("string.quoted.double", ⟨["Literal", "String", "Double"]⟩),
    ("string.quoted.single", ⟨["Literal", "String", "Single"]⟩),
    ("support.function", ⟨["Name", "Builtin"]⟩),
    ("text", ⟨["Text"]⟩),
    ("variable.other.member", ⟨["Name", "Attribute"]⟩),
    ("variable.parameter", ⟨["Literal", "String", "Interpol"]⟩)]

/-- The type of the longest entry made of the first `n` segments or fewer, but at least one. -/
def longestEntry (table : StyleTable) (parts : List (List Char)) : Nat → Option TokenType
  | 0 => none
  | n + 1 =>
      match table.lookup (String.ofList (Text.joinSegments '.' (parts.take (n + 1)))) with
      | some t => some t
      | none => longestEntry table parts n

/-- A table with the type of the kinds that it has no entry for. -/
structure StyleMap where
  table : StyleTable := defaultStyles
  fallback : TokenType := TokenType.text

/-- Why a kind has no type: it is no name.  A list or a table cannot even be looked up. -/
inductive StyleError
  | notName
  | notHashable
deriving Repr, DecidableEq

namespace StyleMap

/-- The type of a dotted name. -/
def typeOf (m : StyleMap) (kind : String) : TokenType :=
  let parts := Text.segments '.' kind.toList
  (longestEntry m.table parts parts.length).getD m.fallback

/-- The types asked for so far, by kind. -/
abbrev Memory := List (String × TokenType)

/-- The type of a dotted name, remembered or looked up. -/
def ask (m : StyleMap) (kind : String) (memory : Memory) : TokenType × Memory :=
  match memory.lookup kind with
  | some t => (t, memory)
  | none => let t := m.typeOf kind; (t, (kind, t) :: memory)

/-- The types of several kinds, asked for one after another. -/
def typesOf (m : StyleMap) : List String → Memory → List TokenType
  | [], _ => []
  | kind :: rest, memory =>
      let (t, memory) := m.ask kind memory
      t :: m.typesOf rest memory

/-- The type of a kind, which may fail to be a name. -/
def typeOfKind (m : StyleMap) : Kind → Except StyleError TokenType
  | .name s => .ok (m.typeOf s)
  | .data (.list _) | .data (.table _) => .error .notHashable
  | .data _ => .error .notName

end StyleMap

end ModalHighlight
