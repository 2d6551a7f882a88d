import ModalHighlight.Text.Quoted

/-!
Dialects of the Koto language.  A dialect is a set of choices, and the registered ones are known by name.
-/

namespace ModalHighlight.Koto

/-- The kind of a name before a colon, unless a dialect says otherwise. -/
def memberName : String := "variable.other.member.koto"

/-- What a dialect has. -/
structure Dialect where
  name : String
  nullLiteral : Bool := true
  flowKeywords : Bool := true
  debugKeyword : Bool := true
  decorators : Bool := true
  sections : Bool := true
  singleQuoted : Bool := true
  richEscapes : Bool := true
  nestedComments : Bool := true
  typedParams : Bool := true
  /-- How expressions stand inside strings: not at all, in braces, or in braces after a dollar sign. -/
  templateStyle : String := "dollar"
  memberKind : String := memberName
deriving Repr, DecidableEq

namespace Dialect

/-- The current language. -/
def standard : Dialect := { name := "default" }

/-- The language before typed parameters, sections and templates. -/
def legacy : Dialect where
  name := "legacy"
  nullLiteral := false
  flowKeywords := false
  debugKeyword := false
  decorators := false
  sections := false
  singleQuoted := false
  richEscapes := false
  typedParams := false
  templateStyle := "none"
  memberKind := "entity.name.function.koto"

/-- The language of the playground: comments do not nest, and templates need no dollar sign. -/
def playground : Dialect where
  name := "playground"
  nestedComments := false
  templateStyle := "brace"

/-- The registered dialects by name. -/
def registered : List Dialect := [standard, legacy, playground]

/-- The names of the registered dialects, in order. -/
def names : List String := registered.map (·.name)

/-- The registered dialect of a name. -/
def ofName? (name : String) : Option Dialect :=
  registered.find? (·.name == name)

/-- The message on a dialect that is not registered, from its display. -/
def unknownMessage (display : String) : String :=
  "unknown dialect " ++ display ++ " (known: " ++ ", ".intercalate names ++ ")"

/-- The dialect has expressions inside strings. -/
def hasTemplates (d : Dialect) : Bool := d.templateStyle != "none"

/-- An opening brace alone starts an expression inside a string. -/
def hasBraceTemplates (d : Dialect) : Bool := d.templateStyle == "brace"

theorem ofName?_name {d : Dialect} (h : d ∈ registered) : ofName? d.name = some d := by
  simp only [registered, List.mem_cons, List.not_mem_nil, or_false] at h
  rcases h with rfl | rfl | rfl <;> rfl

end Dialect

end ModalHighlight.Koto
