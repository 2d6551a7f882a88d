import ModalHighlight.Data.Toml
import ModalHighlight.Files.Access
import ModalHighlight.Grammar.Mode
import ModalHighlight.Koto.Dialect

/-!
Configurations.  A configuration file has a section on highlighting and one on output; all other sections
and fields are passed over.  Of the values only the dialect and the place of the grammar are checked, since
the others are used as they stand.
-/

namespace ModalHighlight

/-- How texts are highlighted and shown. -/
structure Config where
  dialect : Koto.Dialect := .standard
  /-- The grammar file that takes the place of the dialect's grammar. -/
  grammar : Option Path := none
  fallback : Kind := .name textKind
  style : Value := .str "default"
  color : Value := .bool true

/-- Why there is no configuration.  A complaint is told to the user, and a configuration that is nowhere to
be found is replaced by the default one. -/
inductive ConfigError
  | complaint (c : Complaint)
  | notFound
  | unavailable (path : Path) (why : Unavailable)
  | numberTooLong
  | sectionNotTable (name : String)
  | dialectNotName
  | grammarNotPath
deriving Repr, DecidableEq

namespace Config

/-- The name of configuration files. -/
def fileName : String := "koto-highlight.toml"

/-- The message on a configuration that is nowhere to be found. -/
def notFoundMessage : String := "No " ++ fileName ++ " found in any parent directory"

/-- The fields of a section, if the document has it. -/
def section? (name : String) (fields : List (String × Value)) :
    Except ConfigError (Option (List (String × Value))) :=
  match Value.field? name fields with
  | none => .ok none
  | some (.table inner) => .ok (some inner)
  | some _ => .error (.sectionNotTable name)

/-- The registered dialect that a value names. -/
def dialectOf (path : Path) (value : Value) : Except ConfigError Koto.Dialect :=
  let unknown :=
    if value.isDisplayable then
      .error (.complaint ⟨path, Koto.Dialect.unknownMessage value.quotedDisplay⟩)
    else .error .numberTooLong
  match value with
  | .list _ | .table _ => .error .dialectNotName
  | .str name =>
      match Koto.Dialect.ofName? name with
      | some d => .ok d
      | none => unknown
  | _ => unknown

/-- The grammar file that a value names, as seen from the configuration file.  A value that counts as absent
names none. -/
def grammarOf (path : Path) : Option Value → Except ConfigError (Option Path)
  | none => .ok none
  | some value =>
      if value.isPresent then
        match value with
        | .str name => .ok (some ((Path.ofText name).within path.parent))
        | _ => .error .grammarNotPath
      else .ok none

/-- Takes the section on highlighting over. -/
def withHighlight (config : Config) (path : Path) (fields : List (String × Value)) :
    Except ConfigError Config := do
  let dialect ← dialectOf path ((Value.field? "dialect" fields).getD (.str Koto.Dialect.standard.name))
  let grammar ← grammarOf path (Value.field? "grammar" fields)
  let fallback := (Value.field? "fallback_kind" fields).getD (.str textKind)
  return { config with dialect, grammar, fallback := .ofValue fallback }

/-- Takes the section on output over. -/
def withOutput (config : Config) (fields : List (String × Value)) : Config :=
  { config with
    style := (Value.field? "style" fields).getD (.str "default")
    color := (Value.field? "color" fields).getD (.bool true) }

/-- The configuration that the fields of a document stand for. -/
def ofFields (path : Path) (fields : List (String × Value)) : Except ConfigError Config := do
  let config ← match ← section? "highlight" fields with
    | some inner => withHighlight {} path inner
    | none => .ok {}
  match ← section? "output" fields with
  | some inner => return config.withOutput inner
  | none => return config

/-- The configuration in the text of a configuration file. -/
def ofText (path : Path) (text : String) : Except ConfigError Config :=
  match Data.Toml.parse text with
  | .error .numberTooLong => .error .numberTooLong
  | .error (.fault cause offset) =>
      .error (.complaint ⟨path, Data.Toml.messageIn text cause offset⟩)
  | .ok fields => ofFields path fields

/-- The configuration in what a look at a configuration file gave. -/
def ofFile (path : Path) : Except Unavailable String → Except ConfigError Config
  | .ok text => ofText path text
  | .error why => .error (.unavailable path why)

end Config

end ModalHighlight
