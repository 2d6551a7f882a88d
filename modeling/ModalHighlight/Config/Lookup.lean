import ModalHighlight.Config.Basic
import ModalHighlight.Grammar.File
import ModalHighlight.Koto.Grammar

/-!
Finding configurations, and the grammars that they ask for.  A search starts at a place and climbs from
directory to directory up to the root; the first that holds something under the name of configuration files
ends it.
-/

namespace ModalHighlight.Config

open ModalHighlight

variable {m : Type → Type} [Monad m]

/-- Looks for a configuration file in a directory and in all above it.  The names of the directory come with
the innermost first. -/
def climb (s : Surroundings m) : List String → m (Except ConfigError Path)
  | [] => do
      let candidate : Path := ⟨"/", [fileName]⟩
      match isThere (← s.readPath candidate) with
      | .error why => return .error (.unavailable candidate why)
      | .ok there => return if there then .ok candidate else .error .notFound
  | name :: above => do
      let candidate : Path := ⟨"/", (name :: above).reverse ++ [fileName]⟩
      match isThere (← s.readPath candidate) with
      | .error why => return .error (.unavailable candidate why)
      | .ok there => if there then return .ok candidate else climb s above

/-- Finds the configuration file for a place, which is the working directory unless another is given.  For a
file the search starts in its directory. -/
def find (s : Surroundings m) (start : Option Path) : m (Except ConfigError Path) := do
  let place := (start.getD s.directory).resolve s.directory
  match ← s.readPath place with
  | .error .impossibleName => return .error (.unavailable place .impossibleName)
  | .error .nameTooLong => return .error (.unavailable place .nameTooLong)
  | .ok _ => climb s place.parent.names.reverse
  | .error _ => climb s place.names.reverse

/-- Reads a configuration file. -/
def load (s : Surroundings m) (path : Path) : m (Except ConfigError Config) := do
  return ofFile path (← s.readPath path)

/-- Finds and reads the configuration for a place.  Where there is none the default one holds. -/
def loadOrDefault (s : Surroundings m) (start : Option Path) : m (Except ConfigError Config) := do
  match ← find s start with
  | .error .notFound => return .ok {}
  | .error e => return .error e
  | .ok path =>
      match ← load s path with
      | .error (.unavailable _ .missing) => return .ok {}
      | result => return result

/-- The groups that a configuration asks for: those of its grammar file or of its dialect. -/
def grammarInput (s : Surroundings m) (config : Config) : m (Except GrammarFileError GrammarInput) := do
  match config.grammar with
  | none => return .ok (.ofGroups (Koto.groups config.dialect) config.fallback)
  | some path =>
      match groupsOfFile path (← s.readPath path) with
      | .error e => return .error e
      | .ok table => return .ok ⟨table, config.fallback⟩

end ModalHighlight.Config
