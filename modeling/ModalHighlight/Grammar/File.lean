import ModalHighlight.Data.Json
import ModalHighlight.Files.Access
import ModalHighlight.Grammar.Compile
import ModalHighlight.Text.Lines

/-!
Grammar files.  A grammar file is a JSON document whose fields are groups.  What is wrong with the file
itself is a complaint; what is wrong with its groups comes out when they are compiled.
-/

namespace ModalHighlight

/-- Groups that are ready to be compiled or still have to be read, and the kind of text that no group names
a kind for. -/
structure GrammarInput where
  table : List (String × GroupSource)
  fallback : Kind

namespace GrammarInput

/-- The input for groups that are ready. -/
def ofGroups (groups : GroupTable) (fallback : Kind) : GrammarInput :=
  ⟨readySources groups, fallback⟩

def compile (input : GrammarInput) : Except CompileError CompiledGrammar :=
  compileSources input.table input.fallback

/-- What is logged on a compilation.  Nothing is logged if the groups could not be read or a pattern stopped
the compilation. -/
def notice? (input : GrammarInput) : Option String :=
  match input.compile with
  | .ok g => some ("compiled " ++ toString g.modes.length ++ " mode(s) from " ++
      toString input.table.length ++ " group(s)")
  | .error (.rejected reports) =>
      some ("grammar rejected with " ++ toString reports.length ++ " diagnostic(s)")
  | .error _ => none

end GrammarInput

/-- Why a grammar file gives no groups.  Only a complaint is told to the user. -/
inductive GrammarFileError
  | complaint (c : Complaint)
  | impossibleName
  | numberTooLong
deriving Repr, DecidableEq

/-- The complaint about a grammar file that holds something else than groups. -/
def notGroupsMessage : String := "expected a JSON object of rule groups"

/-- The groups in the text of a grammar file. -/
def groupsOfText (path : Path) (text : String) :
    Except GrammarFileError (List (String × GroupSource)) :=
  let text := Text.withPlainNewlines text
  match Data.Json.parse text with
  | .error .numberTooLong => .error .numberTooLong
  | .error (.fault cause offset) =>
      .error (.complaint ⟨path, Data.Json.faultMessage text cause offset⟩)
  | .ok (.table fields) => .ok (fields.map fun (name, value) => (name, .value value))
  | .ok _ => .error (.complaint ⟨path, notGroupsMessage⟩)

/-- The groups in what a look at a grammar file gave. -/
def groupsOfFile (path : Path) :
    Except Unavailable String → Except GrammarFileError (List (String × GroupSource))
  | .ok text => groupsOfText path text
  | .error .impossibleName => .error .impossibleName
  | .error why => .error (.complaint ⟨path, why.message path⟩)

end ModalHighlight
