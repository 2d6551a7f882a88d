import ModalHighlight.Grammar.Diagnostic

/-!
What can be wrong with a grammar.  Each fault has a code and a message; a report is a fault at a place.
-/

namespace ModalHighlight

/-- A fault of a grammar. -/
inductive Fault
  | unknownGroup (name : String)
  | circularInclude (cycle : List String)
  | kindGroupMismatch (kinds groups : Nat)
  | invalidPattern (display message : String)
  | emptyKind
  | pushAndNext
  | emptyPattern
  | nameClash (name : String)
  | groupNotList (name : String)
  | entryNotTable (typeName : String)
  | entryWithoutKey
  | patternNotText (typeName : String)
  | pushOfWrongType (typeName : String)
deriving Repr, DecidableEq

namespace Fault

def code : Fault → String
  | unknownGroup _ => "G001"
  | circularInclude _ => "G002"
  | kindGroupMismatch _ _ => "G003"
  | invalidPattern _ _ => "G004"
  | _ => "G005"

def message : Fault → String
  | unknownGroup name => "unknown group " ++ name
  | circularInclude cycle => "circular include: " ++ " -> ".intercalate cycle
  | kindGroupMismatch _ _ => "kind/group mismatch"
  | invalidPattern display message => "invalid pattern " ++ display ++ ": " ++ message
  | emptyKind => "malformed rule: empty token kind"
  | pushAndNext => "malformed rule: 'push' and 'next' are exclusive"
  | emptyPattern => "malformed rule: empty pattern"
  | nameClash name => "malformed rule: group name " ++ name ++ " clashes with a push group"
  | groupNotList name => "malformed group " ++ name ++ ": expected a list of rules"
  | entryNotTable typeName => "malformed rule: expected an object, got " ++ typeName
  | entryWithoutKey => "malformed rule: needs 'token' and 'regex', 'include' or 'defaultToken'"
  | patternNotText typeName => "malformed rule: 'regex' must be a string, got " ++ typeName
  | pushOfWrongType typeName =>
      "malformed rule: 'push' must be a group name or a list of rules, got " ++ typeName

def notes : Fault → List String
  | kindGroupMismatch kinds groups =>
      [toString kinds ++ " kinds but the pattern has " ++ toString groups ++ " capturing group(s)"]
  | _ => []

end Fault

/-- A fault and its place; a fault of the grammar as a whole has none. -/
structure Report where
  fault : Fault
  location : Option Location
deriving Repr, DecidableEq

/-- A fault of one entry of a group. -/
def Report.atEntry (fault : Fault) (group : String) (index : Nat) : Report :=
  ⟨fault, some ⟨group, some index⟩⟩

/-- Every fault of a grammar is an error. -/
def Report.diagnostic (r : Report) : Diagnostic where
  severity := .error
  code := r.fault.code
  message := r.fault.message
  location := r.location
  notes := r.fault.notes

end ModalHighlight
