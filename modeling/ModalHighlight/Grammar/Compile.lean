import ModalHighlight.Grammar.Hoist
import ModalHighlight.Grammar.Mode
import ModalHighlight.Grammar.Reader
import ModalHighlight.Pattern.Parser

/-!
Compiling rule groups.  Inline groups are named, every rule is checked by itself, and includes are
replaced by the rules they stand for.  All faults of a table are reported together.  A pattern that
cannot be read for a reason other than its wording stops the compilation at once.
-/

namespace ModalHighlight

/-- Why a rule cannot be used. -/
inductive RuleError
  | faulty (fault : Fault)
  | stopped (failure : Pattern.Failure)

/-- Why a table does not compile: it could not be read, for malformed parts or for a number that is too long,
it has faults, or a pattern stopped it. -/
inductive CompileError
  | unreadable (reports : List Report)
  | numberTooLong
  | rejected (reports : List Report)
  | stopped (failure : Pattern.Failure)

/-- The message on a pattern that is no text.  Collections fail before their type is looked at. -/
def notTextMessage : Value → String
  | .list _ => "unhashable type: 'list'"
  | .table _ => "unhashable type: 'dict'"
  | _ => "first argument must be string or compiled pattern"

/-- The pattern of a rule, or what is wrong with it. -/
def PatternSource.compile : PatternSource → Except RuleError Pattern
  | .ready pattern => .ok pattern
  | .text s =>
      if s = "" then .error (.faulty .emptyPattern)
      else
        match Pattern.parse s with
        | .ok pattern => .ok pattern
        | .error (.refused cause position) =>
            .error (.faulty (.invalidPattern (Text.quoted s) (Pattern.refusalMessage s cause position)))
        | .error failure => .error (.stopped failure)
  | .other value =>
      if value.isPresent then
        if value.isDisplayable then
          .error (.faulty (.invalidPattern value.quotedDisplay (notTextMessage value)))
        else .error (.stopped .numberTooLong)
      else .error (.faulty .emptyPattern)

/-- The name of a group to open or to go on with, if the table lacks it. -/
def unknownTarget? (names : List String) (push next : Option String) : Option String :=
  (push.toList ++ next.toList).find? fun target => target != popWord && !names.contains target

/-- A rule by itself.  Its first fault counts. -/
def FlatRule.compile (names : List String) (r : FlatRule) : Except RuleError CompiledRule :=
  if r.kinds.isEmpty || r.kinds.contains "" then .error (.faulty .emptyKind)
  else if r.push.isSome && r.next.isSome then .error (.faulty .pushAndNext)
  else
    match unknownTarget? names r.push r.next with
    | some target => .error (.faulty (.unknownGroup target))
    | none =>
        match r.pattern.compile with
        | .error e => .error e
        | .ok pattern =>
            if 1 < r.kinds.length ∧ pattern.groupCount ≠ r.kinds.length then
              .error (.faulty (.kindGroupMismatch r.kinds.length pattern.groupCount))
            else .ok ⟨r.kinds, pattern, .ofRule r.push r.next⟩

/-- An entry whose rule has been checked; a faulty rule leaves only its place. -/
inductive CheckedEntry
  | rule (r : CompiledRule)
  | faulty
  | includeGroup (name : String)
  | defaultKind (kind : String)

abbrev CheckedTable := List (String × List CheckedEntry)

/-- An entry of a group, with the report on its rule if there is one. -/
def checkEntry (names : List String) (group : String) (index : Nat) :
    FlatEntry → Except Pattern.Failure (CheckedEntry × List Report)
  | .rule r =>
      match r.compile names with
      | .ok compiled => .ok (.rule compiled, [])
      | .error (.faulty fault) => .ok (.faulty, [.atEntry fault group index])
      | .error (.stopped failure) => .error failure
  | .includeGroup name => .ok (.includeGroup name, [])
  | .defaultKind kind => .ok (.defaultKind kind, [])

/-- The entries of a group, counted from an index on, with the reports on its rules. -/
def checkEntries (names : List String) (group : String) (index : Nat) :
    List FlatEntry → Except Pattern.Failure (List CheckedEntry × List Report)
  | [] => .ok ([], [])
  | entry :: rest => do
      let (checked, reports) ← checkEntry names group index entry
      let (more, moreReports) ← checkEntries names group (index + 1) rest
      return (checked :: more, reports ++ moreReports)

/-- All groups, with the reports on their rules. -/
def checkTable (names : List String) :
    FlatTable → Except Pattern.Failure (CheckedTable × List Report)
  | [] => .ok ([], [])
  | (name, entries) :: rest => do
      let (checked, reports) ← checkEntries names name 0 entries
      let (more, moreReports) ← checkTable names rest
      return ((name, checked) :: more, reports ++ moreReports)

/-- What is known while includes are replaced: finished groups, reports in the order in which they
arose, and the sets of groups whose cycles have been reported. -/
structure Flattening where
  finished : List (String × List CompiledRule)
  reports : List Report
  cycles : List (List String)

namespace Flattening

def report (s : Flattening) (r : Report) : Flattening :=
  { s with reports := s.reports ++ [r] }

/-- Records the rules of a group. -/
def finish (s : Flattening) (group : String) (rules : List CompiledRule) : Flattening :=
  { s with finished := s.finished ++ [(group, rules)] }

/-- Two lists have the same members. -/
def sameMembers (a b : List String) : Bool :=
  a.all b.contains && b.all a.contains

/-- Reports the cycle that leads from `target` along the path back to it, unless one through the same
groups has been reported. -/
def reportCycle (s : Flattening) (path : List String) (target group : String) (index : Nat) :
    Flattening :=
  let cycle := path.dropWhile (· != target)
  if s.cycles.any (sameMembers cycle) then s
  else
    { s with cycles := cycle :: s.cycles }.report
      (.atEntry (.circularInclude (cycle ++ [target])) group index)

end Flattening

section

variable (table : CheckedTable)

/-- The entries of a group. -/
def entriesOf (group : String) : List CheckedEntry :=
  (table.lookup group).getD []

/-- Adds what an entry of a group stands for to the rules found before it.  `visit` replaces the includes
of another group, and `path` holds the groups that led here. -/
def flattenEntry (visit : String → Flattening → List CompiledRule × Flattening)
    (path : List String) (group : String) :
    List CompiledRule × Flattening → CheckedEntry × Nat → List CompiledRule × Flattening
  | (found, s), (.rule r, _) => (found ++ [r], s)
  | (found, s), (.includeGroup target, index) =>
      if (table.lookup target).isNone then
        (found, s.report (.atEntry (.unknownGroup target) group index))
      else if target = group ∨ target ∈ path then
        (found, s.reportCycle (path ++ [group]) target group index)
      else
        let (rules, s) := visit target s
        (found ++ rules, s)
  | found, _ => found

/-- The rules of a group with its includes replaced.  `path` holds the groups that led here; as they are
distinct groups of the table, the table's length bounds the depth. -/
def flatten : Nat → List String → String → Flattening → List CompiledRule × Flattening
  | 0, _, _, s => ([], s)
  | n + 1, path, group, s =>
      match s.finished.lookup group with
      | some rules => (rules, s)
      | none =>
          let (rules, s) := (entriesOf table group).zipIdx.foldl
            (flattenEntry table (flatten n (path ++ [group])) path group) ([], s)
          (rules, s.finish group rules)

/-- Replaces the includes of all groups in turn. -/
def flattenAll : Flattening :=
  (table.map (·.1)).foldl (fun s group => (flatten table (table.length + 1) [] group s).2) ⟨[], [], []⟩

end

/-- The kind that the first default of a group names. -/
def firstDefault? (entries : List CheckedEntry) : Option String :=
  entries.findSome? fun
    | .defaultKind kind => some kind
    | _ => none

/-- The mode of each group of a table, given its finished rules. -/
def modesOf (table : CheckedTable) (finished : List (String × List CompiledRule)) : List Mode :=
  table.map fun (name, entries) =>
    ⟨name, (finished.lookup name).getD [], firstDefault? entries⟩

/-- Compiles a table of groups. -/
def compileGroups (groups : GroupTable) (fallback : Kind) : Except CompileError CompiledGrammar :=
  let (flat, clashes) := hoist groups
  let names := flat.map (·.1)
  let missing := if names.contains startName then [] else [⟨.unknownGroup startName, none⟩]
  match checkTable names flat with
  | .error failure => .error (.stopped failure)
  | .ok (table, faults) =>
      let flattened := flattenAll table
      let reports := clashes ++ missing ++ faults ++ flattened.reports
      if reports.isEmpty then .ok ⟨modesOf table flattened.finished, fallback⟩
      else .error (.rejected reports)

/-- A table whose groups are all ready. -/
def readySources (table : GroupTable) : List (String × GroupSource) :=
  table.map fun group => (group.1, .ready group.2)

/-- The groups of a table whose groups are all ready. -/
def readyGroups? (table : List (String × GroupSource)) : Option GroupTable :=
  table.mapM fun
    | (name, .ready entries) => some (name, entries)
    | _ => none

/-- Compiles a table in which groups may still have to be read. -/
def compileSources (table : List (String × GroupSource)) (fallback : Kind) :
    Except CompileError CompiledGrammar :=
  match readyGroups? table with
  | some groups => compileGroups groups fallback
  | none =>
      match readGroups table with
      | .error (.malformed reports) => .error (.unreadable reports)
      | .error .numberTooLong => .error .numberTooLong
      | .ok groups => compileGroups groups fallback

end ModalHighlight
