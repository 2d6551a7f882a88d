import ModalHighlight.Grammar.Entry
import ModalHighlight.Grammar.Fault

/-!
Naming the groups that are written in place.  The group that entry `i` of group `n` opens in place is
called `n/i`; its own inline groups are named in the same way, and all come before it.  A table in which
a named group already has such a name is faulty.
-/

namespace ModalHighlight

/-- A rule that opens a group by name, if any. -/
structure FlatRule where
  kinds : List String
  pattern : PatternSource
  push : Option String
  next : Option String

/-- An entry in which nothing is written in place. -/
inductive FlatEntry
  | rule (r : FlatRule)
  | includeGroup (name : String)
  | defaultKind (kind : String)

/-- Groups without inline groups, by name. -/
abbrev FlatTable := List (String × List FlatEntry)

/-- The name of the group that entry `index` of a group writes in place. -/
def inlineName (group : String) (index : Nat) : String :=
  group ++ "/" ++ toString index

/-- What naming gives for a part of a group: its entries, the groups found inside in order, and the
name clashes. -/
structure Hoisted (α : Type) where
  result : α
  groups : FlatTable
  reports : List Report

section

variable (named : List String)

mutual

/-- The name that a push goes by, once the group it may hold has been named. -/
def hoistPush (group : String) (index : Nat) : Push → Hoisted (Option String)
  | .nothing => ⟨none, [], []⟩
  | .group name => ⟨some name, [], []⟩
  | .inline entries =>
      let name := inlineName group index
      let inner := hoistEntries name 0 entries
      let clash := if name ∈ named then [Report.atEntry (.nameClash name) group index] else []
      ⟨some name, inner.groups ++ [(name, inner.result)], clash ++ inner.reports⟩

def hoistEntry (group : String) (index : Nat) : Entry → Hoisted FlatEntry
  | .rule kinds pattern push next =>
      let inner := hoistPush group index push
      ⟨.rule ⟨kinds, pattern, inner.result, next⟩, inner.groups, inner.reports⟩
  | .includeGroup name => ⟨.includeGroup name, [], []⟩
  | .defaultKind kind => ⟨.defaultKind kind, [], []⟩

/-- The entries of a group, counted from an index on. -/
def hoistEntries (group : String) (index : Nat) : List Entry → Hoisted (List FlatEntry)
  | [] => ⟨[], [], []⟩
  | entry :: rest =>
      let first := hoistEntry group index entry
      let more := hoistEntries group (index + 1) rest
      ⟨first.result :: more.result, first.groups ++ more.groups, first.reports ++ more.reports⟩

end

/-- All groups that a named group gives: the inline ones inside it, then itself. -/
def hoistGroup (group : String) (entries : List Entry) : FlatTable × List Report :=
  let inner := hoistEntries named group 0 entries
  (inner.groups ++ [(group, inner.result)], inner.reports)

end

/-- All groups of a table in the order in which they are named, and the name clashes.  Of groups with
one name the last counts, at the place of the first. -/
def hoist (table : GroupTable) : FlatTable × List Report :=
  let named := table.map (·.1)
  let parts := table.map fun (name, entries) => hoistGroup named name entries
  let groups := (parts.flatMap (·.1)).foldl (fun known (name, flat) => setField name flat known) []
  (groups, parts.flatMap (·.2))

end ModalHighlight
