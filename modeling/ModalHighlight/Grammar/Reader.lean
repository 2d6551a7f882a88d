import ModalHighlight.Grammar.Entry
import ModalHighlight.Grammar.Fault

/-!
Reading rule groups from data values.  A rule is a table with a token and a regex, an include or a
default token is a table with that one key.  Every malformed place is reported once, and nothing is
read as long as there is one.  Names may be given by any value; a whole number that is too long to be
displayed as a name ends the reading at once.
-/

namespace ModalHighlight

/-- A group before it is read: entries already, any data value, or a list that mixes the two. -/
inductive GroupSource
  | ready (entries : List Entry)
  | value (v : Value)
  | mixed (items : List (Entry ⊕ Value))

/-- Why groups cannot be read: parts of them are malformed, or a whole number is too long. -/
inductive ReadError
  | malformed (reports : List Report)
  | numberTooLong

/-- What reading gives: the parts that are read, and reports on the malformed places among them. -/
structure ReadParts (α : Type) where
  parts : List α
  reports : List Report

namespace ReadParts

variable {α : Type}

def one (part : α) : ReadParts α := ⟨[part], []⟩

def refused (fault : Fault) (location : Location) : ReadParts α := ⟨[], [⟨fault, some location⟩]⟩

def append (a b : ReadParts α) : ReadParts α := ⟨a.parts ++ b.parts, a.reports ++ b.reports⟩

/-- Parts that make up one. -/
def gather {β : Type} (make : List α → β) (read : ReadParts α) : ReadParts β :=
  ⟨[make read.parts], read.reports⟩

end ReadParts

/-- The display of a value that is used as a name. -/
def Value.nameText (v : Value) : Except ReadError String :=
  if v.isDisplayable then .ok v.display else .error .numberTooLong

/-- The kinds that a token field names: one, or one for each item of a list. -/
def kindsOf : Value → Except ReadError (List String)
  | .list items => items.mapM Value.nameText
  | value => return [← value.nameText]

/-- The group that a rule goes on with. -/
def nextOf (fields : List (String × Value)) : Except ReadError (Option String) :=
  match Value.field? "next" fields with
  | none | some .null => return none
  | some next => return some (← next.nameText)

/-- The place that the entries of an inline group are counted under. -/
def Location.pushed (l : Location) : String :=
  l.display ++ ".push"

theorem mem_of_lookup_eq_some {α : Type} {key : String} {value : α} {fields : List (String × α)}
    (h : fields.lookup key = some value) : (key, value) ∈ fields := by
  obtain ⟨before, after, rfl, _⟩ := List.lookup_eq_some_iff.mp h
  simp

theorem sizeOf_lookup_lt {key : String} {fields : List (String × Value)} {value : Value}
    (h : fields.lookup key = some value) : sizeOf value < sizeOf fields := by
  have hlt := List.sizeOf_lt_of_mem (mem_of_lookup_eq_some h)
  rw [Prod.mk.sizeOf_spec] at hlt
  omega

mutual

/-- Reads one entry at a place. -/
def readEntry (location : Location) : Value → Except ReadError (ReadParts Entry)
  | .table fields =>
      match Value.field? "include" fields with
      | some name => do return .one (.includeGroup (← name.nameText))
      | none =>
          match Value.field? "token" fields, Value.field? "regex" fields with
          | none, none =>
              match Value.field? "defaultToken" fields with
              | some kind => do return .one (.defaultKind (← kind.nameText))
              | none => return .refused .entryWithoutKey location
          | token, regex => do
              let kinds ← kindsOf (token.getD (.str ""))
              match regex.getD (.str "") with
              | .str pattern =>
                  match h : fields.lookup "push" with
                  | none | some .null =>
                      return .one (.rule kinds (.text pattern) .nothing (← nextOf fields))
                  | some (.str name) =>
                      return .one (.rule kinds (.text pattern) (.group name) (← nextOf fields))
                  | some (.list items) =>
                      have : sizeOf items < sizeOf fields := by
                        have := sizeOf_lookup_lt h
                        simp only [Value.list.sizeOf_spec] at this
                        omega
                      let inner ← readItems location.pushed 0 items
                      let next ← nextOf fields
                      return inner.gather fun entries => .rule kinds (.text pattern) (.inline entries) next
                  | some other => return .refused (.pushOfWrongType other.typeName) location
              | other => return .refused (.patternNotText other.typeName) location
  | other => return .refused (.entryNotTable other.typeName) location
termination_by value => sizeOf value

/-- Reads the entries of a list, counted from an index on. -/
def readItems (group : String) (index : Nat) : List Value → Except ReadError (ReadParts Entry)
  | [] => return ⟨[], []⟩
  | item :: rest => do
      let first ← readEntry ⟨group, some index⟩ item
      let more ← readItems group (index + 1) rest
      return first.append more
termination_by items => sizeOf items

end

/-- Reads a list that may hold entries already. -/
def readMixed (group : String) (index : Nat) :
    List (Entry ⊕ Value) → Except ReadError (ReadParts Entry)
  | [] => return ⟨[], []⟩
  | .inl entry :: rest => do return (ReadParts.one entry).append (← readMixed group (index + 1) rest)
  | .inr value :: rest => do
      let first ← readEntry ⟨group, some index⟩ value
      let more ← readMixed group (index + 1) rest
      return first.append more

/-- Reads one group.  The items of a table are its keys. -/
def GroupSource.read (name : String) : GroupSource → Except ReadError (ReadParts (String × List Entry))
  | .ready entries => return .one (name, entries)
  | .mixed items => do return (← readMixed name 0 items).gather (name, ·)
  | .value (.list items) => do return (← readItems name 0 items).gather (name, ·)
  | .value (.table fields) => do
      return (← readItems name 0 (fields.map fun field => .str field.1)).gather (name, ·)
  | .value _ => return .refused (.groupNotList name) ⟨name, none⟩

/-- Reads all groups of a table, in order. -/
def readAllGroups : List (String × GroupSource) → Except ReadError (ReadParts (String × List Entry))
  | [] => return ⟨[], []⟩
  | (name, source) :: rest => do
      let first ← source.read name
      let more ← readAllGroups rest
      return first.append more

/-- The groups of a table, or every report on it. -/
def readGroups (table : List (String × GroupSource)) : Except ReadError GroupTable := do
  let read ← readAllGroups table
  if read.reports.isEmpty then return read.parts else throw (.malformed read.reports)

end ModalHighlight
