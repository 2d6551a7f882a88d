import ModalHighlight.Data.Toml.Scalar

/-!
Reading TOML documents.  A document declares tables, whose places are marked so that none is declared
twice and none that was written in place is changed later.
-/

namespace ModalHighlight.Data.Toml

open ModalHighlight ModalHighlight.Text

abbrev Fields := List (String × Value)

/-- What has been said about a place: it is written in place, or it has been declared. -/
inductive MarkKind
  | frozen
  | declared
deriving Repr, DecidableEq

/-- A mark on a place, or on a place and all inside it. -/
structure Mark where
  key : Key
  kind : MarkKind
  inside : Bool

/-- The marks of a document, and the places to be marked as declared before the next table. -/
structure Marks where
  marks : List Mark
  pending : List Key

namespace Marks

def none : Marks := ⟨[], []⟩

def add (m : Marks) (mark : Mark) : Marks := { m with marks := mark :: m.marks }

/-- Takes the marks off a place and all inside it. -/
def clear (m : Marks) (key : Key) : Marks :=
  { m with marks := m.marks.filter fun mark => !key.isPrefixOf mark.key }

/-- The place has a mark of its own, or lies inside one that is marked with all inside it. -/
def has (m : Marks) (key : Key) (kind : MarkKind) : Bool :=
  !key.isEmpty && m.marks.any fun mark =>
    mark.kind == kind && (mark.key == key || (mark.inside && mark.key.isPrefixOf key))

/-- Marks the waiting places as declared. -/
def settle (m : Marks) : Marks :=
  { marks := m.pending.map (⟨·, .declared, false⟩) ++ m.marks, pending := [] }

end Marks

/-- Changes the table at a place, which is created where it is missing.  Where lists of tables are entered,
their last table counts. -/
def updateAt (enterLists : Bool) (change : Fields → Except Cause Fields) :
    Key → Fields → Except Cause Fields
  | [], fields => change fields
  | part :: rest, fields =>
      match fields.lookup part with
      | none => do return setField part (.table (← updateAt enterLists change rest [])) fields
      | some (.table inner) => do
          return setField part (.table (← updateAt enterLists change rest inner)) fields
      | some (.list items) =>
          match enterLists, items.getLast? with
          | true, some (.table inner) => do
              let inner ← updateAt enterLists change rest inner
              return setField part (.list (items.dropLast ++ [.table inner])) fields
          | _, _ => .error .overwrite
      | some _ => .error .overwrite

/-- Adds a field that must be new. -/
def addField (taken : Cause) (part : String) (value : Value) (fields : Fields) : Except Cause Fields :=
  if (fields.lookup part).isSome then .error taken else .ok (setField part value fields)

/-- Adds an empty table to a list of tables, which is created where it is missing. -/
def addTable (part : String) (fields : Fields) : Except Cause Fields :=
  match fields.lookup part with
  | none => .ok (setField part (.list [.table []]) fields)
  | some (.list items) => .ok (setField part (.list (items ++ [.table []])) fields)
  | some _ => .error .overwrite

/-- Puts the place of a fault to its cause. -/
def located {α : Type} (r : Rest) (result : Except Cause α) : Except Failure α :=
  result.mapError fun cause => .fault cause r.offset

def isBareKeyChar (c : Char) : Bool :=
  isDecimalDigit c || decide (('a' ≤ c ∧ c ≤ 'z') ∨ ('A' ≤ c ∧ c ≤ 'Z')) || c == '-' || c == '_'

/-- One part of a key. -/
def readKeyPart (r : Rest) : Except Failure (String × Rest) :=
  let bare := r.chars.takeWhile isBareKeyChar
  if !bare.isEmpty then .ok (String.ofList bare, r.drop bare.length)
  else
    match readText? r false with
    | some read => read
    | none => r.fail .keyStart

/-- A dotted key; blanks may stand around its parts. -/
def readKey : Nat → Rest → Except Failure (Key × Rest)
  | 0, r => r.fail .keyStart
  | n + 1, r => do
      let (part, r) ← readKeyPart r
      let r := r.skipWhile isBlank
      if r.next? == some '.' then
        let (more, r) ← readKey n ((r.drop 1).skipWhile isBlank)
        return (part :: more, r)
      else return ([part], r)

/-- The key of a statement or of an inline field. -/
def readWholeKey (r : Rest) : Except Failure (Key × Rest) := readKey (r.chars.length + 1) r

def isNested : Value → Bool
  | .list _ | .table _ => true
  | _ => false

mutual

/-- A value at the front. -/
def readValue : Nat → Rest → Except Failure (Value × Rest)
  | 0, r => r.fail .value
  | n + 1, r =>
      match readText? r true with
      | some read => read.map fun (text, r) => (.str text, r)
      | none =>
          match r.next? with
          | some '[' => do
              let r ← skipFiller (r.chars.length + 1) (r.drop 1)
              if r.next? == some ']' then return (.list [], r.drop 1) else readItems n r []
          | some '{' => do
              let r := (r.drop 1).skipWhile isBlank
              if r.next? == some '\x7d' then return (.table [], r.drop 1)
              else readInline n r Marks.none []
          | _ => readPlain r

/-- The items of a list from one item on; those found before are in reverse. -/
def readItems : Nat → Rest → List Value → Except Failure (Value × Rest)
  | 0, r, _ => r.fail .value
  | n + 1, r, found => do
      let (item, r) ← readValue n r
      let r ← skipFiller (r.chars.length + 1) r
      match r.next? with
      | some ']' => return (.list (item :: found).reverse, r.drop 1)
      | some ',' =>
          let after := r.drop 1
          let r ← skipFiller (after.chars.length + 1) after
          if r.next? == some ']' then return (.list (item :: found).reverse, r.drop 1)
          else readItems n r (item :: found)
      | _ => r.fail .unclosedList

/-- A key and its value. -/
def readField : Nat → Rest → Except Failure ((Key × Value) × Rest)
  | 0, r => r.fail .value
  | n + 1, r => do
      let (key, r) ← readWholeKey r
      if r.next? == some '=' then
        let (value, r) ← readValue n ((r.drop 1).skipWhile isBlank)
        return ((key, value), r)
      else r.fail .equals

/-- The fields of an inline table from one field on. -/
def readInline : Nat → Rest → Marks → Fields → Except Failure (Value × Rest)
  | 0, r, _, _ => r.fail .value
  | n + 1, r, marks, fields => do
      let ((key, value), r) ← readField n r
      if marks.has key .frozen then r.fail (.immutable key)
      else
        let last := key.getLast?.getD ""
        let fields ← located r (updateAt false (addField (.duplicateInline last) last value)
          key.dropLast fields)
        let r := r.skipWhile isBlank
        match r.next? with
        | some '\x7d' => return (.table fields, r.drop 1)
        | some ',' =>
            let marks := if isNested value then marks.add ⟨key, .frozen, true⟩ else marks
            readInline n ((r.drop 1).skipWhile isBlank) marks fields
        | _ => r.fail .unclosedTable

end

/-- A document while it is read: its fields, its marks and the table that fields are added to. -/
structure Document where
  fields : Fields
  marks : Marks
  header : Key

/-- A table declaration at its opening bracket. -/
def readTable (d : Document) (r : Rest) : Except Failure (Document × Rest) := do
  let marks := d.marks.settle
  let (key, r) ← readWholeKey ((r.drop 1).skipWhile isBlank)
  if marks.has key .declared || marks.has key .frozen then r.fail (.declaredTwice key)
  else
    let fields ← located r (updateAt true .ok key d.fields)
    if r.next? == some ']' then
      return (⟨fields, marks.add ⟨key, .declared, false⟩, key⟩, r.drop 1)
    else r.fail .tableEnd

/-- The declaration of one more table of a list, at its opening brackets. -/
def readTableOfList (d : Document) (r : Rest) : Except Failure (Document × Rest) := do
  let marks := d.marks.settle
  let (key, r) ← readWholeKey ((r.drop 2).skipWhile isBlank)
  if marks.has key .frozen then r.fail (.immutable key)
  else
    let fields ← located r (updateAt true (addTable (key.getLast?.getD "")) key.dropLast d.fields)
    if r.startsWith "]]" then
      return (⟨fields, (marks.clear key).add ⟨key, .declared, false⟩, key⟩, r.drop 2)
    else r.fail .tableListEnd

/-- Marks the tables that a dotted key passes through; one that was declared may not be passed. -/
def passThrough (r : Rest) (header : Key) : List Key → Marks → Except Failure Marks
  | [], marks => .ok marks
  | inner :: rest, marks =>
      let key := header ++ inner
      if marks.has key .declared then r.fail (.redefined key)
      else passThrough r header rest { marks with pending := key :: marks.pending }

/-- The beginnings of a key that are shorter than it and not empty. -/
def properStarts (key : Key) : List Key :=
  (List.range (key.length - 1)).map fun n => key.take (n + 1)

/-- A field of the current table. -/
def readStatementField (d : Document) (r : Rest) : Except Failure (Document × Rest) := do
  let ((key, value), r) ← readField (2 * r.chars.length + 4) r
  let marks ← passThrough r d.header (properStarts key) d.marks
  let parent := d.header ++ key.dropLast
  if marks.has parent .frozen then r.fail (.immutable parent)
  else
    let last := key.getLast?.getD ""
    let fields ← located r (updateAt true (addField .overwrite last value) parent d.fields)
    let marks :=
      if isNested value then marks.add ⟨d.header ++ key, .frozen, true⟩ else marks
    return (⟨fields, marks, d.header⟩, r)

/-- One statement and the rest of its line; at the end of the document there is nothing to read. -/
def readStatement (d : Document) (r : Rest) : Except Failure (Document × Rest) := do
  match r.next? with
  | none => return (d, r)
  | some c =>
      if c == '\n' then return (d, r)
      else
        let (d, r) ←
          if isBareKeyChar c || c == '\x22' || c == '\x27' then readStatementField d r
          else if c == '[' then
            if (r.drop 1).next? == some '[' then readTableOfList d r else readTable d r
          else if c == '#' then pure (d, r)
          else r.fail .statement
        let r ← skipComment (r.skipWhile isBlank)
        match r.next? with
        | none | some '\n' => return (d, r)
        | some _ => r.fail .endOfStatement

/-- The statements of a document, one to a line. -/
def readStatements : Nat → Document → Rest → Except Failure Document
  | 0, d, _ => .ok d
  | n + 1, d, r => do
      let (d, r) ← readStatement d (r.skipWhile isBlank)
      if r.chars.isEmpty then return d else readStatements n d (r.drop 1)

/-- Reads a document in which no carriage return stands before a newline. -/
def parseChars (chars : List Char) : Except Failure Fields :=
  (readStatements (chars.length + 1) ⟨[], Marks.none, []⟩ ⟨chars, 0⟩).map (·.fields)

/-- Reads a document. -/
def parse (text : String) : Except Failure Fields :=
  parseChars (Text.joinedNewlines text.toList)

/-- The message of a fault of a document. -/
def messageIn (text : String) (cause : Cause) (offset : Nat) : String :=
  faultMessage (Text.joinedNewlines text.toList) cause offset

end ModalHighlight.Data.Toml
