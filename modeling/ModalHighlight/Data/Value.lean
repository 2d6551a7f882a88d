import ModalHighlight.Data.Decimal
import ModalHighlight.Data.Moment
import ModalHighlight.Text.Quoted

/-!
Data values, as grammar files and configurations hold them.  The fields of a table keep their order.
-/

namespace ModalHighlight

open ModalHighlight.Text

/-- A data value. -/
inductive Value
  | null
  | bool (b : Bool)
  | int (n : Int)
  | float (x : Float)
  | str (s : String)
  | list (items : List Value)
  | table (fields : List (String × Value))
  | moment (m : Data.Moment)
deriving Inhabited

namespace Value

/-- The word for the kind of a value in diagnostics. -/
def typeName : Value → String
  | null => "NoneType"
  | bool _ => "bool"
  | int _ => "int"
  | float _ => "float"
  | str _ => "str"
  | list _ => "list"
  | table _ => "dict"
  | moment m => m.kindName

/-- Null, false, zero and everything empty count as absent. -/
def isPresent : Value → Bool
  | null => false
  | bool b => b
  | int n => n != 0
  | float x => x != 0
  | str s => s != ""
  | list items => !items.isEmpty
  | table fields => !fields.isEmpty
  | moment _ => true

mutual

/-- The display of a value in which texts are quoted. -/
def quotedDisplay : Value → String
  | null => "None"
  | bool true => "True"
  | bool false => "False"
  | int n => toString n
  | float x => Data.doubleText x.toBits
  | str s => quoted s
  | list items => "[" ++ ", ".intercalate (quotedItems items) ++ "]"
  | table fields => "\x7b" ++ ", ".intercalate (quotedFields fields) ++ "\x7d"
  | moment m => m.fullText

def quotedItems : List Value → List String
  | [] => []
  | item :: rest => quotedDisplay item :: quotedItems rest

def quotedFields : List (String × Value) → List String
  | [] => []
  | (key, value) :: rest => (quoted key ++ ": " ++ quotedDisplay value) :: quotedFields rest

end

/-- The display of a value: a text as it is, a moment in its plain text, and all else as inside a list. -/
def display : Value → String
  | str s => s
  | moment m => m.text
  | value => value.quotedDisplay

/-- Whole numbers with more decimal digits than this are neither read nor displayed. -/
def digitLimit : Nat := 4300

mutual

/-- No whole number in a value is too long to be displayed. -/
def isDisplayable : Value → Bool
  | int n => decide (n.natAbs < Nat.pow 10 digitLimit)
  | list items => areDisplayable items
  | table fields => haveDisplayable fields
  | _ => true

def areDisplayable : List Value → Bool
  | [] => true
  | item :: rest => isDisplayable item && areDisplayable rest

def haveDisplayable : List (String × Value) → Bool
  | [] => true
  | (_, value) :: rest => isDisplayable value && haveDisplayable rest

end

/-- The value of a field. -/
def field? (key : String) : List (String × Value) → Option Value :=
  List.lookup key

end Value

/-- Sets a field: a new one goes to the end, a known one keeps its place. -/
def setField {α : Type} (key : String) (value : α) : List (String × α) → List (String × α)
  | [] => [(key, value)]
  | (k, v) :: rest => if k = key then (k, value) :: rest else (k, v) :: setField key value rest

/-- The keys after setting a field. -/
theorem keys_setField {α : Type} (key : String) (value : α) (fields : List (String × α)) :
    (setField key value fields).map (·.1) =
      if key ∈ fields.map (·.1) then fields.map (·.1) else fields.map (·.1) ++ [key] := by
  induction fields with
  | nil => simp [setField]
  | cons head rest ih =>
    obtain ⟨k, v⟩ := head
    by_cases h : k = key
    · simp [setField, h]
    · have h' : ¬ key = k := fun e => h e.symm
      by_cases hin : key ∈ rest.map (·.1) <;> simp_all [setField]

end ModalHighlight
