import ModalHighlight.Data.Document
import ModalHighlight.Data.Value
import ModalHighlight.Text.Digits
import ModalHighlight.Text.Lines

/-!
The text of a TOML document while it is read, the faults that it can have and where they lie.
-/

namespace ModalHighlight.Data.Toml

open ModalHighlight ModalHighlight.Text

/-- A dotted key. -/
abbrev Key := List String

/-- The display of a dotted key: its parts in quotes, in parentheses. -/
def displayKey : Key → String
  | [part] => "(" ++ quoted part ++ ",)"
  | parts => "(" ++ ", ".intercalate (parts.map quoted) ++ ")"

/-- What is wrong with a document. -/
inductive Cause
  | statement
  | endOfStatement
  | equals
  | keyStart
  | tableEnd
  | tableListEnd
  | declaredTwice (key : Key)
  | overwrite
  | immutable (key : Key)
  | redefined (key : Key)
  | duplicateInline (key : String)
  | value
  | unclosedList
  | unclosedTable
  | unterminated
  | expected (text : String)
  | invalidCharacter (c : Char)
  | illegalCharacter (c : Char)
  | badEscape
  | badHex
  | notScalar
  | badDate
deriving Repr, DecidableEq

def Cause.message : Cause → String
  | statement => "Invalid statement"
  | endOfStatement => "Expected newline or end of document after a statement"
  | equals => "Expected '=' after a key in a key/value pair"
  | keyStart => "Invalid initial character for a key part"
  | tableEnd => "Expected ']' at the end of a table declaration"
  | tableListEnd => "Expected ']]' at the end of an array declaration"
  | declaredTwice key => "Cannot declare " ++ displayKey key ++ " twice"
  | overwrite => "Cannot overwrite a value"
  | immutable key => "Cannot mutate immutable namespace " ++ displayKey key
  | redefined key => "Cannot redefine namespace " ++ displayKey key
  | duplicateInline key => "Duplicate inline table key " ++ quoted key
  | value => "Invalid value"
  | unclosedList => "Unclosed array"
  | unclosedTable => "Unclosed inline table"
  | unterminated => "Unterminated string"
  | expected text => "Expected " ++ quoted text
  | invalidCharacter c => "Found invalid character " ++ quoted (String.singleton c)
  | illegalCharacter c => "Illegal character " ++ quoted (String.singleton c)
  | badEscape => "Unescaped '\\' in a string"
  | badHex => "Invalid hex value"
  | notScalar => "Escaped character is not a Unicode scalar value"
  | badDate => "Invalid date or datetime"

abbrev Failure := Data.Failure Cause

/-- The message of a fault, with its line and column unless it lies at the end. -/
def faultMessage (chars : List Char) (cause : Cause) (offset : Nat) : String :=
  if chars.length ≤ offset then cause.message ++ " (at end of document)"
  else cause.message ++ " (at " ++ placeWords chars offset ", " ++ ")"

def isBlank (c : Char) : Bool := c == ' ' || c == '\t'

def isBlankOrNewline (c : Char) : Bool := isBlank c || c == '\n'

/-- A control character that no text of one line may hold. -/
def isForbidden (c : Char) : Bool := (c.toNat < 32 || c.toNat == 127) && c != '\t'

/-- A control character that no text of several lines may hold. -/
def isForbiddenInLines (c : Char) : Bool := isForbidden c && c != '\n'

/-- Text up to the first occurrence of a delimiter, which is not part of it. -/
def textBefore? (delimiter : List Char) : List Char → Option (List Char)
  | [] => if delimiter.isEmpty then some [] else none
  | c :: rest =>
      if delimiter.isPrefixOf (c :: rest) then some []
      else (textBefore? delimiter rest).map (c :: ·)

/-- Checks that a text of an offset holds no forbidden character. -/
def checkAllowed (forbidden : Char → Bool) : List Char → Nat → Except Failure Unit
  | [], _ => .ok ()
  | c :: rest, offset =>
      if forbidden c then .error (.fault (.invalidCharacter c) offset)
      else checkAllowed forbidden rest (offset + 1)

/-- Skips a comment, if there is one, up to the end of its line. -/
def skipComment (r : Rest) : Except Failure Rest :=
  match r.chars with
  | '#' :: rest => do
      let comment := rest.takeWhile (· != '\n')
      checkAllowed isForbidden comment (r.offset + 1)
      return r.drop (comment.length + 1)
  | _ => return r

/-- Skips blanks, newlines and comments. -/
def skipFiller : Nat → Rest → Except Failure Rest
  | 0, r => .ok r
  | n + 1, r => do
      let after ← skipComment (r.skipWhile isBlankOrNewline)
      if after.offset = r.offset then return after else skipFiller n after

end ModalHighlight.Data.Toml
