import ModalHighlight.Text.CodeSet
import ModalHighlight.Text.CodeSet.Unicode

/-!
Classes of characters.  Each class is decided by a closed test within ASCII and by its Unicode table
beyond.
-/

namespace ModalHighlight.Text

/-- An ASCII letter, an ASCII digit or the underscore. -/
def isAsciiWord (code : Nat) : Bool :=
  decide ((97 ≤ code ∧ code ≤ 122) ∨ (65 ≤ code ∧ code ≤ 90) ∨ (48 ≤ code ∧ code ≤ 57) ∨ code = 95)

/-- A letter, a character with a numeric value, or the underscore. -/
def isWord (code : Nat) : Bool :=
  if code < 128 then isAsciiWord code else CodeSet.wordBeyondAscii.contains code

/-- An ASCII decimal digit. -/
def isAsciiDigit (code : Nat) : Bool :=
  decide (48 ≤ code ∧ code ≤ 57)

/-- A decimal digit of any script. -/
def isDigit (code : Nat) : Bool :=
  if code < 128 then isAsciiDigit code else CodeSet.decimalBeyondAscii.contains code

/-- The value of a decimal digit of any script. -/
def digitValue? (code : Nat) : Option Nat :=
  if code < 128 then if isAsciiDigit code then some (code - 48) else none
  else if CodeSet.decimalBeyondAscii.contains code then
    (CodeSet.decimalBeyondAscii.runStart? code).map fun start => (code - start) % 10
  else none

/-- Tab, newline, vertical tab, form feed, carriage return or space. -/
def isAsciiSpace (code : Nat) : Bool :=
  decide ((9 ≤ code ∧ code ≤ 13) ∨ code = 32)

/-- Whitespace: the ASCII blanks, the four ASCII separators and the blanks beyond ASCII. -/
def isSpace (code : Nat) : Bool :=
  if code < 128 then isAsciiSpace code || decide (28 ≤ code ∧ code ≤ 31)
  else CodeSet.spaceBeyondAscii.contains code

/-- A character that is shown as itself: neither a control nor an invisible or unassigned one, and
no separator but the plain space. -/
def isPrintable (code : Nat) : Bool :=
  if code < 128 then decide (32 ≤ code ∧ code ≤ 126)
  else !CodeSet.unprintableBeyondAscii.contains code

/-- An ASCII letter. -/
def isAsciiLetter (c : Char) : Bool :=
  decide (('a' ≤ c ∧ c ≤ 'z') ∨ ('A' ≤ c ∧ c ≤ 'Z'))

/-- A letter of any script. -/
def isLetter (c : Char) : Bool :=
  if c.toNat < 128 then isAsciiLetter c
  else isWord c.toNat && !CodeSet.numeralBeyondAscii.contains c.toNat

/-- The character may open an identifier. -/
def opensIdentifier (c : Char) : Bool :=
  if c.toNat < 128 then isAsciiLetter c || c == '_'
  else CodeSet.identifierStartBeyondAscii.contains c.toNat

/-- The character may follow in an identifier. -/
def continuesIdentifier (c : Char) : Bool :=
  if c.toNat < 128 then isAsciiWord c.toNat
  else CodeSet.identifierContinueBeyondAscii.contains c.toNat

/-- The text is an identifier: an opening character and any number of following ones. -/
def isIdentifier : List Char → Bool
  | [] => false
  | c :: rest => opensIdentifier c && rest.all continuesIdentifier

end ModalHighlight.Text
