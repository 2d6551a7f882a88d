import ModalHighlight.Pattern.Source
import ModalHighlight.Text.CharName.Lookup
import ModalHighlight.Text.Digits

/-!
Escapes and bracketed classes of a pattern.  The same letter can mean different things inside and
outside a class: `\b` is a backspace inside and a word boundary outside, and only outside can digits
name a group.
-/

namespace ModalHighlight.Pattern

open ModalHighlight.Text

/-- A node while its sequence is read. -/
structure Item where
  node : Node
  width : Width

/-- What a quantifier may do with the chunk that stands before it. -/
inductive Role
  | plain
  | anchor
  | repeated
deriving Repr, DecidableEq

/-- What one quantifier applies to: an item, or all items of a plain group. -/
structure Chunk where
  items : List Item
  role : Role := .plain

/-- An item that can be repeated. -/
def Chunk.ofNode (node : Node) (width : Width) : Chunk :=
  ⟨[⟨node, width⟩], .plain⟩

/-- An item that consumes one character. -/
def Chunk.ofTest (test : CharTest) : Chunk :=
  .ofNode (.char test) ⟨1, 1⟩

/-- An item that consumes nothing and cannot be repeated. -/
def Chunk.ofAnchor (a : Anchor) : Chunk :=
  ⟨[⟨.anchor a, .zero⟩], .anchor⟩

/-- The item that one given code point makes. -/
def Chunk.ofCode (flags : Flags) (code : Nat) : Chunk :=
  .ofTest (.code code flags.caseRule false)

/-- The class that a letter names after a backslash. -/
def letterClass? (flags : Flags) : Char → Option ClassItem
  | 'd' => some (.kind .digit flags.ascii false)
  | 'D' => some (.kind .digit flags.ascii true)
  | 's' => some (.kind .space flags.ascii false)
  | 'S' => some (.kind .space flags.ascii true)
  | 'w' => some (.kind .word flags.ascii false)
  | 'W' => some (.kind .word flags.ascii true)
  | _ => none

/-- The condition on positions that a letter names after a backslash. -/
def letterAnchor? (flags : Flags) : Char → Option Anchor
  | 'A' => some .textStart
  | 'Z' => some .textEnd
  | 'b' => some (.wordBoundary flags.ascii)
  | 'B' => some (.noWordBoundary flags.ascii)
  | _ => none

/-- The control character that a letter names after a backslash. -/
def letterControl? : Char → Option Nat
  | 'a' => some 7
  | 'f' => some 12
  | 'n' => some 10
  | 'r' => some 13
  | 't' => some 9
  | 'v' => some 11
  | '\\' => some 92
  | _ => none

/-- The escape as it stands in the text, from its letter and what follows it. -/
def escapeText (letter : Char) (more : List Char) : String :=
  String.ofList ('\\' :: letter :: more)

/-- Exactly so many hexadecimal digits after the letter of an escape. -/
def readHexEscape (letter : Char) (count : Nat) : Reading Nat := do
  let digits ← Reading.takeWhile isHexDigit count
  let written := escapeText letter digits
  if digits.length < count then Reading.refuse (.incompleteEscape written) written.length
  else
    let code := numberOf 16 digits
    if 0x10FFFF < code then Reading.refuse (.badEscape written) written.length
    else return code

/-- A character by its name, in braces.  With a lone surrogate in it, a name cannot be looked up at all. -/
def readNamedEscape : Reading Nat := do
  if ← Reading.accept '{' then
    let name ← Reading.name '}' "character name"
    if hasSurrogate name then Reading.refuse (.badEscape (escapeText 'N' [])) 2
    else
      match charNamed? name with
      | some code => return code
      | none => Reading.refuse (.undefinedCharacterName name) (name.length + 4)
  else Reading.refuse .missingBrace 0

/-- Up to two more octal digits after the first. -/
def readOctalEscape (first : Char) : Reading Nat := do
  let more ← Reading.takeWhile isOctalDigit 2
  let code := numberOf 8 (first :: more)
  let written := escapeText first more
  if 0o377 < code then Reading.refuse (.octalTooLarge written) written.length
  else return code

/-- The code point of an escape whose letter asks for digits or a name. -/
def readCodeEscape? : Char → Option (Reading Nat)
  | 'x' => some (readHexEscape 'x' 2)
  | 'u' => some (readHexEscape 'u' 4)
  | 'U' => some (readHexEscape 'U' 8)
  | 'N' => some readNamedEscape
  | _ => none

/-- Any character but an ASCII letter or digit stands for itself after a backslash. -/
def readPlainEscape (letter : Char) : Reading Nat :=
  if isAsciiLetter letter || isDecimalDigit letter then
    Reading.refuse (.badEscape (escapeText letter [])) 2
  else return letter.toNat

/-- The width of a group that is closed. -/
def closedWidth? (s : Source) (index : Nat) : Option Width :=
  match index with
  | 0 => none
  | n + 1 => (s.widths[n]?).join

/-- Inside a look-behind, a group must be closed and come from outside it. -/
def checkBehind (index : Nat) : Reading Unit := do
  let s ← get
  match s.behindLimit with
  | none => return ()
  | some limit =>
      if (closedWidth? s index).isNone then Reading.refuse .openGroup 0
      else if limit ≤ index then Reading.refuse .groupInSameLookBehind 0
      else return ()

/-- A reference to what a group captured, which must be closed by now. -/
def readBackref (flags : Flags) (index back : Nat) : Reading Chunk := do
  match closedWidth? (← get) index with
  | none => Reading.refuse .openGroup back
  | some width =>
      checkBehind index
      return .ofNode (.backref index flags.caseRule) width

/-- A number after a backslash: three octal digits are a code point, fewer digits name a group. -/
def readNumberEscape (flags : Flags) (first : Char) : Reading Chunk := do
  let second ← Reading.takeWhile isDecimalDigit 1
  let digits := first :: second
  let third ←
    if digits.length = 2 ∧ digits.all isOctalDigit then Reading.takeWhile isOctalDigit 1
    else pure []
  let written := escapeText first (second ++ third)
  if third.isEmpty then
    let index := numberOf 10 digits
    if index < (← get).widths.length + 1 then readBackref flags index written.length
    else Reading.refuse (.invalidGroupReference index) (written.length - 1)
  else
    let code := numberOf 8 (digits ++ third)
    if 0o377 < code then Reading.refuse (.octalTooLarge written) written.length
    else return .ofCode flags code

/-- An escape outside a class. -/
def readEscape (flags : Flags) (letter : Char) : Reading Chunk := do
  if let some a := letterAnchor? flags letter then return .ofAnchor a
  else if let some item := letterClass? flags letter then
    return .ofTest (.ofClass [item] flags.caseRule false)
  else if let some code := letterControl? letter then return .ofCode flags code
  else if let some read := readCodeEscape? letter then return .ofCode flags (← read)
  else if letter == '0' then
    return .ofCode flags (numberOf 8 (← Reading.takeWhile isOctalDigit 2))
  else if isDecimalDigit letter then readNumberEscape flags letter
  else return .ofCode flags (← readPlainEscape letter)

/-- An escape inside a class. -/
def readClassEscape (flags : Flags) (letter : Char) : Reading ClassItem := do
  if letter == 'b' then return .code 8
  else if let some code := letterControl? letter then return .code code
  else if let some item := letterClass? flags letter then return item
  else if let some read := readCodeEscape? letter then return .code (← read)
  else if isOctalDigit letter then return .code (← readOctalEscape letter)
  else return .code (← readPlainEscape letter)

/-- One member of a class, or one end of a range. -/
def readClassItem (flags : Flags) : Piece → Reading ClassItem
  | .plain c => return .code c.toNat
  | .escaped c => readClassEscape flags c

/-- The members of a class up to its closing bracket, which closes only if there are members already.
`opening` is the place of the opening bracket. -/
def readClassItems (flags : Flags) (opening : Nat) :
    Nat → List ClassItem → Reading (List ClassItem)
  | 0, _ => Reading.refuse .nestingTooDeep 0
  | n + 1, found => do
      match ← Reading.take with
      | none => Reading.refuseAt .unterminatedSet opening
      | some this =>
          if this == .plain ']' && !found.isEmpty then return found
          else
            let item ← readClassItem flags this
            if ← Reading.accept '-' then
              match ← Reading.take with
              | none => Reading.refuseAt .unterminatedSet opening
              | some that =>
                  if that == .plain ']' then return found ++ [item, .code '-'.toNat]
                  else
                    let other ← readClassItem flags that
                    let bad := Cause.badRange this.text that.text
                    match item, other with
                    | .code lo, .code hi =>
                        if hi < lo then Reading.refuse bad (this.width + 1 + that.width)
                        else readClassItems flags opening n (found ++ [.range lo hi])
                    | _, _ => Reading.refuse bad (this.width + 1 + that.width)
            else readClassItems flags opening n (found ++ [item])

/-- A class whose opening bracket has been taken.  A class of one character is that character. -/
def readClass (flags : Flags) (opening : Nat) : Reading Chunk := do
  let negated ← Reading.accept '^'
  let items ← readClassItems flags opening ((← get).rest.length + 1) []
  match items.eraseDups with
  | [.code c] => return .ofTest (.code c flags.caseRule negated)
  | distinct => return .ofTest (.ofClass distinct flags.caseRule negated)

end ModalHighlight.Pattern
