/-!
What readers of documents share: the text that they have not read yet, and the faults that they find.
-/

namespace ModalHighlight.Data

/-- A fault at an offset, or a whole number too long to be read. -/
inductive Failure (Cause : Type)
  | fault (cause : Cause) (offset : Nat)
  | numberTooLong
deriving Repr, DecidableEq

/-- The text not read yet and its offset. -/
structure Rest where
  chars : List Char
  offset : Nat

namespace Rest

def fail {Cause α : Type} (r : Rest) (cause : Cause) : Except (Failure Cause) α :=
  .error (.fault cause r.offset)

def drop (r : Rest) (n : Nat) : Rest := ⟨r.chars.drop n, r.offset + n⟩

def next? (r : Rest) : Option Char := r.chars.head?

def startsWith (r : Rest) (text : String) : Bool := text.toList.isPrefixOf r.chars

/-- Skips characters of a class. -/
def skipWhile (r : Rest) (ok : Char → Bool) : Rest := r.drop (r.chars.takeWhile ok).length

end Rest

/-- The words for the line of an offset and for its column there, both counted from one. -/
def placeWords (chars : List Char) (offset : Nat) (between : String) : String :=
  let before := chars.take offset
  let row := before.count '\n' + 1
  let column := (before.reverse.takeWhile (· != '\n')).length + 1
  "line " ++ toString row ++ between ++ "column " ++ toString column

end ModalHighlight.Data
