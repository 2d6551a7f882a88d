/-!
Names of characters, run by run.  Neighbours often begin with the same words, so a name is written as what
changes from the one before: small letters say how many characters go from its end, each as many as its
place in the alphabet counted from `a`, and then stand the characters that come.
-/

namespace ModalHighlight.Text

/-- Characters from `first` on, one after another, with their names in the lines of a text. -/
structure NameRun where
  first : Nat
  lines : List String

/-- A name from the one before it. -/
def respell (before written : List Char) : List Char :=
  let (drops, added) := written.span Char.isLower
  let dropped := drops.foldl (fun n c => n + (c.toNat - 'a'.toNat)) 0
  before.take (before.length - dropped) ++ added

/-- The names of a run in order.  A name is written up to the first small letter that follows another
character. -/
def NameRun.names (run : NameRun) : List (List Char) :=
  (((run.lines.flatMap String.toList).splitBy fun a b => a.isLower || !b.isLower).scanl respell []).tail

example : (NameRun.mk 56 ["DIGIT EIGHTfNI", "NEkCOLONfSEMICOLON"]).names =
    ["DIGIT EIGHT", "DIGIT NINE", "COLON", "SEMICOLON"].map String.toList := by decide

end ModalHighlight.Text
