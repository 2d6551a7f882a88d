/-!
How alike two words are.  The longest piece that two texts share is set aside, then the longest of what stands
before it in both, the longest of what stands after it in both, and so on; all characters set aside are
shared.  Two words are close if at least three fifths of their characters are shared.
-/

namespace ModalHighlight.Text

/-- The number of characters that two texts start with in common. -/
def commonStart : List Char → List Char → Nat
  | a :: as, b :: bs => if a = b then commonStart as bs + 1 else 0
  | _, _ => 0

/-- A piece that stands in two texts: where it starts in each, and its length. -/
structure CommonPiece where
  left : Nat
  right : Nat
  size : Nat

/-- The longest common piece.  Of several as long, the one counts that starts first in the left text and,
among these, first in the right one. -/
def longestPiece (a b : List Char) : CommonPiece :=
  (List.range a.length).foldl (fun best i =>
    (List.range b.length).foldl (fun best j =>
      let size := commonStart (a.drop i) (b.drop j)
      if best.size < size then ⟨i, j, size⟩ else best) best) ⟨0, 0, 0⟩

/-- The number of shared characters.  Each piece takes at least one character of the left text, so its length
bounds the depth. -/
def sharedWithin : Nat → List Char → List Char → Nat
  | 0, _, _ => 0
  | n + 1, a, b =>
      let piece := longestPiece a b
      if piece.size = 0 then 0
      else
        sharedWithin n (a.take piece.left) (b.take piece.right) + piece.size +
          sharedWithin n (a.drop (piece.left + piece.size)) (b.drop (piece.right + piece.size))

/-- A word beside another one: how many characters they share, and how many they have in all. -/
structure Likeness where
  word : String
  shared : Nat
  total : Nat

/-- How like another word a word is. -/
def likeness (other word : String) : Likeness :=
  let a := word.toList
  let b := other.toList
  ⟨word, sharedWithin a.length a b, a.length + b.length⟩

namespace Likeness

/-- At least three fifths of the characters are shared, where each shared one counts in both words. -/
def isClose (l : Likeness) : Bool := decide (3 * l.total ≤ 10 * l.shared)

/-- The order of likeness, the closest first; what is as close goes from the end of the alphabet on. -/
def before (l r : Likeness) : Bool :=
  let left := l.shared * r.total
  let right := r.shared * l.total
  decide (right < left) || (left == right && decide (r.word ≤ l.word))

end Likeness

/-- The words close to a word, three at most and the closest of all, in alphabetical order. -/
def closeWords (word : String) (words : List String) : List String :=
  let close := (words.map (likeness word)).filter Likeness.isClose
  let best := ((close.mergeSort Likeness.before).take 3).map (·.word)
  best.mergeSort fun a b => decide (a ≤ b)

end ModalHighlight.Text
