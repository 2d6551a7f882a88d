/-!
Lone surrogates.  A document can name one half of a pair of surrogates alone, which is a code point but no
character.  A text holds it as a character of the last private plane, so that texts with different surrogates
differ.  Such a character in a text is taken for the surrogate where the text is displayed or written, and for
itself where it is matched, by a pattern as by a word.
-/

namespace ModalHighlight.Text

/-- The distance from a surrogate to the character that is held in its place. -/
def surrogateShift : Nat := 0x100000

/-- The code point is half a pair of surrogates. -/
def isSurrogate (code : Nat) : Bool := decide (0xD800 ≤ code ∧ code ≤ 0xDFFF)

/-- The character for a code point. -/
def charOfCode (code : Nat) : Char :=
  if isSurrogate code then Char.ofNat (surrogateShift + code) else Char.ofNat code

/-- The character is held in the place of a surrogate. -/
def holdsSurrogate (c : Char) : Bool :=
  decide (surrogateShift ≤ c.toNat) && isSurrogate (c.toNat - surrogateShift)

/-- The code point that a character stands for. -/
def codePoint (c : Char) : Nat :=
  if holdsSurrogate c then c.toNat - surrogateShift else c.toNat

/-- The text holds a lone surrogate. -/
def hasSurrogate (text : String) : Bool := text.toList.any holdsSurrogate

end ModalHighlight.Text
