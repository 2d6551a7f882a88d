/-!
Lines of a text.  A line ends at any of the Unicode line boundaries, and a carriage return followed by
a newline is one boundary.  Lines and terminators together are the text they came from.
-/

namespace ModalHighlight.Text

/-- A character that ends a line. -/
def isLineBreak (c : Char) : Bool :=
  c == '\n' || c == '\r' || c == '\x0b' || c == '\x0c' || c == '\x1c' || c == '\x1d' || c == '\x1e'
    || c == '\u0085' || c == '\u2028' || c == '\u2029'

/-- A line without its terminator, and the terminator, which only the last line may lack. -/
structure SplitLine where
  body : List Char
  terminator : List Char

/-- The whole line, terminator included. -/
def SplitLine.whole (line : SplitLine) : List Char :=
  line.body ++ line.terminator

/-- Puts a character in front of the first line. -/
def consToFirst (c : Char) : List SplitLine → List SplitLine
  | [] => [⟨[c], []⟩]
  | line :: rest => ⟨c :: line.body, line.terminator⟩ :: rest

/-- The lines of a text, each with its terminator apart.  The empty text has no line. -/
def splitChars : List Char → List SplitLine
  | [] => []
  | '\r' :: '\n' :: rest => ⟨[], ['\r', '\n']⟩ :: splitChars rest
  | c :: rest =>
      if isLineBreak c then ⟨[], [c]⟩ :: splitChars rest
      else consToFirst c (splitChars rest)

/-- The lines of a text without their terminators. -/
def splitLines (text : String) : List String :=
  (splitChars text.toList).map fun line => String.ofList line.body

theorem consToFirst_whole (c : Char) (lines : List SplitLine) :
    (consToFirst c lines).flatMap SplitLine.whole = c :: lines.flatMap SplitLine.whole := by
  cases lines <;> simp [consToFirst, SplitLine.whole]

/-- Splitting loses nothing. -/
theorem flatMap_whole_splitChars (chars : List Char) :
    (splitChars chars).flatMap SplitLine.whole = chars := by
  fun_induction splitChars chars with
  | case1 => rfl
  | case2 rest ih => simp [SplitLine.whole, ih]
  | case3 c rest _ hbreak ih => simp [SplitLine.whole, ih]
  | case4 c rest _ hbreak ih => rw [consToFirst_whole, ih]

/-- A carriage return before a newline is left out. -/
def joinedNewlines : List Char → List Char
  | [] => []
  | '\r' :: '\n' :: rest => '\n' :: joinedNewlines rest
  | c :: rest => c :: joinedNewlines rest

/-- A carriage return, alone or before a newline, becomes a newline. -/
def universalNewlines : List Char → List Char
  | [] => []
  | '\r' :: '\n' :: rest => '\n' :: universalNewlines rest
  | c :: rest => (if c = '\r' then '\n' else c) :: universalNewlines rest

/-- A text as it is read from a text file: every line ends in a plain newline. -/
def withPlainNewlines (text : String) : String :=
  String.ofList (universalNewlines text.toList)

end ModalHighlight.Text
