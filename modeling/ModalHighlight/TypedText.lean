import ModalHighlight.Scan.Line
import ModalHighlight.Style
import ModalHighlight.Text.Lines

/-!
The tokens of a whole text, each with its offset and its token type.  Carriage returns and newlines at
the end of a line are whitespace; all other line terminators belong to the scanned line.
-/

namespace ModalHighlight

/-- A piece of a text at an offset, with its token type. -/
structure TypedToken where
  offset : Nat
  type : TokenType
  text : String
deriving Repr, DecidableEq

/-- Why a text has no typed tokens. -/
inductive TypingError
  | scan (e : ScanError)
  | style (e : StyleError)
deriving Repr, DecidableEq

/-- A carriage return or a newline. -/
def endsLine (c : Char) : Bool := c == '\n' || c == '\r'

/-- A line without the carriage returns and newlines at its end, and these. -/
def splitTerminator (line : List Char) : List Char × List Char :=
  let ending := line.reverse.takeWhile endsLine
  (line.take (line.length - ending.length), ending.reverse)

/-- The tokens of a line as typed tokens, from an offset on. -/
def typeTokens (styles : StyleMap) (offset : Nat) : List Token → Except StyleError (List TypedToken)
  | [] => .ok []
  | t :: rest =>
      match styles.typeOfKind t.kind with
      | .error e => .error e
      | .ok type =>
          match typeTokens styles offset rest with
          | .error e => .error e
          | .ok more => .ok (⟨offset + t.start, type, t.text⟩ :: more)

/-- The typed tokens of lines that still have their terminators. -/
def typeLines (g : CompiledGrammar) (styles : StyleMap) :
    List (List Char) → Nat → ModeStack → Except TypingError (List TypedToken)
  | [], _, _ => .ok []
  | line :: rest, offset, stack =>
      let (body, ending) := splitTerminator line
      match scanLine g (String.ofList body) stack with
      | .error e => .error (.scan e)
      | .ok result =>
          match typeTokens styles offset result.tokens with
          | .error e => .error (.style e)
          | .ok typed =>
              let blank := if ending.isEmpty then []
                else [⟨offset + body.length, TokenType.whitespace, String.ofList ending⟩]
              match typeLines g styles rest (offset + line.length) result.stack with
              | .error e => .error e
              | .ok more => .ok (typed ++ blank ++ more)

/-- The typed tokens of a text. -/
def typedTokens (g : CompiledGrammar) (styles : StyleMap) (text : String) :
    Except TypingError (List TypedToken) :=
  typeLines g styles ((Text.splitChars text.toList).map Text.SplitLine.whole) 0 initialStack

end ModalHighlight
