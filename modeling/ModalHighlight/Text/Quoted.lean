import ModalHighlight.Text.CharClass
import ModalHighlight.Text.Surrogate

/-!
The quoted display of a text, as diagnostics show it: in single quotes, or in double quotes when the
text holds single quotes and no double ones.  The backslash and the chosen quote take a backslash,
and what would not show is written by its code.
-/

namespace ModalHighlight.Text

/-- The hexadecimal digits of a number, lower case, filled with zeros to a width. -/
def hexDigits (width : Nat) (n : Nat) : String :=
  let digits := Nat.toDigits 16 n
  String.ofList (List.replicate (width - digits.length) '0' ++ digits)

/-- The quote that a text is displayed in. -/
def chosenQuote (chars : List Char) : Char :=
  if chars.contains '\x27' && !chars.contains '\x22' then '\x22' else '\x27'

/-- A code point written as an escape. -/
def escapedCode (code : Nat) : String :=
  if code < 0x100 then "\\x" ++ hexDigits 2 code
  else if code < 0x10000 then "\\u" ++ hexDigits 4 code
  else "\\U" ++ hexDigits 8 code

/-- One character of a quoted text. -/
def quotedChar (quote c : Char) : String :=
  if c == quote || c == '\\' then String.ofList ['\\', c]
  else if c == '\n' then "\\n"
  else if c == '\r' then "\\r"
  else if c == '\t' then "\\t"
  else if isPrintable c.toNat then String.singleton c
  else escapedCode (codePoint c)

/-- A text in which lone surrogates are written as escapes. -/
def withEscapedSurrogates (s : String) : String :=
  if hasSurrogate s then
    String.join <| s.toList.map fun c =>
      if holdsSurrogate c then escapedCode (codePoint c) else String.singleton c
  else s

/-- The quoted display of a text. -/
def quoted (s : String) : String :=
  let quote := chosenQuote s.toList
  String.singleton quote ++ String.join (s.toList.map (quotedChar quote)) ++ String.singleton quote

end ModalHighlight.Text
