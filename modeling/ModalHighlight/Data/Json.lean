import ModalHighlight.Data.Document
import ModalHighlight.Data.Value
import ModalHighlight.Text.CharClass
import ModalHighlight.Text.Digits
import ModalHighlight.Text.Surrogate

/-!
Reading JSON documents.  A fault is a cause at an offset, and its message also names line and column.
Beyond the standard the numbers `NaN`, `Infinity` and `-Infinity` are read, and of a repeated key the
last value counts, at the place of the first.
-/

namespace ModalHighlight.Data.Json

open ModalHighlight ModalHighlight.Text

/-- What is wrong with a document. -/
inductive Cause
  | value
  | propertyName
  | comma
  | colon
  | extraData
  | controlCharacter
  | escape
  | unicodeEscape
  | unterminatedString
  | byteOrderMark
deriving Repr, DecidableEq

def Cause.message : Cause → String
  | value => "Expecting value"
  | propertyName => "Expecting property name enclosed in double quotes"
  | comma => "Expecting ',' delimiter"
  | colon => "Expecting ':' delimiter"
  | extraData => "Extra data"
  | controlCharacter => "Invalid control character at"
  | escape => "Invalid \\escape"
  | unicodeEscape => "Invalid \\uXXXX escape"
  | unterminatedString => "Unterminated string starting at"
  | byteOrderMark => "Unexpected UTF-8 BOM (decode using utf-8-sig)"

abbrev Failure := Data.Failure Cause

/-- The message of a fault, with line, column and offset. -/
def faultMessage (text : String) (cause : Cause) (offset : Nat) : String :=
  cause.message ++ ": " ++ placeWords text.toList offset " " ++ " (char " ++ toString offset ++ ")"

/-- What reading gives: a result and the rest of the text. -/
abbrev Reads (α : Type) := Except Failure (α × Rest)

def isBlank (c : Char) : Bool :=
  c == ' ' || c == '\t' || c == '\n' || c == '\r'

def skip (r : Rest) : Rest := r.skipWhile isBlank

/-- The value of four hexadecimal digits at the front. -/
def hexFour? (chars : List Char) : Option Nat :=
  let digits := chars.take 4
  if digits.length = 4 ∧ digits.all isHexDigit then some (numberOf 16 digits) else none

/-- The second half of a pair of surrogates: an escape that at least one more character follows. -/
def lowSurrogate? (chars : List Char) (offset : Nat) : Except Failure (Option Nat) :=
  match chars with
  | '\\' :: 'u' :: rest =>
      if (rest.drop 4).isEmpty then .ok none
      else
        match hexFour? rest with
        | none => .error (.fault .unicodeEscape (offset + 1))
        | some low => .ok (if 0xDC00 ≤ low ∧ low ≤ 0xDFFF then some low else none)
  | _ => .ok none

/-- The character that an escape stands for, and the length of the escape after its backslash.  The
backslash stands just before `offset`. -/
def readEscape (start : Nat) (chars : List Char) (offset : Nat) : Except Failure (Char × Nat) :=
  match chars with
  | [] => .error (.fault .unterminatedString start)
  | '\x22' :: _ => .ok ('\x22', 1)
  | '\\' :: _ => .ok ('\\', 1)
  | '/' :: _ => .ok ('/', 1)
  | 'b' :: _ => .ok ('\x08', 1)
  | 'f' :: _ => .ok ('\x0c', 1)
  | 'n' :: _ => .ok ('\n', 1)
  | 'r' :: _ => .ok ('\r', 1)
  | 't' :: _ => .ok ('\t', 1)
  | 'u' :: rest =>
      if (rest.drop 4).isEmpty then .error (.fault .unicodeEscape offset)
      else
        match hexFour? rest with
        | none => .error (.fault .unicodeEscape offset)
        | some code =>
            if 0xD800 ≤ code ∧ code ≤ 0xDBFF then
              match lowSurrogate? (rest.drop 4) (offset + 5) with
              | .error e => .error e
              | .ok (some low) =>
                  .ok (Char.ofNat (0x10000 + (code - 0xD800) * 0x400 + (low - 0xDC00)), 11)
              | .ok none => .ok (charOfCode code, 5)
            else .ok (charOfCode code, 5)
  | _ :: _ => .error (.fault .escape (offset - 1))

/-- The rest of a string whose opening quote stands at `start`; `found` is in reverse. -/
def readString (start : Nat) (chars : List Char) (offset : Nat) (found : List Char) : Reads String :=
  match chars with
  | [] => .error (.fault .unterminatedString start)
  | c :: rest =>
      if c == '\x22' then .ok (String.ofList found.reverse, ⟨rest, offset + 1⟩)
      else if c == '\\' then
        match readEscape start rest (offset + 1) with
        | .error e => .error e
        | .ok (meant, length) =>
            readString start (rest.drop length) (offset + 1 + length) (meant :: found)
      else if c.toNat ≤ 0x1f then .error (.fault .controlCharacter offset)
      else readString start rest (offset + 1) (c :: found)
termination_by chars.length
decreasing_by
  · simp only [List.length_drop, List.length_cons]; omega
  · simp only [List.length_cons]; omega

/-- The fraction of a number: a point with at least one digit. -/
def readFraction : List Char → List Char
  | '.' :: rest => rest.takeWhile isDecimalDigit
  | _ => []

/-- The exponent of a number and its length, if a letter, perhaps a sign, and a digit are there. -/
def readExponent : List Char → Option (Int × Nat)
  | [] => none
  | e :: rest =>
      if e == 'e' || e == 'E' then
        let (negative, signed, digits) := match rest with
          | '-' :: more => (true, 1, more.takeWhile isDecimalDigit)
          | '+' :: more => (false, 1, more.takeWhile isDecimalDigit)
          | _ => (false, 0, rest.takeWhile isDecimalDigit)
        if digits.isEmpty then none
        else
          let size : Int := numberOf 10 digits
          some (if negative then -size else size, 1 + signed + digits.length)
      else none

/-- A number: an optional minus, a zero or digits that start with another, and perhaps a fraction and an
exponent. -/
def readNumber (r : Rest) : Reads Value :=
  let (negative, body) := match r.chars with
    | '-' :: rest => (true, rest)
    | chars => (false, chars)
  let whole := match body with
    | '0' :: _ => ['0']
    | chars => chars.takeWhile isDecimalDigit
  if whole.isEmpty then .error (.fault .value r.offset)
  else
    let afterWhole := body.drop whole.length
    let fraction := readFraction afterWhole
    let fractionLength := if fraction.isEmpty then 0 else fraction.length + 1
    let afterFraction := afterWhole.drop fractionLength
    let length := (if negative then 1 else 0) + whole.length + fractionLength
    match fraction, readExponent afterFraction with
    | [], none =>
        if Value.digitLimit < whole.length then .error .numberTooLong
        else
          let n : Int := numberOf 10 whole
          .ok (.int (if negative then -n else n), r.drop length)
    | _, exponent? =>
        let (exponent, exponentLength) := exponent?.getD (0, 0)
        let mantissa := numberOf 10 (whole ++ fraction)
        .ok (.float (nearestDouble negative mantissa (exponent - fraction.length)),
          r.drop (length + exponentLength))

/-- A word that stands for a value. -/
def word? (chars : List Char) : Option (Value × Nat) :=
  let starts := fun (word : String) => word.toList.isPrefixOf chars
  if starts "null" then some (.null, 4)
  else if starts "true" then some (.bool true, 4)
  else if starts "false" then some (.bool false, 5)
  else if starts "NaN" then some (.float (0.0 / 0.0), 3)
  else if starts "Infinity" then some (.float (1.0 / 0.0), 8)
  else if starts "-Infinity" then some (.float (-1.0 / 0.0), 9)
  else none

mutual

/-- A value at the front of the text. -/
def readValue : Nat → Rest → Reads Value
  | 0, r => .error (.fault .value r.offset)
  | n + 1, r =>
      match r.chars with
      | [] => .error (.fault .value r.offset)
      | '\x22' :: rest =>
          match readString r.offset rest (r.offset + 1) [] with
          | .error e => .error e
          | .ok (s, r) => .ok (.str s, r)
      | '{' :: rest =>
          let r := skip ⟨rest, r.offset + 1⟩
          match r.chars with
          | '}' :: _ => .ok (.table [], r.drop 1)
          | _ => readFields n r []
      | '[' :: rest =>
          let r := skip ⟨rest, r.offset + 1⟩
          match r.chars with
          | ']' :: _ => .ok (.list [], r.drop 1)
          | _ => readItems n r []
      | chars =>
          match word? chars with
          | some (value, length) => .ok (value, r.drop length)
          | none => readNumber r

/-- The items of a list from one item on; those found before are in reverse. -/
def readItems : Nat → Rest → List Value → Reads Value
  | 0, r, _ => .error (.fault .value r.offset)
  | n + 1, r, found =>
      match readValue n r with
      | .error e => .error e
      | .ok (item, r) =>
          let r := skip r
          match r.chars with
          | ']' :: _ => .ok (.list (item :: found).reverse, r.drop 1)
          | ',' :: _ => readItems n (skip (r.drop 1)) (item :: found)
          | _ => .error (.fault .comma r.offset)

/-- The fields of a table from one key on. -/
def readFields : Nat → Rest → List (String × Value) → Reads Value
  | 0, r, _ => .error (.fault .propertyName r.offset)
  | n + 1, r, found =>
      match r.chars with
      | '\x22' :: rest =>
          match readString r.offset rest (r.offset + 1) [] with
          | .error e => .error e
          | .ok (key, r) =>
              let r := skip r
              match r.chars with
              | ':' :: _ =>
                  match readValue n (skip (r.drop 1)) with
                  | .error e => .error e
                  | .ok (value, r) =>
                      let found := setField key value found
                      let r := skip r
                      match r.chars with
                      | '}' :: _ => .ok (.table found, r.drop 1)
                      | ',' :: _ => readFields n (skip (r.drop 1)) found
                      | _ => .error (.fault .comma r.offset)
              | _ => .error (.fault .colon r.offset)
      | _ => .error (.fault .propertyName r.offset)

end

/-- Reads a document: one value with blanks around it. -/
def parse (text : String) : Except Failure Value :=
  let chars := text.toList
  match chars with
  | '\ufeff' :: _ => .error (.fault .byteOrderMark 0)
  | _ =>
      match readValue (2 * chars.length + 2) (skip ⟨chars, 0⟩) with
      | .error e => .error e
      | .ok (value, r) =>
          let r := skip r
          if r.chars.isEmpty then .ok value else .error (.fault .extraData r.offset)

end ModalHighlight.Data.Json
