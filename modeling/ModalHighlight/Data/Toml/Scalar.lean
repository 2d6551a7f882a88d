import ModalHighlight.Data.Toml.Source

/-!
Texts, numbers and moments of a TOML document.
-/

namespace ModalHighlight.Data.Toml

open ModalHighlight ModalHighlight.Text

/-- The character of an escape with a fixed number of hexadecimal digits, at the digits. -/
def readHexChar (r : Rest) (count : Nat) : Except Failure (List Char × Rest) :=
  let digits := r.chars.take count
  if digits.length < count || !digits.all isHexDigit then r.fail .badHex
  else
    let code := numberOf 16 digits
    let after := r.drop count
    if code < 0xD800 ∨ (0xE000 ≤ code ∧ code ≤ 0x10FFFF) then .ok ([Char.ofNat code], after)
    else after.fail .notScalar

/-- The character that a letter stands for after a backslash. -/
def escapedChar? : Char → Option Char
  | 'b' => some '\x08'
  | 't' => some '\t'
  | 'n' => some '\n'
  | 'f' => some '\x0c'
  | 'r' => some '\r'
  | '\x22' => some '\x22'
  | '\\' => some '\\'
  | _ => none

/-- An escape at its backslash.  In a text of several lines a backslash before the end of a line joins it
to the next character that is no blank. -/
def readEscape (lines : Bool) (r : Rest) : Except Failure (List Char × Rest) :=
  let after := r.drop 2
  match (r.drop 1).next? with
  | none => after.fail .badEscape
  | some letter =>
      if lines && letter == '\n' then .ok ([], after.skipWhile isBlankOrNewline)
      else if lines && isBlank letter then
        let atEnd := after.skipWhile isBlank
        match atEnd.next? with
        | none => .ok ([], atEnd)
        | some c =>
            if c == '\n' then .ok ([], atEnd.skipWhile isBlankOrNewline) else atEnd.fail .badEscape
      else if letter == 'u' then readHexChar after 4
      else if letter == 'U' then readHexChar after 8
      else
        match escapedChar? letter with
        | some c => .ok ([c], after)
        | none => after.fail .badEscape

/-- The rest of a text with escapes, after its opening quotes; `found` is in reverse. -/
def readBasic (lines : Bool) : Nat → Rest → List Char → Except Failure (List Char × Rest)
  | 0, r, _ => r.fail .unterminated
  | n + 1, r, found =>
      match r.next? with
      | none => r.fail .unterminated
      | some c =>
          if c == '\x22' then
            if !lines then .ok (found.reverse, r.drop 1)
            else if r.startsWith "\"\"\"" then .ok (found.reverse, r.drop 3)
            else readBasic lines n (r.drop 1) (c :: found)
          else if c == '\\' then
            match readEscape lines r with
            | .error e => .error e
            | .ok (meant, after) => readBasic lines n after (meant.reverse ++ found)
          else if (if lines then isForbiddenInLines c else isForbidden c) then
            r.fail (.illegalCharacter c)
          else readBasic lines n (r.drop 1) (c :: found)

/-- A text without escapes up to its closing quotes, which are taken too. -/
def readLiteral (delimiter : String) (forbidden : Char → Bool) (r : Rest) :
    Except Failure (List Char × Rest) :=
  match textBefore? delimiter.toList r.chars with
  | none => (r.drop r.chars.length).fail (.expected delimiter)
  | some text => do
      checkAllowed forbidden text r.offset
      return (text, r.drop (text.length + delimiter.length))

/-- Up to two more quotes before the closing ones belong to a text of several lines. -/
def addQuotes (quote : Char) : Nat → List Char × Rest → List Char × Rest
  | 0, read => read
  | n + 1, (text, r) =>
      if r.next? == some quote then addQuotes quote n (text ++ [quote], r.drop 1) else (text, r)

/-- A text of several lines, after its opening quotes; a newline right after them is left out. -/
def readLines (quote : Char) (r : Rest) : Except Failure (List Char × Rest) := do
  let r := if r.next? == some '\n' then r.drop 1 else r
  let read ←
    if quote == '\x22' then readBasic true (r.chars.length + 1) r []
    else readLiteral "'''" isForbiddenInLines r
  return addQuotes quote 2 read

/-- A text at its opening quote, or nothing if there is none. -/
def readText? (r : Rest) (severalLines : Bool) : Option (Except Failure (String × Rest)) :=
  let asString := fun (read : Except Failure (List Char × Rest)) =>
    read.map fun (text, r) => (String.ofList text, r)
  if severalLines && r.startsWith "\"\"\"" then some (asString (readLines '\x22' (r.drop 3)))
  else if severalLines && r.startsWith "'''" then some (asString (readLines '\x27' (r.drop 3)))
  else
    match r.next? with
    | some '\x22' => some (asString (readBasic false (r.chars.length + 1) (r.drop 1) []))
    | some '\x27' => some (asString (readLiteral "'" isForbidden (r.drop 1)))
    | _ => none

/-- Digits with single underscores between them: how much text they take, and the digits. -/
def groupedDigits (ok : Char → Bool) : List Char → Nat × List Char
  | [] => (0, [])
  | [c] => if ok c then (1, [c]) else (0, [])
  | c :: d :: rest =>
      if !ok c then (0, [])
      else if d == '_' then
        match groupedDigits ok rest with
        | (0, _) => (1, [c])
        | (size, digits) => (size + 2, c :: digits)
      else
        let (size, digits) := groupedDigits ok (d :: rest)
        (size + 1, c :: digits)

/-- A whole number in another base, after its leading zero. -/
def readBased? (chars : List Char) : Option (Value × Nat) :=
  let read := fun (base : Nat) (ok : Char → Bool) (rest : List Char) =>
    match groupedDigits ok rest with
    | (0, _) => none
    | (size, digits) => some (Value.int (numberOf base digits), size + 2)
  match chars with
  | '0' :: 'x' :: rest => read 16 isHexDigit rest
  | '0' :: 'b' :: rest => read 2 (fun c => c == '0' || c == '1') rest
  | '0' :: 'o' :: rest => read 8 (fun c => decide ('0' ≤ c ∧ c ≤ '7')) rest
  | _ => none

/-- The fraction of a number: the text it takes and its digits. -/
def fractionOf : List Char → Nat × List Char
  | '.' :: rest =>
      match groupedDigits isDecimalDigit rest with
      | (0, _) => (0, [])
      | (size, digits) => (size + 1, digits)
  | _ => (0, [])

/-- The exponent of a number: the text it takes and its value. -/
def exponentOf : List Char → Nat × Int
  | e :: rest =>
      if e == 'e' || e == 'E' then
        let (negative, signed) := match rest with
          | '-' :: _ => (true, 1)
          | '+' :: _ => (false, 1)
          | _ => (false, 0)
        match groupedDigits isDecimalDigit (rest.drop signed) with
        | (0, _) => (0, 0)
        | (size, digits) =>
            let n : Int := numberOf 10 digits
            (size + signed + 1, if negative then -n else n)
      else (0, 0)
  | [] => (0, 0)

/-- A decimal number with an optional sign. -/
def readDecimal? (chars : List Char) : Option (Except Failure (Value × Nat)) :=
  let (negative, signed) := match chars with
    | '-' :: _ => (true, 1)
    | '+' :: _ => (false, 1)
    | _ => (false, 0)
  let body := chars.drop signed
  let (size, digits) := match body with
    | '0' :: _ => (1, ['0'])
    | _ => groupedDigits isDecimalDigit body
  if size = 0 then none
  else
    let (fractionSize, fraction) := fractionOf (body.drop size)
    let (exponentSize, exponent) := exponentOf (body.drop (size + fractionSize))
    let total := signed + size + fractionSize + exponentSize
    if fractionSize + exponentSize = 0 then
      if Value.digitLimit < digits.length then some (.error .numberTooLong)
      else
        let n : Int := numberOf 10 digits
        some (.ok (.int (if negative then -n else n), total))
    else
      let mantissa := numberOf 10 (digits ++ fraction)
      some (.ok (.float (nearestDouble negative mantissa (exponent - fraction.length)), total))

/-- A word for a number that is infinite or none. -/
def specialNumber? (r : Rest) : Option (Value × Nat) :=
  let infinite : Float := 1.0 / 0.0
  let undefined : Float := 0.0 / 0.0
  if r.startsWith "inf" then some (.float infinite, 3)
  else if r.startsWith "nan" then some (.float undefined, 3)
  else if r.startsWith "+inf" then some (.float infinite, 4)
  else if r.startsWith "-inf" then some (.float (-infinite), 4)
  else if r.startsWith "+nan" || r.startsWith "-nan" then some (.float undefined, 4)
  else none

/-- Exactly so many digits at the front, as a number. -/
def fixedDigits? (count : Nat) (chars : List Char) : Option Nat :=
  let digits := chars.take count
  if digits.length = count ∧ digits.all isDecimalDigit then some (numberOf 10 digits) else none

/-- A time of day at the front and the text it takes.  Of the fraction of a second six digits count. -/
def clock? (chars : List Char) : Option (Clock × Nat) :=
  match fixedDigits? 2 chars, chars[2]?, fixedDigits? 2 (chars.drop 3), chars[5]?,
      fixedDigits? 2 (chars.drop 6) with
  | some hour, some ':', some minute, some ':', some second =>
      if hour < 24 ∧ minute < 60 ∧ second < 60 then
        match chars.drop 8 with
        | '.' :: rest =>
            let digits := rest.takeWhile isDecimalDigit
            if digits.isEmpty then some (⟨hour, minute, second, 0⟩, 8)
            else
              let micros := digits.take 6 ++ List.replicate (6 - digits.length) '0'
              some (⟨hour, minute, second, numberOf 10 micros⟩, 9 + digits.length)
        | _ => some (⟨hour, minute, second, 0⟩, 8)
      else none
  | _, _, _, _, _ => none

/-- The minutes by which a clock is ahead of universal time, at the front, and the text they take. -/
def aheadOf (chars : List Char) : Option Int × Nat :=
  match chars with
  | 'Z' :: _ | 'z' :: _ => (some 0, 1)
  | sign :: rest =>
      if sign == '+' || sign == '-' then
        match fixedDigits? 2 rest, rest[2]?, fixedDigits? 2 (rest.drop 3) with
        | some hour, some ':', some minute =>
            if hour < 24 ∧ minute < 60 then
              let size : Int := hour * 60 + minute
              (some (if sign == '-' then -size else size), 6)
            else (none, 0)
        | _, _, _ => (none, 0)
      else (none, 0)
  | [] => (none, 0)

/-- The number of days of a month. -/
def daysIn (year month : Nat) : Nat :=
  if month = 2 then
    if year % 4 = 0 ∧ (year % 100 ≠ 0 ∨ year % 400 = 0) then 29 else 28
  else if month = 4 ∨ month = 6 ∨ month = 9 ∨ month = 11 then 30
  else 31

/-- A date at the front, perhaps with a time. -/
def readDate? (r : Rest) : Option (Except Failure (Value × Rest)) :=
  let chars := r.chars
  match fixedDigits? 4 chars, chars[4]?, fixedDigits? 2 (chars.drop 5), chars[7]?,
      fixedDigits? 2 (chars.drop 8) with
  | some year, some '-', some month, some '-', some day =>
      if 1 ≤ month ∧ month ≤ 12 ∧ 1 ≤ day ∧ day ≤ 31 then
        if year = 0 ∨ daysIn year month < day then some (r.fail .badDate)
        else
          let date : Date := ⟨year, month, day⟩
          let rest := chars.drop 11
          let separated := match chars[10]? with
            | some c => c == 'T' || c == 't' || c == ' '
            | none => false
          match separated, clock? rest with
          | true, some (time, size) =>
              let (ahead, aheadSize) := aheadOf (rest.drop size)
              some (.ok (.moment (.both date time ahead), r.drop (11 + size + aheadSize)))
          | _, _ => some (.ok (.moment (.date date), r.drop 10))
      else none
  | _, _, _, _, _ => none

/-- A time of day at the front. -/
def readTime? (r : Rest) : Option (Except Failure (Value × Rest)) :=
  (clock? r.chars).map fun (time, size) => .ok (.moment (.time time), r.drop size)

/-- A value at the front that is neither a text nor made of other values. -/
def readPlain (r : Rest) : Except Failure (Value × Rest) :=
  if r.startsWith "true" then .ok (.bool true, r.drop 4)
  else if r.startsWith "false" then .ok (.bool false, r.drop 5)
  else if let some read := readDate? r then read
  else if let some read := readTime? r then read
  else if let some (value, size) := readBased? r.chars then .ok (value, r.drop size)
  else if let some read := readDecimal? r.chars then
    read.map fun (value, size) => (value, r.drop size)
  else if let some (value, size) := specialNumber? r then .ok (value, r.drop size)
  else r.fail .value

end ModalHighlight.Data.Toml
