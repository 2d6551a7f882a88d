import ModalHighlight.Data.Value

/-!
Colors of a terminal: the sixteen that have names, and a palette of 254 by number.  A color that is given by
its red, green and blue parts stands for the nearest one of the palette.
-/

namespace ModalHighlight

open ModalHighlight.Text

/-- A color of the palette, or a named one by the code of its foreground. -/
inductive Color
  | indexed (n : Nat)
  | named (code : Nat)
deriving Repr, DecidableEq

namespace Color

/-- The numbers that choose a color for the letters. -/
def foreground : Color → List String
  | indexed n => ["38", "5", toString n]
  | named code => [Data.padded 2 code]

/-- The numbers that choose a color for what is behind the letters. -/
def background : Color → List String
  | indexed n => ["48", "5", toString n]
  | named code => [toString (code + 10)]

/-- The named colors.  White is no color of its own but bold type. -/
def codes : List (String × Nat) :=
  [("ansiblack", 30), ("ansired", 31), ("ansigreen", 32), ("ansiyellow", 33), ("ansiblue", 34),
    ("ansimagenta", 35), ("ansicyan", 36), ("ansigray", 37), ("ansibrightblack", 90),
    ("ansibrightred", 91), ("ansibrightgreen", 92), ("ansibrightyellow", 93), ("ansibrightblue", 94),
    ("ansibrightmagenta", 95), ("ansibrightcyan", 96), ("ansiwhite", 1)]

/-- The parts of a color, from 0 to 255. -/
structure Parts where
  red : Nat
  green : Nat
  blue : Nat
deriving Repr, DecidableEq

/-- The first sixteen colors. -/
def basicParts : List Parts :=
  [⟨0, 0, 0⟩, ⟨205, 0, 0⟩, ⟨0, 205, 0⟩, ⟨205, 205, 0⟩, ⟨0, 0, 238⟩, ⟨205, 0, 205⟩, ⟨0, 205, 205⟩,
    ⟨229, 229, 229⟩, ⟨127, 127, 127⟩, ⟨255, 0, 0⟩, ⟨0, 255, 0⟩, ⟨255, 255, 0⟩, ⟨92, 92, 255⟩,
    ⟨255, 0, 255⟩, ⟨0, 255, 255⟩, ⟨255, 255, 255⟩]

/-- The steps of each part in the cube of colors. -/
def cubeStep (n : Nat) : Nat := if n = 0 then 0 else 55 + 40 * n

/-- The palette: the basic colors, the cube, once more its first color, and shades of gray. -/
def palette : List Parts :=
  basicParts ++
    ((List.range 217).map fun i =>
      ⟨cubeStep (i / 36 % 6), cubeStep (i / 6 % 6), cubeStep (i % 6)⟩) ++
    ((List.range 21).map fun i => ⟨18 + 10 * i, 18 + 10 * i, 18 + 10 * i⟩)

/-- The square of the distance between two colors. -/
def distance (a b : Parts) : Nat :=
  let square := fun (m n : Nat) => (m - n + (n - m)) * (m - n + (n - m))
  square a.red b.red + square a.green b.green + square a.blue b.blue

/-- The number of the nearest color from a number on, given the nearest so far and its distance. -/
def nearestFrom (target : Parts) : List Parts → Nat → Nat → Nat → Nat
  | [], _, best, _ => best
  | parts :: rest, n, best, least =>
      let d := distance target parts
      if d < least then nearestFrom target rest (n + 1) n d
      else nearestFrom target rest (n + 1) best least

/-- The number of the nearest color of the palette, the first of several. -/
def nearest (target : Parts) : Nat := nearestFrom target palette 0 0 (3 * 257 * 257)

/-- The value of a hexadecimal digit; decimal digits may be of any script. -/
def hexValue? (c : Char) : Option Nat :=
  if 'a' ≤ c ∧ c ≤ 'f' then some (c.toNat - 87)
  else if 'A' ≤ c ∧ c ≤ 'F' then some (c.toNat - 55)
  else digitValue? c.toNat

/-- The number that hexadecimal digits write; single underscores may stand between them. -/
def hexDigitsValue? : List Char → Nat → Option Nat
  | [], _ => none
  | [c], n => (hexValue? c).map (n * 16 + ·)
  | c :: '_' :: rest, n => (hexValue? c).bind fun d => hexDigitsValue? rest (n * 16 + d)
  | c :: rest, n => (hexValue? c).bind fun d => hexDigitsValue? rest (n * 16 + d)

/-- The whole number that a text writes with hexadecimal digits, perhaps with a sign and with the mark of such
numbers in front, and with blanks around it. -/
def hexNumber? (chars : List Char) : Option Int :=
  let blank := fun (c : Char) => isSpace c.toNat
  let core := ((chars.dropWhile blank).reverse.dropWhile blank).reverse
  let (negative, unsigned) := match core with
    | '-' :: rest => (true, rest)
    | '+' :: rest => (false, rest)
    | _ => (false, core)
  let digits := match unsigned with
    | '0' :: 'x' :: '_' :: rest | '0' :: 'X' :: '_' :: rest => rest
    | '0' :: 'x' :: rest | '0' :: 'X' :: rest => rest
    | _ => unsigned
  (hexDigitsValue? digits 0).map fun n => if negative then -(n : Int) else n

/-- The color of the palette for a number with two digits for each part; what is no number is black. -/
def ofText (text : String) : Color :=
  let n := (hexNumber? text.toList).getD 0
  indexed (nearest ⟨(n / 65536 % 256).toNat, (n / 256 % 256).toNat, (n % 256).toNat⟩)

/-- The color that a value stands for.  Lists and tables stand for none. -/
def ofValue? : Value → Option Color
  | .list _ | .table _ => none
  | .str text =>
      match codes.lookup text with
      | some code => some (named code)
      | none => some (ofText text)
  | value => some (if value.isDisplayable then ofText value.display else ofText "")

end Color

end ModalHighlight
