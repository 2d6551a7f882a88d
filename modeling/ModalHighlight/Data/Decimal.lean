/-!
Decimal text of binary floating-point numbers: the fewest digits that read back as the same number,
and of those the nearest.  All arithmetic is on natural numbers.  A number `m · 2^q` is the nearest
double to every point between its two half-way points, which count as near when `m` is even.
-/

namespace ModalHighlight.Data

/-- A positive finite double, as a fraction and the half-way points around it over one denominator. -/
structure Neighbourhood where
  below : Nat
  value : Nat
  above : Nat
  denominator : Nat
  /-- The half-way points themselves read back as the number. -/
  closed : Bool

/-- A positive number `mantissa · 2^(exponent - 1075)` whose half-way points are at half a unit, and at a
quarter below where the spacing changes. -/
def Neighbourhood.ofParts (mantissa exponent : Nat) (spacingChanges : Bool) : Neighbourhood :=
  let scaleUp := Nat.pow 2 (exponent - 1075)
  let scaleDown := 4 * Nat.pow 2 (1075 - exponent)
  { below := (4 * mantissa - if spacingChanges then 1 else 2) * scaleUp
    value := 4 * mantissa * scaleUp
    above := (4 * mantissa + 2) * scaleUp
    denominator := scaleDown
    closed := mantissa % 2 == 0 }

/-- The half-way points contain the fraction `num / den`. -/
def Neighbourhood.contains (n : Neighbourhood) (num den : Nat) : Bool :=
  let lo := n.below * den
  let hi := n.above * den
  let x := num * n.denominator
  if n.closed then decide (lo ≤ x ∧ x ≤ hi) else decide (lo < x ∧ x < hi)

/-- Decimal digits and the power of ten that the first of them counts. -/
structure Digits where
  digits : Nat
  power : Int
deriving Repr

/-- The least `k ≤ bound` with `den ≤ num * 10 ^ k`, or the bound. -/
def powerToReach (num den : Nat) : Nat → Nat → Nat
  | 0, k => k
  | bound + 1, k => if den ≤ num * Nat.pow 10 k then k else powerToReach num den bound (k + 1)

/-- The power of ten of the leading digit of a positive fraction. -/
def leadingPower (num den : Nat) : Int :=
  if den ≤ num then ((Nat.toDigits 10 (num / den)).length : Int) - 1
  else -(powerToReach num den 400 0 : Int)

/-- The fraction `d · 10^power`. -/
def decimalFraction (d : Nat) (power : Int) : Nat × Nat :=
  (d * Nat.pow 10 power.toNat, Nat.pow 10 (-power).toNat)

/-- The better of the two points of a decimal grid that enclose the number, if one reads back. -/
def Neighbourhood.onGrid (n : Neighbourhood) (power : Int) : Option Nat :=
  let (one, oneDen) := decimalFraction 1 power
  let lower := n.value * oneDen / (n.denominator * one)
  let near := fun d => let (num, den) := decimalFraction d power; n.contains num den
  let twiceMiddle := (2 * lower + 1) * one * n.denominator
  let twiceValue := 2 * n.value * oneDen
  match near lower && lower != 0, near (lower + 1) with
  | true, false => some lower
  | false, true => some (lower + 1)
  | false, false => none
  | true, true =>
      if twiceValue < twiceMiddle then some lower
      else if twiceMiddle < twiceValue then some (lower + 1)
      else if lower % 2 = 0 then some lower else some (lower + 1)

/-- The first grid that holds a point that reads back, trying `count` digits and then more. -/
def Neighbourhood.shortestFrom (n : Neighbourhood) (leading : Int) : Nat → Nat → Digits
  | 0, _ => ⟨0, 0⟩
  | more + 1, count =>
      let power := leading - (count : Int) + 1
      match n.onGrid power with
      | some d => ⟨d, power⟩
      | none => n.shortestFrom leading more (count + 1)

/-- The shortest decimal that reads back. -/
def Neighbourhood.shortest (n : Neighbourhood) : Digits :=
  n.shortestFrom (leadingPower n.value n.denominator) 17 1

/-- Digits with a point: whole numbers end in `.0`; from `10^16` on and below `10^-4` an exponent of at
least two digits follows the first digit. -/
def Digits.render (d : Digits) : String :=
  let chars := (Nat.toDigits 10 d.digits).reverse.dropWhile (· == '0') |>.reverse
  let written := Nat.toDigits 10 d.digits
  let leading := d.power + (written.length : Int) - 1
  if -4 ≤ leading ∧ leading < 16 then
    if leading < 0 then
      String.ofList ("0.".toList ++ List.replicate (-leading - 1).toNat '0' ++ chars)
    else
      let whole := leading.toNat + 1
      let before := chars.take whole ++ List.replicate (whole - chars.length) '0'
      let after := chars.drop whole
      String.ofList (before ++ ['.'] ++ if after.isEmpty then ['0'] else after)
  else
    let first := chars.take 1
    let after := chars.drop 1
    let size := Nat.toDigits 10 leading.natAbs
    let padded := List.replicate (2 - size.length) '0' ++ size
    String.ofList (first ++ (if after.isEmpty then [] else '.' :: after) ++
      ['e', if leading < 0 then '-' else '+'] ++ padded)

/-- The text of a double, from its bits. -/
def doubleText (bits : UInt64) : String :=
  let raw := bits.toNat
  let negative := raw / Nat.pow 2 63 % 2 == 1
  let exponent := raw / Nat.pow 2 52 % 2048
  let fraction := raw % Nat.pow 2 52
  let sign := if negative then "-" else ""
  if exponent == 2047 then if fraction == 0 then sign ++ "inf" else "nan"
  else if exponent == 0 && fraction == 0 then sign ++ "0.0"
  else
    let mantissa := if exponent == 0 then fraction else fraction + Nat.pow 2 52
    let scale := if exponent == 0 then 1 else exponent
    let edge := fraction == 0 && decide (1 < exponent)
    sign ++ (Neighbourhood.ofParts mantissa scale edge).shortest.render

/-- The double nearest to `mantissa · 10^exponent`, where numbers beyond the largest double become
infinite. -/
def nearestDouble (negative : Bool) (mantissa : Nat) (exponent : Int) : Float :=
  let size := ((Nat.toDigits 10 mantissa).length : Int)
  let magnitude : Float :=
    if mantissa = 0 then 0.0
    else if 400 < exponent + size then 1.0 / 0.0
    else if exponent + size < -400 then 0.0
    else if 0 ≤ exponent then Float.ofScientific mantissa false exponent.toNat
    else Float.ofScientific mantissa true (-exponent).toNat
  if negative then -magnitude else magnitude

end ModalHighlight.Data
