/-!
Dates and times of day.  A moment has two texts: a plain one, with all its parts in a row, and a full one that
names what each part is, in which seconds and fractions of a second are left out where they are zero.
-/

namespace ModalHighlight.Data

structure Date where
  year : Nat
  month : Nat
  day : Nat
deriving Repr, DecidableEq

/-- A time of day, to the millionth of a second. -/
structure Clock where
  hour : Nat
  minute : Nat
  second : Nat
  micro : Nat
deriving Repr, DecidableEq

/-- A date, a time of day, or both, perhaps with the minutes by which the clock is ahead of universal time. -/
inductive Moment
  | date (d : Date)
  | time (t : Clock)
  | both (d : Date) (t : Clock) (ahead : Option Int)
deriving Repr, DecidableEq

/-- A number with zeros in front of it up to a width. -/
def padded (width n : Nat) : String :=
  let digits := Nat.toDigits 10 n
  String.ofList (List.replicate (width - digits.length) '0' ++ digits)

def Date.text (d : Date) : String :=
  padded 4 d.year ++ "-" ++ padded 2 d.month ++ "-" ++ padded 2 d.day

def Clock.text (t : Clock) : String :=
  padded 2 t.hour ++ ":" ++ padded 2 t.minute ++ ":" ++ padded 2 t.second ++
    if t.micro = 0 then "" else "." ++ padded 6 t.micro

/-- The text of a distance from universal time: a sign, hours and minutes. -/
def aheadText (minutes : Int) : String :=
  let size := minutes.natAbs
  (if minutes < 0 then "-" else "+") ++ padded 2 (size / 60) ++ ":" ++ padded 2 (size % 60)

def Moment.text : Moment → String
  | date d => d.text
  | time t => t.text
  | both d t ahead => d.text ++ " " ++ t.text ++ (ahead.map aheadText).getD ""

def Date.parts (d : Date) : List Nat := [d.year, d.month, d.day]

/-- Hour and minute, and what comes after them up to the last part that is not zero. -/
def Clock.parts (t : Clock) : List Nat :=
  [t.hour, t.minute] ++
    if t.micro ≠ 0 then [t.second, t.micro] else if t.second ≠ 0 then [t.second] else []

/-- The full text of a distance from universal time.  One that is behind is a day less, and then ahead. -/
def aheadFullText (minutes : Int) : String :=
  if minutes = 0 then "datetime.timezone.utc"
  else
    let seconds := (minutes * 60) % 86400
    "datetime.timezone(datetime.timedelta(" ++ (if minutes < 0 then "days=-1, " else "") ++
      "seconds=" ++ toString seconds ++ "))"

/-- The name of the kind of a moment. -/
def Moment.kindName : Moment → String
  | date _ => "date"
  | time _ => "time"
  | both _ _ _ => "datetime"

def Moment.fullText (m : Moment) : String :=
  let numbers := fun (parts : List Nat) => ", ".intercalate (parts.map toString)
  let inside := match m with
    | date d => numbers d.parts
    | time t => numbers t.parts
    | both d t ahead =>
        numbers (d.parts ++ t.parts) ++ (ahead.map fun n => ", tzinfo=" ++ aheadFullText n).getD ""
  "datetime." ++ m.kindName ++ "(" ++ inside ++ ")"

end ModalHighlight.Data
