import ModalHighlight.Text.Quoted
import ModalHighlight.Text.Similarity

/-!
Arguments.  An argument that starts with a dash and goes on is an option: one name after two dashes, or
several letters after one.  The value of an option is attached to it or is the next argument.  Two dashes
alone end the options, and all else is a plain argument.
-/

namespace ModalHighlight.Command

open ModalHighlight

/-- An option: what it stands for, how it is spelled, and whether it takes a value. -/
structure OptionRule (α : Type) where
  meaning : α
  spellings : List String
  takesValue : Bool := false

/-- An option as it was given; without a value the text is empty. -/
structure GivenOption (α : Type) where
  meaning : α
  value : String
deriving Repr, DecidableEq

/-- What is wrong with the options. -/
inductive ArgumentError
  | unknownOption (spelling : String) (close : List String)
  | valueMissing (spelling : String)
  | valueNotTaken (spelling : String)
deriving Repr, DecidableEq

/-- What else may have been meant by a word, after the sentence that refuses it. -/
def suggestion : List String → String
  | [] => ""
  | [other] => " Did you mean " ++ Text.quoted other ++ "?"
  | others => " (Did you mean one of: " ++ ", ".intercalate (others.map Text.quoted) ++ "?)"

def ArgumentError.message : ArgumentError → String
  | unknownOption spelling close =>
      "No such option " ++ Text.quoted spelling ++ "." ++ suggestion close
  | valueMissing spelling => "Option " ++ Text.quoted spelling ++ " requires an argument."
  | valueNotTaken spelling => "Option " ++ Text.quoted spelling ++ " does not take a value."

/-- The text is an option by its looks. -/
def isOption (arg : String) : Bool :=
  match arg.toList with
  | '-' :: _ :: _ => true
  | _ => false

/-- The text starts with two dashes. -/
def isLong (arg : String) : Bool :=
  match arg.toList with
  | '-' :: '-' :: _ => true
  | _ => false

/-- The name of an option, and the value that is attached to it after an equals sign. -/
def splitAttached (arg : String) : String × Option String :=
  let chars := arg.toList
  let name := chars.takeWhile (· != '=')
  match chars.drop name.length with
  | [] => (arg, none)
  | _ :: value => (String.ofList name, some (String.ofList value))

section

variable {α : Type} (rules : List (OptionRule α))

/-- The option of a spelling. -/
def findOption (spelling : String) : Option (OptionRule α) :=
  rules.find? fun r => r.spellings.contains spelling

/-- All spellings with two dashes. -/
def longSpellings : List String :=
  (rules.flatMap (·.spellings)).filter isLong

/-- Takes an option with two dashes off the arguments. -/
def takeLong (arg : String) (rest : List String) :
    Except ArgumentError (List (GivenOption α) × List String) :=
  let (name, attached) := splitAttached arg
  match findOption rules name with
  | none => .error (.unknownOption name (Text.closeWords name (longSpellings rules)))
  | some rule =>
      if rule.takesValue then
        match attached.toList ++ rest with
        | [] => .error (.valueMissing name)
        | value :: rest => .ok ([⟨rule.meaning, value⟩], rest)
      else if attached.isSome then .error (.valueNotTaken name)
      else .ok ([⟨rule.meaning, ""⟩], rest)

/-- Takes options of one letter each off the arguments.  What follows a letter that takes a value is its
value. -/
def takeLetters : List Char → List String → List (GivenOption α) →
    Except ArgumentError (List (GivenOption α) × List String)
  | [], rest, given => .ok (given, rest)
  | letter :: letters, rest, given =>
      let spelling := String.ofList ['-', letter]
      match findOption rules spelling with
      | none => .error (.unknownOption spelling [])
      | some rule =>
          if rule.takesValue then
            match letters, rest with
            | [], [] => .error (.valueMissing spelling)
            | [], value :: rest => .ok (given ++ [⟨rule.meaning, value⟩], rest)
            | attached, rest => .ok (given ++ [⟨rule.meaning, String.ofList attached⟩], rest)
          else takeLetters letters rest (given ++ [⟨rule.meaning, ""⟩])

/-- Takes an option off the arguments. -/
def takeOption (arg : String) (rest : List String) :
    Except ArgumentError (List (GivenOption α) × List String) :=
  if isLong arg then takeLong rules arg rest else takeLetters rules (arg.toList.drop 1) rest []

/-- Arguments taken apart: the options in order, and the plain arguments. -/
structure Parsed (α : Type) where
  given : List (GivenOption α)
  plain : List String

/-- Takes arguments apart.  Unless options may follow plain arguments, the first of these ends the options.
Every step takes an argument, so their number bounds the steps. -/
def parseSteps (mixed : Bool) : Nat → List String → Parsed α → Except ArgumentError (Parsed α)
  | 0, args, p => .ok { p with plain := p.plain ++ args }
  | _ + 1, [], p => .ok p
  | n + 1, arg :: rest, p =>
      if arg = "--" then .ok { p with plain := p.plain ++ rest }
      else if isOption arg then
        match takeOption rules arg rest with
        | .error e => .error e
        | .ok (given, rest) => parseSteps mixed n rest { p with given := p.given ++ given }
      else if mixed then parseSteps mixed n rest { p with plain := p.plain ++ [arg] }
      else .ok { p with plain := p.plain ++ arg :: rest }

/-- Takes arguments apart. -/
def parseArguments (mixed : Bool) (args : List String) : Except ArgumentError (Parsed α) :=
  parseSteps rules mixed args.length args ⟨[], []⟩

end

/-- The value of an option; the last one given counts. -/
def valueOf? {α : Type} [DecidableEq α] (meaning : α) (given : List (GivenOption α)) :
    Option String :=
  (given.reverse.find? (·.meaning = meaning)).map (·.value)

/-- The option was given. -/
def isGiven {α : Type} [DecidableEq α] (meaning : α) (given : List (GivenOption α)) : Bool :=
  given.any (·.meaning = meaning)

end ModalHighlight.Command
