import ModalHighlight.Text.Quoted

/-!
Why the text of a pattern is refused.  A cause holds the pieces of text that its message shows; the
place is kept apart, since a few causes concern the pattern as a whole.
-/

namespace ModalHighlight.Pattern

open ModalHighlight.Text

/-- What is wrong with a pattern. -/
inductive Cause
  | badEscapeAtEnd
  | badEscape (escape : String)
  | incompleteEscape (escape : String)
  | octalTooLarge (escape : String)
  | missingBrace
  | undefinedCharacterName (name : String)
  | unterminatedSet
  | badRange (lo hi : String)
  | minAboveMax
  | nothingToRepeat
  | multipleRepeat
  | endOfPattern
  | unknownExtension (text : String)
  | missingName (what : String)
  | unterminatedName (terminator : String)
  | badGroupName (name : String)
  | unknownGroupName (name : String)
  | openGroup
  | groupInSameLookBehind
  | badGroupNumber
  | invalidGroupReference (index : Nat)
  | redefinedGroup (name : String) (index earlier : Nat)
  | tooManyBranches
  | unterminatedGroup
  | unterminatedComment
  | unbalancedParenthesis
  | globalFlagsNotAtStart
  | localeFlag
  | incompatibleFlags
  | unknownFlag
  | missingFlagEnd
  | missingFlag
  | missingColon
  | globalFlagOn
  | globalFlagOff
  | typeFlagOff
  | flagOnAndOff
  | variableLookBehind
  | templateRepeat (operator : String)
  | nestingTooDeep
deriving Repr, DecidableEq

def Cause.message : Cause → String
  | badEscapeAtEnd => "bad escape (end of pattern)"
  | badEscape escape => "bad escape " ++ escape
  | incompleteEscape escape => "incomplete escape " ++ escape
  | octalTooLarge escape => "octal escape value " ++ escape ++ " outside of range 0-0o377"
  | missingBrace => "missing \x7b"
  | undefinedCharacterName name => "undefined character name " ++ quoted name
  | unterminatedSet => "unterminated character set"
  | badRange lo hi => "bad character range " ++ lo ++ "-" ++ hi
  | minAboveMax => "min repeat greater than max repeat"
  | nothingToRepeat => "nothing to repeat"
  | multipleRepeat => "multiple repeat"
  | endOfPattern => "unexpected end of pattern"
  | unknownExtension text => "unknown extension ?" ++ text
  | missingName what => "missing " ++ what
  | unterminatedName terminator => "missing " ++ terminator ++ ", unterminated name"
  | badGroupName name => "bad character in group name " ++ quoted name
  | unknownGroupName name => "unknown group name " ++ quoted name
  | openGroup => "cannot refer to an open group"
  | groupInSameLookBehind => "cannot refer to group defined in the same lookbehind subpattern"
  | badGroupNumber => "bad group number"
  | invalidGroupReference index => "invalid group reference " ++ toString index
  | redefinedGroup name index earlier =>
      "redefinition of group name " ++ quoted name ++ " as group " ++ toString index ++
        "; was group " ++ toString earlier
  | tooManyBranches => "conditional backref with more than two branches"
  | unterminatedGroup => "missing ), unterminated subpattern"
  | unterminatedComment => "missing ), unterminated comment"
  | unbalancedParenthesis => "unbalanced parenthesis"
  | globalFlagsNotAtStart => "global flags not at the start of the expression"
  | localeFlag => "bad inline flags: cannot use 'L' flag with a str pattern"
  | incompatibleFlags => "bad inline flags: flags 'a', 'u' and 'L' are incompatible"
  | unknownFlag => "unknown flag"
  | missingFlagEnd => "missing -, : or )"
  | missingFlag => "missing flag"
  | missingColon => "missing :"
  | globalFlagOn => "bad inline flags: cannot turn on global flag"
  | globalFlagOff => "bad inline flags: cannot turn off global flag"
  | typeFlagOff => "bad inline flags: cannot turn off flags 'a', 'u' and 'L'"
  | flagOnAndOff => "bad inline flags: flag turned on and off"
  | variableLookBehind => "look-behind requires fixed-width pattern"
  | templateRepeat operator => "internal: unsupported template operator " ++ operator
  | nestingTooDeep => "nesting too deep"

/-- A refusal is a cause with its place, if it has one.  The other faults are not about the wording of a
pattern: a repetition count beyond the supported ones, a number of absurd length, two flags that cannot
both hold for a whole pattern, and a look-behind over a distance that is not supported. -/
inductive Failure
  | refused (cause : Cause) (position : Option Nat)
  | repetitionTooLarge
  | numberTooLong
  | flagsExclusive
  | distanceTooLarge
deriving Repr, DecidableEq

/-- Line and column of a position, both from 1. -/
def lineAndColumn (chars : List Char) (position : Nat) : Nat × Nat :=
  let before := chars.take position
  (before.count '\n' + 1, (before.reverse.takeWhile (· != '\n')).length + 1)

/-- The message of a refusal; in a pattern of several lines it names line and column too. -/
def refusalMessage (text : String) (cause : Cause) : Option Nat → String
  | none => cause.message
  | some position =>
      let chars := text.toList
      let place := " at position " ++ toString position
      if chars.contains '\n' then
        let (row, column) := lineAndColumn chars position
        cause.message ++ place ++ " (line " ++ toString row ++ ", column " ++ toString column ++ ")"
      else cause.message ++ place

end ModalHighlight.Pattern
