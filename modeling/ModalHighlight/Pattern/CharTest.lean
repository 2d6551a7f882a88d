import ModalHighlight.Text.CharClass
import ModalHighlight.Text.LetterCase

/-!
Tests on a single character: the atoms that a pattern consumes text with.  A code point is a `Nat`,
since a pattern may name surrogates, which no text holds.
-/

namespace ModalHighlight.Pattern

open ModalHighlight.Text

/-- How letter case takes part in a comparison. -/
inductive CaseRule
  | exact
  | foldAscii
  | foldUnicode
deriving Repr, DecidableEq

namespace CaseRule

/-- The representative that characters are compared by. -/
def lower : CaseRule → Nat → Nat
  | exact, code => code
  | foldAscii, code => asciiLower code
  | foldUnicode, code => lowerCase code

/-- The code point has another case form. -/
def isCased : CaseRule → Nat → Bool
  | exact, _ => false
  | foldAscii, code => asciiLower code != code || asciiUpper code != code
  | foldUnicode, code => lowerCase code != code || upperCase code != code

/-- Representatives that count as equal to this one. -/
def twins : CaseRule → Nat → List Nat
  | foldUnicode, code => lowerCaseTwins code
  | _, _ => []

/-- All code points with this representative. -/
def origins : CaseRule → Nat → List Nat
  | exact, code => [code]
  | foldAscii, code =>
      (if asciiLower code = code then [code] else []) ++
        (if 97 ≤ code ∧ code ≤ 122 then [code - 32] else [])
  | foldUnicode, code => lowerCaseOrigins code

/-- Some code point between the bounds has another case form. -/
def anyCased (rule : CaseRule) (lo hi : Nat) : Bool :=
  let meets := fun (first last : Nat) => decide (max lo first ≤ min hi last)
  match rule with
  | exact => false
  | foldAscii => meets 65 90 || meets 97 122
  | foldUnicode =>
      meets 65 90 || meets 97 122 || loweringRuns.any (meetsRun lo hi) ||
        raisingRuns.any (meetsRun lo hi)
where
  meetsRun (lo hi : Nat) (run : CaseRun) : Bool :=
    let skipped := (lo - run.first + run.stride - 1) / run.stride
    decide (run.first + skipped * run.stride ≤ min hi run.last)

end CaseRule

/-- The classes that have a letter of their own. -/
inductive CharKind
  | digit
  | space
  | word
deriving Repr, DecidableEq

def CharKind.contains (kind : CharKind) (ascii : Bool) (code : Nat) : Bool :=
  match kind, ascii with
  | digit, true => isAsciiDigit code
  | digit, false => isDigit code
  | space, true => isAsciiSpace code
  | space, false => isSpace code
  | word, true => isAsciiWord code
  | word, false => isWord code

/-- One member of a bracketed class. -/
inductive ClassItem
  | code (c : Nat)
  | range (lo hi : Nat)
  | kind (k : CharKind) (ascii negated : Bool)
deriving Repr, DecidableEq

/-- Code points beyond the first plane, which case folding inside a class treats apart. -/
def beyondFirstPlane (code : Nat) : Bool :=
  decide (0xFFFF < code)

namespace ClassItem

def holdsExactly (item : ClassItem) (code : Nat) : Bool :=
  match item with
  | .code c => code == c
  | .range lo hi => decide (lo ≤ code ∧ code ≤ hi)
  | .kind k ascii negated => k.contains ascii code != negated

/-- The item makes its class one that ignores case. -/
def isCased (rule : CaseRule) (item : ClassItem) : Bool :=
  match item with
  | .code c => rule.isCased c || beyondFirstPlane (rule.lower c)
  | .range lo hi => rule.anyCased lo hi || beyondFirstPlane hi
  | .kind _ _ _ => false

/-- Membership of a representative.  In the first plane an item stands for the representatives of its
characters and their twins.  Beyond it a single character stands for itself, and a range for what
reaches it directly or in upper case. -/
def holdsFolded (rule : CaseRule) (item : ClassItem) (low : Nat) : Bool :=
  match item with
  | .code c =>
      if beyondFirstPlane (rule.lower c) then low == c
      else low == rule.lower c || (rule.twins (rule.lower c)).contains low
  | .range lo hi =>
      let within := fun code => decide (lo ≤ code ∧ code ≤ hi)
      (low :: rule.twins low).any (fun target =>
          (rule.origins target).any fun code => within code && !beyondFirstPlane code) ||
        (beyondFirstPlane hi && (within low || within (upperCase low)))
  | .kind k ascii negated => k.contains ascii low != negated

end ClassItem

/-- A condition on one character. -/
inductive CharTest
  | any
  | notNewline
  | code (c : Nat) (rule : CaseRule) (negated : Bool)
  | oneOf (items : List ClassItem) (rule : CaseRule) (negated : Bool)
deriving Repr, DecidableEq

namespace CharTest

/-- A class keeps a case rule only if one of its members has case. -/
def ofClass (items : List ClassItem) (rule : CaseRule) (negated : Bool) : CharTest :=
  .oneOf items (if items.any (·.isCased rule) then rule else .exact) negated

/-- The code point equals `c` up to the case rule. -/
def sameCode (rule : CaseRule) (c code : Nat) : Bool :=
  if rule.isCased c then
    rule.lower code == rule.lower c || (rule.twins (rule.lower c)).contains (rule.lower code)
  else code == c

def holds (test : CharTest) (code : Nat) : Bool :=
  match test with
  | .any => true
  | .notNewline => code != 10
  | .code c rule negated => sameCode rule c code != negated
  | .oneOf items .exact negated => items.any (·.holdsExactly code) != negated
  | .oneOf items rule negated => items.any (·.holdsFolded rule (rule.lower code)) != negated

/-- The test compares with one code point that has no other case form. -/
def isPlainCode : CharTest → Bool
  | .code c rule false => !rule.isCased c
  | _ => false

/-- The test looks a character up in a class that does not ignore case. -/
def isPlainClass : CharTest → Bool
  | .oneOf _ .exact _ => true
  | _ => false

/-- The test tries several case forms of a character. -/
def triesCaseForms : CharTest → Bool
  | .code c rule _ => rule.isCased c && !(rule.twins (rule.lower c)).isEmpty
  | .oneOf _ rule _ => rule != .exact
  | _ => false

/-- The members of a class that holds what the test accepts. -/
def classItems? : CharTest → Option (List ClassItem)
  | .code c _ false => some [.code c]
  | .oneOf items _ false => some items
  | _ => none

end CharTest

end ModalHighlight.Pattern
