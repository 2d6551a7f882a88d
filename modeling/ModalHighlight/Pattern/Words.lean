/-!
Patterns for lists of words.  The words are arranged in a tree that shares what they have in common, and
the tree is written as a pattern in which a longer word is tried before the ones it starts with.
-/

namespace ModalHighlight.Pattern

/-- A word while it is arranged. -/
abbrev Word := List Char

/-- An arrangement of words. -/
inductive WordTree
  /-- No word at all. -/
  | none
  | word (w : Word)
  /-- The words of a tree, and the empty word. -/
  | orEmpty (longer : WordTree)
  /-- The words of a tree, and several of one character. -/
  | orChars (longer : WordTree) (chars : List Char)
  /-- Words that all start alike. -/
  | after (start : Word) (rest : WordTree)
  /-- Words that all end alike. -/
  | before (rest : WordTree) (ending : Word)
  /-- Words of one tree or of the other. -/
  | either (first second : WordTree)
deriving Repr, DecidableEq

/-- The order of words, character by character. -/
def Word.le : Word → Word → Bool
  | [], _ => true
  | _ :: _, [] => false
  | a :: u, b :: v => decide (a < b) || (a == b && Word.le u v)

/-- What two words start with alike. -/
def commonStart : Word → Word → Word
  | a :: u, b :: v => if a = b then a :: commonStart u v else []
  | _, _ => []

/-- What all words of a list start with. -/
def sharedStart : List Word → Word
  | [] => []
  | [w] => w
  | w :: rest => commonStart w (sharedStart rest)

/-- What all words of a list end with. -/
def sharedEnding (words : List Word) : Word :=
  (sharedStart (words.map List.reverse)).reverse

/-- Puts a word in its place among words that are in order. -/
def insertWord (w : Word) : List Word → List Word
  | [] => [w]
  | v :: rest => if Word.le w v then w :: v :: rest else v :: insertWord w rest

/-- Words in order. -/
def sortWords (words : List Word) : List Word :=
  words.foldr insertWord []

/-- Arranges words that are in order.  Each step leaves fewer words or shorter ones, so their
number and lengths bound the steps. -/
def arrange : Nat → List Word → WordTree
  | 0, _ => .none
  | _ + 1, [] => .none
  | _ + 1, [w] => .word w
  | n + 1, [] :: rest => .orEmpty (arrange n rest)
  | n + 1, first :: second :: more =>
      let words := first :: second :: more
      let single := words.filter (·.length = 1)
      let others := words.filter (·.length ≠ 1)
      if first.length = 1 ∧ 1 < single.length then .orChars (arrange n others) single.flatten
      else
        let start := sharedStart words
        if start ≠ [] then .after start (arrange n (words.map (·.drop start.length)))
        else
          let ending := sharedEnding words
          if ending ≠ [] then
            let heads := words.map fun w => w.take (w.length - ending.length)
            .before (arrange n (sortWords heads)) ending
          else
            let alike := fun (w : Word) => w.head? == first.head?
            .either (arrange n (words.takeWhile alike)) (arrange n (words.dropWhile alike))

/-- The arrangement of a list of words, in any order and with repetitions. -/
def WordTree.ofWords (words : List String) : WordTree :=
  let sorted := sortWords (words.map String.toList)
  arrange (sorted.flatten.length + sorted.length + 1) sorted

/-- The characters that a backslash is put before. -/
def isSpecialChar (c : Char) : Bool :=
  "()[]\x7b\x7d?*+-|^$\\.&~# \t\n\r\x0b\x0c".toList.contains c

/-- A text as a pattern that matches it alone. -/
def escapeWord (w : Word) : List Char :=
  w.flatMap fun c => if isSpecialChar c then ['\\', c] else [c]

/-- A class of given characters. -/
def charSet (chars : List Char) : List Char :=
  let escaped := chars.flatMap fun c => if "[^\\-]".toList.contains c then ['\\', c] else [c]
  '[' :: escaped ++ [']']

/-- How a tree is enclosed: as a capturing group, as a plain group or not at all. -/
inductive Enclosure
  | capture
  | group
  | bare
deriving Repr, DecidableEq

def Enclosure.wrap (e : Enclosure) (inside : List Char) : List Char :=
  match e with
  | capture => '(' :: inside ++ [')']
  | group => '(' :: '?' :: ':' :: inside ++ [')']
  | bare => inside

namespace WordTree

/-- The pattern of a tree.  Alternatives come with the longer words first. -/
def write (tree : WordTree) (enclosure : Enclosure) : List Char :=
  match tree with
  | .none => []
  | word w => enclosure.wrap (escapeWord w)
  | orEmpty longer => enclosure.wrap (longer.write .group ++ ['?'])
  | orChars .none chars => enclosure.wrap (charSet chars)
  | orChars longer chars => enclosure.wrap (longer.write .bare ++ '|' :: charSet chars)
  | after start rest => enclosure.wrap (escapeWord start ++ rest.write .group)
  | before rest ending => enclosure.wrap (rest.write .group ++ escapeWord ending)
  | either first second => enclosure.wrap (first.write .bare ++ '|' :: second.write .bare)

end WordTree

/-- What becomes of words that a list holds more than once: they are arranged as often as they occur, or the
list is cleared of repetitions first. -/
inductive Repetitions
  | kept
  | dropped
deriving Repr, DecidableEq

/-- The words of a list that are arranged. -/
def Repetitions.of (words : List String) : Repetitions → List String
  | kept => words
  | dropped => words.eraseDups

/-- The text of a pattern that matches any of the words between a given start and a given end. -/
def wordsBetween (repetitions : Repetitions) (start : String) (items : List String) (ending : String) :
    String :=
  start ++ String.ofList ((WordTree.ofWords (repetitions.of items)).write .capture) ++ ending

example : wordsBetween .kept "" ["in", "in"] "" = "(in(?:(?:)?))" := by decide

/-- The pattern for whole words: none of them is matched as a part of a longer word. -/
def wholeWords (items : List String) : String :=
  wordsBetween .kept "\\b" items "\\b"

end ModalHighlight.Pattern
