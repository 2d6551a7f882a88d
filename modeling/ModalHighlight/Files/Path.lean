import ModalHighlight.Text.Segments

/-!
File paths.  A path is a list of names that starts at the root or, without a root, at the working directory.
Empty names and single dots mean nothing and are left out; double dots stay, since only the files decide
what they mean.
-/

namespace ModalHighlight

/-- A path.  The root is empty, one slash or, where just two slashes were written, both of them. -/
structure Path where
  root : String
  names : List String
deriving Repr, DecidableEq

namespace Path

/-- The root of a written path. -/
def rootOf : List Char → String
  | '/' :: '/' :: '/' :: _ => "/"
  | '/' :: '/' :: _ => "//"
  | '/' :: _ => "/"
  | _ => ""

/-- The names of a written path, with those that mean nothing. -/
def writtenNames (text : String) : List String :=
  (Text.segments '/' text.toList).map String.ofList

/-- A name that leads somewhere. -/
def isMeant (name : String) : Bool := name != "" && name != "."

/-- The path that a text stands for. -/
def ofText (text : String) : Path :=
  ⟨rootOf text.toList, (writtenNames text).filter isMeant⟩

/-- The text of a path; the empty path is a single dot. -/
def display (p : Path) : String :=
  if p.root = "" ∧ p.names = [] then "." else p.root ++ "/".intercalate p.names

/-- The directory that holds a path; the root holds itself. -/
def parent (p : Path) : Path := { p with names := p.names.dropLast }

/-- A path as seen from a directory: one that starts at the root stays as it is. -/
def within (p directory : Path) : Path :=
  if p.root = "" then { directory with names := directory.names ++ p.names } else p

/-- Puts one more name behind settled names: a double dot takes the last of them away. -/
def settleOne (found : List String) (name : String) : List String :=
  if name = ".." then found.dropLast else found ++ [name]

/-- Names with every double dot taken back together with the name before it. -/
def settle (names : List String) : List String := names.foldl settleOne []

/-- The place of a path from the root on, without double dots, as seen from a directory. -/
def resolve (p directory : Path) : Path := ⟨"/", settle (p.within directory).names⟩

end Path

end ModalHighlight
