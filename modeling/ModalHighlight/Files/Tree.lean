import ModalHighlight.Files.Access

/-!
Files held in memory.  A look follows the names of a path one by one from the root, and double dots lead back
to the directory above.
-/

namespace ModalHighlight

/-- A file with its text, or a directory. -/
inductive FileTree
  | file (text : String)
  | directory (entries : List (String × FileTree))

namespace FileTree

/-- The empty directory. -/
def empty : FileTree := directory []

/-- What a directory holds under a name; a file holds nothing. -/
def inner? (tree : FileTree) (name : String) : Option FileTree :=
  match tree with
  | file _ => none
  | directory entries => entries.lookup name

/-- Sets the entry of a directory; a file becomes a directory with this entry alone. -/
def setEntry (tree : FileTree) (name : String) (value : FileTree) : FileTree :=
  match tree with
  | file _ => directory [(name, value)]
  | directory entries => directory ((name, value) :: entries.filter fun e => e.1 != name)

/-- Puts a tree at a place; the directories that lead there are made where they are missing. -/
def put (value : FileTree) : List String → FileTree → FileTree
  | [], _ => value
  | name :: rest, tree => tree.setEntry name (put value rest ((tree.inner? name).getD empty))

/-- Makes a directory at a place, unless there is one. -/
def makeDirectory : List String → FileTree → FileTree
  | [], directory entries => directory entries
  | [], file _ => empty
  | name :: rest, tree =>
      tree.setEntry name (makeDirectory rest ((tree.inner? name).getD empty))

/-- A name of a file has no more bytes than this. -/
def nameLimit : Nat := 255

/-- A written path has fewer bytes than this. -/
def pathLimit : Nat := 4096

/-- Follows names from a tree; `above` holds the directories that led there, the nearest first. -/
def follow : List String → FileTree → List FileTree → Except Unavailable FileTree
  | [], tree, _ => .ok tree
  | name :: rest, tree, above =>
      match tree with
      | file _ => .error .notDirectory
      | directory entries =>
          if name = "" ∨ name = "." then follow rest (directory entries) above
          else if name = ".." then
            match above with
            | [] => follow rest (directory entries) []
            | outer :: others => follow rest outer others
          else
            match entries.lookup name with
            | none => .error (if nameLimit < name.utf8ByteSize then .nameTooLong else .missing)
            | some inner => follow rest inner (directory entries :: above)

/-- Reads the file of a written name, as seen from a directory. -/
def read (root : FileTree) (here : Path) (name : String) : Except Unavailable String :=
  if name = "" then .error .missing
  else if name.toList.contains '\x00' then .error .impossibleName
  else if pathLimit ≤ name.utf8ByteSize then .error .nameTooLong
  else
    let names := Path.writtenNames name
    let start := if Path.rootOf name.toList = "" then here.names else []
    match follow (start ++ names) root [] with
    | .error why => .error why
    | .ok (file text) => .ok text
    | .ok (directory _) => .error .directory

/-- The surroundings of a program that runs in a directory of a tree. -/
def surroundings (root : FileTree) (here : Path) (input : String) : Surroundings Id where
  directory := here
  read := root.read here
  input := input

end FileTree

end ModalHighlight
