import ModalHighlight.Files.Path
import ModalHighlight.Text.Quoted

/-!
What a program sees of the files around it.  Looking at a file gives its text or the reason why it has none.
The looks happen in some monad, so that the same program runs on files held in memory and on a disk.
-/

namespace ModalHighlight

/-- Why there is no text at a path. -/
inductive Unavailable
  | missing
  | directory
  | notDirectory
  | nameTooLong
  /-- No file can have such a name. -/
  | impossibleName
deriving Repr, DecidableEq

namespace Unavailable

def reason : Unavailable → String
  | missing => "No such file or directory"
  | directory => "Is a directory"
  | notDirectory => "Not a directory"
  | nameTooLong => "File name too long"
  | impossibleName => "Impossible name"

/-- The number that systems give to a reason. -/
def code : Unavailable → Nat
  | missing => 2
  | notDirectory => 20
  | directory => 21
  | impossibleName => 22
  | nameTooLong => 36

/-- The whole message on a path. -/
def message (why : Unavailable) (path : Path) : String :=
  "[Errno " ++ toString why.code ++ "] " ++ why.reason ++ ": " ++ Text.quoted path.display

end Unavailable

/-- What is told to the user about a file that cannot be used. -/
structure Complaint where
  path : Path
  reason : String
deriving Repr, DecidableEq

def Complaint.message (c : Complaint) : String := c.path.display ++ ": " ++ c.reason

/-- The surroundings of a program: its working directory, the files, and its standard input. -/
structure Surroundings (m : Type → Type) where
  directory : Path
  read : String → m (Except Unavailable String)
  input : m String

/-- Whether something is there, be it a file or a directory.  There is no telling for a name that is too
long. -/
def isThere : Except Unavailable String → Except Unavailable Bool
  | .ok _ | .error .directory => .ok true
  | .error .nameTooLong => .error .nameTooLong
  | .error _ => .ok false

namespace Surroundings

variable {m : Type → Type}

/-- Reads the file at a path. -/
def readPath (s : Surroundings m) (path : Path) : m (Except Unavailable String) :=
  s.read path.display

/-- Reads a file by the name that was given for it; a dash stands for the standard input. -/
def readNamed [Monad m] (s : Surroundings m) (name : String) : m (Except Unavailable String) :=
  if name = "-" then do return .ok (← s.input) else s.read name

end Surroundings

end ModalHighlight
