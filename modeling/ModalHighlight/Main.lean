import ModalHighlight.Command.Run

/-!
The program on a real disk and terminal.
-/

namespace ModalHighlight

/-- Reads a stream to its end. -/
partial def readAll (stream : IO.FS.Stream) : IO String := do
  let rec loop (found : String) : IO String := do
    let line ← stream.getLine
    if line.isEmpty then return found else loop (found ++ line)
  loop ""

/-- Looks at a file of the disk.  A directory can be opened but not read, which the code of the error
tells. -/
def readDisk (name : String) : IO (Except Unavailable String) := do
  if name.toList.contains '\x00' then return .error .impossibleName
  try
    return .ok (← IO.FS.readFile name)
  catch
    | .inappropriateType _ code _ => return .error (if code = 21 then .directory else .notDirectory)
    | _ => return .error .missing

/-- The surroundings of the running program. -/
def diskSurroundings : IO (Surroundings IO) := do
  let here ← IO.currentDir
  return {
    directory := .ofText (toString here)
    read := readDisk
    input := do readAll (← IO.getStdin) }

end ModalHighlight

open ModalHighlight in
/-- Runs the program.  Colors are shown on terminals only. -/
def main (args : List String) : IO UInt32 := do
  let t ← Command.run (← diskSurroundings) args
  let output ← IO.getStdout
  let errors ← IO.getStderr
  errors.putStr (t.textOn .errors (← errors.isTty))
  output.putStr (t.textOn .output (← output.isTty))
  match t.ending with
  | .exit _ => pure ()
  | .stop why => errors.putStr ("stopped: " ++ why.message ++ "\n")
  return t.code.toUInt32
