import TruthTables.CommandLine

/-!
# The program

The outer layer of the program: it takes the words of the command line, reads the file that they
name, if they name one, and writes what the run leaves behind.
-/

namespace TruthTables

/-- Why the system gave no bytes.  Its numbers come with either sign, so a directory is told
from a path that leads through a file by the number itself. -/
def failureOf : IO.Error → ReadFailure
  | .noFileOrDirectory .. => .missing
  | .inappropriateType _ number _ => if number = 21 then .isDirectory else .notDirectory
  | .permissionDenied .. => .refused 13 "Permission denied"
  | .invalidArgument _ _ details =>
    if details = "name too long" then .nameTooLong
    else .refused 40 "Too many levels of symbolic links"
  | _ => .refused 5 "Input/output error"

def readSystemFile (path : Path) : IO (Except ReadFailure (List UInt8)) := do
  try
    let bytes ← IO.FS.readBinFile path.text
    return .ok bytes.toList
  catch e =>
    return .error (failureOf e)

/-- The file system as far as a command line needs it: the one file that it names. -/
def systemFor (words : List String) : IO FileSystem := do
  match Arguments.Request.ofTexts words with
  | .ok ⟨.file (some path), _⟩ =>
    let content ← readSystemFile path
    return ⟨fun _ => content⟩
  | _ => return ⟨fun _ => .error .missing⟩

end TruthTables

/-- Runs the program on the words of its command line. -/
def main (words : List String) : IO UInt32 := do
  let fs ← TruthTables.systemFor words
  let outcome := TruthTables.run fs TruthTables.standardBuilder words
  (← IO.getStdout).putStr outcome.output
  (← IO.getStderr).putStr outcome.errors
  if let .brokenOff failure := outcome.ending then
    (← IO.getStderr).putStrLn failure.message
  return outcome.ending.code.toUInt32
