import TruthTables.Files.FileSystem
import TruthTables.Text.Blank
import TruthTables.Text.LineEnd
import TruthTables.Text.Quoted
import TruthTables.Text.Utf8

/-!
# Files with a formula

A file with a formula is UTF-8.  Its line ends are made uniform and the blanks at both ends are
cut; what is left must not be empty.  A byte order mark is a character like any other.
-/

namespace TruthTables

/-- Why a file gives no formula text. -/
inductive FileError where
  | missing (path : Path)
  | nullCharacter
  | refused (path : Path) (number : Nat) (reason : String)
  | undecodable (fault : Text.Utf8.Fault)
  | empty
deriving DecidableEq, Repr

namespace FileError

/-- The error of a path at which nothing could be read. -/
def ofFailure (path : Path) : ReadFailure → FileError
  | .missing => missing path
  | .nullCharacter => nullCharacter
  | .refused number reason => refused path number reason

def message : FileError → String
  | missing path => "Formula file not found: " ++ path.text
  | nullCharacter => "embedded null byte"
  | refused path number reason =>
    "Error reading formula file: [Errno " ++ toString number ++ "] " ++ reason ++ ": "
      ++ Text.quote path.text
  | undecodable fault => fault.message
  | empty => "Formula file is empty"

end FileError

def formulaOfBytes (bytes : List UInt8) : Except FileError String := do
  let cs ← (Text.Utf8.decode bytes).mapError .undecodable
  match Text.stripChars (Text.unifyLineEnds cs) with
  | [] => .error .empty
  | kept => .ok (String.ofList kept)

def FileSystem.formulaAt (fs : FileSystem) (path : Path) : Except FileError String := do
  formulaOfBytes (← (fs.read path).mapError (FileError.ofFailure path))

end TruthTables
