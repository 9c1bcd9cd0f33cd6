import TruthTables.Files.Path

/-!
# File systems

All that is asked of a file system is what reading at a path gives: bytes, or a reason why there
are none.  `FileSystem.ofEntries` is the file system that arises from making files and directories
one after another.  Beside what is made there are only the root, the working directory and the
directories above it, whose names are not known.
-/

namespace TruthTables

/-- Why nothing was read at a path. -/
inductive ReadFailure where
  | missing
  /-- The path holds the character NUL, which no path may hold. -/
  | nullCharacter
  | refused (number : Nat) (reason : String)
deriving DecidableEq, Repr

namespace ReadFailure

def isDirectory : ReadFailure := refused 21 "Is a directory"

def notDirectory : ReadFailure := refused 20 "Not a directory"

def nameTooLong : ReadFailure := refused 36 "File name too long"

end ReadFailure

/-- What reading at each path gives. -/
structure FileSystem where
  read : Path → Except ReadFailure (List UInt8)

/-- What can be made in a file system. -/
inductive FileEntry where
  | file (bytes : List UInt8)
  | directory
deriving DecidableEq, Repr

/-- Where paths begin. -/
inductive Base where
  | root
  /-- So many directories above the working directory. -/
  | working (above : Nat)
deriving DecidableEq, Repr

/-- A place in a file system. -/
structure Location where
  base : Base
  /-- The names on the way from there, the last one first. -/
  names : List String
deriving DecidableEq, Repr

namespace Location

/-- The place where a path begins. -/
def start (p : Path) : Location := ⟨if p.root = "" then .working 0 else .root, []⟩

/-- The directory above a place; above the root there is only the root. -/
def above (l : Location) : Location :=
  match l.names, l.base with
  | _ :: names, base => ⟨base, names⟩
  | [], .root => ⟨.root, []⟩
  | [], .working n => ⟨.working (n + 1), []⟩

def enter (l : Location) (name : String) : Location :=
  if name = ".." then l.above else ⟨l.base, name :: l.names⟩

/-- The place that a path leads to. -/
def ofPath (p : Path) : Location := p.names.foldl enter (start p)

/-- The places on the way along some names, without the last one. -/
def before (l : Location) : List String → List Location
  | [] => []
  | name :: rest => l :: (l.enter name).before rest

end Location

namespace FileSystem

/-- What is at a place.  The entry that was made last counts, and every place that the path of an
entry leads through is a directory. -/
def entryAt? (entries : List (Path × FileEntry)) (l : Location) : Option FileEntry :=
  match entries.reverse.find? fun e => Location.ofPath e.1 = l with
  | some e => some e.2
  | none =>
    if entries.any fun e => (Location.start e.1).before e.1.names |>.contains l then
      some .directory
    else none

/-- Where a walk along the names of a path stands. -/
inductive Place where
  | inside (l : Location)
  | atFile (bytes : List UInt8)
deriving DecidableEq, Repr

def Place.step (entries : List (Path × FileEntry)) (place : Place) (name : String) :
    Except ReadFailure Place :=
  match place with
  | atFile _ => .error .notDirectory
  | inside l =>
    if name = ".." then .ok (inside l.above)
    else if 255 < name.utf8ByteSize then .error .nameTooLong
    else
      match entryAt? entries (l.enter name) with
      | some (.file bytes) => .ok (atFile bytes)
      | some .directory => .ok (inside (l.enter name))
      | none => .error .missing

/-- The bytes at the end of a walk. -/
def Place.read : Place → Except ReadFailure (List UInt8)
  | atFile bytes => .ok bytes
  | inside _ => .error .isDirectory

/-- The file system in which the given entries were made, the first one first. -/
def ofEntries (entries : List (Path × FileEntry)) : FileSystem where
  read path :=
    if path.text.toList.contains (Char.ofNat 0) then .error .nullCharacter
    else if 4096 ≤ path.text.utf8ByteSize then .error .nameTooLong
    else do
      (← path.names.foldlM (Place.step entries) (.inside (Location.start path))).read

end FileSystem

end TruthTables
