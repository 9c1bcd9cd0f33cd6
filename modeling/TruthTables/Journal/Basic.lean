import TruthTables.Journal.Note

/-!
# The journal

A journal writes the notes that matter enough.  It has two gates, one where notes come in and one
where lines go out, and a note is written when it passes both.  Every way to set the level sets
both gates at once.
-/

namespace TruthTables

/-- The two gates of a journal. -/
structure Journal where
  /-- The least level that is let in. -/
  entrance : Level
  /-- The least level that is let out. -/
  exit : Level
deriving DecidableEq, Repr

namespace Journal

def ofLevel (level : Level) : Journal := ⟨level, level⟩

def setLevel (_ : Journal) (level : Level) : Journal := ofLevel level

/-- The level that the flags of a program ask for: details before progress, and else only what is
unexpected. -/
def flagLevel (verbose debug : Bool) : Level :=
  if debug then .debug else if verbose then .info else .warning

/-- The journal set to the level that the flags of a program ask for. -/
def configure (j : Journal) (verbose debug : Bool) : Journal := j.setLevel (flagLevel verbose debug)

def admits (j : Journal) (n : Note) : Bool :=
  decide (j.entrance.rank ≤ n.level.rank) && decide (j.exit.rank ≤ n.level.rank)

/-- What is written of some notes: a line for each one that is admitted. -/
def write (j : Journal) (notes : List Note) : String :=
  String.join ((notes.filter j.admits).map fun n => n.line ++ "\n")

end Journal

end TruthTables
