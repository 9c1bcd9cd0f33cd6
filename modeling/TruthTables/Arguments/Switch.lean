/-!
# Switches

The switches of the command line.  A flag stands alone; a setting takes a value.  Every switch is
spelled in one or two ways, and the spellings have a fixed order, in which they are listed when an
abbreviation fits several of them.
-/

namespace TruthTables.Arguments

/-- A switch without a value. -/
inductive Flag where
  | help
  | steps
  | color
  | summary
  | verbose
  | debug
deriving DecidableEq, Repr

/-- A switch with a value. -/
inductive Setting where
  | file
  | format
  | maxVariables
deriving DecidableEq, Repr

/-- A switch of the command line. -/
inductive Switch where
  | flag (f : Flag)
  | setting (s : Setting)
deriving DecidableEq, Repr

namespace Switch

/-- All spellings in their order, with the switches that they spell. -/
def spellings : List (String × Switch) :=
  [("-h", flag .help), ("--help", flag .help),
    ("-f", setting .file), ("--file", setting .file),
    ("-s", flag .steps), ("--steps", flag .steps),
    ("--format", setting .format),
    ("--color", flag .color),
    ("--max-vars", setting .maxVariables),
    ("--summary", flag .summary),
    ("-v", flag .verbose), ("--verbose", flag .verbose),
    ("--debug", flag .debug)]

def ofSpelling? (s : String) : Option Switch := spellings.lookup s

/-- The name of a switch in messages: its spellings with a slash between them. -/
def name (s : Switch) : String :=
  "/".intercalate ((spellings.filter fun e => e.2 = s).map Prod.fst)

end Switch

end TruthTables.Arguments
