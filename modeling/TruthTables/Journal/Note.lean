/-!
# Notes

A note is a remark about the work that goes on, at one of four levels.  A computation with notes
gives its value together with the notes it made; the value never depends on them.
-/

namespace TruthTables

/-- How much a note matters. -/
inductive Level where
  | debug
  | info
  | warning
  | error
deriving DecidableEq, Repr, Inhabited

namespace Level

/-- The rank of a level; a higher rank matters more. -/
def rank : Level → Nat
  | debug => 10
  | info => 20
  | warning => 30
  | error => 40

def name : Level → String
  | debug => "DEBUG"
  | info => "INFO"
  | warning => "WARNING"
  | error => "ERROR"

def all : List Level := [debug, info, warning, error]

def ofName? (s : String) : Option Level := all.find? fun l => l.name == s

end Level

/-- A remark at a level. -/
structure Note where
  level : Level
  text : String
deriving DecidableEq, Repr

namespace Note

def debug (text : String) : Note := ⟨.debug, text⟩

def info (text : String) : Note := ⟨.info, text⟩

def warning (text : String) : Note := ⟨.warning, text⟩

def error (text : String) : Note := ⟨.error, text⟩

/-- The line of a note: progress stands bare, every other level is named in front. -/
def line (n : Note) : String :=
  match n.level with
  | .info => n.text
  | level => "[" ++ level.name ++ "] " ++ n.text

end Note

/-- A value with the notes made on the way to it. -/
structure Noted (α : Type) where
  value : α
  /-- The notes in the order in which they were made. -/
  notes : List Note
deriving Repr

end TruthTables
