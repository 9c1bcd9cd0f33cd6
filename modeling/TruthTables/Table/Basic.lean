import TruthTables.Assignment

/-!
# Truth tables

A truth table has a row for each of some assignments, with the value of the whole formula and the
values of the steps that are shown.  The type of what heads the step columns is a parameter:
formulas for a table that has been built, or formulas under construction.  A table is a tautology
or a contradiction only if it has a row at all.
-/

namespace TruthTables

/-- One row of a truth table. -/
structure Row where
  assignment : Assignment Bool
  steps : List Bool
  result : Bool
deriving DecidableEq

def Row.cells (r : Row) : List Bool := r.assignment.values ++ r.steps ++ [r.result]

/-- What a truth table says about its formula. -/
inductive Verdict where
  | tautology
  | contradiction
  | satisfiable
deriving DecidableEq, Repr

def Verdict.name : Verdict → String
  | tautology => "tautology"
  | contradiction => "contradiction"
  | satisfiable => "satisfiable"

/-- A truth table whose step columns are headed by members of `σ`. -/
structure Table (σ : Type) where
  source : String
  subject : σ
  vars : List String
  steps : List σ
  rows : List Row
deriving DecidableEq

namespace Table

variable {σ : Type}

def isEmpty (t : Table σ) : Bool := t.rows.isEmpty

def isTautology (t : Table σ) : Bool := !t.isEmpty && t.rows.all (·.result)

/-- Whether there are rows and none is true. -/
def isContradiction (t : Table σ) : Bool := !t.isEmpty && !t.rows.any (·.result)

def isSatisfiable (t : Table σ) : Bool := t.rows.any (·.result)

/-- What the table says about its formula; a table without rows counts as satisfiable. -/
def verdict (t : Table σ) : Verdict :=
  if t.isTautology then .tautology
  else if t.isContradiction then .contradiction
  else .satisfiable

end Table

end TruthTables
