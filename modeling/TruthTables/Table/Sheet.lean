import TruthTables.Formula.Basic
import TruthTables.Table.Basic

/-!
# Sheets

A sheet is a truth table as it is shown: every column is headed by a text, and every cell is one
of two words.  The three formats are written from sheets, so they may be used for any texts at
all.
-/

namespace TruthTables

/-- A truth table with texts at the heads of its columns. -/
structure Sheet where
  source : String
  vars : List String
  steps : List String
  rows : List Row
deriving DecidableEq

namespace Sheet

def headers (s : Sheet) : List String := s.vars ++ s.steps ++ [s.source]

def word (b : Bool) : String := if b then "true" else "false"

def body (s : Sheet) : List (List String) := s.rows.map fun r => r.cells.map word

end Sheet

/-- A table of formulas with their texts as heads. -/
def Table.sheet (t : Table Formula) : Sheet :=
  ⟨t.source, t.vars, t.steps.map Formula.text, t.rows⟩

def Table.headers (t : Table Formula) : List String := t.sheet.headers

end TruthTables
