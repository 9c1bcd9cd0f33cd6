import TruthTables.Csv.Printer
import TruthTables.Json.Printer
import TruthTables.Table.Box

/-!
# Formats

The three formats in which a sheet is shown: a box, comma-separated values and JSON.  Only the box
has colours.
-/

namespace TruthTables

namespace Sheet

/-- A sheet as comma-separated values: the heads, then the rows.  A sheet without rows is shown as
nothing. -/
def csv (s : Sheet) : String :=
  if s.rows.isEmpty then "" else String.ofList (Csv.chars (s.headers :: s.body))

/-- A row as a JSON object. -/
def rowDocument (r : Row) : Json.Value :=
  .object [
    ("assignment", .object (r.assignment.entries.map fun e => (e.1, .bool e.2))),
    ("steps", .array (r.steps.map .bool)),
    ("result", .bool r.result)]

/-- A sheet as a JSON object. -/
def document (s : Sheet) : Json.Value :=
  .object [
    ("formula", .string s.source),
    ("variables", .array (s.vars.map .string)),
    ("steps", .array (s.steps.map .string)),
    ("rows", .array (s.rows.map rowDocument))]

def json (s : Sheet) : String := s.document.text

end Sheet

/-- A format of sheets. -/
inductive Format where
  | table
  | csv
  | json
deriving DecidableEq, Repr

namespace Format

def name : Format → String
  | table => "table"
  | csv => "csv"
  | json => "json"

def all : List Format := [csv, json, table]

def ofName (s : String) : Except RenderError Format :=
  match all.find? fun f => f.name == s with
  | some f => .ok f
  | none => .error (.unknownFormat s)

end Format

/-- A sheet in a format. -/
def Sheet.render (s : Sheet) (format : Format) (color : Bool) : Except RenderError String :=
  match format with
  | .table => s.box color
  | .csv => .ok s.csv
  | .json => .ok s.json

/-- The error in words; an unknown format is quoted. -/
def RenderError.message : RenderError → String
  | shortRow => "list index out of range"
  | unknownFormat name => Text.quote name

end TruthTables
