import TruthTables.Formula.Evaluation
import TruthTables.Formula.Input
import TruthTables.Table.Sheet
import TruthTables.Text.Blank

/-!
# Building truth tables

`Table.ofFormula` evaluates a formula, and the steps that are to be shown, under every assignment
to its variables.  `Table.ofInput` starts from an input, reads the formula and refuses it when it
has more variables than allowed.  Both come in a second form that tells the notes made on the way.
-/

namespace TruthTables

/-- Why an input has no truth table. -/
inductive TableError where
  | parse (e : ParseError)
  | tooManyVariables (count : Nat) (limit : Int)
  | evaluation (e : EvaluationError)
deriving DecidableEq, Repr

def TableError.message : TableError → String
  | parse e => e.message
  | tooManyVariables count limit =>
    "Formula has " ++ toString count ++ " variables, limit is " ++ toString limit ++ " ("
      ++ toString (Nat.pow 2 count) ++ " rows would be generated)"
  | evaluation e => e.message

/-- What is said of a formula with `count` variables when at most `limit` are allowed.  The limit
and the number of rows are part of the answer, so they must be numbers that can be written out. -/
def TableError.ofExcess (count : Nat) (limit : Int) : TableError :=
  match Text.numeral? limit.natAbs, Text.numeral? (Nat.pow 2 count) with
  | some _, some _ => .tooManyVariables count limit
  | _, _ => .evaluation .numeralTooLong

namespace Table

/-- The row of an assignment under which the formula has a known value. -/
def rowOf (steps : List Formula) (a : Assignment Bool) (result : Bool) :
    Except EvaluationError Row := do
  let cells ← steps.mapM fun s => s.eval a.get?
  return ⟨a, cells, result⟩

/-- The truth table of a formula, under a given text or its own. -/
def ofFormula (e : Formula) (source : Option String) (withSteps : Bool) :
    Except EvaluationError (Table Formula) := do
  let steps := if withSteps then e.innerSteps else []
  let values ← e.evaluateAll
  let rows ← values.mapM fun v => rowOf steps v.1 v.2
  return ⟨source.getD e.text, e, e.vars, steps, rows⟩

/-- The note on the number of assignments, if it can be written out. -/
def countNotes (e : Formula) : List Note :=
  match e.countNumeral? with
  | none => []
  | some count =>
    [.debug ("Enumerating " ++ count ++ " assignments over variables " ++ Text.quoteList e.vars)]

def sizeNote (rows steps : Int) : Note :=
  .debug ("Truth table built: " ++ toString rows ++ " rows, " ++ toString steps ++ " step columns")

/-- The truth table of a formula, with the notes on its building. -/
def ofFormulaNoted (e : Formula) (source : Option String) (withSteps : Bool) :
    Noted (Except EvaluationError (Table Formula)) :=
  let outcome := ofFormula e source withSteps
  ⟨outcome, countNotes e ++
    match outcome with
    | .ok t => [sizeNote t.rows.length t.steps.length]
    | .error _ => []⟩

def formulaNotes (source rendered : String) (vars : List String) : List Note :=
  [.info ("Formula: " ++ source), .info ("Parsed as: " ++ rendered),
    .info ("Variables: " ++ if vars.isEmpty then "(none)" else ", ".intercalate vars)]

/-- The error for a formula that has more variables than allowed, if it has. -/
def refusal? (e : Formula) : Option Int → Option TableError
  | none => none
  | some limit =>
    if limit < e.vars.length then some (TableError.ofExcess e.vars.length limit) else none

/-- The truth table of the formula that a text stands for, with the notes on the work. -/
def ofInputNoted (input : Json.Value) (withSteps : Bool) (limit : Option Int) :
    Noted (Except TableError (Table Formula)) :=
  let parsed := Formula.ofInputNoted input
  match parsed.value with
  | .error e => ⟨.error (.parse e), parsed.notes⟩
  | .ok e =>
    match refusal? e limit with
    | some refusal => ⟨.error refusal, parsed.notes⟩
    | none =>
      let built := ofFormulaNoted e (some (Text.strip input.display)) withSteps
      ⟨built.value.mapError .evaluation,
        parsed.notes ++ formulaNotes input.display e.text e.vars ++ built.notes⟩

def ofInput (input : Json.Value) (withSteps : Bool) (limit : Option Int) :
    Except TableError (Table Formula) :=
  (ofInputNoted input withSteps limit).value

def ofText (s : String) (withSteps : Bool) (limit : Option Int) :
    Except TableError (Table Formula) :=
  ofInput (.string s) withSteps limit

end Table

end TruthTables
