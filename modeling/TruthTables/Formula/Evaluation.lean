import TruthTables.Assignment
import TruthTables.Cube
import TruthTables.Formula.Basic
import TruthTables.Text.Numeral

/-!
# Evaluation

The value of a formula under a valuation of names, which may leave names without a value.  Both
operands of a connective are always evaluated, the left one first, so the error names the leftmost
variable that has no value.  `evaluateAll` evaluates a formula under every assignment to its
variables, in counting order with the first variable as the most significant bit.
-/

namespace TruthTables

/-- Why a formula has no value. -/
inductive EvaluationError where
  | unbound (name : String)
  | numeralTooLong
deriving DecidableEq, Repr

/-- A number that has more digits than a numeral may have, in words. -/
def numeralTooLongMessage : String :=
  "Exceeds the limit (" ++ toString Text.maxDigits
    ++ " digits) for integer string conversion; "
    ++ "use sys.set_int_max_str_digits() to increase the limit"

def EvaluationError.message : EvaluationError → String
  | unbound name => "Unbound variable '" ++ name ++ "' in assignment"
  | numeralTooLong => numeralTooLongMessage

namespace Formula

/-- The value of a formula under a valuation. -/
def eval (valuation : String → Option Bool) : Formula → Except EvaluationError Bool
  | var name =>
    match valuation name with
    | some b => .ok b
    | none => .error (.unbound name)
  | neg e => do
    let b ← e.eval valuation
    return !b
  | binary c l r => do
    let a ← l.eval valuation
    let b ← r.eval valuation
    return c.apply a b

/-- The assignments of truth values to the variables, in counting order. -/
def assignments (e : Formula) : List (Assignment Bool) :=
  (Cube.mk e.vars.length).vectors.map fun bits => Assignment.zip e.vars bits e.nodup_vars

/-- The assignments to the variables with the value of the formula under each. -/
def valuesOn (e : Formula) (assignments : List (Assignment Bool)) :
    Except EvaluationError (List (Assignment Bool × Bool)) :=
  assignments.mapM fun a => do
    let b ← e.eval a.get?
    return (a, b)

def countNumeral? (e : Formula) : Option String :=
  Text.numeral? (Cube.mk e.vars.length).count

/-- Every assignment to the variables with the value of the formula under it. -/
def evaluateAll (e : Formula) : Except EvaluationError (List (Assignment Bool × Bool)) :=
  match e.countNumeral? with
  | none => .error .numeralTooLong
  | some _ => e.valuesOn e.assignments

end Formula

end TruthTables
