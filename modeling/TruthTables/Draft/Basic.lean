import TruthTables.Formula.Evaluation
import TruthTables.Text.Quoted

/-!
# Formulas under construction

A draft is a formula in which some places are still open: a hole stands for a formula that is not
there, and a pair for two formulas whose connective has not been chosen.  A pair has a text, a
hole has none, and neither has a value.  A draft without open places is a formula, and `formula?`
gives it.
-/

namespace TruthTables

/-- A formula with open places. -/
inductive Draft where
  | var (name : String)
  | neg (operand : Draft)
  | binary (connective : Connective) (left right : Draft)
  | pair (left right : Draft)
  | hole
deriving DecidableEq, Repr, Inhabited

/-- Why a question about a draft has no answer. -/
inductive DraftError where
  | incomplete
  | evaluation (e : EvaluationError)
deriving DecidableEq, Repr

namespace DraftError

/-- The error in words; of an open place nothing is said. -/
def message : DraftError → String
  | incomplete => ""
  | evaluation e => e.message

end DraftError

/-- A formula as a draft without open places. -/
def Formula.draft : Formula → Draft
  | var name => .var name
  | neg e => .neg e.draft
  | binary c l r => .binary c l.draft r.draft

namespace Draft

/-- The formula that a draft is, if no place is open. -/
def formula? : Draft → Option Formula
  | var name => some (.var name)
  | neg d => d.formula?.map .neg
  | binary c l r => l.formula?.bind fun l => r.formula?.map fun r => .binary c l r
  | pair _ _ => none
  | hole => none

@[simp] theorem formula?_draft (e : Formula) : e.draft.formula? = some e := by
  induction e with
  | var name => rfl
  | neg e ih => simp [Formula.draft, formula?, ih]
  | binary c l r ihl ihr => simp [Formula.draft, formula?, ihl, ihr]

/-- The formula that a draft is, or the error that a place is open. -/
def complete (d : Draft) : Except DraftError Formula :=
  match d.formula? with
  | some e => .ok e
  | none => .error .incomplete

def hasHole : Draft → Bool
  | var _ => false
  | neg d => d.hasHole
  | binary _ l r => l.hasHole || r.hasHole
  | pair l r => l.hasHole || r.hasHole
  | hole => true

/-- The characters of the text of a draft without holes, in front of `rest`. -/
def charsOnto : Draft → List Char → List Char
  | var name, rest => name.toList ++ rest
  | neg d, rest => '(' :: '!' :: d.charsOnto (')' :: rest)
  | binary c l r, rest => '(' :: l.charsOnto (c.sign ++ r.charsOnto (')' :: rest))
  | pair l r, rest => '(' :: l.charsOnto (r.charsOnto (')' :: rest))
  | hole, rest => rest

def text (d : Draft) : Except DraftError String :=
  if d.hasHole then .error .incomplete else .ok (String.ofList (d.charsOnto []))

@[simp] theorem hasHole_draft (e : Formula) : e.draft.hasHole = false := by
  induction e with
  | var name => rfl
  | neg e ih => exact ih
  | binary c l r ihl ihr => rw [Formula.draft, hasHole, ihl, ihr]; rfl

theorem charsOnto_draft (e : Formula) : ∀ rest, e.draft.charsOnto rest = e.charsOnto rest := by
  induction e with
  | var name => intro rest; rfl
  | neg e ih => intro rest; rw [Formula.draft, charsOnto, Formula.charsOnto, ih]
  | binary c l r ihl ihr =>
    intro rest
    rw [Formula.draft, charsOnto, Formula.charsOnto, ihl, ihr]

/-- **A draft that is a formula has the text of the formula.** -/
@[simp] theorem text_draft (e : Formula) : e.draft.text = .ok e.text := by
  rw [text, hasHole_draft, charsOnto_draft]
  rfl

/-- The value of a draft under a valuation.  A pair fails before its operands are looked at. -/
def eval (valuation : String → Option Bool) : Draft → Except DraftError Bool
  | var name =>
    match valuation name with
    | some b => .ok b
    | none => .error (.evaluation (.unbound name))
  | neg d => do
    let b ← d.eval valuation
    return !b
  | binary c l r => do
    let a ← l.eval valuation
    let b ← r.eval valuation
    return c.apply a b
  | pair _ _ => .error .incomplete
  | hole => .error .incomplete

/-- The variables of a draft without open places. -/
def vars (d : Draft) : Except DraftError (List String) := d.complete.map Formula.vars

/-- The steps of a draft without open places. -/
def steps (d : Draft) : Except DraftError (List Formula) := d.complete.map Formula.steps

/-- Every assignment to the variables of a draft without open places, with its value. -/
def evaluateAll (d : Draft) : Except DraftError (List (Assignment Bool × Bool)) := do
  (← d.complete).evaluateAll.mapError .evaluation

/-- What a draft is built of, in front of `rest`: each node by the name of its kind, with its parts
named. -/
def structureOnto : Draft → List Char → List Char
  | var name, rest => "Var(name=".toList ++ (Text.quoteChars name.toList ++ ')' :: rest)
  | neg d, rest => "Not(operand=".toList ++ d.structureOnto (')' :: rest)
  | binary c l r, rest =>
    c.formulaName.toList ++ ("(left=".toList ++
      l.structureOnto (", right=".toList ++ r.structureOnto (')' :: rest)))
  | pair l r, rest =>
    "BinaryExpr(left=".toList ++
      l.structureOnto (", right=".toList ++ r.structureOnto (')' :: rest))
  | hole, rest => "Expr()".toList ++ rest

/-- What a draft is built of, as a text. -/
def structureText (d : Draft) : String := String.ofList (d.structureOnto [])

end Draft

end TruthTables
