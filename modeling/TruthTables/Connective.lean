/-!
# The binary connectives

The five connectives that join two formulas, each with its sign, the name of its token, the name
of the formulas that it makes, and its truth function.
-/

namespace TruthTables

/-- A connective between two formulas. -/
inductive Connective where
  | and
  | or
  | implies
  | iff
  | xor
deriving DecidableEq, Repr, Hashable, Inhabited

namespace Connective

def all : List Connective := [and, or, implies, iff, xor]

def sign : Connective → List Char
  | and => ['&']
  | or => ['|']
  | implies => ['=', '>']
  | iff => ['<', '=', '>']
  | xor => ['<', '!', '=', '>']

def symbol (c : Connective) : String := String.ofList c.sign

def ofSymbol? (s : String) : Option Connective :=
  all.find? fun c => c.symbol == s

def tokenName : Connective → String
  | and => "AND"
  | or => "OR"
  | implies => "IMPLIES"
  | iff => "IFF"
  | xor => "XOR"

def formulaName : Connective → String
  | and => "And"
  | or => "Or"
  | implies => "Implication"
  | iff => "Biconditional"
  | xor => "Xor"

def apply : Connective → Bool → Bool → Bool
  | and, a, b => a && b
  | or, a, b => a || b
  | implies, a, b => !a || b
  | iff, a, b => a == b
  | xor, a, b => a != b

end Connective

end TruthTables
