import TruthTables.Connective

/-!
# Tokens

The smallest parts of a formula's text: identifiers, connectives, the negation sign and
parentheses.
-/

namespace TruthTables

/-- A part of a formula's text. -/
inductive Token where
  | identifier (name : String)
  | connective (c : Connective)
  | negation
  | opening
  | closing
deriving DecidableEq, Repr, Inhabited

namespace Token

def lexeme : Token → List Char
  | identifier name => name.toList
  | connective c => c.sign
  | negation => ['!']
  | opening => ['(']
  | closing => [')']

def text (t : Token) : String := String.ofList t.lexeme

def typeName : Token → String
  | identifier _ => "ID"
  | connective c => c.tokenName
  | negation => "NOT"
  | opening => "LPAREN"
  | closing => "RPAREN"

/-- A token at its place in a text. -/
structure Located where
  token : Token
  start : Nat
deriving DecidableEq, Repr, Inhabited

def Located.stop (t : Located) : Nat := t.start + t.token.lexeme.length

end Token

end TruthTables
