import TruthTables.Token.Lexer

/-!
# Why an input is no formula

The causes for which reading a formula fails, and their wording.  An error that concerns a token or
a character keeps it together with its place in the text without spacing.
-/

namespace TruthTables

/-- Why an input is no formula; it is mixed when a chain of one connective goes on with another. -/
inductive ParseError where
  | notText (kind : String)
  | empty
  | unexpectedEnd
  | mixed (chain found : Connective) (position : Nat)
  | unexpected (token : Token.Located)
  | illegal (character : IllegalCharacter)
deriving DecidableEq, Repr

def ParseError.message : ParseError → String
  | notText kind => "'" ++ kind ++ "' object has no attribute 'translate'"
  | empty => "Input formula is empty."
  | unexpectedEnd => "Syntax error: Unexpected end of formula"
  | mixed chain found position =>
    "Cannot mix '" ++ chain.symbol ++ "' and '" ++ found.symbol
      ++ "' without parentheses at position " ++ toString position
  | unexpected t =>
    "Syntax error near '" ++ t.token.text ++ "' (type: " ++ t.token.typeName ++ ") at position "
      ++ toString t.start
  | illegal character => "Parse failed: " ++ character.message

end TruthTables
