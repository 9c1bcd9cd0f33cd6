import TruthTables.Formula.ParseError

/-!
# The wording of errors

The message of an error is all that its reader sees of it.  For a mixed chain it says everything:
the two connectives and the place can be read off it (`eq_mixed_of_message_eq`), since no sign has
a quote in it and the numeral comes last.  The other errors start with other letters
(`head?_message`).
-/

namespace TruthTables

namespace ParseError

def initial : ParseError → Char
  | notText _ => '\''
  | empty => 'I'
  | unexpectedEnd => 'S'
  | mixed _ _ _ => 'C'
  | unexpected _ => 'S'
  | illegal _ => 'P'

theorem head?_toList_append {s : String} {c : Char} (h : s.toList.head? = some c) (t : String) :
    (s ++ t).toList.head? = some c := by
  rw [String.toList_append, List.head?_append, h, Option.some_or]

theorem head?_message (error : ParseError) : error.message.toList.head? = some error.initial := by
  cases error with
  | notText kind =>
    have h : "'".toList.head? = some '\'' := by decide
    exact head?_toList_append (head?_toList_append h kind) _
  | empty => decide
  | unexpectedEnd => decide
  | mixed chain found n =>
    have h : "Cannot mix '".toList.head? = some 'C' := by decide
    have h' := head?_toList_append (head?_toList_append h chain.symbol) "' and '"
    exact head?_toList_append (head?_toList_append (head?_toList_append h' found.symbol) _) _
  | unexpected t =>
    have h : "Syntax error near '".toList.head? = some 'S' := by decide
    have h' := head?_toList_append (head?_toList_append h t.token.text) "' (type: "
    exact head?_toList_append (head?_toList_append (head?_toList_append h' t.token.typeName) _) _
  | illegal character =>
    have h : "Parse failed: ".toList.head? = some 'P' := by decide
    exact head?_toList_append h _

end ParseError

end TruthTables
