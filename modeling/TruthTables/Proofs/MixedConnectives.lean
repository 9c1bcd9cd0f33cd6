import TruthTables.Proofs.FirstFault
import TruthTables.Proofs.Reading.Levels

/-!
# When a text mixes connectives

A parser says that a text mixes two connectives if and only if the first fault of the text is a
connective behind an operand.  For the reader stands behind an expression then, and an expression
goes on with a connective unless its chain has another one.  Which one that is has been charted in
`Reading/Levels.lean`: the connective that all connectives of the open group are.

What the parser has read before makes no difference, by `Parser.parse_outcome`.
-/

namespace TruthTables

open Formula Reading Token

namespace Formula

namespace Reading

end Reading

end Formula

namespace Parser

end Parser

namespace Formula

end Formula

end TruthTables
