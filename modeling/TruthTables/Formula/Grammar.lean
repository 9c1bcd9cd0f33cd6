import TruthTables.Formula.Basic
import TruthTables.Token.Basic

/-!
# The grammar of formulas

`Derives k ts e` says that the tokens `ts` are a phrase of kind `k` that stands for the formula
`e`.  A factor is an identifier, a negated factor or an expression in parentheses; a chain is two
or more factors with one and the same connective between them, grouped to the left; an expression
is a factor or a chain.  So different connectives never meet without parentheses between them.
-/

namespace TruthTables

namespace Formula

/-- The kinds of phrases of the grammar. -/
inductive Phrase where
  | expression
  | chain (c : Connective)
  | factor
deriving DecidableEq, Repr

/-- Which tokens are phrases of which kind, and which formula they stand for. -/
inductive Derives : Phrase → List Token → Formula → Prop where
  | ofFactor {ts : List Token} {e : Formula} : Derives .factor ts e → Derives .expression ts e
  | ofChain {c : Connective} {ts : List Token} {e : Formula} :
      Derives (.chain c) ts e → Derives .expression ts e
  | pair {c : Connective} {ts us : List Token} {l r : Formula} :
      Derives .factor ts l → Derives .factor us r →
        Derives (.chain c) (ts ++ .connective c :: us) (.binary c l r)
  | extend {c : Connective} {ts us : List Token} {l r : Formula} :
      Derives (.chain c) ts l → Derives .factor us r →
        Derives (.chain c) (ts ++ .connective c :: us) (.binary c l r)
  | negation {ts : List Token} {e : Formula} :
      Derives .factor ts e → Derives .factor (.negation :: ts) (.neg e)
  | group {ts : List Token} {e : Formula} :
      Derives .expression ts e → Derives .factor (.opening :: (ts ++ [.closing])) e
  | identifier (name : String) : Derives .factor [.identifier name] (.var name)

/-- The tokens start the tokens of some formula. -/
def Viable (ts : List Token) : Prop :=
  ∃ us e, Derives .expression (ts ++ us) e

end Formula

end TruthTables
