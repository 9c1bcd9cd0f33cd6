import TruthTables.Token.Basic

/-!
# The track of connectives

Beside the automaton the tokens are followed by a track, which keeps the last connective of every
group of parentheses that is open.  From it comes the rival of a connective: the one that the text
has been using at the same level, so that a text which mixes the two can be told from a text with
some other fault.  The track knows nothing of the automaton and follows every list of tokens.
-/

namespace TruthTables

/-- Which connectives have been seen. -/
structure Track where
  /-- The last connective of the innermost open group. -/
  level : Option Connective
  /-- The last connectives of the groups around it, the innermost one first. -/
  outer : List (Option Connective)
  /-- The last token. -/
  last : Option Token
deriving DecidableEq, Repr

namespace Track

/-- The track before the first token. -/
def start : Track := ⟨none, [], none⟩

/-- Whether the last token ends an operand. -/
def followsOperand (track : Track) : Bool :=
  match track.last with
  | some (.identifier _) => true
  | some .closing => true
  | _ => false

/-- What a connective that comes next has been preceded by at its level; a connective without an
operand before it has no rival. -/
def rival (track : Track) : Option Connective :=
  if track.followsOperand then track.level else none

/-- The track after a token.  A closing parenthesis without an opening one closes nothing. -/
def step (track : Track) (t : Token) : Track :=
  match t with
  | .opening => ⟨none, track.level :: track.outer, some t⟩
  | .closing =>
    match track.outer with
    | [] => ⟨track.level, [], some t⟩
    | level :: outer => ⟨level, outer, some t⟩
  | .connective c => ⟨some c, track.outer, some t⟩
  | .identifier _ => ⟨track.level, track.outer, some t⟩
  | .negation => ⟨track.level, track.outer, some t⟩

end Track

end TruthTables
