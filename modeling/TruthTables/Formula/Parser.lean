import TruthTables.Formula.Automaton
import TruthTables.Formula.ParseError
import TruthTables.Formula.Track

/-!
# Reading formulas

A parser pulls the tokens of a text one at a time.  Each token goes first to the track of
connectives and then, as lookahead, to the automaton of the grammar.  So the first fault from left
to right is the one that is reported, be it a token that the automaton has no edge for or a
character that starts no token.

A parser can be used for one text after another.  What it keeps is the rival of the last
connective, which every text but an empty one resets.
-/

namespace TruthTables

/-- A reader of formulas between two texts, with the rival of the last connective that it pulled. -/
structure Parser where
  rival : Option Connective
deriving DecidableEq, Repr

namespace Parser

/-- A parser that has read nothing. -/
def fresh : Parser := ⟨none⟩

/-- The parser after a token has been pulled; `track` has followed the tokens before it. -/
def pull (p : Parser) (track : Track) (t : Token) : Parser :=
  match t with
  | .connective _ => ⟨track.rival⟩
  | _ => p

/-- The error for a lookahead that the automaton cannot read. -/
def refuse (p : Parser) : Option Token.Located → ParseError
  | none => .unexpectedEnd
  | some t =>
    match t.token, p.rival with
    | .connective found, some chain =>
      if found = chain then .unexpected t else .mixed chain found t.start
    | _, _ => .unexpected t

/-- Reads tokens that are followed by an illegal character or by the end of the text. -/
def run (failure : Option IllegalCharacter) (p : Parser) (track : Track)
    (config : Automaton.Configuration) :
    List Token.Located → Except ParseError Formula × Parser
  | [] =>
    match failure with
    | some character => (.error (.illegal character), p)
    | none =>
      match config.finish? with
      | some e => (.ok e, p)
      | none => (.error (p.refuse none), p)
  | t :: rest =>
    match config.read? t.token with
    | some next => run failure (p.pull track t.token) (track.step t.token) next rest
    | none => (.error ((p.pull track t.token).refuse (some t)), p.pull track t.token)

/-- The formula that characters stand for, and the parser after it. -/
def parseChars (p : Parser) (cs : List Char) : Except ParseError Formula × Parser :=
  match Token.dropSpacing cs with
  | [] => (.error .empty, p)
  | compact =>
    let lexing := Lexing.ofChars compact
    run lexing.failure fresh Track.start Automaton.Configuration.start lexing.tokens

/-- The formula that a text stands for, and the parser after it. -/
def parse (p : Parser) (s : String) : Except ParseError Formula × Parser :=
  p.parseChars s.toList

/-- The parser after several texts. -/
def after (p : Parser) (texts : List String) : Parser :=
  texts.foldl (fun q s => (q.parse s).2) p

end Parser

namespace Formula

/-- The formula that a text stands for. -/
def parse (s : String) : Except ParseError Formula := (Parser.fresh.parse s).1

end Formula

end TruthTables
