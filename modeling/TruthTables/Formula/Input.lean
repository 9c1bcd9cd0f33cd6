import TruthTables.Formula.Parser
import TruthTables.Journal.Note
import TruthTables.Json.Value

/-!
# Inputs for formulas

A formula is asked for with a value of any kind, of which only texts can be formulas.  Reading an
input makes notes: on the input itself, and on the formula or the error that came of it.
-/

namespace TruthTables

def ParseError.notes : ParseError → List Note
  | .notText kind =>
    [.debug ("Unexpected parsing error: AttributeError: " ++ (ParseError.notText kind).message)]
  | .empty => [.debug "ParseError encountered during formula parsing"]
  | .illegal character =>
    [.debug ("Illegal character '" ++ character.char.toString ++ "' at position "
        ++ toString character.position),
      .debug ("Unexpected parsing error: " ++ character.message),
      .debug "ParseError encountered during formula parsing"]
  | _ =>
    [.debug "Parse error encountered", .debug "ParseError encountered during formula parsing"]

/-- The formula that an input stands for, and the parser after it. -/
def Parser.parseInput (p : Parser) : Json.Value → Except ParseError Formula × Parser
  | .string s => p.parse s
  | input => (.error (.notText input.kindName), p)

namespace Formula

def ofInput (input : Json.Value) : Except ParseError Formula := (Parser.fresh.parseInput input).1

def parsedNotes (e : Formula) : List Note :=
  [.debug ("Successfully parsed formula into " ++ e.kindName),
    .debug ("Formula parsed successfully into AST with type: " ++ e.kindName)]

/-- The formula that an input stands for, with the notes on the reading. -/
def ofInputNoted (input : Json.Value) : Noted (Except ParseError Formula) :=
  let asked := Note.debug ("Parsing formula: " ++ input.display)
  let outcome := ofInput input
  ⟨outcome, asked :: asked ::
    match outcome with
    | .ok e => e.parsedNotes
    | .error e => e.notes⟩

end Formula

end TruthTables
