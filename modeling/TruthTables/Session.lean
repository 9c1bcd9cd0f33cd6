import TruthTables.Journal.Basic
import TruthTables.Table.Build

/-!
# Sessions

A session is a journal in use: its level is changed, notes are made by hand, and formulas are read
and tabulated, each of which makes notes of its own.  What an action answers does not depend on
the journal; only what is written does.  There is one journal at most, and it is made when it is
asked for the first time.
-/

namespace TruthTables

/-- Something that is done in a session. -/
inductive Action where
  /-- The journal is asked for.  Once there is one, the name makes no difference. -/
  | ask (name : String)
  | setLevel (level : Level)
  | configure (verbose debug : Bool)
  | note (n : Note)
  | formulaRead (source rendered : String) (vars : List String)
  | tableBuilt (rows steps : Int)
  | parse (input : Json.Value)
  | tabulate (input : Json.Value) (withSteps : Bool) (limit : Option Int)

/-- What an action gives back. -/
inductive Answer where
  | nothing
  /-- The note that was to be made cannot be worded. -/
  | failed (e : EvaluationError)
  | formula (outcome : Except ParseError Formula)
  | table (outcome : Except TableError (Table Formula))

namespace Action

/-- The note on the size of a table, if its numbers can be written out. -/
def sizeWork (rows steps : Int) : Noted Answer :=
  match Text.numeral? rows.natAbs, Text.numeral? steps.natAbs with
  | some _, some _ => ⟨.nothing, [Table.sizeNote rows steps]⟩
  | _, _ => ⟨.failed .numeralTooLong, []⟩

/-- What an action gives back, with the notes that it makes. -/
def work : Action → Noted Answer
  | ask _ => ⟨.nothing, []⟩
  | setLevel _ => ⟨.nothing, []⟩
  | configure _ _ => ⟨.nothing, []⟩
  | note n => ⟨.nothing, [n]⟩
  | formulaRead source rendered vars => ⟨.nothing, Table.formulaNotes source rendered vars⟩
  | tableBuilt rows steps => sizeWork rows steps
  | parse input =>
    let read := Formula.ofInputNoted input
    ⟨.formula read.value, read.notes⟩
  | tabulate input withSteps limit =>
    let built := Table.ofInputNoted input withSteps limit
    ⟨.table built.value, built.notes⟩

def journal (j : Journal) : Action → Journal
  | setLevel level => j.setLevel level
  | configure verbose debug => j.configure verbose debug
  | _ => j

end Action

/-- What came of an action: its answer, and what the journal wrote. -/
structure Turn where
  answer : Answer
  written : String

namespace Session

/-- The journal that actions use: the one that is there, and if there is none, a new one for
progress and for what matters more. -/
def journal (installed : Option Journal) : Journal := installed.getD (.ofLevel .info)

/-- Does an action: the journal that is there afterwards, and what came of the action. -/
def perform (installed : Option Journal) (a : Action) : Option Journal × Turn :=
  let j := journal installed
  (some (a.journal j), ⟨a.work.value, j.write a.work.notes⟩)

/-- Does several actions: the journal that is there afterwards, and what came of each. -/
def performAll (installed : Option Journal) : List Action → Option Journal × List Turn
  | [] => (installed, [])
  | a :: rest =>
    let first := perform installed a
    let others := performAll first.1 rest
    (others.1, first.2 :: others.2)

end Session

end TruthTables
