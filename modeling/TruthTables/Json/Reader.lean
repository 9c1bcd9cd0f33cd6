import TruthTables.Assignment
import TruthTables.Json.Token

/-!
# Reading JSON

The tokens of a text are read from left to right.  The state keeps, for every list or object that
is still open, what has been read of it.  A name that occurs twice in an object keeps its first
place and its last value.
-/

namespace TruthTables.Json

/-- A list or an object that is still open. -/
inductive Frame where
  /-- The items of a list, the last one first. -/
  | list (items : List Value)
  /-- The members of an object, the last one first, and the name whose value is due. -/
  | object (members : List (String × Value)) (name : String)
deriving Repr

/-- Where the reading stands; `outer` are the open lists and objects, the innermost one first. -/
inductive Reading where
  /-- A value must come. -/
  | value (outer : List Frame)
  /-- The first item of a list must come, or its end. -/
  | firstItem (outer : List Frame)
  /-- The first name of an object must come, or its end. -/
  | firstName (outer : List Frame)
  /-- The name of a further member must come. -/
  | name (members : List (String × Value)) (outer : List Frame)
  /-- The colon after a name must come. -/
  | colon (members : List (String × Value)) (name : String) (outer : List Frame)
  | after (v : Value) (outer : List Frame)
deriving Repr

namespace Reading

/-- An object from its members, the last one first. -/
def objectOf (members : List (String × Value)) : Value :=
  .object (Assignment.ofPairs members.reverse).entries

def stepValue (outer : List Frame) : Token → Option Reading
  | .text s => some (after (.string s) outer)
  | .scalar v => some (after v outer)
  | .openList => some (firstItem outer)
  | .openObject => some (firstName outer)
  | _ => none

def step (r : Reading) (t : Token) : Option Reading :=
  match r with
  | value outer => stepValue outer t
  | firstItem outer =>
    match t with
    | .closeList => some (after (.array []) outer)
    | t => stepValue (.list [] :: outer) t
  | firstName outer =>
    match t with
    | .closeObject => some (after (.object []) outer)
    | .text s => some (colon [] s outer)
    | _ => none
  | name members outer =>
    match t with
    | .text s => some (colon members s outer)
    | _ => none
  | colon members s outer =>
    match t with
    | .colon => some (value (.object members s :: outer))
    | _ => none
  | after v outer =>
    match outer, t with
    | .list items :: outer, .comma => some (value (.list (v :: items) :: outer))
    | .list items :: outer, .closeList => some (after (.array (v :: items).reverse) outer)
    | .object members s :: outer, .comma => some (name ((s, v) :: members) outer)
    | .object members s :: outer, .closeObject => some (after (objectOf ((s, v) :: members)) outer)
    | _, _ => none

/-- The value that has been read, if the reading may end. -/
def finish? : Reading → Option Value
  | after v [] => some v
  | _ => none

end Reading

def Value.read? (cs : List Char) : Option Value :=
  (Token.split? cs).bind fun ts => (ts.foldlM Reading.step (.value [])).bind Reading.finish?

end TruthTables.Json
