/-!
# Reading comma-separated values

A reader of records is fixed by the characters that end a record: the line feed alone, or the
carriage return as well, with a line feed right after it belonging to the same line end.  A field
that starts with a double quote goes on to the next double quote that is not doubled; inside it
commas and line ends have no meaning.
-/

namespace TruthTables.Csv

/-- Where the reading of a field stands; the characters of the field are kept last one first. -/
inductive Mode where
  | start
  | plain (cs : List Char)
  | quoted (cs : List Char)
  | afterQuote (cs : List Char)
deriving DecidableEq, Repr

/-- The characters of the field so far, the last one first. -/
def Mode.chars : Mode → List Char
  | start => []
  | plain cs => cs
  | quoted cs => cs
  | afterQuote cs => cs

/-- What has been read. -/
structure Reading where
  /-- The complete records, the last one first. -/
  records : List (List String)
  /-- The complete fields of the record that is being read, the last one first. -/
  fields : List String
  mode : Mode
  /-- Whether a carriage return ended a record just before. -/
  afterReturn : Bool
deriving DecidableEq, Repr

namespace Reading

/-- Nothing has been read. -/
def begin : Reading := ⟨[], [], .start, false⟩

/-- The fields of the record that is being read, with the field that is being read. -/
def lastRecord (r : Reading) : List String :=
  (String.ofList r.mode.chars.reverse :: r.fields).reverse

def endField (r : Reading) : Reading :=
  ⟨r.records, String.ofList r.mode.chars.reverse :: r.fields, .start, false⟩

def endRecord (r : Reading) (byReturn : Bool) : Reading :=
  ⟨r.lastRecord :: r.records, [], .start, byReturn⟩

/-- Reads a character outside quotes that follows the characters `cs` of its field. -/
def stepOutside (returns : Bool) (r : Reading) (cs : List Char) (c : Char) : Reading :=
  if c = ',' then r.endField
  else if c = '\n' then r.endRecord false
  else if c = '\r' ∧ returns then r.endRecord true
  else ⟨r.records, r.fields, .plain (c :: cs), false⟩

/-- Reads one character; `returns` tells whether a carriage return ends a record. -/
def step (returns : Bool) (r : Reading) (c : Char) : Reading :=
  match r.mode with
  | .start =>
    if c = '\n' ∧ r.afterReturn then ⟨r.records, r.fields, .start, false⟩
    else if c = '"' then ⟨r.records, r.fields, .quoted [], false⟩
    else stepOutside returns r [] c
  | .plain cs => stepOutside returns r cs c
  | .quoted cs =>
    if c = '"' then ⟨r.records, r.fields, .afterQuote cs, false⟩
    else ⟨r.records, r.fields, .quoted (c :: cs), false⟩
  | .afterQuote cs =>
    if c = '"' then ⟨r.records, r.fields, .quoted ('"' :: cs), false⟩
    else stepOutside returns r cs c

def finish (r : Reading) : List (List String) :=
  if r.mode = .start ∧ r.fields = [] then r.records.reverse
  else (r.lastRecord :: r.records).reverse

end Reading

/-- The records of a text; `returns` tells whether a carriage return ends a record too. -/
def records (returns : Bool) (cs : List Char) : List (List String) :=
  (cs.foldl (Reading.step returns) Reading.begin).finish

end TruthTables.Csv
