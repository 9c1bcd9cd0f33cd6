/-!
# Writing comma-separated values

Records of fields, one record on a line, with commas between the fields.  A field is quoted when
it holds a comma, a double quote or a line feed, or when it is empty and alone in its record;
inside quotes a double quote is written twice.
-/

namespace TruthTables.Csv

/-- Whether a field with these characters must be quoted wherever it stands. -/
def needsQuotes (cs : List Char) : Bool :=
  cs.any fun c => c == ',' || c == '"' || c == '\n'

def doubleQuotes (cs : List Char) : List Char :=
  cs.flatMap fun c => if c = '"' then ['"', '"'] else [c]

def quoted (cs : List Char) : List Char := '"' :: (doubleQuotes cs ++ ['"'])

def field (s : String) : List Char :=
  if needsQuotes s.toList then quoted s.toList else s.toList

def record (fields : List String) : List Char :=
  (if fields = [""] then quoted [] else [','].intercalate (fields.map field)) ++ ['\n']

/-- Characters without the line feeds at their end. -/
def dropFinalFeeds (cs : List Char) : List Char :=
  (cs.reverse.dropWhile (· == '\n')).reverse

/-- The characters of several records, without the line feeds at the end. -/
def chars (records : List (List String)) : List Char :=
  dropFinalFeeds (records.flatMap record)

end TruthTables.Csv
