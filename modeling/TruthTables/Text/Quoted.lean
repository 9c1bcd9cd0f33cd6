import TruthTables.Text.Hex
import TruthTables.Text.Printable

/-!
# Quoted texts

How a text is shown inside a message: between quotation marks, with the mark, the backslash, line
breaks, tabs and everything unprintable escaped.  Single marks are used unless the text holds a
single mark and no double one.
-/

namespace TruthTables.Text

/-- The mark that a text is quoted with. -/
def quoteMark (cs : List Char) : Char :=
  if cs.contains '\'' && !cs.contains '"' then '"' else '\''

/-- An unprintable character as `\xHH`, `\uHHHH` or `\UHHHHHHHH`, the shortest that holds it. -/
def escapeCode (c : Char) : List Char :=
  if c.toNat < 0x100 then '\\' :: 'x' :: hexDigits 2 c.toNat
  else if c.toNat < 0x10000 then '\\' :: 'u' :: hexDigits 4 c.toNat
  else '\\' :: 'U' :: hexDigits 8 c.toNat

def quoteChar (mark c : Char) : List Char :=
  if c = mark ∨ c = '\\' then ['\\', c]
  else if c = '\n' then ['\\', 'n']
  else if c = '\r' then ['\\', 'r']
  else if c = '\t' then ['\\', 't']
  else if isPrintable c then [c]
  else escapeCode c

/-- The characters of a quoted text. -/
def quoteChars (cs : List Char) : List Char :=
  quoteMark cs :: (cs.flatMap (quoteChar (quoteMark cs)) ++ [quoteMark cs])

/-- A text between quotation marks. -/
def quote (s : String) : String :=
  String.ofList (quoteChars s.toList)

/-- Several texts as a bracketed list of quoted texts. -/
def quoteList (ss : List String) : String :=
  "[" ++ ", ".intercalate (ss.map quote) ++ "]"

end TruthTables.Text
