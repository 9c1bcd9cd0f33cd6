import TruthTables.Text.CodeRange

/-!
# Blanks at the ends of a text

The blank characters of Unicode, twenty-nine in number: the control characters that move the
position, the information separators, and every space.  `strip` cuts them off at both ends.
-/

namespace TruthTables.Text

/-- The blank characters. -/
def blankRanges : List CodeRange :=
  [⟨9, 13⟩, ⟨28, 32⟩, ⟨133, 133⟩, ⟨160, 160⟩, ⟨5760, 5760⟩, ⟨8192, 8202⟩, ⟨8232, 8233⟩,
   ⟨8239, 8239⟩, ⟨8287, 8287⟩, ⟨12288, 12288⟩]

/-- Whether a character is white space. -/
def isBlank (c : Char) : Bool :=
  CodeRange.anyHolds blankRanges c

/-- The characters of a text without the blanks that it starts with and ends with. -/
def stripChars (cs : List Char) : List Char :=
  (cs.dropWhile isBlank).reverse.dropWhile isBlank |>.reverse

/-- A text without the blanks that it starts with and ends with. -/
def strip (s : String) : String :=
  String.ofList (stripChars s.toList)

end TruthTables.Text
