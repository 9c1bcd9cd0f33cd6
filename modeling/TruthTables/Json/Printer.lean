import TruthTables.Json.Escaped
import TruthTables.Json.Value

/-!
# Writing JSON

Values are written over several lines.  Each item of a list and each member of an object stands on
a line of its own, two spaces further to the right than the brackets around it; what is empty is
written as a bare pair of brackets.
-/

namespace TruthTables.Json

namespace Value

def newLine (depth : Nat) : List Char := '\n' :: List.replicate (2 * depth) ' '

mutual

/-- The characters of a value whose brackets stand at the given depth. -/
def chars (depth : Nat) : Value → List Char
  | null => ['n', 'u', 'l', 'l']
  | bool b => if b then ['t', 'r', 'u', 'e'] else ['f', 'a', 'l', 's', 'e']
  | int n => (toString n).toList
  | decimal d => d.text.toList
  | string s => escaped s
  | array [] => ['[', ']']
  | array (v :: rest) =>
    '[' :: (newLine (depth + 1) ++ v.chars (depth + 1) ++ itemChars (depth + 1) rest
      ++ newLine depth ++ [']'])
  | object [] => ['\x7b', '\x7d']
  | object ((name, v) :: rest) =>
    '\x7b' :: (newLine (depth + 1) ++ escaped name ++ ':' :: ' ' :: v.chars (depth + 1)
      ++ memberChars (depth + 1) rest ++ newLine depth ++ ['\x7d'])

def itemChars (depth : Nat) : List Value → List Char
  | [] => []
  | v :: rest => ',' :: (newLine depth ++ v.chars depth ++ itemChars depth rest)

def memberChars (depth : Nat) : List (String × Value) → List Char
  | [] => []
  | (name, v) :: rest =>
    ',' :: (newLine depth ++ escaped name ++ ':' :: ' ' :: v.chars depth ++ memberChars depth rest)

end

def text (v : Value) : String := String.ofList (v.chars 0)

end Value

end TruthTables.Json
