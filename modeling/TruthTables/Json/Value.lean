import TruthTables.Json.Decimal
import TruthTables.Text.Quoted

/-!
# Values

The values of the JSON data format.  They are what may be handed in where a text or a truth value
is expected, so this module also says which values count as true, what the kind of a value is
called, and how a value is shown in a message.
-/

namespace TruthTables.Json

/-- A value of the JSON data format. -/
inductive Value where
  | null
  | bool (b : Bool)
  | int (n : Int)
  /-- A number with a fraction or an exponent. -/
  | decimal (d : Decimal)
  | string (s : String)
  | array (items : List Value)
  | object (members : List (String × Value))
deriving Repr, Inhabited

namespace Value

/-- Whether a value counts as true: all do but the absent value, false, zero and what is empty. -/
def truth : Value → Bool
  | null => false
  | bool b => b
  | int n => n != 0
  | decimal d => d.coefficient != 0
  | string s => !s.isEmpty
  | array items => !items.isEmpty
  | object members => !members.isEmpty

def kindName : Value → String
  | null => "NoneType"
  | bool _ => "bool"
  | int _ => "int"
  | decimal _ => "float"
  | string _ => "str"
  | array _ => "list"
  | object _ => "dict"

mutual

/-- A value inside another one, as it is shown in a message. -/
def shown : Value → String
  | null => "None"
  | bool b => if b then "True" else "False"
  | int n => toString n
  | decimal d => d.text
  | string s => Text.quote s
  | array items => "[" ++ ", ".intercalate (shownItems items) ++ "]"
  | object members => "\x7b" ++ ", ".intercalate (shownMembers members) ++ "\x7d"

/-- The items of a list, each as it is shown. -/
def shownItems : List Value → List String
  | [] => []
  | v :: rest => v.shown :: shownItems rest

/-- The members of an object, each as it is shown. -/
def shownMembers : List (String × Value) → List String
  | [] => []
  | (name, v) :: rest => (Text.quote name ++ ": " ++ v.shown) :: shownMembers rest

end

/-- A value as a message of its own: a text stands as it is. -/
def display : Value → String
  | string s => s
  | v => v.shown

end Value

end TruthTables.Json
