import TruthTables.Json.Value

/-!
# The tokens of JSON

A text is split into tokens one character at a time.  Outside quotes a character is a sign, a
blank, or belongs to a word; a word is a number or one of the three literals.  Inside quotes every
character but the quote, the backslash and the controls stands for itself, and a backslash starts
an escape; the escapes of two UTF-16 surrogates are joined to the character that they stand for.
-/

namespace TruthTables.Json

/-- A token of JSON. -/
inductive Token where
  | openList
  | closeList
  | openObject
  | closeObject
  | comma
  | colon
  /-- A text, which is a value or the name of a member. -/
  | text (s : String)
  | scalar (v : Value)
deriving Repr, Inhabited

def digitsValue (ds : List Char) : Nat :=
  ds.foldl (fun n d => 10 * n + (d.toNat - 48)) 0

/-- The exponent of a number, from the characters after its digits. -/
def exponentOf? : List Char → Option Int
  | [] => some 0
  | e :: rest =>
    if e = 'e' ∨ e = 'E' then
      match rest with
      | '-' :: ds => if ds ≠ [] ∧ ds.all Char.isDigit then some (-(digitsValue ds : Int)) else none
      | '+' :: ds => if ds ≠ [] ∧ ds.all Char.isDigit then some (digitsValue ds) else none
      | ds => if ds ≠ [] ∧ ds.all Char.isDigit then some (digitsValue ds) else none
    else none

def unsigned? (negative : Bool) (cs : List Char) : Option Value :=
  let whole := cs.takeWhile Char.isDigit
  if whole = [] ∨ (whole.head? = some '0' ∧ whole.length ≠ 1) then none
  else
    match cs.dropWhile Char.isDigit with
    | [] =>
      let n : Int := digitsValue whole
      some (.int (if negative then -n else n))
    | '.' :: rest =>
      let fraction := rest.takeWhile Char.isDigit
      if fraction = [] then none
      else (exponentOf? (rest.dropWhile Char.isDigit)).map fun e =>
        .decimal ⟨negative, digitsValue (whole ++ fraction), e - fraction.length⟩
    | rest => (exponentOf? rest).map fun e => .decimal ⟨negative, digitsValue whole, e⟩

def word? : List Char → Option Value
  | ['n', 'u', 'l', 'l'] => some .null
  | ['t', 'r', 'u', 'e'] => some (.bool true)
  | ['f', 'a', 'l', 's', 'e'] => some (.bool false)
  | '-' :: cs => unsigned? true cs
  | cs => unsigned? false cs

namespace Token

/-- Where the splitting stands between two characters. -/
inductive Mode where
  | idle
  /-- In a word, with its characters, the last one first. -/
  | word (cs : List Char)
  /-- In a text, with its characters, the last one first. -/
  | text (cs : List Char)
  | escape (cs : List Char)
  /-- In the digits of an escaped code unit, after a first surrogate if there is one. -/
  | unit (cs : List Char) (high : Option Nat) (value count : Nat)
  /-- After a first surrogate. -/
  | surrogate (cs : List Char) (high : Nat)
  /-- After a first surrogate and a backslash. -/
  | surrogateEscape (cs : List Char) (high : Nat)
deriving Repr

/-- The tokens so far, the last one first, and where the splitting stands. -/
structure Splitting where
  tokens : List Token
  mode : Mode
deriving Repr

def isWordChar (c : Char) : Bool := c.isAlphanum || c == '-' || c == '+' || c == '.'

def ofSign? : Char → Option Token
  | '[' => some openList
  | ']' => some closeList
  | '\x7b' => some openObject
  | '\x7d' => some closeObject
  | ',' => some comma
  | ':' => some colon
  | _ => none

def shortEscape? : Char → Option Char
  | '"' => some '"'
  | '\\' => some '\\'
  | '/' => some '/'
  | 'n' => some '\n'
  | 'r' => some '\r'
  | 't' => some '\t'
  | 'b' => some (Char.ofNat 8)
  | 'f' => some (Char.ofNat 12)
  | _ => none

namespace Splitting

def stepIdle (tokens : List Token) (c : Char) : Option Splitting :=
  if c = ' ' ∨ c = '\t' ∨ c = '\n' ∨ c = '\r' then some ⟨tokens, .idle⟩
  else if c = '"' then some ⟨tokens, .text []⟩
  else if isWordChar c then some ⟨tokens, .word [c]⟩
  else (ofSign? c).map fun t => ⟨t :: tokens, .idle⟩

def receiveUnit (tokens : List Token) (cs : List Char) (high : Option Nat) (value : Nat) :
    Option Splitting :=
  match high with
  | none =>
    if 0xD800 ≤ value ∧ value < 0xDC00 then some ⟨tokens, .surrogate cs value⟩
    else if 0xDC00 ≤ value ∧ value < 0xE000 then none
    else some ⟨tokens, .text (Char.ofNat value :: cs)⟩
  | some h =>
    if 0xDC00 ≤ value ∧ value < 0xE000 then
      some ⟨tokens, .text (Char.ofNat (0x10000 + (h - 0xD800) * 0x400 + (value - 0xDC00)) :: cs)⟩
    else none

def step (s : Splitting) (c : Char) : Option Splitting :=
  match s.mode with
  | .idle => stepIdle s.tokens c
  | .word cs =>
    if isWordChar c then some ⟨s.tokens, .word (c :: cs)⟩
    else (word? cs.reverse).bind fun v => stepIdle (scalar v :: s.tokens) c
  | .text cs =>
    if c = '"' then some ⟨Token.text (String.ofList cs.reverse) :: s.tokens, .idle⟩
    else if c = '\\' then some ⟨s.tokens, .escape cs⟩
    else if c.toNat < 32 then none
    else some ⟨s.tokens, .text (c :: cs)⟩
  | .escape cs =>
    if c = 'u' then some ⟨s.tokens, .unit cs none 0 0⟩
    else (shortEscape? c).map fun d => ⟨s.tokens, .text (d :: cs)⟩
  | .unit cs high value count =>
    (Text.hexValue? c).bind fun d =>
      if count = 3 then receiveUnit s.tokens cs high (16 * value + d)
      else some ⟨s.tokens, .unit cs high (16 * value + d) (count + 1)⟩
  | .surrogate cs high => if c = '\\' then some ⟨s.tokens, .surrogateEscape cs high⟩ else none
  | .surrogateEscape cs high => if c = 'u' then some ⟨s.tokens, .unit cs (some high) 0 0⟩ else none

def finish (s : Splitting) : Option (List Token) :=
  match s.mode with
  | .idle => some s.tokens.reverse
  | .word cs => (word? cs.reverse).map fun v => (scalar v :: s.tokens).reverse
  | _ => none

end Splitting

def split? (cs : List Char) : Option (List Token) :=
  (cs.foldlM Splitting.step ⟨[], .idle⟩).bind Splitting.finish

end Token

end TruthTables.Json
