import TruthTables.Text.Blank

/-!
# Numerals

Integers are read from decimal digits of any script, with an optional sign before them, single
underscores between them and blanks around.  Neither a numeral that is read nor one that is
written may have more than 4300 digits.
-/

namespace TruthTables.Text

/-- The code points of the digits zero; the other nine digits of a script follow its zero. -/
def decimalZeros : List Nat :=
  [48, 1632, 1776, 1984, 2406, 2534, 2662, 2790, 2918, 3046, 3174, 3302, 3430, 3558, 3664, 3792,
   3872, 4160, 4240, 6112, 6160, 6470, 6608, 6784, 6800, 6992, 7088, 7232, 7248, 42528, 43216,
   43264, 43472, 43504, 43600, 44016, 65296, 66720, 68912, 69734, 69872, 69942, 70096, 70384,
   70736, 70864, 71248, 71360, 71472, 71904, 72016, 72784, 73040, 73120, 92768, 92864, 93008,
   120782, 120792, 120802, 120812, 120822, 123200, 123632, 125264, 130032]

/-- The value of a decimal digit of any script. -/
def decimalDigit? (c : Char) : Option Nat :=
  (decimalZeros.find? fun z => decide (z ≤ c.toNat) && decide (c.toNat < z + 10)).map (c.toNat - ·)

def maxDigits : Nat := 4300

/-- The decimal numeral of a number, if it has at most `maxDigits` digits. -/
def numeral? (n : Nat) : Option String :=
  if n < Nat.pow 10 maxDigits then some (toString n) else none

/-- The blanks allowed around a numeral: within ASCII the space and the five position controls. -/
def isNumeralBlank (c : Char) : Bool :=
  if c.toNat < 128 then c == ' ' || (decide (9 ≤ c.toNat) && decide (c.toNat ≤ 13)) else isBlank c

/-- Reads the rest of a numeral: `value` and `count` are the value and the number of the digits so
far, and `digitLast` tells whether a digit came last, after which alone an underscore may stand and
the numeral may end. -/
def readDigits (value count : Nat) (digitLast : Bool) : List Char → Option Nat
  | [] => if digitLast ∧ count ≤ maxDigits then some value else none
  | c :: rest =>
    match decimalDigit? c with
    | some d => readDigits (10 * value + d) (count + 1) true rest
    | none => if c = '_' ∧ digitLast then readDigits value count false rest else none

def readInt? (s : String) : Option Int :=
  let inner := ((s.toList.dropWhile isNumeralBlank).reverse.dropWhile isNumeralBlank).reverse
  match inner with
  | '-' :: digits => (readDigits 0 0 false digits).map fun n => -(n : Int)
  | '+' :: digits => (readDigits 0 0 false digits).map fun n => (n : Int)
  | digits => (readDigits 0 0 false digits).map fun n => (n : Int)

end TruthTables.Text
