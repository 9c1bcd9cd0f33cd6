/-!
# Decimal fractions

A number that is written with a decimal point or an exponent.  It is shown by its significant
digits: in positional notation from 0.0001 up to, and without, ten to the sixteenth power, and
with an exponent otherwise.
-/

namespace TruthTables.Json

/-- The number `coefficient * 10 ^ exponent`, or its negative; zero has a sign too. -/
structure Decimal where
  negative : Bool
  /-- The digits as one whole number. -/
  coefficient : Nat
  /-- The power of ten that the digits are multiplied with. -/
  exponent : Int
deriving DecidableEq, Repr

namespace Decimal

/-- Digits with a point before the position `point`, and zeros where digits are missing. -/
def positional (digits : List Char) (point : Int) : List Char :=
  if point ≤ 0 then
    '0' :: '.' :: (List.replicate point.natAbs '0' ++ digits)
  else
    let whole := point.toNat
    let fraction := digits.drop whole
    digits.take whole ++ List.replicate (whole - digits.length) '0'
      ++ '.' :: (if fraction.isEmpty then ['0'] else fraction)

/-- Digits in exponent notation, with at least two digits in the exponent. -/
def scientific (digits : List Char) (exponent : Int) : List Char :=
  let size := (toString exponent.natAbs).toList
  let sign := if exponent < 0 then '-' else '+'
  let fraction := digits.drop 1
  digits.take 1 ++ (if fraction.isEmpty then [] else '.' :: fraction)
    ++ 'e' :: sign :: (if size.length < 2 then '0' :: size else size)

/-- The characters of the number without its sign. -/
def magnitudeChars (d : Decimal) : List Char :=
  let written := (toString d.coefficient).toList
  let digits := (written.reverse.dropWhile (· == '0')).reverse
  let point : Int := written.length + d.exponent
  if digits.isEmpty then ['0', '.', '0']
  else if -4 < point ∧ point ≤ 16 then positional digits point
  else scientific digits (point - 1)

def text (d : Decimal) : String :=
  String.ofList (if d.negative then '-' :: d.magnitudeChars else d.magnitudeChars)

end Decimal

end TruthTables.Json
