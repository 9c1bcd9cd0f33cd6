import TruthTables.Text.Hex

/-!
# Texts inside JSON

A text is written between double quotes in ASCII alone: quotes, backslashes and the usual controls
have short escapes, and every other character outside the printable part of ASCII is written by
its UTF-16 code units, of which it has one or two.
-/

namespace TruthTables.Json

def escapeUnit (n : Nat) : List Char := '\\' :: 'u' :: Text.hexDigits 4 n

def codeUnits (c : Char) : List Nat :=
  if c.toNat < 0x10000 then [c.toNat]
  else [0xD800 + (c.toNat - 0x10000) / 0x400, 0xDC00 + (c.toNat - 0x10000) % 0x400]

def escapeChar (c : Char) : List Char :=
  if c = '"' then ['\\', '"']
  else if c = '\\' then ['\\', '\\']
  else if c = '\n' then ['\\', 'n']
  else if c = '\r' then ['\\', 'r']
  else if c = '\t' then ['\\', 't']
  else if c.toNat = 8 then ['\\', 'b']
  else if c.toNat = 12 then ['\\', 'f']
  else if 32 ≤ c.toNat ∧ c.toNat ≤ 126 then [c]
  else (codeUnits c).flatMap escapeUnit

def escaped (s : String) : List Char :=
  '"' :: (s.toList.flatMap escapeChar ++ ['"'])

end TruthTables.Json
