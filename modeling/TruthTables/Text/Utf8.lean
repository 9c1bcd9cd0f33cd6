import TruthTables.Text.Hex

/-!
# Bytes to characters

UTF-8 as the Unicode standard lays it down: a lead byte announces how many bytes follow and which
values the next one may take, so overlong forms, surrogates and values above U+10FFFF are refused
at the first byte that rules them out.  A fault covers the longest part that still could have
started a character.
-/

namespace TruthTables.Text.Utf8

/-- Why bytes are no UTF-8. -/
inductive Reason where
  /-- The byte starts no character. -/
  | start
  /-- The byte after the faulty part does not continue it. -/
  | continuation
  /-- The bytes end inside a character. -/
  | cut
deriving DecidableEq, Repr

/-- A part of the bytes that is no character. -/
structure Fault where
  byte : UInt8
  first : Nat
  last : Nat
  reason : Reason
deriving DecidableEq, Repr

def Reason.message : Reason → String
  | start => "invalid start byte"
  | continuation => "invalid continuation byte"
  | cut => "unexpected end of data"

/-- A fault in words, with the byte if it is only one. -/
def Fault.message (f : Fault) : String :=
  let place :=
    if f.first = f.last then
      "byte 0x" ++ String.ofList (hexDigits 2 f.byte.toNat) ++ " in position " ++ toString f.first
    else "bytes in position " ++ toString f.first ++ "-" ++ toString f.last
  "'utf-8' codec can't decode " ++ place ++ ": " ++ f.reason.message

/-- A character whose lead byte has been read. -/
structure Lead where
  lead : UInt8
  first : Nat
  /-- How many bytes are still owed, at least one. -/
  owed : Nat
  /-- The least value of the next byte. -/
  low : Nat
  /-- The greatest value of the next byte. -/
  high : Nat
  /-- The bits read so far. -/
  bits : Nat

def Lead.ofByte? (i : Nat) (b : UInt8) : Option Lead :=
  let n := b.toNat
  if 0xC2 ≤ n ∧ n ≤ 0xDF then some ⟨b, i, 1, 0x80, 0xBF, n - 0xC0⟩
  else if n = 0xE0 then some ⟨b, i, 2, 0xA0, 0xBF, 0⟩
  else if n = 0xED then some ⟨b, i, 2, 0x80, 0x9F, 0xD⟩
  else if 0xE1 ≤ n ∧ n ≤ 0xEF then some ⟨b, i, 2, 0x80, 0xBF, n - 0xE0⟩
  else if n = 0xF0 then some ⟨b, i, 3, 0x90, 0xBF, 0⟩
  else if 0xF1 ≤ n ∧ n ≤ 0xF3 then some ⟨b, i, 3, 0x80, 0xBF, n - 0xF0⟩
  else if n = 0xF4 then some ⟨b, i, 3, 0x80, 0x8F, 4⟩
  else none

/-- How far the bytes have been read. -/
structure Progress where
  index : Nat
  /-- The characters read, the last one first. -/
  chars : List Char
  part : Option Lead

def Progress.step (p : Progress) (b : UInt8) : Except Fault Progress :=
  match p.part with
  | none =>
    if b.toNat < 0x80 then .ok ⟨p.index + 1, Char.ofNat b.toNat :: p.chars, none⟩
    else
      match Lead.ofByte? p.index b with
      | some part => .ok ⟨p.index + 1, p.chars, some part⟩
      | none => .error ⟨b, p.index, p.index, .start⟩
  | some part =>
    if part.low ≤ b.toNat ∧ b.toNat ≤ part.high then
      let bits := part.bits * 64 + (b.toNat - 0x80)
      if part.owed ≤ 1 then .ok ⟨p.index + 1, Char.ofNat bits :: p.chars, none⟩
      else .ok ⟨p.index + 1, p.chars, some ⟨part.lead, part.first, part.owed - 1, 0x80, 0xBF, bits⟩⟩
    else .error ⟨part.lead, part.first, p.index - 1, .continuation⟩

def Progress.finish (p : Progress) : Except Fault (List Char) :=
  match p.part with
  | none => .ok p.chars.reverse
  | some part => .error ⟨part.lead, part.first, p.index - 1, .cut⟩

/-- The characters that bytes stand for. -/
def decode (bytes : List UInt8) : Except Fault (List Char) := do
  (← bytes.foldlM Progress.step ⟨0, [], none⟩).finish

end TruthTables.Text.Utf8
