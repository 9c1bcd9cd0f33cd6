import TruthTables.Arguments.Switch
import TruthTables.Text.Numeral

/-!
# Words of the command line

Each word of a command line is looked at by itself before anything is done.  A word that starts
with a dash is a switch, unless it is a dash alone, looks like a negative number or holds a space;
a long switch may be cut short as long as one spelling fits, a value may follow an equals sign,
and behind a short switch further characters may stand.  After the first `--` every word is plain.
-/

namespace TruthTables.Arguments

/-- A word of the command line. -/
inductive Word where
  | plain (text : String)
  /-- The word `--` which ends the switches. -/
  | separator
  /-- A switch; `long` tells whether it was spelled with two dashes, and `attached` is what stands
  behind it in the same word. -/
  | switch (s : Switch) (long : Bool) (attached : Option (List Char))
  | unknown (text : String)
deriving DecidableEq, Repr

/-- A word that fits several spellings. -/
structure Ambiguity where
  word : String
  candidates : List String
deriving DecidableEq, Repr

namespace Word

/-- Whether characters are decimal digits, at least one. -/
def areDigits (cs : List Char) : Bool :=
  !cs.isEmpty && cs.all fun c => (Text.decimalDigit? c).isSome

/-- Whether the characters after a dash make it a negative number: digits, or digits after a point
with or without digits before it.  One line end at the end does not matter. -/
def looksNegative (cs : List Char) : Bool :=
  let body := if cs.getLast? = some '\n' then cs.dropLast else cs
  areDigits body ||
    match body.dropWhile fun c => (Text.decimalDigit? c).isSome with
    | '.' :: fraction => areDigits fraction
    | _ => false

/-- Characters cut at the first equals sign, if there is one. -/
def cutAtEquals (cs : List Char) : List Char × Option (List Char) :=
  match cs.dropWhile (· != '=') with
  | [] => (cs, none)
  | _ :: value => (cs.takeWhile (· != '='), some value)

/-- A word whose spelling fits none of the switches. -/
def ofUnfitting (cs : List Char) : Word :=
  if looksNegative (cs.drop 1) ∨ ' ' ∈ cs then plain (String.ofList cs)
  else unknown (String.ofList cs)

def ofAbbreviation (cs : List Char) : Except Ambiguity Word :=
  let cut := cutAtEquals cs
  match Switch.spellings.filter fun e => cut.1.isPrefixOf e.1.toList with
  | [] => .ok (ofUnfitting cs)
  | [e] => .ok (switch e.2 true cut.2)
  | several => .error ⟨String.ofList cs, several.map Prod.fst⟩

def ofShort (cs : List Char) : Word :=
  match Switch.ofSpelling? (String.ofList (cs.take 2)) with
  | some s => switch s false (some (cs.drop 2))
  | none => ofUnfitting cs

def ofDashed (cs : List Char) : Except Ambiguity Word :=
  let long := decide ((cs.drop 1).head? = some '-')
  match Switch.ofSpelling? (String.ofList cs) with
  | some s => .ok (switch s long none)
  | none =>
    match cutAtEquals cs with
    | (spelling, some value) =>
      match Switch.ofSpelling? (String.ofList spelling) with
      | some s => .ok (switch s long (some value))
      | none => if long then ofAbbreviation cs else .ok (ofShort cs)
    | (_, none) => if long then ofAbbreviation cs else .ok (ofShort cs)

def ofText (s : String) : Except Ambiguity Word :=
  match s.toList with
  | '-' :: c :: rest => ofDashed ('-' :: c :: rest)
  | _ => .ok (plain s)

def ofTexts : List String → Except Ambiguity (List Word)
  | [] => .ok []
  | s :: rest =>
    if s = "--" then .ok (separator :: rest.map plain)
    else do
      let w ← ofText s
      return w :: (← ofTexts rest)

end Word

end TruthTables.Arguments
