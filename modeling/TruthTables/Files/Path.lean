/-!
# Paths

A path is a root and the names below it.  Repeated slashes, single dots and a slash at the end
have no meaning and are dropped; a pair of dots stays.  Two slashes at the start make a root of
their own, more than two count as one.
-/

namespace TruthTables

/-- A path in a file system. -/
structure Path where
  /-- The root: nothing, one slash or two. -/
  root : String
  names : List String
deriving DecidableEq, Repr

namespace Path

def splitSlashes : List Char → List (List Char)
  | [] => [[]]
  | c :: rest =>
    if c = '/' then [] :: splitSlashes rest
    else
      match splitSlashes rest with
      | [] => [[c]]
      | part :: parts => (c :: part) :: parts

def rootOf (cs : List Char) : String :=
  match (cs.takeWhile (· == '/')).length with
  | 0 => ""
  | 2 => "//"
  | _ => "/"

def ofText (s : String) : Path :=
  ⟨rootOf s.toList,
    ((splitSlashes s.toList).filter fun part => part ≠ [] ∧ part ≠ ['.']).map String.ofList⟩

def text (p : Path) : String :=
  if p.root = "" ∧ p.names = [] then "." else p.root ++ "/".intercalate p.names

end Path

end TruthTables
