/-!
# The Boolean cube

The vectors of `width` truth values, listed by counting in binary: the first value of a vector is
its most significant bit, and false comes before true.  The cube of width zero is taken to be
empty, as there is nothing to choose.  A vector is defined for every integer counter, by the last
`width` bits of its two's complement, so that counters which differ by a multiple of `2 ^ width`
agree.

The vectors can also be taken one at a time, on a walk.  Several walks through one cube may be under
way, and a move on one of them leaves the others where they are.
-/

namespace TruthTables

/-- The cube of Boolean vectors of one width. -/
structure Cube where
  width : Nat
deriving DecidableEq, Repr

namespace Cube

/-- Why a cube, or a number about it, does not exist. -/
inductive Fault where
  | negativeWidth (width : Int)
  | lengthOverflow
deriving DecidableEq, Repr

def Fault.message : Fault → String
  | negativeWidth w => "Width must be non-negative, got " ++ toString w
  | lengthOverflow => "cannot fit 'int' into an index-sized integer"

def ofWidth (width : Int) : Except Fault Cube :=
  if width < 0 then .error (.negativeWidth width) else .ok ⟨width.toNat⟩

def count (c : Cube) : Nat :=
  if c.width = 0 then 0 else Nat.pow 2 c.width

/-- The number of vectors as a length, which stays below `2 ^ 63`. -/
def length (c : Cube) : Except Fault Nat :=
  if c.count < Nat.pow 2 63 then .ok c.count else .error .lengthOverflow

/-- The bit of a counter with the given place value `2 ^ place`. -/
def bit (counter : Int) (place : Nat) : Bool :=
  (counter >>> place) % 2 == 1

/-- The last `width` bits of a counter, the most significant one first. -/
def bits (counter : Int) : (width : Nat) → List Bool
  | 0 => []
  | width + 1 => bit counter width :: bits counter width

@[simp] theorem length_bits (counter : Int) (width : Nat) :
    (bits counter width).length = width := by
  induction width with
  | zero => rfl
  | succ w ih => simp [bits, ih]

/-- The vector of a counter. -/
def vector (c : Cube) (counter : Int) : List Bool := bits counter c.width

@[simp] theorem length_vector (c : Cube) (counter : Int) : (c.vector counter).length = c.width :=
  length_bits counter c.width

/-- The vectors of the counters from `start` on, at most `n` of them. -/
def vectorsFrom (c : Cube) (start n : Nat) : List (List Bool) :=
  (List.range' start (min n (c.count - start))).map fun (k : Nat) => c.vector k

/-- All vectors in counting order. -/
def vectors (c : Cube) : List (List Bool) := c.vectorsFrom 0 c.count

@[simp] theorem length_vectors (c : Cube) : c.vectors.length = c.count := by
  simp [vectors, vectorsFrom]

/-- A walk through the vectors: where it stands is its own, and belongs to no other walk. -/
structure Walk where
  cube : Cube
  next : Nat
deriving DecidableEq, Repr

/-- A walk that starts at the first vector. -/
def walk (c : Cube) : Walk := ⟨c, 0⟩

/-- The next vector with the walk behind it, or nothing at the end. -/
def Walk.advance? (w : Walk) : Option (List Bool × Walk) :=
  if w.next < w.cube.count then some (w.cube.vector w.next, ⟨w.cube, w.next + 1⟩) else none

/-- All the vectors that are left, and the walk at its end. -/
def Walk.drain (w : Walk) : List (List Bool) × Walk :=
  (w.cube.vectorsFrom w.next w.cube.count, ⟨w.cube, max w.next w.cube.count⟩)

/-! ### Several walks -/

/-- What is done with one of several walks, which are told apart by names. -/
inductive Move where
  /-- A new walk starts and takes the name. -/
  | start (name : String)
  | next (name : String)
deriving DecidableEq, Repr

/-- What comes of a move. -/
inductive Reply where
  | started
  | vector (bits : List Bool)
  | ended
deriving DecidableEq, Repr

/-- Several walks through one cube.  A name that no walk has taken stands for one at its start. -/
structure Walks where
  cube : Cube
  walk : String → Walk

def walks (c : Cube) : Walks := ⟨c, fun _ => c.walk⟩

namespace Walks

def put (ws : Walks) (name : String) (w : Walk) : Walks :=
  ⟨ws.cube, fun n => if n = name then w else ws.walk n⟩

@[simp] theorem cube_put (ws : Walks) (name : String) (w : Walk) :
    (ws.put name w).cube = ws.cube := rfl

@[simp] theorem walk_put (ws : Walks) (name n : String) (w : Walk) :
    (ws.put name w).walk n = if n = name then w else ws.walk n := rfl

def move (ws : Walks) : Move → Walks × Reply
  | .start name => (ws.put name ws.cube.walk, .started)
  | .next name =>
    match (ws.walk name).advance? with
    | some (bits, w) => (ws.put name w, .vector bits)
    | none => (ws, .ended)

/-- Makes several moves: the walks after them, and what came of each. -/
def moveAll (ws : Walks) : List Move → Walks × List Reply
  | [] => (ws, [])
  | m :: rest =>
    let first := ws.move m
    let others := first.1.moveAll rest
    (others.1, first.2 :: others.2)

end Walks

end Cube

end TruthTables
