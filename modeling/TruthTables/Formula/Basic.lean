import TruthTables.Connective

/-!
# Formulas

A formula is a variable, a negation, or two formulas joined by a connective.  This module reads
off a formula its leaves, its variables in the order of their first occurrence, its steps, which
are the sub-formulas that are no variables in post-order, and its text, in which every negation
and every connective stands in parentheses of its own.

Each list is defined in front of a rest, so that it is built in one pass; `leavesOnto_eq`,
`stepsOnto_eq` and `charsOnto_eq` say that the rest is only appended.
-/

namespace TruthTables

/-- A formula of propositional logic. -/
inductive Formula where
  | var (name : String)
  | neg (operand : Formula)
  | binary (connective : Connective) (left right : Formula)
deriving DecidableEq, Repr, Hashable, Inhabited

namespace Formula

/-! ### Leaves and variables -/

/-- The names at the leaves from left to right, in front of `rest`. -/
def leavesOnto : Formula → List String → List String
  | var name, rest => name :: rest
  | neg e, rest => e.leavesOnto rest
  | binary _ l r, rest => l.leavesOnto (r.leavesOnto rest)

/-- The names at the leaves from left to right. -/
def leaves (e : Formula) : List String := e.leavesOnto []

theorem leavesOnto_eq (e : Formula) : ∀ rest, e.leavesOnto rest = e.leaves ++ rest := by
  induction e with
  | var name => intro rest; rfl
  | neg e ih => intro rest; exact ih rest
  | binary c l r ihl ihr =>
    intro rest
    have h : (binary c l r).leaves = l.leaves ++ (r.leaves ++ []) := by
      rw [← ihr, ← ihl]; rfl
    rw [h, leavesOnto, ihl, ihr, List.append_nil, List.append_assoc]

@[simp] theorem leaves_var (name : String) : (var name).leaves = [name] := rfl

@[simp] theorem leaves_neg (e : Formula) : (neg e).leaves = e.leaves := rfl

@[simp] theorem leaves_binary (c : Connective) (l r : Formula) :
    (binary c l r).leaves = l.leaves ++ r.leaves := by
  rw [leaves, leavesOnto, leavesOnto_eq, leavesOnto_eq, List.append_nil]

/-- The variables, each once, in the order of first occurrence. -/
def vars (e : Formula) : List String := e.leaves.eraseDups

theorem nodup_eraseDups : ∀ l : List String, l.eraseDups.Nodup := by
  intro l
  induction hn : l.length using Nat.strongRecOn generalizing l with
  | ind n ih =>
    cases l with
    | nil => simp
    | cons a rest =>
      rw [List.eraseDups_cons, List.nodup_cons]
      refine ⟨by simp [List.mem_eraseDups], ih _ ?_ _ rfl⟩
      rw [← hn, List.length_cons]
      exact Nat.lt_succ_of_le (List.length_filter_le _ _)

theorem nodup_vars (e : Formula) : e.vars.Nodup := nodup_eraseDups _

@[simp] theorem mem_vars {e : Formula} {name : String} : name ∈ e.vars ↔ name ∈ e.leaves :=
  List.mem_eraseDups

theorem leaves_ne_nil (e : Formula) : e.leaves ≠ [] := by
  induction e with
  | var name => simp
  | neg e ih => simpa using ih
  | binary c l r ihl _ => simp [ihl]

/-! ### Steps -/

/-- The sub-formulas that are no variables, each after its operands, in front of `rest`. -/
def stepsOnto : Formula → List Formula → List Formula
  | var _, rest => rest
  | neg e, rest => e.stepsOnto (neg e :: rest)
  | binary c l r, rest => l.stepsOnto (r.stepsOnto (binary c l r :: rest))

/-- The sub-formulas that are no variables, each after its operands. -/
def steps (e : Formula) : List Formula := e.stepsOnto []

theorem stepsOnto_eq (e : Formula) : ∀ rest, e.stepsOnto rest = e.steps ++ rest := by
  induction e with
  | var name => intro rest; rfl
  | neg e ih =>
    intro rest
    rw [steps, stepsOnto, stepsOnto, ih, ih, List.append_assoc]; rfl
  | binary c l r ihl ihr =>
    intro rest
    rw [steps, stepsOnto, stepsOnto, ihl, ihr, ihl (r.stepsOnto _), ihr, List.append_assoc,
      List.append_assoc]
    rfl

@[simp] theorem steps_var (name : String) : (var name).steps = [] := rfl

@[simp] theorem steps_neg (e : Formula) : (neg e).steps = e.steps ++ [neg e] := by
  rw [steps, stepsOnto, stepsOnto_eq]

@[simp] theorem steps_binary (c : Connective) (l r : Formula) :
    (binary c l r).steps = l.steps ++ (r.steps ++ [binary c l r]) := by
  rw [steps, stepsOnto, stepsOnto_eq, stepsOnto_eq]

def innerSteps (e : Formula) : List Formula := e.steps.dropLast

/-! ### Text -/

/-- The characters of the text, in front of `rest`. -/
def charsOnto : Formula → List Char → List Char
  | var name, rest => name.toList ++ rest
  | neg e, rest => '(' :: '!' :: e.charsOnto (')' :: rest)
  | binary c l r, rest => '(' :: l.charsOnto (c.sign ++ r.charsOnto (')' :: rest))

def chars (e : Formula) : List Char := e.charsOnto []

theorem charsOnto_eq (e : Formula) : ∀ rest, e.charsOnto rest = e.chars ++ rest := by
  induction e with
  | var name => intro rest; simp [chars, charsOnto]
  | neg e ih =>
    intro rest
    rw [chars, charsOnto, charsOnto, ih, ih [')']]
    simp
  | binary c l r ihl ihr =>
    intro rest
    rw [chars, charsOnto, charsOnto, ihl, ihr, ihl (c.sign ++ _), ihr [')']]
    simp

@[simp] theorem chars_var (name : String) : (var name).chars = name.toList := by
  simp [chars, charsOnto]

@[simp] theorem chars_neg (e : Formula) : (neg e).chars = '(' :: '!' :: (e.chars ++ [')']) := by
  rw [chars, charsOnto, charsOnto_eq]

@[simp] theorem chars_binary (c : Connective) (l r : Formula) :
    (binary c l r).chars = '(' :: (l.chars ++ (c.sign ++ (r.chars ++ [')']))) := by
  rw [chars, charsOnto, charsOnto_eq, charsOnto_eq]

def text (e : Formula) : String := String.ofList e.chars

def kindName : Formula → String
  | var _ => "Var"
  | neg _ => "Not"
  | binary c _ _ => c.formulaName

end Formula

end TruthTables
