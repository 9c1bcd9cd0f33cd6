import TruthTables.Formula.Basic
import TruthTables.Token.Basic

/-!
# The automaton of the grammar

The grammar of formulas is read from left to right by an automaton that shifts tokens onto a stack
and reduces the top of the stack to what a rule of the grammar stands for, with one token of
lookahead.  A state is a set of rules with a dot at the place that has been reached; the doc
comment of each state shows the rules whose dot has moved, with `c` for a connective.

A `Stack` is a path of the automaton from its initial state: it can be built along the edges of the
automaton only, so that a reduction finds the right side of its rule on the stack, and below it a
state that has an edge for the left side.  The sets of lookaheads are those of the states merged
over all stacks that lead to them: after an identifier every connective is a lookahead, also behind
an operand of another connective, and a closing parenthesis also outside of all parentheses.  The
error shows a few reductions later, but before the token is shifted.

Every reduction lowers the `weight` of the stack (`weight_lt_of_reduce?`), so reductions end.
-/

namespace TruthTables

namespace Automaton

/-- A state of the automaton. -/
inductive State where
  /-- `start → · expression` -/
  | initial
  /-- `factor → ( · expression )` -/
  | opening
  /-- `factor → ! · factor` -/
  | negation
  /-- `chain c → factor c · factor` -/
  | pairing (c : Connective)
  /-- `chain c → chain c c · factor` -/
  | extending (c : Connective)
  /-- `factor → identifier ·` -/
  | identifier
  /-- `factor → ( expression ) ·` -/
  | closing
  /-- `expression → factor ·` and `chain c → factor · c factor` -/
  | factor
  /-- `factor → ! factor ·` -/
  | negated
  /-- `chain c → factor c factor ·` -/
  | paired (c : Connective)
  /-- `chain c → chain c c factor ·` -/
  | extended (c : Connective)
  /-- `expression → chain c ·` and `chain c → chain c · c factor` -/
  | chain (c : Connective)
  /-- `factor → ( expression · )` -/
  | inner
  /-- `start → expression ·` -/
  | whole
  /-- The start symbol has been read. -/
  | accepting
deriving DecidableEq, Repr

namespace State

/-- Whether an expression starts in the state. -/
def awaitsExpression : State → Bool
  | initial => true
  | opening => true
  | _ => false

/-- Whether a factor starts in the state. -/
def awaitsFactor : State → Bool
  | initial => true
  | opening => true
  | negation => true
  | pairing _ => true
  | extending _ => true
  | _ => false

end State

/-- What has been read: a path of the automaton to the state `s`, with the names and formulas of
the symbols on the way. -/
inductive Stack : State → Type where
  | initial : Stack .initial
  | opening {s : State} (below : Stack s) (due : s.awaitsFactor) : Stack .opening
  | negation {s : State} (below : Stack s) (due : s.awaitsFactor) : Stack .negation
  | identifier {s : State} (below : Stack s) (due : s.awaitsFactor) (name : String) :
      Stack .identifier
  | pairing (below : Stack .factor) (c : Connective) : Stack (.pairing c)
  | extending {c : Connective} (below : Stack (.chain c)) : Stack (.extending c)
  | closing (below : Stack .inner) : Stack .closing
  | factor {s : State} (below : Stack s) (due : s.awaitsExpression) (e : Formula) : Stack .factor
  | negated (below : Stack .negation) (e : Formula) : Stack .negated
  | paired {c : Connective} (below : Stack (.pairing c)) (e : Formula) : Stack (.paired c)
  | extended {c : Connective} (below : Stack (.extending c)) (e : Formula) : Stack (.extended c)
  | chain {s : State} (below : Stack s) (due : s.awaitsExpression) (c : Connective)
      (e : Formula) : Stack (.chain c)
  | inner (below : Stack .opening) (e : Formula) : Stack .inner
  | whole (below : Stack .initial) (e : Formula) : Stack .whole
  | accepting (below : Stack .initial) (e : Formula) : Stack .accepting

/-- A state together with a path to it. -/
structure Configuration where
  state : State
  stack : Stack state

/-- Whether a lookahead can follow an expression; `none` is the end of the text. -/
def endsExpression : Option Token → Bool
  | none => true
  | some .closing => true
  | some _ => false

def endsChain (c : Connective) : Option Token → Bool
  | some (.connective d) => c == d
  | lookahead => endsExpression lookahead

def endsFactor : Option Token → Bool
  | some (.connective _) => true
  | lookahead => endsExpression lookahead

namespace Stack

/-- Goes on with a factor. -/
def pushFactor (e : Formula) : {s : State} → Stack s → s.awaitsFactor → Configuration
  | .initial, below, _ => ⟨.factor, .factor below rfl e⟩
  | .opening, below, _ => ⟨.factor, .factor below rfl e⟩
  | .negation, below, _ => ⟨.negated, .negated below e⟩
  | .pairing c, below, _ => ⟨.paired c, .paired below e⟩
  | .extending c, below, _ => ⟨.extended c, .extended below e⟩

/-- Goes on with an expression. -/
def pushExpression (e : Formula) : {s : State} → Stack s → s.awaitsExpression → Configuration
  | .initial, below, _ => ⟨.whole, .whole below e⟩
  | .opening, below, _ => ⟨.inner, .inner below e⟩

/-- Shifts a token, if the state has an edge for it. -/
def shift? (t : Token) : {s : State} → Stack s → Option Configuration
  | .factor, stack =>
    match t with
    | .connective c => some ⟨.pairing c, .pairing stack c⟩
    | _ => none
  | .chain c, stack =>
    if t = .connective c then some ⟨.extending c, .extending stack⟩ else none
  | .inner, stack => if t = .closing then some ⟨.closing, .closing stack⟩ else none
  | s, stack =>
    if due : s.awaitsFactor then
      match t with
      | .identifier name => some ⟨.identifier, .identifier stack due name⟩
      | .negation => some ⟨.negation, .negation stack due⟩
      | .opening => some ⟨.opening, .opening stack due⟩
      | _ => none
    else none

/-- Reduces by the rule that ends in the state, if there is one and it allows the lookahead.  The
rule of the start symbol has one lookahead only and does not look at it. -/
def reduce? (lookahead : Option Token) : {s : State} → Stack s → Option Configuration
  | _, identifier below due name =>
    if endsFactor lookahead then some (below.pushFactor (.var name) due) else none
  | _, negated (negation below due) e =>
    if endsFactor lookahead then some (below.pushFactor (.neg e) due) else none
  | _, closing (inner (opening below due) e) =>
    if endsFactor lookahead then some (below.pushFactor e due) else none
  | _, paired (pairing (factor below due l) c) r =>
    if endsChain c lookahead then some ⟨.chain c, .chain below due c (.binary c l r)⟩ else none
  | _, extended (extending (chain below due c l)) r =>
    if endsChain c lookahead then some ⟨.chain c, .chain below due c (.binary c l r)⟩ else none
  | _, factor below due e =>
    if endsExpression lookahead then some (below.pushExpression e due) else none
  | _, chain below due _ e =>
    if endsExpression lookahead then some (below.pushExpression e due) else none
  | _, whole below e => some ⟨.accepting, .accepting below e⟩
  | _, initial => none
  | _, opening _ _ => none
  | _, negation _ _ => none
  | _, pairing _ _ => none
  | _, extending _ => none
  | _, inner _ _ => none
  | _, accepting _ _ => none

/-- The formula of the start symbol, if it has been read. -/
def accepted? : {s : State} → Stack s → Option Formula
  | .accepting, accepting _ e => some e
  | _, _ => none

/-! ### Reductions end -/

/-- A measure of a stack that every reduction lowers: a token weighs more than a factor, a factor
more than a chain, a chain more than an expression. -/
def weight : {s : State} → Stack s → Nat
  | _, initial => 0
  | _, opening below _ => below.weight + 4
  | _, negation below _ => below.weight + 4
  | _, identifier below _ _ => below.weight + 4
  | _, pairing below _ => below.weight + 4
  | _, extending below => below.weight + 4
  | _, closing below => below.weight + 4
  | _, factor below _ _ => below.weight + 3
  | _, negated below _ => below.weight + 3
  | _, paired below _ => below.weight + 3
  | _, extended below _ => below.weight + 3
  | _, chain below _ _ _ => below.weight + 2
  | _, inner below _ => below.weight + 1
  | _, whole below _ => below.weight + 1
  | _, accepting below _ => below.weight

theorem weight_pushFactor (e : Formula) {s : State} (below : Stack s) (due : s.awaitsFactor) :
    (below.pushFactor e due).stack.weight = below.weight + 3 := by
  cases s <;> first | rfl | cases due

theorem weight_pushExpression (e : Formula) {s : State} (below : Stack s)
    (due : s.awaitsExpression) :
    (below.pushExpression e due).stack.weight = below.weight + 1 := by
  cases s <;> first | rfl | cases due

/-- **A reduction lowers the weight.** -/
theorem weight_lt_of_reduce? {lookahead : Option Token} {s : State} {stack : Stack s}
    {next : Configuration} (h : stack.reduce? lookahead = some next) :
    next.stack.weight < stack.weight := by
  unfold reduce? at h
  split at h
  all_goals
    try split at h
    all_goals
      cases h
      try simp only [weight, weight_pushFactor, weight_pushExpression]
      try omega

end Stack

namespace Configuration

/-- The automaton before the first token. -/
def start : Configuration := ⟨.initial, .initial⟩

/-- Reduces as long as the lookahead allows it. -/
def settle (lookahead : Option Token) (config : Configuration) : Configuration :=
  match h : config.stack.reduce? lookahead with
  | some next =>
    have := Stack.weight_lt_of_reduce? h
    settle lookahead next
  | none => config
termination_by config.stack.weight

/-- Reads a token: reduces with the token as lookahead and shifts it. -/
def read? (config : Configuration) (t : Token) : Option Configuration :=
  (config.settle (some t)).stack.shift? t

/-- The formula of the text, if the text may end. -/
def finish? (config : Configuration) : Option Formula := (config.settle none).stack.accepted?

theorem settle_of_reduce? {lookahead : Option Token} {config next : Configuration}
    (h : config.stack.reduce? lookahead = some next) :
    config.settle lookahead = next.settle lookahead := by
  rw [settle]
  split
  next next' h' =>
    rw [h] at h'
    cases h'
    rfl
  next h' =>
    rw [h] at h'
    cases h'

theorem settle_of_reduce?_eq_none {lookahead : Option Token} {config : Configuration}
    (h : config.stack.reduce? lookahead = none) : config.settle lookahead = config := by
  rw [settle]
  split
  next next' h' =>
    rw [h] at h'
    cases h'
  next => rfl

theorem read?_of_reduce? {t : Token} {config next : Configuration}
    (h : config.stack.reduce? (some t) = some next) : config.read? t = next.read? t := by
  rw [read?, settle_of_reduce? h, read?]

theorem read?_of_reduce?_eq_none {t : Token} {config : Configuration}
    (h : config.stack.reduce? (some t) = none) : config.read? t = config.stack.shift? t := by
  rw [read?, settle_of_reduce?_eq_none h]

theorem finish?_of_reduce? {config next : Configuration}
    (h : config.stack.reduce? none = some next) : config.finish? = next.finish? := by
  rw [finish?, settle_of_reduce? h, finish?]

theorem finish?_of_reduce?_eq_none {config : Configuration}
    (h : config.stack.reduce? none = none) : config.finish? = config.stack.accepted? := by
  rw [finish?, settle_of_reduce?_eq_none h]

end Configuration

end Automaton

end TruthTables
