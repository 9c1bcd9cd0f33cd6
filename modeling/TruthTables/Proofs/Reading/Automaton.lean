import TruthTables.Formula.Automaton
import TruthTables.Proofs.Reading.Grammar

/-!
# The automaton follows the reader

The automaton reduces only when it sees a lookahead, while the reader of `Reading/Grammar.lean`
joins every operand at once.  `Stands config r` says that the two stand at the same place after a
token has been shifted: the stack is what the reader has in mind, with the reductions that are
still to come.  In between, when the lookahead is known, an operand is first joined to its negation
signs (`settle_pushFactor`); then the automaton `Rests` where the reader has been since the
operand.

* `Stands.read?`: the automaton has an edge for a token exactly when the reader may go on with it,
  and stands with the reader again.
* `Stands.finish?`: the automaton accepts exactly when the reader may end, with the same formula.
-/

namespace TruthTables

open Formula Formula.Reading

namespace Automaton

/-- What the stack keeps where a factor is due: the group of the factor and the groups around it. -/
inductive Stack.Keeps : {s : State} → Stack s → Group → List Group → Prop where
  | initial : Keeps .initial .start []
  | opening {s : State} {below : Stack s} {due : s.awaitsFactor} {g : Group} {outer : List Group} :
      Keeps below g outer → Keeps (.opening below due) .start (g :: outer)
  | negation {s : State} {below : Stack s} {due : s.awaitsFactor} {g : Group}
      {outer : List Group} : Keeps below g outer →
      Keeps (.negation below due) ⟨g.chain, g.negations + 1⟩ outer
  | pairing {s : State} {below : Stack s} {due : s.awaitsExpression} {outer : List Group}
      (l : Formula) (c : Connective) : Keeps below .start outer →
      Keeps (.pairing (.factor below due l) c) ⟨some (l, c), 0⟩ outer
  | extending {s : State} {below : Stack s} {due : s.awaitsExpression} {outer : List Group}
      (l : Formula) (c : Connective) : Keeps below .start outer →
      Keeps (.extending (.chain below due c l)) ⟨some (l, c), 0⟩ outer

/-- The automaton stands with a reader after a token has been shifted. -/
inductive Stands : Configuration → Reading → Prop where
  | due {s : State} {stack : Stack s} {g : Group} {outer : List Group} : stack.Keeps g outer →
      Stands ⟨s, stack⟩ (due g outer)
  | identifier {s : State} {below : Stack s} {due : s.awaitsFactor} {g : Group}
      {outer : List Group} (name : String) : below.Keeps g outer →
      Stands ⟨.identifier, .identifier below due name⟩ (receive (var name) g outer)
  | closing {s : State} {below : Stack s} {due : s.awaitsFactor} {g : Group}
      {outer : List Group} (e : Formula) : below.Keeps g outer →
      Stands ⟨.closing, .closing (.inner (.opening below due) e)⟩ (receive e g outer)

/-- The automaton has joined an operand to the negation signs before it, and to nothing else. -/
inductive Rests : Configuration → Reading → Prop where
  | factor {s : State} {below : Stack s} {due : s.awaitsExpression} {outer : List Group}
      (e : Formula) : below.Keeps .start outer →
      Rests ⟨.factor, .factor below due e⟩ (after e none outer)
  | paired {s : State} {below : Stack s} {due : s.awaitsExpression} {outer : List Group}
      (l r : Formula) (c : Connective) : below.Keeps .start outer →
      Rests ⟨.paired c, .paired (.pairing (.factor below due l) c) r⟩
        (after (binary c l r) (some c) outer)
  | extended {s : State} {below : Stack s} {due : s.awaitsExpression} {outer : List Group}
      (l r : Formula) (c : Connective) : below.Keeps .start outer →
      Rests ⟨.extended c, .extended (.extending (.chain below due c l)) r⟩
        (after (binary c l r) (some c) outer)

theorem Stack.Keeps.awaitsFactor {s : State} {stack : Stack s} {g : Group} {outer : List Group}
    (h : stack.Keeps g outer) : s.awaitsFactor := by
  cases h <;> rfl

theorem stands_start : Stands .start Reading.start := .due .initial

theorem settle_pushFactor {lookahead : Option Token} (hl : endsFactor lookahead) {s : State}
    {below : Stack s} {g : Group} {outer : List Group} (h : below.Keeps g outer)
    (due : s.awaitsFactor) (e : Formula) :
    ∃ config, (below.pushFactor e due).settle lookahead = config.settle lookahead ∧
      Rests config (receive e g outer) := by
  induction h generalizing e with
  | initial => exact ⟨_, rfl, .factor e .initial⟩
  | opening h _ => exact ⟨_, rfl, .factor e (.opening h)⟩
  | @negation s below due' g outer h ih =>
    obtain ⟨config, hs, hr⟩ := ih due' (neg e)
    refine ⟨config, ?_, ?_⟩
    · rw [← hs]
      exact Configuration.settle_of_reduce? (if_pos hl)
    · obtain ⟨chain, n⟩ := g
      rw [receive, ← negate_neg]
      exact hr
  | pairing l c h _ => exact ⟨_, rfl, .paired l e c h⟩
  | extending l c h _ => exact ⟨_, rfl, .extended l e c h⟩

theorem read?_closing_pushExpression {s : State} {below : Stack s} {g : Group}
    {outer : List Group} (h : below.Keeps g outer) (due : s.awaitsExpression) (e : Formula)
    (chain : Option Connective) :
    Option.Rel Stands ((below.pushExpression e due).read? .closing)
      ((after e chain outer).step? .closing) := by
  cases h with
  | initial =>
    rw [Stack.pushExpression, Configuration.read?_of_reduce? rfl,
      Configuration.read?_of_reduce?_eq_none rfl]
    exact .none
  | opening h =>
    rw [Stack.pushExpression, Configuration.read?_of_reduce?_eq_none rfl]
    exact .some (.closing e h)
  | negation => cases due
  | pairing => cases due
  | extending => cases due

theorem finish?_pushExpression {s : State} {below : Stack s} {g : Group} {outer : List Group}
    (h : below.Keeps g outer) (due : s.awaitsExpression) (e : Formula)
    (chain : Option Connective) :
    (below.pushExpression e due).finish? = (after e chain outer).finish? := by
  cases h with
  | initial =>
    rw [Stack.pushExpression, Configuration.finish?_of_reduce? rfl,
      Configuration.finish?_of_reduce?_eq_none rfl]
    rfl
  | opening h =>
    rw [Stack.pushExpression, Configuration.finish?_of_reduce?_eq_none rfl]
    rfl
  | negation => cases due
  | pairing => cases due
  | extending => cases due

/-- A chain in front of a token. -/
theorem read?_chain {s : State} {below : Stack s} {outer : List Group}
    (h : below.Keeps .start outer) (due : s.awaitsExpression) (c : Connective) (e : Formula)
    (t : Token) :
    Option.Rel Stands ((⟨.chain c, .chain below due c e⟩ : Configuration).read? t)
      ((after e (some c) outer).step? t) := by
  cases t with
  | connective d =>
    rw [Configuration.read?_of_reduce?_eq_none rfl, Stack.shift?]
    by_cases hd : d = c
    · subst hd
      rw [if_pos rfl, step?, if_pos rfl]
      exact .some (.due (.extending e d h))
    · rw [if_neg (fun he => hd (Token.connective.inj he)), step?, if_neg hd]
      exact .none
  | closing =>
    rw [Configuration.read?_of_reduce? rfl]
    exact read?_closing_pushExpression h due e (some c)
  | identifier name => rw [Configuration.read?_of_reduce?_eq_none rfl]; exact .none
  | negation => rw [Configuration.read?_of_reduce?_eq_none rfl]; exact .none
  | opening => rw [Configuration.read?_of_reduce?_eq_none rfl]; exact .none

theorem step?_of_not_endsChain {c : Connective} {t : Token} (ht : ¬ endsChain c (some t))
    (e : Formula) (outer : List Group) : (after e (some c) outer).step? t = none := by
  cases t with
  | connective d =>
    refine if_neg (fun hd => ht ?_)
    rw [hd]
    exact beq_self_eq_true c
  | closing => exact absurd rfl ht
  | identifier name => rfl
  | negation => rfl
  | opening => rfl

/-- **Where an operand has been joined, the automaton goes on as the reader does.** -/
theorem Rests.read? {config : Configuration} {r : Reading} (h : Rests config r) (t : Token) :
    Option.Rel Stands (config.read? t) (r.step? t) := by
  cases h with
  | @factor s below due outer e h =>
    cases t with
    | connective c =>
      rw [Configuration.read?_of_reduce?_eq_none rfl]
      exact .some (.due (.pairing e c h))
    | closing =>
      rw [Configuration.read?_of_reduce? rfl]
      exact read?_closing_pushExpression h due e none
    | identifier name => rw [Configuration.read?_of_reduce?_eq_none rfl]; exact .none
    | negation => rw [Configuration.read?_of_reduce?_eq_none rfl]; exact .none
    | opening => rw [Configuration.read?_of_reduce?_eq_none rfl]; exact .none
  | @paired s below due outer l r c h =>
    have hreduce : (Stack.paired (.pairing (.factor below due l) c) r).reduce? (some t) =
        if endsChain c (some t) then some ⟨.chain c, .chain below due c (.binary c l r)⟩
        else none := rfl
    by_cases ht : endsChain c (some t)
    · rw [if_pos ht] at hreduce
      rw [Configuration.read?_of_reduce? hreduce]
      exact read?_chain h due c (binary c l r) t
    · rw [if_neg ht] at hreduce
      rw [Configuration.read?_of_reduce?_eq_none hreduce, step?_of_not_endsChain ht]
      exact .none
  | @extended s below due outer l r c h =>
    have hreduce : (Stack.extended (.extending (.chain below due c l)) r).reduce? (some t) =
        if endsChain c (some t) then some ⟨.chain c, .chain below due c (.binary c l r)⟩
        else none := rfl
    by_cases ht : endsChain c (some t)
    · rw [if_pos ht] at hreduce
      rw [Configuration.read?_of_reduce? hreduce]
      exact read?_chain h due c (binary c l r) t
    · rw [if_neg ht] at hreduce
      rw [Configuration.read?_of_reduce?_eq_none hreduce, step?_of_not_endsChain ht]
      exact .none

theorem Rests.finish? {config : Configuration} {r : Reading} (h : Rests config r) :
    config.finish? = r.finish? := by
  cases h with
  | @factor s below due outer e h =>
    rw [Configuration.finish?_of_reduce? rfl]
    exact finish?_pushExpression h due e none
  | @paired s below due outer l r c h =>
    rw [Configuration.finish?_of_reduce? rfl, Configuration.finish?_of_reduce? rfl]
    exact finish?_pushExpression h due (binary c l r) (some c)
  | @extended s below due outer l r c h =>
    rw [Configuration.finish?_of_reduce? rfl, Configuration.finish?_of_reduce? rfl]
    exact finish?_pushExpression h due (binary c l r) (some c)

theorem step?_of_not_endsFactor {t : Token} (ht : ¬ endsFactor (some t)) (e : Formula)
    (chain : Option Connective) (outer : List Group) : (after e chain outer).step? t = none := by
  cases t with
  | connective d => exact absurd rfl ht
  | closing => exact absurd rfl ht
  | identifier name => rfl
  | negation => rfl
  | opening => rfl

/-- A complete operand in front of a token: `config` reduces it to a factor if the token allows. -/
theorem read?_of_operand {config : Configuration} {s : State} {below : Stack s}
    {due : s.awaitsFactor} {e : Formula} {g : Group} {outer : List Group} {t : Token}
    (h : below.Keeps g outer)
    (hreduce : config.stack.reduce? (some t) =
      if endsFactor (some t) then some (below.pushFactor e due) else none)
    (hshift : config.stack.shift? t = none) :
    Option.Rel Stands (config.read? t) ((receive e g outer).step? t) := by
  by_cases ht : endsFactor (some t)
  · obtain ⟨config', hs, hr⟩ := settle_pushFactor ht h due e
    rw [if_pos ht] at hreduce
    rw [Configuration.read?_of_reduce? hreduce, Configuration.read?, hs]
    exact hr.read? t
  · obtain ⟨value, chain, hv⟩ := receive_eq_after e g outer
    rw [if_neg ht] at hreduce
    rw [Configuration.read?_of_reduce?_eq_none hreduce, hshift, hv, step?_of_not_endsFactor ht]
    exact .none

theorem finish?_of_operand {config : Configuration} {s : State} {below : Stack s}
    {due : s.awaitsFactor} {e : Formula} {g : Group} {outer : List Group}
    (h : below.Keeps g outer)
    (hreduce : config.stack.reduce? none = some (below.pushFactor e due)) :
    config.finish? = (receive e g outer).finish? := by
  obtain ⟨config', hs, hr⟩ := settle_pushFactor (show endsFactor none from rfl) h due e
  rw [Configuration.finish?_of_reduce? hreduce, Configuration.finish?, hs]
  exact hr.finish?

theorem Stack.Keeps.reduce?_eq_none {s : State} {stack : Stack s} {g : Group}
    {outer : List Group} (h : stack.Keeps g outer) (lookahead : Option Token) :
    stack.reduce? lookahead = none := by
  cases h <;> rfl

/-- Where a factor is due the edges are those of a factor's first token. -/
theorem Stack.Keeps.shift? {s : State} {stack : Stack s} {g : Group} {outer : List Group}
    (h : stack.Keeps g outer) (t : Token) :
    Option.Rel Stands (stack.shift? t) ((due g outer).step? t) := by
  have hd := h.awaitsFactor
  cases t with
  | identifier name =>
    have hs : stack.shift? (.identifier name) = some ⟨.identifier, .identifier stack hd name⟩ := by
      cases h <;> rfl
    rw [hs]
    exact .some (.identifier name h)
  | negation =>
    have hs : stack.shift? .negation = some ⟨.negation, .negation stack hd⟩ := by
      cases h <;> rfl
    rw [hs]
    exact .some (.due h.negation)
  | opening =>
    have hs : stack.shift? .opening = some ⟨.opening, .opening stack hd⟩ := by
      cases h <;> rfl
    rw [hs]
    exact .some (.due h.opening)
  | connective c =>
    have hs : stack.shift? (.connective c) = none := by
      cases h <;> rfl
    rw [hs]
    exact .none
  | closing =>
    have hs : stack.shift? .closing = none := by
      cases h <;> rfl
    rw [hs]
    exact .none

/-- **The automaton has an edge for a token exactly when the reader may go on with it**, and then
stands with the reader again. -/
theorem Stands.read? {config : Configuration} {r : Reading} (h : Stands config r) (t : Token) :
    Option.Rel Stands (config.read? t) (r.step? t) := by
  cases h with
  | due h =>
    rw [Configuration.read?_of_reduce?_eq_none (h.reduce?_eq_none _)]
    exact h.shift? t
  | identifier name h => exact read?_of_operand h rfl rfl
  | closing e h => exact read?_of_operand h rfl rfl

/-- **The automaton accepts exactly when the reader may end**, and with the same formula. -/
theorem Stands.finish? {config : Configuration} {r : Reading} (h : Stands config r) :
    config.finish? = r.finish? := by
  cases h with
  | due h =>
    rw [Configuration.finish?_of_reduce?_eq_none (h.reduce?_eq_none _)]
    cases h <;> rfl
  | identifier name h => exact finish?_of_operand h rfl
  | closing e h => exact finish?_of_operand h rfl

end Automaton

end TruthTables
