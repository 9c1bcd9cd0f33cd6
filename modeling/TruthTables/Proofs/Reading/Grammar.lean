import TruthTables.Formula.Grammar

/-!
# Reading with all reductions done at once

A plainer reader beside the automaton: its state says whether an operand is due or an expression
has been read, and keeps for every open parenthesis the chain that was begun before it and the
negation signs that wait for its value.  An operand is joined to what waits for it as soon as it is
complete, without a lookahead.

This module relates the reader to the grammar.  What a token can do to the reader is said once, by
`Moves`.  `Reading.Reads r ts` says what the tokens `ts` have amounted to when the reader stands at
`r`; one step keeps it (`Reads.step`), and so does a run (`Reads.readAll`).  In the other direction
a phrase of the grammar drives the reader over its tokens (`Derives.drives`).  Three facts follow:

* `finish?_readAll?_iff`: the reader ends with `e` exactly on the tokens that derive `e`;
* `derives_unique`: tokens derive at most one formula;
* `viable_iff`: the reader gets through exactly the tokens that start a formula.
-/

namespace TruthTables

namespace Formula

def negate : Nat → Formula → Formula
  | 0, e => e
  | n + 1, e => neg (negate n e)

theorem negate_neg (n : Nat) (e : Formula) : negate n (neg e) = negate (n + 1) e := by
  induction n with
  | zero => rfl
  | succ n ih => rw [negate, ih]; rfl

/-- What was read of a group before the operand that is due. -/
structure Group where
  chain : Option (Formula × Connective)
  negations : Nat

def Group.start : Group := ⟨none, 0⟩

/-- Where the reader stands; `outer` are the groups whose closing parenthesis is still to come, the
innermost one first. -/
inductive Reading where
  | due (group : Group) (outer : List Group)
  | after (value : Formula) (chain : Option Connective) (outer : List Group)

namespace Reading

def start : Reading := due Group.start []

def receive (operand : Formula) (group : Group) (outer : List Group) : Reading :=
  match group.chain with
  | none => after (negate group.negations operand) none outer
  | some (l, c) => after (binary c l (negate group.negations operand)) (some c) outer

def step? (reading : Reading) (t : Token) : Option Reading :=
  match reading with
  | due group outer =>
    match t with
    | .identifier name => some (receive (var name) group outer)
    | .negation => some (due ⟨group.chain, group.negations + 1⟩ outer)
    | .opening => some (due Group.start (group :: outer))
    | .connective _ => none
    | .closing => none
  | after value chain outer =>
    match t with
    | .connective c =>
      match chain with
      | none => some (due ⟨some (value, c), 0⟩ outer)
      | some d => if c = d then some (due ⟨some (value, c), 0⟩ outer) else none
    | .closing =>
      match outer with
      | [] => none
      | group :: outer => some (receive value group outer)
    | .identifier _ => none
    | .negation => none
    | .opening => none

def finish? : Reading → Option Formula
  | after value _ [] => some value
  | after _ _ (_ :: _) => none
  | due _ _ => none

def readAll? (reading : Reading) (ts : List Token) : Option Reading := ts.foldlM step? reading

theorem readAll?_cons (r : Reading) (t : Token) (ts : List Token) :
    r.readAll? (t :: ts) = (r.step? t).bind (·.readAll? ts) := by
  rw [readAll?, List.foldlM_cons]; rfl

theorem readAll?_append (r : Reading) (ts us : List Token) :
    r.readAll? (ts ++ us) = (r.readAll? ts).bind (·.readAll? us) := by
  rw [readAll?, List.foldlM_append]; rfl

theorem readAll?_concat (r : Reading) (ts : List Token) (t : Token) :
    r.readAll? (ts ++ [t]) = (r.readAll? ts).bind (·.step? t) := by
  rw [readAll?_append]
  cases r.readAll? ts with
  | none => rfl
  | some s =>
    rw [Option.bind_some, Option.bind_some, readAll?_cons]
    cases s.step? t <;> rfl

/-- What a token can do to the reader. -/
inductive Moves : Reading → Token → Reading → Prop where
  | identifier (name : String) (g : Group) (outer : List Group) :
      Moves (due g outer) (.identifier name) (receive (var name) g outer)
  | negation (g : Group) (outer : List Group) :
      Moves (due g outer) .negation (due ⟨g.chain, g.negations + 1⟩ outer)
  | opening (g : Group) (outer : List Group) :
      Moves (due g outer) .opening (due Group.start (g :: outer))
  | begins (e : Formula) (c : Connective) (outer : List Group) :
      Moves (after e none outer) (.connective c) (due ⟨some (e, c), 0⟩ outer)
  | continues (e : Formula) (c : Connective) (outer : List Group) :
      Moves (after e (some c) outer) (.connective c) (due ⟨some (e, c), 0⟩ outer)
  | closing (e : Formula) (chain : Option Connective) (g : Group) (outer : List Group) :
      Moves (after e chain (g :: outer)) .closing (receive e g outer)

theorem moves_of_step? {r r' : Reading} {t : Token} (hs : r.step? t = some r') : Moves r t r' := by
  cases r with
  | due g outer =>
    cases t with
    | identifier name => cases hs; exact .identifier name g outer
    | negation => cases hs; exact .negation g outer
    | opening => cases hs; exact .opening g outer
    | connective c => cases hs
    | closing => cases hs
  | after e chain outer =>
    cases t with
    | connective c =>
      cases chain with
      | none => cases hs; exact .begins e c outer
      | some d =>
        by_cases hd : c = d
        · subst hd
          rw [step?, if_pos rfl] at hs
          cases hs
          exact .continues e c outer
        · rw [step?, if_neg hd] at hs
          cases hs
    | closing =>
      cases outer with
      | nil => cases hs
      | cons g outer => cases hs; exact .closing e chain g outer
    | identifier name => cases hs
    | negation => cases hs
    | opening => cases hs

end Reading

/-! ### A phrase drives the reader -/

open Reading

/-- What a phrase does to a reader to which it is due. -/
def Drives : Phrase → List Token → Formula → Prop
  | .factor, ts, e => ∀ group outer, (due group outer).readAll? ts = some (receive e group outer)
  | .chain c, ts, e => ∀ outer, (due .start outer).readAll? ts = some (after e (some c) outer)
  | .expression, ts, e =>
    ∀ outer, ∃ chain, (due .start outer).readAll? ts = some (after e chain outer)

/-- **Every phrase of the grammar drives the reader over its tokens.** -/
theorem Derives.drives {k : Phrase} {ts : List Token} {e : Formula} (h : Derives k ts e) :
    Drives k ts e := by
  induction h with
  | ofFactor _ ih => exact fun outer => ⟨none, ih .start outer⟩
  | @ofChain c _ _ _ ih => exact fun outer => ⟨some c, ih outer⟩
  | @pair c ts us l r _ _ ihl ihr =>
    intro outer
    rw [readAll?_append, ihl .start outer, Option.bind_some, readAll?_cons]
    exact ihr ⟨some (l, c), 0⟩ outer
  | @extend c ts us l r _ _ ihl ihr =>
    intro outer
    rw [readAll?_append, ihl outer, Option.bind_some, readAll?_cons, step?, if_pos rfl]
    exact ihr ⟨some (l, c), 0⟩ outer
  | @negation ts e _ ih =>
    intro group outer
    have h := ih ⟨group.chain, group.negations + 1⟩ outer
    rw [readAll?_cons, step?, Option.bind_some, h, receive, receive, ← negate_neg]
  | @group ts e _ ih =>
    intro g outer
    obtain ⟨chain, h⟩ := ih (g :: outer)
    rw [readAll?_cons, step?, Option.bind_some, readAll?_concat, h]
    rfl
  | identifier name => exact fun group outer => rfl

theorem readAll?_of_derives {ts : List Token} {e : Formula} (h : Derives .expression ts e) :
    ∃ chain, start.readAll? ts = some (after e chain []) := h.drives []

/-! ### What has been read amounts to phrases -/

inductive Group.Reads : Group → List Token → Prop where
  | empty (n : Nat) : Group.Reads ⟨none, n⟩ (List.replicate n .negation)
  | pair {c : Connective} {us : List Token} {l : Formula} (n : Nat) : Derives .factor us l →
      Group.Reads ⟨some (l, c), n⟩ (us ++ .connective c :: List.replicate n .negation)
  | extend {c : Connective} {us : List Token} {l : Formula} (n : Nat) : Derives (.chain c) us l →
      Group.Reads ⟨some (l, c), n⟩ (us ++ .connective c :: List.replicate n .negation)

inductive Encloses : List Group → List Token → Prop where
  | nil : Encloses [] []
  | cons {g : Group} {outer : List Group} {ts us : List Token} : Encloses outer ts → g.Reads us →
      Encloses (g :: outer) (ts ++ (us ++ [.opening]))

/-- The tokens that lead a reader to where it stands. -/
inductive Reading.Reads : Reading → List Token → Prop where
  | due {g : Group} {outer : List Group} {ts us : List Token} : Encloses outer ts → g.Reads us →
      Reads (due g outer) (ts ++ us)
  | factor {e : Formula} {outer : List Group} {ts us : List Token} : Encloses outer ts →
      Derives .factor us e → Reads (after e none outer) (ts ++ us)
  | chain {e : Formula} {c : Connective} {outer : List Group} {ts us : List Token} :
      Encloses outer ts → Derives (.chain c) us e → Reads (after e (some c) outer) (ts ++ us)

theorem reads_start : start.Reads [] := .due .nil (.empty 0)

theorem derives_negate {us : List Token} {e : Formula} (h : Derives .factor us e) :
    ∀ n, Derives .factor (List.replicate n .negation ++ us) (negate n e) := by
  intro n
  induction n with
  | zero => exact h
  | succ n ih => exact .negation ih

theorem reads_receive {g : Group} {outer : List Group} {ts us vs : List Token} {e : Formula}
    (ho : Encloses outer ts) (hg : g.Reads us) (he : Derives .factor vs e) :
    (receive e g outer).Reads (ts ++ (us ++ vs)) := by
  cases hg with
  | empty n => exact .factor ho (derives_negate he n)
  | pair n hl =>
    rw [List.append_assoc, List.cons_append]
    exact .chain ho (.pair hl (derives_negate he n))
  | extend n hl =>
    rw [List.append_assoc, List.cons_append]
    exact .chain ho (.extend hl (derives_negate he n))

theorem Group.Reads.negation {g : Group} {us : List Token} (h : g.Reads us) :
    Group.Reads ⟨g.chain, g.negations + 1⟩ (us ++ [.negation]) := by
  cases h with
  | empty n =>
    rw [← List.replicate_succ']
    exact .empty (n + 1)
  | pair n hl =>
    rw [List.append_assoc, List.cons_append, ← List.replicate_succ']
    exact .pair (n + 1) hl
  | extend n hl =>
    rw [List.append_assoc, List.cons_append, ← List.replicate_succ']
    exact .extend (n + 1) hl

/-- **One step keeps the account of the tokens.** -/
theorem Reading.Reads.step {r r' : Reading} {ts : List Token} {t : Token} (h : r.Reads ts)
    (hs : r.step? t = some r') : r'.Reads (ts ++ [t]) := by
  cases moves_of_step? hs with
  | identifier name g outer =>
    cases h with
    | due ho hg =>
      rw [List.append_assoc]
      exact reads_receive ho hg (.identifier name)
  | negation g outer =>
    cases h with
    | due ho hg =>
      rw [List.append_assoc]
      exact .due ho hg.negation
  | opening g outer =>
    cases h with
    | due ho hg =>
      have h := Reads.due (ho.cons hg) (.empty 0)
      rwa [List.replicate_zero, List.append_nil, ← List.append_assoc] at h
  | begins e c outer =>
    cases h with
    | factor ho he =>
      rw [List.append_assoc]
      exact .due ho (.pair 0 he)
  | continues e c outer =>
    cases h with
    | chain ho he =>
      rw [List.append_assoc]
      exact .due ho (.extend 0 he)
  | closing e chain g outer =>
    -- the closed group is a factor of the group around it, be it a factor or a chain itself
    have hgroup : ∀ {ts us : List Token}, Encloses (g :: outer) ts → Derives .expression us e →
        (receive e g outer).Reads (ts ++ us ++ [.closing]) := by
      intro ts us ho he
      cases ho with
      | cons ho hg =>
        have h := reads_receive ho hg (.group he)
        simpa using h
    cases h with
    | factor ho he => exact hgroup ho (.ofFactor he)
    | chain ho he => exact hgroup ho (.ofChain he)

theorem Reading.Reads.readAll {r r' : Reading} {ts : List Token} (h : r.Reads ts) :
    ∀ us, r.readAll? us = some r' → r'.Reads (ts ++ us) := by
  intro us
  induction us generalizing r ts with
  | nil =>
    intro hr
    cases hr
    rwa [List.append_nil]
  | cons t us ih =>
    intro hr
    rw [readAll?_cons] at hr
    obtain ⟨s, hs, hr⟩ := Option.bind_eq_some_iff.mp hr
    have h' := ih (h.step hs) hr
    rwa [List.append_assoc] at h'

theorem derives_of_finish? {r : Reading} {ts : List Token} {e : Formula} (h : r.Reads ts)
    (hf : r.finish? = some e) : Derives .expression ts e := by
  cases h with
  | due ho hg => cases hf
  | factor ho he =>
    cases ho with
    | nil => cases hf; exact .ofFactor he
    | cons ho hg => cases hf
  | chain ho he =>
    cases ho with
    | nil => cases hf; exact .ofChain he
    | cons ho hg => cases hf

/-! ### The reader and the grammar -/

/-- **The reader ends with a formula exactly on the tokens that derive it.** -/
theorem finish?_readAll?_iff {ts : List Token} {e : Formula} :
    (start.readAll? ts).bind finish? = some e ↔ Derives .expression ts e := by
  constructor
  · intro h
    obtain ⟨r, hr, hf⟩ := Option.bind_eq_some_iff.mp h
    exact derives_of_finish? (reads_start.readAll ts hr) hf
  · intro h
    obtain ⟨chain, hr⟩ := readAll?_of_derives h
    rw [hr]
    rfl

/-- **Tokens derive at most one formula.** -/
theorem derives_unique {ts : List Token} {e e' : Formula} (h : Derives .expression ts e)
    (h' : Derives .expression ts e') : e = e' := by
  rw [← finish?_readAll?_iff] at h h'
  exact Option.some.inj (h.symm.trans h')

theorem receive_eq_after (e : Formula) (g : Group) (outer : List Group) :
    ∃ value chain, receive e g outer = after value chain outer := by
  obtain ⟨chain, n⟩ := g
  cases chain with
  | none => exact ⟨_, _, rfl⟩
  | some p => exact ⟨_, _, rfl⟩

theorem finish?_closings (value : Formula) (chain : Option Connective) (outer : List Group) :
    ∃ n e, ((after value chain outer).readAll? (List.replicate n .closing)).bind finish? =
      some e := by
  induction outer generalizing value chain with
  | nil => exact ⟨0, value, rfl⟩
  | cons g outer ih =>
    obtain ⟨value', chain', he⟩ := receive_eq_after value g outer
    obtain ⟨n, e, h⟩ := ih value' chain'
    refine ⟨n + 1, e, ?_⟩
    rw [List.replicate_succ, readAll?_cons, step?, Option.bind_some, he, h]

/-- **From wherever the reader stands a text can be ended**, with an operand if one is due and with
closing parentheses. -/
theorem exists_finish? (r : Reading) : ∃ us e, (r.readAll? us).bind finish? = some e := by
  cases r with
  | due g outer =>
    obtain ⟨value, chain, he⟩ := receive_eq_after (var "x") g outer
    obtain ⟨n, e, h⟩ := finish?_closings value chain outer
    refine ⟨.identifier "x" :: List.replicate n .closing, e, ?_⟩
    rw [readAll?_cons, step?, Option.bind_some, he, h]
  | after value chain outer =>
    obtain ⟨n, e, h⟩ := finish?_closings value chain outer
    exact ⟨_, e, h⟩

/-- **The reader gets through exactly the tokens that start a formula.** -/
theorem viable_iff {ts : List Token} : Viable ts ↔ ∃ r, start.readAll? ts = some r := by
  constructor
  · rintro ⟨us, e, h⟩
    rw [← finish?_readAll?_iff, readAll?_append] at h
    cases hr : start.readAll? ts with
    | none => rw [hr] at h; cases h
    | some r => exact ⟨r, rfl⟩
  · rintro ⟨r, hr⟩
    obtain ⟨us, e, h⟩ := exists_finish? r
    refine ⟨us, e, finish?_readAll?_iff.mp ?_⟩
    rw [readAll?_append, hr, Option.bind_some, h]

end Formula

end TruthTables
