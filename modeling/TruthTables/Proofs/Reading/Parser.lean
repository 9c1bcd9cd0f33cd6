import TruthTables.Formula.Parser
import TruthTables.Proofs.Reading.Automaton
import TruthTables.Proofs.Reading.Track

/-!
# The parser follows the reader

A parser runs the automaton and the track side by side on the tokens of a text.  `parse_outcome`
says that what it answers, whatever it has read before, is what the reader says of the tokens
(`Reading.outcome`): the formula that the reader ends with, or else the first fault, which is a
token that the reader refuses, the end of the text, or a character that starts no token.

Which of these it is depends on how far the reader gets.  `Stops r ts before t last` says that the
reader refuses the token `t` behind `before`; `Stops.outcome` and `outcome_of_readAll?` give the
outcome with and without such a token.
-/

namespace TruthTables

open Formula Formula.Reading

namespace Formula.Reading

def refusal (r : Reading) (t : Token.Located) : ParseError :=
  match t.token, r.rival with
  | .connective found, some chain => .mixed chain found t.start
  | _, _ => .unexpected t

/-- What the reader says of tokens that are followed by an illegal character or by the end. -/
def outcome (failure : Option IllegalCharacter) (r : Reading) :
    List Token.Located → Except ParseError Formula
  | [] =>
    match failure with
    | some character => .error (.illegal character)
    | none =>
      match r.finish? with
      | some e => .ok e
      | none => .error .unexpectedEnd
  | t :: rest =>
    match r.step? t.token with
    | some next => outcome failure next rest
    | none => .error (r.refusal t)

def outcomeOfChars : List Char → Except ParseError Formula
  | [] => .error .empty
  | compact => start.outcome (Lexing.ofChars compact).failure (Lexing.ofChars compact).tokens

end Formula.Reading

namespace Parser

/-- **The error that the track finds is the error that the reader finds.** -/
theorem refuse_pull {track : Track} {r : Reading} {t : Token.Located} (h : track.Follows r)
    (hs : r.step? t.token = none) (p : Parser) :
    (p.pull track t.token).refuse (some t) = r.refusal t := by
  obtain ⟨t, n⟩ := t
  cases t with
  | connective c =>
    rw [pull, refuse, h.rival]
    cases r with
    | due g outer => rfl
    | after value chain outer =>
      cases chain with
      | none => rfl
      | some d =>
        have hcd : ¬ c = d := by
          intro hcd
          subst hcd
          rw [step?, if_pos rfl] at hs
          cases hs
        exact if_neg hcd
  | identifier name => rfl
  | negation => rfl
  | opening => rfl
  | closing => rfl

theorem run_outcome (failure : Option IllegalCharacter) :
    ∀ (ts : List Token.Located) (p : Parser) (track : Track) (config : Automaton.Configuration)
      (r : Reading), Automaton.Stands config r → track.Follows r →
      (run failure p track config ts).1 = r.outcome failure ts := by
  intro ts
  induction ts with
  | nil =>
    intro p track config r hc _
    cases failure with
    | some character => rfl
    | none =>
      unfold run outcome
      rw [hc.finish?]
      cases r.finish? <;> rfl
  | cons t ts ih =>
    intro p track config r hc ht
    have hrel := hc.read? t.token
    unfold run outcome
    cases hs : r.step? t.token with
    | none =>
      rw [hs] at hrel
      cases hread : config.read? t.token with
      | none => exact congrArg _ (refuse_pull ht hs p)
      | some next => rw [hread] at hrel; cases hrel
    | some r' =>
      rw [hs] at hrel
      cases hread : config.read? t.token with
      | none => rw [hread] at hrel; cases hrel
      | some next =>
        rw [hread] at hrel
        cases hrel with
        | some hc' => exact ih _ _ _ _ hc' (ht.step hs)

/-- **What a parser answers does not depend on what it has read before**, and is what the reader
says of the text without its spacing. -/
theorem parse_outcome (p : Parser) (s : String) :
    (p.parse s).1 = outcomeOfChars (Token.dropSpacing s.toList) := by
  rw [parse, parseChars]
  cases Token.dropSpacing s.toList with
  | nil => rfl
  | cons c cs =>
    exact run_outcome _ _ _ _ _ _ Automaton.stands_start Track.follows_start

end Parser

/-! ### How far the reader gets -/

namespace Formula.Reading

/-- The reader takes the tokens `before`, after which it is at `last`, and refuses `t`. -/
structure Stops (r : Reading) (ts before : List Token.Located) (t : Token.Located)
    (last : Reading) : Prop where
  split : ∃ after, ts = before ++ t :: after
  readAll?_eq : r.readAll? (before.map Token.Located.token) = some last
  step?_eq : last.step? t.token = none

theorem exists_stops {ts : List Token.Located} :
    ∀ {r : Reading}, r.readAll? (ts.map Token.Located.token) = none →
      ∃ before t last, Stops r ts before t last := by
  induction ts with
  | nil => intro r h; cases h
  | cons t ts ih =>
    intro r h
    rw [List.map_cons, readAll?_cons] at h
    cases hs : r.step? t.token with
    | none => exact ⟨[], t, r, ⟨ts, rfl⟩, rfl, hs⟩
    | some r' =>
      rw [hs, Option.bind_some] at h
      obtain ⟨before, u, last, ⟨after, rfl⟩, hr, hu⟩ := ih h
      refine ⟨t :: before, u, last, ⟨after, rfl⟩, ?_, hu⟩
      rw [List.map_cons, readAll?_cons, hs, Option.bind_some, hr]

/-- **A refused token is the fault**, whatever comes behind it. -/
theorem Stops.outcome {ts before : List Token.Located} {t : Token.Located} {last : Reading} :
    ∀ {r : Reading}, Stops r ts before t last → ∀ failure,
      r.outcome failure ts = .error (last.refusal t) := by
  induction before generalizing ts with
  | nil =>
    rintro r ⟨⟨after, rfl⟩, hr, hs⟩ failure
    cases hr
    rw [List.nil_append, Reading.outcome, hs]
  | cons u before ih =>
    rintro r ⟨⟨after, rfl⟩, hr, hs⟩ failure
    rw [List.map_cons, readAll?_cons] at hr
    obtain ⟨r', hu, hr⟩ := Option.bind_eq_some_iff.mp hr
    rw [List.cons_append, Reading.outcome, hu]
    exact ih ⟨⟨after, rfl⟩, hr, hs⟩ failure

theorem outcome_of_readAll? {ts : List Token.Located} {last : Reading}
    (failure : Option IllegalCharacter) :
    ∀ {r : Reading}, r.readAll? (ts.map Token.Located.token) = some last →
      r.outcome failure ts = last.outcome failure [] := by
  induction ts with
  | nil => intro r h; cases h; rfl
  | cons t ts ih =>
    intro r h
    rw [List.map_cons, readAll?_cons] at h
    obtain ⟨r', ht, h⟩ := Option.bind_eq_some_iff.mp h
    rw [Reading.outcome, ht]
    exact ih h

/-- Behind the last token an error is about the character that stopped the splitting, or about the
end. -/
theorem eq_of_outcome_nil {failure : Option IllegalCharacter} {r : Reading} {error : ParseError}
    (h : r.outcome failure [] = .error error) :
    (∃ character, failure = some character ∧ error = .illegal character) ∨
      failure = none ∧ r.finish? = none ∧ error = .unexpectedEnd := by
  unfold Reading.outcome at h
  cases failure with
  | some character =>
    cases h
    exact Or.inl ⟨character, rfl, rfl⟩
  | none =>
    cases hf : r.finish? with
    | some e =>
      rw [hf] at h
      cases h
    | none =>
      rw [hf] at h
      cases h
      exact Or.inr ⟨rfl, rfl, rfl⟩

/-- **The reader accepts exactly complete splittings on whose tokens it may end.** -/
theorem outcome_eq_ok_iff {failure : Option IllegalCharacter} {r : Reading}
    {ts : List Token.Located} {e : Formula} : r.outcome failure ts = .ok e ↔
      failure = none ∧ (r.readAll? (ts.map Token.Located.token)).bind finish? = some e := by
  cases hr : r.readAll? (ts.map Token.Located.token) with
  | none =>
    obtain ⟨before, t, last, hstop⟩ := exists_stops hr
    rw [hstop.outcome failure]
    constructor
    · intro h; cases h
    · rintro ⟨-, h⟩; cases h
  | some last =>
    rw [outcome_of_readAll? failure hr, Option.bind_some]
    unfold Reading.outcome
    cases failure with
    | some character =>
      constructor
      · intro h; cases h
      · rintro ⟨h, -⟩; cases h
    | none =>
      cases hf : last.finish? with
      | none =>
        constructor
        · intro h; cases h
        · rintro ⟨-, h⟩; cases h
      | some e' =>
        constructor
        · intro h; cases h; exact ⟨rfl, rfl⟩
        · rintro ⟨-, h⟩; cases h; rfl

end Formula.Reading

end TruthTables
