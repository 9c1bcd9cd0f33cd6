import TruthTables.Proofs.Reading.Parser

/-!
# The language of the parser

The parser accepts exactly the language of the grammar, and answers with the formula that the
grammar assigns to the text.  The parser's part is done in `Reading/Parser.lean`, which puts the
reader in the place of the automaton and the track, the grammar's part in `Reading/Grammar.lean`;
here the two meet at the tokens of a text.
-/

namespace TruthTables

namespace Formula

open Reading

theorem not_derives_nil (e : Formula) : ¬ Derives .expression [] e := by
  intro h
  rw [← finish?_readAll?_iff] at h
  cases h

theorem outcomeOfChars_eq_ok_iff {cs : List Char} {e : Formula} :
    outcomeOfChars cs = .ok e ↔ ∃ ts, Lexing.ofChars cs = ⟨ts, none⟩ ∧
      Derives .expression (ts.map Token.Located.token) e := by
  cases cs with
  | nil =>
    constructor
    · intro h; cases h
    · rintro ⟨ts, hts, h⟩
      rw [Lexing.ofChars, Lexing.ofCharsAt_of_scan?_eq_none rfl] at hts
      cases hts
      exact (not_derives_nil e h).elim
  | cons c cs =>
    rw [outcomeOfChars, outcome_eq_ok_iff, finish?_readAll?_iff]
    · constructor
      · rintro ⟨hf, h⟩
        refine ⟨_, ?_, h⟩
        rw [← hf]
      · rintro ⟨ts, hts, h⟩
        rw [hts]
        exact ⟨rfl, h⟩
    · exact List.cons_ne_nil c cs

theorem parse_eq_outcome (s : String) : parse s = outcomeOfChars (Token.dropSpacing s.toList) :=
  Parser.fresh.parse_outcome s

/-- **The parser accepts exactly its grammar**: it answers with a formula if and only if the text
without its spacing splits into tokens that derive the formula; tokens derive at most one formula;
and every text whose tokens derive none is an error. -/
theorem parse_eq_ok_iff_derives :
    (∀ (s : String) (e : Formula), parse s = .ok e ↔
      ∃ ts, Lexing.ofChars (Token.dropSpacing s.toList) = ⟨ts, none⟩ ∧
        Derives .expression (ts.map Token.Located.token) e) ∧
    (∀ (ts : List Token) (e e' : Formula), Derives .expression ts e → Derives .expression ts e' →
      e = e') ∧
    (∀ s : String, (¬ ∃ ts e, Lexing.ofChars (Token.dropSpacing s.toList) = ⟨ts, none⟩ ∧
        Derives .expression (ts.map Token.Located.token) e) →
      ∃ error, parse s = .error error) := by
  have haccepts : ∀ (s : String) (e : Formula), parse s = .ok e ↔
      ∃ ts, Lexing.ofChars (Token.dropSpacing s.toList) = ⟨ts, none⟩ ∧
        Derives .expression (ts.map Token.Located.token) e := by
    intro s e
    rw [parse_eq_outcome, outcomeOfChars_eq_ok_iff]
  refine ⟨haccepts, fun ts e e' => derives_unique, ?_⟩
  intro s hnone
  cases h : parse s with
  | error error => exact ⟨error, rfl⟩
  | ok e =>
    obtain ⟨ts, hts, hd⟩ := (haccepts s e).mp h
    exact (hnone ⟨ts, e, hts, hd⟩).elim

end Formula

end TruthTables
