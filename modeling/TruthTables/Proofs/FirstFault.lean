import TruthTables.Proofs.Language
import TruthTables.Proofs.Splitting
import TruthTables.Proofs.Wording

/-!
# The first fault of a text

An error is reported at the first place where the text goes wrong.  Tokens are viable when some
formula starts with them, and `FirstFault cs before t` says that the tokens `before` are still
viable and that the next token `t` ends this.  The reader stops exactly there (`firstFault_iff`),
so the three kinds of error describe three kinds of text:

* `FaultyToken`: the text has a first fault among its tokens, which the error names;
* `MissingEnd`: all of the text is viable tokens, which are no formula yet;
* `StrayCharacter`: viable tokens are followed by a character that starts no token.

Every error is of exactly one of these kinds.  That no two of them meet in one text needs nothing of
the parser: tokens that start viable tokens are viable.
-/

namespace TruthTables

namespace Formula

open Token Reading

/-- The token `t` of a text is the first one behind which the text can no longer become a formula;
`before` are the tokens before it. -/
structure FirstFault (cs : List Char) (before : List Located) (t : Located) : Prop where
  split : ∃ after, (Lexing.ofChars cs).tokens = before ++ t :: after
  viable : Viable (before.map Located.token)
  not_viable : ¬ Viable (before.map Located.token ++ [t.token])

/-- The message names a token by its characters and its place, as what cannot stand there, or, if it
is a connective, as what cannot be mixed with another one. -/
def NamesToken (t : Located) (message : String) : Prop :=
  message = "Syntax error near '" ++ String.ofList t.token.lexeme ++ "' (type: " ++
      t.token.typeName ++ ") at position " ++ toString t.start ∨
    ∃ chain found : Connective, t.token = .connective found ∧
      message = "Cannot mix '" ++ String.ofList chain.sign ++ "' and '" ++
        String.ofList t.token.lexeme ++ "' without parentheses at position " ++ toString t.start

/-- The message names the first faulty token of the text, which stands at its place. -/
def FaultyToken (cs : List Char) (message : String) : Prop :=
  ∃ before t, FirstFault cs before t ∧
    Lexing.ofChars (cs.take t.start) = ⟨before, none⟩ ∧ t.token.lexeme <+: cs.drop t.start ∧
    NamesToken t message

/-- The message names the end of a text whose tokens are viable and no formula. -/
def MissingEnd (cs : List Char) (message : String) : Prop :=
  message = "Syntax error: Unexpected end of formula" ∧
    ∃ ts, Lexing.ofChars cs = ⟨ts, none⟩ ∧ Viable (ts.map Located.token) ∧
      ¬ ∃ e, Derives .expression (ts.map Located.token) e

/-- The message names a character of the text that starts no token and stands behind viable
tokens. -/
def StrayCharacter (cs : List Char) (message : String) : Prop :=
  ∃ c n ts, message = "Parse failed: Illegal character '" ++ c.toString ++
      "' encountered at position " ++ toString n ∧
    Lexing.ofChars cs = ⟨ts, some ⟨c, n⟩⟩ ∧ cs[n]? = some c ∧
    Lexing.ofChars (cs.take n) = ⟨ts, none⟩ ∧ Viable (ts.map Located.token) ∧
    ∀ t : Token, t.Spelled → ¬ t.lexeme <+: cs.drop n

/-! ### Viable tokens -/

theorem Viable.of_append {ts us : List Token} (h : Viable (ts ++ us)) : Viable ts := by
  obtain ⟨vs, e, h⟩ := h
  rw [List.append_assoc] at h
  exact ⟨us ++ vs, e, h⟩

/-- **The first fault is where the reader stops.** -/
theorem firstFault_iff {cs : List Char} {before : List Located} {t : Located} :
    FirstFault cs before t ↔ ∃ last, Stops start (Lexing.ofChars cs).tokens before t last := by
  constructor
  · rintro ⟨hsplit, hv, hn⟩
    obtain ⟨last, hr⟩ := viable_iff.mp hv
    refine ⟨last, hsplit, hr, ?_⟩
    rw [viable_iff, readAll?_concat, hr, Option.bind_some] at hn
    cases hs : last.step? t.token with
    | none => rfl
    | some r => exact (hn ⟨r, hs⟩).elim
  · rintro ⟨last, hsplit, hr, hs⟩
    refine ⟨hsplit, viable_iff.mpr ⟨last, hr⟩, ?_⟩
    rw [viable_iff, readAll?_concat, hr, Option.bind_some, hs]
    rintro ⟨r, h⟩
    cases h

theorem FirstFault.not_viable_tokens {cs : List Char} {before : List Located} {t : Located}
    (h : FirstFault cs before t) :
    ¬ Viable ((Lexing.ofChars cs).tokens.map Located.token) := by
  obtain ⟨⟨after, hsplit⟩, -, hn⟩ := h
  intro hv
  rw [hsplit, List.map_append, List.map_cons, List.append_cons] at hv
  exact hn hv.of_append

/-! ### No text has two kinds of fault -/

theorem FaultyToken.not_viable_tokens {cs : List Char} {message : String}
    (h : FaultyToken cs message) : ¬ Viable ((Lexing.ofChars cs).tokens.map Located.token) := by
  obtain ⟨before, t, hfault, -⟩ := h
  exact hfault.not_viable_tokens

theorem MissingEnd.viable_tokens {cs : List Char} {message : String} (h : MissingEnd cs message) :
    Viable ((Lexing.ofChars cs).tokens.map Located.token) := by
  obtain ⟨-, ts, hts, hv, -⟩ := h
  rw [hts]
  exact hv

theorem MissingEnd.failure_eq {cs : List Char} {message : String} (h : MissingEnd cs message) :
    (Lexing.ofChars cs).failure = none := by
  obtain ⟨-, ts, hts, -⟩ := h
  rw [hts]

theorem StrayCharacter.viable_tokens {cs : List Char} {message : String}
    (h : StrayCharacter cs message) : Viable ((Lexing.ofChars cs).tokens.map Located.token) := by
  obtain ⟨c, n, ts, -, hts, -, -, hv, -⟩ := h
  rw [hts]
  exact hv

theorem StrayCharacter.failure_ne {cs : List Char} {message : String}
    (h : StrayCharacter cs message) : (Lexing.ofChars cs).failure ≠ none := by
  obtain ⟨c, n, ts, -, hts, -⟩ := h
  rw [hts]
  exact Option.some_ne_none _

/-! ### Every error is of one kind -/

theorem namesToken_unexpected (t : Located) : NamesToken t (ParseError.unexpected t).message :=
  Or.inl rfl

theorem namesToken_mixed {t : Located} {found : Connective} (chain : Connective)
    (h : t.token = .connective found) :
    NamesToken t (ParseError.mixed chain found t.start).message := by
  refine Or.inr ⟨chain, found, h, ?_⟩
  rw [h]
  rfl

theorem message_illegal (c : Char) (n : Nat) : (ParseError.illegal ⟨c, n⟩).message =
    "Parse failed: Illegal character '" ++ c.toString ++ "' encountered at position " ++
      toString n := by
  have hmessage : (ParseError.illegal ⟨c, n⟩).message = "Parse failed: " ++
      ("Illegal character '" ++ c.toString ++ "' encountered at position " ++ toString n) := rfl
  have hstart : "Parse failed: Illegal character '" =
      "Parse failed: " ++ "Illegal character '" := by decide
  rw [hmessage, hstart]
  simp only [String.append_assoc]

/-- **The error of a token that the reader refuses names the token.** -/
theorem namesToken_refusal (r : Reading) (t : Located) : NamesToken t (r.refusal t).message := by
  unfold refusal
  split
  next found chain hc _ => exact namesToken_mixed chain hc
  next => exact namesToken_unexpected t

theorem faultyToken_of_stops {cs : List Char} {before : List Located} {t : Located}
    {last : Reading} (h : Stops start (Lexing.ofChars cs).tokens before t last) :
    FaultyToken cs (last.refusal t).message := by
  have hfault := firstFault_iff.mpr ⟨last, h⟩
  obtain ⟨after, hsplit⟩ := hfault.split
  obtain ⟨hbefore, hat⟩ := Lexing.of_tokens_eq_append hsplit
  exact ⟨before, t, hfault, hbefore, hat, namesToken_refusal last t⟩

theorem strayCharacter_of_failure {cs : List Char} {c : Char} {n : Nat}
    (hv : Viable ((Lexing.ofChars cs).tokens.map Located.token))
    (hf : (Lexing.ofChars cs).failure = some ⟨c, n⟩) :
    StrayCharacter cs (ParseError.illegal ⟨c, n⟩).message := by
  obtain ⟨hc, htake, hno⟩ := Lexing.of_failure_eq_some hf
  refine ⟨c, n, _, message_illegal c n, ?_, hc, htake, hv, hno⟩
  rw [← hf]

theorem missingEnd_of_finish? {cs : List Char} {last : Reading}
    (hr : start.readAll? ((Lexing.ofChars cs).tokens.map Located.token) = some last)
    (hf : (Lexing.ofChars cs).failure = none) (hfin : last.finish? = none) :
    MissingEnd cs ParseError.unexpectedEnd.message := by
  refine ⟨rfl, (Lexing.ofChars cs).tokens, ?_, viable_iff.mpr ⟨last, hr⟩, ?_⟩
  · rw [← hf]
  · rintro ⟨e, hd⟩
    rw [← finish?_readAll?_iff, hr, Option.bind_some, hfin] at hd
    cases hd

theorem fault_of_readAll? {cs : List Char} {last : Reading} {error : ParseError}
    (hr : start.readAll? ((Lexing.ofChars cs).tokens.map Located.token) = some last)
    (h : last.outcome (Lexing.ofChars cs).failure [] = .error error) :
    MissingEnd cs error.message ∨ StrayCharacter cs error.message := by
  rcases eq_of_outcome_nil h with ⟨character, hf, rfl⟩ | ⟨hf, hfin, rfl⟩
  · exact Or.inr (strayCharacter_of_failure (viable_iff.mpr ⟨last, hr⟩) hf)
  · exact Or.inl (missingEnd_of_finish? hr hf hfin)

theorem fault_of_outcomeOfChars {cs : List Char} {error : ParseError} (hne : cs ≠ [])
    (h : outcomeOfChars cs = .error error) :
    FaultyToken cs error.message ∨ MissingEnd cs error.message ∨
      StrayCharacter cs error.message := by
  rw [outcomeOfChars] at h
  · cases hr : start.readAll? ((Lexing.ofChars cs).tokens.map Located.token) with
    | none =>
      obtain ⟨before, t, last, hstop⟩ := exists_stops hr
      rw [hstop.outcome] at h
      cases h
      exact Or.inl (faultyToken_of_stops hstop)
    | some last =>
      rw [outcome_of_readAll? _ hr] at h
      exact Or.inr (fault_of_readAll? hr h)
  · exact hne

/-- **An error is reported at the first place where the text goes wrong.**  If a text that is not
empty without its spacing is no formula, its error is of exactly one kind: it names the first token
that is not viable behind the tokens before it; or it names the end of viable tokens that are no
formula; or it names a character that starts no token and stands behind viable tokens. -/
theorem fault_of_parse_eq_error {s : String} {error : ParseError}
    (hne : dropSpacing s.toList ≠ []) (h : parse s = .error error) :
    (FaultyToken (dropSpacing s.toList) error.message ∧
        ¬ MissingEnd (dropSpacing s.toList) error.message ∧
        ¬ StrayCharacter (dropSpacing s.toList) error.message) ∨
      (¬ FaultyToken (dropSpacing s.toList) error.message ∧
        MissingEnd (dropSpacing s.toList) error.message ∧
        ¬ StrayCharacter (dropSpacing s.toList) error.message) ∨
      (¬ FaultyToken (dropSpacing s.toList) error.message ∧
        ¬ MissingEnd (dropSpacing s.toList) error.message ∧
        StrayCharacter (dropSpacing s.toList) error.message) := by
  rw [parse_eq_outcome] at h
  rcases fault_of_outcomeOfChars hne h with hfaulty | hend | hstray
  · refine Or.inl ⟨hfaulty, ?_, ?_⟩
    · exact fun hend => hfaulty.not_viable_tokens hend.viable_tokens
    · exact fun hstray => hfaulty.not_viable_tokens hstray.viable_tokens
  · refine Or.inr (Or.inl ⟨?_, hend, ?_⟩)
    · exact fun hfaulty => hfaulty.not_viable_tokens hend.viable_tokens
    · exact fun hstray => hstray.failure_ne hend.failure_eq
  · refine Or.inr (Or.inr ⟨?_, ?_, hstray⟩)
    · exact fun hfaulty => hfaulty.not_viable_tokens hstray.viable_tokens
    · exact fun hend => hstray.failure_ne hend.failure_eq

/-- A parenthesis that closes nothing is named, and not the stray character behind it. -/
theorem fault_of_closing_before_stray :
    FaultyToken (dropSpacing "(a => !b)) $".toList)
      "Syntax error near ')' (type: RPAREN) at position 7" := by
  have hne : dropSpacing "(a => !b)) $".toList ≠ [] := by decide
  have h : parse "(a => !b)) $" = .error (.unexpected ⟨.closing, 7⟩) := by decide +kernel
  have hm : (ParseError.unexpected ⟨.closing, 7⟩).message =
      "Syntax error near ')' (type: RPAREN) at position 7" := by decide +kernel
  rcases fault_of_parse_eq_error hne h with ⟨hfaulty, -⟩ | ⟨-, ⟨hend, -⟩, -⟩ |
    ⟨-, -, c, n, ts, hstray, -⟩
  · rw [← hm]
    exact hfaulty
  · rw [hm] at hend
    exact absurd hend (by decide)
  · have hhead := ParseError.head?_message (.unexpected ⟨.closing, 7⟩)
    rw [hstray, ← message_illegal, ParseError.head?_message] at hhead
    cases hhead

end Formula

end TruthTables
