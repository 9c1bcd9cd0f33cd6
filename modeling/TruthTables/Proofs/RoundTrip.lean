import TruthTables.Proofs.Language
import TruthTables.Proofs.Splitting

/-!
# Writing a formula and reading it

`Formula.text` writes every negation and every connective in parentheses of its own, so that every
sub-formula is a factor again where it stands.  The text is followed through the three stages of
reading.  It has no spacing (`dropSpacing_lexemes`); it splits into the tokens `Formula.tokens`
(`lexemes_tokens`, `separable_tokens`); and these tokens derive the formula (`derives_tokens`).

The formulas that can be read back are those whose names are runs of letters and digits
(`WellNamed`), which every formula that has been read is (`wellNamed_of_parse`).
-/

namespace TruthTables

namespace Formula

open Token

/-- Every name of the formula is a run of letters and digits. -/
def WellNamed (e : Formula) : Prop :=
  ∀ name ∈ e.leaves, name ≠ "" ∧ ∀ c ∈ name.toList, Text.isAlphanumeric c

def tokens : Formula → List Token
  | var name => [.identifier name]
  | neg e => .opening :: .negation :: (e.tokens ++ [.closing])
  | binary c l r => .opening :: (l.tokens ++ .connective c :: (r.tokens ++ [.closing]))

theorem wellNamed_var {name : String} :
    (var name).WellNamed ↔ name ≠ "" ∧ ∀ c ∈ name.toList, Text.isAlphanumeric c := by
  simp [WellNamed]

theorem wellNamed_neg {e : Formula} : (neg e).WellNamed ↔ e.WellNamed := Iff.rfl

theorem wellNamed_binary {c : Connective} {l r : Formula} :
    (binary c l r).WellNamed ↔ l.WellNamed ∧ r.WellNamed := by
  simp only [WellNamed, leaves_binary, List.mem_append]
  constructor
  · intro h
    exact ⟨fun name hn => h name (Or.inl hn), fun name hn => h name (Or.inr hn)⟩
  · rintro ⟨hl, hr⟩ name (hn | hn)
    · exact hl name hn
    · exact hr name hn

/-! ### The text and its tokens -/

theorem lexemes_tokens (e : Formula) : lexemes e.tokens = e.chars := by
  induction e with
  | var name => rw [tokens, lexemes_cons, lexemes_nil, List.append_nil, chars_var]; rfl
  | neg e ih => rw [tokens, lexemes_cons, lexemes_cons, lexemes_append, ih, chars_neg]; rfl
  | binary c l r ihl ihr =>
    rw [tokens, lexemes_cons, lexemes_append, lexemes_cons, lexemes_append, ihl, ihr, chars_binary]
    rfl

theorem spelled_of_wellNamed {name : String} (h : (var name).WellNamed) :
    (identifier name).Spelled := by
  obtain ⟨hne, hall⟩ := wellNamed_var.mp h
  exact ⟨fun hnil => hne (String.toList_eq_nil_iff.mp hnil), hall⟩

/-- **The tokens of a formula can be written side by side.** -/
theorem separable_tokens {e : Formula} (h : e.WellNamed) : Separable e.tokens := by
  induction e with
  | var name => exact separable_cons.mpr ⟨spelled_of_wellNamed h, by rintro _ u ⟨⟩, trivial⟩
  | neg e ih =>
    have he : Separable (.negation :: e.tokens) := (ih (wellNamed_neg.mp h)).cons_sign rfl
    exact he.group_nil
  | binary c l r ihl ihr =>
    obtain ⟨hl, hr⟩ := wellNamed_binary.mp h
    have hright : Separable (.connective c :: r.tokens) := (ihr hr).cons_sign rfl
    have hjoined := (ihl hl).append hright (by rintro u ⟨⟩; rfl)
    have hgroup := hjoined.group_nil
    rwa [List.append_assoc, List.cons_append] at hgroup

/-! ### The tokens and the formula -/

/-- **The tokens of a formula derive it**, as a factor. -/
theorem derives_tokens (e : Formula) : Derives .factor e.tokens e := by
  induction e with
  | var name => exact .identifier name
  | neg e ih => exact .group (.ofFactor (.negation ih))
  | binary c l r ihl ihr =>
    have h := Derives.group (.ofChain (.pair (c := c) ihl ihr))
    rwa [List.append_assoc, List.cons_append] at h

/-- **What the parser accepts, in terms of tokens**: separable tokens that make up the text without
its spacing and derive the formula. -/
theorem parse_eq_ok_iff {s : String} {e : Formula} :
    parse s = .ok e ↔
      ∃ ts, Separable ts ∧ lexemes ts = dropSpacing s.toList ∧ Derives .expression ts e := by
  rw [parse_eq_outcome, outcomeOfChars_eq_ok_iff]
  constructor
  · rintro ⟨ts, hts, hd⟩
    obtain ⟨us, rest, htok, -, -, -, -⟩ := Lexing.spec (dropSpacing s.toList) 0
    have hus : ts = locate 0 us := (congrArg Lexing.tokens hts).symm.trans htok
    rw [hus] at hts
    obtain ⟨hsep, hlexemes⟩ := Lexing.ofCharsAt_eq_iff.mp hts
    rw [hus, map_token_locate] at hd
    exact ⟨us, hsep, hlexemes, hd⟩
  · rintro ⟨ts, hsep, hlexemes, hd⟩
    refine ⟨locate 0 ts, Lexing.ofCharsAt_eq_iff.mpr ⟨hsep, hlexemes⟩, ?_⟩
    rwa [map_token_locate]

/-- **Reading the text of a formula gives the formula.** -/
theorem parse_text {e : Formula} (h : e.WellNamed) : parse e.text = .ok e := by
  have hsep := separable_tokens h
  refine parse_eq_ok_iff.mpr ⟨e.tokens, hsep, ?_, .ofFactor (derives_tokens e)⟩
  rw [text, String.toList_ofList, ← lexemes_tokens, dropSpacing_lexemes hsep]

theorem identifier_mem_of_derives {k : Phrase} {ts : List Token} {e : Formula}
    (h : Derives k ts e) : ∀ name ∈ e.leaves, .identifier name ∈ ts := by
  induction h with
  | ofFactor _ ih => exact ih
  | ofChain _ ih => exact ih
  | pair _ _ ihl ihr =>
    intro name hn
    rw [leaves_binary, List.mem_append] at hn
    rcases hn with hn | hn
    · exact List.mem_append_left _ (ihl name hn)
    · exact List.mem_append_right _ (List.mem_cons_of_mem _ (ihr name hn))
  | extend _ _ ihl ihr =>
    intro name hn
    rw [leaves_binary, List.mem_append] at hn
    rcases hn with hn | hn
    · exact List.mem_append_left _ (ihl name hn)
    · exact List.mem_append_right _ (List.mem_cons_of_mem _ (ihr name hn))
  | negation _ ih => exact fun name hn => List.mem_cons_of_mem _ (ih name hn)
  | group _ ih =>
    exact fun name hn => List.mem_cons_of_mem _ (List.mem_append_left _ (ih name hn))
  | identifier n =>
    intro name hn
    rw [leaves_var, List.mem_singleton] at hn
    rw [hn]
    exact List.mem_singleton_self _

/-- **The names of a formula that has been read are runs of letters and digits.** -/
theorem wellNamed_of_parse {s : String} {e : Formula} (h : parse s = .ok e) : e.WellNamed := by
  obtain ⟨ts, hsep, -, hd⟩ := parse_eq_ok_iff.mp h
  intro name hn
  obtain ⟨hne, hall⟩ := spelled_of_mem hsep _ (identifier_mem_of_derives hd name hn)
  exact ⟨fun he => hne (String.toList_eq_nil_iff.mpr he), hall⟩

/-- **Writing and reading are inverse.**  A formula whose names are runs of letters and digits is
read back from its text, and so is every formula that has been read; a text that has been written
is written again from what is read from it; and formulas with the same text are equal. -/
theorem parse_text_inverse :
    (∀ e : Formula, e.WellNamed → parse e.text = .ok e) ∧
    (∀ (s : String) (e : Formula), parse s = .ok e → e.WellNamed ∧ parse e.text = .ok e) ∧
    (∀ s : String, (∃ e : Formula, e.WellNamed ∧ e.text = s) →
      ∃ e, parse s = .ok e ∧ e.text = s) ∧
    (∀ e e' : Formula, e.WellNamed → e'.WellNamed → e.text = e'.text → e = e') := by
  refine ⟨fun e => parse_text, ?_, ?_, ?_⟩
  · intro s e h
    have hw := wellNamed_of_parse h
    exact ⟨hw, parse_text hw⟩
  · rintro s ⟨e, hw, rfl⟩
    exact ⟨e, parse_text hw, rfl⟩
  · intro e e' hw hw' ht
    have h := parse_text hw
    rw [ht, parse_text hw'] at h
    exact (Except.ok.inj h).symm

theorem parse_text_negated_chain :
    (binary .implies (neg (binary .xor (var "p1") (var "q"))) (var "p1")).WellNamed ∧
      parse (binary .implies (neg (binary .xor (var "p1") (var "q"))) (var "p1")).text =
        .ok (binary .implies (neg (binary .xor (var "p1") (var "q"))) (var "p1")) := by
  have hp : (var "p1").WellNamed :=
    wellNamed_var.mpr ⟨by decide, List.all_eq_true.mp (by decide)⟩
  have hq : (var "q").WellNamed :=
    wellNamed_var.mpr ⟨by decide, List.all_eq_true.mp (by decide)⟩
  have h : (binary .implies (neg (binary .xor (var "p1") (var "q"))) (var "p1")).WellNamed :=
    wellNamed_binary.mpr ⟨wellNamed_neg.mpr (wellNamed_binary.mpr ⟨hp, hq⟩), hp⟩
  exact ⟨h, parse_text_inverse.1 _ h⟩

end Formula

end TruthTables
