import TruthTables.Proofs.Requests
import TruthTables.Proofs.Verdicts

/-!
# Deciding equivalence and entailment

Whether two formulas are equivalent, or one entails the other, can be read off one table: that of
the text in which both stand in parentheses with a connective between them.  A formula in
parentheses is a factor, so the text is read as intended, whatever spacing and connectives the two
texts contain (`parse_joined`, `parse_negated`).  The table ranges over the variables of both
formulas, and its flags over all mappings (`Formula.ClassifiedBy`), so no row of one table is ever
compared with a row of another.

The two formulas together may have too many variables for a table even if neither has by itself;
`conjunction 14 0` has too many of its own, and entails its first variable.
-/

namespace TruthTables

/-! ### Texts in parentheses -/

namespace Token

theorem dropSpacing_group (cs ds : List Char) :
    dropSpacing ('(' :: (cs ++ ')' :: ds)) = '(' :: (dropSpacing cs ++ ')' :: dropSpacing ds) :=
  congrArg ('(' :: ·) (dropSpacing_append cs (')' :: ds))

theorem dropSpacing_sign (c : Connective) : dropSpacing c.sign = c.sign := by
  cases c <;> decide

end Token

namespace Formula

open Token

variable {e f : Formula} {t u : String}

theorem parse_joined {joined : String} (c : Connective) (ht : parse t = .ok e)
    (hu : parse u = .ok f)
    (h : joined.toList = '(' :: (t.toList ++ ')' :: (c.sign ++ '(' :: (u.toList ++ [')'])))) :
    parse joined = .ok (binary c e f) := by
  obtain ⟨ts, hts, htlex, htd⟩ := parse_eq_ok_iff.mp ht
  obtain ⟨us, hus, hulex, hud⟩ := parse_eq_ok_iff.mp hu
  have hright : Separable (.connective c :: .opening :: (us ++ [.closing])) :=
    hus.group_nil.cons_sign rfl
  have hderives := Derives.ofChain (.pair (c := c) (.group htd) (.group hud))
  refine parse_eq_ok_iff.mpr
    ⟨.opening :: (ts ++ .closing :: .connective c :: .opening :: (us ++ [.closing])),
      hts.group hright, ?_, ?_⟩
  · rw [h, dropSpacing_group, dropSpacing_append, dropSpacing_sign, dropSpacing_group,
      lexemes_group, lexemes_cons, lexemes_group, htlex, hulex]
    rfl
  · rwa [List.cons_append, List.append_assoc, List.singleton_append] at hderives

theorem parse_implication (ht : parse t = .ok e) (hu : parse u = .ok f) :
    parse ("(" ++ t ++ ")=>(" ++ u ++ ")") = .ok (binary .implies e f) :=
  parse_joined .implies ht hu (by simp [Connective.sign])

theorem parse_negated {negated : String} (ht : parse t = .ok e)
    (h : negated.toList = '!' :: '(' :: (t.toList ++ [')'])) : parse negated = .ok (neg e) := by
  obtain ⟨ts, hts, htlex, htd⟩ := parse_eq_ok_iff.mp ht
  refine parse_eq_ok_iff.mpr ⟨.negation :: .opening :: (ts ++ [.closing]),
    hts.group_nil.cons_sign rfl, ?_, .ofFactor (.negation (.group htd))⟩
  rw [h, lexemes_cons, lexemes_group, htlex]
  exact (congrArg ('!' :: ·) (dropSpacing_group t.toList [])).symm

/-! ### Formulas that are compared -/

def jointVars (e f : Formula) : List String := (e.leaves ++ f.leaves).eraseDups

theorem vars_binary (c : Connective) : (binary c e f).vars = jointVars e f := by
  rw [vars, leaves_binary, jointVars]

/-- The formulas have the same value under every mapping that covers both. -/
def Equivalent (e f : Formula) : Prop :=
  ∀ {α : Type} (truth : α → Bool) (mapping : String → Option α),
    Covers mapping e → Covers mapping f →
      ∃ b, e.evalUnder truth mapping = .ok b ∧ f.evalUnder truth mapping = .ok b

/-- Every mapping that covers both formulas and makes the first one true makes the second one
true. -/
def Entails (e f : Formula) : Prop :=
  ∀ {α : Type} (truth : α → Bool) (mapping : String → Option α),
    Covers mapping e → Covers mapping f →
      e.evalUnder truth mapping = .ok true → f.evalUnder truth mapping = .ok true

theorem covers_binary {α : Type} {mapping : String → Option α} {c : Connective} :
    Covers mapping (binary c e f) ↔ Covers mapping e ∧ Covers mapping f := by
  simp only [Covers, mem_vars, leaves_binary, List.mem_append, or_imp, forall_and]

theorem always_binary_iff {c : Connective} {b : Bool} : (binary c e f).Always b ↔
    ∀ {α : Type} (truth : α → Bool) (mapping : String → Option α),
      Covers mapping e → Covers mapping f →
        c.apply (e.holds fun name => (mapping name).any truth)
          (f.holds fun name => (mapping name).any truth) = b := by
  constructor
  · intro h α truth mapping he hf
    have hcovers := covers_binary (c := c).mpr ⟨he, hf⟩
    have hvalue := h truth mapping hcovers
    rw [evalUnder_eq_ok hcovers] at hvalue
    exact Except.ok.inj hvalue
  · intro h α truth mapping hcovers
    obtain ⟨he, hf⟩ := covers_binary.mp hcovers
    rw [evalUnder_eq_ok hcovers]
    exact congrArg Except.ok (h truth mapping he hf)

theorem equivalent_iff : Equivalent e f ↔
    ∀ {α : Type} (truth : α → Bool) (mapping : String → Option α),
      Covers mapping e → Covers mapping f →
        e.holds (fun name => (mapping name).any truth) =
          f.holds fun name => (mapping name).any truth := by
  constructor
  · intro h α truth mapping he hf
    obtain ⟨b, heb, hfb⟩ := h truth mapping he hf
    rw [evalUnder_eq_ok he] at heb
    rw [evalUnder_eq_ok hf] at hfb
    exact (Except.ok.inj heb).trans (Except.ok.inj hfb).symm
  · intro h α truth mapping he hf
    refine ⟨_, evalUnder_eq_ok he, ?_⟩
    rw [evalUnder_eq_ok hf, h truth mapping he hf]

/-- **Formulas are equivalent when a biconditional between them always holds.** -/
theorem always_iff_iff_equivalent : (binary .iff e f).Always true ↔ Equivalent e f := by
  rw [always_binary_iff, equivalent_iff]
  simp only [Connective.apply, beq_iff_eq]

theorem always_xor_iff_equivalent : (binary .xor e f).Always false ↔ Equivalent e f := by
  rw [always_binary_iff, equivalent_iff]
  simp only [Connective.apply, bne_eq_false_iff_eq]

/-- **A formula entails another when an implication between them always holds.** -/
theorem always_implies_iff_entails : (binary .implies e f).Always true ↔ Entails e f := by
  rw [always_binary_iff]
  constructor
  · intro h α truth mapping he hf htrue
    have himplies := h truth mapping he hf
    rw [evalUnder_eq_ok he] at htrue
    rw [Except.ok.inj htrue] at himplies
    rw [evalUnder_eq_ok hf]
    exact congrArg Except.ok himplies
  · intro h α truth mapping he hf
    have hentails := h truth mapping he hf
    rw [evalUnder_eq_ok he, evalUnder_eq_ok hf] at hentails
    cases htrue : e.holds fun name => (mapping name).any truth with
    | false => rfl
    | true => exact Except.ok.inj (hentails (congrArg Except.ok htrue))

theorem always_neg_iff : (neg e).Always false ↔ e.Always true := by
  have hvalue : ∀ {α : Type} (truth : α → Bool) (mapping : String → Option α),
      Covers mapping e →
        ((neg e).evalUnder truth mapping = .ok false ↔ e.evalUnder truth mapping = .ok true) := by
    intro α truth mapping hcovers
    rw [evalUnder_eq_ok hcovers, evalUnder_eq_ok (e := neg e) hcovers, holds, Except.ok.injEq,
      Except.ok.injEq, Bool.not_eq_false']
  constructor
  · intro h α truth mapping hcovers
    exact (hvalue truth mapping hcovers).mp (h truth mapping hcovers)
  · intro h α truth mapping hcovers
    exact (hvalue truth mapping hcovers).mpr (h truth mapping hcovers)

end Formula

namespace Table

open Formula

/-! ### The tables -/

/-- The three tables that compare two formulas say whether they are equivalent and whether the first
one entails the second one. -/
structure Compares (e f : Formula) (biconditional disjunction implication : Table Formula) :
    Prop where
  isTautology_iff_equivalent : biconditional.isTautology ↔ Equivalent e f
  isContradiction_iff_equivalent : disjunction.isContradiction ↔ Equivalent e f
  isTautology_iff_entails : implication.isTautology ↔ Entails e f

variable {e f : Formula} {s t u : String} {withSteps : Bool}

theorem exists_classifiedBy (withSteps : Bool) (he : parse s = .ok e)
    (hcount : e.vars.length ≤ 14284) :
    ∃ T, ofText s withSteps none = .ok T ∧ e.ClassifiedBy T :=
  ⟨_, ofText_eq he (fun _ h => nomatch h) hcount, classifiedBy_of_rows_eq rfl⟩

/-- A text with more rows than can be written out has no table. -/
theorem ofText_of_lt_length_vars (he : parse s = .ok e) (hcount : 14284 < e.vars.length) :
    ofText s withSteps none = .error (.evaluation .numeralTooLong) :=
  ofText_of_not_writable he fun h => absurd h.1 (Nat.not_le.mpr hcount)

/-- **Deciding equivalence and entailment with tables is sound and complete**, as long as the
number of rows can be written out.  For texts that stand for the formulas `e` and `f`, the table of
the biconditional is a tautology if and only if `e` and `f` have the same value under every mapping
that covers both, which is also when the table of the exclusive disjunction is a contradiction; the
table of the implication is a tautology if and only if every such mapping that makes `e` true makes
`f` true; and the table of the negation is a contradiction if and only if the table of `e` is a
tautology.  With more variables there is no table to read it off. -/
theorem compares_of_parse (t u : String) (e f : Formula) (ht : parse t = .ok e)
    (hu : parse u = .ok f) (withSteps : Bool) :
    ((jointVars e f).length ≤ 14284 → ∃ biconditional disjunction implication,
        ofText ("(" ++ t ++ ")<=>(" ++ u ++ ")") withSteps none = .ok biconditional ∧
        ofText ("(" ++ t ++ ")<!=>(" ++ u ++ ")") withSteps none = .ok disjunction ∧
        ofText ("(" ++ t ++ ")=>(" ++ u ++ ")") withSteps none = .ok implication ∧
        Compares e f biconditional disjunction implication) ∧
      (e.vars.length ≤ 14284 → ∃ negation table,
        ofText ("!(" ++ t ++ ")") withSteps none = .ok negation ∧
        ofText t withSteps none = .ok table ∧
        (negation.isContradiction ↔ table.isTautology)) ∧
      (14284 < (jointVars e f).length →
        ofText ("(" ++ t ++ ")<=>(" ++ u ++ ")") withSteps none =
            .error (.evaluation .numeralTooLong) ∧
          ofText ("(" ++ t ++ ")<!=>(" ++ u ++ ")") withSteps none =
            .error (.evaluation .numeralTooLong) ∧
          ofText ("(" ++ t ++ ")=>(" ++ u ++ ")") withSteps none =
            .error (.evaluation .numeralTooLong)) ∧
      (14284 < e.vars.length →
        ofText ("!(" ++ t ++ ")") withSteps none = .error (.evaluation .numeralTooLong) ∧
          ofText t withSteps none = .error (.evaluation .numeralTooLong)) := by
  have hiff : parse ("(" ++ t ++ ")<=>(" ++ u ++ ")") = .ok (binary .iff e f) :=
    parse_joined .iff ht hu (by simp [Connective.sign])
  have hxor : parse ("(" ++ t ++ ")<!=>(" ++ u ++ ")") = .ok (binary .xor e f) :=
    parse_joined .xor ht hu (by simp [Connective.sign])
  have himplies := parse_implication ht hu
  have hneg : parse ("!(" ++ t ++ ")") = .ok (neg e) := parse_negated ht (by simp)
  have hvars : ∀ c, (binary c e f).vars.length = (jointVars e f).length := fun c => by
    rw [vars_binary]
  refine ⟨fun hcount => ?_, fun hcount => ?_, fun hcount => ?_, fun hcount => ?_⟩
  · obtain ⟨biconditional, hb, hbiconditional⟩ :=
      exists_classifiedBy withSteps hiff ((hvars .iff).trans_le hcount)
    obtain ⟨disjunction, hd, hdisjunction⟩ :=
      exists_classifiedBy withSteps hxor ((hvars .xor).trans_le hcount)
    obtain ⟨implication, hi, himplication⟩ :=
      exists_classifiedBy withSteps himplies ((hvars .implies).trans_le hcount)
    exact ⟨biconditional, disjunction, implication, hb, hd, hi,
      hbiconditional.isTautology_iff.trans always_iff_iff_equivalent,
      hdisjunction.isContradiction_iff.trans always_xor_iff_equivalent,
      himplication.isTautology_iff.trans always_implies_iff_entails⟩
  · obtain ⟨negation, hn, hnegation⟩ := exists_classifiedBy withSteps hneg hcount
    obtain ⟨table, htable, hclassified⟩ := exists_classifiedBy withSteps ht hcount
    refine ⟨negation, table, hn, htable, ?_⟩
    rw [hnegation.isContradiction_iff, always_neg_iff, hclassified.isTautology_iff]
  · exact ⟨ofText_of_lt_length_vars hiff (hcount.trans_eq (hvars .iff).symm),
      ofText_of_lt_length_vars hxor (hcount.trans_eq (hvars .xor).symm),
      ofText_of_lt_length_vars himplies (hcount.trans_eq (hvars .implies).symm)⟩
  · exact ⟨ofText_of_lt_length_vars hneg hcount, ofText_of_lt_length_vars ht hcount⟩

/-- Two texts for material implication, each with spacing and connectives of its own. -/
theorem compares_of_parse_material :
    ∃ biconditional disjunction implication,
      ofText ("(" ++ "a => b" ++ ")<=>(" ++ " !a|b" ++ ")") true none = .ok biconditional ∧
      ofText ("(" ++ "a => b" ++ ")<!=>(" ++ " !a|b" ++ ")") true none = .ok disjunction ∧
      ofText ("(" ++ "a => b" ++ ")=>(" ++ " !a|b" ++ ")") true none = .ok implication ∧
      Compares (binary .implies (var "a") (var "b")) (binary .or (neg (var "a")) (var "b"))
        biconditional disjunction implication :=
  (compares_of_parse "a => b" " !a|b" _ _ (by decide +kernel) (by decide +kernel) true).1
    (by decide)

end Table

/-! ### Formulas that no table compares -/

namespace Formula

variable {e f : Formula}

theorem length_vars_le_length_jointVars : e.vars.length ≤ (jointVars e f).length := by
  refine ((nodup_vars e).subperm fun name hn => ?_).length_le
  exact List.mem_eraseDups.mpr (List.mem_append_left _ (mem_vars.mp hn))

theorem of_holds_conjunction {truth : String → Bool} (depth : Nat) : ∀ first,
    (conjunction depth first).holds truth = true →
      ∀ name ∈ (conjunction depth first).leaves, truth name = true := by
  induction depth with
  | zero =>
    intro first h name hn
    obtain rfl : name = "x" ++ toString first := List.mem_singleton.mp hn
    exact h
  | succ depth ih =>
    intro first h name hn
    obtain ⟨hl, hr⟩ := Bool.and_eq_true_iff.mp h
    rw [conjunction, leaves_binary, List.mem_append] at hn
    rcases hn with hn | hn
    · exact ih first hl name hn
    · exact ih _ hr name hn

theorem entails_conjunction {depth : Nat} {name : String} (first : Nat)
    (h : name ∈ (conjunction depth first).leaves) :
    Entails (conjunction depth first) (var name) := by
  intro α truth mapping he hf htrue
  rw [evalUnder_eq_ok he] at htrue
  rw [evalUnder_eq_ok hf]
  exact congrArg Except.ok (of_holds_conjunction depth first (Except.ok.inj htrue) name h)

end Formula

/-- The conjunction of 16384 variables entails the first of them, and no table says so. -/
theorem Table.not_compares_conjunction :
    Formula.parse (Formula.conjunction 14 0).text = .ok (.conjunction 14 0) ∧
      Formula.parse "x0" = .ok (.var "x0") ∧
      Formula.Entails (.conjunction 14 0) (.var "x0") ∧
      ∀ withSteps,
        ofText ("(" ++ (Formula.conjunction 14 0).text ++ ")=>(" ++ "x0" ++ ")") withSteps none =
            .error (.evaluation .numeralTooLong) ∧
          ¬ ∃ t, ofText ("(" ++ (Formula.conjunction 14 0).text ++ ")=>(" ++ "x0" ++ ")") withSteps
            none = .ok t ∧ t.isTautology := by
  have hparse := Formula.parse_text (Formula.wellNamed_conjunction 14 0)
  have hvar : Formula.parse "x0" = .ok (.var "x0") := by decide +kernel
  have hmem : "x0" ∈ (Formula.conjunction 14 0).leaves := by
    rw [Formula.leaves_conjunction]
    exact List.mem_map.mpr ⟨0, List.mem_range'.mpr ⟨0, Nat.two_pow_pos 14, rfl⟩, rfl⟩
  have hjoined := Formula.parse_implication hparse hvar
  have hcount : 14284 <
      (Formula.binary .implies (Formula.conjunction 14 0) (.var "x0")).vars.length := by
    rw [Formula.vars_binary]
    exact Formula.lt_length_vars_conjunction.trans_le Formula.length_vars_le_length_jointVars
  refine ⟨hparse, hvar, Formula.entails_conjunction 0 hmem, fun withSteps => ?_⟩
  have hanswer : ofText ("(" ++ (Formula.conjunction 14 0).text ++ ")=>(" ++ "x0" ++ ")") withSteps
      none = .error (.evaluation .numeralTooLong) := ofText_of_lt_length_vars hjoined hcount
  refine ⟨hanswer, ?_⟩
  rintro ⟨t, ht, -⟩
  rw [hanswer] at ht
  cases ht

end TruthTables
