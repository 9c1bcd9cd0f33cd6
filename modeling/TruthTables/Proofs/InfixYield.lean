import Mathlib.Data.List.Basic
import TruthTables.Proofs.Requests
import TruthTables.Proofs.StepColumns

/-!
# What a text and its formula have in common

The tokens of an accepted text, less the parentheses, are the formula read in infix order
(`Derives.filter_eq_yield`).  So nothing is lost or reordered on the way from a text to the columns
of its table: the leaves of the formula are the identifiers of the text, the variables are these in
the order of their first occurrence, and there are as many steps as the text has negations and
connectives.
-/

namespace TruthTables

namespace Token

def isParenthesis : Token → Bool
  | opening => true
  | closing => true
  | _ => false

def isOperation : Token → Bool
  | negation => true
  | connective _ => true
  | _ => false

def name? : Token → Option String
  | identifier name => some name
  | _ => none

theorem filterMap_name?_filter (ts : List Token) :
    (ts.filter (!·.isParenthesis)).filterMap name? = ts.filterMap name? := by
  rw [List.filterMap_filter]
  refine List.filterMap_congr fun t _ => ?_
  cases t <;> rfl

theorem countP_isOperation_filter (ts : List Token) :
    (ts.filter (!·.isParenthesis)).countP isOperation = ts.countP isOperation := by
  rw [List.countP_filter]
  refine List.countP_congr fun t _ => ?_
  cases t <;> simp [isOperation, isParenthesis]

end Token

/-! ### First occurrences -/

/-- The members of a list, each once, in the order of their first occurrence. -/
structure FirstOccurrences (names l : List String) : Prop where
  mem_iff : ∀ name, name ∈ names ↔ name ∈ l
  ordered : names.Pairwise fun m n => l.idxOf m < l.idxOf n

theorem firstOccurrences_eraseDups (l : List String) : FirstOccurrences l.eraseDups l := by
  refine ⟨fun name => List.mem_eraseDups, ?_⟩
  -- a name at the end of the list is new, and stands behind all others, or changes nothing
  induction l using List.reverseRecOn with
  | nil => exact List.Pairwise.nil
  | append_singleton l a ih =>
    have hearlier : l.eraseDups.Pairwise fun m n => (l ++ [a]).idxOf m < (l ++ [a]).idxOf n := by
      refine ih.imp_of_mem fun hm hn hlt => ?_
      rw [List.idxOf_append_of_mem (List.mem_eraseDups.mp hm),
        List.idxOf_append_of_mem (List.mem_eraseDups.mp hn)]
      exact hlt
    rw [List.eraseDups_append]
    by_cases ha : a ∈ l
    · have hnone : [a].removeAll l = [] := by simp [List.removeAll, ha]
      rw [hnone, List.eraseDups_nil, List.append_nil]
      exact hearlier
    · have hone : [a].removeAll l = [a] := by simp [List.removeAll, ha]
      have hsingle : [a].eraseDups = [a] := by simp [List.eraseDups_cons]
      rw [hone, hsingle, List.pairwise_append]
      refine ⟨hearlier, List.pairwise_singleton _ _, fun m hm n hn => ?_⟩
      rw [List.mem_singleton.mp hn, List.idxOf_append_of_mem (List.mem_eraseDups.mp hm),
        List.idxOf_append_of_notMem ha]
      exact Nat.lt_add_right _ (List.idxOf_lt_length_of_mem (List.mem_eraseDups.mp hm))

namespace Formula

/-! ### The infix yield -/

/-- The tokens of a formula in infix order, without parentheses. -/
def yield : Formula → List Token
  | var name => [.identifier name]
  | neg e => .negation :: e.yield
  | binary c l r => l.yield ++ .connective c :: r.yield

/-- **The tokens of a phrase, less the parentheses, are the yield of its formula.** -/
theorem Derives.filter_eq_yield {k : Phrase} {ts : List Token} {e : Formula} (h : Derives k ts e) :
    ts.filter (!·.isParenthesis) = e.yield := by
  -- both rules of chains put a connective between two phrases
  have hjoin : ∀ {c : Connective} {ts us : List Token} {l r : Formula},
      ts.filter (!·.isParenthesis) = l.yield → us.filter (!·.isParenthesis) = r.yield →
      (ts ++ .connective c :: us).filter (!·.isParenthesis) = (binary c l r).yield := by
    intro c ts us l r hl hr
    rw [List.filter_append, List.filter_cons_of_pos rfl, hl, hr, yield]
  induction h with
  | ofFactor _ ih => exact ih
  | ofChain _ ih => exact ih
  | pair _ _ ihl ihr => exact hjoin ihl ihr
  | extend _ _ ihl ihr => exact hjoin ihl ihr
  | negation _ ih => rw [List.filter_cons_of_pos rfl, ih, yield]
  | group _ ih =>
    rw [List.filter_cons_of_neg (by decide), List.filter_append,
      List.filter_cons_of_neg (by decide), List.filter_nil, List.append_nil, ih]
  | identifier name => rfl

theorem filterMap_name?_yield (e : Formula) : e.yield.filterMap Token.name? = e.leaves := by
  induction e with
  | var name => rfl
  | neg e ih => rw [yield, List.filterMap_cons_none rfl, ih, leaves_neg]
  | binary c l r ihl ihr =>
    rw [yield, List.filterMap_append, List.filterMap_cons_none rfl, ihl, ihr, leaves_binary]

theorem countP_isOperation_yield (e : Formula) :
    e.yield.countP Token.isOperation = e.operations := by
  induction e with
  | var name => rfl
  | neg e ih => rw [yield, List.countP_cons_of_pos rfl, ih, operations]
  | binary c l r ihl ihr =>
    rw [yield, List.countP_append, List.countP_cons_of_pos rfl, ihl, ihr, operations,
      Nat.add_assoc]

/-- What a text and its formula agree on. -/
structure YieldsFrom (e : Formula) (ts : List Token) : Prop where
  filter_eq_yield : ts.filter (!·.isParenthesis) = e.yield
  vars : FirstOccurrences e.vars (ts.filterMap Token.name?)
  length_steps : e.steps.length = ts.countP Token.isOperation

theorem Derives.yieldsFrom {k : Phrase} {ts : List Token} {e : Formula} (h : Derives k ts e) :
    e.YieldsFrom ts := by
  have hyield := h.filter_eq_yield
  refine ⟨hyield, ?_, ?_⟩
  · rw [← Token.filterMap_name?_filter, hyield, filterMap_name?_yield]
    exact firstOccurrences_eraseDups _
  · rw [← Token.countP_isOperation_filter, hyield, countP_isOperation_yield, length_steps]

end Formula

/-! ### The columns of a table -/

namespace Table

open Formula

theorem vars_of_ofFormula {e : Formula} {source : Option String} {withSteps : Bool}
    {t : Table Formula} (h : ofFormula e source withSteps = .ok t) :
    t.vars = e.vars ∧ ∀ row ∈ t.rows, row.assignment.names = e.vars := by
  by_cases hlength : e.vars.length ≤ 14284
  · rw [ofFormula_eq source withSteps hlength] at h
    cases h
    refine ⟨rfl, fun row hrow => ?_⟩
    obtain ⟨a, ha, rfl⟩ := List.mem_map.mp hrow
    exact mem_assignments_iff.mp ha
  · rw [ofFormula_eq_error_iff.mpr (Nat.lt_of_not_le hlength)] at h
    cases h

end Table

namespace Formula

/-- **Nothing is lost, invented or reordered between a text and the columns of its table.**  An
accepted text splits into tokens to its end, and these, less the parentheses, are the formula in
infix order; the variables are the identifiers of the text, each once, in the order of their first
occurrence, and there are as many steps as the text has negations and connectives.  The variables
are the columns of every table that is built from the text. -/
theorem yieldsFrom_of_parse {s : String} {e : Formula} (h : parse s = .ok e) :
    ∃ ts, Lexing.ofChars (Token.dropSpacing s.toList) = ⟨ts, none⟩ ∧
      e.YieldsFrom (ts.map Token.Located.token) ∧
      ∀ (withSteps : Bool) (limit : Option Int) (t : Table Formula),
        Table.ofText s withSteps limit = .ok t →
          t.vars = e.vars ∧ ∀ row ∈ t.rows, row.assignment.names = e.vars := by
  obtain ⟨ts, hlexing, hderives⟩ := outcomeOfChars_eq_ok_iff.mp (parse_eq_outcome s ▸ h)
  exact ⟨ts, hlexing, hderives.yieldsFrom, fun withSteps limit t ht =>
    Table.vars_of_ofFormula (Table.ofFormula_of_ofText h ht)⟩

/-- The columns of a table stand in the order of the text, not in alphabetical order, and redundant
parentheses leave no trace. -/
theorem yieldsFrom_of_parse_redundant_groups :
    ∃ e t, parse "!(b => (a)) & b" = .ok e ∧
      (∃ ts, Lexing.ofChars (Token.dropSpacing "!(b => (a)) & b".toList) = ⟨ts, none⟩ ∧
        e.YieldsFrom (ts.map Token.Located.token)) ∧
      Table.ofText "!(b => (a)) & b" true none = .ok t ∧ t.vars = ["b", "a"] := by
  have h : parse "!(b => (a)) & b" =
      .ok (binary .and (neg (binary .implies (var "b") (var "a"))) (var "b")) := by decide +kernel
  obtain ⟨ts, hlexing, hyields, hcolumns⟩ := yieldsFrom_of_parse h
  have hbuilt : (Table.ofText "!(b => (a)) & b" true none).isOk = true := by decide +kernel
  cases ht : Table.ofText "!(b => (a)) & b" true none with
  | error error =>
    rw [ht] at hbuilt
    cases hbuilt
  | ok t =>
    have hvars : t.vars = ["b", "a"] := (hcolumns true none t ht).1.trans (by decide)
    exact ⟨_, t, h, ⟨ts, hlexing, hyields⟩, rfl, hvars⟩

end Formula

end TruthTables
