import TruthTables.Draft.Basic
import TruthTables.Proofs.Values

/-!
# Variables without a value

Evaluating a formula and listing its variables are two walks through its leaves: the first stops at
a leaf that has no value, the second leaves out the names that it has seen.  Both go from left to
right and pass over no operand, so the name at which an evaluation stops is the first of the
variables without a value, whatever the other variables are worth (`eval_eq_error`,
`find?_vars`).

If every variable has a value, the formula has the value that the truth functions give it.  They are
said of propositions here, apart from the way they are computed (`Connective.Joins`,
`Formula.Says`).
-/

namespace TruthTables

/-! ### Truth functions -/

/-- What a connective says of two propositions. -/
def Connective.Joins : Connective → Prop → Prop → Prop
  | and, p, q => p ∧ q
  | or, p, q => p ∨ q
  | implies, p, q => p → q
  | iff, p, q => p ↔ q
  | xor, p, q => ¬ (p ↔ q)

theorem Connective.apply_iff (c : Connective) (a b : Bool) : c.apply a b ↔ c.Joins a b := by
  cases c <;> cases a <;> cases b <;> simp [apply, Joins]

namespace Formula

/-- What a formula says when its variables stand for propositions. -/
def Says (fact : String → Prop) : Formula → Prop
  | var name => fact name
  | neg e => ¬ e.Says fact
  | binary c l r => c.Joins (l.Says fact) (r.Says fact)

theorem holds_iff {truth : String → Bool} (e : Formula) :
    e.holds truth ↔ e.Says fun name => truth name := by
  induction e with
  | var name => exact Iff.rfl
  | neg e ih => rw [holds, Says, ← ih, Bool.not_eq_true', Bool.not_eq_true]
  | binary c l r ihl ihr =>
    rw [holds, Connective.apply_iff, Says, ihl, ihr]

/-! ### The first variable without a value -/

theorem find?_eraseDups (p : String → Bool) :
    ∀ l : List String, l.eraseDups.find? p = l.find? p := by
  intro l
  induction hn : l.length using Nat.strongRecOn generalizing l with
  | ind n ih =>
    cases l with
    | nil => rfl
    | cons a rest =>
      rw [List.eraseDups_cons, List.find?_cons, List.find?_cons]
      cases ha : p a with
      | true => rfl
      | false =>
        have hlt : (rest.filter fun b => !b == a).length < n :=
          hn ▸ Nat.lt_succ_of_le (List.length_filter_le _ _)
        -- all that the filter takes away is `a`, and `a` is not what is looked for
        have hkeep : ∀ b, decide ((!b == a) = true ∧ p b = true) = p b := by
          intro b
          by_cases hb : b = a
          · simp [hb, ha]
          · simp [hb]
        rw [ih _ hlt _ rfl, List.find?_filter, funext hkeep]

theorem find?_vars (e : Formula) (p : String → Bool) : e.vars.find? p = e.leaves.find? p :=
  find?_eraseDups p e.leaves

/-- **An evaluation stops at the first leaf without a value.** -/
theorem eval_eq_error {valuation : String → Option Bool} {e : Formula} {name : String}
    (h : e.leaves.find? (fun n => (valuation n).isNone) = some name) :
    e.eval valuation = .error (.unbound name) := by
  induction e with
  | var n =>
    rw [leaves_var, List.find?_singleton] at h
    obtain ⟨hnone, hname⟩ := Option.ite_none_right_eq_some.mp h
    cases hname
    rw [eval, Option.isNone_iff_eq_none.mp hnone]
  | neg e ih => rw [eval, ih h]; rfl
  | binary c l r ihl ihr =>
    rw [leaves_binary, List.find?_append, Option.or_eq_some_iff] at h
    rcases h with hl | ⟨hl, hr⟩
    · rw [eval, ihl hl]; rfl
    · -- the left operand has a value, and it makes no difference which
      have hvalues : ∀ n ∈ l.leaves, valuation n = some ((valuation n).getD false) := by
        intro n hn
        have hsome : valuation n ≠ none := by simpa using List.find?_eq_none.mp hl n hn
        obtain ⟨b, hb⟩ := Option.ne_none_iff_exists'.mp hsome
        rw [hb, Option.getD_some]
      rw [eval, eval_eq_ok hvalues, ihr hr]; rfl

theorem eval_congr {valuation valuation' : String → Option Bool} {e : Formula}
    (h : ∀ name ∈ e.leaves, valuation name = valuation' name) :
    e.eval valuation = e.eval valuation' := by
  induction e with
  | var name => rw [eval, eval, h name List.mem_cons_self]
  | neg e ih => rw [eval, eval, ih h]
  | binary c l r ihl ihr =>
    rw [leaves_binary, List.forall_mem_append] at h
    rw [eval, eval, ihl h.1, ihr h.2]

theorem eval_draft (valuation : String → Option Bool) (e : Formula) :
    e.draft.eval valuation = (e.eval valuation).mapError .evaluation := by
  induction e with
  | var name => rw [draft, Draft.eval, eval]; cases valuation name <;> rfl
  | neg e ih => rw [draft, Draft.eval, eval, ih]; cases e.eval valuation <;> rfl
  | binary c l r ihl ihr =>
    rw [draft, Draft.eval, eval, ihl, ihr]
    cases l.eval valuation with
    | error error => rfl
    | ok a => cases r.eval valuation <;> rfl

section Mappings

variable {α : Type} (truth : α → Bool) (mapping : String → Option α)

/-- What the evaluation of a formula comes to: an error for the first of the variables that the
mapping does not know, or the value of the formula under the truth of the others. -/
structure EvaluatesTo (e : Formula) (outcome : Except EvaluationError Bool) : Prop where
  unbound_iff : (∃ name, outcome = .error (.unbound name)) ↔ ∃ name ∈ e.vars, mapping name = none
  first_iff : ∀ name, outcome = .error (.unbound name) ↔
    ∃ before after, e.vars = before ++ name :: after ∧ (∀ n ∈ before, (mapping n).isSome) ∧
      mapping name = none
  value : (∀ name ∈ e.vars, (mapping name).isSome) → ∃ b, outcome = .ok b ∧
    (b = true ↔ e.Says fun name => ∃ v, mapping name = some v ∧ truth v = true)

variable {truth mapping} {e : Formula}

theorem covers_iff : Covers mapping e ↔ e.vars.find? (fun n => (mapping n).isNone) = none := by
  rw [List.find?_eq_none]
  exact forall₂_congr fun name _ => by rw [Option.isNone_iff_eq_none, Option.isSome_iff_ne_none]

theorem evalUnder_eq_error_iff {name : String} :
    e.evalUnder truth mapping = .error (.unbound name) ↔
      e.vars.find? (fun n => (mapping n).isNone) = some name := by
  have herror : ∀ {m}, e.vars.find? (fun n => (mapping n).isNone) = some m →
      e.evalUnder truth mapping = .error (.unbound m) := by
    intro m h
    refine eval_eq_error ?_
    rw [← find?_vars, ← h]
    exact congrArg (List.find? · e.vars) (funext fun n => Option.isNone_map)
  constructor
  · intro h
    cases hfirst : e.vars.find? (fun n => (mapping n).isNone) with
    | none =>
      rw [evalUnder_eq_ok (covers_iff.mpr hfirst)] at h
      cases h
    | some m =>
      rw [herror hfirst] at h
      cases h
      rfl
  · exact herror

theorem evaluatesTo_evalUnder (truth : α → Bool) (mapping : String → Option α) (e : Formula) :
    e.EvaluatesTo truth mapping (e.evalUnder truth mapping) where
  unbound_iff := by
    simp only [evalUnder_eq_error_iff, ← Option.isSome_iff_exists, List.find?_isSome,
      Option.isNone_iff_eq_none]
  first_iff name := by
    rw [evalUnder_eq_error_iff, List.find?_eq_some_iff_append, Option.isNone_iff_eq_none]
    simp only [Option.not_isNone]
    constructor
    · rintro ⟨hnone, before, after, hvars, hbefore⟩
      exact ⟨before, after, hvars, hbefore, hnone⟩
    · rintro ⟨before, after, hvars, hbefore, hnone⟩
      exact ⟨hnone, before, after, hvars, hbefore⟩
  value h := by
    refine ⟨_, evalUnder_eq_ok h, ?_⟩
    simp only [holds_iff, Option.any_eq_true]

/-- **An evaluation fails exactly on variables without a value, and names the first of them.**
Otherwise it gives the value that the truth functions give.  Mappings with the same truth values of
the variables give the same outcome, and a formula evaluated as a draft has it too. -/
theorem evaluation_exact (truth : α → Bool) (mapping : String → Option α) (e : Formula) :
    e.EvaluatesTo truth mapping (e.evalUnder truth mapping) ∧
      e.draft.eval (fun name => (mapping name).map truth) =
        (e.evalUnder truth mapping).mapError .evaluation ∧
      ∀ {β : Type} (truth' : β → Bool) (mapping' : String → Option β),
        (∀ name ∈ e.vars, (mapping name).map truth = (mapping' name).map truth') →
          e.evalUnder truth mapping = e.evalUnder truth' mapping' := by
  refine ⟨evaluatesTo_evalUnder truth mapping e, eval_draft _ e, fun {β} truth' mapping' h => ?_⟩
  exact eval_congr fun name hn => h name (mem_vars.mpr hn)

/-- A conjunction whose false left operand does not keep the right one from being evaluated. -/
theorem evaluation_exact_false_conjunction :
    let e := binary .and (var "p")
      (binary .implies (neg (var "r")) (binary .xor (var "q") (var "p")))
    let numbers : String → Option Nat := fun name => if name = "p" then some 0 else none
    let words : String → Option String := fun name =>
      if name = "p" then some "" else if name = "s" then some "yes" else none
    e.vars = ["p", "r", "q"] ∧ e.evalUnder (· != 0) numbers = .error (.unbound "r") ∧
      (∀ name ∈ e.vars, (numbers name).map (· != 0) = (words name).map (· != "")) ∧
      e.evalUnder (· != 0) numbers = e.evalUnder (· != "") words := by
  intro e numbers words
  have hvars : e.vars = ["p", "r", "q"] := by decide
  have hsame : ∀ name ∈ e.vars, (numbers name).map (· != 0) = (words name).map (· != "") := by
    decide
  obtain ⟨hexact, -, hcongr⟩ := evaluation_exact (· != 0) numbers e
  exact ⟨hvars, (hexact.first_iff "r").mpr ⟨["p"], ["q"], hvars, by decide, rfl⟩, hsame,
    hcongr _ words hsame⟩

end Mappings

end Formula

end TruthTables
