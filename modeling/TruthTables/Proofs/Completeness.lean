import TruthTables.Proofs.Tabulation

/-!
# A truth table is complete

Evaluating a formula under every assignment gives one row for every way to give truth values to its
variables, and no other rows.  Which row belongs to a mapping is told by the truth values of the
variables alone: read as a binary number, the first variable first, they are the place of the row
(`rowNumber`).  The mapping may know other names, and its values may be of any kind.

The rows are found through the numbers of the assignments (`getElem?_assignments_eq_some_iff`), and
an assignment agrees with a mapping if and only if its values are the truth values of the variables
(`agrees_iff`).
-/

namespace TruthTables

namespace Formula

section Mappings

variable {α : Type} (truth : α → Bool) (mapping : String → Option α)

/-- The assignment gives the variables the truth values that the mapping gives them. -/
def Agrees (e : Formula) (a : Assignment Bool) : Prop :=
  ∀ name ∈ e.vars, a.get? name = (mapping name).map truth

/-- The place of the row that a mapping belongs to. -/
def rowNumber (e : Formula) : Nat :=
  ∑ i : Fin e.vars.length,
    ((mapping e.vars[i]).any truth).toNat * 2 ^ (e.vars.length - 1 - i)

end Mappings

/-- The rows are the truth table of the formula: a mapping that covers the formula agrees with the
row at its own place and with no other, and this row has the variables in order and the value of the
formula under the mapping. -/
structure Tabulates (e : Formula) (rows : List (Assignment Bool × Bool)) : Prop where
  length_eq : rows.length = 2 ^ e.vars.length
  row : ∀ {α : Type} (truth : α → Bool) (mapping : String → Option α), Covers mapping e →
    ∃ a result, rows[e.rowNumber truth mapping]? = some (a, result) ∧
      a.names = e.vars ∧ e.evalUnder truth mapping = .ok result ∧
      ∀ k b r, rows[k]? = some (b, r) →
        (e.Agrees truth mapping b ↔ k = e.rowNumber truth mapping)

section Mappings

variable {α : Type} {truth : α → Bool} {mapping : String → Option α} {e : Formula}

theorem rowNumber_eq :
    e.rowNumber truth mapping = Cube.number (e.vars.map fun name => (mapping name).any truth) := by
  rw [rowNumber, Cube.number_map_eq_sum]

/-- **An assignment agrees with a mapping when it has its truth values**, in the order of the
variables. -/
theorem agrees_iff (h : Covers mapping e) {a : Assignment Bool} (ha : a.names = e.vars) :
    e.Agrees truth mapping a ↔ a.values = e.vars.map fun name => (mapping name).any truth := by
  have hvalues : e.vars.map a.get? = a.values.map some := by rw [← ha, a.map_get?_names]
  have htruth : e.vars.map (fun name => (mapping name).map truth) =
      (e.vars.map fun name => (mapping name).any truth).map some := by
    rw [List.map_map]
    exact List.map_congr_left fun name hn => map_truth_of_isSome (h name hn)
  rw [Agrees, ← List.map_inj_left, hvalues, htruth]
  exact List.map_inj_right fun _ _ => Option.some.inj

theorem number_values_eq_rowNumber_iff (h : Covers mapping e) {a : Assignment Bool}
    (ha : a.names = e.vars) :
    Cube.number a.values = e.rowNumber truth mapping ↔ e.Agrees truth mapping a := by
  rw [agrees_iff h ha, rowNumber_eq]
  constructor
  · intro hnumber
    refine Cube.eq_of_number_eq ?_ hnumber
    rw [a.length_values, ha, List.length_map]
  · intro hvalues
    rw [hvalues]

theorem evalUnder_of_agrees {a : Assignment Bool} (ha : a.names = e.vars)
    (hagrees : e.Agrees truth mapping a) : e.evalUnder truth mapping = .ok (e.holds a.truth) := by
  refine eval_eq_ok fun name hn => ?_
  have hvar := mem_vars.mpr hn
  rw [← hagrees name hvar, Assignment.get?_eq_truth (ha ▸ hvar)]

theorem exists_agrees (truth : α → Bool) (h : Covers mapping e) :
    ∃ a : Assignment Bool, a.names = e.vars ∧ e.Agrees truth mapping a := by
  have hlength : (e.vars.map fun name => (mapping name).any truth).length = e.vars.length :=
    List.length_map _
  have hnames : (Assignment.zip e.vars _ e.nodup_vars).names = e.vars :=
    Assignment.names_zip hlength.ge
  exact ⟨_, hnames, (agrees_iff h hnames).mpr (Assignment.values_zip hlength.le)⟩

end Mappings

theorem tabulates_assignments (e : Formula) :
    e.Tabulates (e.assignments.map fun a => (a, e.holds a.truth)) := by
  refine ⟨by rw [List.length_map, length_assignments], ?_⟩
  intro α truth mapping hcovers
  obtain ⟨a, ha, hagrees⟩ := exists_agrees truth hcovers
  have hplace : e.assignments[e.rowNumber truth mapping]? = some a :=
    getElem?_assignments_eq_some_iff.mpr
      ⟨ha, (number_values_eq_rowNumber_iff hcovers ha).mpr hagrees⟩
  refine ⟨a, e.holds a.truth, ?_, ha, evalUnder_of_agrees ha hagrees, ?_⟩
  · rw [List.getElem?_map, hplace, Option.map_some]
  · intro k b r hk
    rw [List.getElem?_map, Option.map_eq_some_iff] at hk
    obtain ⟨b, hb, hbr⟩ := hk
    cases hbr
    obtain ⟨hnames, rfl⟩ := getElem?_assignments_eq_some_iff.mp hb
    exact (number_values_eq_rowNumber_iff hcovers hnames).symm

/-- **A truth table is complete, exact and indexed by the assignment.**  Every formula has a
variable; with up to 14284 variables, evaluating it under every assignment gives its truth table;
with more the number of rows cannot be written out, and nothing is evaluated. -/
theorem evaluateAll_tabulates (e : Formula) :
    1 ≤ e.vars.length ∧
      (e.vars.length ≤ 14284 → ∃ rows, e.evaluateAll = .ok rows ∧ e.Tabulates rows) ∧
      (14284 < e.vars.length → e.evaluateAll = .error .numeralTooLong) :=
  ⟨e.length_vars_pos, fun h => ⟨_, evaluateAll_eq h, e.tabulates_assignments⟩,
    evaluateAll_eq_error_iff.mpr⟩

/-- The rows of an implication whose conclusion comes first in the order of names. -/
theorem evaluateAll_tabulates_implication :
    (binary .implies (var "q") (neg (var "p"))).vars = ["q", "p"] ∧
      ∃ rows, (binary .implies (var "q") (neg (var "p"))).evaluateAll = .ok rows ∧
        (binary .implies (var "q") (neg (var "p"))).Tabulates rows :=
  ⟨by decide, (evaluateAll_tabulates _).2.1 (by decide)⟩

/-- A formula that has no row at all. -/
theorem evaluateAll_conjunction :
    (conjunction 14 0).evaluateAll = .error .numeralTooLong ∧
      ¬ ∃ rows, (conjunction 14 0).evaluateAll = .ok rows := by
  have herror := evaluateAll_eq_error_iff.mpr lt_length_vars_conjunction
  refine ⟨herror, ?_⟩
  rintro ⟨rows, hrows⟩
  rw [herror] at hrows
  cases hrows

end Formula

end TruthTables
