import TruthTables.Proofs.Completeness

/-!
# What a verdict means

The verdict of a table is a fold over its rows.  It says something about every mapping of names to
values that covers the formula, of which there are infinitely many: each of them agrees with a row,
and each row is a mapping itself (`always_iff`, `sometimes_iff`).  A formula has at least one
variable, so its table has a row, and being true in every row excludes being false in every row.
-/

namespace TruthTables

namespace Table

variable {σ : Type} {t : Table σ}

theorem isTautology_iff : t.isTautology ↔ t.rows ≠ [] ∧ ∀ r ∈ t.rows, r.result = true := by
  simp [isTautology, isEmpty]

theorem isContradiction_iff : t.isContradiction ↔ t.rows ≠ [] ∧ ∀ r ∈ t.rows, r.result = false := by
  simp [isContradiction, isEmpty]

theorem isSatisfiable_iff : t.isSatisfiable ↔ ∃ r ∈ t.rows, r.result = true := by
  simp [isSatisfiable]

theorem not_isTautology_of_isContradiction (h : t.isContradiction) : ¬ t.isTautology := by
  rw [isContradiction_iff] at h
  rw [isTautology_iff]
  rintro ⟨hne, hall⟩
  obtain ⟨r, rest, hr⟩ := List.exists_cons_of_ne_nil hne
  have hmem : r ∈ t.rows := by rw [hr]; exact List.mem_cons_self
  have htrue := hall r hmem
  rw [h.2 r hmem] at htrue
  cases htrue

/-! ### The name of the verdict -/

theorem name_verdict_eq_tautology_iff : t.verdict.name = "tautology" ↔ t.isTautology := by
  unfold verdict
  split
  next h => simp [Verdict.name, h]
  next h => split <;> simp [Verdict.name, h]

theorem name_verdict_eq_contradiction_iff :
    t.verdict.name = "contradiction" ↔ t.isContradiction := by
  unfold verdict
  split
  next h =>
    have hnot : ¬ t.isContradiction := fun hc => not_isTautology_of_isContradiction hc h
    simp [Verdict.name, hnot]
  next => split <;> simp [Verdict.name, *]

theorem name_verdict_eq_satisfiable_iff :
    t.verdict.name = "satisfiable" ↔ ¬ t.isTautology ∧ ¬ t.isContradiction := by
  unfold verdict
  split
  next h => simp [Verdict.name, h]
  next h => split <;> simp [Verdict.name, *]

end Table

namespace Formula

/-! ### Every mapping and some mapping -/

/-- The formula has one and the same value under every mapping that covers it. -/
def Always (e : Formula) (b : Bool) : Prop :=
  ∀ {α : Type} (truth : α → Bool) (mapping : String → Option α), Covers mapping e →
    e.evalUnder truth mapping = .ok b

def Sometimes (e : Formula) (b : Bool) : Prop :=
  ∃ (α : Type) (truth : α → Bool) (mapping : String → Option α), Covers mapping e ∧
    e.evalUnder truth mapping = .ok b

variable {e : Formula} {b : Bool}

theorem evalUnder_assignment {a : Assignment Bool} (h : a ∈ e.assignments) :
    Covers a.get? e ∧ e.evalUnder id a.get? = .ok (e.holds a.truth) := by
  have hnames := mem_assignments_iff.mp h
  refine ⟨covers_of_names_eq hnames, evalUnder_of_agrees hnames fun name _ => ?_⟩
  rw [Option.map_id, id]

theorem exists_assignment {α : Type} (truth : α → Bool) {mapping : String → Option α}
    (h : Covers mapping e) :
    ∃ a ∈ e.assignments, e.evalUnder truth mapping = .ok (e.holds a.truth) := by
  obtain ⟨a, hnames, hagrees⟩ := exists_agrees truth h
  exact ⟨a, mem_assignments_iff.mpr hnames, evalUnder_of_agrees hnames hagrees⟩

/-- **What holds in every row holds under every mapping**, and conversely. -/
theorem always_iff : e.Always b ↔ ∀ a ∈ e.assignments, e.holds a.truth = b := by
  constructor
  · intro h a ha
    obtain ⟨hcovers, hvalue⟩ := evalUnder_assignment ha
    exact Except.ok.inj (hvalue.symm.trans (h id a.get? hcovers))
  · intro h α truth mapping hcovers
    obtain ⟨a, ha, hvalue⟩ := exists_assignment truth hcovers
    rw [hvalue, h a ha]

theorem sometimes_iff : e.Sometimes b ↔ ∃ a ∈ e.assignments, e.holds a.truth = b := by
  constructor
  · rintro ⟨α, truth, mapping, hcovers, hb⟩
    obtain ⟨a, ha, hvalue⟩ := exists_assignment truth hcovers
    exact ⟨a, ha, Except.ok.inj (hvalue.symm.trans hb)⟩
  · rintro ⟨a, ha, rfl⟩
    obtain ⟨hcovers, hvalue⟩ := evalUnder_assignment ha
    exact ⟨Bool, id, a.get?, hcovers, hvalue⟩

theorem always_false_iff : e.Always false ↔ ¬ e.Sometimes true := by
  rw [always_iff, sometimes_iff]
  simp

theorem assignments_ne_nil (e : Formula) : e.assignments ≠ [] := by
  intro h
  have hlength := e.length_assignments
  rw [h, List.length_nil] at hlength
  exact absurd hlength.symm (Nat.two_pow_pos _).ne'

/-- The flags and the verdict of the table say how many mappings make the formula true: all, none,
or some but not all. -/
structure ClassifiedBy (e : Formula) (t : Table Formula) : Prop where
  isTautology_iff : t.isTautology ↔ e.Always true
  isContradiction_iff : t.isContradiction ↔ e.Always false
  isSatisfiable_iff : t.isSatisfiable ↔ e.Sometimes true
  tautology_iff : t.verdict.name = "tautology" ↔ e.Always true
  contradiction_iff : t.verdict.name = "contradiction" ↔ ¬ e.Sometimes true
  satisfiable_iff : t.verdict.name = "satisfiable" ↔ e.Sometimes true ∧ ¬ e.Always true

theorem classifiedBy_of_rows_eq {t : Table Formula} {steps : List Formula}
    (h : t.rows = e.assignments.map (e.rowUnder steps)) : e.ClassifiedBy t := by
  have hne : t.rows ≠ [] := by
    rw [h]
    exact fun hnil => e.assignments_ne_nil (List.map_eq_nil_iff.mp hnil)
  have hall : ∀ b, (∀ r ∈ t.rows, r.result = b) ↔ e.Always b := by
    intro b
    rw [h, always_iff, List.forall_mem_map]
    rfl
  have htautology : t.isTautology ↔ e.Always true := by
    rw [Table.isTautology_iff, hall]
    exact and_iff_right hne
  have hcontradiction : t.isContradiction ↔ e.Always false := by
    rw [Table.isContradiction_iff, hall]
    exact and_iff_right hne
  refine ⟨htautology, hcontradiction, ?_, ?_, ?_, ?_⟩
  · rw [Table.isSatisfiable_iff, h, sometimes_iff]
    simp only [List.mem_map, exists_exists_and_eq_and, rowUnder]
  · rw [Table.name_verdict_eq_tautology_iff, htautology]
  · rw [Table.name_verdict_eq_contradiction_iff, hcontradiction, always_false_iff]
  · rw [Table.name_verdict_eq_satisfiable_iff, htautology, hcontradiction, always_false_iff,
      not_not, and_comm]

/-- **Classification means what it says.**  The table of a formula with up to 14284 variables, with
or without steps, is a tautology if and only if the formula is true under every mapping that covers
it, a contradiction if and only if it is false under every one, and satisfiable if and only if it is
true under some; and its verdict tells all, none, and some but not all apart.  With more variables
there is no table to classify. -/
theorem classifiedBy_ofFormula (e : Formula) (source : Option String) (withSteps : Bool) :
    (e.vars.length ≤ 14284 →
        ∃ t, Table.ofFormula e source withSteps = .ok t ∧ e.ClassifiedBy t) ∧
      (14284 < e.vars.length →
        Table.ofFormula e source withSteps = .error .numeralTooLong) :=
  ⟨fun h => ⟨_, Table.ofFormula_eq source withSteps h, classifiedBy_of_rows_eq rfl⟩,
    Table.ofFormula_eq_error_iff.mpr⟩

/-- The law of the excluded middle is a tautology. -/
theorem classifiedBy_ofFormula_excluded_middle :
    ∃ t, Table.ofFormula (binary .or (var "p") (neg (var "p"))) none true = .ok t ∧
      (binary .or (var "p") (neg (var "p"))).ClassifiedBy t :=
  (classifiedBy_ofFormula _ none true).1 (by decide)

theorem sometimes_conjunction (depth first : Nat) : (conjunction depth first).Sometimes true := by
  have hcovers : Covers (fun _ => some true) (conjunction depth first) := fun _ _ => rfl
  refine ⟨Bool, id, fun _ => some true, hcovers, ?_⟩
  rw [evalUnder_eq_ok hcovers]
  exact congrArg Except.ok (holds_conjunction depth first)

/-- A satisfiable formula that no table calls so. -/
theorem not_classifiedBy_conjunction :
    (conjunction 14 0).Sometimes true ∧
      (∀ withSteps, Table.ofFormula (conjunction 14 0) none withSteps = .error .numeralTooLong) ∧
      ¬ ∃ withSteps t, Table.ofFormula (conjunction 14 0) none withSteps = .ok t ∧
        (conjunction 14 0).ClassifiedBy t := by
  refine ⟨sometimes_conjunction 14 0, Table.ofFormula_conjunction none, ?_⟩
  rintro ⟨withSteps, t, ht, -⟩
  rw [Table.ofFormula_conjunction] at ht
  cases ht

end Formula

end TruthTables
