import Mathlib.Data.Set.Function
import TruthTables.Proofs.Columns
import TruthTables.Proofs.Verdicts

/-!
# Other names

The names of the variables are of no account: a formula with its names replaced has the table of the
formula, with the names replaced.  It is enough that no two variables of the formula get one name.
This is needed in one place only, where the variables are listed (`vars_rename`), since there a leaf
is left out if its name was seen before (`eraseDups_map`).  From then on a row belongs to the truth
values of the variables in order, and these know nothing of names (`truth_of_values_eq`).

The number of variables stays, so both formulas have a table, or neither has.
-/

namespace TruthTables

/-! ### Lists without repetition -/

theorem eraseDups_map {ρ : String → String} :
    ∀ l : List String, Set.InjOn ρ {name | name ∈ l} →
      (l.map ρ).eraseDups = l.eraseDups.map ρ := by
  intro l
  induction hn : l.length using Nat.strongRecOn generalizing l with
  | ind n ih =>
    intro hinj
    cases l with
    | nil => rfl
    | cons a rest =>
      -- what equals the new name of `a` had the name `a` before
      have hkeep : ∀ b ∈ rest, (!(ρ b == ρ a)) = !(b == a) := by
        intro b hb
        have hiff : ρ b = ρ a ↔ b = a :=
          hinj.eq_iff (List.mem_cons_of_mem a hb) List.mem_cons_self
        rw [Bool.not_inj_iff, Bool.eq_iff_iff, beq_iff_eq, beq_iff_eq, hiff]
      have hfilter : (rest.map ρ).filter (fun b => !b == ρ a) =
          (rest.filter fun b => !b == a).map ρ := by
        rw [List.filter_map]
        exact congrArg (List.map ρ) (List.filter_congr hkeep)
      have hlt : (rest.filter fun b => !b == a).length < n :=
        hn ▸ Nat.lt_succ_of_le (List.length_filter_le _ _)
      have hrest : Set.InjOn ρ {name | name ∈ rest.filter fun b => !b == a} :=
        hinj.mono fun b hb => List.mem_cons_of_mem a (List.mem_of_mem_filter hb)
      rw [List.map_cons, List.eraseDups_cons, List.eraseDups_cons, hfilter, ih _ hlt _ rfl hrest,
        List.map_cons]

namespace Formula

variable {ρ : String → String} {e : Formula}

/-! ### A formula under other names -/

def rename (ρ : String → String) : Formula → Formula
  | var name => var (ρ name)
  | neg e => neg (e.rename ρ)
  | binary c l r => binary c (l.rename ρ) (r.rename ρ)

theorem leaves_rename (e : Formula) : (e.rename ρ).leaves = e.leaves.map ρ := by
  induction e with
  | var name => rfl
  | neg e ih => exact ih
  | binary c l r ihl ihr => rw [rename, leaves_binary, leaves_binary, ihl, ihr, List.map_append]

/-- **The variables are renamed in order**, if no two of them get one name. -/
theorem vars_rename (h : Set.InjOn ρ {name | name ∈ e.vars}) :
    (e.rename ρ).vars = e.vars.map ρ := by
  rw [vars, leaves_rename]
  exact eraseDups_map _ (h.mono fun name hn => mem_vars.mpr hn)

theorem length_vars_rename (h : Set.InjOn ρ {name | name ∈ e.vars}) :
    (e.rename ρ).vars.length = e.vars.length := by
  rw [vars_rename h, List.length_map]

theorem steps_rename (e : Formula) : (e.rename ρ).steps = e.steps.map (rename ρ) := by
  induction e with
  | var name => rfl
  | neg e ih => rw [rename, steps_neg, steps_neg, ih, List.map_append, List.map_singleton, rename]
  | binary c l r ihl ihr =>
    rw [rename, steps_binary, steps_binary, ihl, ihr, List.map_append, List.map_append,
      List.map_singleton, rename]

theorem shownSteps_rename (e : Formula) (withSteps : Bool) :
    (e.rename ρ).shownSteps withSteps = (e.shownSteps withSteps).map (rename ρ) := by
  cases withSteps with
  | false => rfl
  | true =>
    show (e.rename ρ).innerSteps = e.innerSteps.map (rename ρ)
    rw [innerSteps, innerSteps, steps_rename, List.map_dropLast]

/-! ### Values under other names -/

theorem holds_congr {truth truth' : String → Bool}
    (h : ∀ name ∈ e.leaves, truth name = truth' name) : e.holds truth = e.holds truth' := by
  induction e with
  | var name => exact h name List.mem_cons_self
  | neg e ih => rw [holds, holds, ih h]
  | binary c l r ihl ihr =>
    rw [leaves_binary, List.forall_mem_append] at h
    rw [holds, holds, ihl h.1, ihr h.2]

theorem holds_rename (truth : String → Bool) (e : Formula) :
    (e.rename ρ).holds truth = e.holds fun name => truth (ρ name) := by
  induction e with
  | var name => rfl
  | neg e ih => rw [rename, holds, holds, ih]
  | binary c l r ihl ihr => rw [rename, holds, holds, ihl, ihr]

variable {a a' : Assignment Bool}

theorem truth_of_values_eq (ha : a.names = e.vars) (ha' : a'.names = e.vars.map ρ)
    (h : a'.values = a.values) : ∀ name ∈ e.vars, a'.truth (ρ name) = a.truth name := by
  have hmap : e.vars.map (fun name => a'.truth (ρ name)) = e.vars.map a.truth := by
    calc e.vars.map (fun name => a'.truth (ρ name))
        = (e.vars.map ρ).map a'.truth := by rw [List.map_map]; rfl
      _ = a'.values := by rw [← ha', a'.map_truth_names]
      _ = e.vars.map a.truth := by rw [h, ← a.map_truth_names, ha]
  exact List.map_inj_left.mp hmap

theorem holds_rename_of_values_eq {s : Formula} (hs : s.leaves ⊆ e.leaves)
    (ha : a.names = e.vars) (ha' : a'.names = e.vars.map ρ) (h : a'.values = a.values) :
    (s.rename ρ).holds a'.truth = s.holds a.truth := by
  rw [holds_rename]
  exact holds_congr fun name hn => truth_of_values_eq ha ha' h name (mem_vars.mpr (hs hn))

end Formula

/-! ### Rows and tables under other names -/

/-- The second row is the first one under other names. -/
structure Row.RenamedTo (ρ : String → String) (r r' : Row) : Prop where
  names_eq : r'.assignment.names = r.assignment.names.map ρ
  values_eq : r'.assignment.values = r.assignment.values
  steps_eq : r'.steps = r.steps
  result_eq : r'.result = r.result

namespace Table

/-- The second table is the first one under other names: its rows are, one by one. -/
structure RenamedTo (ρ : String → String) (t t' : Table Formula) : Prop where
  subject_eq : t'.subject = t.subject.rename ρ
  vars_eq : t'.vars = t.vars.map ρ
  steps_eq : t'.steps = t.steps.map (Formula.rename ρ)
  length_rows : t'.rows.length = t.rows.length
  row : ∀ {k : Nat} {r r' : Row}, t.rows[k]? = some r → t'.rows[k]? = some r' → r.RenamedTo ρ r'

/-- Two tables say the same about their formulas. -/
structure SameFlags (t t' : Table Formula) : Prop where
  isEmpty_eq : t'.isEmpty = t.isEmpty
  isTautology_eq : t'.isTautology = t.isTautology
  isContradiction_eq : t'.isContradiction = t.isContradiction
  isSatisfiable_eq : t'.isSatisfiable = t.isSatisfiable
  verdict_eq : t'.verdict = t.verdict

variable {ρ : String → String} {t t' : Table Formula}

theorem RenamedTo.map_result (h : t.RenamedTo ρ t') :
    t'.rows.map (·.result) = t.rows.map (·.result) := by
  refine List.ext_getElem (by rw [List.length_map, List.length_map, h.length_rows]) ?_
  intro k hk' hk
  rw [List.length_map] at hk' hk
  rw [List.getElem_map, List.getElem_map]
  exact (h.row (List.getElem?_eq_getElem hk) (List.getElem?_eq_getElem hk')).result_eq

/-- **What a table says is said by its results**, without the rest of the rows. -/
theorem sameFlags_of_map_result_eq (h : t'.rows.map (·.result) = t.rows.map (·.result)) :
    t.SameFlags t' := by
  have hempty : t'.isEmpty = t.isEmpty := by
    rw [isEmpty, isEmpty, ← List.isEmpty_map (f := fun r : Row => r.result), h, List.isEmpty_map]
  have hall : t'.rows.all (·.result) = t.rows.all (·.result) := by
    calc t'.rows.all (·.result)
        = (t'.rows.map (·.result)).all id := by rw [List.all_map]; rfl
      _ = t.rows.all (·.result) := by rw [h, List.all_map]; rfl
  have hany : t'.rows.any (·.result) = t.rows.any (·.result) := by
    calc t'.rows.any (·.result)
        = (t'.rows.map (·.result)).any id := by rw [List.any_map]; rfl
      _ = t.rows.any (·.result) := by rw [h, List.any_map]; rfl
  have htautology : t'.isTautology = t.isTautology := by
    rw [isTautology, isTautology, hempty, hall]
  have hcontradiction : t'.isContradiction = t.isContradiction := by
    rw [isContradiction, isContradiction, hempty, hany]
  refine ⟨hempty, htautology, hcontradiction, hany, ?_⟩
  rw [verdict, verdict, htautology, hcontradiction]

open Formula

variable {e : Formula}

theorem renamedTo_of_getElem? (h : Set.InjOn ρ {name | name ∈ e.vars}) (withSteps : Bool) {k : Nat}
    {a a' : Assignment Bool} (ha : e.assignments[k]? = some a)
    (ha' : (e.rename ρ).assignments[k]? = some a') :
    (e.rowUnder (e.shownSteps withSteps) a).RenamedTo ρ
      ((e.rename ρ).rowUnder ((e.rename ρ).shownSteps withSteps) a') := by
  obtain ⟨hnames, hnumber⟩ := getElem?_assignments_eq_some_iff.mp ha
  obtain ⟨hnames', hnumber'⟩ := getElem?_assignments_eq_some_iff.mp ha'
  rw [vars_rename h] at hnames'
  have hlength : a'.values.length = a.values.length := by
    rw [a'.length_values, a.length_values, hnames', hnames, List.length_map]
  have hvalues : a'.values = a.values :=
    Cube.eq_of_number_eq hlength (hnumber'.trans hnumber.symm)
  refine ⟨?_, hvalues, ?_, ?_⟩
  · show a'.names = a.names.map ρ
    rw [hnames', hnames]
  · rw [rowUnder, rowUnder, shownSteps_rename, List.map_map]
    refine List.map_congr_left fun s hs => ?_
    have hleaves := leaves_subset_of_mem_steps (mem_steps_of_mem_shownSteps hs)
    exact holds_rename_of_values_eq hleaves hnames hnames' hvalues
  · exact holds_rename_of_values_eq (List.Subset.refl _) hnames hnames' hvalues

theorem renamedTo_of_rows_eq (h : Set.InjOn ρ {name | name ∈ e.vars}) (withSteps : Bool)
    (source source' : String) :
    RenamedTo ρ
      ⟨source, e, e.vars, e.shownSteps withSteps,
        e.assignments.map (e.rowUnder (e.shownSteps withSteps))⟩
      ⟨source', e.rename ρ, (e.rename ρ).vars, (e.rename ρ).shownSteps withSteps,
        (e.rename ρ).assignments.map
          ((e.rename ρ).rowUnder ((e.rename ρ).shownSteps withSteps))⟩ where
  subject_eq := rfl
  vars_eq := vars_rename h
  steps_eq := shownSteps_rename e withSteps
  length_rows := by
    rw [List.length_map, List.length_map, length_assignments, length_assignments,
      length_vars_rename h]
  row := by
    intro k r r' hr hr'
    rw [List.getElem?_map, Option.map_eq_some_iff] at hr hr'
    obtain ⟨a, ha, rfl⟩ := hr
    obtain ⟨a', ha', rfl⟩ := hr'
    exact renamedTo_of_getElem? h withSteps ha ha'

/-- **Truth tables do not depend on names.**  If no two variables of a formula get one name, the
variables of the renamed formula are the new names in the same order.  With up to 14284 variables
both formulas have a table, with or without steps and under any source: row by row the values, the
steps and the result are the same, names and steps are renamed, and the tables say the same.  With
more variables neither has a table. -/
theorem renamed_ofFormula (ρ : String → String) (e : Formula)
    (h : Set.InjOn ρ {name | name ∈ e.vars}) :
    (e.rename ρ).vars = e.vars.map ρ ∧
      ∀ (source source' : Option String) (withSteps : Bool),
        (e.vars.length ≤ 14284 → ∃ t t', ofFormula e source withSteps = .ok t ∧
          ofFormula (e.rename ρ) source' withSteps = .ok t' ∧ t.RenamedTo ρ t' ∧
          t.SameFlags t') ∧
        (14284 < e.vars.length → ofFormula e source withSteps = .error .numeralTooLong ∧
          ofFormula (e.rename ρ) source' withSteps = .error .numeralTooLong) := by
  have hlength := length_vars_rename h
  refine ⟨vars_rename h, fun source source' withSteps => ⟨fun hcount => ?_, fun hcount => ?_⟩⟩
  · have hrenamed := renamedTo_of_rows_eq h withSteps (source.getD e.text)
      (source'.getD (e.rename ρ).text)
    exact ⟨_, _, ofFormula_eq source withSteps hcount,
      ofFormula_eq source' withSteps (hlength.trans_le hcount), hrenamed,
      sameFlags_of_map_result_eq hrenamed.map_result⟩
  · exact ⟨ofFormula_eq_error_iff.mpr hcount,
      ofFormula_eq_error_iff.mpr (hcount.trans_eq hlength.symm)⟩

/-- Names that are replaced by texts which are no names, and all names but one by the same. -/
theorem renamed_ofFormula_repeated :
    let e := binary .or (binary .and (var "p") (neg (var "q"))) (neg (var "p"))
    let ρ : String → String := fun name => if name = "p" then "not p" else ""
    Set.InjOn ρ {name | name ∈ e.vars} ∧ (e.rename ρ).vars = ["not p", ""] ∧
      ∃ t t', ofFormula e none true = .ok t ∧ ofFormula (e.rename ρ) none true = .ok t' ∧
        t.RenamedTo ρ t' ∧ t.SameFlags t' := by
  intro e ρ
  have hinj : Set.InjOn ρ {name | name ∈ e.vars} := by
    have hdecided : ∀ a ∈ e.vars, ∀ b ∈ e.vars, ρ a = ρ b → a = b := by decide
    exact fun a ha b hb => hdecided a ha b hb
  obtain ⟨hvars, htables⟩ := renamed_ofFormula ρ e hinj
  exact ⟨hinj, hvars, (htables none none true).1 (by decide)⟩

/-- A formula that has no table under any names. -/
theorem not_renamed_conjunction :
    let ρ : String → String := fun name => "y" ++ name
    Set.InjOn ρ {name | name ∈ (conjunction 14 0).vars} ∧
      ofFormula ((conjunction 14 0).rename ρ) none true = .error .numeralTooLong ∧
      ¬ ∃ t t', ofFormula (conjunction 14 0) none true = .ok t ∧
        ofFormula ((conjunction 14 0).rename ρ) none true = .ok t' ∧ t.RenamedTo ρ t' := by
  intro ρ
  have hinj : Set.InjOn ρ {name | name ∈ (conjunction 14 0).vars} :=
    fun a _ b _ h => (String.append_right_inj "y").mp h
  have hlt : 14284 < ((conjunction 14 0).rename ρ).vars.length :=
    lt_length_vars_conjunction.trans_eq (length_vars_rename hinj).symm
  refine ⟨hinj, ofFormula_eq_error_iff.mpr hlt, ?_⟩
  rintro ⟨t, t', ht, -⟩
  rw [ofFormula_conjunction] at ht
  cases ht

end Table

end TruthTables
