import TruthTables.Proofs.Tabulation

/-!
# Steps as a straight-line computation

The steps of a formula can be worked off from left to right.  Where a sub-formula stands among the
steps, its own steps stand directly before it (`steps_eq_append_of_getElem?`); so the last operand
of a step is the step before it, and the left operand of a connective is as many steps further back
as the right operand has (`PostOrdered`).

In a row of a table with steps every cell is a value of its formula, so a cell is what its
connective makes of the cells of the operands (`Row.Computes`).  The formula itself has no column
among the steps, since the result shows it; it stands behind the last of them.
-/

namespace TruthTables

/-! ### Cells -/

/-- The cell of an operand: a variable has a column of its own, and everything else stands at a
place among the steps. -/
def Row.operandCell (row : Row) (place : Nat) : Formula → Option Bool
  | .var name => row.assignment.get? name
  | .neg _ => row.steps[place]?
  | .binary _ _ _ => row.steps[place]?

/-- The cell is what the formula, standing at place `i` of the steps, makes of the cells of its
operands. -/
def Row.Computes (row : Row) (i : Nat) : Formula → Bool → Prop
  | .var name, cell => row.assignment.get? name = some cell
  | .neg e, cell => ∃ b, row.operandCell (i - 1) e = some b ∧ cell = !b
  | .binary c l r, cell => ∃ a b, row.operandCell (i - 1 - r.steps.length) l = some a ∧
      row.operandCell (i - 1) r = some b ∧ cell = c.apply a b

namespace Formula

def operations : Formula → Nat
  | var _ => 0
  | neg e => e.operations + 1
  | binary _ l r => l.operations + r.operations + 1

def isVar : Formula → Bool
  | var _ => true
  | neg _ => false
  | binary _ _ _ => false

/-- Every operand that is no variable stands where its operation looks for it. -/
structure PostOrdered (steps : List Formula) : Prop where
  operand : ∀ {i e}, steps[i]? = some (neg e) → e.isVar = false →
    0 < i ∧ steps[i - 1]? = some e
  right : ∀ {i c l r}, steps[i]? = some (binary c l r) → r.isVar = false →
    0 < i ∧ steps[i - 1]? = some r
  left : ∀ {i c l r}, steps[i]? = some (binary c l r) → l.isVar = false →
    r.steps.length < i ∧ steps[i - 1 - r.steps.length]? = some l

/-- The table has a column for every variable and for every step but the formula itself, and every
row computes its cells and its result from left to right. -/
structure ComputedBy (e : Formula) (t : Table Formula) : Prop where
  steps_eq : t.steps = e.steps.dropLast
  length_rows : t.rows.length = 2 ^ e.vars.length
  names : ∀ row ∈ t.rows, row.assignment.names = e.vars
  length_cells : ∀ row ∈ t.rows, row.steps.length = t.steps.length
  cell : ∀ row ∈ t.rows, ∀ i s cell, t.steps[i]? = some s → row.steps[i]? = some cell →
    row.Computes i s cell
  result : ∀ row ∈ t.rows, row.Computes (e.steps.length - 1) e row.result

/-! ### Where the steps stand -/

theorem length_steps (e : Formula) : e.steps.length = e.operations := by
  induction e with
  | var name => rfl
  | neg e ih => rw [steps_neg, List.length_append, ih, operations, List.length_singleton]
  | binary c l r ihl ihr =>
    rw [steps_binary, List.length_append, List.length_append, ihl, ihr, operations,
      List.length_singleton, Nat.add_assoc]

theorem steps_eq_concat {e : Formula} (h : e.isVar = false) : e.steps = e.innerSteps ++ [e] := by
  cases e with
  | var name => cases h
  | neg e => rw [innerSteps, steps_neg, List.dropLast_concat]
  | binary c l r =>
    rw [innerSteps, steps_binary, ← List.append_assoc, List.dropLast_concat]

theorem eq_last_of_getElem? {α : Type} {l : List α} {a b : α} {i : Nat} (hi : ¬ i < l.length)
    (h : (l ++ [a])[i]? = some b) : i = l.length ∧ b = a := by
  have hlt : i < (l ++ [a]).length := (List.getElem?_eq_some_iff.mp h).1
  rw [List.length_append, List.length_singleton] at hlt
  have hlast : i = l.length := by omega
  rw [hlast, List.getElem?_concat_length] at h
  exact ⟨hlast, (Option.some.inj h).symm⟩

/-- The own steps of a formula that is its last step are all of its steps. -/
theorem steps_eq_append_self {e : Formula} {l : List Formula} (h : e.steps = l ++ [e]) :
    ∃ before after, e.steps = before ++ (e.steps ++ after) ∧
      l.length + 1 = before.length + e.steps.length := by
  refine ⟨[], [], by rw [List.nil_append, List.append_nil], ?_⟩
  rw [h, List.length_append, List.length_singleton, List.length_nil, Nat.zero_add]

/-- **The steps of a sub-formula stand together**, and the sub-formula is the last of them. -/
theorem steps_eq_append_of_getElem? {e s : Formula} {i : Nat} (h : e.steps[i]? = some s) :
    ∃ before after, e.steps = before ++ (s.steps ++ after) ∧
      i + 1 = before.length + s.steps.length := by
  induction e generalizing i with
  | var name => cases h
  | neg e ih =>
    rw [steps_neg] at h
    by_cases hi : i < e.steps.length
    · rw [List.getElem?_append_left hi] at h
      obtain ⟨before, after, heq, hlength⟩ := ih h
      exact ⟨before, after ++ [neg e], by rw [steps_neg, heq]; simp only [List.append_assoc],
        hlength⟩
    · obtain ⟨rfl, rfl⟩ := eq_last_of_getElem? hi h
      exact steps_eq_append_self (steps_neg e)
  | binary c l r ihl ihr =>
    rw [steps_binary, ← List.append_assoc] at h
    by_cases hi : i < (l.steps ++ r.steps).length
    · rw [List.getElem?_append_left hi] at h
      by_cases hl : i < l.steps.length
      · rw [List.getElem?_append_left hl] at h
        obtain ⟨before, after, heq, hlength⟩ := ihl h
        refine ⟨before, after ++ (r.steps ++ [binary c l r]), ?_, hlength⟩
        rw [steps_binary, heq]
        simp only [List.append_assoc]
      · rw [List.getElem?_append_right (Nat.le_of_not_lt hl)] at h
        obtain ⟨before, after, heq, hlength⟩ := ihr h
        refine ⟨l.steps ++ before, after ++ [binary c l r], ?_, ?_⟩
        · rw [steps_binary, heq]
          simp only [List.append_assoc]
        · rw [List.length_append]
          omega
    · obtain ⟨rfl, rfl⟩ := eq_last_of_getElem? hi h
      exact steps_eq_append_self (by rw [steps_binary, List.append_assoc])

theorem getElem?_of_eq_append {e : Formula} {steps before after : List Formula}
    (he : e.isVar = false) (h : steps = before ++ (e.steps ++ after)) :
    0 < e.steps.length ∧ steps[before.length + e.steps.length - 1]? = some e := by
  have hconcat := steps_eq_concat he
  have hlength : e.steps.length = e.innerSteps.length + 1 := by
    rw [congrArg List.length hconcat, List.length_append, List.length_singleton]
  refine ⟨by omega, ?_⟩
  have hplace : before.length + e.steps.length - 1 = (before ++ e.innerSteps).length := by
    rw [List.length_append]
    omega
  have hsteps : steps = (before ++ e.innerSteps) ++ (e :: after) := by
    rw [h, hconcat]
    simp only [List.append_assoc, List.singleton_append]
  rw [hplace, hsteps, List.getElem?_append_right (Nat.le_refl _), Nat.sub_self,
    List.getElem?_cons_zero]

/-- **The steps stand in post-order.** -/
theorem postOrdered_steps (e : Formula) : PostOrdered e.steps where
  operand := by
    intro i x h hx
    obtain ⟨before, after, heq, hlength⟩ := steps_eq_append_of_getElem? h
    rw [steps_neg, List.append_assoc] at heq
    rw [steps_neg, List.length_append, List.length_singleton] at hlength
    obtain ⟨hpos, hget⟩ := getElem?_of_eq_append hx heq
    have hi : i = before.length + x.steps.length := by omega
    exact ⟨by omega, hi ▸ hget⟩
  right := by
    intro i c l r h hr
    obtain ⟨before, after, heq, hlength⟩ := steps_eq_append_of_getElem? h
    rw [steps_binary, List.append_assoc, List.append_assoc, ← List.append_assoc] at heq
    rw [steps_binary, List.length_append, List.length_append, List.length_singleton] at hlength
    obtain ⟨hpos, hget⟩ := getElem?_of_eq_append hr heq
    have hi : i = (before ++ l.steps).length + r.steps.length := by
      rw [List.length_append]
      omega
    exact ⟨by omega, hi ▸ hget⟩
  left := by
    intro i c l r h hl
    obtain ⟨before, after, heq, hlength⟩ := steps_eq_append_of_getElem? h
    rw [steps_binary, List.append_assoc] at heq
    rw [steps_binary, List.length_append, List.length_append, List.length_singleton] at hlength
    obtain ⟨hpos, hget⟩ := getElem?_of_eq_append hl heq
    have hi : i - 1 - r.steps.length = before.length + l.steps.length - 1 := by omega
    exact ⟨by omega, hi ▸ hget⟩

theorem getLast?_steps {e : Formula} (h : e.isVar = false) : e.steps.getLast? = some e := by
  rw [steps_eq_concat h, List.getLast?_concat]

/-! ### The cells of a row -/

theorem get?_rowUnder {e : Formula} {steps : List Formula} {a : Assignment Bool} {name : String}
    (ha : a.names = e.vars) (hname : name ∈ e.leaves) :
    (e.rowUnder steps a).assignment.get? name = some (a.truth name) := by
  rw [rowUnder]
  exact Assignment.get?_eq_truth (ha ▸ mem_vars.mpr hname)

/-- **The cell of an operand holds its value.**  An operand that is no variable must stand before
the last step, which has no column. -/
theorem operandCell_eq {e o : Formula} {a : Assignment Bool} {place : Nat} (ha : a.names = e.vars)
    (ho : o.leaves ⊆ e.leaves)
    (hplace : o.isVar = false → place + 1 < e.steps.length ∧ e.steps[place]? = some o) :
    (e.rowUnder e.innerSteps a).operandCell place o = some (o.holds a.truth) := by
  have hstep : o.isVar = false → (e.rowUnder e.innerSteps a).steps[place]? =
      some (o.holds a.truth) := by
    intro hvar
    obtain ⟨hlt, hget⟩ := hplace hvar
    have hinner : e.innerSteps[place]? = some o := by
      rw [innerSteps, List.getElem?_dropLast, if_pos (Nat.lt_sub_of_add_lt hlt), hget]
    rw [rowUnder, List.getElem?_map, hinner, Option.map_some]
  cases o with
  | var name => exact get?_rowUnder ha (ho List.mem_cons_self)
  | neg o => exact hstep rfl
  | binary c l r => exact hstep rfl

theorem computes_of_getElem? {e s : Formula} {a : Assignment Bool} {i : Nat}
    (ha : a.names = e.vars) (h : e.steps[i]? = some s) :
    (e.rowUnder e.innerSteps a).Computes i s (s.holds a.truth) := by
  have hlt : i < e.steps.length := (List.getElem?_eq_some_iff.mp h).1
  have hleaves : s.leaves ⊆ e.leaves := leaves_subset_of_mem_steps (List.mem_of_getElem? h)
  have hordered := e.postOrdered_steps
  cases s with
  | var name => exact get?_rowUnder ha (hleaves List.mem_cons_self)
  | neg o =>
    refine ⟨_, operandCell_eq ha hleaves fun ho => ?_, rfl⟩
    obtain ⟨hpos, hget⟩ := hordered.operand h ho
    exact ⟨by omega, hget⟩
  | binary c l r =>
    rw [leaves_binary, List.append_subset] at hleaves
    refine ⟨_, _, operandCell_eq ha hleaves.1 fun hl => ?_,
      operandCell_eq ha hleaves.2 fun hr => ?_, rfl⟩
    · obtain ⟨hpos, hget⟩ := hordered.left h hl
      exact ⟨by omega, hget⟩
    · obtain ⟨hpos, hget⟩ := hordered.right h hr
      exact ⟨by omega, hget⟩

theorem computes_result {e : Formula} {a : Assignment Bool} (ha : a.names = e.vars) :
    (e.rowUnder e.innerSteps a).Computes (e.steps.length - 1) e (e.holds a.truth) := by
  cases hvar : e.isVar with
  | false =>
    refine computes_of_getElem? ha ?_
    rw [← List.getLast?_eq_getElem?, getLast?_steps hvar]
  | true =>
    cases e with
    | var name => exact get?_rowUnder ha List.mem_cons_self
    | neg o => cases hvar
    | binary c l r => cases hvar

theorem computedBy_of_rows_eq {e : Formula} {t : Table Formula} (hsteps : t.steps = e.innerSteps)
    (h : t.rows = e.assignments.map (e.rowUnder e.innerSteps)) : e.ComputedBy t := by
  have hrow : ∀ {P : Row → Prop}, (∀ a : Assignment Bool, a.names = e.vars →
      P (e.rowUnder e.innerSteps a)) → ∀ row ∈ t.rows, P row := by
    intro P hP row hmem
    rw [h, List.mem_map] at hmem
    obtain ⟨a, ha, rfl⟩ := hmem
    exact hP a (mem_assignments_iff.mp ha)
  refine ⟨hsteps, ?_, hrow fun a ha => ha, hrow ?_, hrow ?_, hrow fun a ha => computes_result ha⟩
  · rw [h, List.length_map, length_assignments]
  · intro a _
    rw [hsteps, rowUnder, List.length_map]
  · intro a ha i s cell hs hcell
    rw [hsteps] at hs
    rw [rowUnder, List.getElem?_map, hs, Option.map_some, Option.some_inj] at hcell
    rw [← hcell]
    refine computes_of_getElem? ha ?_
    rw [innerSteps, List.getElem?_dropLast] at hs
    exact (Option.ite_none_right_eq_some.mp hs).2

/-- **A table with steps is a straight-line computation.**  There is a step for every negation and
every connective, in post-order and with the formula itself at the end.  With up to 14284 variables
there is a table, whose rows compute their cells and their results from left to right; with more
there is none. -/
theorem computedBy_ofFormula (e : Formula) :
    e.steps.length = e.operations ∧
      (e.isVar = false → e.steps.getLast? = some e) ∧
      PostOrdered e.steps ∧
      ∀ source : Option String,
        (e.vars.length ≤ 14284 →
          ∃ t, Table.ofFormula e source true = .ok t ∧ e.ComputedBy t) ∧
        (14284 < e.vars.length → Table.ofFormula e source true = .error .numeralTooLong) :=
  ⟨e.length_steps, getLast?_steps, e.postOrdered_steps, fun source =>
    ⟨fun h => ⟨_, Table.ofFormula_eq source true h, computedBy_of_rows_eq rfl rfl⟩,
      Table.ofFormula_eq_error_iff.mpr⟩⟩

/-- A formula with a step that occurs twice and an operand that is a variable. -/
theorem computedBy_ofFormula_repeated :
    (binary .and (neg (var "a")) (binary .or (neg (var "a")) (var "b"))).steps.getLast? =
        some (binary .and (neg (var "a")) (binary .or (neg (var "a")) (var "b"))) ∧
      ∃ t, Table.ofFormula (binary .and (neg (var "a")) (binary .or (neg (var "a")) (var "b")))
          none true = .ok t ∧
        (binary .and (neg (var "a")) (binary .or (neg (var "a")) (var "b"))).ComputedBy t :=
  ⟨(computedBy_ofFormula _).2.1 rfl, ((computedBy_ofFormula _).2.2.2 none).1 (by decide)⟩

/-- A formula whose steps are never computed. -/
theorem not_computedBy_conjunction :
    Table.ofFormula (conjunction 14 0) none true = .error .numeralTooLong ∧
      ¬ ∃ t, Table.ofFormula (conjunction 14 0) none true = .ok t ∧
        (conjunction 14 0).ComputedBy t := by
  refine ⟨Table.ofFormula_conjunction none true, ?_⟩
  rintro ⟨t, ht, -⟩
  rw [Table.ofFormula_conjunction] at ht
  cases ht

end Formula

end TruthTables
