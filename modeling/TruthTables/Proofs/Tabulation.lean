import TruthTables.Proofs.Counting
import TruthTables.Proofs.Values
import TruthTables.Table.Build

/-!
# What is tabulated

Evaluating a formula under every assignment starts with the number of assignments, which must be
one that can be written out.  For `2 ^ n` assignments it can up to `n = 14284`
(`numeral?_two_pow_eq_none_iff`), and with more variables there is no table at all, in the middle of
a remark that nobody may ever read.  With fewer there is one, and `evaluateAll_eq` and
`Table.ofFormula_eq` tell all of it: an assignment is listed at the place that is its number
(`getElem?_assignments_eq_some_iff`), and every cell is a value of `Formula.holds`, which cannot
fail.

A formula with too many variables is `conjunction 14 0`.
-/

namespace TruthTables

theorem mapM_eq_ok {α β ε : Type} {f : α → Except ε β} {g : α → β} :
    ∀ l : List α, (∀ a ∈ l, f a = .ok (g a)) → l.mapM f = .ok (l.map g) := by
  intro l
  induction l with
  | nil => intro _; rfl
  | cons a l ih =>
    intro h
    rw [List.mapM_cons, h a List.mem_cons_self, ih fun b hb => h b (List.mem_cons_of_mem a hb)]
    rfl

theorem two_pow_lt_iff {m n bound : Nat} (hlow : 2 ^ m < bound) (hhigh : bound ≤ 2 ^ (m + 1)) :
    2 ^ n < bound ↔ n ≤ m := by
  constructor
  · intro h
    have hlt : 2 ^ n < 2 ^ (m + 1) := Nat.lt_of_lt_of_le h hhigh
    exact Nat.le_of_lt_succ ((Nat.pow_lt_pow_iff_right Nat.one_lt_two).mp hlt)
  · intro h
    exact Nat.lt_of_le_of_lt (Nat.pow_le_pow_right Nat.two_pos h) hlow

theorem numeral?_two_pow_eq_none_iff {n : Nat} :
    Text.numeral? (2 ^ n) = none ↔ 14284 < n := by
  have hlow : 2 ^ 14284 < Nat.pow 10 Text.maxDigits := by decide +kernel
  have hhigh : Nat.pow 10 Text.maxDigits ≤ 2 ^ (14284 + 1) := by decide +kernel
  rw [Text.numeral?, ite_eq_right_iff, two_pow_lt_iff hlow hhigh, ← Nat.not_le]
  exact forall_congr' fun _ => iff_false_intro (Option.some_ne_none _)

namespace Formula

/-! ### The assignments -/

theorem length_vars_pos (e : Formula) : 0 < e.vars.length := by
  obtain ⟨name, rest, h⟩ := List.exists_cons_of_ne_nil e.leaves_ne_nil
  have hmem : name ∈ e.vars := mem_vars.mpr (by rw [h]; exact List.mem_cons_self)
  exact List.length_pos_of_mem hmem

theorem countNumeral?_eq_none_iff {e : Formula} :
    e.countNumeral? = none ↔ 14284 < e.vars.length := by
  rw [countNumeral?, Cube.count_of_pos e.length_vars_pos, numeral?_two_pow_eq_none_iff]

theorem length_assignments (e : Formula) : e.assignments.length = 2 ^ e.vars.length := by
  rw [assignments, List.length_map, Cube.length_vectors, Cube.count_of_pos e.length_vars_pos]

/-- **Every assignment to the variables is listed once, at the place that is its number.** -/
theorem getElem?_assignments_eq_some_iff {e : Formula} {k : Nat} {a : Assignment Bool} :
    e.assignments[k]? = some a ↔ a.names = e.vars ∧ Cube.number a.values = k := by
  rw [assignments, List.getElem?_map, Option.map_eq_some_iff]
  simp only [Cube.getElem?_vectors_eq_some_iff (c := ⟨e.vars.length⟩) e.length_vars_pos]
  constructor
  · rintro ⟨bits, ⟨hl, rfl⟩, rfl⟩
    exact ⟨Assignment.names_zip hl.ge, by rw [Assignment.values_zip hl.le]⟩
  · rintro ⟨hn, rfl⟩
    exact ⟨a.values, ⟨by rw [Assignment.length_values, hn], rfl⟩, (a.eq_zip _ hn).symm⟩

theorem mem_assignments_iff {e : Formula} {a : Assignment Bool} :
    a ∈ e.assignments ↔ a.names = e.vars := by
  rw [List.mem_iff_getElem?]
  simp only [getElem?_assignments_eq_some_iff, exists_and_left, exists_eq', and_true]

/-! ### The rows -/

/-- **What evaluating under every assignment gives**, if the number of rows can be written out. -/
theorem evaluateAll_eq {e : Formula} (h : e.vars.length ≤ 14284) :
    e.evaluateAll = .ok (e.assignments.map fun a => (a, e.holds a.truth)) := by
  unfold evaluateAll
  cases hc : e.countNumeral? with
  | none => exact absurd (countNumeral?_eq_none_iff.mp hc) (Nat.not_lt.mpr h)
  | some count =>
    refine mapM_eq_ok _ fun a ha => ?_
    rw [eval_assignment (mem_assignments_iff.mp ha) (List.Subset.refl _)]
    rfl

theorem evaluateAll_eq_error_iff {e : Formula} :
    e.evaluateAll = .error .numeralTooLong ↔ 14284 < e.vars.length := by
  constructor
  · intro he
    by_contra h
    rw [evaluateAll_eq (Nat.le_of_not_lt h)] at he
    cases he
  · intro h
    unfold evaluateAll
    rw [countNumeral?_eq_none_iff.mpr h]

def rowUnder (e : Formula) (steps : List Formula) (a : Assignment Bool) : Row :=
  ⟨a, steps.map fun s => s.holds a.truth, e.holds a.truth⟩

/-- The steps that have a column of their own. -/
def shownSteps (e : Formula) (withSteps : Bool) : List Formula :=
  if withSteps then e.innerSteps else []

theorem mem_steps_of_mem_shownSteps {e s : Formula} {withSteps : Bool}
    (h : s ∈ e.shownSteps withSteps) : s ∈ e.steps := by
  cases withSteps with
  | false => cases h
  | true => exact List.dropLast_subset _ h

end Formula

namespace Table

open Formula

theorem rowOf_eq {e : Formula} {steps : List Formula} (hs : steps ⊆ e.steps)
    {a : Assignment Bool} (ha : a ∈ e.assignments) :
    rowOf steps a (e.holds a.truth) = .ok (e.rowUnder steps a) := by
  have hcells : steps.mapM (fun s => s.eval a.get?) = .ok (steps.map fun s => s.holds a.truth) :=
    mapM_eq_ok _ fun s hm =>
      eval_assignment (mem_assignments_iff.mp ha) (leaves_subset_of_mem_steps (hs hm))
  rw [rowOf, hcells]
  rfl

theorem ofFormula_of_rows {e : Formula} {source : Option String} {withSteps : Bool}
    {values : List (Assignment Bool × Bool)} {rows : List Row} (hv : e.evaluateAll = .ok values)
    (hr : values.mapM (fun v => rowOf (e.shownSteps withSteps) v.1 v.2) = .ok rows) :
    ofFormula e source withSteps =
      .ok ⟨source.getD e.text, e, e.vars, e.shownSteps withSteps, rows⟩ := by
  calc ofFormula e source withSteps
      = (do
        let values ← e.evaluateAll
        let rows ← values.mapM fun v => rowOf (e.shownSteps withSteps) v.1 v.2
        return ⟨source.getD e.text, e, e.vars, e.shownSteps withSteps, rows⟩) := rfl
    _ = (do
        let rows ← values.mapM fun v => rowOf (e.shownSteps withSteps) v.1 v.2
        return ⟨source.getD e.text, e, e.vars, e.shownSteps withSteps, rows⟩) := by rw [hv]; rfl
    _ = .ok ⟨source.getD e.text, e, e.vars, e.shownSteps withSteps, rows⟩ := by rw [hr]; rfl

/-- **The truth table of a formula**, if the number of its rows can be written out. -/
theorem ofFormula_eq {e : Formula} (source : Option String) (withSteps : Bool)
    (h : e.vars.length ≤ 14284) :
    ofFormula e source withSteps = .ok ⟨source.getD e.text, e, e.vars, e.shownSteps withSteps,
      e.assignments.map (e.rowUnder (e.shownSteps withSteps))⟩ := by
  refine ofFormula_of_rows (evaluateAll_eq h) ?_
  rw [List.mapM_map]
  exact mapM_eq_ok _ fun a ha => rowOf_eq (fun s => mem_steps_of_mem_shownSteps) ha

theorem ofFormula_eq_error_iff {e : Formula} {source : Option String} {withSteps : Bool} :
    ofFormula e source withSteps = .error .numeralTooLong ↔ 14284 < e.vars.length := by
  constructor
  · intro he
    by_contra h
    rw [ofFormula_eq source withSteps (Nat.le_of_not_lt h)] at he
    cases he
  · intro h
    rw [ofFormula, evaluateAll_eq_error_iff.mpr h]
    rfl

end Table

/-! ### A formula without a table -/

namespace Formula

/-- The conjunction of `2 ^ depth` different variables, numbered from `first` on. -/
def conjunction : (depth first : Nat) → Formula
  | 0, first => var ("x" ++ toString first)
  | depth + 1, first =>
    binary .and (conjunction depth first) (conjunction depth (first + 2 ^ depth))

theorem leaves_conjunction (depth : Nat) : ∀ first, (conjunction depth first).leaves =
    (List.range' first (2 ^ depth)).map fun n => "x" ++ toString n := by
  induction depth with
  | zero => intro first; rfl
  | succ depth ih =>
    intro first
    have hrange := @List.range'_append first (2 ^ depth) (2 ^ depth) 1
    rw [Nat.one_mul, ← Nat.two_mul, Nat.mul_comm, ← Nat.pow_succ] at hrange
    rw [conjunction, leaves_binary, ih, ih, ← List.map_append, hrange]

theorem length_vars_conjunction (depth first : Nat) :
    (conjunction depth first).vars.length = 2 ^ depth := by
  have hinjective : Function.Injective fun n : Nat => "x" ++ toString n := by
    intro m n h
    have hrepr : m.repr.toList = n.repr.toList :=
      congrArg String.toList ((String.append_right_inj "x").mp h)
    rw [Nat.toList_repr, Nat.toList_repr] at hrepr
    rw [← Nat.ofDigitChars_ten_toDigits (n := m), hrepr, Nat.ofDigitChars_ten_toDigits]
  have hnodup : (conjunction depth first).leaves.Nodup := by
    rw [leaves_conjunction]
    exact (List.nodup_range' 1).map hinjective
  have hperm : (conjunction depth first).vars.Perm (conjunction depth first).leaves :=
    (List.perm_ext_iff_of_nodup (nodup_vars _) hnodup).mpr fun name => mem_vars
  rw [hperm.length_eq, leaves_conjunction, List.length_map, List.length_range']

theorem lt_length_vars_conjunction : 14284 < (conjunction 14 0).vars.length := by
  rw [length_vars_conjunction]
  decide

theorem holds_conjunction (depth first : Nat) :
    (conjunction depth first).holds (fun _ => true) = true := by
  induction depth generalizing first with
  | zero => rfl
  | succ depth ih =>
    rw [conjunction, holds, ih first, ih (first + 2 ^ depth)]
    rfl

end Formula

theorem Table.ofFormula_conjunction (source : Option String) (withSteps : Bool) :
    Table.ofFormula (.conjunction 14 0) source withSteps = .error .numeralTooLong :=
  ofFormula_eq_error_iff.mpr Formula.lt_length_vars_conjunction

end TruthTables
