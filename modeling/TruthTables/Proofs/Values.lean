import TruthTables.Formula.Evaluation

/-!
# The value of a formula

`Formula.eval` stops at the first variable that has no value.  `Formula.holds` gives the value under
a truth value for every name, and so cannot fail; `eval_eq_ok` says that the two agree as soon as
the variables of the formula have values, so the value depends on nothing but these.

Values come from mappings of names to values of any kind, of which each counts as true or false
(`Formula.evalUnder`), and a mapping may know more names than the formula has (`Formula.Covers`).
-/

namespace TruthTables

namespace Assignment

/-! ### Looking up names -/

variable {α : Type}

theorem map_get?_names (a : Assignment α) : a.names.map a.get? = a.values.map some := by
  obtain ⟨entries, hnodup⟩ := a
  show (entries.map Prod.fst).map (fun n => entries.lookup n) = (entries.map Prod.snd).map some
  induction entries with
  | nil => rfl
  | cons entry rest ih =>
    obtain ⟨n, v⟩ := entry
    rw [List.map_cons, List.nodup_cons] at hnodup
    simp only [List.map_cons, List.lookup_cons_self]
    rw [← ih hnodup.2]
    refine congrArg (some v :: ·) (List.map_congr_left fun m hm => ?_)
    have hne : (m == n) = false := beq_eq_false_iff_ne.mpr fun he => hnodup.1 (he ▸ hm)
    rw [List.lookup_cons, hne]

theorem length_values (a : Assignment α) : a.values.length = a.names.length := by
  rw [values, names, List.length_map, List.length_map]

theorem eq_zip (a : Assignment α) {names : List String} (hn : names.Nodup) (h : a.names = names) :
    a = zip names a.values hn := by
  subst h
  refine Assignment.ext ?_
  have hunzip := List.zip_unzip a.entries
  rw [List.unzip_eq_map] at hunzip
  exact hunzip.symm

/-- The truth value of a name; a name without value counts as false. -/
def truth (a : Assignment Bool) (name : String) : Bool := (a.get? name).getD false

theorem get?_eq_truth {a : Assignment Bool} {name : String} (h : name ∈ a.names) :
    a.get? name = some (a.truth name) := by
  have hmem : a.get? name ∈ a.values.map some := by
    rw [← map_get?_names]
    exact List.mem_map_of_mem h
  obtain ⟨b, -, hb⟩ := List.mem_map.mp hmem
  rw [truth, ← hb, Option.getD_some]

end Assignment

namespace Formula

def holds (truth : String → Bool) : Formula → Bool
  | var name => truth name
  | neg e => !e.holds truth
  | binary c l r => c.apply (l.holds truth) (r.holds truth)

/-- **A formula whose leaves have values has a value.** -/
theorem eval_eq_ok {valuation : String → Option Bool} {truth : String → Bool} {e : Formula}
    (h : ∀ name ∈ e.leaves, valuation name = some (truth name)) :
    e.eval valuation = .ok (e.holds truth) := by
  induction e with
  | var name => rw [eval, h name (by rw [leaves_var]; exact List.mem_singleton_self name)]; rfl
  | neg e ih => rw [eval, ih h]; rfl
  | binary c l r ihl ihr =>
    rw [leaves_binary] at h
    rw [eval, ihl fun name hn => h name (List.mem_append_left _ hn),
      ihr fun name hn => h name (List.mem_append_right _ hn)]
    rfl

/-! ### Mappings -/

section Mappings

variable {α : Type} (truth : α → Bool) (mapping : String → Option α)

/-- The mapping has a value for every variable of the formula, and maybe for other names too. -/
def Covers (e : Formula) : Prop := ∀ name ∈ e.vars, (mapping name).isSome

def evalUnder (e : Formula) : Except EvaluationError Bool :=
  e.eval fun name => (mapping name).map truth

variable {truth mapping}

theorem map_truth_of_isSome {name : String} (h : (mapping name).isSome) :
    (mapping name).map truth = some ((mapping name).any truth) := by
  obtain ⟨v, hv⟩ := Option.isSome_iff_exists.mp h
  rw [hv]
  rfl

theorem evalUnder_eq_ok {e : Formula} (h : Covers mapping e) :
    e.evalUnder truth mapping = .ok (e.holds fun name => (mapping name).any truth) :=
  eval_eq_ok fun name hn => map_truth_of_isSome (h name (mem_vars.mpr hn))

end Mappings

theorem covers_of_names_eq {a : Assignment Bool} {e : Formula} (h : a.names = e.vars) :
    Covers a.get? e := by
  intro name hn
  rw [Assignment.get?_eq_truth (h ▸ hn)]
  rfl

theorem eval_assignment {a : Assignment Bool} {e s : Formula} (h : a.names = e.vars)
    (hs : s.leaves ⊆ e.leaves) : s.eval a.get? = .ok (s.holds a.truth) := by
  refine eval_eq_ok fun name hn => Assignment.get?_eq_truth ?_
  rw [h]
  exact mem_vars.mpr (hs hn)

/-! ### Steps -/

theorem leaves_subset_of_mem_steps {e s : Formula} (h : s ∈ e.steps) : s.leaves ⊆ e.leaves := by
  induction e with
  | var name => cases h
  | neg e ih =>
    rw [steps_neg, List.mem_append, List.mem_singleton] at h
    rcases h with h | rfl
    · exact ih h
    · exact List.Subset.refl _
  | binary c l r ihl ihr =>
    rw [steps_binary, List.mem_append, List.mem_append, List.mem_singleton] at h
    rcases h with h | h | rfl
    · rw [leaves_binary]
      exact List.subset_append_of_subset_left _ (ihl h)
    · rw [leaves_binary]
      exact List.subset_append_of_subset_right _ (ihr h)
    · exact List.Subset.refl _

end Formula

end TruthTables
