import TruthTables.Proofs.Blanks
import TruthTables.Proofs.Requests
import TruthTables.Proofs.StepColumns

/-!
# Headers and columns

The headers of a table come from three places: names of variables, texts of steps, and the source as
it was given, with its own spacing and parentheses.  All of them are texts that can be read, and
what is read from a header is the formula whose values the column shows (`map_parse_headers`).  The
cells are the values of these formulas (`cells_rowUnder`), so a header determines its column.

That headers of different kinds are different comes from the formulas: a step is no variable, and a
step that has a column is smaller than the whole formula (`size_lt_of_mem_innerSteps`).
-/

namespace TruthTables

theorem Assignment.map_truth_names (a : Assignment Bool) : a.names.map a.truth = a.values := by
  calc a.names.map a.truth
      = (a.names.map a.get?).map fun o => o.getD false := by rw [List.map_map]; rfl
    _ = (a.values.map some).map fun o => o.getD false := by rw [a.map_get?_names]
    _ = a.values := by rw [List.map_map]; exact List.map_id _

namespace Formula

variable {e s : Formula} {withSteps : Bool}

/-! ### The columns -/

/-- The formulas whose values the cells of a row show, from left to right. -/
def columns (e : Formula) (withSteps : Bool) : List Formula :=
  e.vars.map var ++ e.shownSteps withSteps ++ [e]

/-- **A cell is the value of its column.** -/
theorem cells_rowUnder {a : Assignment Bool} (ha : a.names = e.vars) :
    (e.rowUnder (e.shownSteps withSteps) a).cells =
      (e.columns withSteps).map fun c => c.holds a.truth := by
  have hvalues : a.values = (e.vars.map var).map fun c => c.holds a.truth := by
    rw [← a.map_truth_names, ha, List.map_map]
    rfl
  rw [columns, List.map_append, List.map_append, ← hvalues]
  rfl

theorem wellNamed_of_leaves_subset (h : e.WellNamed) (hs : s.leaves ⊆ e.leaves) : s.WellNamed :=
  fun name hn => h name (hs hn)

theorem wellNamed_of_mem_steps (h : e.WellNamed) (hs : s ∈ e.steps) : s.WellNamed :=
  wellNamed_of_leaves_subset h (leaves_subset_of_mem_steps hs)

theorem parse_text_of_mem_steps (h : e.WellNamed) (hs : s ∈ e.steps) : parse s.text = .ok s :=
  parse_text (wellNamed_of_mem_steps h hs)

theorem text_var (name : String) : (var name).text = name := by
  rw [text, chars_var, String.ofList_toList]

theorem wellNamed_of_mem_vars (h : e.WellNamed) {name : String} (hn : name ∈ e.vars) :
    (var name).WellNamed := by
  refine wellNamed_of_leaves_subset h ?_
  rw [leaves_var]
  exact List.cons_subset.mpr ⟨mem_vars.mp hn, List.nil_subset _⟩

theorem parse_name_of_mem_vars (h : e.WellNamed) {name : String} (hn : name ∈ e.vars) :
    parse name = .ok (var name) := by
  have hparse := parse_text (wellNamed_of_mem_vars h hn)
  rwa [text_var] at hparse

theorem eq_of_parse {f : Formula} {t u : String} (h : t = u) (ht : parse t = .ok e)
    (hu : parse u = .ok f) : e = f := by
  rw [h, hu] at ht
  exact (Except.ok.inj ht).symm

/-! ### Steps among variables and the whole formula -/

theorem isVar_of_mem_steps (h : s ∈ e.steps) : s.isVar = false := by
  induction e with
  | var name => cases h
  | neg e ih =>
    rw [steps_neg, List.mem_append, List.mem_singleton] at h
    rcases h with h | rfl
    · exact ih h
    · rfl
  | binary c l r ihl ihr =>
    rw [steps_binary, List.mem_append, List.mem_append, List.mem_singleton] at h
    rcases h with h | h | rfl
    · exact ihl h
    · exact ihr h
    · rfl

/-- The number of variables, negations and connectives of a formula. -/
def size : Formula → Nat
  | var _ => 1
  | neg e => e.size + 1
  | binary _ l r => l.size + r.size + 1

theorem size_le_of_mem_steps (h : s ∈ e.steps) : s.size ≤ e.size := by
  induction e with
  | var name => cases h
  | neg e ih =>
    rw [steps_neg, List.mem_append, List.mem_singleton] at h
    rcases h with h | rfl
    · exact Nat.le_succ_of_le (ih h)
    · exact Nat.le_refl _
  | binary c l r ihl ihr =>
    rw [steps_binary, List.mem_append, List.mem_append, List.mem_singleton] at h
    rcases h with h | h | rfl
    · have hle := ihl h
      rw [size]
      omega
    · have hle := ihr h
      rw [size]
      omega
    · exact Nat.le_refl _

theorem size_lt_of_mem_innerSteps (h : s ∈ e.innerSteps) : s.size < e.size := by
  cases e with
  | var name => cases h
  | neg e =>
    rw [innerSteps, steps_neg, List.dropLast_concat] at h
    exact Nat.lt_succ_of_le (size_le_of_mem_steps h)
  | binary c l r =>
    rw [innerSteps, steps_binary, ← List.append_assoc, List.dropLast_concat, List.mem_append] at h
    rw [size]
    rcases h with h | h
    · have hle := size_le_of_mem_steps h
      omega
    · have hle := size_le_of_mem_steps h
      omega

theorem ne_of_mem_shownSteps (h : s ∈ e.shownSteps withSteps) : s ≠ e := by
  cases withSteps with
  | false => cases h
  | true =>
    rintro rfl
    exact Nat.lt_irrefl _ (size_lt_of_mem_innerSteps h)

end Formula

namespace Table

open Formula

variable {s : String} {withSteps : Bool} {limit : Option Int} {t : Table Formula}

/-- **What is read from the headers are the columns.** -/
theorem map_parse_headers {e : Formula} {rows : List Row} (he : parse s = .ok e) :
    (headers ⟨Text.strip s, e, e.vars, e.shownSteps withSteps, rows⟩).map parse =
      (e.columns withSteps).map .ok := by
  have hnamed := wellNamed_of_parse he
  have hvars : e.vars.map parse = (e.vars.map var).map .ok := by
    rw [List.map_map]
    exact List.map_congr_left fun name hn => parse_name_of_mem_vars hnamed hn
  have hsteps : ((e.shownSteps withSteps).map Formula.text).map parse =
      (e.shownSteps withSteps).map .ok := by
    rw [List.map_map]
    exact List.map_congr_left fun s hs =>
      parse_text_of_mem_steps hnamed (mem_steps_of_mem_shownSteps hs)
  rw [headers, sheet, Sheet.headers, List.map_append, List.map_append, hvars, hsteps, columns,
    List.map_append, List.map_append, List.map_singleton, List.map_singleton, parse_strip he]

theorem parse_of_getElem?_headers {e : Formula} {rows : List Row} {k : Nat} {header : String}
    (he : parse s = .ok e)
    (hk : (headers ⟨Text.strip s, e, e.vars, e.shownSteps withSteps, rows⟩)[k]? = some header) :
    ∃ c, (e.columns withSteps)[k]? = some c ∧ parse header = .ok c := by
  have hread : ((headers ⟨Text.strip s, e, e.vars, e.shownSteps withSteps, rows⟩).map parse)[k]? =
      ((e.columns withSteps).map .ok)[k]? := congrArg (·[k]?) (map_parse_headers he)
  rw [List.getElem?_map, List.getElem?_map, hk, Option.map_some] at hread
  obtain ⟨c, hc, hparse⟩ := Option.map_eq_some_iff.mp hread.symm
  exact ⟨c, hc, hparse.symm⟩

/-- The headers of the table of a text tell its columns apart. -/
structure Headed (t : Table Formula) (s : String) : Prop where
  source_eq : t.source = Text.strip s
  /-- Columns with the same header have the same cell in every row. -/
  cell_eq : ∀ row ∈ t.rows, ∀ (i j : Nat) (header : String),
    t.headers[i]? = some header → t.headers[j]? = some header →
      ∃ b, row.cells[i]? = some b ∧ row.cells[j]? = some b
  step_eq : ∀ a ∈ t.steps, ∀ b ∈ t.steps, a.text = b.text → a = b
  step_not_var : ∀ a ∈ t.steps, a.text ∉ t.vars
  step_ne_source : ∀ a ∈ t.steps, a.text ≠ t.source
  /-- The source is the name of a variable only when it is no more than this variable. -/
  source_eq_var : ∀ name ∈ t.vars, t.source = name → parse s = .ok (var name)

/-- **A header determines its column.**  In every table that is built from a text, with or without
steps, columns with the same header have the same cells.  Steps with the same text are the same
formula; no step is headed like a variable or like the result; and the result is headed like a
variable only when the text is that variable. -/
theorem headed_of_ofText (h : ofText s withSteps limit = .ok t) : Headed t s := by
  obtain ⟨e, he, rfl⟩ := exists_of_ofText_eq_ok h
  have hnamed := wellNamed_of_parse he
  have hstep : ∀ a ∈ e.shownSteps withSteps, parse a.text = .ok a := fun a ha =>
    parse_text_of_mem_steps hnamed (mem_steps_of_mem_shownSteps ha)
  refine ⟨rfl, ?_, ?_, ?_, ?_, ?_⟩
  · intro row hrow i j header hi hj
    obtain ⟨a, ha, rfl⟩ := List.mem_map.mp hrow
    -- both columns are what is read from the header
    obtain ⟨c, hci, hparse⟩ := parse_of_getElem?_headers he hi
    obtain ⟨c', hcj, hparse'⟩ := parse_of_getElem?_headers he hj
    obtain rfl : c = c' := eq_of_parse rfl hparse hparse'
    rw [cells_rowUnder (mem_assignments_iff.mp ha), List.getElem?_map, List.getElem?_map, hci, hcj]
    exact ⟨_, rfl, rfl⟩
  · intro a ha b hb htext
    exact eq_of_parse htext (hstep a ha) (hstep b hb)
  · intro a ha hmem
    have hvar := isVar_of_mem_steps (mem_steps_of_mem_shownSteps ha)
    rw [eq_of_parse rfl (hstep a ha) (parse_name_of_mem_vars hnamed hmem)] at hvar
    cases hvar
  · intro a ha htext
    exact ne_of_mem_shownSteps ha (eq_of_parse htext (hstep a ha) (parse_strip he))
  · intro name hn hsource
    rw [he, eq_of_parse hsource (parse_strip he) (parse_name_of_mem_vars hnamed hn)]

/-- Two steps have one header, and the text around them has spacing of its own. -/
theorem headed_of_ofText_repeated :
    ∃ t, ofText " (a & b) | (a&b)\t" true none = .ok t ∧
      t.headers = ["a", "b", "(a&b)", "(a&b)", "(a & b) | (a&b)"] ∧
      Headed t " (a & b) | (a&b)\t" := by
  have hheaders : (ofText " (a & b) | (a&b)\t" true none).map headers =
      .ok ["a", "b", "(a&b)", "(a&b)", "(a & b) | (a&b)"] := by decide +kernel
  cases h : ofText " (a & b) | (a&b)\t" true none with
  | error error =>
    rw [h] at hheaders
    cases hheaders
  | ok t =>
    rw [h] at hheaders
    exact ⟨t, rfl, Except.ok.inj hheaders, headed_of_ofText h⟩

end Table

end TruthTables
