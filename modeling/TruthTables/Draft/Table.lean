import TruthTables.Draft.Basic
import TruthTables.Table.Build
import TruthTables.Table.Format

/-!
# Tables under construction

A table whose steps are drafts is put together by hand: rows are added and taken away, steps are
added, and the source is replaced, and nothing is checked or evaluated.  It is shown as its sheet,
which exists when every step has a text.  A table without rows is shown as nothing in two of the
formats, so there its steps need no text.
-/

namespace TruthTables

/-- Why a table under construction does not answer. -/
inductive DraftTableError where
  | draft (e : DraftError)
  | render (e : RenderError)
  | noRow
deriving DecidableEq, Repr

namespace DraftTableError

def message : DraftTableError → String
  | draft e => e.message
  | render e => e.message
  | noRow => "pop from empty list"

end DraftTableError

namespace Draft

/-- The truth table of a draft without open places. -/
def table (d : Draft) (source : Option String) (withSteps : Bool) :
    Except DraftError (Table Formula) := do
  (Table.ofFormula (← d.complete) source withSteps).mapError .evaluation

/-- The truth table of a draft without open places, shown in the format of a given name. -/
def render (d : Draft) (source : Option String) (withSteps : Bool) (format : String)
    (color : Bool) : Except DraftTableError String := do
  let t ← (d.table source withSteps).mapError .draft
  let f ← (Format.ofName format).mapError .render
  (t.sheet.render f color).mapError .render

end Draft

namespace Table

def addRow {σ : Type} (t : Table σ) (r : Row) : Table σ := { t with rows := t.rows ++ [r] }

/-- The table without its last row. -/
def dropRow {σ : Type} (t : Table σ) : Except DraftTableError (Table σ) :=
  if t.rows.isEmpty then .error .noRow else .ok { t with rows := t.rows.dropLast }

def setSource {σ : Type} (t : Table σ) (source : String) : Table σ := { t with source := source }

def addStep {σ : Type} (t : Table σ) (step : σ) : Table σ := { t with steps := t.steps ++ [step] }

/-- The sheet of a table whose steps are drafts. -/
def draftSheet (t : Table Draft) : Except DraftError Sheet := do
  return ⟨t.source, t.vars, ← t.steps.mapM Draft.text, t.rows⟩

/-- **A table that is put together from the drafts of formulas is shown like theirs.** -/
theorem draftSheet_draft (t : Table Formula) :
    draftSheet ⟨t.source, t.subject.draft, t.vars, t.steps.map Formula.draft, t.rows⟩ =
      .ok t.sheet := by
  have htexts : ∀ steps : List Formula,
      (steps.map Formula.draft).mapM Draft.text = .ok (steps.map Formula.text) := by
    intro steps
    induction steps with
    | nil => rfl
    | cons e steps ih =>
      rw [List.map_cons, List.mapM_cons, Draft.text_draft, ih]
      rfl
  rw [draftSheet, htexts]
  rfl

/-- The heads of the columns of a table whose steps are drafts. -/
def draftHeaders (t : Table Draft) : Except DraftTableError (List String) :=
  (t.draftSheet.map Sheet.headers).mapError .draft

/-- A table whose steps are drafts, shown in a format. -/
def renderDraft (t : Table Draft) (format : Format) (color : Bool) :
    Except DraftTableError String :=
  if t.isEmpty ∧ format ≠ .json then .ok ""
  else do
    let s ← t.draftSheet.mapError .draft
    (s.render format color).mapError .render

end Table

end TruthTables
