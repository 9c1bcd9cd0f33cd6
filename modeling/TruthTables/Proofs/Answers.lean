import TruthTables.CommandLine
import TruthTables.Proofs.Requests

/-!
# How a request is answered

A run is made of an answer and of what is written of it (`run_of_answer_eq_ok`,
`run_of_answer_eq_error`).  The table in an answer always has rows and is complete, because every
formula has a variable; so the warning of a table with nothing to show is never made, and all notes
on the way to an answer are details and progress (`quiet_answer`).
-/

namespace TruthTables

namespace Arguments

variable {fs : FileSystem} {build : TableBuilder} {r : Request} {code : Nat}

/-! ### What a run is made of -/

namespace Request

theorem answer_of_fetch_eq_error {failure : Failure} (h : r.source.fetch fs = .error failure) :
    r.answer fs build = ⟨.error failure, []⟩ := by
  rw [answer, h]

theorem answer_of_build_eq_error {text : String} {failure : Failure}
    (h : r.source.fetch fs = .ok text)
    (hbuild : (build text r.options.steps r.options.maxVariables).value = .error failure) :
    r.answer fs build =
      ⟨.error failure, (build text r.options.steps r.options.maxVariables).notes⟩ := by
  simp only [answer, h, hbuild]

theorem answer_of_build_eq_ok {text : String} {t : Table Formula} (h : r.source.fetch fs = .ok text)
    (hbuild : (build text r.options.steps r.options.maxVariables).value = .ok t)
    (hrows : t.isEmpty = false) :
    r.answer fs build =
      ⟨r.options.text t, (build text r.options.steps r.options.maxVariables).notes⟩ := by
  simp only [answer, h, hbuild, Options.show, hrows, Bool.false_eq_true, if_false, List.append_nil]

theorem run_of_answer_eq_ok {text : String} (h : (r.answer fs build).value = .ok text) :
    r.run fs build = ⟨.returned 0, text, r.journal.write (r.answer fs build).notes⟩ := by
  rw [run, h]

theorem run_of_answer_eq_error {failure : Failure} (h : (r.answer fs build).value = .error failure)
    (hcode : failure.code? = some code) :
    r.run fs build = ⟨.returned code, "",
      r.journal.write ((r.answer fs build).notes ++ [.error failure.message])⟩ := by
  rw [run, h]
  simp only [hcode]

theorem run_of_brokenOff {failure : Failure} (h : (r.answer fs build).value = .error failure)
    (hcode : failure.code? = none) :
    r.run fs build = ⟨.brokenOff failure, "", r.journal.write (r.answer fs build).notes⟩ := by
  rw [run, h]
  simp only [hcode]

end Request

end Arguments

/-! ### The tables of the program -/

section Builder

variable {text : String} {withSteps : Bool} {bound : Option Int} {limit : Int}

theorem standardBuilder_some : (standardBuilder text withSteps (some limit)).value =
    (Table.ofText text withSteps (some limit)).mapError Failure.ofTableError := rfl

theorem standardBuilder_of_parse_eq_error {error : ParseError}
    (h : Formula.parse text = .error error) :
    (standardBuilder text withSteps bound).value = .error (.formula error.message) := by
  cases bound with
  | none =>
    have hread : (Formula.ofInputNoted (.string text)).value = .error error := h
    simp only [standardBuilder, hread]
  | some limit =>
    rw [standardBuilder_some, Table.ofText_of_parse_eq_error h]
    rfl

theorem standardBuilder_none_of_parse_eq_ok {e : Formula} (h : Formula.parse text = .ok e) :
    (standardBuilder text withSteps none).value = .error (.valueNeeded .maxVariables) := by
  have hread : (Formula.ofInputNoted (.string text)).value = .ok e := h
  simp only [standardBuilder, hread]

/-- **A table always has rows to show, and no row is too short.** -/
theorem exists_complete_of_standardBuilder {t : Table Formula}
    (h : (standardBuilder text withSteps bound).value = .ok t) : ∃ e, Table.Complete e t := by
  cases hparse : Formula.parse text with
  | error error =>
    rw [standardBuilder_of_parse_eq_error hparse] at h
    cases h
  | ok e =>
    cases bound with
    | none =>
      rw [standardBuilder_none_of_parse_eq_ok hparse] at h
      cases h
    | some limit =>
      rw [standardBuilder_some] at h
      obtain ⟨e, -, rfl⟩ := Table.exists_of_ofText_eq_ok (Table.mapError_eq_ok h)
      exact ⟨e, Table.complete_of_rows_eq rfl rfl⟩

end Builder

/-! ### Notes -/

section Notes

def Quiet (notes : List Note) : Prop := ∀ note ∈ notes, note.level = .debug ∨ note.level = .info

variable {notes notes' : List Note}

theorem Quiet.append (h : Quiet notes) (h' : Quiet notes') : Quiet (notes ++ notes') :=
  List.forall_mem_append.mpr ⟨h, h'⟩

theorem quiet_parseErrorNotes (error : ParseError) : Quiet error.notes := by
  cases error <;> simp [Quiet, ParseError.notes, Note.debug]

theorem quiet_formulaRead (input : Json.Value) : Quiet (Formula.ofInputNoted input).notes := by
  have hasked : Quiet [Note.debug ("Parsing formula: " ++ input.display),
      Note.debug ("Parsing formula: " ++ input.display)] := by
    simp [Quiet, Note.debug]
  unfold Formula.ofInputNoted
  refine hasked.append ?_
  split
  next e _ => simp [Quiet, Formula.parsedNotes, Note.debug]
  next error _ => exact quiet_parseErrorNotes error

theorem quiet_tableBuilt (e : Formula) (source : Option String) (withSteps : Bool) :
    Quiet (Table.ofFormulaNoted e source withSteps).notes := by
  have hcount : Quiet (Table.countNotes e) := by
    unfold Table.countNotes
    split <;> simp [Quiet, Note.debug]
  unfold Table.ofFormulaNoted
  refine hcount.append ?_
  split <;> simp [Quiet, Table.sizeNote, Note.debug]

theorem quiet_tabulated (input : Json.Value) (withSteps : Bool) (limit : Option Int) :
    Quiet (Table.ofInputNoted input withSteps limit).notes := by
  have hread := quiet_formulaRead input
  unfold Table.ofInputNoted
  dsimp only
  split
  next => exact hread
  next e _ =>
    split
    next => exact hread
    next =>
      have hformula : Quiet (Table.formulaNotes input.display e.text e.vars) := by
        simp [Quiet, Table.formulaNotes, Note.info]
      exact (hread.append hformula).append (quiet_tableBuilt _ _ _)

theorem quiet_standardBuilder (text : String) (withSteps : Bool) (limit : Option Int) :
    Quiet (standardBuilder text withSteps limit).notes := by
  cases limit with
  | none => exact quiet_formulaRead _
  | some limit => exact quiet_tabulated _ _ _

/-- **Nothing is remarked while a request is answered**, since a table has rows. -/
theorem Arguments.Request.quiet_answer (r : Request) (fs : FileSystem) :
    Quiet (r.answer fs standardBuilder).notes := by
  cases hfetch : r.source.fetch fs with
  | error failure =>
    rw [answer_of_fetch_eq_error hfetch]
    exact fun _ h => nomatch h
  | ok text =>
    have hquiet := quiet_standardBuilder text r.options.steps r.options.maxVariables
    cases hbuild : (standardBuilder text r.options.steps r.options.maxVariables).value with
    | error failure =>
      rw [answer_of_build_eq_error hfetch hbuild]
      exact hquiet
    | ok t =>
      obtain ⟨e, hcomplete⟩ := exists_complete_of_standardBuilder hbuild
      rw [answer_of_build_eq_ok hfetch hbuild hcomplete.isEmpty_eq]
      exact hquiet

theorem write_quiet_append (h : Quiet notes) (notes' : List Note) :
    (Journal.ofLevel .warning).write (notes ++ notes') =
      (Journal.ofLevel .warning).write notes' := by
  have hnone : notes.filter (Journal.ofLevel .warning).admits = [] := by
    rw [List.filter_eq_nil_iff]
    intro note hnote
    have hlow : note.level.rank < Level.warning.rank := by
      rcases h note hnote with hlevel | hlevel <;> rw [hlevel] <;> decide
    simp [Journal.admits, Journal.ofLevel, Nat.not_le.mpr hlow]
  rw [Journal.write, Journal.write, List.filter_append, hnone, List.nil_append]

theorem write_error (text : String) :
    (Journal.ofLevel .warning).write [.error text] = "[ERROR] " ++ text ++ "\n" := by
  have hline : (Note.error text).line = "[ERROR] " ++ text := rfl
  rw [← hline]
  exact String.empty_append

end Notes

end TruthTables
