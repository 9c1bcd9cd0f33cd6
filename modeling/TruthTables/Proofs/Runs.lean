import TruthTables.Proofs.Answers
import TruthTables.Proofs.Boxes
import TruthTables.Proofs.Gathering

/-!
# How a run ends

A run goes through the stages of `Course`: the text of the formula is fetched, it is read, and its
variables are counted, first against the number of rows that can be written out and then against
the limit.  Each stage has its code, and only the last one has an output.  What comes behind these
stages cannot fail: a table has rows, and every row is as long as the heads, so the box can be
drawn.

The table is asked for with the limit of the command line, which can always be written out
(`Request.natAbs_lt_of_ofTexts`); so what is too long to be told is the number of rows alone.
-/

namespace TruthTables

open Arguments

namespace Arguments

section Courses

variable {fs : FileSystem} {r : Request} {limit : Int} {code : Nat}

/-! ### The stages -/

/-- With what code the work on a request ends, when at most `limit` variables are allowed.  No code
stands for a formula that cannot be evaluated, for there is none. -/
inductive Course (fs : FileSystem) (r : Request) (limit : Int) : Nat → Prop where
  /-- No text was got from the file with the formula. -/
  | unread {path : Path} {error : FileError} : r.source = .file (some path) →
      fs.formulaAt path = .error error → Course fs r limit 3
  /-- The text is no formula. -/
  | misread {text : String} {error : ParseError} : r.source.fetch fs = .ok text →
      Formula.parse text = .error error → Course fs r limit 2
  /-- The number of rows cannot be written out. -/
  | untold {text : String} {e : Formula} : r.source.fetch fs = .ok text →
      Formula.parse text = .ok e → 14284 < e.vars.length → Course fs r limit 3
  /-- The formula has more variables than allowed. -/
  | refused {text : String} {e : Formula} : r.source.fetch fs = .ok text →
      Formula.parse text = .ok e → limit < e.vars.length → e.vars.length ≤ 14284 →
      Course fs r limit 4
  | shown {text : String} {e : Formula} : r.source.fetch fs = .ok text →
      Formula.parse text = .ok e → e.vars.length ≤ limit → e.vars.length ≤ 14284 →
      Course fs r limit 0

theorem Course.of_fetch {text : String} (h : Course fs r limit code)
    (hfetch : r.source.fetch fs = .ok text) :
    (∃ error, Formula.parse text = .error error ∧ code = 2) ∨
      ∃ e, Formula.parse text = .ok e ∧
        (14284 < e.vars.length ∧ code = 3 ∨
          e.vars.length ≤ 14284 ∧ limit < e.vars.length ∧ code = 4 ∨
          e.vars.length ≤ 14284 ∧ e.vars.length ≤ limit ∧ code = 0) := by
  have hsame {text' : String} (h' : r.source.fetch fs = .ok text') : text' = text :=
    Except.ok.inj (h'.symm.trans hfetch)
  cases h with
  | unread hsource hfile =>
    rw [hsource, Source.fetch, hfile] at hfetch
    cases hfetch
  | misread h' hparse =>
    cases hsame h'
    exact .inl ⟨_, hparse, rfl⟩
  | untold h' hparse hcount =>
    cases hsame h'
    exact .inr ⟨_, hparse, .inl ⟨hcount, rfl⟩⟩
  | refused h' hparse hlt hcount =>
    cases hsame h'
    exact .inr ⟨_, hparse, .inr (.inl ⟨hcount, hlt, rfl⟩)⟩
  | shown h' hparse hle hcount =>
    cases hsame h'
    exact .inr ⟨_, hparse, .inr (.inr ⟨hcount, hle, rfl⟩)⟩

/-- **A request has at most one course.** -/
theorem Course.unique {code' : Nat} (h : Course fs r limit code) (h' : Course fs r limit code') :
    code = code' := by
  cases hfetch : r.source.fetch fs with
  | error failure =>
    have hthree {n : Nat} (hn : Course fs r limit n) : n = 3 := by
      cases hn with
      | unread => rfl
      | untold hok _ _ => rfl
      | misread hok | refused hok | shown hok =>
        rw [hfetch] at hok
        cases hok
    rw [hthree h, hthree h']
  | ok text =>
    rcases h.of_fetch hfetch with ⟨error, hparse, rfl⟩ | ⟨e, hparse, hcode⟩
    · rcases h'.of_fetch hfetch with ⟨error', -, rfl⟩ | ⟨e', hparse', -⟩
      · rfl
      · rw [hparse] at hparse'
        cases hparse'
    · rcases h'.of_fetch hfetch with ⟨error', hparse', -⟩ | ⟨e', hparse', hcode'⟩
      · rw [hparse] at hparse'
        cases hparse'
      · rw [hparse] at hparse'
        cases hparse'
        omega

end Courses

/-! ### Outcomes -/

section Outcomes

variable {fs : FileSystem} {r : Request} {format : Format} {limit : Int}

/-- All settings of the request have values, among them a format and a limit. -/
structure Request.Settled (r : Request) (format : Format) (limit : Int) : Prop where
  source_ne : r.source ≠ .file none
  format_eq : r.options.format = some format
  limit_eq : r.options.maxVariables = some limit

theorem exists_render {e : Formula} {t : Table Formula} (h : Table.Complete e t) (format : Format)
    (color : Bool) : ∃ shown, t.sheet.render format color = .ok shown := by
  have hrows : t.sheet.rows ≠ [] := List.isEmpty_eq_false_iff.mp h.isEmpty_eq
  have hcells : t.sheet.Rectangular := h.length_cells
  cases format with
  | table => exact ⟨_, hcells.box_eq hrows color⟩
  | csv => exact ⟨_, rfl⟩
  | json => exact ⟨_, rfl⟩

/-- A text is missing only when a file is asked for. -/
theorem Source.exists_path_of_fetch {source : Source} {failure : Failure}
    (h : source.fetch fs = .error failure) (hsource : source ≠ .file none) :
    ∃ path error, source = .file (some path) ∧ fs.formulaAt path = .error error ∧
      failure = .file error.message := by
  unfold fetch at h
  split at h
  next => cases h
  next => exact absurd rfl hsource
  next path =>
    cases hfile : fs.formulaAt path with
    | ok text =>
      rw [hfile] at h
      cases h
    | error error =>
      rw [hfile] at h
      cases h
      exact ⟨path, error, rfl, hfile, rfl⟩

theorem value_answer_of_parse_eq_error {text : String} {error : ParseError}
    (hfetch : r.source.fetch fs = .ok text) (hparse : Formula.parse text = .error error) :
    (r.answer fs standardBuilder).value = .error (.formula error.message) := by
  rw [Request.answer_of_build_eq_error hfetch (standardBuilder_of_parse_eq_error hparse)]

/-- The work on a request has failed, with a code that fits its course. -/
def Fails (fs : FileSystem) (r : Request) (limit : Int) : Prop :=
  ∃ failure code, (r.answer fs standardBuilder).value = .error failure ∧
    failure.code? = some code ∧ code ≠ 0 ∧ Course fs r limit code

/-- The work on a request has led to a table, which is to be shown. -/
def Tabulates (fs : FileSystem) (r : Request) (limit : Int) : Prop :=
  Course fs r limit 0 ∧ ∃ text t e, r.source.fetch fs = .ok text ∧
    Table.ofText text r.options.steps (some limit) = .ok t ∧ Table.Complete e t ∧
    (r.answer fs standardBuilder).value = r.options.text t

theorem fails_or_tabulates_of_parse {text : String} {e : Formula}
    (hlimit : r.options.maxVariables = some limit) (htold : limit.natAbs < 10 ^ Text.maxDigits)
    (hfetch : r.source.fetch fs = .ok text) (hparse : Formula.parse text = .ok e) :
    Fails fs r limit ∨ Tabulates fs r limit := by
  have hfailed {error : TableError}
      (h : Table.ofText text r.options.steps (some limit) = .error error) :
      (r.answer fs standardBuilder).value = .error (.ofTableError error) := by
    have hbuild : (standardBuilder text r.options.steps r.options.maxVariables).value =
        .error (.ofTableError error) := by
      rw [hlimit, standardBuilder_some, h]
      rfl
    rw [Request.answer_of_build_eq_error hfetch hbuild]
  rcases Nat.lt_or_ge 14284 e.vars.length with hcount | hcount
  · have hwritable : ¬ Writable e.vars.length (some limit) := fun h => Nat.not_le.mpr hcount h.1
    have hanswer := hfailed (Table.ofText_of_not_writable hparse hwritable)
    exact .inl ⟨_, 3, hanswer, rfl, by decide, .untold hfetch hparse hcount⟩
  · rcases lt_or_ge limit (e.vars.length : Int) with hlt | hle
    · have hwritable : Writable e.vars.length (some limit) := writable_some.mpr ⟨hcount, by omega⟩
      have hanswer := hfailed (Table.ofText_of_excess hparse hlt)
      rw [ofExcess_eq hlt hwritable] at hanswer
      exact .inl ⟨_, 4, hanswer, rfl, by decide, .refused hfetch hparse hlt hcount⟩
    · have hbound : ∀ bound, some limit = some bound → (e.vars.length : Int) ≤ bound := by
        rintro _ ⟨⟩
        exact hle
      obtain ⟨t, ht, hcomplete⟩ : ∃ t, Table.ofText text r.options.steps (some limit) = .ok t ∧
        Table.Complete e t := Table.exists_complete hparse hcount hbound
      have hbuild :
          (standardBuilder text r.options.steps r.options.maxVariables).value = .ok t := by
        rw [hlimit, standardBuilder_some, ht]
        rfl
      refine .inr ⟨.shown hfetch hparse hle hcount, text, t, e, hfetch, ht, hcomplete, ?_⟩
      rw [Request.answer_of_build_eq_ok hfetch hbuild hcomplete.isEmpty_eq]

/-- **What the work on a request comes to.**  It fails with a code that fits its course, or there is
a table to show. -/
theorem fails_or_tabulates (hsource : r.source ≠ .file none)
    (hlimit : r.options.maxVariables = some limit) (htold : limit.natAbs < 10 ^ Text.maxDigits) :
    Fails fs r limit ∨ Tabulates fs r limit := by
  cases hfetch : r.source.fetch fs with
  | error failure =>
    obtain ⟨path, error, hpath, hfile, rfl⟩ := Source.exists_path_of_fetch hfetch hsource
    have hanswer : (r.answer fs standardBuilder).value = .error (.file error.message) := by
      rw [Request.answer_of_fetch_eq_error hfetch]
    exact .inl ⟨_, 3, hanswer, rfl, by decide, .unread hpath hfile⟩
  | ok text =>
    cases hparse : Formula.parse text with
    | error error =>
      exact .inl ⟨_, 2, value_answer_of_parse_eq_error hfetch hparse, rfl, by decide,
        .misread hfetch hparse⟩
    | ok e => exact fails_or_tabulates_of_parse hlimit htold hfetch hparse

/-! ### The contract -/

/-- What a run leaves behind of a request with a format and a limit. -/
structure Contract (fs : FileSystem) (r : Request) (format : Format) (limit : Int) (o : Outcome) :
    Prop where
  returned : ∃ code, o.ending = .returned code
  ending_iff : ∀ code, o.ending = .returned code ↔ Course fs r limit code
  output_eq_empty_iff : o.output = "" ↔ o.ending ≠ .returned 0
  output : o.ending = .returned 0 → ∃ text t shown, r.source.fetch fs = .ok text ∧
    Table.ofText text r.options.steps (some limit) = .ok t ∧ t.isEmpty = false ∧
    t.sheet.render format r.options.color = .ok shown ∧
    o.output = shown ++ "\n" ++
      if r.options.summary then "\n" ++ t.source ++ ": " ++ t.verdict.name ++ "\n" else ""
  errors : r.options.verbose = false → r.options.debug = false →
    if o.ending = .returned 0 then o.errors = ""
    else ∃ failure : Failure, failure.code? = some o.ending.code ∧
      o.errors = "[ERROR] " ++ failure.message ++ "\n"

theorem journal_eq (hverbose : r.options.verbose = false) (hdebug : r.options.debug = false) :
    r.journal = Journal.ofLevel .warning := by
  rw [Request.journal, hverbose, hdebug]
  rfl

theorem Fails.contract (h : Fails fs r limit) (format : Format) :
    Contract fs r format limit (r.run fs standardBuilder) := by
  obtain ⟨failure, code, hanswer, hcode, hne, hcourse⟩ := h
  rw [Request.run_of_answer_eq_error hanswer hcode]
  have hzero : Ending.returned code ≠ .returned 0 := fun heq => hne (Ending.returned.inj heq)
  refine ⟨⟨code, rfl⟩, fun code' => ⟨?_, fun h => ?_⟩, ⟨fun _ => hzero, fun _ => rfl⟩,
    fun heq => absurd heq hzero, fun hverbose hdebug => ?_⟩
  · rintro ⟨⟩
    exact hcourse
  · rw [hcourse.unique h]
  · rw [if_neg hzero]
    refine ⟨failure, hcode, ?_⟩
    rw [journal_eq hverbose hdebug, write_quiet_append (r.quiet_answer fs), write_error]

theorem Tabulates.contract (h : Tabulates fs r limit) (hformat : r.options.format = some format) :
    Contract fs r format limit (r.run fs standardBuilder) := by
  obtain ⟨hcourse, text, t, e, hfetch, ht, hcomplete, hanswer⟩ := h
  obtain ⟨shown, hshown⟩ := exists_render hcomplete format r.options.color
  have htext : r.options.text t =
      .ok (shown ++ "\n" ++ if r.options.summary then summaryText t else "") := by
    simp only [Options.text, hformat, hshown]
    rfl
  rw [htext] at hanswer
  rw [Request.run_of_answer_eq_ok hanswer]
  refine ⟨⟨0, rfl⟩, fun code => ⟨?_, fun h => ?_⟩, ⟨fun hempty => ?_, fun h => absurd rfl h⟩,
    fun _ => ⟨text, t, shown, hfetch, ht, hcomplete.isEmpty_eq, hshown, rfl⟩,
    fun hverbose hdebug => ?_⟩
  · rintro ⟨⟩
    exact hcourse
  · rw [hcourse.unique h]
  · have hlength := congrArg String.length hempty
    simp only [String.length_append] at hlength
    have hfeed : "\n".length = 1 := rfl
    have hnone : "".length = 0 := rfl
    omega
  · rw [if_pos rfl]
    have hquiet := write_quiet_append (r.quiet_answer fs) []
    rw [List.append_nil] at hquiet
    rw [journal_eq hverbose hdebug, hquiet]
    rfl

/-- **A request with all its values keeps the contract.** -/
theorem Request.Settled.contract (h : r.Settled format limit)
    (htold : limit.natAbs < 10 ^ Text.maxDigits) :
    Contract fs r format limit (r.run fs standardBuilder) := by
  rcases fails_or_tabulates h.source_ne h.limit_eq htold with hfails | htabulates
  · exact hfails.contract format
  · exact htabulates.contract h.format_eq

/-- A run that lacks a value: it ends with a code before the value is needed, or breaks off. -/
structure Lacking (o : Outcome) : Prop where
  output_eq_empty : o.output = ""
  ending : (∃ code ∈ [2, 3, 4], o.ending = .returned code) ∨
    ∃ setting, o.ending = .brokenOff (.valueNeeded setting)

theorem lacking_of_code {failure : Failure} {code : Nat}
    (hanswer : (r.answer fs standardBuilder).value = .error failure)
    (hcode : failure.code? = some code) (hmem : code ∈ [2, 3, 4]) :
    Lacking (r.run fs standardBuilder) := by
  rw [Request.run_of_answer_eq_error hanswer hcode]
  exact ⟨rfl, .inl ⟨code, hmem, rfl⟩⟩

theorem lacking_of_valueNeeded {setting : Setting}
    (hanswer : (r.answer fs standardBuilder).value = .error (.valueNeeded setting)) :
    Lacking (r.run fs standardBuilder) := by
  rw [Request.run_of_brokenOff hanswer rfl]
  exact ⟨rfl, .inr ⟨setting, rfl⟩⟩

theorem Course.mem_of_ne_zero {code : Nat} (h : Course fs r limit code) (hne : code ≠ 0) :
    code ∈ [2, 3, 4] := by
  cases h with
  | shown => exact absurd rfl hne
  | _ => decide

theorem lacking_of_limit_eq_none (hsource : r.source ≠ .file none)
    (hlimit : r.options.maxVariables = none) : Lacking (r.run fs standardBuilder) := by
  cases hfetch : r.source.fetch fs with
  | error failure =>
    obtain ⟨path, error, -, -, rfl⟩ := Source.exists_path_of_fetch hfetch hsource
    exact lacking_of_code (by rw [Request.answer_of_fetch_eq_error hfetch]) rfl (by decide)
  | ok text =>
    cases hparse : Formula.parse text with
    | error error =>
      exact lacking_of_code (value_answer_of_parse_eq_error hfetch hparse) rfl (by decide)
    | ok e =>
      have hanswer : (r.answer fs standardBuilder).value = .error (.valueNeeded .maxVariables) := by
        rw [Request.answer_of_build_eq_error hfetch
          (hlimit ▸ standardBuilder_none_of_parse_eq_ok hparse)]
      exact lacking_of_valueNeeded hanswer

theorem lacking_of_not_settled (h : ∀ format limit, ¬ r.Settled format limit)
    (htold : ∀ limit, r.options.maxVariables = some limit →
      limit.natAbs < 10 ^ Text.maxDigits) :
    Lacking (r.run fs standardBuilder) := by
  by_cases hsource : r.source = .file none
  · have hfetch : r.source.fetch fs = .error (.valueNeeded .file) := by
      rw [hsource]
      rfl
    have hanswer : (r.answer fs standardBuilder).value = .error (.valueNeeded .file) := by
      rw [Request.answer_of_fetch_eq_error hfetch]
    exact lacking_of_valueNeeded hanswer
  · cases hlimit : r.options.maxVariables with
    | none => exact lacking_of_limit_eq_none hsource hlimit
    | some limit =>
      rcases fails_or_tabulates hsource hlimit (htold limit hlimit) with hfails | htabulates
      · obtain ⟨failure, code, hanswer, hcode, hne, hcourse⟩ := hfails
        exact lacking_of_code hanswer hcode (hcourse.mem_of_ne_zero hne)
      · obtain ⟨-, text, t, e, -, -, -, hanswer⟩ := htabulates
        cases hformat : r.options.format with
        | some format => exact absurd ⟨hsource, hformat, hlimit⟩ (h format limit)
        | none =>
          rw [Options.text, hformat] at hanswer
          exact lacking_of_valueNeeded hanswer

/-- The request with other wishes for what is told on the way. -/
def Request.withVoice (r : Request) (verbose debug : Bool) : Request :=
  { r with options := { r.options with verbose := verbose, debug := debug } }

/-- **What is told on the way changes nothing else.** -/
theorem run_withVoice (r : Request) (verbose debug : Bool) (fs : FileSystem)
    (build : TableBuilder) :
    ((r.withVoice verbose debug).run fs build).ending = (r.run fs build).ending ∧
      ((r.withVoice verbose debug).run fs build).output = (r.run fs build).output := by
  cases hvalue : (r.answer fs build).value with
  | ok text =>
    have hvalue' : ((r.withVoice verbose debug).answer fs build).value = .ok text := hvalue
    rw [Request.run_of_answer_eq_ok hvalue, Request.run_of_answer_eq_ok hvalue']
    exact ⟨rfl, rfl⟩
  | error failure =>
    have hvalue' : ((r.withVoice verbose debug).answer fs build).value = .error failure := hvalue
    cases hcode : failure.code? with
    | some code =>
      rw [Request.run_of_answer_eq_error hvalue hcode, Request.run_of_answer_eq_error hvalue' hcode]
      exact ⟨rfl, rfl⟩
    | none =>
      rw [Request.run_of_brokenOff hvalue hcode, Request.run_of_brokenOff hvalue' hcode]
      exact ⟨rfl, rfl⟩

end Outcomes

end Arguments

/-- **What comes of a command line that is carried out.**  With all values there the run keeps the
contract, for every content of the file system; with a value missing it writes nothing to the
output; and two command lines that differ in what is told on the way have the same ending and the
same output. -/
theorem run_contract (fs : FileSystem) (words : List String) (r : Request)
    (h : Request.ofTexts words = .ok r) :
    (∀ format limit, r.Settled format limit →
      Contract fs r format limit (run fs standardBuilder words)) ∧
    ((∀ format limit, ¬ r.Settled format limit) → Lacking (run fs standardBuilder words)) ∧
    ∀ words' verbose debug, Request.ofTexts words' = .ok (r.withVoice verbose debug) →
      (run fs standardBuilder words').ending = (run fs standardBuilder words).ending ∧
        (run fs standardBuilder words').output = (run fs standardBuilder words).output := by
  have hrun : run fs standardBuilder words = r.run fs standardBuilder := by rw [run, h]
  rw [hrun]
  refine ⟨fun format limit hsettled => ?_, fun hnone => ?_, fun words' verbose debug h' => ?_⟩
  · exact hsettled.contract (Request.natAbs_lt_of_ofTexts h hsettled.limit_eq)
  · exact lacking_of_not_settled hnone fun limit => Request.natAbs_lt_of_ofTexts h
  · rw [run, h']
    exact run_withVoice r verbose debug fs standardBuilder

/-- A table with a summary, for a formula on the command line. -/
theorem run_contract_summary :
    let words := ["a => b", "--summary", "--format=csv", "--max-vars", "2"]
    let r : Request := ⟨.formula "a => b",
      { format := some .csv, maxVariables := some 2, summary := true }⟩
    Request.ofTexts words = .ok r ∧ r.Settled .csv 2 ∧
      ∀ fs, Contract fs r .csv 2 (run fs standardBuilder words) ∧
        (run fs standardBuilder words).ending = .returned 0 := by
  intro words r
  have hwords : Request.ofTexts words = .ok r := by decide +kernel
  have hsettled : r.Settled .csv 2 := ⟨by rintro ⟨⟩, rfl, rfl⟩
  have hparse : Formula.parse "a => b" = .ok (.binary .implies (.var "a") (.var "b")) := by
    decide +kernel
  refine ⟨hwords, hsettled, fun fs => ?_⟩
  have hcontract := (run_contract fs words r hwords).1 .csv 2 hsettled
  exact ⟨hcontract, (hcontract.ending_iff 0).mpr (.shown rfl hparse (by decide) (by decide))⟩

/-! ### A run with the wrong code -/

theorem ofTexts_singleton {text : String} {c : Char} {cs : List Char}
    (h : text.toList = c :: cs) (hc : c ≠ '-') :
    Request.ofTexts [text] = .ok ⟨.formula text, {}⟩ := by
  have hdashes : text ≠ "--" := by
    rintro rfl
    cases h
    exact hc rfl
  have hplain : Word.ofText text = .ok (.plain text) := by
    unfold Word.ofText
    rw [h]
    split
    next heq =>
      cases heq
      exact absurd rfl hc
    next => rfl
  rw [Request.ofTexts, Word.ofTexts, if_neg hdashes, hplain]
  rfl

/-- With 16384 variables, of which 16 are allowed, the run ends like one whose file is missing. -/
theorem not_refused_conjunction :
    Request.ofTexts [(Formula.conjunction 14 0).text] =
        .ok ⟨.formula (Formula.conjunction 14 0).text, {}⟩ ∧
      Formula.parse (Formula.conjunction 14 0).text = .ok (.conjunction 14 0) ∧
      16 < (Formula.conjunction 14 0).vars.length ∧
      ∀ fs, (run fs standardBuilder [(Formula.conjunction 14 0).text]).ending = .returned 3 := by
  have hchars : ∃ cs, (Formula.conjunction 14 0).text.toList = '(' :: cs := by
    rw [Formula.text, String.toList_ofList, Formula.conjunction, Formula.chars_binary]
    exact ⟨_, rfl⟩
  obtain ⟨cs, hcs⟩ := hchars
  have hwords := ofTexts_singleton hcs (by decide)
  have hparse := Formula.parse_text (Formula.wellNamed_conjunction 14 0)
  have hcount := Formula.lt_length_vars_conjunction
  refine ⟨hwords, hparse, Nat.lt_trans (by decide) hcount, fun fs => ?_⟩
  have hsettled : Request.Settled ⟨.formula (Formula.conjunction 14 0).text, {}⟩ .table 16 :=
    ⟨by rintro ⟨⟩, rfl, rfl⟩
  have hcontract : Contract fs ⟨.formula (Formula.conjunction 14 0).text, {}⟩ .table 16
      (Request.run ⟨.formula (Formula.conjunction 14 0).text, {}⟩ fs standardBuilder) :=
    hsettled.contract (Request.natAbs_lt_of_ofTexts hwords rfl)
  rw [run, hwords]
  exact (hcontract.ending_iff 3).mpr (.untold rfl hparse hcount)

end TruthTables