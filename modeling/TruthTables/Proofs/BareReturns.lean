import TruthTables.Proofs.Records
import TruthTables.Proofs.Screen

/-!
# Carriage returns in comma-separated values

Ordinary readers of comma-separated values end a record at a line feed, at a carriage return, or at
both together.  A field is quoted for a line feed, but not for a carriage return alone, and spacing
inside a formula may be one.  So the record of the heads is in one piece if and only if no carriage
return is left bare in the source; each one that is left ends one record more
(`exists_foldl_step_record`).  The records of the rows are behind it, and they are read back
whatever became of the heads.

In the source of a table only a line feed makes quotes necessary, since a formula has neither commas
nor double quotes (`needsQuotes_iff_of_parse`).
-/

namespace TruthTables

namespace Csv

theorem needsQuotes_cons (c : Char) (cs : List Char) :
    needsQuotes (c :: cs) = (needsQuotes [c] || needsQuotes cs) := by
  simp only [needsQuotes, List.any_cons, List.any_nil, Bool.or_false]

theorem needsQuotes_singleton {c : Char} :
    needsQuotes [c] = false ↔ c ≠ ',' ∧ c ≠ '"' ∧ c ≠ '\n' := by
  simp only [needsQuotes, List.any_cons, List.any_nil, Bool.or_false, Bool.or_eq_false_iff,
    beq_eq_false_iff_ne, and_assoc, ne_eq]

/-- The carriage returns of a field that stand outside quotes. -/
def bareReturns (s : String) : Nat := if needsQuotes s.toList then 0 else s.toList.count '\r'

theorem bareReturns_eq_zero_iff {s : String} : bareReturns s = 0 ↔ Whole true s := by
  rw [bareReturns, Whole]
  by_cases hquotes : needsQuotes s.toList = true
  · rw [if_pos hquotes]
    exact iff_of_true rfl fun _ _ => hquotes
  · rw [if_neg hquotes, List.count_eq_zero]
    exact ⟨fun h _ hmem => absurd hmem h, fun h hmem => hquotes (h rfl hmem)⟩

namespace Reading

/-- What has been read, the last record first, with the record that is being read. -/
def all (r : Reading) : List (List String) := r.lastRecord :: r.records

def Outside (r : Reading) : Prop := r.mode = .start ∨ ∃ cs, r.mode = .plain cs

variable {r : Reading} {records : List (List String)} {fields : List String}

theorem outside_stepOutside (r : Reading) (cs : List Char) (c : Char) :
    (stepOutside true r cs c).Outside := by
  unfold stepOutside
  split_ifs
  · exact Or.inl rfl
  · exact Or.inl rfl
  · exact Or.inl rfl
  · exact Or.inr ⟨_, rfl⟩

theorem length_all_stepOutside {c : Char} (hc : needsQuotes [c] = false) (cs : List Char) :
    (stepOutside true r cs c).all.length = r.all.length + [c].count '\r' := by
  obtain ⟨hcomma, -, hfeed⟩ := needsQuotes_singleton.mp hc
  unfold stepOutside
  rw [if_neg hcomma, if_neg hfeed]
  by_cases hreturn : c = '\r'
  · rw [if_pos ⟨hreturn, rfl⟩, hreturn]
    rfl
  · rw [if_neg fun h => hreturn h.1, List.count_singleton, beq_eq_false_iff_ne.mpr hreturn]
    rfl

theorem Outside.step_eq (h : r.Outside) {c : Char} (hc : needsQuotes [c] = false) :
    ∃ cs, step true r c = stepOutside true r cs c := by
  obtain ⟨-, hquote, hfeed⟩ := needsQuotes_singleton.mp hc
  rcases h with hmode | ⟨cs, hmode⟩
  · refine ⟨[], ?_⟩
    simp only [step, hmode, if_neg hquote]
    rw [if_neg fun h => hfeed h.1]
  · exact ⟨cs, by simp only [step, hmode]⟩

/-- **Each bare carriage return ends a record.** -/
theorem Outside.foldl_step {cs : List Char} (h : r.Outside) (hcs : needsQuotes cs = false) :
    (cs.foldl (step true) r).Outside ∧
      (cs.foldl (step true) r).all.length = r.all.length + cs.count '\r' := by
  induction cs generalizing r with
  | nil => exact ⟨h, rfl⟩
  | cons c cs ih =>
    rw [needsQuotes_cons, Bool.or_eq_false_iff] at hcs
    obtain ⟨ds, hstep⟩ := h.step_eq hcs.1
    have hcount : ([c] ++ cs).count '\r' = [c].count '\r' + cs.count '\r' := List.count_append
    rw [List.singleton_append] at hcount
    obtain ⟨houtside, hlength⟩ := ih (hstep ▸ outside_stepOutside r ds c) hcs.2
    rw [List.foldl_cons]
    refine ⟨houtside, ?_⟩
    rw [hlength, hstep, length_all_stepOutside hcs.1, hcount, Nat.add_assoc]

theorem Outside.step_feed (h : r.Outside) (hreturn : r.afterReturn = false) :
    step true r '\n' = ⟨r.all, [], .start, false⟩ := by
  have hstands : r.Stands r.records r.lastRecord := by
    refine ⟨rfl, rfl, fun cs hmode => ?_, hreturn⟩
    rcases h with h | ⟨ds, h⟩ <;> rw [h] at hmode <;> cases hmode
  exact hstands.step_feed

theorem afterReturn_step {c : Char} (h : r.Outside) (hc : needsQuotes [c] = false)
    (hreturn : c ≠ '\r') : (step true r c).afterReturn = false := by
  obtain ⟨cs, hstep⟩ := h.step_eq hc
  rw [hstep]
  unfold stepOutside
  split_ifs with _ _ hboth
  · rfl
  · rfl
  · exact absurd hboth.1 hreturn
  · rfl

theorem exists_foldl_step_bare {cs : List Char} {c : Char} (hcs : needsQuotes (cs ++ [c]) = false)
    (hreturn : c ≠ '\r') (fields : List String) :
    ∃ heads, (cs ++ [c] ++ ['\n']).foldl (step true) ⟨[], fields, .start, false⟩ =
        ⟨heads, [], .start, false⟩ ∧ heads.length = 1 + (cs ++ [c]).count '\r' := by
  have hbegin : Outside ⟨[], fields, .start, false⟩ := Or.inl rfl
  have hsplit := hcs
  rw [needsQuotes, List.any_append, Bool.or_eq_false_iff] at hsplit
  obtain ⟨houtside, hlength⟩ := hbegin.foldl_step hcs
  have hafter :
      ((cs ++ [c]).foldl (step true) ⟨[], fields, .start, false⟩).afterReturn = false := by
    rw [List.foldl_append]
    exact afterReturn_step (hbegin.foldl_step hsplit.1).1 hsplit.2 hreturn
  refine ⟨_, ?_, hlength⟩
  rw [List.foldl_append]
  exact houtside.step_feed hafter

end Reading

/-! ### The record of the heads -/

theorem needsQuotes_of_not_whole {s : String} (h : ¬ Whole true s) :
    needsQuotes s.toList = false := by
  by_contra hquotes
  exact h fun _ _ => eq_true_of_ne_false hquotes

theorem exists_toList_eq_of_not_whole {s : String} (h : ¬ Whole true s)
    (hlast : s.toList.getLast? ≠ some '\r') : ∃ cs c, s.toList = cs ++ [c] ∧ c ≠ '\r' := by
  rcases List.eq_nil_or_concat s.toList with hnil | ⟨cs, c, hconcat⟩
  · exact absurd (fun _ hmem => by rw [hnil] at hmem; cases hmem) h
  · rw [List.concat_eq_append] at hconcat
    refine ⟨cs, c, hconcat, ?_⟩
    rintro rfl
    exact hlast (by rw [hconcat, List.getLast?_append]; rfl)

/-- **A record whose last field may hold bare carriage returns**, if they are not at its end: it is
read as one record, and one more for each of them. -/
theorem exists_foldl_step_record {init : List String} {last : String}
    (hinit : ∀ s ∈ init, Whole true s) (hlast : last.toList.getLast? ≠ some '\r') :
    ∃ heads, (record (init ++ [last])).foldl (Reading.step true) Reading.begin =
        ⟨heads, [], .start, false⟩ ∧
      heads.length = 1 + bareReturns last ∧
      (bareReturns last = 0 → heads = [init ++ [last]]) := by
  by_cases hwhole : Whole true last
  · have hfields : ∀ s ∈ init ++ [last], Whole true s :=
      List.forall_mem_append.mpr ⟨hinit, List.forall_mem_singleton.mpr hwhole⟩
    have hne : init ++ [last] ≠ [] := List.append_ne_nil_of_right_ne_nil _ (List.cons_ne_nil _ _)
    refine ⟨[init ++ [last]], Reading.foldl_step_record hne hfields, ?_, fun _ => rfl⟩
    rw [bareReturns_eq_zero_iff.mpr hwhole]
    rfl
  · have hquotes := needsQuotes_of_not_whole hwhole
    have hcount : bareReturns last = last.toList.count '\r' :=
      if_neg (Bool.eq_false_iff.mp hquotes)
    obtain ⟨cs, c, hconcat, hreturn⟩ := exists_toList_eq_of_not_whole hwhole hlast
    have hempty : init ++ [last] ≠ [""] := by
      intro h
      have hlastEq : last = "" := by simpa using congrArg List.getLast? h
      rw [hlastEq] at hconcat
      cases cs <;> cases hconcat
    obtain ⟨heads, hread, hlength⟩ :=
      Reading.exists_foldl_step_bare (hconcat ▸ hquotes) hreturn init.reverse
    refine ⟨heads, ?_, ?_, fun hzero => absurd (bareReturns_eq_zero_iff.mp hzero) hwhole⟩
    · rw [record_eq, recordText_concat hempty, List.append_assoc, List.foldl_append,
        Reading.begin, Reading.foldl_step_fields hinit, List.append_nil, field,
        if_neg (Bool.eq_false_iff.mp hquotes), hconcat, hread]
    · rw [hlength, hcount, hconcat]

theorem chars_cons {fields : List String} {rs : List (List String)} (hne : rs ≠ [])
    (h : ∀ fields ∈ rs, fields ≠ []) : chars (fields :: rs) = record fields ++ chars rs := by
  obtain ⟨init, last, rfl⟩ := (List.eq_nil_or_concat rs).resolve_left hne
  rw [List.concat_eq_append] at h ⊢
  have hlast : last ≠ [] := h last (List.mem_append_right _ List.mem_cons_self)
  rw [← List.cons_append, chars_concat hlast, chars_concat hlast, List.flatMap_cons,
    List.append_assoc]

end Csv

/-! ### Sheets -/

namespace Sheet

open Csv

theorem whole_of_mem_body {s : Sheet} {cells : List String} (h : cells ∈ s.body) :
    ∀ cell ∈ cells, Whole true cell := by
  obtain ⟨r, -, rfl⟩ := List.mem_map.mp h
  intro cell hcell
  obtain ⟨b, -, rfl⟩ := List.mem_map.mp hcell
  cases b
  · exact fun _ hmem => absurd hmem (by decide)
  · exact fun _ hmem => absurd hmem (by decide)

/-- **What an ordinary reader makes of a sheet** whose names and steps have no bare carriage
returns: the records of the rows, and before them one record, and one more for each carriage return
that is bare in the source. -/
theorem exists_records_csv (s : Sheet) (hrows : s.rows ≠ [])
    (hheads : ∀ head ∈ s.vars ++ s.steps, Whole true head)
    (hsource : s.source.toList.getLast? ≠ some '\r') :
    ∃ heads, records true s.csv.toList = heads ++ s.body ∧
      heads.length = 1 + bareReturns s.source ∧
      (bareReturns s.source = 0 → heads = [s.headers]) := by
  have hbody : s.body ≠ [] := fun hnil => hrows (List.map_eq_nil_iff.mp hnil)
  have hfields : ∀ fields ∈ s.body, fields ≠ [] := fun cells => ne_nil_of_mem_body
  obtain ⟨heads, hread, hlength, hwhole⟩ := exists_foldl_step_record hheads hsource
  refine ⟨heads.reverse, ?_, by rw [List.length_reverse, hlength], fun hzero => ?_⟩
  · rw [csv_eq hrows, String.toList_ofList, records, chars_cons hbody hfields, List.foldl_append]
    rw [headers, hread]
    exact finish_foldl_chars hbody hfields fun cells => whole_of_mem_body
  · rw [hwhole hzero]
    rfl

end Sheet

/-! ### The tables of texts -/

namespace Formula

open Csv

theorem not_mem_of_parse {s : String} {e : Formula} (h : parse s = .ok e) :
    ',' ∉ s.toList ∧ '"' ∉ s.toList := by
  have hforeign : ∀ c ∈ s.toList, Token.isSpacing c = true ∨ Text.isAlphanumeric c = true ∨
      c ∈ Token.signs := by
    intro c hc
    rcases isSpacing_or_mem_lexeme h c hc with hspacing | ⟨t, ht, hct⟩
    · exact Or.inl hspacing
    · exact Or.inr (Token.isAlphanumeric_or_mem_signs ht c hct)
  exact ⟨fun hc => absurd (hforeign _ hc) (by decide), fun hc => absurd (hforeign _ hc) (by decide)⟩

/-- **A text that is a formula is quoted for its line feeds alone.** -/
theorem needsQuotes_iff_of_parse {s : String} {e : Formula} (h : parse s = .ok e) :
    needsQuotes s.toList = true ↔ '\n' ∈ s.toList := by
  obtain ⟨hcomma, hquote⟩ := not_mem_of_parse h
  rw [needsQuotes, List.any_eq_true]
  constructor
  · rintro ⟨c, hc, hquotes⟩
    simp only [Bool.or_eq_true, beq_iff_eq] at hquotes
    rcases hquotes with (rfl | rfl) | rfl
    · exact absurd hc hcomma
    · exact absurd hc hquote
    · exact hc
  · exact fun hfeed => ⟨'\n', hfeed, by decide⟩

theorem whole_text {e : Formula} (h : e.WellNamed) : Whole true e.text := by
  intro _ hreturn
  rw [text, String.toList_ofList] at hreturn
  exact absurd (not_isBlank_of_mem_chars h _ hreturn) (by decide)

end Formula

namespace Table

open Formula Text Csv

variable {s : String} {withSteps : Bool} {limit : Option Int} {t : Table Formula}

/-- The records are the table's: one with the heads, one for each row, and in each of them a field
for every head. -/
structure Structured (t : Table Formula) (records : List (List String)) : Prop where
  length_eq : records.length = t.rows.length + 1
  head?_eq : records.head? = some t.headers
  length_fields : ∀ fields ∈ records, fields.length = t.headers.length

theorem whole_of_mem_heads (h : ofText s withSteps limit = .ok t) :
    ∀ head ∈ t.sheet.vars ++ t.sheet.steps, Whole true head := by
  obtain ⟨e, he, rfl⟩ := exists_of_ofText_eq_ok h
  have hnamed := wellNamed_of_parse he
  refine List.forall_mem_append.mpr ⟨fun name hname => ?_, fun head hhead => ?_⟩
  · rw [← text_var name]
    exact whole_text (wellNamed_of_mem_vars hnamed hname)
  · obtain ⟨step, hstep, rfl⟩ := List.mem_map.mp hhead
    exact whole_text (wellNamed_of_mem_steps hnamed (mem_steps_of_mem_shownSteps hstep))

theorem bareReturns_source (h : ofText s withSteps limit = .ok t) :
    bareReturns t.source =
      if '\n' ∈ (strip s).toList then 0 else (strip s).toList.count '\r' := by
  obtain ⟨e, he, rfl⟩ := exists_of_ofText_eq_ok h
  show bareReturns (strip s) = _
  simp only [bareReturns, needsQuotes_iff_of_parse (parse_strip he)]

theorem structured_iff (h : ofText s withSteps limit = .ok t) {heads : List (List String)}
    (hheads : heads.length = 1 → heads = [t.headers]) :
    t.Structured (heads ++ t.sheet.body) ↔ heads.length = 1 := by
  obtain ⟨hcells, -⟩ := rectangular_of_ofText h
  have hbody : t.sheet.body.length = t.rows.length := List.length_map _
  constructor
  · intro hstructured
    have hlength := hstructured.length_eq
    rw [List.length_append, hbody] at hlength
    omega
  · intro hone
    rw [hheads hone]
    refine ⟨by rw [List.length_append, hbody, Nat.add_comm]; rfl, rfl, ?_⟩
    rw [List.forall_mem_append, List.forall_mem_singleton]
    refine ⟨rfl, fun cells hmem => ?_⟩
    obtain ⟨r, hr, rfl⟩ := List.mem_map.mp hmem
    rw [List.length_map]
    exact hcells r hr

/-- **The records of a table before an ordinary reader**: those of its rows, and before them one,
and one more for each carriage return that is bare in the source. -/
theorem exists_heads (h : ofText s withSteps limit = .ok t) :
    ∃ heads, records true t.sheet.csv.toList = heads ++ t.sheet.body ∧
      heads.length =
        (1 + if '\n' ∈ (strip s).toList then 0 else (strip s).toList.count '\r') ∧
      (heads.length = 1 → heads = [t.headers]) := by
  have hlast : t.source.toList.getLast? ≠ some '\r' := by
    rw [source_of_ofText h, strip, String.toList_ofList]
    intro hreturn
    exact absurd ((trimmed_stripChars s.toList).last _ hreturn) (by decide)
  obtain ⟨heads, hrecords, hlength, hheads⟩ := t.sheet.exists_records_csv
    (rectangular_of_ofText h).2 (whole_of_mem_heads h) hlast
  exact ⟨heads, hrecords, hlength.trans (congrArg (1 + ·) (bareReturns_source h)),
    fun hone => hheads (by omega)⟩

/-- **The comma-separated values of a text before an ordinary reader**, for which a carriage return
ends a record too.  Every table that is built from a text, with or without steps, is read as the
records of its rows behind one record for the heads, and one more for each carriage return inside
the text, where blanks at the ends do not count; but if there is a line feed inside it too, the text
is quoted, and none of them counts.  So the records are the table's if and only if there is no
carriage return inside, or also a line feed. -/
theorem records_of_ofText (h : ofText s withSteps limit = .ok t) :
    (∃ heads, records true t.sheet.csv.toList = heads ++ t.sheet.body ∧
        heads.length =
          1 + if '\n' ∈ (strip s).toList then 0 else (strip s).toList.count '\r') ∧
      (t.Structured (records true t.sheet.csv.toList) ↔
        ('\r' ∈ (strip s).toList → '\n' ∈ (strip s).toList)) := by
  obtain ⟨heads, hrecords, hlength, hheads⟩ := exists_heads h
  refine ⟨⟨heads, hrecords, hlength⟩, ?_⟩
  rw [hrecords, structured_iff h hheads, hlength]
  by_cases hfeed : '\n' ∈ (strip s).toList
  · rw [if_pos hfeed]
    exact iff_of_true rfl fun _ => hfeed
  · rw [if_neg hfeed, Nat.add_eq_left, List.count_eq_zero]
    exact ⟨fun hreturn hmem => absurd hmem hreturn, fun himp hmem => hfeed (himp hmem)⟩

/-- A text with both characters at the end of a line, and steps. -/
theorem records_of_ofText_quoted :
    ∃ t, ofText "p =>\r\n(q|!p)\r" true none = .ok t ∧ t.rows.length = 4 ∧
      t.Structured (records true t.sheet.csv.toList) := by
  have hparse : parse "p =>\r\n(q|!p)\r" =
      .ok (binary .implies (var "p") (binary .or (var "q") (neg (var "p")))) := by
    decide +kernel
  obtain ⟨t, ht, hcomplete⟩ :
      ∃ t, ofText "p =>\r\n(q|!p)\r" true none = .ok t ∧ Complete _ t :=
    exists_complete hparse (by decide) fun _ hnone => nomatch hnone
  have hfeed : '\n' ∈ (strip "p =>\r\n(q|!p)\r").toList := by decide +kernel
  exact ⟨t, ht, hcomplete.length_rows.trans (by decide),
    (records_of_ofText ht).2.mpr fun _ => hfeed⟩

/-- A carriage return inside the text breaks the record of the heads. -/
theorem records_inner_return :
    ∃ t, ofText "a &\rb" false none = .ok t ∧
      (records true t.sheet.csv.toList).length ≠ t.rows.length + 1 ∧
      ¬ t.Structured (records true t.sheet.csv.toList) := by
  have hparse : parse "a &\rb" = .ok (binary .and (var "a") (var "b")) := by decide +kernel
  obtain ⟨t, ht, -⟩ : ∃ t, ofText "a &\rb" false none = .ok t ∧ Complete _ t :=
    exists_complete hparse (by decide) fun _ hnone => nomatch hnone
  obtain ⟨heads, hrecords, hlength, -⟩ := exists_heads ht
  have htwo : heads.length = 2 := hlength.trans (by decide +kernel)
  have hbroken : (records true t.sheet.csv.toList).length ≠ t.rows.length + 1 := by
    rw [hrecords, List.length_append, htwo, Sheet.body, List.length_map]
    show 2 + t.rows.length ≠ t.rows.length + 1
    omega
  exact ⟨t, ht, hbroken, fun hstructured => hbroken hstructured.length_eq⟩

end Table

end TruthTables
