import TruthTables.Csv.Reader
import TruthTables.Table.Format

/-!
# Records read back

Comma-separated values are read back as the records that were written, whatever texts the fields
hold.  The reader goes through one field at a time, and behind the last character of a field it
stands outside quotes (`Reading.Stands`), so that the comma or line feed that follows ends the
field and is not part of it.  A carriage return is not quoted; where it ends a record too, the
fields must hold none outside quotes (`Whole`).

The line feeds at the end of the whole text are cut.  This takes away the line end of the last
record and no more, because the text of a record never ends with a line feed: a field that holds
one is quoted, and an empty field is quoted or stands behind a comma (`exists_recordText_eq`).
-/

namespace TruthTables

namespace Csv

def recordText (fields : List String) : List Char :=
  if fields = [""] then quoted [] else [','].intercalate (fields.map field)

theorem record_eq (fields : List String) : record fields = recordText fields ++ ['\n'] := rfl

theorem recordText_concat {init : List String} {last : String} (h : init ++ [last] ≠ [""]) :
    recordText (init ++ [last]) = (init.flatMap fun s => field s ++ [',']) ++ field last := by
  have hjoin : ∀ init : List String, [','].intercalate ((init ++ [last]).map field) =
      (init.flatMap fun s => field s ++ [',']) ++ field last := by
    intro init
    induction init with
    | nil => exact List.intercalate_singleton
    | cons s init ih =>
      rw [List.flatMap_cons, List.append_assoc, ← ih]
      cases init with
      | nil => exact List.intercalate_cons_cons
      | cons u init => exact List.intercalate_cons_cons
  rw [recordText, if_neg h, hjoin]

/-- A field that leaves its record in one piece: if a carriage return ends a record, the field has
none outside quotes. -/
def Whole (returns : Bool) (s : String) : Prop :=
  returns = true → '\r' ∈ s.toList → needsQuotes s.toList = true

theorem whole_false (s : String) : Whole false s := fun h => nomatch h

namespace Reading

/-- Where a reading stands behind the last character of a field: it is outside quotes, and with that
field it has read the given fields of the record. -/
structure Stands (r : Reading) (records : List (List String)) (fields : List String) : Prop where
  records_eq : r.records = records
  lastRecord_eq : r.lastRecord = fields
  outside : ∀ cs, r.mode ≠ .quoted cs
  afterReturn_eq : r.afterReturn = false

variable {returns : Bool} {r : Reading} {records : List (List String)} {fields : List String}

theorem Stands.step_comma (h : r.Stands records fields) :
    step returns r ',' = ⟨records, fields.reverse, .start, false⟩ := by
  obtain ⟨read, before, mode, afterReturn⟩ := r
  obtain ⟨rfl, rfl, houtside, rfl⟩ := h
  rw [lastRecord, List.reverse_reverse]
  cases mode with
  | start => rfl
  | plain cs => rfl
  | quoted cs => exact absurd rfl (houtside cs)
  | afterQuote cs => rfl

theorem Stands.step_feed (h : r.Stands records fields) :
    step returns r '\n' = ⟨fields :: records, [], .start, false⟩ := by
  obtain ⟨read, before, mode, afterReturn⟩ := r
  obtain ⟨rfl, rfl, houtside, rfl⟩ := h
  cases mode with
  | start => rfl
  | plain cs => rfl
  | quoted cs => exact absurd rfl (houtside cs)
  | afterQuote cs => rfl

theorem Stands.finish_eq (h : r.Stands records fields)
    (hbegun : ¬ (r.mode = .start ∧ r.fields = [])) : r.finish = (fields :: records).reverse := by
  rw [finish, if_neg hbegun, h.records_eq, h.lastRecord_eq]

theorem Stands.begun (h : r.Stands records fields) (hne : fields ≠ [""]) :
    ¬ (r.mode = .start ∧ r.fields = []) := by
  rintro ⟨hmode, hfields⟩
  apply hne
  rw [← h.lastRecord_eq, lastRecord, hmode, hfields]
  rfl

/-! ### One field -/

theorem foldl_step_plain {cs : List Char} (hcs : needsQuotes cs = false)
    (hreturns : returns = true → '\r' ∉ cs) (ds : List Char) :
    cs.foldl (step returns) ⟨records, fields, .plain ds, false⟩ =
      ⟨records, fields, .plain (cs.reverse ++ ds), false⟩ := by
  induction cs generalizing ds with
  | nil => rfl
  | cons c cs ih =>
    simp only [needsQuotes, List.any_cons, Bool.or_eq_false_iff, beq_eq_false_iff_ne] at hcs ih
    obtain ⟨⟨⟨hcomma, -⟩, hfeed⟩, hcs⟩ := hcs
    have hreturn : ¬ (c = '\r' ∧ returns = true) := fun h =>
      hreturns h.2 (h.1 ▸ List.mem_cons_self)
    have hstep : step returns ⟨records, fields, .plain ds, false⟩ c =
        ⟨records, fields, .plain (c :: ds), false⟩ := by
      simp only [step, stepOutside, if_neg hcomma, if_neg hfeed, if_neg hreturn]
    rw [List.foldl_cons, hstep, ih hcs fun h hmem => hreturns h (List.mem_cons_of_mem c hmem),
      List.reverse_cons, List.append_assoc, List.singleton_append]

/-- Inside quotes every character is read as it was written, a double quote from its two. -/
theorem foldl_step_doubleQuotes (cs ds : List Char) :
    (doubleQuotes cs).foldl (step returns) ⟨records, fields, .quoted ds, false⟩ =
      ⟨records, fields, .quoted (cs.reverse ++ ds), false⟩ := by
  induction cs generalizing ds with
  | nil => rfl
  | cons c cs ih =>
    have hstep : (if c = '"' then ['"', '"'] else [c]).foldl (step returns)
        ⟨records, fields, .quoted ds, false⟩ = ⟨records, fields, .quoted (c :: ds), false⟩ := by
      by_cases hc : c = '"'
      · subst hc
        rfl
      · simp [step, hc]
    rw [doubleQuotes, List.flatMap_cons, List.foldl_append, hstep]
    rw [doubleQuotes] at ih
    rw [ih, List.reverse_cons, List.append_assoc, List.singleton_append]

theorem stands_quoted (s : String) :
    ((quoted s.toList).foldl (step returns) ⟨records, fields, .start, false⟩).Stands records
      (s :: fields).reverse := by
  have hopen : step returns ⟨records, fields, .start, false⟩ '"' =
      ⟨records, fields, .quoted [], false⟩ := rfl
  have hclose : step returns ⟨records, fields, .quoted s.toList.reverse, false⟩ '"' =
      ⟨records, fields, .afterQuote s.toList.reverse, false⟩ := rfl
  rw [quoted, List.foldl_cons, hopen, List.foldl_append, foldl_step_doubleQuotes, List.append_nil,
    List.foldl_cons, List.foldl_nil, hclose]
  refine ⟨rfl, ?_, fun cs => Mode.noConfusion, rfl⟩
  rw [lastRecord, Mode.chars, List.reverse_reverse, String.ofList_toList]

theorem stands_unquoted {s : String} (h : needsQuotes s.toList = false)
    (hreturns : returns = true → '\r' ∉ s.toList) :
    (s.toList.foldl (step returns) ⟨records, fields, .start, false⟩).Stands records
      (s :: fields).reverse := by
  cases hs : s.toList with
  | nil =>
    obtain rfl : s = "" := String.toList_eq_nil_iff.mp hs
    exact ⟨rfl, rfl, fun cs => Mode.noConfusion, rfl⟩
  | cons c cs =>
    rw [hs] at hreturns
    rw [hs, needsQuotes, List.any_cons, Bool.or_eq_false_iff] at h
    obtain ⟨hc, hcs⟩ := h
    simp only [Bool.or_eq_false_iff, beq_eq_false_iff_ne] at hc
    have hreturn : ¬ (c = '\r' ∧ returns = true) := fun h =>
      hreturns h.2 (h.1 ▸ List.mem_cons_self)
    have hstep : step returns ⟨records, fields, .start, false⟩ c =
        ⟨records, fields, .plain [c], false⟩ := by
      simp [step, stepOutside, hc, hreturn]
    rw [List.foldl_cons, hstep,
      foldl_step_plain hcs fun h hmem => hreturns h (List.mem_cons_of_mem c hmem)]
    refine ⟨rfl, ?_, fun cs => Mode.noConfusion, rfl⟩
    rw [lastRecord, Mode.chars, List.reverse_append, List.reverse_reverse, List.reverse_singleton,
      List.singleton_append, ← hs, String.ofList_toList]

/-- **A field is read back**, quoted or not. -/
theorem stands_field {s : String} (h : Whole returns s) :
    ((field s).foldl (step returns) ⟨records, fields, .start, false⟩).Stands records
      (s :: fields).reverse := by
  rw [field]
  split
  next => exact stands_quoted s
  next hquotes =>
    exact stands_unquoted (eq_false_of_ne_true hquotes) fun hr hmem => hquotes (h hr hmem)

/-! ### One record -/

theorem foldl_step_fields {init : List String} (h : ∀ s ∈ init, Whole returns s) :
    (init.flatMap fun s => field s ++ [',']).foldl (step returns)
        ⟨records, fields, .start, false⟩ =
      ⟨records, init.reverse ++ fields, .start, false⟩ := by
  induction init generalizing fields with
  | nil => rfl
  | cons s init ih =>
    rw [List.forall_mem_cons] at h
    rw [List.flatMap_cons, List.foldl_append, List.foldl_append, List.foldl_cons, List.foldl_nil,
      (stands_field h.1).step_comma, List.reverse_reverse, ih h.2, List.reverse_cons,
      List.append_assoc, List.singleton_append]

/-- **A record is read back.** -/
theorem stands_recordText (h : fields ≠ []) (hwhole : ∀ s ∈ fields, Whole returns s) :
    ((recordText fields).foldl (step returns) ⟨records, [], .start, false⟩).Stands records
      fields := by
  by_cases hempty : fields = [""]
  · rw [hempty]
    exact stands_quoted ""
  · obtain ⟨init, last, rfl⟩ := (List.eq_nil_or_concat fields).resolve_left h
    rw [List.concat_eq_append] at hempty hwhole ⊢
    rw [List.forall_mem_append, List.forall_mem_singleton] at hwhole
    have hlast : ((field last).foldl (step returns) ⟨records, init.reverse, .start, false⟩).Stands
        records (last :: init.reverse).reverse := stands_field hwhole.2
    rw [List.reverse_cons, List.reverse_reverse] at hlast
    rw [recordText_concat hempty, List.foldl_append, foldl_step_fields hwhole.1, List.append_nil]
    exact hlast

theorem begun_recordText (h : fields ≠ []) (hwhole : ∀ s ∈ fields, Whole returns s) :
    ¬ (((recordText fields).foldl (step returns) ⟨records, [], .start, false⟩).mode = .start ∧
      ((recordText fields).foldl (step returns) ⟨records, [], .start, false⟩).fields = []) := by
  by_cases hempty : fields = [""]
  · -- the quotes of an empty field are read, so it is not taken for nothing
    rw [hempty]
    exact fun hmode => nomatch hmode.1
  · exact (stands_recordText h hwhole).begun hempty

theorem foldl_step_record (h : fields ≠ []) (hwhole : ∀ s ∈ fields, Whole returns s) :
    (record fields).foldl (step returns) ⟨records, [], .start, false⟩ =
      ⟨fields :: records, [], .start, false⟩ := by
  rw [record_eq, List.foldl_append]
  exact (stands_recordText h hwhole).step_feed

variable {rs : List (List String)}

theorem foldl_step_records (h : ∀ fields ∈ rs, fields ≠ [])
    (hwhole : ∀ fields ∈ rs, ∀ s ∈ fields, Whole returns s) :
    (rs.flatMap record).foldl (step returns) ⟨records, [], .start, false⟩ =
      ⟨rs.reverse ++ records, [], .start, false⟩ := by
  induction rs generalizing records with
  | nil => rfl
  | cons fields rs ih =>
    rw [List.forall_mem_cons] at h hwhole
    rw [List.flatMap_cons, List.foldl_append, foldl_step_record h.1 hwhole.1, ih h.2 hwhole.2,
      List.reverse_cons, List.append_assoc, List.singleton_append]

end Reading

/-! ### The end of the text -/

theorem exists_quoted_eq (cs : List Char) : ∃ ds, quoted cs = ds ++ ['"'] :=
  ⟨'"' :: doubleQuotes cs, rfl⟩

theorem exists_field_eq {s : String} (h : s ≠ "") : ∃ cs c, field s = cs ++ [c] ∧ c ≠ '\n' := by
  rw [field]
  split
  next =>
    obtain ⟨ds, hds⟩ := exists_quoted_eq s.toList
    exact ⟨ds, '"', hds, by decide⟩
  next hquotes =>
    have hne : s.toList ≠ [] := fun hnil => h (String.toList_eq_nil_iff.mp hnil)
    refine ⟨s.toList.dropLast, s.toList.getLast hne, (List.dropLast_concat_getLast hne).symm, ?_⟩
    intro hfeed
    refine hquotes (List.any_eq_true.mpr ⟨'\n', ?_, by decide⟩)
    exact hfeed ▸ List.getLast_mem hne

/-- **The text of a record does not end with a line feed.** -/
theorem exists_recordText_eq {fields : List String} (h : fields ≠ []) :
    ∃ cs c, recordText fields = cs ++ [c] ∧ c ≠ '\n' := by
  by_cases hempty : fields = [""]
  · obtain ⟨ds, hds⟩ := exists_quoted_eq []
    rw [recordText, if_pos hempty]
    exact ⟨ds, '"', hds, by decide⟩
  · obtain ⟨init, last, rfl⟩ := (List.eq_nil_or_concat fields).resolve_left h
    rw [List.concat_eq_append] at hempty ⊢
    rw [recordText_concat hempty]
    by_cases hlast : last = ""
    · -- the last field is empty, so the comma in front of it comes last
      subst hlast
      rcases List.eq_nil_or_concat init with rfl | ⟨before, s, rfl⟩
      · exact absurd rfl hempty
      · rw [List.concat_eq_append, List.flatMap_append, List.flatMap_singleton, ← List.append_assoc]
        exact ⟨_, ',', List.append_nil _, by decide⟩
    · obtain ⟨cs, c, hcs, hc⟩ := exists_field_eq hlast
      exact ⟨_, c, by rw [hcs, ← List.append_assoc], hc⟩

theorem dropFinalFeeds_append {cs : List Char} {c : Char} (h : c ≠ '\n') :
    dropFinalFeeds (cs ++ [c] ++ ['\n']) = cs ++ [c] := by
  simp [dropFinalFeeds, h]

theorem chars_concat {init : List (List String)} {last : List String} (h : last ≠ []) :
    chars (init ++ [last]) = init.flatMap record ++ recordText last := by
  obtain ⟨cs, c, hlast, hc⟩ := exists_recordText_eq h
  rw [chars, List.flatMap_append, List.flatMap_singleton, record_eq, hlast, ← List.append_assoc,
    ← List.append_assoc, dropFinalFeeds_append hc]

/-- **Only the line end of the last record is cut** from the text of several records. -/
theorem chars_append_feed {rs : List (List String)} (h : ∀ fields ∈ rs, fields ≠ [])
    (hne : rs ≠ []) : chars rs ++ ['\n'] = rs.flatMap record := by
  obtain ⟨init, last, rfl⟩ := (List.eq_nil_or_concat rs).resolve_left hne
  rw [List.concat_eq_append] at h ⊢
  rw [List.forall_mem_append, List.forall_mem_singleton] at h
  rw [chars_concat h.2, List.append_assoc, ← record_eq, List.flatMap_append, List.flatMap_singleton]

theorem finish_foldl_chars {returns : Bool} {rs read : List (List String)} (hne : rs ≠ [])
    (h : ∀ fields ∈ rs, fields ≠ []) (hwhole : ∀ fields ∈ rs, ∀ s ∈ fields, Whole returns s) :
    ((chars rs).foldl (Reading.step returns) ⟨read, [], .start, false⟩).finish =
      read.reverse ++ rs := by
  obtain ⟨init, last, rfl⟩ := (List.eq_nil_or_concat rs).resolve_left hne
  rw [List.concat_eq_append] at h hwhole ⊢
  rw [List.forall_mem_append, List.forall_mem_singleton] at h hwhole
  rw [chars_concat h.2, List.foldl_append, Reading.foldl_step_records h.1 hwhole.1,
    (Reading.stands_recordText h.2 hwhole.2).finish_eq (Reading.begun_recordText h.2 hwhole.2),
    List.reverse_cons, List.reverse_append, List.reverse_reverse, List.append_assoc]

theorem records_chars_of_whole {returns : Bool} {rs : List (List String)}
    (h : ∀ fields ∈ rs, fields ≠ []) (hwhole : ∀ fields ∈ rs, ∀ s ∈ fields, Whole returns s) :
    records returns (chars rs) = rs := by
  by_cases hne : rs = []
  · rw [hne]
    rfl
  · exact finish_foldl_chars hne h hwhole

/-- **Records are read back from their text**, if each of them has a field. -/
theorem records_chars {rs : List (List String)} (h : ∀ fields ∈ rs, fields ≠ []) :
    records false (chars rs) = rs :=
  records_chars_of_whole h fun _ _ s _ => whole_false s

end Csv

/-! ### Sheets -/

namespace Sheet

theorem headers_ne_nil (s : Sheet) : s.headers ≠ [] :=
  List.append_ne_nil_of_right_ne_nil _ (List.cons_ne_nil _ _)

theorem ne_nil_of_mem_body {s : Sheet} {cells : List String} (h : cells ∈ s.body) : cells ≠ [] := by
  obtain ⟨r, -, rfl⟩ := List.mem_map.mp h
  intro hnil
  have hcells : r.cells = [] := List.map_eq_nil_iff.mp hnil
  exact List.append_ne_nil_of_right_ne_nil _ (List.cons_ne_nil _ _) hcells

theorem csv_eq {s : Sheet} (h : s.rows ≠ []) :
    s.csv = String.ofList (Csv.chars (s.headers :: s.body)) :=
  if_neg fun hempty => h (List.isEmpty_iff.mp hempty)

/-- **Comma-separated values are read back as the sheet**, whatever texts stand at the heads of its
columns: one record with the heads, and one record for each row with the words for the values of
its assignment, for its steps and for its result.  The text lacks the last line end of its records,
and nothing else. -/
theorem records_csv (s : Sheet) (h : s.rows ≠ []) :
    Csv.records false s.csv.toList =
        (s.vars ++ s.steps ++ [s.source]) :: s.rows.map (fun r =>
          (r.assignment.values ++ r.steps ++ [r.result]).map
            fun b => if b then "true" else "false") ∧
      s.csv.toList ++ ['\n'] = (s.headers :: s.body).flatMap Csv.record := by
  have hfields : ∀ fields ∈ s.headers :: s.body, fields ≠ [] :=
    List.forall_mem_cons.mpr ⟨s.headers_ne_nil, fun cells => ne_nil_of_mem_body⟩
  rw [csv_eq h, String.toList_ofList]
  exact ⟨Csv.records_chars hfields, Csv.chars_append_feed hfields (List.cons_ne_nil _ _)⟩

/-- An empty head, a head with a comma and quotes, and a head that is a line feed. -/
theorem records_csv_awkward :
    let s : Sheet := ⟨"\n", [""], ["p,\"q\""], [⟨⟨[("", true)], by decide⟩, [false], true⟩]⟩
    s.rows ≠ [] ∧
      Csv.records false s.csv.toList = [["", "p,\"q\"", "\n"], ["true", "false", "true"]] :=
  ⟨List.cons_ne_nil _ _, (records_csv _ (List.cons_ne_nil _ _)).1⟩

end Sheet

end TruthTables
