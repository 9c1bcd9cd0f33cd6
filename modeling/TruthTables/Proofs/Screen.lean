import TruthTables.Proofs.Boxes
import TruthTables.Proofs.Columns

/-!
# A box on the screen

A screen breaks a text at every line feed, also at one inside a record of a box.  Names, steps and
cells have no line feed, for they are written without blanks (`not_isBlank_of_mem_chars`).  The
source is shown as it was given, and blanks are cut off at its ends only.  So the box of a text is a
rectangle if and only if no line feed is left inside the source; each one that is left breaks the
line of the heads once more.
-/

namespace TruthTables

/-! ### Lines -/

namespace Text

variable {cs piece : List Char}

def screenLines (s : String) : List (List Char) := s.toList.splitOn '\n'

theorem splitOn_of_not_mem (h : '\n' ∉ cs) : cs.splitOn '\n' = [cs] := by
  rw [List.splitOn_eq_splitOnP]
  exact List.splitOnP_eq_singleton fun c hc => beq_eq_false_iff_ne.mpr fun heq => h (heq ▸ hc)

theorem splitOn_append_feed (cs ds : List Char) :
    (cs ++ '\n' :: ds).splitOn '\n' = cs.splitOn '\n' ++ ds.splitOn '\n' := by
  simp only [List.splitOn_eq_splitOnP]
  exact List.splitOnP_append_cons cs ds (beq_self_eq_true '\n')

theorem splitOn_intercalate {records : List (List Char)} (h : records ≠ []) :
    (['\n'].intercalate records).splitOn '\n' = records.flatMap fun cs => cs.splitOn '\n' := by
  induction records with
  | nil => exact absurd rfl h
  | cons first rest ih =>
    cases rest with
    | nil => rw [List.intercalate_singleton, List.flatMap_singleton]
    | cons second others =>
      rw [List.intercalate_cons_cons, List.append_assoc, List.singleton_append,
        splitOn_append_feed, ih (List.cons_ne_nil _ _)]
      rfl

theorem splitOn_cons (c : Char) (cs : List Char) : ∃ first rest, cs.splitOn '\n' = first :: rest ∧
    (c :: cs).splitOn '\n' = if c = '\n' then [] :: first :: rest else (c :: first) :: rest := by
  obtain ⟨first, rest, hsplit⟩ :=
    List.exists_cons_of_ne_nil (List.splitOnP_ne_nil (fun d => d == '\n') cs)
  refine ⟨first, rest, List.splitOn_eq_splitOnP.trans hsplit, ?_⟩
  rw [List.splitOn_eq_splitOnP, List.splitOnP_cons_eq_if_modifyHead, hsplit]
  simp only [beq_iff_eq, List.modifyHead_cons]

theorem length_splitOn (cs : List Char) : (cs.splitOn '\n').length = cs.count '\n' + 1 := by
  induction cs with
  | nil => rfl
  | cons c cs ih =>
    obtain ⟨first, rest, hsplit, hcons⟩ := splitOn_cons c cs
    rw [hsplit, List.length_cons] at ih
    rw [hcons]
    by_cases hc : c = '\n'
    · rw [if_pos hc, hc, List.count_cons_self, List.length_cons, List.length_cons, ih]
    · rw [if_neg hc, List.count_cons_of_ne hc, List.length_cons, ih]

theorem length_add_count_le_of_mem_splitOn (h : piece ∈ cs.splitOn '\n') :
    piece.length + cs.count '\n' ≤ cs.length := by
  induction cs generalizing piece with
  | nil => rw [List.mem_singleton.mp h]; rfl
  | cons c cs ih =>
    obtain ⟨first, rest, hsplit, hcons⟩ := splitOn_cons c cs
    rw [hcons] at h
    rw [hsplit] at ih
    by_cases hc : c = '\n'
    · rw [if_pos hc] at h
      rw [hc, List.count_cons_self, List.length_cons, ← Nat.add_assoc]
      refine Nat.succ_le_succ ?_
      rcases List.mem_cons.mp h with rfl | h
      · rw [List.length_nil, Nat.zero_add]
        exact List.count_le_length
      · exact ih h
    · rw [if_neg hc] at h
      rw [List.count_cons_of_ne hc, List.length_cons]
      rcases List.mem_cons.mp h with rfl | h
      · have hfirst := ih List.mem_cons_self
        rw [List.length_cons]
        omega
      · exact Nat.le_succ_of_le (ih (List.mem_cons_of_mem _ h))

end Text

/-! ### Line feeds in a box -/

namespace Sheet

open Box Text

namespace Box

variable {ws : List Nat} {texts : List String}

def feeds (s : String) : Nat := s.toList.count '\n'

theorem count_framed (w : Nat) (s : String) : (framed false w s).count '\n' = feeds s := by
  simp [framed, cell, fill, feeds, List.count_append, List.count_replicate]

theorem count_fence_framed (hlength : ws.length = texts.length) :
    (fence '|' (ws.zipWith (framed false) texts)).count '\n' = (texts.map feeds).sum := by
  induction texts generalizing ws with
  | nil =>
    rw [List.length_eq_zero_iff.mp hlength]
    rfl
  | cons text texts ih =>
    obtain ⟨w, ws, rfl⟩ := List.exists_cons_of_length_eq_add_one hlength
    rw [List.zipWith_cons_cons, fence_cons, List.count_cons_of_ne (by decide), List.count_append,
      count_framed, ih (Nat.succ.inj hlength), List.map_cons, List.sum_cons]

/-- **A line has the line feeds of its texts.** -/
theorem count_line (hlength : ws.length = texts.length) (h : texts ≠ []) :
    (line false ws texts).count '\n' = (texts.map feeds).sum := by
  rw [line_eq_fence hlength h, count_fence_framed hlength]

theorem feeds_word (b : Bool) : feeds (word b) = 0 := by cases b <;> decide

end Box

variable {s : Sheet}

theorem Rectangular.count_head (h : s.Rectangular) :
    (line false (widths s.headers s.body) s.headers).count '\n' = (s.headers.map feeds).sum :=
  count_line (h.fits List.mem_cons_self).length_eq s.headers_ne_nil

theorem Rectangular.not_mem_row (h : s.Rectangular) {cells : List String}
    (hcells : cells ∈ s.body) : '\n' ∉ line false (widths s.headers s.body) cells := by
  obtain ⟨r, -, rfl⟩ := List.mem_map.mp hcells
  rw [← List.count_eq_zero,
    count_line (h.fits (List.mem_cons_of_mem _ hcells)).length_eq (ne_nil_of_mem_body hcells),
    List.map_map]
  refine List.sum_eq_zero fun n hn => ?_
  obtain ⟨b, -, rfl⟩ := List.mem_map.mp hn
  exact feeds_word b

variable {box : String}

/-- **The lines of a box on the screen**: only the line of the heads is broken. -/
theorem Rectangular.screenLines_eq (h : s.Rectangular) (hrows : s.rows ≠ [])
    (hbox : s.box false = .ok box) :
    screenLines box =
      rule (widths s.headers s.body) ::
        ((line false (widths s.headers s.body) s.headers).splitOn '\n' ++
          rule (widths s.headers s.body) :: (s.body.map (line false (widths s.headers s.body)) ++
            [rule (widths s.headers s.body)])) := by
  have hrule : (rule (widths s.headers s.body)).splitOn '\n' =
      [rule (widths s.headers s.body)] := by
    refine splitOn_of_not_mem fun hfeed => ?_
    rcases mem_rule h.widths_ne_nil hfeed with heq | heq <;> cases heq
  have hbody : (s.body.map (line false (widths s.headers s.body))).flatMap (·.splitOn '\n') =
      s.body.map (line false (widths s.headers s.body)) := by
    rw [List.flatMap_map, ← List.flatMap_pure_eq_map]
    exact List.flatMap_congr fun cells hcells => splitOn_of_not_mem (h.not_mem_row hcells)
  have hne : lines false s.headers s.body ≠ [] := List.cons_ne_nil _ _
  rw [← Except.ok.inj ((h.box_eq hrows false).symm.trans hbox), screenLines, String.toList_ofList,
    Text.splitOn_intercalate hne, lines]
  simp only [List.flatMap_append, List.flatMap_cons, List.flatMap_nil, hrule, hbody,
    List.cons_append, List.nil_append, List.append_nil]

theorem Rectangular.length_screenLines (h : s.Rectangular) (hrows : s.rows ≠ [])
    (hbox : s.box false = .ok box) :
    (screenLines box).length = s.rows.length + 4 + (s.headers.map feeds).sum := by
  rw [h.screenLines_eq hrows hbox, List.length_cons, List.length_append, length_splitOn,
    h.count_head]
  simp only [List.length_cons, List.length_append, List.length_map, List.length_nil, body]
  omega

/-- **A box is a rectangle if and only if no head has a line feed.** -/
theorem Rectangular.rectangle_iff (h : s.Rectangular) (hrows : s.rows ≠ [])
    (hbox : s.box false = .ok box) :
    (∃ width, ∀ line ∈ screenLines box, line.length = width) ↔ (s.headers.map feeds).sum = 0 := by
  rw [← h.count_head, h.screenLines_eq hrows hbox]
  have hhead := h.length_line (List.mem_cons_of_mem _ List.mem_cons_self)
  constructor
  · rintro ⟨width, hwidth⟩
    rw [List.forall_mem_cons, List.forall_mem_append] at hwidth
    obtain ⟨hrule, hpieces, -⟩ := hwidth
    -- a piece of the line of the heads, which has the length of the rule only if it is all of it
    obtain ⟨piece, hpiece⟩ := List.exists_mem_of_length_pos
      (Nat.lt_of_lt_of_eq (Nat.succ_pos _) (length_splitOn _).symm)
    have hle := length_add_count_le_of_mem_splitOn hpiece
    rw [hpieces piece hpiece, hhead, hrule] at hle
    omega
  · intro hcount
    rw [splitOn_of_not_mem (List.count_eq_zero.mp hcount)]
    exact ⟨_, fun record hrecord => h.length_line hrecord⟩

end Sheet

/-! ### The box of a text -/

namespace Formula

open Token

/-- **A formula is written without blanks.** -/
theorem not_isBlank_of_mem_chars {e : Formula} (h : e.WellNamed) :
    ∀ c ∈ e.chars, Text.isBlank c = false := by
  intro c hc
  rw [← lexemes_tokens] at hc
  obtain ⟨t, ht, hct⟩ := List.mem_flatMap.mp hc
  exact not_isBlank_of_mem_lexeme (spelled_of_mem (separable_tokens h) t ht) c hct

open Sheet.Box in
theorem feeds_text {e : Formula} (h : e.WellNamed) : feeds e.text = 0 := by
  rw [feeds, text, String.toList_ofList, List.count_eq_zero]
  intro hfeed
  have hblank := not_isBlank_of_mem_chars h _ hfeed
  revert hblank
  decide

end Formula

namespace Table

open Formula Sheet.Box Text

variable {s : String} {withSteps : Bool} {limit : Option Int} {t : Table Formula}

/-- **Of the heads only the source has line feeds.** -/
theorem sum_feeds_headers (h : ofText s withSteps limit = .ok t) :
    (t.headers.map feeds).sum = feeds (strip s) := by
  obtain ⟨e, he, rfl⟩ := exists_of_ofText_eq_ok h
  have hnamed := wellNamed_of_parse he
  have hvars : (e.vars.map feeds).sum = 0 := by
    refine List.sum_eq_zero fun n hn => ?_
    obtain ⟨name, hname, rfl⟩ := List.mem_map.mp hn
    rw [← text_var name, feeds_text (wellNamed_of_mem_vars hnamed hname)]
  have hsteps : (((e.shownSteps withSteps).map Formula.text).map feeds).sum = 0 := by
    refine List.sum_eq_zero fun n hn => ?_
    rw [List.map_map] at hn
    obtain ⟨step, hstep, rfl⟩ := List.mem_map.mp hn
    exact feeds_text (wellNamed_of_mem_steps hnamed (mem_steps_of_mem_shownSteps hstep))
  rw [headers, sheet, Sheet.headers, List.map_append, List.map_append, List.sum_append,
    List.sum_append, hvars, hsteps, List.map_singleton, List.sum_singleton, Nat.zero_add]

theorem rectangular_of_ofText (h : ofText s withSteps limit = .ok t) :
    t.sheet.Rectangular ∧ t.sheet.rows ≠ [] := by
  obtain ⟨e, -, ht⟩ := exists_of_ofText_eq_ok h
  have hcomplete : Complete e t := by
    rw [ht]
    exact complete_of_rows_eq rfl rfl
  exact ⟨hcomplete.length_cells, List.isEmpty_eq_false_iff.mp hcomplete.isEmpty_eq⟩

/-- **The box of a text on the screen.**  Every table that is built from a text, with or without
steps, is shown as a box.  It has a line for each row and four more, and one more for each line feed
inside the text, where blanks at the ends do not count.  Its lines have the same length if and only
if there is no such line feed. -/
theorem screenLines_of_ofText (h : ofText s withSteps limit = .ok t) :
    ∃ box, t.sheet.box false = .ok box ∧
      (screenLines box).length = t.rows.length + 4 + (strip s).toList.count '\n' ∧
      ((∃ width, ∀ line ∈ screenLines box, line.length = width) ↔ '\n' ∉ (strip s).toList) := by
  obtain ⟨hcells, hrows⟩ := rectangular_of_ofText h
  have hbox := hcells.box_eq hrows false
  have hfeeds : (t.sheet.headers.map feeds).sum = (strip s).toList.count '\n' := sum_feeds_headers h
  refine ⟨_, hbox, ?_, ?_⟩
  · rw [hcells.length_screenLines hrows hbox, hfeeds]
    rfl
  · rw [hcells.rectangle_iff hrows hbox, hfeeds, List.count_eq_zero]

/-- A line feed at the end of the text, and steps. -/
theorem screenLines_of_ofText_final_feed :
    ∃ t, ofText "p => (q|!p)\n" true none = .ok t ∧ ∃ box, t.sheet.box false = .ok box ∧
      (screenLines box).length = 8 ∧ ∃ width, ∀ line ∈ screenLines box, line.length = width := by
  have hparse : parse "p => (q|!p)\n" =
      .ok (binary .implies (var "p") (binary .or (var "q") (neg (var "p")))) := by
    decide +kernel
  obtain ⟨t, ht, hcomplete⟩ :
      ∃ t, ofText "p => (q|!p)\n" true none = .ok t ∧ Complete _ t :=
    exists_complete hparse (by decide) fun _ hnone => nomatch hnone
  have hrows : t.rows.length = 4 := hcomplete.length_rows.trans (by decide)
  have hfeeds : (strip "p => (q|!p)\n").toList.count '\n' = 0 := by decide +kernel
  obtain ⟨box, hbox, hlength, hrectangle⟩ := screenLines_of_ofText ht
  refine ⟨t, ht, box, hbox, ?_, hrectangle.mpr (List.count_eq_zero.mp hfeeds)⟩
  rw [hlength, hrows, hfeeds]

/-- A line feed inside the text breaks the line of the heads. -/
theorem screenLines_inner_feed :
    ∃ t, ofText "a &\nb" false none = .ok t ∧ ∃ box, t.sheet.box false = .ok box ∧
      (screenLines box).length ≠ t.rows.length + 4 ∧
      ¬ ∃ width, ∀ line ∈ screenLines box, line.length = width := by
  have hparse : parse "a &\nb" = .ok (binary .and (var "a") (var "b")) := by decide +kernel
  obtain ⟨t, ht, -⟩ : ∃ t, ofText "a &\nb" false none = .ok t ∧ Complete _ t :=
    exists_complete hparse (by decide) fun _ hnone => nomatch hnone
  have hfeeds : (t.sheet.headers.map feeds).sum = 1 :=
    (sum_feeds_headers ht).trans (by decide +kernel)
  obtain ⟨hcells, hrows⟩ := rectangular_of_ofText ht
  have hbox := hcells.box_eq hrows false
  refine ⟨t, ht, _, hbox, ?_, ?_⟩
  · rw [hcells.length_screenLines hrows hbox, hfeeds]
    exact (Nat.lt_succ_self _).ne'
  · rw [hcells.rectangle_iff hrows hbox, hfeeds]
    exact one_ne_zero

end Table

end TruthTables
