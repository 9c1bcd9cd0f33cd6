import TruthTables.Proofs.Boxes

/-!
# The colours of a box

The colours go around a filled cell, so a box with colours has the records of the box without
(`painted_lines`).  To take the codes out again gives the box without colours, unless a head holds
a code; that none arises where a head and the blank behind it meet is the point of
`erases_of_codeFree`.
-/

namespace TruthTables

namespace Sheet

namespace Box

/-! ### Codes -/

def green : List Char := ['\x1b', '[', '3', '2', 'm']

def red : List Char := ['\x1b', '[', '3', '1', 'm']

def codes : List (List Char) := [green, red, resetCode]

def paint (b : Bool) (filled : List Char) : List Char :=
  (if b then green else red) ++ filled ++ resetCode

def deleteCodes : List Char → List Char
  | '\x1b' :: '[' :: '3' :: '2' :: 'm' :: rest => deleteCodes rest
  | '\x1b' :: '[' :: '3' :: '1' :: 'm' :: rest => deleteCodes rest
  | '\x1b' :: '[' :: '0' :: 'm' :: rest => deleteCodes rest
  | c :: rest => c :: deleteCodes rest
  | [] => []

theorem cell_true_word (w : Nat) (b : Bool) :
    cell true w (word b) = paint b (cell false w (word b)) := by
  cases b <;> rfl

theorem zipWith_cell_true (ws : List Nat) (values : List Bool) :
    ws.zipWith (cell true) (values.map word) =
      values.zipWith paint (ws.zipWith (cell false) (values.map word)) := by
  induction ws generalizing values with
  | nil => simp
  | cons w ws ih =>
    cases values with
    | nil => rfl
    | cons b values =>
      simp only [List.map_cons, List.zipWith_cons_cons]
      rw [cell_true_word, ih]

theorem deleteCodes_cons {c : Char} {rest : List Char} (h : ∀ code ∈ codes, ¬ code <+: c :: rest) :
    deleteCodes (c :: rest) = c :: deleteCodes rest := by
  rw [deleteCodes]
  · rintro rest' rfl rfl
    exact h green (by simp [codes]) ⟨rest', rfl⟩
  · rintro rest' rfl rfl
    exact h red (by simp [codes]) ⟨rest', rfl⟩
  · rintro rest' rfl rfl
    exact h resetCode (by simp [codes]) ⟨rest', rfl⟩

/-- Without the codes the characters `cs` are `ds`, whatever stands behind them. -/
def Erases (cs ds : List Char) : Prop :=
  ∀ rest, deleteCodes (cs ++ rest) = ds ++ deleteCodes rest

variable {cs cs' ds ds' : List Char}

theorem Erases.append (h : Erases cs ds) (h' : Erases cs' ds') :
    Erases (cs ++ cs') (ds ++ ds') := by
  intro rest
  rw [List.append_assoc, h, h', List.append_assoc]

theorem Erases.eq (h : Erases cs ds) : deleteCodes cs = ds := by
  have hnil := h []
  rwa [deleteCodes, List.append_nil, List.append_nil] at hnil

theorem erases_code {code : List Char} (h : code ∈ codes) : Erases code [] := by
  simp only [codes, List.mem_cons, List.not_mem_nil, or_false] at h
  intro rest
  rcases h with rfl | rfl | rfl
  · rw [green]; simp [deleteCodes]
  · rw [red]; simp [deleteCodes]
  · rw [resetCode]; simp [deleteCodes]

theorem head?_code {code : List Char} (h : code ∈ codes) : code.head? = some '\x1b' := by
  simp only [codes, List.mem_cons, List.not_mem_nil, or_false] at h
  rcases h with rfl | rfl | rfl <;> rfl

theorem erases_of_not_mem (h : '\x1b' ∉ cs) : Erases cs cs := by
  intro rest
  induction cs with
  | nil => rfl
  | cons c cs ih =>
    rw [List.mem_cons, not_or] at h
    rw [List.cons_append, deleteCodes_cons, ih h.2, List.cons_append]
    intro code hcode hprefix
    obtain ⟨tail, htail⟩ := hprefix
    have hhead := congrArg List.head? htail
    rw [List.head?_append, head?_code hcode] at hhead
    exact h.1 (Option.some.inj hhead)

/-- **A text that holds no code stays**, when a blank stands behind it. -/
theorem erases_of_codeFree (h : ∀ code ∈ codes, ¬ code <:+: cs) :
    Erases (cs ++ [' ']) (cs ++ [' ']) := by
  have hblank : ∀ code ∈ codes, ' ' ∉ code := by
    intro code hcode
    simp only [codes, List.mem_cons, List.not_mem_nil, or_false] at hcode
    rcases hcode with rfl | rfl | rfl <;> decide
  intro rest
  induction cs with
  | nil => exact erases_of_not_mem (by decide) rest
  | cons c cs ih =>
    have hrest : ∀ code ∈ codes, ¬ code <:+: cs := fun code hcode hinside =>
      h code hcode (hinside.trans (List.suffix_cons c cs).isInfix)
    rw [List.cons_append, List.cons_append, deleteCodes_cons, ih hrest]
    · rfl
    · intro code hcode hprefix
      -- a code at this place would end before the blank, or the blank would be part of it
      have hshort : c :: cs ++ [' '] <+: c :: (cs ++ [' '] ++ rest) := ⟨rest, by simp⟩
      rcases List.prefix_or_prefix_of_prefix hprefix hshort with hcs | hcode'
      · rcases List.prefix_concat_iff.mp hcs with rfl | hcs
        · exact hblank _ hcode (by simp)
        · exact h code hcode hcs.isInfix
      · exact hblank code hcode (hcode'.subset (by simp))

theorem erases_fence {pieces pieces' : List (List Char)} (h : List.Forall₂ Erases pieces pieces') :
    Erases (fence '|' pieces) (fence '|' pieces') := by
  have hbar : Erases ['|'] ['|'] := erases_of_not_mem (by decide)
  induction h with
  | nil => exact hbar
  | cons hhead _ ih =>
    rw [fence_cons, fence_cons]
    exact hbar.append (hhead.append ih)

theorem erases_intercalate {lines lines' : List (List Char)}
    (h : List.Forall₂ Erases lines lines') :
    Erases (['\n'].intercalate lines) (['\n'].intercalate lines') := by
  have hfeed : Erases ['\n'] ['\n'] := erases_of_not_mem (by decide)
  induction h with
  | nil => exact erases_of_not_mem List.not_mem_nil
  | @cons line line' rest rest' hhead hrest ih =>
    cases hrest with
    | nil => rwa [List.intercalate_singleton, List.intercalate_singleton]
    | cons _ _ =>
      rw [List.intercalate_cons_cons, List.intercalate_cons_cons]
      exact (hhead.append hfeed).append ih

theorem erases_framed_word (w : Nat) (b : Bool) :
    Erases (framed true w (word b)) (framed false w (word b)) := by
  have hblank : Erases [' '] [' '] := erases_of_not_mem (by decide)
  have hfill : Erases (fill w (word b)) (fill w (word b)) := by
    refine erases_of_not_mem fun hmem => ?_
    rcases List.mem_append.mp hmem with hword | hblanks
    · exact absurd hword (by cases b <;> decide)
    · exact absurd (List.eq_of_mem_replicate hblanks) (by decide)
  have hcolor : Erases (if b then green else red) [] :=
    erases_code (by cases b <;> simp [codes])
  have hreset : Erases resetCode [] := erases_code (by simp [codes])
  have hpaint : Erases (paint b (fill w (word b))) (fill w (word b)) := by
    have hpainted := (hcolor.append hfill).append hreset
    rwa [List.nil_append, List.append_nil] at hpainted
  rw [framed, cell_true_word]
  exact hblank.append (hpaint.append hblank)

theorem erases_framed_head {head : String} (h : ∀ code ∈ codes, ¬ code <:+: head.toList) (w : Nat) :
    Erases (framed false w head) (framed false w head) := by
  have hblanks (n : Nat) : Erases (List.replicate n ' ') (List.replicate n ' ') :=
    erases_of_not_mem fun hmem => absurd (List.eq_of_mem_replicate hmem) (by decide)
  have hframed : framed false w head =
      List.replicate 1 ' ' ++ (head.toList ++ [' '] ++ List.replicate (w - head.length) ' ') := by
    have hfill : fill w head ++ [' '] =
        head.toList ++ [' '] ++ List.replicate (w - head.length) ' ' := by
      rw [fill, List.append_assoc, List.append_assoc, ← List.replicate_succ', List.replicate_succ]
      rfl
    rw [← hfill]
    rfl
  rw [hframed]
  exact (hblanks 1).append ((erases_of_codeFree h).append (hblanks _))

theorem erases_line {color : Bool} {ws : List Nat} {texts : List String}
    (hlength : ws.length = texts.length) (hne : texts ≠ [])
    (h : ∀ text ∈ texts, ∀ w, Erases (framed color w text) (framed false w text)) :
    Erases (line color ws texts) (line false ws texts) := by
  rw [line_eq_fence hlength hne, line_eq_fence hlength hne]
  apply erases_fence
  clear hlength hne
  induction texts generalizing ws with
  | nil => rw [List.zipWith_nil_right, List.zipWith_nil_right]; exact .nil
  | cons text texts ih =>
    rw [List.forall_mem_cons] at h
    cases ws with
    | nil => exact .nil
    | cons w ws => exact .cons (h.1 w) (ih h.2)

end Box

/-! ### Boxes -/

open Box

/-- The records `painted` are the records of a box with the cells below the heads in colour. -/
structure Painted (s : Sheet) (ws : List Nat) (records painted : List (List Char)) : Prop where
  count : painted.length = records.length
  same : ∀ k, k < 3 ∨ s.rows.length + 3 ≤ k → painted[k]? = records[k]?
  row : ∀ k r, s.rows[k]? = some r →
    records[k + 3]? = some (bars (ws.zipWith fill (r.cells.map word))) ∧
      painted[k + 3]? = some (bars (r.cells.zipWith paint (ws.zipWith fill (r.cells.map word))))

variable {s : Sheet}

/-- **The lines of a box with colours.** -/
theorem painted_lines (s : Sheet) :
    s.Painted (widths s.headers s.body) (lines false s.headers s.body)
      (lines true s.headers s.body) where
  count := by rw [length_lines, length_lines]
  same k hk := by
    rcases hk with hk | hk
    · rcases k with _ | _ | _ | k
      · rfl
      · rfl
      · rfl
      · omega
    · rcases Nat.eq_or_lt_of_le hk with rfl | hk
      · rw [getElem?_lines_last, getElem?_lines_last]
      · rw [List.getElem?_eq_none (by rw [length_lines]; omega),
          List.getElem?_eq_none (by rw [length_lines]; omega)]
  row k r hk := by
    rw [getElem?_lines_row hk, getElem?_lines_row hk, line_eq_bars, line_eq_bars,
      zipWith_cell_true]
    exact ⟨rfl, rfl⟩

theorem Rectangular.erases_lines (h : s.Rectangular)
    (hheads : ∀ head ∈ s.headers, ∀ code ∈ codes, ¬ code <:+: head.toList) :
    List.Forall₂ Erases (lines true s.headers s.body) (lines false s.headers s.body) := by
  have hrule : Erases (rule (widths s.headers s.body)) (rule (widths s.headers s.body)) := by
    refine erases_of_not_mem fun hmem => ?_
    rcases mem_rule h.widths_ne_nil hmem with heq | heq <;> cases heq
  have hhead := erases_line (h.fits List.mem_cons_self).length_eq s.headers_ne_nil
    fun head hhead w => erases_framed_head (hheads head hhead) w
  have hbody : List.Forall₂ Erases (s.body.map (line true (widths s.headers s.body)))
      (s.body.map (line false (widths s.headers s.body))) := by
    rw [List.forall₂_map_left_iff, List.forall₂_map_right_iff, List.forall₂_same]
    intro cells hcells
    refine erases_line (h.fits (List.mem_cons_of_mem _ hcells)).length_eq
      (ne_nil_of_mem_body hcells) fun text htext w => ?_
    obtain ⟨r, -, rfl⟩ := List.mem_map.mp hcells
    obtain ⟨b, -, rfl⟩ := List.mem_map.mp htext
    exact erases_framed_word w b
  exact List.rel_append (List.rel_append (.cons hrule (.cons hhead (.cons hrule .nil))) hbody)
    (.cons hrule .nil)

/-- **A box loses no cell, and colours change nothing else.**  A sheet with rows, all of them as
long as its heads, is shown with and without colours: as records between line feeds, of which those
without colours are cut into the padded texts, and those with colours have codes around the cells
of the rows.  Unless a head holds a code, the text without the codes is the text without colours. -/
theorem box_layout (s : Sheet) (hrows : s.rows ≠ []) (h : s.Rectangular) :
    ∃ ws records painted,
      s.box false = .ok (String.ofList (['\n'].intercalate records)) ∧
      s.box true = .ok (String.ofList (['\n'].intercalate painted)) ∧
      s.Boxed ws records ∧ s.Painted ws records painted ∧
      ((∀ head ∈ s.headers, ∀ code ∈ codes, ¬ code <:+: head.toList) →
        deleteCodes (['\n'].intercalate painted) = ['\n'].intercalate records) := by
  refine ⟨_, _, _, h.box_eq hrows false, h.box_eq hrows true, h.boxed, painted_lines s, ?_⟩
  intro hheads
  exact (erases_intercalate (h.erases_lines hheads)).eq

/-- A head of two lines, and a cell that is wider than its head. -/
theorem box_layout_broken_head :
    let s : Sheet := ⟨"p\n&", ["p"], [], [⟨⟨[("p", true)], by decide⟩, [], false⟩]⟩
    s.rows ≠ [] ∧ s.Rectangular ∧ (∀ head ∈ s.headers, ∀ code ∈ codes, ¬ code <:+: head.toList) ∧
      ∃ ws records painted,
        s.box true = .ok (String.ofList (['\n'].intercalate painted)) ∧
        s.Boxed ws records ∧ s.Painted ws records painted ∧
        deleteCodes (['\n'].intercalate painted) =
          ("+------+-------+\n| p    | p\n&   |\n+------+-------+\n" ++
            "| true | false |\n+------+-------+").toList := by
  intro s
  have hrows : s.rows ≠ [] := List.cons_ne_nil _ _
  have hcells : s.Rectangular := List.forall_mem_singleton.mpr rfl
  have hheads : ∀ head ∈ s.headers, ∀ code ∈ codes, ¬ code <:+: head.toList := by decide
  obtain ⟨ws, records, painted, hplain, hcolor, hboxed, hpainted, hdelete⟩ :=
    box_layout s hrows hcells
  have hshown : s.box false = .ok ("+------+-------+\n| p    | p\n&   |\n+------+-------+\n" ++
      "| true | false |\n+------+-------+") := by
    decide
  refine ⟨hrows, hcells, hheads, ws, records, painted, hcolor, hboxed, hpainted, ?_⟩
  rw [hdelete hheads, ← Except.ok.inj (hplain.symm.trans hshown), String.toList_ofList]

end Sheet

end TruthTables
