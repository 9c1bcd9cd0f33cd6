import Mathlib.Data.List.Forall2
import TruthTables.Proofs.Records

/-!
# The layout of a box

A box loses no cell.  Every width is the greatest length in its column (`getElem?_widths`), so that
all records have the length of the rule, and a record that is cut below the crossings of the rule
falls into its cells, each with the blanks around it (`cut_fence`).  The records are told by their
number and length and not by line ends, for a head may hold a line end.
-/

namespace TruthTables

namespace Sheet

def column (s : Sheet) (i : Nat) : List String :=
  (s.headers :: s.body).filterMap fun texts => texts[i]?

namespace Box

/-! ### Widths -/

section Widths

variable {headers cells : List String} {body : List (List String)} {ws : List Nat}

def widen (ws : List Nat) (cells : List String) : List Nat :=
  ws.zipWith (fun w cell => max w cell.length) cells

theorem widths_eq (headers : List String) (body : List (List String)) :
    widths headers body = body.foldl widen (headers.map String.length) := rfl

theorem length_widen (h : cells.length = ws.length) : (widen ws cells).length = ws.length := by
  rw [widen, List.length_zipWith, h, Nat.min_self]

theorem length_foldl_widen (h : ∀ cells ∈ body, cells.length = ws.length) :
    (body.foldl widen ws).length = ws.length := by
  induction body generalizing ws with
  | nil => rfl
  | cons cells body ih =>
    rw [List.forall_mem_cons] at h
    rw [List.foldl_cons, ih (by rw [length_widen h.1]; exact h.2), length_widen h.1]

theorem getElem?_foldl_widen (h : ∀ cells ∈ body, cells.length = ws.length) (i : Nat) :
    (body.foldl widen ws)[i]? =
      ws[i]?.map fun w =>
        ((body.filterMap fun cells => cells[i]?).map String.length).foldl max w := by
  induction body generalizing ws with
  | nil => exact (Option.map_id' ..).symm
  | cons cells body ih =>
    rw [List.forall_mem_cons] at h
    rw [List.foldl_cons, ih (by rw [length_widen h.1]; exact h.2), widen, List.getElem?_zipWith]
    by_cases hi : i < ws.length
    · obtain ⟨w, hw⟩ : ∃ w, ws[i]? = some w := ⟨_, List.getElem?_eq_getElem hi⟩
      obtain ⟨cell, hcell⟩ : ∃ cell, cells[i]? = some cell :=
        ⟨_, List.getElem?_eq_getElem (by rwa [h.1])⟩
      simp only [hw, hcell, List.filterMap_cons]
      rfl
    · rw [List.getElem?_eq_none (Nat.le_of_not_lt hi)]
      rfl

theorem length_widths (h : ∀ cells ∈ body, cells.length = headers.length) :
    (widths headers body).length = headers.length := by
  rw [widths_eq, length_foldl_widen (by simpa using h), List.length_map]

/-- **A width is the greatest length in its column.** -/
theorem getElem?_widths (h : ∀ cells ∈ body, cells.length = headers.length) (i : Nat) :
    (widths headers body)[i]? =
      (((headers :: body).filterMap fun texts => texts[i]?).map String.length).max? := by
  rw [widths_eq, getElem?_foldl_widen (by simpa using h), List.getElem?_map, Option.map_map]
  cases hi : headers[i]? with
  | none =>
    have hnone : ∀ texts ∈ headers :: body, texts[i]? = none := by
      have hle := List.getElem?_eq_none_iff.mp hi
      refine List.forall_mem_cons.mpr ⟨hi, fun cells hcells => ?_⟩
      exact List.getElem?_eq_none (by rwa [h cells hcells])
    rw [List.filterMap_eq_nil_iff.mpr hnone]
    rfl
  | some header =>
    simp only [hi, List.filterMap_cons]
    rfl

def Fits (ws : List Nat) (texts : List String) : Prop :=
  List.Forall₂ (fun w text => text.length ≤ w) ws texts

/-- **The heads and the cells of every row fit the widths.** -/
theorem fits_widths (h : ∀ cells ∈ body, cells.length = headers.length) {texts : List String}
    (htexts : texts ∈ headers :: body) : Fits (widths headers body) texts := by
  have hlength : texts.length = headers.length := by
    rcases List.mem_cons.mp htexts with rfl | hbody
    · rfl
    · exact h texts hbody
  refine List.forall₂_iff_get.mpr ⟨by rw [length_widths h, hlength], fun i hw htext => ?_⟩
  have hmax := getElem?_widths h i
  rw [List.getElem?_eq_getElem hw, eq_comm, List.max?_eq_some_iff] at hmax
  exact hmax.2 _ (List.mem_map_of_mem
    (List.mem_filterMap.mpr ⟨texts, htexts, List.getElem?_eq_getElem htext⟩))

end Widths

/-! ### Records -/

section Records

/-- Pieces with a bar in front of each and one at the end. -/
def fence (bar : Char) (pieces : List (List Char)) : List Char :=
  pieces.flatMap (bar :: ·) ++ [bar]

/-- The parts of a record below the places where the rule has no crossing. -/
def cut (rule record : List Char) : List (List Char) :=
  ((rule.zip record).splitOnP fun p => p.1 == '+').map fun part => part.map Prod.snd

variable {ws : List Nat} {texts : List String} {pieces : List (List Char)} {color : Bool}
  {bar : Char}

theorem fence_cons (bar : Char) (piece : List Char) (pieces : List (List Char)) :
    fence bar (piece :: pieces) = bar :: (piece ++ fence bar pieces) := by
  rw [fence, List.flatMap_cons, List.append_assoc]
  rfl

theorem intercalate_eq_fence (h : pieces ≠ []) :
    bar :: ([bar].intercalate pieces ++ [bar]) = fence bar pieces := by
  induction pieces with
  | nil => exact absurd rfl h
  | cons piece pieces ih =>
    cases pieces with
    | nil => simp [fence]
    | cons next rest =>
      rw [List.intercalate_cons_cons, fence_cons, ← ih (List.cons_ne_nil _ _)]
      simp

theorem length_fence_congr {above below : List (List Char)}
    (h : List.Forall₂ (fun as bs => as.length = bs.length ∧ '+' ∉ as) above below) :
    (fence '+' above).length = (fence bar below).length := by
  induction h with
  | nil => rfl
  | cons hhead _ ih =>
    rw [fence_cons, fence_cons, List.length_cons, List.length_cons, List.length_append,
      List.length_append, hhead.1, ih]

theorem exists_fence_eq (bar : Char) (pieces : List (List Char)) :
    ∃ cs, fence bar pieces = bar :: cs := by
  cases pieces with
  | nil => exact ⟨[], rfl⟩
  | cons piece pieces => exact ⟨_, fence_cons bar piece pieces⟩

theorem cut_plus (c : Char) (cs ds : List Char) : cut ('+' :: cs) (c :: ds) = [] :: cut cs ds := by
  simp [cut, List.splitOnP_cons_eq_if_modifyHead]

theorem cut_append {as bs : List Char} (hlength : as.length = bs.length) (hplus : '+' ∉ as)
    (c : Char) (cs ds : List Char) :
    cut (as ++ '+' :: cs) (bs ++ c :: ds) = bs :: cut cs ds := by
  have hno : ∀ p ∈ as.zip bs, (p.1 == '+') = false := by
    intro p hp
    exact beq_eq_false_iff_ne.mpr fun heq => hplus (heq ▸ (List.of_mem_zip hp).1)
  rw [cut, List.zip_append hlength, List.zip_cons_cons,
    List.splitOnP_append_cons_of_forall_mem hno _ (beq_self_eq_true '+'), List.map_cons,
    List.map_snd_zip (Nat.le_of_eq hlength.symm)]
  rfl

/-- **A fence is cut into its pieces** below a fence of the same spacing. -/
theorem cut_fence {above below : List (List Char)}
    (h : List.Forall₂ (fun as bs => as.length = bs.length ∧ '+' ∉ as) above below) :
    cut (fence '+' above) (fence bar below) = [] :: (below ++ [[]]) := by
  induction h with
  | nil => exact cut_plus bar [] []
  | @cons as bs above below hhead _ ih =>
    obtain ⟨cs, hcs⟩ := exists_fence_eq '+' above
    obtain ⟨ds, hds⟩ := exists_fence_eq bar below
    rw [hcs, hds, cut_plus] at ih
    rw [fence_cons, fence_cons, hcs, hds, cut_plus, cut_append hhead.1 hhead.2,
      List.tail_eq_of_cons_eq ih]
    rfl

/-! ### Lines -/

def framed (color : Bool) (width : Nat) (s : String) : List Char :=
  ' ' :: (cell color width s ++ [' '])

def padded (width : Nat) (s : String) : List Char :=
  ' ' :: (s.toList ++ List.replicate (width - s.length) ' ' ++ [' '])

def bars (filled : List (List Char)) : List Char :=
  ['|', ' '] ++ [' ', '|', ' '].intercalate filled ++ [' ', '|']

theorem line_eq_bars (color : Bool) (ws : List Nat) (texts : List String) :
    line color ws texts = bars (ws.zipWith (cell color) texts) := rfl

theorem bars_eq_fence {filled : List (List Char)} (h : filled ≠ []) :
    bars filled = fence '|' (filled.map fun cs => ' ' :: (cs ++ [' '])) := by
  induction filled with
  | nil => exact absurd rfl h
  | cons cs filled ih =>
    cases filled with
    | nil => simp [bars, fence]
    | cons next rest =>
      rw [List.map_cons, fence_cons, ← ih (List.cons_ne_nil _ _), bars, bars,
        List.intercalate_cons_cons]
      simp

theorem zipWith_ne_nil {α β γ : Type} {f : α → β → γ} {xs : List α} {ys : List β}
    (hlength : xs.length = ys.length) (h : ys ≠ []) : xs.zipWith f ys ≠ [] := by
  rw [← List.length_pos_iff] at h ⊢
  rwa [List.length_zipWith, hlength, Nat.min_self]

theorem line_eq_fence (hlength : ws.length = texts.length) (h : texts ≠ []) :
    line color ws texts = fence '|' (ws.zipWith (framed color) texts) := by
  rw [line_eq_bars, bars_eq_fence (zipWith_ne_nil hlength h), List.map_zipWith]
  rfl

theorem rule_eq_fence (h : ws ≠ []) :
    rule ws = fence '+' (ws.map fun w => List.replicate (w + 2) '-') :=
  intercalate_eq_fence fun hnil => h (List.map_eq_nil_iff.mp hnil)

theorem length_fill {w : Nat} {s : String} (h : s.length ≤ w) : (fill w s).length = w := by
  rw [fill, List.length_append, List.length_replicate, String.length_toList]
  omega

theorem Fits.forall₂_pieces (h : Fits ws texts) :
    List.Forall₂ (fun as bs => as.length = bs.length ∧ '+' ∉ as)
      (ws.map fun w => List.replicate (w + 2) '-') (ws.zipWith (framed false) texts) := by
  induction h with
  | nil => exact .nil
  | @cons w text ws texts hle _ ih =>
    refine .cons ⟨?_, ?_⟩ ih
    · have hfill : (cell false w text).length = w := length_fill hle
      rw [List.length_replicate, framed, List.length_cons, List.length_append, hfill]
      rfl
    · intro hmem
      have hdash := List.eq_of_mem_replicate hmem
      cases hdash

theorem Fits.ne_nil (h : Fits ws texts) (hne : texts ≠ []) : ws ≠ [] := by
  rintro rfl
  exact hne (List.forall₂_nil_left_iff.mp h)

/-- **A line is cut into its cells.** -/
theorem Fits.cut_line (h : Fits ws texts) (hne : texts ≠ []) :
    cut (rule ws) (line false ws texts) = [] :: (ws.zipWith padded texts ++ [[]]) := by
  rw [rule_eq_fence (h.ne_nil hne), line_eq_fence h.length_eq hne]
  exact cut_fence h.forall₂_pieces

theorem Fits.length_line (h : Fits ws texts) (hne : texts ≠ []) :
    (line false ws texts).length = (rule ws).length := by
  rw [rule_eq_fence (h.ne_nil hne), line_eq_fence h.length_eq hne]
  exact (length_fence_congr h.forall₂_pieces).symm

def firstLine (cs : List Char) : List Char := cs.takeWhile (· != '\n')

theorem firstLine_intercalate {first : List Char} {rest : List (List Char)} (h : '\n' ∉ first)
    (hrest : rest ≠ []) : firstLine (['\n'].intercalate (first :: rest)) = first := by
  obtain ⟨second, others, rfl⟩ := List.exists_cons_of_ne_nil hrest
  have hfirst : ∀ c ∈ first, (c != '\n') = true := by
    intro c hc
    exact bne_iff_ne.mpr fun heq => h (heq ▸ hc)
  rw [List.intercalate_cons_cons, List.append_assoc, firstLine, List.takeWhile_append_of_pos hfirst]
  exact List.append_nil _

theorem mem_rule {c : Char} (hws : ws ≠ []) (h : c ∈ rule ws) : c = '+' ∨ c = '-' := by
  rw [rule_eq_fence hws, fence, List.mem_append, List.mem_flatMap] at h
  rcases h with ⟨piece, hpiece, hc⟩ | hc
  · obtain ⟨w, -, rfl⟩ := List.mem_map.mp hpiece
    exact (List.mem_cons.mp hc).imp_right List.eq_of_mem_replicate
  · exact Or.inl (List.mem_singleton.mp hc)

end Records

end Box

/-! ### Boxes -/

open Box

def Rectangular (s : Sheet) : Prop :=
  ∀ r ∈ s.rows, r.cells.length = s.headers.length

/-- What the records of a box are, without colours.  The widths are `ws`. -/
structure Boxed (s : Sheet) (ws : List Nat) (records : List (List Char)) : Prop where
  /-- A width is the greatest length in its column. -/
  width : ∀ i, ws[i]? = ((s.column i).map String.length).max?
  count : records.length = s.rows.length + 4
  /-- All records have the length of the first line. -/
  length : ∀ record ∈ records,
    record.length = (firstLine (['\n'].intercalate records)).length
  /-- The same rule stands above and below the heads and at the end. -/
  rule : ∀ k, k = 0 ∨ k = 2 ∨ k = s.rows.length + 3 →
    records[k]? = some (firstLine (['\n'].intercalate records))
  marks : ∀ c ∈ firstLine (['\n'].intercalate records), c = '+' ∨ c = '-'
  head : ∃ record, records[1]? = some record ∧
    cut (firstLine (['\n'].intercalate records)) record =
      [] :: (ws.zipWith padded s.headers ++ [[]])
  row : ∀ k r, s.rows[k]? = some r → ∃ record, records[k + 3]? = some record ∧
    cut (firstLine (['\n'].intercalate records)) record =
      [] :: (ws.zipWith padded (r.cells.map word) ++ [[]])

variable {s : Sheet} {color : Bool}

theorem Rectangular.length_eq (h : s.Rectangular) :
    ∀ cells ∈ s.body, cells.length = s.headers.length := by
  intro cells hcells
  obtain ⟨r, hr, rfl⟩ := List.mem_map.mp hcells
  rw [List.length_map]
  exact h r hr

theorem Rectangular.fits (h : s.Rectangular) {texts : List String}
    (htexts : texts ∈ s.headers :: s.body) : Fits (widths s.headers s.body) texts :=
  fits_widths h.length_eq htexts

theorem Rectangular.widths_ne_nil (h : s.Rectangular) : widths s.headers s.body ≠ [] :=
  (h.fits List.mem_cons_self).ne_nil s.headers_ne_nil

/-- **No row is too short**, so that the box can be shown. -/
theorem Rectangular.box_eq (h : s.Rectangular) (hrows : s.rows ≠ []) (color : Bool) :
    s.box color = .ok (String.ofList (['\n'].intercalate (lines color s.headers s.body))) := by
  have hshort : (s.body.any fun cells => cells.length < s.headers.length) = false := by
    refine List.any_eq_false.mpr fun cells hcells => ?_
    rw [h.length_eq cells hcells]
    simp
  rw [box, if_neg (by simpa using hrows), hshort]
  rfl

theorem length_lines (s : Sheet) (color : Bool) :
    (lines color s.headers s.body).length = s.rows.length + 4 := by
  simp [lines, body]

theorem getElem?_lines_row {k : Nat} {r : Row} (h : s.rows[k]? = some r) :
    (lines color s.headers s.body)[k + 3]? =
      some (line color (widths s.headers s.body) (r.cells.map word)) := by
  have hlt : k < s.rows.length := (List.getElem?_eq_some_iff.mp h).1
  have hbody : (s.body.map (line color (widths s.headers s.body)))[k]? =
      some (line color (widths s.headers s.body) (r.cells.map word)) := by
    rw [body, List.map_map, List.getElem?_map, h]
    rfl
  rw [lines, List.getElem?_append_left (by simp [body]; omega),
    List.getElem?_append_right (Nat.le_add_left 3 k), ← hbody]
  rfl

theorem getElem?_lines_last (s : Sheet) (color : Bool) :
    (lines color s.headers s.body)[s.rows.length + 3]? = some (rule (widths s.headers s.body)) := by
  have hlength : ([rule (widths s.headers s.body), line false (widths s.headers s.body) s.headers,
      rule (widths s.headers s.body)] ++
        s.body.map (line color (widths s.headers s.body))).length = s.rows.length + 3 := by
    simp [body]
  rw [lines, ← hlength, List.getElem?_concat_length]

/-- The first line of a box is its rule, whatever line ends the heads hold. -/
theorem Rectangular.firstLine_eq (h : s.Rectangular) (color : Bool) :
    firstLine (['\n'].intercalate (lines color s.headers s.body)) =
      rule (widths s.headers s.body) := by
  refine firstLine_intercalate (fun hfeed => ?_) (List.cons_ne_nil _ _)
  rcases mem_rule h.widths_ne_nil hfeed with heq | heq <;> cases heq

theorem Rectangular.length_line (h : s.Rectangular) {record : List Char}
    (hrecord : record ∈ lines false s.headers s.body) :
    record.length = (rule (widths s.headers s.body)).length := by
  have hline : ∀ texts ∈ s.headers :: s.body,
      (line false (widths s.headers s.body) texts).length =
        (rule (widths s.headers s.body)).length := by
    intro texts htexts
    refine (h.fits htexts).length_line ?_
    rcases List.mem_cons.mp htexts with rfl | hbody
    · exact s.headers_ne_nil
    · exact ne_nil_of_mem_body hbody
  simp only [lines, List.cons_append, List.nil_append, List.mem_cons, List.mem_append,
    List.mem_map, List.not_mem_nil, or_false] at hrecord
  rcases hrecord with rfl | rfl | rfl | ⟨cells, hcells, rfl⟩ | rfl
  · rfl
  · exact hline _ List.mem_cons_self
  · rfl
  · exact hline _ (List.mem_cons_of_mem _ hcells)
  · rfl

/-- **The lines of a box without colours.** -/
theorem Rectangular.boxed (h : s.Rectangular) :
    s.Boxed (widths s.headers s.body) (lines false s.headers s.body) where
  width := getElem?_widths h.length_eq
  count := length_lines s false
  length record hrecord := by rw [h.firstLine_eq, h.length_line hrecord]
  rule k hk := by
    rw [h.firstLine_eq]
    rcases hk with rfl | rfl | rfl
    · rfl
    · rfl
    · exact getElem?_lines_last s false
  marks c hc := by
    rw [h.firstLine_eq] at hc
    exact mem_rule h.widths_ne_nil hc
  head := by
    rw [h.firstLine_eq]
    exact ⟨_, rfl, (h.fits List.mem_cons_self).cut_line s.headers_ne_nil⟩
  row k r hk := by
    have hbody : r.cells.map word ∈ s.body :=
      List.mem_map_of_mem (List.mem_of_getElem? hk)
    rw [h.firstLine_eq]
    exact ⟨_, getElem?_lines_row hk,
      (h.fits (List.mem_cons_of_mem _ hbody)).cut_line (ne_nil_of_mem_body hbody)⟩

end Sheet

end TruthTables
