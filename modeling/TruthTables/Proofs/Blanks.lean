import Mathlib.Data.List.DropRight
import Mathlib.Data.List.TakeWhile
import TruthTables.Proofs.RoundTrip
import TruthTables.Text.Blank

/-!
# Blanks around a formula

Two notions of white space meet at the ends of a text: the blanks that are cut off, and the spacing
that a formula may contain anywhere.  There are blanks that are no spacing, but no token has one, so
they do not occur in a text that is a formula (`isSpacing_of_isBlank`).  There cutting blanks off
takes only spacing away, and the text stands for the same formula (`parse_strip`).  Whatever the
text is, none of them is left at an end of it (`trimmed_stripChars`).
-/

namespace TruthTables

namespace Text

/-! ### Blanks are no letters or digits -/

def CodeRange.disjoint (rs qs : List CodeRange) : Bool :=
  rs.all fun r => qs.all fun q => decide (r.last < q.first) || decide (q.last < r.first)

theorem CodeRange.not_anyHolds_of_disjoint {rs qs : List CodeRange} (h : disjoint rs qs) {c : Char}
    (hc : anyHolds rs c) : ¬ anyHolds qs c := by
  rw [anyHolds_iff] at hc ⊢
  obtain ⟨r, hr, hfirst, hlast⟩ := hc
  rintro ⟨q, hq, hfirst', hlast'⟩
  have hapart := List.all_eq_true.mp (List.all_eq_true.mp h r hr) q hq
  rw [Bool.or_eq_true, decide_eq_true_eq, decide_eq_true_eq] at hapart
  omega

theorem le_toNat_of_isAlphanum {c : Char} (h : c.isAlphanum) : 48 ≤ c.toNat := by
  have hranges : (decide ('A'.val ≤ c.val ∧ c.val ≤ 'Z'.val) ||
      decide ('a'.val ≤ c.val) && decide (c.val ≤ 'z'.val) ||
      decide ('0'.val ≤ c.val) && decide (c.val ≤ '9'.val)) = true := h
  simp only [Bool.or_eq_true, Bool.and_eq_true, decide_eq_true_eq,
    UInt32.le_iff_toNat_le] at hranges
  rcases hranges with (⟨h, -⟩ | ⟨h, -⟩) | ⟨h, -⟩
  · exact le_trans (by decide) h
  · exact le_trans (by decide) h
  · exact h

theorem not_isAlphanumeric_of_isBlank {c : Char} (h : isBlank c) : isAlphanumeric c = false := by
  rw [isAlphanumeric]
  split
  next hlt =>
    have hends : ∀ r ∈ blankRanges, r.last < 48 ∨ 128 ≤ r.first := by decide
    obtain ⟨r, hr, hfirst, hlast⟩ := CodeRange.anyHolds_iff.mp h
    refine Bool.eq_false_iff.mpr fun halphanum => ?_
    have hle := le_toNat_of_isAlphanum halphanum
    have hend := hends r hr
    omega
  next =>
    have hdisjoint : CodeRange.disjoint blankRanges alphanumericRanges := by decide +kernel
    exact Bool.eq_false_iff.mpr (CodeRange.not_anyHolds_of_disjoint hdisjoint h)

/-! ### Cutting off -/

theorem filter_dropWhile_of_imp {α : Type} {p q : α → Bool} {l : List α}
    (h : ∀ a ∈ l, p a → q a = false) : (l.dropWhile p).filter q = l.filter q := by
  have hfront : (l.takeWhile p).filter q = [] := by
    refine List.filter_eq_nil_iff.mpr fun a ha => ?_
    rw [h a (List.takeWhile_subset p ha) (List.mem_takeWhile_imp ha)]
    exact Bool.false_ne_true
  calc (l.dropWhile p).filter q
      = (l.takeWhile p).filter q ++ (l.dropWhile p).filter q := by rw [hfront, List.nil_append]
    _ = l.filter q := by rw [← List.filter_append, List.takeWhile_append_dropWhile]

theorem filter_stripChars {q : Char → Bool} {cs : List Char}
    (h : ∀ c ∈ cs, isBlank c → q c = false) : (stripChars cs).filter q = cs.filter q := by
  have hback : ∀ c ∈ (cs.dropWhile isBlank).reverse, isBlank c → q c = false := fun c hc =>
    h c ((List.dropWhile_sublist isBlank).subset (List.mem_reverse.mp hc))
  rw [stripChars, List.filter_reverse, filter_dropWhile_of_imp hback, List.filter_reverse,
    List.reverse_reverse, filter_dropWhile_of_imp h]

structure Trimmed (cs : List Char) : Prop where
  head : ∀ c, cs.head? = some c → isBlank c = false
  last : ∀ c, cs.getLast? = some c → isBlank c = false

theorem not_isBlank_of_head?_dropWhile {cs : List Char} {c : Char}
    (h : (cs.dropWhile isBlank).head? = some c) : isBlank c = false := by
  have hhead := List.head?_dropWhile_not isBlank cs
  rwa [h] at hhead

/-- **What is left has no blank at either end.** -/
theorem trimmed_stripChars (cs : List Char) : Trimmed (stripChars cs) where
  head c h := by
    -- the blanks at the back are cut off last, and with them nothing at the front
    obtain ⟨back, hback⟩ := List.rdropWhile_prefix isBlank (cs.dropWhile isBlank)
    have hkept : (List.rdropWhile isBlank (cs.dropWhile isBlank)).head? = some c := h
    have hfront : (cs.dropWhile isBlank).head? = some c := by
      rw [← hback, List.head?_append, hkept, Option.some_or]
    exact not_isBlank_of_head?_dropWhile hfront
  last c h := by
    rw [stripChars, List.getLast?_reverse] at h
    exact not_isBlank_of_head?_dropWhile h

theorem Trimmed.stripChars_eq {cs : List Char} (h : Trimmed cs) : stripChars cs = cs := by
  have hfront : ∀ ds : List Char, (∀ c, ds.head? = some c → isBlank c = false) →
      ds.dropWhile isBlank = ds := by
    intro ds hds
    cases ds with
    | nil => rfl
    | cons c ds => exact List.dropWhile_cons_of_neg (Bool.eq_false_iff.mp (hds c rfl))
  have hback : ∀ c, cs.reverse.head? = some c → isBlank c = false := fun c hc =>
    h.last c (List.head?_reverse.symm.trans hc)
  rw [stripChars, hfront cs h.head, hfront _ hback, List.reverse_reverse]

theorem strip_strip (s : String) : strip (strip s) = strip s := by
  rw [strip, strip, String.toList_ofList, (trimmed_stripChars s.toList).stripChars_eq]

end Text

namespace Token

theorem not_isBlank_of_mem_lexeme {t : Token} (h : t.Spelled) :
    ∀ c ∈ t.lexeme, Text.isBlank c = false := by
  have hsigns : signs.all (!Text.isBlank ·) := by decide
  intro c hc
  rcases isAlphanumeric_or_mem_signs h c hc with hname | hsign
  · refine Bool.eq_false_iff.mpr fun hblank => ?_
    rw [Text.not_isAlphanumeric_of_isBlank hblank] at hname
    cases hname
  · simpa using List.all_eq_true.mp hsigns c hsign

end Token

namespace Formula

open Token

theorem isSpacing_or_mem_lexeme {s : String} {e : Formula} (h : parse s = .ok e) :
    ∀ c ∈ s.toList, isSpacing c ∨ ∃ t : Token, t.Spelled ∧ c ∈ t.lexeme := by
  obtain ⟨ts, hsep, hlexemes, -⟩ := parse_eq_ok_iff.mp h
  intro c hc
  cases hspacing : isSpacing c with
  | true => exact Or.inl rfl
  | false =>
    have hmem : c ∈ lexemes ts := by
      rw [hlexemes, dropSpacing, List.mem_filter]
      exact ⟨hc, by rw [hspacing]; rfl⟩
    obtain ⟨t, ht, hct⟩ := List.mem_flatMap.mp hmem
    exact Or.inr ⟨t, spelled_of_mem hsep t ht, hct⟩

/-- **In a text that is a formula every blank is spacing.** -/
theorem isSpacing_of_isBlank {s : String} {e : Formula} (h : parse s = .ok e) :
    ∀ c ∈ s.toList, Text.isBlank c → isSpacing c := by
  intro c hc hblank
  rcases isSpacing_or_mem_lexeme h c hc with hspacing | ⟨t, ht, hct⟩
  · exact hspacing
  · rw [not_isBlank_of_mem_lexeme ht c hct] at hblank
    cases hblank

theorem dropSpacing_strip {s : String} {e : Formula} (h : parse s = .ok e) :
    dropSpacing (Text.strip s).toList = dropSpacing s.toList := by
  rw [Text.strip, String.toList_ofList]
  refine Text.filter_stripChars fun c hc hblank => ?_
  rw [isSpacing_of_isBlank h c hc hblank]
  rfl

/-- **Blanks around a formula may be cut off.** -/
theorem parse_strip {s : String} {e : Formula} (h : parse s = .ok e) :
    parse (Text.strip s) = .ok e := by
  rw [parse_eq_outcome, dropSpacing_strip h, ← parse_eq_outcome, h]

end Formula

end TruthTables
